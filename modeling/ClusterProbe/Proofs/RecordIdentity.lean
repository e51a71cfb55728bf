/-
  ClusterProbe.Proofs.RecordIdentity — which gateways share a DNS record.

  A record's name ends in `-hash-wildcard`, and the hash is free of dashes, so that the
  last dash but one is where the gateway's name ends, whatever that name contains. The
  hash in turn is a number in decimal, respelled digit by digit; ten digits in a row keep
  their difference modulo the size of the alphabet, so that the number is still there.

  - `hash_eq_iff`: two domains are told apart by the name just when their FNV-1a hashes
    differ.
  - `recordName_identifies`: two gateways share a record just when they agree on
    namespace, name and the hash of their domain; and what the domain depends on.
-/

import Mathlib.Data.List.Nodup
import ClusterProbe.RecordName

namespace ClusterProbe

namespace RecordName

/-! ## The respelled number -/

theorem respellChar_eq_get (c : Char) :
    respellChar c = alphabet.get ⟨c.toNat % alphabet.length, Nat.mod_lt _ (by decide)⟩ :=
  (List.getElem_eq_getD _).symm

/-- The codes of the ten digits follow each other, and the alphabet is longer than that. -/
theorem respellChar_inj {c d : Char} (hc : c.isDigit = true) (hd : d.isDigit = true)
    (h : respellChar c = respellChar d) : c = d := by
  have hnodup : alphabet.Nodup := by decide
  rw [respellChar_eq_get, respellChar_eq_get, List.Nodup.get_inj_iff hnodup, Fin.mk.injEq] at h
  have hlength : alphabet.length = 27 := by decide
  have hc' : 48 ≤ c.toNat ∧ c.toNat ≤ 57 := by simpa [Char.isDigit, UInt32.le_iff_toNat_le] using hc
  have hd' : 48 ≤ d.toNat ∧ d.toNat ≤ 57 := by simpa [Char.isDigit, UInt32.le_iff_toNat_le] using hd
  rw [hlength] at h
  apply Char.toNat_inj.mp
  omega

theorem respelled_inj {cs ds : List Char} (hcs : ∀ c ∈ cs, c.isDigit = true) (hds : ∀ d ∈ ds, d.isDigit = true)
    (h : cs.map respellChar = ds.map respellChar) : cs = ds := by
  induction cs generalizing ds with
  | nil =>
    cases ds with
    | nil => rfl
    | cons d ds => cases h
  | cons c cs ih =>
    cases ds with
    | nil => cases h
    | cons d ds =>
      rw [List.forall_mem_cons] at hcs hds
      rw [List.map_cons, List.map_cons, List.cons.injEq] at h
      rw [respellChar_inj hcs.1 hds.1 h.1, ih hcs.2 hds.2 h.2]

theorem toDigits_inj {m n : Nat} (h : Nat.toDigits 10 m = Nat.toDigits 10 n) : m = n := by
  have hread := congrArg (fun ds => Nat.ofDigitChars 10 ds 0) h
  simpa only [Nat.ofDigitChars_ten_toDigits] using hread

/-- Nothing of the FNV-1a hash is lost in the name. -/
theorem hash_eq_iff (s t : String) : hash s = hash t ↔ fnv1a (Text.utf8 s) = fnv1a (Text.utf8 t) := by
  constructor
  · intro h
    have hdigits : ∀ n, ∀ c ∈ Nat.toDigits 10 n, c.isDigit = true :=
      fun n c hc => Nat.isDigit_of_mem_toDigits (by decide) (by decide) hc
    have hspelled := respelled_inj (hdigits _) (hdigits _) (String.ofList_injective h)
    exact UInt32.toNat_inj.mp (toDigits_inj hspelled)
  · intro h
    rw [hash, h, hash]

theorem dash_not_mem_hash (domain : String) : '-' ∉ (hash domain).toList := by
  intro h
  rw [hash, String.toList_ofList, List.mem_map] at h
  obtain ⟨c, -, hc⟩ := h
  have hmem : respellChar c ∈ alphabet := by
    rw [respellChar_eq_get]
    exact List.get_mem _ _
  rw [hc] at hmem
  revert hmem
  decide

/-! ## Taking a name apart -/

/-- A list is cut at the last occurrence of an element in one way only. -/
theorem cut_at_last {x : Char} {as bs as' bs' : List Char} (hbs : x ∉ bs) (hbs' : x ∉ bs')
    (h : as ++ x :: bs = as' ++ x :: bs') : as = as' ∧ bs = bs' := by
  rcases List.append_eq_append_iff.mp h with ⟨mid, rfl, hmid⟩ | ⟨mid, rfl, hmid⟩
  · cases mid with
    | nil => exact ⟨by simp, (List.cons.inj hmid).2⟩
    | cons y mid =>
      refine absurd ?_ hbs
      rw [(List.cons.inj hmid).2]
      simp
  · cases mid with
    | nil => exact ⟨by simp, (List.cons.inj hmid).2.symm⟩
    | cons y mid =>
      refine absurd ?_ hbs'
      rw [(List.cons.inj hmid).2]
      simp

/-- What a gateway's name contains, dashes included, cannot be taken for the hash. -/
theorem name_inj {name name' s s' : String}
    (h : name ++ "-" ++ hash s ++ "-wildcard" = name' ++ "-" ++ hash s' ++ "-wildcard") :
    name = name' ∧ hash s = hash s' := by
  have hlist : name.toList ++ '-' :: (hash s).toList = name'.toList ++ '-' :: (hash s').toList := by
    have hall := congrArg String.toList h
    simp only [String.toList_append, List.append_left_inj] at hall
    simpa using hall
  obtain ⟨hname, hhash⟩ := cut_at_last (dash_not_mem_hash s) (dash_not_mem_hash s') hlist
  exact ⟨String.toList_injective hname, String.toList_injective hhash⟩

end RecordName

/-! ## Gateways -/

namespace Gateway

/-- The hostname of the first listener, be it empty. -/
def firstHostname? (g : Gateway) : Option String := g.spec.listeners.head?.bind (·.hostname)

theorem firstListenerHostname?_eq (g : Gateway) : g.firstListenerHostname? = g.firstHostname?.filter (· ≠ "") := rfl

theorem listenerDomain_of_hostname {g : Gateway} {h : String} (hg : g.firstHostname? = some h) (hh : h ≠ "") :
    g.listenerDomain = if h.toList.getLast? = some '.' then h else h ++ "." := by
  have hfirst : g.firstListenerHostname? = some h := by simp [firstListenerHostname?_eq, hg, hh]
  rw [listenerDomain, hfirst]

theorem listenerDomain_congr {g g' : Gateway} (h : g.firstHostname? = g'.firstHostname?) :
    g.listenerDomain = g'.listenerDomain := by
  rw [listenerDomain, listenerDomain, firstListenerHostname?_eq, firstListenerHostname?_eq, h]

/-- The domain of a hostname is never empty: at the least it has its dot. -/
theorem listenerDomain_eq_empty_iff (g : Gateway) :
    g.listenerDomain = "" ↔ g.firstHostname? = none ∨ g.firstHostname? = some "" := by
  rcases hg : g.firstHostname? with _ | h
  · simp [listenerDomain, firstListenerHostname?_eq, hg]
  · by_cases hh : h = ""
    · have hfirst : g.firstListenerHostname? = none := by simp [firstListenerHostname?_eq, hg, hh]
      simp [listenerDomain, hfirst, hh]
    · rw [listenerDomain_of_hostname hg hh]
      split <;> simp [hh]

theorem recordName_eq_ok_iff {g : Gateway} {ns record : String} : g.recordName = .ok (ns, record) ↔
    ∃ name, g.metadata.name = some name ∧ g.metadata.namespace = some ns ∧
      record = name ++ "-" ++ RecordName.hash g.listenerDomain ++ "-wildcard" := by
  unfold recordName reference
  cases g.metadata.name <;> cases g.metadata.namespace <;> simp [eq_comm, and_comm]

theorem recordName_congr {g g' : Gateway} (hname : g.metadata.name = g'.metadata.name)
    (hns : g.metadata.namespace = g'.metadata.namespace) (hdomain : g.listenerDomain = g'.listenerDomain) :
    g.recordName = g'.recordName := by
  have href : g.reference = g'.reference := by rw [reference, hname, hns, reference]
  rw [recordName, href, hdomain, recordName]

/-- Two gateways with a record have the same one just when they agree on namespace, name and the hash of their
domain. The domain is that of the first listener's hostname and of nothing else, with or without its last dot; it is
empty without a listener, without a hostname and for an empty one. -/
theorem recordName_identifies (g g' : Gateway) :
    (∀ r r', g.recordName = .ok r → g'.recordName = .ok r' →
      (r = r' ↔ g.metadata.namespace = g'.metadata.namespace ∧ g.metadata.name = g'.metadata.name ∧
        RecordName.fnv1a (Text.utf8 g.listenerDomain) = RecordName.fnv1a (Text.utf8 g'.listenerDomain))) ∧
    (g.firstHostname? = g'.firstHostname? → g.listenerDomain = g'.listenerDomain) ∧
    (∀ h, h ≠ "" → h.toList.getLast? ≠ some '.' → g.firstHostname? = some h → g'.firstHostname? = some (h ++ ".") →
      g.listenerDomain = h ++ "." ∧ g'.listenerDomain = h ++ "." ∧
        (g.metadata.name = g'.metadata.name → g.metadata.namespace = g'.metadata.namespace →
          g.recordName = g'.recordName)) ∧
    (g.listenerDomain = "" ↔ g.spec.listeners = [] ∨
      ∃ l ls, g.spec.listeners = l :: ls ∧ (l.hostname = none ∨ l.hostname = some "")) := by
  refine ⟨?_, listenerDomain_congr, ?_, ?_⟩
  · rintro ⟨ns, record⟩ ⟨ns', record'⟩ hg hg'
    obtain ⟨name, hname, hns, rfl⟩ := recordName_eq_ok_iff.mp hg
    obtain ⟨name', hname', hns', rfl⟩ := recordName_eq_ok_iff.mp hg'
    rw [hname, hname', hns, hns', Option.some.injEq, Option.some.injEq, Prod.mk.injEq, ← RecordName.hash_eq_iff]
    constructor
    · rintro ⟨rfl, hrecord⟩
      exact ⟨rfl, RecordName.name_inj hrecord⟩
    · rintro ⟨rfl, rfl, hhash⟩
      rw [hhash]
      exact ⟨rfl, rfl⟩
  · intro h hh hdot hg hg'
    have hdotted : (h ++ ".").toList.getLast? = some '.' := by simp
    have hdomain : g.listenerDomain = h ++ "." := by rw [listenerDomain_of_hostname hg hh, if_neg hdot]
    have hdomain' : g'.listenerDomain = h ++ "." := by
      rw [listenerDomain_of_hostname hg' (by simp [hh]), if_pos hdotted]
    refine ⟨hdomain, hdomain', fun hname hns => ?_⟩
    exact recordName_congr hname hns (hdomain.trans hdomain'.symm)
  · rw [listenerDomain_eq_empty_iff, firstHostname?]
    cases g.spec.listeners <;> simp

/-- A gateway of this name in the namespace `ns` with one listener. -/
def listening (name hostname : String) : Gateway :=
  ⟨{ name := some name, «namespace» := some "ns" }, ⟨"class", [⟨"http", some hostname, 80, "HTTP", none⟩]⟩, none⟩

/-- The first two gateways differ in a dot and share their record; the third has the same domain and is named like the
end of that record, and has a record of its own. -/
theorem recordName_identifies_dotted :
    let g := listening "gw" "*.example.com"
    let dotted := listening "gw" "*.example.com."
    let other := listening "gw-7bdcfc8f68-wildcard" "*.example.com"
    ∃ r r', g.recordName = .ok r ∧ dotted.recordName = .ok r ∧ other.recordName = .ok r' ∧ r ≠ r' ∧
      g.listenerDomain = "*.example.com." ∧ dotted.listenerDomain = "*.example.com." ∧
      other.listenerDomain = g.listenerDomain := by
  intro g dotted other
  have hg : g.recordName = .ok ("ns", "gw-7bdcfc8f68-wildcard") := by decide +kernel
  have hother : other.recordName = .ok ("ns", "gw-7bdcfc8f68-wildcard-7bdcfc8f68-wildcard") := by decide +kernel
  obtain ⟨-, -, hdot, -⟩ := recordName_identifies g dotted
  obtain ⟨hdomain, hdomain', hrecord⟩ := hdot "*.example.com" (by decide) (by decide +kernel) rfl (by decide +kernel)
  obtain ⟨hidentified, hsame, -, -⟩ := recordName_identifies g other
  refine ⟨_, _, hg, (hrecord rfl rfl).symm.trans hg, hother, ?_, hdomain, hdomain', (hsame rfl).symm⟩
  intro h
  obtain ⟨-, hname, -⟩ := (hidentified _ _ hg hother).mp h
  revert hname
  decide

end Gateway

end ClusterProbe
