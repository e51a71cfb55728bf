/-
  ClusterProbe.Proofs.Variation — values that a reader cannot tell apart.

  A reader of a structure asks for members by name. It passes over those of other names,
  and does not see in which order they stand. What may vary in a value without its being
  noticed is said by a relation that follows the structure (`Variation`): a text or a map
  must be the same, a list is varied item by item, and of a structure the members of its
  own names stand in any order, each varied as its own value may be, while members of
  other names are of no account.

  - `Heeds`: a reader finds the same in two values of which the one varies the other.
    The rules go from the parts of a structure to the whole: `Heeds.items`,
    `Heeds.nullable`, and `Heeds.closed`, `Heeds.object`, `Heeds.opened` for the three
    ways to read one.
  - `Agrees.required` and the like: under each of its own names a structure finds the
    same in both.
-/

import Mathlib.Data.List.Nodup
import ClusterProbe.Proofs.Wire

namespace ClusterProbe.Json

variable {α : Type}

/-! ## What may vary -/

/-- The second value is the first one but for what its reader passes over. -/
abbrev Variation := Json → Json → Prop

/-- Nothing may vary. -/
def fixed : Variation := fun j j' => j = j'

/-- Each item may vary. -/
def items (V : Variation) : Variation
  | .array xs, .array ys => List.Forall₂ V xs ys
  | j, j' => j = j'

/-- The names of a structure, and how the value under each may vary. -/
abbrev Parts := List (String × Variation)

namespace Parts

/-- Parts of which nothing may vary. -/
def plain (names : List String) : Parts := names.map fun k => (k, fixed)

def names (ps : Parts) : List String := ps.map (·.1)

/-- The members of the structure's own names. -/
def known (ps : Parts) (ms : List (String × Json)) : List (String × Json) := ms.filter fun m => ps.names.contains m.1

/-- A member of the same name, its value varied. -/
def Member (ps : Parts) (m m' : String × Json) : Prop := m.1 = m'.1 ∧ ∀ V, (m.1, V) ∈ ps → V m.2 m'.2

/-- The same members, varied and in any order; members of unknown names are of no account. -/
def Members (ps : Parts) (ms ms' : List (String × Json)) : Prop :=
  ∃ varied, List.Forall₂ ps.Member (ps.known ms) varied ∧ varied.Perm (ps.known ms')

/-- The values of the parts in their order, varied. -/
def Positions : Parts → List Json → List Json → Prop
  | (_, V) :: ps, x :: xs, y :: ys => V x y ∧ Positions ps xs ys
  | _, xs, ys => xs = ys

/-- A structure may vary in its members; given as an array, in the values at their places. -/
def variation (ps : Parts) : Variation
  | .object ms, .object ms' => ps.Members ms ms'
  | .array xs, .array ys => ps.Positions xs ys
  | j, j' => j = j'

end Parts

/-- It is enough to vary the value as its one part says. -/
theorem Parts.Member.of_mem {ps : Parts} (hps : ps.names.Nodup) {k : String} {V : Variation} (hk : (k, V) ∈ ps)
    {x x' : Json} (h : V x x') : ps.Member (k, x) (k, x') := by
  refine ⟨rfl, fun W hW => ?_⟩
  obtain rfl : V = W := by
    have hkeys := List.inj_on_of_nodup_map hps hk hW rfl
    cases hkeys
    rfl
  exact h

/-- Where nothing else varies, the members of known names are the same in some order. -/
theorem Parts.Members.of_plain {ks : List String} {ms ms' : List (String × Json)}
    (h : ((Parts.plain ks).known ms).Perm ((Parts.plain ks).known ms')) : (Parts.plain ks).Members ms ms' := by
  refine ⟨_, List.forall₂_same.mpr fun m _ => ⟨rfl, fun V hV => ?_⟩, h⟩
  obtain ⟨k, -, hk⟩ := List.mem_map.mp hV
  cases hk
  exact rfl

/-! ## Readers -/

/-- The reader does not notice the variation. -/
structure Heeds (V : Variation) (read : Json → Option α) : Prop where
  null : ∀ {j j'}, V j j' → (j = .null ↔ j' = .null)
  same : ∀ {j j'}, j.hasUniqueNames = true → V j j' → read j = read j'

namespace Heeds

variable {V : Variation} {read : Json → Option α}

theorem fixed (read : Json → Option α) : Heeds Json.fixed read where
  null := by
    rintro j _ rfl
    rfl
  same := by
    rintro j _ - rfl
    rfl

theorem nullable (h : Heeds V read) : Heeds V (Json.nullable read) where
  null := h.null
  same {j j'} hj hV := by
    by_cases hnull : j = .null
    · rw [hnull, (h.null hV).mp hnull]
    · have hnull' : j' ≠ .null := fun hj' => hnull ((h.null hV).mpr hj')
      have hread : ∀ x : Json, x ≠ .null → Json.nullable read x = (read x).map some := by
        intro x hx
        cases x <;> first | rfl | exact absurd rfl hx
      rw [hread j hnull, hread j' hnull', h.same hj hV]

theorem items (h : Heeds V read) : Heeds (Json.items V) (list? read) where
  null {j j'} hV := by
    cases j <;> cases j' <;> simp_all [Json.items]
  same {j j'} hj hV := by
    have hsame : ∀ xs ys, List.Forall₂ V xs ys → hasUniqueNamesItems xs = true → xs.mapM read = ys.mapM read := by
      intro xs ys hxys
      induction hxys with
      | nil => exact fun _ => rfl
      | cons hxy _ ih =>
        intro hunique
        simp only [hasUniqueNamesItems, Bool.and_eq_true] at hunique
        rw [List.mapM_cons, List.mapM_cons, h.same hunique.1 hxy, ih hunique.2]
    unfold Json.items at hV
    split at hV
    · exact hsame _ _ hV hj
    · rw [hV]

end Heeds

/-! ## What stands under a name -/

/-- Under the name there is nothing in both, or one member in each, the one varying the other. -/
inductive Found (V : Variation) (k : String) : List (String × Json) → List (String × Json) → Prop
  | absent : Found V k [] []
  | present {x x' : Json} : x.hasUniqueNames = true → V x x' → Found V k [(k, x)] [(k, x')]

/-- Under each of the structure's names. -/
def Agrees (ps : Parts) (ms ms' : List (String × Json)) : Prop :=
  ∀ k V, (k, V) ∈ ps → Found V k (named k ms) (named k ms')

theorem lookup_eq_named (k : String) (ms : List (String × Json)) : ms.lookup k = (named k ms).head?.map (·.2) := by
  induction ms with
  | nil => rfl
  | cons m r ih =>
    obtain ⟨k', x⟩ := m
    by_cases hk : k' = k
    · simp [named, hk]
    · have hk' : (k == k') = false := beq_eq_false_iff_ne.mpr fun h => hk h.symm
      simpa [List.lookup_cons, named, List.filter_cons, hk, hk'] using ih

namespace Agrees

variable {ps : Parts} {ms ms' : List (String × Json)} {V : Variation} {read : Json → Option α}

theorem withDefault (h : Agrees ps ms ms') (hr : Heeds V read) {k : String} (hk : (k, V) ∈ ps) (d : α) :
    Json.withDefault d read k ms = Json.withDefault d read k ms' := by
  have hfound := h k V hk
  simp only [Json.withDefault, lookup_eq_named]
  generalize named k ms = ns at hfound
  generalize named k ms' = ns' at hfound
  cases hfound with
  | absent => rfl
  | present hx hV => exact hr.same hx hV

theorem optional (h : Agrees ps ms ms') (hr : Heeds V read) {k : String} (hk : (k, V) ∈ ps) :
    Json.optional read k ms = Json.optional read k ms' := h.withDefault hr.nullable hk none

theorem required (h : Agrees ps ms ms') (hr : Heeds V read) {k : String} (hk : (k, V) ∈ ps) :
    Json.required read k ms = Json.required read k ms' := by
  have hfound := h k V hk
  simp only [Json.required, lookup_eq_named]
  generalize named k ms = ns at hfound
  generalize named k ms' = ns' at hfound
  cases hfound with
  | absent => rfl
  | present hx hV => exact hr.same hx hV

theorem lastOf (h : Agrees ps ms ms') (hr : Heeds V read) {k : String} (hk : (k, V) ∈ ps) :
    Json.lastOf read k ms = Json.lastOf read k ms' := by
  have hfound := h k V hk
  unfold Json.lastOf
  generalize named k ms = ns at hfound
  generalize named k ms' = ns' at hfound
  cases hfound with
  | absent => rfl
  | present hx hV => rw [List.mapM_cons, List.mapM_cons, hr.nullable.same hx hV]

end Agrees

/-! ## Structures -/

theorem named_known {ps : Parts} {k : String} (hk : k ∈ ps.names) (ms : List (String × Json)) :
    named k (ps.known ms) = named k ms := by
  rw [named, named, Parts.known, List.filter_filter]
  apply List.filter_congr
  intro m _
  by_cases hm : m.1 = k
  · simp [hm, hk]
  · simp [hm]

/-- Where no name is given twice, a name has one member or none. -/
theorem named_of_nodup {ms : List (String × Json)} (h : (ms.map (·.1)).Nodup) (k : String) :
    named k ms = [] ∨ ∃ x, named k ms = [(k, x)] := by
  have hnames : ∀ m ∈ named k ms, m.1 = k := by
    intro m hm
    simpa using (List.mem_filter.mp hm).2
  have hnodup : ((named k ms).map (·.1)).Nodup := h.sublist (List.filter_sublist.map _)
  rcases hms : named k ms with _ | ⟨⟨k₁, x⟩, _ | ⟨⟨k₂, y⟩, r⟩⟩
  · exact .inl rfl
  · have hk : k₁ = k := hnames (k₁, x) (by simp [hms])
    exact .inr ⟨x, by rw [hk]⟩
  · have hk₁ : k₁ = k := hnames (k₁, x) (by simp [hms])
    have hk₂ : k₂ = k := hnames (k₂, y) (by simp [hms])
    simp [hms, hk₁, hk₂] at hnodup

theorem Parts.Members.agrees {ps : Parts} {ms ms' : List (String × Json)} (h : ps.Members ms ms')
    (hunique : (Json.object ms).hasUniqueNames = true) : Agrees ps ms ms' := by
  intro k V hk
  obtain ⟨varied, hvaried, hperm⟩ := h
  have hname : k ∈ ps.names := List.mem_map.mpr ⟨(k, V), hk, rfl⟩
  -- What stands under the name is varied and put into order for itself.
  have hvaried : List.Forall₂ ps.Member (named k ms) (named k varied) := by
    have hkeys : Relator.LiftFun ps.Member (· ↔ ·) (fun m => (m.1 == k) = true) fun m => (m.1 == k) = true := by
      intro m m' hm
      show (m.1 == k) = true ↔ (m'.1 == k) = true
      rw [hm.1]
    have hfilter := List.rel_filter hkeys hvaried
    rwa [← named, ← named, named_known hname] at hfilter
  have hperm : (named k varied).Perm (named k ms') := by
    have hfilter := hperm.filter (·.1 == k)
    rwa [← named, ← named, named_known hname] at hfilter
  simp only [hasUniqueNames, Bool.and_eq_true, decide_eq_true_eq] at hunique
  rcases named_of_nodup hunique.1 k with hnone | ⟨x, hone⟩
  · rw [hnone, List.forall₂_nil_left_iff] at hvaried
    rw [hvaried] at hperm
    rw [hnone, ← hperm.nil_eq]
    exact .absent
  · rw [hone, List.forall₂_cons_left_iff] at hvaried
    obtain ⟨⟨k', x'⟩, rest, ⟨hk', hV⟩, hrest, hvaried⟩ := hvaried
    obtain rfl : k = k' := hk'
    rw [List.forall₂_nil_left_iff.mp hrest] at hvaried
    rw [hvaried] at hperm
    have hx : ms.lookup k = some x := by rw [lookup_eq_named, hone]; rfl
    rw [hone, ← List.singleton_perm.mp hperm]
    exact .present (hasUniqueNames_of_lookup hunique.2 hx) (hV V hk)

theorem named_zip_of_not_mem {k : String} {ks : List String} (h : k ∉ ks) (xs : List Json) :
    named k (ks.zip xs) = [] := by
  rw [named, List.filter_eq_nil_iff]
  intro m hm hmk
  have hmem : m.1 ∈ ks := (List.of_mem_zip hm).1
  exact h (by rwa [← beq_iff_eq.mp hmk])

theorem Parts.Positions.agrees {ps : Parts} (hps : ps.names.Nodup) {xs ys : List Json} (h : ps.Positions xs ys)
    (hunique : hasUniqueNamesItems xs = true) : Agrees ps (ps.names.zip xs) (ps.names.zip ys) := by
  induction ps generalizing xs ys with
  | nil =>
    rintro k V ⟨⟩
  | cons p ps ih =>
    obtain ⟨k₀, V₀⟩ := p
    rw [Parts.names, List.map_cons, List.nodup_cons] at hps
    match xs, ys with
    | [], ys =>
      rw [← show [] = ys from h]
      intro k V hk
      simpa [named] using Found.absent
    | x :: xs, [] => cases (show x :: xs = [] from h)
    | x :: xs, y :: ys =>
      simp only [hasUniqueNamesItems, Bool.and_eq_true] at hunique
      have hrest := ih hps.2 h.2 hunique.2
      intro k V hk
      simp only [Parts.names, List.map_cons, List.zip_cons_cons]
      rcases List.mem_cons.mp hk with hk | hk
      · cases hk
        have hfirst : ∀ z zs, named k₀ ((k₀, z) :: (ps.map (·.1)).zip zs) = [(k₀, z)] := by
          intro z zs
          have hnone := named_zip_of_not_mem hps.1 zs
          simp only [named, List.filter_cons, beq_self_eq_true, if_true] at hnone ⊢
          rw [hnone]
        rw [hfirst, hfirst]
        exact .present hunique.1 h.1
      · have hne : (k₀ == k) = false := by
          rw [beq_eq_false_iff_ne]
          rintro rfl
          exact hps.1 (List.mem_map.mpr ⟨_, hk, rfl⟩)
        have hskip : ∀ z zs, named k ((k₀, z) :: zs) = named k zs := by
          intro z zs
          rw [named, List.filter_cons_of_neg (by rw [hne]; exact Bool.false_ne_true), named]
        rw [hskip, hskip]
        exact hrest k V hk

theorem Parts.Positions.length_eq {ps : Parts} {xs ys : List Json} (h : ps.Positions xs ys) :
    xs.length = ys.length := by
  induction ps generalizing xs ys with
  | nil => rw [show xs = ys from h]
  | cons p ps ih =>
    match xs, ys with
    | x :: xs, y :: ys => simpa using ih h.2
    | [], ys => rw [← show [] = ys from h]
    | x :: xs, [] => cases (show x :: xs = [] from h)

/-! ## The three ways to read a structure -/

/-- Both are read as members that agree, or neither is read. -/
def OpensAlike (ps : Parts) (opened : Json → Option (List (String × Json))) : Prop :=
  ∀ {j j'}, j.hasUniqueNames = true → ps.variation j j' →
    (opened j = none ∧ opened j' = none) ∨
      ∃ ms ms', opened j = some ms ∧ opened j' = some ms' ∧ Agrees ps ms ms'

theorem Heeds.of_opensAlike {ps : Parts} {opened : Json → Option (List (String × Json))} (h : OpensAlike ps opened)
    {body : List (String × Json) → Option α} (hbody : ∀ ms ms', Agrees ps ms ms' → body ms = body ms') :
    Heeds ps.variation (fun j => opened j >>= body) where
  null {j j'} hV := by
    cases j <;> cases j' <;> simp_all [Parts.variation]
  same {j j'} hj hV := by
    rcases h hj hV with ⟨hnone, hnone'⟩ | ⟨ms, ms', hms, hms', hagrees⟩
    · simp only [hnone, hnone']
    · simp only [hms, hms', Option.bind_eq_bind, Option.bind_some]
      exact hbody ms ms' hagrees

/-- A structure that is given by its members has each of its names once at most. -/
theorem Agrees.members?_eq {ps : Parts} {ms ms' : List (String × Json)} (h : Agrees ps ms ms') :
    members? ps.names (.object ms) = some ms ∧ members? ps.names (.object ms') = some ms' := by
  have hlengths : ∀ k ∈ ps.names, (named k ms).length ≤ 1 ∧ (named k ms').length ≤ 1 := by
    intro k hk
    obtain ⟨⟨k, V⟩, hmem, rfl⟩ := List.mem_map.mp hk
    have hfound := h k V hmem
    generalize named k ms = ns at hfound
    generalize named k ms' = ns' at hfound
    cases hfound <;> simp
  have hall : ∀ ns : List (String × Json), (∀ k ∈ ps.names, (named k ns).length ≤ 1) →
      members? ps.names (.object ns) = some ns := by
    intro ns hns
    rw [members?, if_pos]
    simpa using hns
  exact ⟨hall ms fun k hk => (hlengths k hk).1, hall ms' fun k hk => (hlengths k hk).2⟩

theorem opensAlike_members? {ps : Parts} (hps : ps.names.Nodup) : OpensAlike ps (members? ps.names) := by
  intro j j' hj hV
  unfold Parts.variation at hV
  split at hV
  · rename_i ms ms'
    have hagrees := hV.agrees hj
    exact .inr ⟨ms, ms', hagrees.members?_eq.1, hagrees.members?_eq.2, hagrees⟩
  · rename_i xs ys
    simp only [members?, ← hV.length_eq]
    split
    · exact .inr ⟨_, _, rfl, rfl, hV.agrees hps hj⟩
    · exact .inl ⟨rfl, rfl⟩
  · rename_i hobject harray
    subst hV
    left
    cases j with
    | object ms => exact absurd rfl (hobject ms ms rfl)
    | array xs => exact absurd rfl (harray xs xs rfl)
    | _ => exact ⟨rfl, rfl⟩

theorem opensAlike_objectMembers? {ps : Parts} (hps : ps.names.Nodup) : OpensAlike ps (objectMembers? ps.names) := by
  intro j j' hj hV
  cases j with
  | object ms =>
    cases j' with
    | object ms' => exact opensAlike_members? hps hj hV
    | _ => cases hV
  | _ => cases j' <;> first | exact .inl ⟨rfl, rfl⟩ | cases hV

theorem opensAlike_openMembers? (ps : Parts) : OpensAlike ps openMembers? := by
  intro j j' hj hV
  cases j with
  | object ms =>
    cases j' with
    | object ms' => exact .inr ⟨ms, ms', rfl, rfl, Parts.Members.agrees hV hj⟩
    | _ => cases hV
  | _ => cases j' <;> first | exact .inl ⟨rfl, rfl⟩ | cases hV

namespace Heeds

variable {ps : Parts} {body : List (String × Json) → Option α}

/-- A structure whose repeated names are refused. -/
theorem closed {names : List String} (hps : ps.names = names) (hnodup : names.Nodup)
    (hbody : ∀ ms ms', Agrees ps ms ms' → body ms = body ms') :
    Heeds ps.variation (fun j => members? names j >>= body) := by
  subst hps
  exact .of_opensAlike (opensAlike_members? hnodup) hbody

/-- One that has to be an object. -/
theorem object {names : List String} (hps : ps.names = names) (hnodup : names.Nodup)
    (hbody : ∀ ms ms', Agrees ps ms ms' → body ms = body ms') :
    Heeds ps.variation (fun j => objectMembers? names j >>= body) := by
  subst hps
  exact .of_opensAlike (opensAlike_objectMembers? hnodup) hbody

/-- One in which the last member of a name counts. -/
theorem opened (hbody : ∀ ms ms', Agrees ps ms ms' → body ms = body ms') :
    Heeds ps.variation (fun j => openMembers? j >>= body) :=
  .of_opensAlike (opensAlike_openMembers? ps) hbody

end Heeds

end ClusterProbe.Json
