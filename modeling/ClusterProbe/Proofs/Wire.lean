/-
  ClusterProbe.Proofs.Wire — raw JSON, and what reading it into structures keeps.

  A raw value is looked at along paths of names (`at?`), with no defaults and no nulls
  taken for something else. Where names are given once (`hasUniqueNames`) and structures
  are objects, what a structure's reader finds under a name is what stands there:

  - `lookup_of_members?`: the members of a closed structure are those of its object.
  - `lastOf_eq_optional`: an open structure is read like a closed one.
  - `find?_of_dict?`: an entry of a map is the member of that name.
  - `forall₂_of_list?`: a list is read item by item, which keeps first matches
    (`find?_cases`).
-/

import Mathlib.Data.List.Forall2
import ClusterProbe.Json.Record

namespace ClusterProbe.Json

variable {α β : Type}

/-! ## Looking along a path -/

/-- The value at the end of a path of names. -/
def at? (ks : List String) (j : Json) : Option Json := ks.foldlM (fun j k => j.get? k) j

@[simp] theorem at?_nil (j : Json) : at? [] j = some j := rfl

@[simp] theorem at?_cons (k : String) (ks : List String) (j : Json) : at? (k :: ks) j = (j.get? k).bind (at? ks) :=
  List.foldlM_cons

theorem at?_append (ks ks' : List String) (j : Json) : at? (ks ++ ks') j = (j.at? ks).bind (at? ks') :=
  List.foldlM_append

/-- The text there, if there is one. -/
def textAt (ks : List String) (j : Json) : Option String := (j.at? ks).bind string?

/-- A text that is missing is not taken for any but the empty one. -/
theorem getD_empty_eq_iff {o : Option String} {s : String} (hs : s ≠ "") : o.getD "" = s ↔ o = some s := by
  cases o <;> simp [hs.symm]

/-- The items of the list there; none if there is no list. -/
def itemsAt (ks : List String) (j : Json) : List Json :=
  match j.at? ks with
  | some (.array xs) => xs
  | _ => []

theorem at?_singleton (k : String) (j : Json) : at? [k] j = j.get? k := by
  rw [at?_cons]
  cases j.get? k <;> rfl

theorem textAt_singleton (k : String) (j : Json) : textAt [k] j = (j.get? k).bind string? := by
  rw [textAt, at?_singleton]

theorem itemsAt_cons {k : String} {ks : List String} {j x : Json} (h : j.get? k = some x) :
    itemsAt (k :: ks) j = itemsAt ks x := by
  simp [itemsAt, h]

theorem itemsAt_append {ks : List String} {j x : Json} (h : j.at? ks = some x) (ks' : List String) :
    itemsAt (ks ++ ks') j = itemsAt ks' x := by
  simp [itemsAt, at?_append, h]

@[simp] theorem get?_null (k : String) : get? k .null = none := rfl

/-- Under nothing, and under null, there is nothing. -/
theorem at?_of_absent {k : String} {j : Json} (h : j.get? k = none ∨ j.get? k = some .null) (k' : String)
    (ks : List String) : j.at? (k :: k' :: ks) = none := by
  rcases h with h | h <;> simp [h]

def isArray : Json → Bool
  | .array _ => true
  | _ => false

/-! ## Names given once -/

mutual
/-- No object in the value has two members of one name. -/
def hasUniqueNames : Json → Bool
  | .array xs => hasUniqueNamesItems xs
  | .object ms => (ms.map (·.1)).Nodup && hasUniqueNamesMembers ms
  | _ => true

def hasUniqueNamesItems : List Json → Bool
  | [] => true
  | x :: r => x.hasUniqueNames && hasUniqueNamesItems r

def hasUniqueNamesMembers : List (String × Json) → Bool
  | [] => true
  | (_, x) :: r => x.hasUniqueNames && hasUniqueNamesMembers r
end

theorem hasUniqueNames_of_item {xs : List Json} (h : hasUniqueNamesItems xs = true) {x : Json} (hx : x ∈ xs) :
    x.hasUniqueNames = true := by
  induction xs with
  | nil => cases hx
  | cons y r ih =>
    simp only [hasUniqueNamesItems, Bool.and_eq_true] at h
    rcases List.mem_cons.mp hx with rfl | hx
    · exact h.1
    · exact ih h.2 hx

theorem hasUniqueNames_of_lookup {ms : List (String × Json)} (h : hasUniqueNamesMembers ms = true) {k : String}
    {x : Json} (hx : ms.lookup k = some x) : x.hasUniqueNames = true := by
  induction ms with
  | nil => cases hx
  | cons m r ih =>
    obtain ⟨k', y⟩ := m
    simp only [hasUniqueNamesMembers, Bool.and_eq_true] at h
    rw [List.lookup_cons] at hx
    split at hx
    · cases hx
      exact h.1
    · exact ih h.2 hx

theorem hasUniqueNames_get? {j : Json} (h : j.hasUniqueNames = true) {k : String} {x : Json} (hx : j.get? k = some x) :
    x.hasUniqueNames = true := by
  cases j with
  | object ms =>
    simp only [hasUniqueNames, Bool.and_eq_true] at h
    exact hasUniqueNames_of_lookup h.2 hx
  | _ => cases hx

theorem hasUniqueNames_at? {j : Json} (h : j.hasUniqueNames = true) {ks : List String} {x : Json}
    (hx : j.at? ks = some x) : x.hasUniqueNames = true := by
  induction ks generalizing j with
  | nil =>
    cases hx
    exact h
  | cons k ks ih =>
    rw [at?_cons] at hx
    obtain ⟨y, hy, hx⟩ := Option.bind_eq_some_iff.mp hx
    exact ih (hasUniqueNames_get? h hy) hx

theorem hasUniqueNames_itemsAt {j : Json} (h : j.hasUniqueNames = true) {ks : List String} {x : Json}
    (hx : x ∈ j.itemsAt ks) : x.hasUniqueNames = true := by
  unfold itemsAt at hx
  split at hx
  · rename_i xs hxs
    exact hasUniqueNames_of_item (hasUniqueNames_at? h hxs) hx
  · cases hx

/-! ## Structures -/

theorem lookup_of_members? {names : List String} {j : Json} {ms : List (String × Json)}
    (h : members? names j = some ms) (hj : j.isArray = false) (k : String) : ms.lookup k = j.get? k := by
  cases j <;> simp only [members?, ite_eq_iff, reduceCtorEq, and_false, or_false, Option.some.injEq] at h
  · cases hj
  · rw [← h.2]
    rfl

theorem lookup_of_objectMembers? {names : List String} {j : Json} {ms : List (String × Json)}
    (h : objectMembers? names j = some ms) (k : String) : ms.lookup k = j.get? k := by
  cases j <;> simp only [objectMembers?, reduceCtorEq] at h
  exact lookup_of_members? h rfl k

theorem lookup_of_openMembers? {j : Json} {ms : List (String × Json)} (h : openMembers? j = some ms) (k : String) :
    ms.lookup k = j.get? k := by
  cases j <;> simp only [openMembers?, reduceCtorEq, Option.some.injEq] at h
  rw [h]
  rfl

theorem nullable_eq_none {read : Json → Option α} {x : Json} (h : nullable read x = some none) : x = .null := by
  cases x <;> simp_all [nullable]

theorem nullable_eq_some {read : Json → Option α} {x : Json} {a : α} (h : nullable read x = some (some a)) :
    read x = some a := by
  cases x <;> simp_all [nullable]

/-- What was left out is absent or null. -/
theorem absent_of_optional {read : Json → Option α} {k : String} {ms : List (String × Json)} {j : Json}
    (hms : ms.lookup k = j.get? k) (h : optional read k ms = some none) : j.get? k = none ∨ j.get? k = some .null := by
  rw [optional, withDefault, hms] at h
  split at h
  · rename_i x hx
    exact .inr (by rw [hx, nullable_eq_none h])
  · exact .inl (by assumption)

theorem get?_of_optional {read : Json → Option α} {k : String} {ms : List (String × Json)} {j : Json} {a : α}
    (hms : ms.lookup k = j.get? k) (h : optional read k ms = some (some a)) :
    ∃ x, j.get? k = some x ∧ read x = some a := by
  rw [optional, withDefault, hms] at h
  split at h
  · rename_i x hx
    exact ⟨x, hx, nullable_eq_some h⟩
  · cases h

/-- What does not read null finds under a name what stands there. -/
theorem eq_bind_of_optional {read : Json → Option α} (hnull : read .null = none) {k : String}
    {ms : List (String × Json)} {j : Json} {o : Option α} (hms : ms.lookup k = j.get? k)
    (h : optional read k ms = some o) : o = (j.get? k).bind read := by
  cases o with
  | none => rcases absent_of_optional hms h with hx | hx <;> simp [hx, hnull]
  | some a =>
    obtain ⟨x, hx, ha⟩ := get?_of_optional hms h
    simp [hx, ha]

theorem get?_of_required {read : Json → Option α} {k : String} {ms : List (String × Json)} {j : Json} {a : α}
    (hms : ms.lookup k = j.get? k) (h : required read k ms = some a) : ∃ x, j.get? k = some x ∧ read x = some a := by
  rw [required, hms] at h
  exact Option.bind_eq_some_iff.mp h

/-- The last member of a name is the only one. -/
theorem lastOf_of_nodup {ms : List (String × Json)} (h : (ms.map (·.1)).Nodup) (read : Json → Option α) (k : String) :
    lastOf read k ms = optional read k ms := by
  induction ms with
  | nil => rfl
  | cons m r ih =>
    obtain ⟨k', x⟩ := m
    rw [List.map_cons, List.nodup_cons] at h
    by_cases hk : k' = k
    · subst hk
      have hrest : named k' r = [] := by
        rw [named, List.filter_eq_nil_iff]
        intro m hm hm'
        exact h.1 (List.mem_map.mpr ⟨m, hm, by simpa using hm'⟩)
      simp only [lastOf, optional, withDefault, named, List.filter_cons, beq_self_eq_true, if_true] at hrest ⊢
      rw [hrest]
      rcases hx : nullable read x with _ | o <;> simp [hx]
    · have hk' : (k == k') = false := beq_eq_false_iff_ne.mpr fun h => hk h.symm
      simpa [lastOf, optional, withDefault, named, List.filter_cons, List.lookup_cons, hk, hk'] using ih h.2

theorem lastOf_eq_optional {j : Json} {ms : List (String × Json)} (h : openMembers? j = some ms)
    (hj : j.hasUniqueNames = true) (read : Json → Option α) (k : String) : lastOf read k ms = optional read k ms := by
  cases j <;> simp only [openMembers?, reduceCtorEq, Option.some.injEq] at h
  subst h
  simp only [hasUniqueNames, Bool.and_eq_true, decide_eq_true_eq] at hj
  exact lastOf_of_nodup hj.1 read k

theorem optional_of_lastOr {j : Json} {ms : List (String × Json)} (h : openMembers? j = some ms)
    (hj : j.hasUniqueNames = true) {read : Json → Option α} {k : String} {d a : α} (ha : lastOr d read k ms = some a) :
    ∃ o, optional read k ms = some o ∧ a = o.getD d := by
  rw [lastOr, lastOf_eq_optional h hj] at ha
  obtain ⟨o, ho, rfl⟩ := Option.map_eq_some_iff.mp ha
  exact ⟨o, ho, rfl⟩

/-! ## Lists -/

theorem mapM_eq_some_iff {f : α → Option β} {xs : List α} {ys : List β} :
    xs.mapM f = some ys ↔ List.Forall₂ (fun x y => f x = some y) xs ys := by
  induction xs generalizing ys with
  | nil => cases ys <;> simp
  | cons x r ih =>
    rw [List.mapM_cons]
    simp only [Option.bind_eq_bind, Option.bind_eq_some_iff, Option.pure_def, Option.some.injEq]
    constructor
    · rintro ⟨y, hy, ys, hys, rfl⟩
      exact .cons hy (ih.mp hys)
    · rintro (_ | ⟨hy, hys⟩)
      exact ⟨_, hy, _, ih.mpr hys, rfl⟩

theorem forall₂_of_list? {read : Json → Option α} {j : Json} {xs : List α} (h : list? read j = some xs) :
    ∃ js, j = .array js ∧ List.Forall₂ (fun j x => read j = some x) js xs := by
  cases j <;> simp only [list?, reduceCtorEq] at h
  exact ⟨_, rfl, mapM_eq_some_iff.mp h⟩

/-- A list that may be left out is read item by item. -/
theorem forall₂_of_withDefault {read : Json → Option α} {k : String} {ms : List (String × Json)} {j : Json}
    {xs : List α} (hms : ms.lookup k = j.get? k) (h : withDefault [] (list? read) k ms = some xs) :
    List.Forall₂ (fun j x => read j = some x) (j.itemsAt [k]) xs := by
  rw [withDefault, hms] at h
  split at h
  · rename_i x hx
    obtain ⟨js, rfl, hjs⟩ := forall₂_of_list? h
    simpa [itemsAt, hx] using hjs
  · rename_i hx
    cases h
    simp [itemsAt, hx]

/-- A list that may be null as well. -/
theorem forall₂_of_optional {read : Json → Option α} {k : String} {ms : List (String × Json)} {j : Json}
    {o : Option (List α)} (hms : ms.lookup k = j.get? k) (h : optional (list? read) k ms = some o) :
    List.Forall₂ (fun j x => read j = some x) (j.itemsAt [k]) (o.getD []) := by
  cases o with
  | none => rcases absent_of_optional hms h with hx | hx <;> simp [itemsAt, hx]
  | some xs =>
    obtain ⟨x, hx, hxs⟩ := get?_of_optional hms h
    obtain ⟨js, rfl, hjs⟩ := forall₂_of_list? hxs
    simpa [itemsAt, hx] using hjs

/-- What matches first in the one list matches first in the other. -/
theorem find?_cases {R : α → β → Prop} {xs : List α} {ys : List β} (h : List.Forall₂ R xs ys) {p : α → Bool}
    {q : β → Bool} (hpq : ∀ x y, R x y → p x = q y) :
    (xs.find? p = none ∧ ys.find? q = none) ∨
      ∃ x y, xs.find? p = some x ∧ ys.find? q = some y ∧ x ∈ xs ∧ R x y := by
  induction h with
  | nil => exact .inl ⟨rfl, rfl⟩
  | @cons x y xs ys hxy _ ih =>
    simp only [List.find?_cons, ← hpq x y hxy]
    cases p x
    · rcases ih with h | ⟨x', y', hx, hy, hmem, hR⟩
      · exact .inl h
      · exact .inr ⟨x', y', hx, hy, List.mem_cons_of_mem _ hmem, hR⟩
    · exact .inr ⟨x, y, rfl, rfl, List.mem_cons_self, hxy⟩

theorem forall_mem_iff {R : α → β → Prop} {xs : List α} {ys : List β} (h : List.Forall₂ R xs ys) {P : α → Prop}
    {Q : β → Prop} (hPQ : ∀ x ∈ xs, ∀ y, R x y → (P x ↔ Q y)) : (∀ x ∈ xs, P x) ↔ ∀ y ∈ ys, Q y := by
  induction h with
  | nil => simp
  | @cons x y xs ys hxy _ ih =>
    rw [List.forall_mem_cons, List.forall_mem_cons, hPQ x List.mem_cons_self y hxy,
      ih fun x hx => hPQ x (List.mem_cons_of_mem _ hx)]

/-! ## Maps -/

theorem find?_foldl_insert {es : List (String × α)} (h : (es.map (·.1)).Nodup) (d : Dict α) (k : String) :
    (es.foldl (fun d e => d.insert e.1 e.2) d).find? k = (es.lookup k).or (d.find? k) := by
  induction es generalizing d with
  | nil => rfl
  | cons e r ih =>
    obtain ⟨k', a⟩ := e
    rw [List.map_cons, List.nodup_cons] at h
    rw [List.foldl_cons, ih h.2, Dict.find?_insert, List.lookup_cons]
    by_cases hk : k = k'
    · subst hk
      have hrest : r.lookup k = none := by
        rw [List.lookup_eq_none_iff]
        intro e he
        have : e.1 ≠ k := fun hk => h.1 (List.mem_map.mpr ⟨e, he, hk⟩)
        simpa [bne_iff_ne] using fun h => this h.symm
      simp [hrest]
    · simp [hk, beq_eq_false_iff_ne.mpr hk]

theorem keys_of_entries {read : Json → Option α} {ms : List (String × Json)} {es : List (String × α)}
    (h : List.Forall₂ (fun m e => (read m.2).map (m.1, ·) = some e) ms es) : es.map (·.1) = ms.map (·.1) := by
  induction h with
  | nil => rfl
  | cons hme _ ih =>
    obtain ⟨a, -, rfl⟩ := Option.map_eq_some_iff.mp hme
    rw [List.map_cons, List.map_cons, ih]

theorem lookup_of_entries {read : Json → Option α} {ms : List (String × Json)} {es : List (String × α)}
    (h : List.Forall₂ (fun m e => (read m.2).map (m.1, ·) = some e) ms es) (k : String) :
    (ms.lookup k = none ∧ es.lookup k = none) ∨
      ∃ x a, ms.lookup k = some x ∧ es.lookup k = some a ∧ read x = some a := by
  induction h with
  | nil => exact .inl ⟨rfl, rfl⟩
  | @cons m e ms es hme _ ih =>
    obtain ⟨k', x⟩ := m
    obtain ⟨a, ha, rfl⟩ := Option.map_eq_some_iff.mp hme
    simp only [List.lookup_cons]
    cases k == k'
    · exact ih
    · exact .inr ⟨x, a, rfl, rfl, ha⟩

/-- An entry of a map is the member of that name. -/
theorem find?_of_dict? {read : Json → Option α} {j : Json} {d : Dict α} (h : dict? read j = some d)
    (hj : j.hasUniqueNames = true) (k : String) :
    (j.get? k = none ∧ d.find? k = none) ∨ ∃ x a, j.get? k = some x ∧ d.find? k = some a ∧ read x = some a := by
  cases j <;> simp only [dict?, reduceCtorEq, Option.map_eq_some_iff] at h
  rename_i ms
  obtain ⟨es, hes, rfl⟩ := h
  have hentries := mapM_eq_some_iff.mp hes
  simp only [hasUniqueNames, Bool.and_eq_true, decide_eq_true_eq] at hj
  rw [Dict.ofList, find?_foldl_insert (by rw [keys_of_entries hentries]; exact hj.1)]
  simpa [get?, Dict.empty, Dict.find?] using lookup_of_entries hentries k

end ClusterProbe.Json
