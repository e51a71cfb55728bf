/-
  ClusterProbe.Proofs.ConditionEdits — what a list of conditions may change without a type noticing.

  The conditions of other types do not count, wherever they stand, and of the type's own
  none but the first (`Edit` lists the changes that leave that one alone). One such
  change keeps what is found of the type (`Edit.find?_eq`), and so does any number of
  them, one after the other (`find?_of_edits`).

  - `unmet?_goes_by_first`: what is unmet is the same before and after; nothing is unmet
    exactly if the first condition of the type is true; and what is told otherwise is
    made of the type and of that condition's status and message (`Unmet`).
-/

import Mathlib.Logic.Relation
import ClusterProbe.Proofs.Conditions

namespace ClusterProbe

namespace Condition

variable {cs cs' : List Condition} {type : String} {c d : Condition}

/-! ## Looking a type up -/

theorem find?_append : find? (cs ++ cs') type = (find? cs type).or (find? cs' type) := List.find?_append

theorem find?_cons_of_ne (h : c.type ≠ type) : find? (c :: cs) type = find? cs type :=
  List.find?_cons_of_neg (by simpa using h)

theorem find?_cons_of_eq (h : c.type = type) : find? (c :: cs) type = some c :=
  List.find?_cons_of_pos (by simpa using h)

/-- It is enough to look through the conditions of the type. -/
theorem find?_eq_head? : find? cs type = (cs.filter (·.type == type)).head? := List.head?_filter.symm

theorem unmet?_congr (h : find? cs' type = find? cs type) : unmet? cs' type = unmet? cs type := by
  rw [unmet?, h, unmet?]

/-! ## Edits -/

/-- A change of a list of conditions that leaves the first one of the type alone. -/
inductive Edit (type : String) : List Condition → List Condition → Prop
  | insert (before after : List Condition) {c : Condition} : c.type ≠ type →
      Edit type (before ++ after) (before ++ c :: after)
  | remove (before after : List Condition) {c : Condition} : c.type ≠ type →
      Edit type (before ++ c :: after) (before ++ after)
  | change (before after : List Condition) {c d : Condition} : c.type ≠ type → d.type ≠ type →
      Edit type (before ++ c :: after) (before ++ d :: after)
  /-- The conditions of the type keep their own order. -/
  | reorder {cs cs' : List Condition} : cs.Perm cs' → cs.filter (·.type == type) = cs'.filter (·.type == type) →
      Edit type cs cs'
  /-- One more of the type, behind another one. -/
  | add (before between after : List Condition) {c d : Condition} : c.type = type → d.type = type →
      Edit type (before ++ c :: (between ++ after)) (before ++ c :: (between ++ d :: after))

theorem Edit.find?_eq (h : Edit type cs cs') : find? cs' type = find? cs type := by
  cases h with
  | insert before after hc => rw [find?_append, find?_append, find?_cons_of_ne hc]
  | remove before after hc => rw [find?_append, find?_append, find?_cons_of_ne hc]
  | change before after hc hd => rw [find?_append, find?_append, find?_cons_of_ne hc, find?_cons_of_ne hd]
  | reorder _ hown => rw [find?_eq_head?, find?_eq_head?, hown]
  | add before between after hc _ => rw [find?_append, find?_append, find?_cons_of_eq hc, find?_cons_of_eq hc]

theorem find?_of_edits (h : Relation.ReflTransGen (Edit type) cs cs') : find? cs' type = find? cs type := by
  induction h with
  | refl => rfl
  | tail _ hedit ih => rw [hedit.find?_eq, ih]

/-! ## What is told of a type -/

/-- What is told of a type that is not met: the status and the message of its first condition, or that it has none. -/
inductive Unmet (cs : List Condition) (type : String) : String → Prop
  | notTrue {c : Condition} : First cs type c → c.status ≠ .yes →
      Unmet cs type (type ++ " is " ++ c.status.text ++ ", last recorded status message: " ++ c.message.getD "")
  | missing : (∀ c ∈ cs, c.type ≠ type) → Unmet cs type ("no " ++ type ++ " condition reported")

theorem First.unmet?_eq (h : First cs type c) (hstatus : c.status ≠ .yes) : unmet? cs type =
    some (type ++ " is " ++ c.status.text ++ ", last recorded status message: " ++ c.message.getD "") := by
  have hfalse : ¬c.isTrue = true := fun htrue => hstatus (isTrue_iff.mp htrue)
  simp only [unmet?, find?_eq_some_iff.mpr h, if_neg hfalse, messageOrEmpty]

theorem unmet?_of_missing (h : ∀ c ∈ cs, c.type ≠ type) :
    unmet? cs type = some ("no " ++ type ++ " condition reported") := by
  simp only [unmet?, find?_eq_none_iff.mpr h]

theorem unmet?_eq_some_iff {m : String} : unmet? cs type = some m ↔ Unmet cs type m := by
  constructor
  · intro hm
    rcases hfind : find? cs type with _ | c
    · have hmissing := find?_eq_none_iff.mp hfind
      rw [unmet?_of_missing hmissing] at hm
      cases hm
      exact .missing hmissing
    · have hfirst := find?_eq_some_iff.mp hfind
      by_cases hstatus : c.status = .yes
      · rw [unmet?_eq_none_iff_holds.mpr ⟨c, hfirst, hstatus⟩] at hm
        cases hm
      · rw [hfirst.unmet?_eq hstatus] at hm
        cases hm
        exact .notTrue hfirst hstatus
  · intro hm
    cases hm with
    | notTrue hfirst hstatus => exact hfirst.unmet?_eq hstatus
    | missing hmissing => exact unmet?_of_missing hmissing

/-- What is unmet of a type is the same however often the list is changed around the type's first condition. Nothing is
unmet exactly if that condition is there and true; if not, what is told is made of the type and of the condition's
status and message, or of the type alone. -/
theorem unmet?_goes_by_first (cs : List Condition) (type : String) :
    (∀ cs', Relation.ReflTransGen (Edit type) cs cs' → unmet? cs' type = unmet? cs type) ∧
      (unmet? cs type = none ↔ ∃ c, First cs type c ∧ c.status = .yes) ∧
      ∀ m, unmet? cs type = some m ↔ Unmet cs type m :=
  ⟨fun _ hedits => unmet?_congr (find?_of_edits hedits), unmet?_eq_none_iff_holds, fun _ => unmet?_eq_some_iff⟩

/-- A type that is true at last, but not at first: another type is moved to the front and told otherwise, and the
list goes on with the type. -/
theorem unmet?_goes_by_first_of_repeated :
    let condition (type : String) (status : Tristate) (message : Option String) : Condition :=
      ⟨type, status, none, message, none, none⟩
    let refused := condition "Accepted" .no (some "invalid listener")
    let accepted := condition "Accepted" .yes (some "ok")
    let cs := [refused, condition "Programmed" .yes none, accepted]
    let cs' := [condition "ResolvedRefs" .unknown none, refused, accepted, accepted]
    Relation.ReflTransGen (Edit "Accepted") cs cs' ∧ First cs "Accepted" refused ∧
      unmet? cs' "Accepted" = unmet? cs "Accepted" ∧
      unmet? cs "Accepted" = some "Accepted is False, last recorded status message: invalid listener" := by
  intro condition refused accepted cs cs'
  have hfirst : First cs "Accepted" refused := find?_eq_some_iff.mp (by decide)
  have hedits : Relation.ReflTransGen (Edit "Accepted") cs cs' := by
    apply Relation.ReflTransGen.head (b := [condition "Programmed" .yes none, refused, accepted])
    · exact .reorder (.swap _ _ _) (by decide)
    apply Relation.ReflTransGen.head (b := [condition "ResolvedRefs" .unknown none, refused, accepted])
    · exact .change [] _ (by decide) (by decide)
    apply Relation.ReflTransGen.single
    exact .add [condition "ResolvedRefs" .unknown none] [] [accepted] rfl rfl
  obtain ⟨hsame, -, htold⟩ := unmet?_goes_by_first cs "Accepted"
  exact ⟨hedits, hfirst, hsame _ hedits, (htold _).mpr (.notTrue hfirst (by decide))⟩

end Condition

end ClusterProbe
