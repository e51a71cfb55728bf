/-
  ClusterProbe.Proofs.Conditions — what a list of conditions says of a type.

  Of several conditions of one type the first counts (`First`), whatever else is in the
  list. The type holds when that one is true (`Holds`).

  - `find?_eq_some_iff`, `find?_eq_none_iff`: looking a type up yields its first
    condition, and nothing only where there is none.
  - `unmet?_eq_none_iff_holds`: a type is unmet unless it holds.
  - `Definition.established_agrees`: the conditions of a definition have a form of their
    own, with a status of any text, and are looked through by a check of their own.
    It finds what the shared check finds in the same conditions, down to the wording.
-/

import ClusterProbe.Proofs.Wire
import ClusterProbe.Resource.Definition

namespace ClusterProbe

namespace Condition

/-! ## The first of its type -/

/-- Of the conditions of the type this one comes first. -/
def First (cs : List Condition) (type : String) (c : Condition) : Prop :=
  c.type = type ∧ ∃ before after, cs = before ++ c :: after ∧ ∀ d ∈ before, d.type ≠ type

/-- The first condition of the type is true. -/
def Holds (cs : List Condition) (type : String) : Prop := ∃ c, First cs type c ∧ c.status = .yes

variable {cs : List Condition} {type : String} {c : Condition}

theorem find?_eq_some_iff : find? cs type = some c ↔ First cs type c := by
  simp [find?, First, List.find?_eq_some_iff_append]

theorem find?_eq_none_iff : find? cs type = none ↔ ∀ d ∈ cs, d.type ≠ type := by
  simp [find?, List.find?_eq_none]

/-- It is this one that tells whether the type holds. -/
theorem First.holds_iff (h : First cs type c) : Holds cs type ↔ c.status = .yes := by
  constructor
  · rintro ⟨d, hd, hstatus⟩
    have hsame : some d = some c := by rw [← find?_eq_some_iff.mpr hd, find?_eq_some_iff.mpr h]
    cases hsame
    exact hstatus
  · intro hstatus
    exact ⟨c, h, hstatus⟩

theorem not_holds_of_none (h : ∀ d ∈ cs, d.type ≠ type) : ¬Holds cs type := by
  rintro ⟨c, ⟨htype, before, after, rfl, -⟩, -⟩
  exact h c (by simp) htype

theorem isTrue_iff : c.isTrue = true ↔ c.status = .yes := by
  simp [isTrue]

theorem unmet?_eq_none_iff_holds : unmet? cs type = none ↔ Holds cs type := by
  unfold unmet? Holds
  simp only [← find?_eq_some_iff, ← isTrue_iff]
  rcases find? cs type with _ | c
  · simp
  · simp

theorem unmet?_of_not_holds (h : ¬Holds cs type) : ∃ u, unmet? cs type = some u := by
  rw [← unmet?_eq_none_iff_holds] at h
  exact Option.ne_none_iff_exists'.mp h

end Condition

/-! ## Conditions of definitions -/

/-- The condition read as one of the shared form: of the same type and message, with the status that its text stands
for. What a shared condition says besides does not matter. -/
structure DefinitionCondition.ReadsAs (d : DefinitionCondition) (c : Condition) : Prop where
  type : c.type = d.type
  status : c.status = .ofText d.status
  message : c.message = d.message

/-- Nothing is in the way of a definition but what the shared check finds unmet in its conditions. -/
theorem Definition.established_eq_ofObstacle {d : Definition} {cs : List Condition}
    (h : List.Forall₂ DefinitionCondition.ReadsAs d.conditions cs) :
    d.established = .ofObstacle (Condition.unmet? cs "Established") := by
  have hfind := Json.find?_cases h (p := (·.type == "Established")) (q := (·.type == "Established"))
    fun x y hxy => by rw [hxy.type]
  unfold established Condition.unmet? Condition.find?
  rcases hfind with ⟨hd, hc⟩ | ⟨x, c, hd, hc, -, hread⟩
  · rw [show establishedType = "Established" from rfl, hd, hc]
    rfl
  · rw [show establishedType = "Established" from rfl, hd, hc]
    simp only [Condition.isTrue, Condition.messageOrEmpty, hread.status, hread.message]
    rcases Tristate.ofText x.status with _ | _ | _ <;> rfl

/-- A definition is established exactly when the shared check finds nothing unmet in its conditions, and if it is not,
what is observed is what that check tells. -/
theorem Definition.established_agrees (d : Definition) {cs : List Condition}
    (h : List.Forall₂ DefinitionCondition.ReadsAs d.conditions cs) :
    (d.established = .ready () ↔ Condition.unmet? cs "Established" = none) ∧
      ∀ m, d.established = .pending m ↔ Condition.unmet? cs "Established" = some m := by
  rw [established_eq_ofObstacle h]
  rcases Condition.unmet? cs "Established" with _ | u
  · simp [Readiness.ofObstacle]
  · simp [Readiness.ofObstacle]

/-- A definition that reports its type twice, at first with a status that stands for nothing. -/
theorem Definition.established_agrees_of_repeated :
    let d : Definition := ⟨{}, {}, some ⟨some [⟨"NamesAccepted", "True", some "no conflicts found"⟩,
      ⟨"Established", "true", none⟩, ⟨"Established", "True", some "accepted"⟩]⟩⟩
    let cs : List Condition := [⟨"NamesAccepted", .yes, some "NoConflicts", some "no conflicts found", none, none⟩,
      ⟨"Established", .unknown, none, none, none, some 2⟩, ⟨"Established", .yes, none, some "accepted", none, some 2⟩]
    List.Forall₂ DefinitionCondition.ReadsAs d.conditions cs ∧
      d.established = .pending "Established is Unknown, last recorded status message: " ∧
      (d.established = .ready () ↔ Condition.unmet? cs "Established" = none) ∧
      ∀ m, d.established = .pending m ↔ Condition.unmet? cs "Established" = some m := by
  intro d cs
  have hread : List.Forall₂ DefinitionCondition.ReadsAs d.conditions cs :=
    .cons ⟨rfl, rfl, rfl⟩ (.cons ⟨rfl, rfl, rfl⟩ (.cons ⟨rfl, rfl, rfl⟩ .nil))
  exact ⟨hread, by decide, Definition.established_agrees d hread⟩

end ClusterProbe
