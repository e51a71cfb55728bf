/-
  ClusterProbe.Proofs.Parents — what stands against a route is told of one parent.

  A parent takes a route on when the first of its conditions `Accepted` and the first of
  its conditions `ResolvedRefs` are both true. A route without parents is told apart; of
  the others the first parent that has not taken the route on is described, by its own
  conditions and nobody else's: which of the two it lacks (`Complaint`), and for each of
  these the message of its own first condition of that type, or that it has none (`Told`).

  - `ParentStatus.failure?_eq_some_iff`: what is said of one parent is such a complaint.
  - `HttpRoute.failure?_tells_first_failing`: nothing stands against a route exactly if
    it has parents and all have taken it on; otherwise the first one that has not is
    complained of, and it alone with the route's name settles the text. What other
    parents there are, before it and after it, makes no difference.
-/

import ClusterProbe.Proofs.Conditions
import ClusterProbe.Proofs.Status

namespace ClusterProbe

/-! ## One parent -/

/-- What is told of a type that does not hold: the message of its first condition, if that has one, or that there is
no such condition. -/
inductive Told (cs : List Condition) (type absent : String) : String → Prop
  | message {c : Condition} : Condition.First cs type c → c.status ≠ .yes → Told cs type absent (c.message.getD "")
  | missing : (∀ c ∈ cs, c.type ≠ type) → Told cs type absent absent

namespace ParentStatus

/-- The parent has taken the route on. -/
def TakesOn (p : ParentStatus) : Prop :=
  Condition.Holds p.conditions "Accepted" ∧ Condition.Holds p.conditions "ResolvedRefs"

/-- What is told of a parent's acceptance that does not hold. -/
def ToldAccepted (p : ParentStatus) : String → Prop := Told p.conditions "Accepted" "no accepted parent conditions"

/-- What is told of references that do not hold. -/
def ToldResolved (p : ParentStatus) : String → Prop :=
  Told p.conditions "ResolvedRefs" "no resolved ref parent conditions"

/-- What is said of a parent that has not taken on the route of this title. -/
inductive Complaint (route : String) (p : ParentStatus) : String → Prop
  | neither {a r : String} : p.ToldAccepted a → p.ToldResolved r →
      Complaint route p (route ++ ", parent " ++ p.parentRef.text ++
        " neither Accepted nor ResolvedRefs, last recorded status messages: " ++ a ++ "; " ++ r)
  | notAccepted {a : String} : p.ToldAccepted a → Condition.Holds p.conditions "ResolvedRefs" →
      Complaint route p (route ++ ", parent " ++ p.parentRef.text ++
        " not Accepted, last recorded status message: " ++ a)
  | notResolved {r : String} : Condition.Holds p.conditions "Accepted" → p.ToldResolved r →
      Complaint route p (route ++ ", parent " ++ p.parentRef.text ++
        " not ResolvedRefs, last recorded status message: " ++ r)

end ParentStatus

theorem told_iff {p : ParentStatus} {type absent m : String} :
    Told p.conditions type absent m ↔ ¬Condition.Holds p.conditions type ∧ p.messageOf type absent = m := by
  unfold ParentStatus.messageOf
  rcases hfind : Condition.find? p.conditions type with _ | c
  · have hnone := Condition.find?_eq_none_iff.mp hfind
    constructor
    · intro h
      cases h with
      | message hfirst => rw [Condition.find?_eq_some_iff.mpr hfirst] at hfind; cases hfind
      | missing => exact ⟨Condition.not_holds_of_none hnone, rfl⟩
    · rintro ⟨-, rfl⟩
      exact .missing hnone
  · have hfirst := Condition.find?_eq_some_iff.mp hfind
    constructor
    · intro h
      cases h with
      | @message d hd hstatus =>
        have hsame : some d = some c := by rw [← hfind, Condition.find?_eq_some_iff.mpr hd]
        cases hsame
        exact ⟨fun hholds => hstatus (hfirst.holds_iff.mp hholds), rfl⟩
      | missing hnone => rw [Condition.find?_eq_none_iff.mpr hnone] at hfind; cases hfind
    · rintro ⟨hnot, rfl⟩
      exact .message hfirst fun hstatus => hnot (hfirst.holds_iff.mpr hstatus)

namespace ParentStatus

variable {route m : String} {p : ParentStatus}

theorem failure?_eq_none_iff_takesOn : p.failure? route = none ↔ p.TakesOn := by
  rw [failure?_eq_none_iff, Condition.unmet?_eq_none_iff_holds, Condition.unmet?_eq_none_iff_holds]
  rfl

theorem failure?_of_neither (ha : ¬Condition.Holds p.conditions acceptedType)
    (hr : ¬Condition.Holds p.conditions resolvedRefsType) :
    p.failure? route = some (route ++ ", parent " ++ p.parentRef.text ++
      " neither Accepted nor ResolvedRefs, last recorded status messages: " ++ p.acceptedMessage ++ "; " ++
      p.resolvedRefsMessage) := by
  obtain ⟨u, hu⟩ := Condition.unmet?_of_not_holds ha
  obtain ⟨v, hv⟩ := Condition.unmet?_of_not_holds hr
  have hwords : " neither " ++ acceptedType ++ " nor " ++ resolvedRefsType ++ ", last recorded status messages: " =
      " neither Accepted nor ResolvedRefs, last recorded status messages: " := rfl
  simp only [failure?, hu, hv, ← hwords, String.append_assoc]

theorem failure?_of_notAccepted (ha : ¬Condition.Holds p.conditions acceptedType)
    (hr : Condition.Holds p.conditions resolvedRefsType) :
    p.failure? route = some (route ++ ", parent " ++ p.parentRef.text ++
      " not Accepted, last recorded status message: " ++ p.acceptedMessage) := by
  obtain ⟨u, hu⟩ := Condition.unmet?_of_not_holds ha
  have hwords : " not " ++ acceptedType ++ ", last recorded status message: " =
      " not Accepted, last recorded status message: " := rfl
  simp only [failure?, hu, Condition.unmet?_eq_none_iff_holds.mpr hr, ← hwords, String.append_assoc]

theorem failure?_of_notResolved (ha : Condition.Holds p.conditions acceptedType)
    (hr : ¬Condition.Holds p.conditions resolvedRefsType) :
    p.failure? route = some (route ++ ", parent " ++ p.parentRef.text ++
      " not ResolvedRefs, last recorded status message: " ++ p.resolvedRefsMessage) := by
  obtain ⟨v, hv⟩ := Condition.unmet?_of_not_holds hr
  have hwords : " not " ++ resolvedRefsType ++ ", last recorded status message: " =
      " not ResolvedRefs, last recorded status message: " := rfl
  simp only [failure?, hv, Condition.unmet?_eq_none_iff_holds.mpr ha, ← hwords, String.append_assoc]

/-- What is said of a parent tells what it lacks, and by its own conditions. -/
theorem failure?_eq_some_iff : p.failure? route = some m ↔ Complaint route p m := by
  constructor
  · intro h
    by_cases ha : Condition.Holds p.conditions acceptedType
    · by_cases hr : Condition.Holds p.conditions resolvedRefsType
      · rw [failure?_eq_none_iff_takesOn.mpr ⟨ha, hr⟩] at h
        cases h
      · rw [failure?_of_notResolved ha hr] at h
        cases h
        exact .notResolved ha (told_iff.mpr ⟨hr, rfl⟩)
    · by_cases hr : Condition.Holds p.conditions resolvedRefsType
      · rw [failure?_of_notAccepted ha hr] at h
        cases h
        exact .notAccepted (told_iff.mpr ⟨ha, rfl⟩) hr
      · rw [failure?_of_neither ha hr] at h
        cases h
        exact .neither (told_iff.mpr ⟨ha, rfl⟩) (told_iff.mpr ⟨hr, rfl⟩)
  · intro h
    cases h with
    | neither ha hr =>
      obtain ⟨hna, rfl⟩ := told_iff.mp ha
      obtain ⟨hnr, rfl⟩ := told_iff.mp hr
      exact failure?_of_neither hna hnr
    | notAccepted ha hr =>
      obtain ⟨hna, rfl⟩ := told_iff.mp ha
      exact failure?_of_notAccepted hna hr
    | notResolved ha hr =>
      obtain ⟨hnr, rfl⟩ := told_iff.mp hr
      exact failure?_of_notResolved ha hnr

end ParentStatus

/-! ## The parents of a route -/

namespace HttpRoute

variable {r r' : HttpRoute} {p : ParentStatus} {m : String}

/-- Of the parents that have not taken the route on this one comes first. -/
def FirstFailing (r : HttpRoute) (p : ParentStatus) : Prop :=
  ¬p.TakesOn ∧ ∃ before after, r.parents = before ++ p :: after ∧ ∀ q ∈ before, q.TakesOn

theorem failure?_of_parents (h : r.parents ≠ []) :
    r.failure? = r.parents.findSome? (ParentStatus.failure? r.title) := by
  unfold failure?
  split
  · rename_i hnone
    exact absurd hnone h
  · rfl

theorem failure?_eq_some_iff (h : r.parents ≠ []) :
    r.failure? = some m ↔ ∃ p, r.FirstFailing p ∧ p.Complaint r.title m := by
  rw [failure?_of_parents h, List.findSome?_eq_some_iff]
  constructor
  · rintro ⟨before, p, after, hparents, hp, hbefore⟩
    refine ⟨p, ⟨?_, before, after, hparents, ?_⟩, ParentStatus.failure?_eq_some_iff.mp hp⟩
    · rw [← ParentStatus.failure?_eq_none_iff_takesOn, hp]
      exact Option.some_ne_none m
    · intro q hq
      exact ParentStatus.failure?_eq_none_iff_takesOn.mp (hbefore q hq)
  · rintro ⟨p, ⟨-, before, after, hparents, hbefore⟩, hp⟩
    refine ⟨before, p, after, hparents, ParentStatus.failure?_eq_some_iff.mpr hp, ?_⟩
    intro q hq
    exact ParentStatus.failure?_eq_none_iff_takesOn.mpr (hbefore q hq)

/-- What stands against the route is what its first failing parent has against it. -/
theorem FirstFailing.failure?_eq (h : r.FirstFailing p) : r.failure? = p.failure? r.title := by
  have hsome : r.parents ≠ [] := by
    obtain ⟨-, before, after, hparents, -⟩ := h
    simp [hparents]
  have hnot : p.failure? r.title ≠ none := fun hnone => h.1 (ParentStatus.failure?_eq_none_iff_takesOn.mp hnone)
  obtain ⟨m, hm⟩ := Option.ne_none_iff_exists'.mp hnot
  rw [hm, failure?_eq_some_iff hsome]
  exact ⟨p, h, ParentStatus.failure?_eq_some_iff.mp hm⟩

/-- Nothing stands against a route exactly if it has parents and all of them have taken it on. If it has none, that is
told; if some have not taken it on, the first of these is complained of, in words that its own conditions and the
route's name settle, whatever parents stand before and after it. -/
theorem failure?_tells_first_failing (r : HttpRoute) :
    let title := "httpRoute " ++ r.metadata.namespaceOrEmpty ++ "/" ++ r.metadata.nameToShow
    (r.failure? = none ↔ r.parents ≠ [] ∧ ∀ p ∈ r.parents, p.TakesOn) ∧
      (r.parents = [] → r.failure? = some (title ++ " has no parent conditions")) ∧
      (∀ m, r.parents ≠ [] → (r.failure? = some m ↔ ∃ p, r.FirstFailing p ∧ p.Complaint title m)) ∧
      ∀ (r' : HttpRoute) (p : ParentStatus), r.FirstFailing p → r'.FirstFailing p →
        r'.metadata.namespaceOrEmpty = r.metadata.namespaceOrEmpty →
        r'.metadata.nameToShow = r.metadata.nameToShow → r'.failure? = r.failure? := by
  intro title
  refine ⟨?_, ?_, fun m h => failure?_eq_some_iff h, ?_⟩
  · rw [failure?_eq_none_iff]
    simp only [ParentStatus.failure?_eq_none_iff_takesOn]
  · intro h
    rw [failure?, h]
    rfl
  · intro r' p h h' hns hname
    have htitle : r'.title = r.title := by rw [HttpRoute.title, HttpRoute.title, hns, hname]
    rw [h.failure?_eq, h'.failure?_eq, htitle]

/-- A parent that says nothing of acceptance and two things of references, behind one that has taken the route on and
by itself. -/
theorem failure?_tells_first_failing_of_two :
    let condition (type : String) (status : Tristate) (message : Option String) : Condition :=
      ⟨type, status, none, message, none, none⟩
    let taken : ParentStatus := ⟨{ name := "g" }, "", [condition "Accepted" .yes none, condition "ResolvedRefs" .yes none]⟩
    let lacking : ParentStatus := ⟨{ «namespace» := some "other", name := "g" }, "",
      [condition "ResolvedRefs" .no (some "no such service"), condition "ResolvedRefs" .yes none]⟩
    let route (ps : List ParentStatus) : HttpRoute :=
      ⟨{ name := some "r", «namespace» := some "ns" }, ⟨[], [], []⟩, some ⟨ps⟩⟩
    (route [taken, lacking, taken]).FirstFailing lacking ∧ (route [lacking]).FirstFailing lacking ∧
      (route [lacking]).failure? = (route [taken, lacking, taken]).failure? ∧
      (route [lacking]).failure? = some ("httpRoute ns/r, parent other/g neither Accepted nor ResolvedRefs, " ++
        "last recorded status messages: no accepted parent conditions; no such service") := by
  intro condition taken lacking route
  have htaken : taken.TakesOn := by
    have hnothing : taken.failure? "" = none := by decide
    exact ParentStatus.failure?_eq_none_iff_takesOn.mp hnothing
  have hlacking : ¬lacking.TakesOn := by
    have hsomething : lacking.failure? "" ≠ none := by decide
    exact fun h => hsomething (ParentStatus.failure?_eq_none_iff_takesOn.mpr h)
  have hbehind : (route [taken, lacking, taken]).FirstFailing lacking :=
    ⟨hlacking, [taken], [taken], rfl, List.forall_mem_singleton.mpr htaken⟩
  have halone : (route [lacking]).FirstFailing lacking := ⟨hlacking, [], [], rfl, List.forall_mem_nil _⟩
  obtain ⟨-, -, -, hsame⟩ := failure?_tells_first_failing (route [taken, lacking, taken])
  exact ⟨hbehind, halone, hsame _ lacking hbehind halone rfl rfl, by decide +kernel⟩

end HttpRoute

end ClusterProbe
