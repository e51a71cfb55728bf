/-
  ClusterProbe.Proofs.Status — what the raw JSON of an object has to say to pass.

  Every check that waits judges the structures an answer was read into. What it comes
  down to is a condition of the raw JSON, looked at along paths (`Accepting`, `Attached`,
  `Published`, `AllComponentsReady`, `InstallableFrom`, `Established`), for every answer
  that gives the structures of its status as objects. An answer may give a structure as
  an array of its values too; of those nothing is said here.

  - `accepted_iff`, `attached_iff`, `published_iff`, `allComponentsReady_iff`,
    `installableFrom_iff`, `established_iff`: the judgement is that condition.
  - `servedVersion?_eq`: the version a definition serves is the last one marked `served`.
-/

import ClusterProbe.Proofs.Wire
import ClusterProbe.Resource.ControlPlane
import ClusterProbe.Resource.Definition
import ClusterProbe.Resource.DnsRecord
import ClusterProbe.Resource.HttpRoute
import ClusterProbe.Resource.Operators

namespace ClusterProbe

/-! ## Conditions -/

/-- The first of these conditions that has the type has the status `True`. -/
def FirstTrue (type : String) (cs : List Json) : Prop :=
  ∃ c, cs.find? (·.textAt ["type"] == some type) = some c ∧ c.textAt ["status"] = some "True"

theorem Tristate.ofText_eq_yes {s : String} : Tristate.ofText s = .yes ↔ s = "True" := by
  unfold Tristate.ofText
  split
  · simp_all
  · split <;> simp_all

namespace Condition

theorem texts_of_ofJson? {j : Json} {c : Condition} (h : ofJson? j = some c) (hj : j.isArray = false) :
    j.textAt ["type"] = some c.type ∧ ∃ s, j.textAt ["status"] = some s ∧ c.status = .ofText s := by
  simp only [ofJson?, Option.bind_eq_bind, Option.bind_eq_some_iff, Option.pure_def, Option.some.injEq] at h
  obtain ⟨ms, hms, type, htype, status, hstatus, _, _, _, _, _, _, _, _, rfl⟩ := h
  have hmembers := Json.lookup_of_members? hms hj
  obtain ⟨x, hx, htype⟩ := Json.get?_of_required (hmembers _) htype
  obtain ⟨y, hy, hstatus⟩ := Json.get?_of_required (hmembers _) hstatus
  exact ⟨by simp [Json.textAt, hx, htype], status, by simp [Json.textAt, hy, hstatus], rfl⟩

/-- A type is met when the first condition of the type is true, in raw JSON as when read. -/
theorem unmet?_eq_none_iff {js : List Json} {cs : List Condition}
    (h : List.Forall₂ (fun j c => ofJson? j = some c) js cs) (hjs : ∀ j ∈ js, j.isArray = false) (type : String) :
    unmet? cs type = none ↔ FirstTrue type js := by
  have hread : List.Forall₂ (fun j c => j.isArray = false ∧ ofJson? j = some c) js cs :=
    (List.forall₂_and_left _ _).mpr ⟨hjs, h⟩
  have hfind := Json.find?_cases hread (p := fun j => j.textAt ["type"] == some type) (q := fun c => c.type == type)
    fun j c hc => by rw [(texts_of_ofJson? hc.2 hc.1).1]; rfl
  unfold unmet? find? FirstTrue
  rcases hfind with ⟨hj, hc⟩ | ⟨j, c, hj, hc, -, harray, hread⟩
  · simp [hj, hc]
  · obtain ⟨-, s, hs, hstatus⟩ := texts_of_ofJson? hread harray
    simp [hj, hc, hs, isTrue, hstatus, Tristate.ofText_eq_yes]

end Condition

/-! ## The status of kinds that extend a cluster -/

namespace Custom

variable {Spec Status : Type} {spec : Json → Option Spec} {status : Json → Option Status} {j : Json}
  {c : Custom Spec Status}

theorem status_of_ofJson? (h : ofJson? spec status j = some c) :
    (c.status = none ∧ (j.get? "status" = none ∨ j.get? "status" = some .null)) ∨
      ∃ x s, c.status = some s ∧ j.get? "status" = some x ∧ status x = some s := by
  simp only [ofJson?, Option.bind_eq_bind, Option.bind_eq_some_iff, Option.pure_def, Option.some.injEq] at h
  obtain ⟨ms, hms, _, -, _, -, o, ho, rfl⟩ := h
  have hmembers := Json.lookup_of_objectMembers? hms "status"
  cases o with
  | none => exact .inl ⟨rfl, Json.absent_of_optional hmembers ho⟩
  | some s =>
    obtain ⟨x, hx, hs⟩ := Json.get?_of_optional hmembers ho
    exact .inr ⟨x, s, rfl, hx, hs⟩

/-- A list in the status is read item by item; without a status there is none. -/
theorem forall₂_status {α : Type} {item : Json → Option α} {items : Status → List α} {k : String}
    (hstatus : ∀ x s, status x = some s → x.isArray = false →
      List.Forall₂ (fun j a => item j = some a) (x.itemsAt [k]) (items s))
    (h : ofJson? spec status j = some c) (harray : (j.at? ["status"]).any Json.isArray = false) :
    List.Forall₂ (fun j a => item j = some a) (j.itemsAt ["status", k]) ((c.status.map items).getD []) := by
  rcases status_of_ofJson? h with ⟨hc, habsent⟩ | ⟨x, s, hc, hx, hs⟩
  · simp [Json.itemsAt, hc, Json.at?_of_absent habsent]
  · rw [Json.itemsAt_cons hx, hc]
    exact hstatus x s hs (by simpa [hx] using harray)

end Custom

/-! ## Gateway classes and gateways -/

/-- The status and its conditions are no arrays. -/
def givesConditions (j : Json) : Bool :=
  !(j.at? ["status"]).any Json.isArray && (j.itemsAt ["status", "conditions"]).all (!·.isArray)

/-- The first condition of the type in the status is true. -/
def Reports (type : String) (j : Json) : Prop := FirstTrue type (j.itemsAt ["status", "conditions"])

theorem ConditionList.forall₂_of_ofJson? (j : Json) (s : ConditionList) (h : ofJson? j = some s)
    (hj : j.isArray = false) :
    List.Forall₂ (fun j c => Condition.ofJson? j = some c) (j.itemsAt ["conditions"]) s.conditions := by
  simp only [ofJson?, Option.bind_eq_bind, Option.bind_eq_some_iff, Option.pure_def, Option.some.injEq] at h
  obtain ⟨ms, hms, cs, hcs, rfl⟩ := h
  exact Json.forall₂_of_withDefault (Json.lookup_of_members? hms hj _) hcs

theorem accepted_iff {Spec : Type} {spec : Json → Option Spec} {j : Json} {c : Custom Spec ConditionList}
    (h : Custom.ofJson? spec ConditionList.ofJson? j = some c) (hj : givesConditions j = true) :
    accepted c = .ready () ↔ Reports "Accepted" j := by
  simp only [givesConditions, Bool.and_eq_true, List.all_eq_true, Bool.not_eq_true'] at hj
  rw [accepted, Readiness.ofObstacle_eq_ready]
  exact Condition.unmet?_eq_none_iff (Custom.forall₂_status ConditionList.forall₂_of_ofJson? h hj.1) hj.2 _

/-! ## Routes -/

/-- The status, the items of its list of this name and their conditions are no arrays. -/
def givesConditionsEach (k : String) (j : Json) : Bool :=
  !(j.at? ["status"]).any Json.isArray &&
    (j.itemsAt ["status", k]).all fun x => !x.isArray && (x.itemsAt ["conditions"]).all (!·.isArray)

/-- There are parents, and of each the first conditions `Accepted` and `ResolvedRefs` are true. -/
def Attached (j : Json) : Prop :=
  j.itemsAt ["status", "parents"] ≠ [] ∧ ∀ p ∈ j.itemsAt ["status", "parents"],
    FirstTrue "Accepted" (p.itemsAt ["conditions"]) ∧ FirstTrue "ResolvedRefs" (p.itemsAt ["conditions"])

theorem HttpRouteStatus.forall₂_of_ofJson? (j : Json) (s : HttpRouteStatus) (h : ofJson? j = some s)
    (hj : j.isArray = false) :
    List.Forall₂ (fun j p => ParentStatus.ofJson? j = some p) (j.itemsAt ["parents"]) s.parents := by
  simp only [ofJson?, Option.bind_eq_bind, Option.bind_eq_some_iff, Option.pure_def, Option.some.injEq] at h
  obtain ⟨ms, hms, ps, hps, rfl⟩ := h
  exact Json.forall₂_of_withDefault (Json.lookup_of_members? hms hj _) hps

namespace ParentStatus

theorem forall₂_of_ofJson? {j : Json} {p : ParentStatus} (h : ofJson? j = some p) (hj : j.isArray = false) :
    List.Forall₂ (fun j c => Condition.ofJson? j = some c) (j.itemsAt ["conditions"]) p.conditions := by
  simp only [ofJson?, Option.bind_eq_bind, Option.bind_eq_some_iff, Option.pure_def, Option.some.injEq] at h
  obtain ⟨ms, hms, _, -, _, -, cs, hcs, rfl⟩ := h
  exact Json.forall₂_of_withDefault (Json.lookup_of_members? hms hj _) hcs

theorem failure?_eq_none_iff {route : String} {p : ParentStatus} : p.failure? route = none ↔
    Condition.unmet? p.conditions acceptedType = none ∧ Condition.unmet? p.conditions resolvedRefsType = none := by
  unfold failure?
  cases Condition.unmet? p.conditions acceptedType <;>
    cases Condition.unmet? p.conditions resolvedRefsType <;> simp

end ParentStatus

namespace HttpRoute

theorem failure?_eq_none_iff {r : HttpRoute} :
    r.failure? = none ↔ r.parents ≠ [] ∧ ∀ p ∈ r.parents, p.failure? r.title = none := by
  unfold failure?
  cases r.parents <;> simp

end HttpRoute

theorem attached_iff {j : Json} {r : HttpRoute} (h : Resource.ofJson? j = some r)
    (hj : givesConditionsEach "parents" j = true) : r.attached = .ready () ↔ Attached j := by
  simp only [givesConditionsEach, Bool.and_eq_true, List.all_eq_true, Bool.not_eq_true'] at hj
  have hread : List.Forall₂ (fun j p => ParentStatus.ofJson? j = some p) (j.itemsAt ["status", "parents"]) r.parents :=
    Custom.forall₂_status HttpRouteStatus.forall₂_of_ofJson? h hj.1
  have hsome : j.itemsAt ["status", "parents"] ≠ [] ↔ r.parents ≠ [] := by
    rw [← List.length_pos_iff, ← List.length_pos_iff, hread.length_eq]
  rw [HttpRoute.attached, Readiness.ofObstacle_eq_ready, HttpRoute.failure?_eq_none_iff, Attached, hsome]
  refine and_congr_right fun _ => (Json.forall_mem_iff hread fun x hx p hp => ?_).symm
  have hconditions := ParentStatus.forall₂_of_ofJson? hp (hj.2 x hx).1
  rw [ParentStatus.failure?_eq_none_iff, ← Condition.unmet?_eq_none_iff hconditions (hj.2 x hx).2,
    ← Condition.unmet?_eq_none_iff hconditions (hj.2 x hx).2]
  rfl

/-! ## DNS records -/

/-- Of some zone the first condition `Published` is true. -/
def Published (j : Json) : Prop :=
  ∃ z ∈ j.itemsAt ["status", "zones"], FirstTrue "Published" (z.itemsAt ["conditions"])

theorem DnsRecordStatus.forall₂_of_ofJson? (j : Json) (s : DnsRecordStatus) (h : ofJson? j = some s)
    (hj : j.isArray = false) :
    List.Forall₂ (fun j z => ZoneStatus.ofJson? j = some z) (j.itemsAt ["zones"]) s.zones := by
  simp only [ofJson?, Option.bind_eq_bind, Option.bind_eq_some_iff, Option.pure_def, Option.some.injEq] at h
  obtain ⟨ms, hms, zs, hzs, _, -, rfl⟩ := h
  exact Json.forall₂_of_withDefault (Json.lookup_of_members? hms hj _) hzs

theorem ZoneStatus.forall₂_of_ofJson? {j : Json} {z : ZoneStatus} (h : ofJson? j = some z) (hj : j.isArray = false) :
    List.Forall₂ (fun j c => Condition.ofJson? j = some c) (j.itemsAt ["conditions"]) z.conditions := by
  simp only [ofJson?, Option.bind_eq_bind, Option.bind_eq_some_iff, Option.pure_def, Option.some.injEq] at h
  obtain ⟨ms, hms, _, -, cs, hcs, rfl⟩ := h
  exact Json.forall₂_of_withDefault (Json.lookup_of_members? hms hj _) hcs

theorem DnsRecord.publishedIn_eq_ready_iff {zs : List ZoneStatus} {last : String} :
    publishedIn last zs = .ready () ↔ ¬∀ z ∈ zs, ¬unpublished z = none := by
  induction zs generalizing last with
  | nil => simp [publishedIn]
  | cons z zs ih =>
    unfold publishedIn
    rw [List.forall_mem_cons]
    cases unpublished z <;> simp [ih]

theorem published_iff {j : Json} {r : DnsRecord} (h : Resource.ofJson? j = some r)
    (hj : givesConditionsEach "zones" j = true) : r.published = .ready () ↔ Published j := by
  simp only [givesConditionsEach, Bool.and_eq_true, List.all_eq_true, Bool.not_eq_true'] at hj
  have hread : List.Forall₂ (fun j z => ZoneStatus.ofJson? j = some z) (j.itemsAt ["status", "zones"]) r.zones :=
    Custom.forall₂_status DnsRecordStatus.forall₂_of_ofJson? h hj.1
  rw [DnsRecord.published, DnsRecord.publishedIn_eq_ready_iff, Published, ← not_forall_not, not_iff_not]
  simp only [not_and]
  refine (Json.forall_mem_iff hread fun x hx z hz => not_congr ?_).symm
  exact (Condition.unmet?_eq_none_iff (ZoneStatus.forall₂_of_ofJson? hz (hj.2 x hx).1) (hj.2 x hx).2 _).symm

/-! ## Control planes -/

/-- The status and its readiness are no arrays. -/
def givesReadiness (j : Json) : Bool :=
  !(j.at? ["status"]).any Json.isArray && !(j.at? ["status", "readiness"]).any Json.isArray

/-- The components are listed by state: none pending, none unready, some ready. -/
def AllComponentsReady (j : Json) : Prop :=
  (∃ ms, j.at? ["status", "readiness", "components"] = some (.object ms)) ∧
    j.itemsAt ["status", "readiness", "components", "pending"] = [] ∧
    j.itemsAt ["status", "readiness", "components", "unready"] = [] ∧
    j.itemsAt ["status", "readiness", "components", "ready"] ≠ []

namespace ControlPlane

variable {j : Json} {c : ControlPlane}

/-- The states are the object that lists the components. -/
theorem states?_of_ofJson? (h : Resource.ofJson? j = some c) (hj : givesReadiness j = true) :
    (c.states? = none ∧ ∀ ms, j.at? ["status", "readiness", "components"] ≠ some (.object ms)) ∨
      ∃ x d, c.states? = some d ∧ j.at? ["status", "readiness", "components"] = some x ∧
        Json.dict? (Json.list? Json.string?) x = some d := by
  simp only [givesReadiness, Bool.and_eq_true, Bool.not_eq_true'] at hj
  rcases Custom.status_of_ofJson? h with ⟨hc, habsent⟩ | ⟨x, s, hc, hx, hs⟩
  · exact .inl ⟨by simp [states?, hc], by simp [Json.at?_of_absent habsent]⟩
  simp only [ControlPlaneStatus.ofJson?, Option.bind_eq_bind, Option.bind_eq_some_iff, Option.pure_def,
    Option.some.injEq, Json.withDefault] at hs
  obtain ⟨ms, hms, r, hr, rfl⟩ := hs
  rw [Json.lookup_of_members? hms (by simpa [hx] using hj.1)] at hr
  split at hr
  · rename_i y hy
    simp only [ComponentStates.ofJson?, Option.bind_eq_bind, Option.bind_eq_some_iff, Option.pure_def,
      Option.some.injEq] at hr
    obtain ⟨ms', hms', o, ho, rfl⟩ := hr
    have hmembers := Json.lookup_of_members? hms' (by simpa [hx, hy] using hj.2) "components"
    cases o with
    | none =>
      refine .inl ⟨by simp [states?, hc], fun ms => ?_⟩
      rcases Json.absent_of_optional hmembers ho with hz | hz <;> simp [hx, hy, hz]
    | some d =>
      obtain ⟨z, hz, hd⟩ := Json.get?_of_optional hmembers ho
      exact .inr ⟨z, d, by simp [states?, hc], by simp [hx, hy, hz], hd⟩
  · rename_i hy
    cases hr
    exact .inl ⟨by simp [states?, hc], by simp [hx, hy]⟩

theorem ready_eq_ready_iff : c.ready = .ready () ↔
    c.hasReadiness = true ∧ c.components "pending" = [] ∧ c.components "unready" = [] ∧ c.components "ready" ≠ [] := by
  unfold ready
  cases c.hasReadiness
  · simp
  · rcases c.components "pending" with _ | ⟨p, ps⟩ <;> rcases c.components "unready" with _ | ⟨u, us⟩ <;>
      rcases c.components "ready" with _ | ⟨r, rs⟩ <;> simp

end ControlPlane

theorem allComponentsReady_iff {j : Json} {c : ControlPlane} (h : Resource.ofJson? j = some c)
    (hj : givesReadiness j = true) (hnames : j.hasUniqueNames = true) :
    c.ready = .ready () ↔ AllComponentsReady j := by
  rw [ControlPlane.ready_eq_ready_iff, AllComponentsReady, ControlPlane.hasReadiness]
  rcases ControlPlane.states?_of_ofJson? h hj with ⟨hc, hnone⟩ | ⟨x, d, hc, hx, hd⟩
  · simp only [hc, Option.isSome_none, Bool.false_eq_true, false_and, false_iff, not_and]
    exact fun ⟨ms, hms⟩ => absurd hms (hnone ms)
  · have hitems : ∀ state, c.components state = [] ↔
        j.itemsAt ["status", "readiness", "components", state] = [] := by
      intro state
      rw [show j.itemsAt ["status", "readiness", "components", state] = x.itemsAt [state] from
        Json.itemsAt_append hx [state]]
      rcases Json.find?_of_dict? hd (Json.hasUniqueNames_at? hnames hx) state with ⟨hk, hfind⟩ | ⟨y, ns, hk, hfind, hns⟩
      · simp [ControlPlane.components, hc, hfind, Json.itemsAt, hk]
      · obtain ⟨js, rfl, hjs⟩ := Json.forall₂_of_list? hns
        simp [ControlPlane.components, hc, hfind, Json.itemsAt, hk, ← List.length_eq_zero_iff, hjs.length_eq]
    have hobject : ∃ ms, j.at? ["status", "readiness", "components"] = some (.object ms) := by
      cases x <;> simp only [Json.dict?, reduceCtorEq] at hd
      exact ⟨_, hx⟩
    simp only [hc, Option.isSome_some, hobject, true_and, hitems, ne_eq]

/-! ## Catalogs -/

/-- The status and its connection state are no arrays. -/
def givesConnectionState (j : Json) : Bool :=
  !(j.at? ["status"]).any Json.isArray && !(j.at? ["status", "connectionState"]).any Json.isArray

/-- The last observed state is `READY`. -/
def InstallableFrom (j : Json) : Prop := j.textAt ["status", "connectionState", "lastObservedState"] = some "READY"

theorem CatalogSource.lastObservedState?_of_ofJson? {j : Json} {c : CatalogSource} (h : Resource.ofJson? j = some c)
    (hj : givesConnectionState j = true) :
    c.lastObservedState?.getD "" = (j.textAt ["status", "connectionState", "lastObservedState"]).getD "" := by
  simp only [givesConnectionState, Bool.and_eq_true, Bool.not_eq_true'] at hj
  rcases Custom.status_of_ofJson? h with ⟨hc, habsent⟩ | ⟨x, s, hc, hx, hs⟩
  · simp [lastObservedState?, hc, Json.textAt, Json.at?_of_absent habsent]
  simp only [CatalogStatus.ofJson?, Option.bind_eq_bind, Option.bind_eq_some_iff, Option.pure_def,
    Option.some.injEq] at hs
  obtain ⟨ms, hms, o, ho, rfl⟩ := hs
  have hmembers := Json.lookup_of_members? hms (by simpa [hx] using hj.1) "connectionState"
  cases o with
  | none =>
    rcases Json.absent_of_optional hmembers ho with hy | hy <;> simp [lastObservedState?, hc, Json.textAt, hx, hy]
  | some state =>
    obtain ⟨y, hy, hstate⟩ := Json.get?_of_optional hmembers ho
    simp only [ConnectionState.ofJson?, Option.bind_eq_bind, Option.bind_eq_some_iff, Option.pure_def,
      Option.some.injEq, Json.withDefault] at hstate
    obtain ⟨ms', hms', _, -, seen, hseen, rfl⟩ := hstate
    rw [Json.lookup_of_members? hms' (by simpa [hx, hy] using hj.2)] at hseen
    split at hseen
    · rename_i z hz
      simp [lastObservedState?, hc, Json.textAt, hx, hy, hz, hseen]
    · rename_i hz
      cases hseen
      simp [lastObservedState?, hc, Json.textAt, hx, hy, hz]

theorem installableFrom_iff {j : Json} {c : CatalogSource} (h : Resource.ofJson? j = some c)
    (hj : givesConnectionState j = true) : c.ready = .ready () ↔ InstallableFrom j := by
  have hready : c.ready = .ready () ↔ c.lastObservedState?.getD "" = "READY" := by
    unfold CatalogSource.ready CatalogSource.readyState
    cases c.lastObservedState? <;> simp
  rw [hready, CatalogSource.lastObservedState?_of_ofJson? h hj, InstallableFrom,
    Json.getD_empty_eq_iff (by decide)]

/-! ## Definitions -/

/-- The name of the last version marked as served; one without a name is called nothing. -/
def servedVersionAt (j : Json) : Option String :=
  ((j.itemsAt ["spec", "versions"]).reverse.find? fun v => (v.get? "served").bind Json.bool? == some true).map
    fun v => (v.textAt ["name"]).getD ""

theorem Definition.established_eq_ready_iff {d : Definition} : d.established = .ready () ↔
    ∃ c, d.conditions.find? (·.type == establishedType) = some c ∧ Tristate.ofText c.status = .yes := by
  unfold established
  rcases hc : d.conditions.find? (·.type == establishedType) with _ | c
  · simp [hc]
  · cases h : Tristate.ofText c.status <;> simp [hc, h]

variable [ApiTypes]

theorem DefinitionCondition.texts_of_ofJson? {j : Json} {c : DefinitionCondition} (h : ofJson? j = some c)
    (hj : j.hasUniqueNames = true) :
    c.type = (j.textAt ["type"]).getD "" ∧ c.status = (j.textAt ["status"]).getD "" := by
  simp only [ofJson?, Option.bind_eq_bind, Option.bind_eq_some_iff, Option.pure_def, Option.some.injEq] at h
  obtain ⟨ms, hms, type, htype, status, hstatus, _, -, rfl⟩ := h
  replace hms := ApiType.openMembers?_of_members? hms
  obtain ⟨o, ho, rfl⟩ := Json.optional_of_lastOr hms hj htype
  obtain ⟨o', ho', rfl⟩ := Json.optional_of_lastOr hms hj hstatus
  rw [Json.textAt_singleton, Json.textAt_singleton,
    ← Json.eq_bind_of_optional rfl (Json.lookup_of_openMembers? hms _) ho,
    ← Json.eq_bind_of_optional rfl (Json.lookup_of_openMembers? hms _) ho']
  exact ⟨rfl, rfl⟩

theorem DefinitionStatus.forall₂_of_ofJson? {j : Json} {s : DefinitionStatus} (h : ofJson? j = some s)
    (hj : j.hasUniqueNames = true) :
    List.Forall₂ (fun j c => DefinitionCondition.ofJson? j = some c) (j.itemsAt ["conditions"])
      (s.conditions.getD []) := by
  simp only [ofJson?, Option.bind_eq_bind, Option.bind_eq_some_iff, Option.pure_def, Option.some.injEq] at h
  obtain ⟨ms, hms, o, ho, rfl⟩ := h
  replace hms := ApiType.openMembers?_of_members? hms
  exact Json.forall₂_of_optional (Json.lookup_of_openMembers? hms _) (Json.lastOf_eq_optional hms hj _ _ ▸ ho)

theorem DefinitionVersion.members_of_ofJson? {j : Json} {v : DefinitionVersion} (h : ofJson? j = some v)
    (hj : j.hasUniqueNames = true) :
    v.name = (j.textAt ["name"]).getD "" ∧ v.served = ((j.get? "served").bind Json.bool?).getD false := by
  simp only [ofJson?, Option.bind_eq_bind, Option.bind_eq_some_iff, Option.pure_def, Option.some.injEq] at h
  obtain ⟨ms, hms, name, hname, served, hserved, _, -, rfl⟩ := h
  replace hms := ApiType.openMembers?_of_members? hms
  obtain ⟨o, ho, rfl⟩ := Json.optional_of_lastOr hms hj hname
  obtain ⟨o', ho', rfl⟩ := Json.optional_of_lastOr hms hj hserved
  rw [Json.textAt_singleton, ← Json.eq_bind_of_optional rfl (Json.lookup_of_openMembers? hms _) ho,
    ← Json.eq_bind_of_optional rfl (Json.lookup_of_openMembers? hms _) ho']
  exact ⟨rfl, rfl⟩

theorem DefinitionSpec.forall₂_of_ofJson? {j : Json} {s : DefinitionSpec} (h : ofJson? j = some s)
    (hj : j.hasUniqueNames = true) :
    List.Forall₂ (fun j v => DefinitionVersion.ofJson? j = some v) (j.itemsAt ["versions"]) s.versions := by
  simp only [ofJson?, Option.bind_eq_bind, Option.bind_eq_some_iff, Option.pure_def, Option.some.injEq] at h
  obtain ⟨ms, hms, _, -, _, -, _, -, versions, hversions, rfl⟩ := h
  replace hms := ApiType.openMembers?_of_members? hms
  obtain ⟨o, ho, rfl⟩ := Json.optional_of_lastOr hms hj hversions
  exact Json.forall₂_of_optional (Json.lookup_of_openMembers? hms _) ho

namespace Definition

variable {j : Json} {d : Definition}

/-- What a definition says of itself is read from its spec and its status. -/
theorem parts_of_ofJson? (h : ofJson? j = some d) (hj : j.hasUniqueNames = true) :
    List.Forall₂ (fun j c => DefinitionCondition.ofJson? j = some c) (j.itemsAt ["status", "conditions"])
        d.conditions ∧
      List.Forall₂ (fun j v => DefinitionVersion.ofJson? j = some v) (j.itemsAt ["spec", "versions"])
        d.spec.versions := by
  simp only [ofJson?, Kind.openMembers?, Option.bind_eq_bind, Option.bind_eq_some_iff, Option.pure_def,
    Option.some.injEq] at h
  obtain ⟨ms, ⟨ms', hms, hkind⟩, _, -, spec, hspec, status, hstatus, rfl⟩ := h
  obtain rfl : ms' = ms := by split at hkind <;> cases hkind; rfl
  have hmembers := Json.lookup_of_openMembers? hms
  obtain ⟨o, ho, rfl⟩ := Json.optional_of_lastOr hms hj hspec
  rw [Json.lastOf_eq_optional hms hj] at hstatus
  constructor
  · cases status with
    | none =>
      simp [conditions, Json.itemsAt, Json.at?_of_absent (Json.absent_of_optional (hmembers _) hstatus)]
    | some s =>
      obtain ⟨x, hx, hs⟩ := Json.get?_of_optional (hmembers _) hstatus
      rw [Json.itemsAt_cons hx]
      exact DefinitionStatus.forall₂_of_ofJson? hs (Json.hasUniqueNames_get? hj hx)
  · cases o with
    | none => rcases Json.absent_of_optional (hmembers _) ho with hx | hx <;> simp [Json.itemsAt, hx]
    | some s =>
      obtain ⟨x, hx, hs⟩ := Json.get?_of_optional (hmembers _) ho
      rw [Json.itemsAt_cons hx]
      exact DefinitionSpec.forall₂_of_ofJson? hs (Json.hasUniqueNames_get? hj hx)

end Definition

theorem established_iff {j : Json} {d : Definition} (h : Resource.ofJson? j = some d) (hj : j.hasUniqueNames = true) :
    d.established = .ready () ↔ Reports "Established" j := by
  have hread := (List.forall₂_and_left _ _).mpr ⟨fun x hx => Json.hasUniqueNames_itemsAt hj hx,
    (Definition.parts_of_ofJson? h hj).1⟩
  have hfind := Json.find?_cases hread (p := fun j => j.textAt ["type"] == some Definition.establishedType)
    (q := fun c => c.type == Definition.establishedType) fun x c hc => by
      rw [(DefinitionCondition.texts_of_ofJson? hc.2 hc.1).1, Bool.eq_iff_iff, beq_iff_eq, beq_iff_eq,
        Json.getD_empty_eq_iff (by decide)]
  rw [Definition.established_eq_ready_iff, Reports, FirstTrue]
  rcases hfind with ⟨hx, hc⟩ | ⟨x, c, hx, hc, -, hnames, hread⟩ <;> rw [Definition.establishedType] at hx
  · simp [hx, hc]
  · have hyes : Tristate.ofText c.status = .yes ↔ x.textAt ["status"] = some "True" := by
      rw [Tristate.ofText_eq_yes, (DefinitionCondition.texts_of_ofJson? hread hnames).2,
        Json.getD_empty_eq_iff (by decide)]
    simp [hx, hc, hyes]

theorem servedVersion?_eq {j : Json} {d : Definition} (h : Resource.ofJson? j = some d)
    (hj : j.hasUniqueNames = true) : d.servedVersion? = servedVersionAt j := by
  have hread := (List.forall₂_and_left _ _).mpr ⟨fun x hx => Json.hasUniqueNames_itemsAt hj hx,
    (Definition.parts_of_ofJson? h hj).2⟩
  have hfind := Json.find?_cases (List.forall₂_reverse_iff.mpr hread)
    (p := fun v => (v.get? "served").bind Json.bool? == some true) (q := (·.served)) fun x v hv => by
      rw [(DefinitionVersion.members_of_ofJson? hv.2 hv.1).2]
      rcases (x.get? "served").bind Json.bool? with _ | _ | _ <;> rfl
  unfold Definition.servedVersion? servedVersionAt
  rcases hfind with ⟨hx, hv⟩ | ⟨x, v, hx, hv, -, hnames, hread⟩
  · rw [hx, hv]
    rfl
  · rw [hx, hv, Option.map_some, Option.map_some, (DefinitionVersion.members_of_ofJson? hread hnames).1]

end ClusterProbe
