/-
  ClusterProbe.Proofs.Course — requests that change the cluster, and where in a run they
  are sent.

  A request that is no GET changes what is stored. It must not be sent where it may be
  cut off or sent again, which is inside a poll: there a deadline ends an attempt in the
  middle, and another attempt follows. So of a run it matters what it sends on its own,
  outside of its polls, and that the attempts of its polls only look.

  - `Attempt.Looks`: no request of the attempt, however its replies read, changes
    anything. Carried out, it leaves looks behind (`run_looks`), and so does a poll of
    such attempts (`poll_looks`).
  - `World.Course`: from one world to a later one by log entries, requests on their own
    and polls that look. `Course.changes_eq`: what was changed was so by requests on
    their own; `Course.answered`: each of them was waited for.
  - `Session.Does`: what every run of a program changes, together with its result. The
    rules follow the program: one for each way to put it together.
-/

import ClusterProbe.Proofs.Contacts
import ClusterProbe.Proofs.Ending

namespace ClusterProbe

variable {α β : Type}

/-! ## Changes -/

def Exchange.isChange (x : Exchange) : Bool := x.request.method != .get

/-- Those of the requests that change what is stored. -/
def changes (xs : List Exchange) : List Exchange := xs.filter Exchange.isChange

@[simp] theorem changes_append (xs ys : List Exchange) : changes (xs ++ ys) = changes xs ++ changes ys :=
  List.filter_append xs ys

theorem changes_eq_nil_iff {xs : List Exchange} : changes xs = [] ↔ ∀ x ∈ xs, x.request.method = .get := by
  simp [changes, Exchange.isChange]

namespace World.Makes

/-- The requests among the contacts. -/
theorem exchanges {w w' : World} {es : List Event} (h : w.Makes es w') :
    w'.exchanges = w.exchanges ++ es.filterMap Event.exchange? := by
  have hcontacts : ∀ w : World, w.exchanges = w.contacts.filterMap Event.exchange? := by
    intro w
    simp only [World.exchanges, World.contacts, List.filterMap_filter]
    congr
    funext e
    cases e <;> rfl
  rw [hcontacts, hcontacts, h.contacts, List.filterMap_append]

end World.Makes

/-! ## Attempts that look -/

/-- The contact changes nothing in the cluster. -/
def Event.Looks (e : Event) : Prop := ∀ t q x, e = .exchange t q x → q.method = .get

theorem changes_of_looks {es : List Event} (h : ∀ e ∈ es, e.Looks) : changes (es.filterMap Event.exchange?) = [] := by
  rw [changes_eq_nil_iff]
  intro x hx
  obtain ⟨e, he, hex⟩ := List.mem_filterMap.mp hx
  cases e with
  | exchange t q r =>
    cases hex
    exact h _ he t q r rfl
  | log | lookup | probe | attempt => cases hex

namespace Attempt

/-- Whatever it is told, the attempt sends no request but to get something. -/
def Looks : Attempt α → Prop
  | done _ | never => True
  | wait _ next => next.Looks
  | request q next => q.method = .get ∧ ∀ r, (next r).Looks
  | lookup _ _ next => ∀ r, (next r).Looks
  | probe _ _ next => ∀ r, (next r).Looks

theorem Looks.map {a : Attempt α} (h : a.Looks) (f : α → β) : (a.map f).Looks := by
  induction a with
  | done | never => trivial
  | wait _ next ih => exact ih h
  | request q next ih => exact ⟨h.1, fun r => ih r (h.2 r)⟩
  | lookup _ _ next ih => exact fun r => ih r (h r)
  | probe _ _ next ih => exact fun r => ih r (h r)

theorem run_looks {a : Attempt α} (h : a.Looks) (deadline : Nat) (w : World) :
    ∃ es, w.Makes es (a.run deadline w).2 ∧ ∀ e ∈ es, e.Looks := by
  -- What asks in time makes one contact, which is a look, before it goes on.
  have hcons : ∀ {w w' w'' : World} {e : Event}, w.Makes [e] w' → e.Looks →
      (∃ es, w'.Makes es w'' ∧ ∀ e ∈ es, e.Looks) → ∃ es, w.Makes es w'' ∧ ∀ e ∈ es, e.Looks := by
    rintro w w' w'' e hfirst he ⟨es, hrest, hes⟩
    exact ⟨e :: es, hfirst.trans hrest, List.forall_mem_cons.mpr ⟨he, hes⟩⟩
  have hnone : ∀ e ∈ ([] : List Event), e.Looks := List.forall_mem_nil _
  induction a generalizing w with
  | done => exact ⟨[], .nothing w, hnone⟩
  | never => exact ⟨[], (World.Makes.nothing w).advanceTo deadline, hnone⟩
  | wait t next ih => exact World.Makes.inTime (ih h) w
  | request q next ih =>
    have hlook : (Event.exchange w.clock q (w.exchange q).1).Looks := by
      rintro t q' x ⟨⟩
      exact h.1
    simp only [run]
    split
    · exact ⟨[], .nothing w, hnone⟩
    · exact hcons (World.Makes.exchange w q) hlook (World.Makes.inTime (ih _ (h.2 _)) _)
  | lookup host port next ih =>
    have hlook : (Event.lookup w.clock host port (w.lookup host port).1).Looks := by rintro t q x ⟨⟩
    simp only [run]
    split
    · exact hcons (World.Makes.lookup w host port) hlook ⟨[], .nothing _, hnone⟩
    · exact hcons (World.Makes.lookup w host port) hlook (World.Makes.inTime (ih _ (h _)) _)
  | probe url patience next ih =>
    have hlook : (Event.probe w.clock url patience (w.probe url patience).1).Looks := by rintro t q x ⟨⟩
    simp only [run]
    split
    · exact ⟨[], .nothing w, hnone⟩
    · exact hcons (World.Makes.probe w url patience) hlook (World.Makes.inTime (ih _ (h _)) _)

end Attempt

/-- Every attempt of the poll looks only. -/
def Poll.Check.Looks (check : Poll.Check α) : Prop := ∀ n, (check n).Looks

theorem poll_looks {check : Poll.Check α} (h : check.Looks) (what : String) (b : Budget) (w : World) :
    ∃ es, w.Makes es (Session.poll what b check w).2 ∧ ∀ e ∈ es, e.Looks :=
  Poll.poll_makes (fun n => Attempt.run_looks (h n)) what b w

/-! ## The course of a run -/

namespace World

/-- From the first world to the second by entries in the log, by these requests, each sent on its own and waited for,
and by polls that look. -/
inductive Course (w : World) : List Exchange → World → Prop
  | nothing : Course w [] w
  | log {xs : List Exchange} {w' : World} (l : Level) (s : String) : Course w xs w' → Course w xs (w'.log l s)
  | send {xs : List Exchange} {w' : World} (q : Request) :
      Course w xs w' → Course w (xs ++ [w'.asked q]) (w'.ask q)
  | poll {xs : List Exchange} {w' : World} {α : Type} {check : Poll.Check α} (what : String) (b : Budget) :
      check.Looks → Course w xs w' → Course w xs (Session.poll what b check w').2

theorem Makes.ask (w : World) (q : Request) : w.Makes [.exchange w.clock q (w.exchange q).1] (w.ask q) :=
  (Makes.exchange w q).advance _

namespace Course

variable {w w' w'' : World} {xs ys : List Exchange}

theorem trans (h : w.Course xs w') (h' : w'.Course ys w'') : w.Course (xs ++ ys) w'' := by
  induction h' with
  | nothing => simpa using h
  | log l s _ ih => exact ih.log l s
  | send q _ ih => simpa using ih.send q
  | poll what b hlooks _ ih => exact ih.poll what b hlooks

/-- Everything that a course sends, its polls included: what changes anything was sent on its own. -/
theorem changes_eq (h : w.Course xs w') :
    ∃ all, w'.exchanges = w.exchanges ++ all ∧ changes all = changes xs := by
  induction h with
  | nothing => exact ⟨[], (List.append_nil _).symm, rfl⟩
  | log l s _ ih =>
    obtain ⟨all, hall, hchanges⟩ := ih
    exact ⟨all, by rw [exchanges_log, hall], hchanges⟩
  | @send xs w' q _ ih =>
    obtain ⟨all, hall, hchanges⟩ := ih
    refine ⟨all ++ [w'.asked q], ?_, ?_⟩
    · rw [exchanges_ask, hall, List.append_assoc]
    · rw [changes_append, changes_append, hchanges]
  | @poll xs w' α check what b hlooks _ ih =>
    obtain ⟨all, hall, hchanges⟩ := ih
    obtain ⟨es, hmakes, hes⟩ := poll_looks hlooks what b w'
    refine ⟨all ++ es.filterMap Event.exchange?, ?_, ?_⟩
    · rw [hmakes.exchanges, hall, List.append_assoc]
    · rw [changes_append, changes_of_looks hes, List.append_nil, hchanges]

/-- No request that was sent on its own is cut off. -/
theorem answered (h : w.Course xs w') : ∀ x ∈ xs, x.arrival ≤ w'.clock := by
  induction h with
  | nothing => exact List.forall_mem_nil _
  | log l s _ ih => exact ih
  | @send xs w' q _ ih =>
    intro x hx
    rcases List.mem_append.mp hx with hx | hx
    · exact Nat.le_trans (ih x hx) (Makes.ask w' q).clock
    · rw [List.mem_singleton.mp hx]
      exact Nat.le_refl _
  | @poll xs w' α check what b hlooks _ ih =>
    obtain ⟨es, hmakes, -⟩ := poll_looks hlooks what b w'
    intro x hx
    exact Nat.le_trans (ih x hx) hmakes.clock

end Course

end World

/-! ## What programs change -/

/-- Every run takes a course whose changes, with the result, are as said. -/
def Session.Does (s : Session α) (P : List Exchange → Except ProbeError α → Prop) : Prop :=
  ∀ w, ∃ xs, w.Course xs (s w).2 ∧ P (changes xs) (s w).1

/-- Every run changes nothing. -/
def Session.OnlyLooks (s : Session α) : Prop := s.Does fun xs _ => xs = []

namespace Session.Does

variable {s : Session α} {f : α → Session β} {P P' : List Exchange → Except ProbeError α → Prop}
  {Q : List Exchange → Except ProbeError β → Prop}

theorem mono (h : s.Does P) (himp : ∀ xs r, P xs r → P' xs r) : s.Does P' := by
  intro w
  obtain ⟨xs, hcourse, hP⟩ := h w
  exact ⟨xs, hcourse, himp _ _ hP⟩

/-- What is known of the result besides. -/
theorem with_result (h : s.Does P) {R : Except ProbeError α → Prop} (hR : ∀ w, R (s w).1) :
    s.Does fun xs r => P xs r ∧ R r := by
  intro w
  obtain ⟨xs, hcourse, hP⟩ := h w
  exact ⟨xs, hcourse, hP, hR w⟩

theorem pure {a : α} (h : P [] (.ok a)) : Does (Pure.pure a) P := fun _ => ⟨[], .nothing, h⟩

theorem throw {e : ProbeError} (h : P [] (.error e)) : Does (MonadExcept.throw e) P := fun _ => ⟨[], .nothing, h⟩

theorem log {R : List Exchange → Except ProbeError Unit → Prop} (l : Level) (text : String) (h : R [] (.ok ())) :
    Does (Session.log l text) R := fun _ => ⟨[], .log l text .nothing, h⟩

/-- One program after another: the second begins where the first one ends well, and adds to its changes. -/
theorem bind (hs : s.Does P) (hok : ∀ xs a, P xs (.ok a) → (f a).Does fun ys r => Q (xs ++ ys) r)
    (herror : ∀ xs e, P xs (.error e) → Q xs (.error e)) : (s >>= f).Does Q := by
  intro w
  obtain ⟨xs, hcourse, hP⟩ := hs w
  rw [Session.run_bind]
  rcases hrun : s w with ⟨e | a, w'⟩ <;> rw [hrun] at hcourse hP
  · exact ⟨xs, hcourse, herror _ e hP⟩
  · obtain ⟨ys, hcourse', hQ⟩ := hok _ a hP w'
    refine ⟨xs ++ ys, hcourse.trans hcourse', ?_⟩
    rw [changes_append]
    exact hQ

/-- After a program whose result does not matter for what it changed, one that looks adds nothing. -/
theorem bind_looks {A : List Exchange → Prop} (hs : s.Does fun xs _ => A xs) (hf : ∀ a, (f a).OnlyLooks) :
    (s >>= f).Does fun xs _ => A xs := by
  refine bind hs ?_ fun _ _ hxs => hxs
  intro xs a hxs
  refine (hf a).mono ?_
  rintro ys r rfl
  rwa [List.append_nil]

/-- A request sent on its own is the only one. -/
theorem send (q : Except RequestError Request) (read : Reply → Except RequestError α) :
    Does (Session.send q read) fun xs _ => (xs.map fun x => .ok x.request).Sublist [q] := by
  intro w
  rcases q with e | q
  · exact ⟨[], .nothing, List.nil_sublist _⟩
  · refine ⟨[w.asked q], World.Course.nothing.send q, ?_⟩
    exact (List.filter_sublist.map fun x => Except.ok x.request : List.Sublist _ ([w.asked q].map _))

end Session.Does

namespace Session.OnlyLooks

variable {s : Session α} {f : α → Session β}

theorem pure (a : α) : OnlyLooks (Pure.pure a) := Does.pure rfl

theorem throw (e : ProbeError) : OnlyLooks (MonadExcept.throw e : Session α) := Does.throw rfl

theorem info (text : String) : OnlyLooks (Session.info text) := Does.log _ _ rfl

theorem debug (text : String) : OnlyLooks (Session.debug text) := Does.log _ _ rfl

theorem bind (hs : s.OnlyLooks) (hf : ∀ a, (f a).OnlyLooks) : (s >>= f).OnlyLooks := by
  refine Does.bind hs ?_ fun xs e hxs => hxs
  rintro xs a rfl
  exact hf a

/-- What was found is told and handed on. -/
theorem reported (hs : s.OnlyLooks) (text : α → String) (result : α → β) :
    OnlyLooks (do
      let a ← s
      Session.info (text a)
      return result a) :=
  hs.bind fun a => (info (text a)).bind fun _ => pure (result a)

theorem poll {check : Poll.Check α} (h : check.Looks) (what : String) (b : Budget) :
    OnlyLooks (Session.poll what b check) := fun _ => ⟨[], .poll what b h .nothing, rfl⟩

theorem send {q : Except RequestError Request} (h : ∀ q', q = .ok q' → q'.method = .get)
    (read : Reply → Except RequestError α) : OnlyLooks (Session.send q read) := by
  intro w
  rcases q with e | q
  · exact ⟨[], .nothing, rfl⟩
  · refine ⟨[w.asked q], World.Course.nothing.send q, changes_eq_nil_iff.mpr ?_⟩
    intro x hx
    rw [List.mem_singleton.mp hx]
    exact h q rfl

end Session.OnlyLooks

end ClusterProbe
