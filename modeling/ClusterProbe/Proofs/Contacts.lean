/-
  ClusterProbe.Proofs.Contacts — what a run has to do with the world outside.

  A run meets the world outside when a request is exchanged, a name looked up or an HTTP
  request sent: its contacts (`World.contacts`). Logging, waiting and beginning an attempt
  make none. Between two worlds of a run (`World.Makes`) contacts were only added, the
  clock did not go back, the timer and the client are the same, and the two scripts have
  moved on by as many answers as there were lookups and HTTP requests.

  - `Poll.Keeps.loop_makes`: what each attempt says of the contacts so far, while nothing is
    found and when the poll ends, holds of the whole poll. Nothing is asked of the budget.
-/

import ClusterProbe.Proofs.Requests
import ClusterProbe.Session.Lifecycle

namespace ClusterProbe

namespace Event

def isContact : Event → Bool
  | exchange .. | lookup .. | probe .. => true
  | log .. | attempt .. => false

def isLookup : Event → Bool
  | lookup .. => true
  | _ => false

def isProbe : Event → Bool
  | probe .. => true
  | _ => false

end Event

/-- What comes after `k` others. -/
def Script.nth {α : Type} (s : Script α) : Nat → α
  | 0 => s.first
  | k + 1 => s.next.nth k

namespace World

/-- The dealings with the world outside, the oldest first. -/
def contacts (w : World) : List Event := w.history.filter Event.isContact

/-! ## From one world of a run to a later one -/

/-- From the first world to the second these contacts were made. -/
structure Makes (w : World) (es : List Event) (w' : World) : Prop where
  contacts : w'.contacts = w.contacts ++ es
  clock : w.clock ≤ w'.clock
  timer : w'.timer = w.timer
  client : w'.client = w.client
  /-- Each lookup takes one answer from the resolver's script; nothing else does. -/
  resolver : ∀ k, w'.resolver.nth k = w.resolver.nth (es.countP Event.isLookup + k)
  visits : ∀ k, w'.visits.nth k = w.visits.nth (es.countP Event.isProbe + k)

namespace Makes

variable {w w' w'' : World} {es es' : List Event}

theorem nothing (w : World) : w.Makes [] w :=
  ⟨by simp, Nat.le_refl _, rfl, rfl, fun k => by simp, fun k => by simp⟩

theorem trans (h : w.Makes es w') (h' : w'.Makes es' w'') : w.Makes (es ++ es') w'' where
  contacts := by rw [h'.contacts, h.contacts, List.append_assoc]
  clock := Nat.le_trans h.clock h'.clock
  timer := h'.timer.trans h.timer
  client := h'.client.trans h.client
  resolver k := by rw [h'.resolver, h.resolver, List.countP_append, Nat.add_assoc]
  visits k := by rw [h'.visits, h.visits, List.countP_append, Nat.add_assoc]

/-- What is recorded and is no contact. -/
theorem record (h : w.Makes es w') {e : Event} (he : e.isContact = false) : w.Makes es (w'.record e) :=
  { h with
    contacts := by
      rw [← h.contacts]
      simp [World.contacts, World.record, he] }

theorem log (h : w.Makes es w') (l : Level) (s : String) : w.Makes es (w'.log l s) := h.record rfl

theorem pass (h : w.Makes es w') (t : Nat) : w.Makes es (w'.pass t) :=
  { h with clock := Nat.le_trans h.clock (Nat.le_add_right _ _) }

theorem advance (h : w.Makes es w') (t : Nat) : w.Makes es (w'.advance t) := h.pass _

theorem advanceTo (h : w.Makes es w') (t : Nat) : w.Makes es (w'.advanceTo t) :=
  { h with clock := Nat.le_trans h.clock (Nat.le_max_left _ _) }

theorem exchange (w : World) (q : Request) : w.Makes [.exchange w.clock q (w.exchange q).1] (w.exchange q).2 where
  contacts := by simp [World.contacts, World.exchange, World.record, Event.isContact]
  clock := Nat.le_refl _
  timer := rfl
  client := rfl
  resolver k := by simp [World.exchange, World.record, Event.isLookup]
  visits k := by simp [World.exchange, World.record, Event.isProbe]

theorem lookup (w : World) (host : String) (port : Nat) :
    w.Makes [.lookup w.clock host port (w.lookup host port).1] (w.lookup host port).2 where
  contacts := by simp [World.contacts, World.lookup, World.record, Event.isContact]
  clock := Nat.le_refl _
  timer := rfl
  client := rfl
  resolver k := by
    have hcount : [Event.lookup w.clock host port (w.lookup host port).1].countP Event.isLookup = 1 := rfl
    rw [hcount, Nat.add_comm]
    rfl
  visits k := by simp [World.lookup, World.record, Event.isProbe]

theorem probe (w : World) (url : Http.Url) (patience : Duration) :
    w.Makes [.probe w.clock url patience (w.probe url patience).1] (w.probe url patience).2 where
  contacts := by simp [World.contacts, World.probe, World.record, Event.isContact]
  clock := Nat.le_refl _
  timer := rfl
  client := rfl
  resolver k := by simp [World.probe, World.record, Event.isLookup]
  visits k := by
    have hcount : [Event.probe w.clock url patience (w.probe url patience).1].countP Event.isProbe = 1 := rfl
    rw [hcount, Nat.add_comm]
    rfl

/-- What is done in time, or cut off before it is, adds its own contacts. -/
theorem inTime {α : Type} {deadline ticks : Nat} {next : World → Option α × World} {P : Event → Prop}
    (hnext : ∀ w : World, ∃ es, w.Makes es (next w).2 ∧ ∀ e ∈ es, P e) (w : World) :
    ∃ es, w.Makes es (Attempt.inTime deadline ticks next w).2 ∧ ∀ e ∈ es, P e := by
  unfold Attempt.inTime
  split
  · obtain ⟨es, hmakes, hes⟩ := hnext (w.pass ticks)
    exact ⟨es, ((nothing w).pass ticks).trans hmakes, hes⟩
  · exact ⟨[], (nothing w).advanceTo deadline, List.forall_mem_nil _⟩

end Makes

end World

/-! ## Polls -/

namespace Poll

variable {α : Type}

/-- What the attempts of a poll keep to that has come from world `w₀`: of the contacts made so far `Still` is kept by
every attempt that finds nothing, cut off or not; with one that ends the poll they fit its time and its result. -/
def Keeps (what : String) (b : Budget) (check : Check α) (start : Nat) (w₀ : World) (Still : List Event → Prop)
    (Fits : List Event → Nat → Except ProbeError α → Prop) : Prop :=
  ∀ n es w, w₀.Makes es w → Still es →
    let r := look what b check start n w
    ∃ more, w.Makes more r.2 ∧ match r.1 with
      | none | some (.ok (.pending _)) => Still (es ++ more)
      | some (.ok (.ready a)) => Fits (es ++ more) r.2.clock (.ok a)
      | some (.error e) => Fits (es ++ more) r.2.clock (.error e)

/-- An attempt makes the contacts that it makes when it is carried out. -/
theorem look_makes {check : Check α} {n : Nat} {P : Event → Prop}
    (hrun : ∀ deadline (w : World), ∃ es, w.Makes es ((check n).run deadline w).2 ∧ ∀ e ∈ es, P e) (what : String)
    (b : Budget) (start : Nat) (w : World) : ∃ es, w.Makes es (look what b check start n w).2 ∧ ∀ e ∈ es, P e := by
  obtain ⟨es, hmakes, hes⟩ := hrun (w.clock + w.timer.given (start + b.timeout.ticks - w.clock))
    (w.record (.attempt w.clock what))
  have hbegun : w.Makes [] (w.record (.attempt w.clock what)) := (World.Makes.nothing w).record rfl
  exact ⟨es, hbegun.trans hmakes, hes⟩

variable {what : String} {b : Budget} {check : Check α} {start : Nat} {w₀ : World} {Still : List Event → Prop}
  {Fits : List Event → Nat → Except ProbeError α → Prop}

/-- The contacts of the poll fit its end, if those of attempts that found nothing fit a timeout. -/
theorem Keeps.loop_makes (h : Keeps what b check start w₀ Still Fits)
    (htimeout : ∀ es time n m, Still es → Fits es time (.error (.timeout what b.timeout n m))) (rounds n : Nat)
    (last : String) {es : List Event} {w : World} (hw : w₀.Makes es w) (hstill : Still es) :
    let run := loop what b check start rounds n last w
    ∃ es, w₀.Makes es run.2 ∧ Fits es run.2.clock run.1 := by
  induction rounds generalizing n last es w with
  | zero => exact ⟨es, hw, htimeout _ _ _ _ hstill⟩
  | succ rounds ih =>
    obtain ⟨more, hmore, hends⟩ := h n es w hw hstill
    have hmade := hw.trans hmore
    rcases hlook : look what b check start n w with ⟨_ | e | a | m, w'⟩ <;> simp only [hlook] at hmade hends
    · rw [loop_of_cut hlook]
      exact ⟨_, hmade.log _ _, htimeout _ _ _ _ hends⟩
    · rw [loop_of_raised hlook]
      exact ⟨_, hmade, hends⟩
    · rw [loop_of_ready hlook]
      exact ⟨_, hmade.log _ _, hends⟩
    · rcases Nat.lt_or_ge w'.clock (start + b.timeout.ticks) with hleft | hlate
      · rw [loop_of_pending hlook hleft]
        exact ih (n + 1) m ((hmade.log _ _).advance _) hends
      · rw [loop_of_late hlook hlate]
        exact ⟨_, hmade.log _ _, htimeout _ _ _ _ hends⟩

/-- The same of a poll from its beginning. -/
theorem Keeps.poll_makes {w : World} (h : Keeps what b check w.clock w Still Fits)
    (htimeout : ∀ es time n m, Still es → Fits es time (.error (.timeout what b.timeout n m))) (hstill : Still []) :
    let run := Session.poll what b check w
    ∃ es, w.Makes es run.2 ∧ Fits es run.2.clock run.1 :=
  h.loop_makes htimeout _ 1 notLooked (.nothing w) hstill

/-- Contacts of one sort are all that a poll makes whose attempts make no others. -/
theorem poll_makes {P : Event → Prop}
    (hrun : ∀ n deadline (w : World), ∃ es, w.Makes es ((check n).run deadline w).2 ∧ ∀ e ∈ es, P e) (what : String)
    (b : Budget) (w : World) : ∃ es, w.Makes es (Session.poll what b check w).2 ∧ ∀ e ∈ es, P e := by
  have hkeeps : Keeps what b check w.clock w (fun es => ∀ e ∈ es, P e) (fun es _ _ => ∀ e ∈ es, P e) := by
    intro n es w' _ hes
    obtain ⟨more, hmore, hP⟩ := look_makes (hrun n) what b w.clock w'
    have hall : ∀ e ∈ es ++ more, P e := List.forall_mem_append.mpr ⟨hes, hP⟩
    refine ⟨more, hmore, ?_⟩
    split <;> exact hall
  exact hkeeps.poll_makes (fun _ _ _ _ hes => hes) (List.forall_mem_nil _)

end Poll

/-! ## Fetching -/

variable {K : Type} [Resource K]

/-- The contact is a request for the object of this name. -/
def Event.AsksFor (c : Collection K) (name : String) (e : Event) : Prop :=
  ∃ t q x, e = .exchange t q x ∧ c.getRequest name = .ok q

/-- One attempt to fetch an object sends the request for it or nothing. -/
theorem Collection.fetch_makes {β : Type} (c : Collection K) (name : String) (f : Except RequestError K → β)
    (deadline : Nat) (w : World) :
    ∃ es, w.Makes es (((c.fetch name).map f).run deadline w).2 ∧ ∀ e ∈ es, e.AsksFor c name := by
  rcases hq : c.getRequest name with e | q
  · rw [Collection.fetch_map_of_unsendable hq]
    exact ⟨[], .nothing w, List.forall_mem_nil _⟩
  · rw [Collection.fetch_map_of_sendable hq]
    simp only [Attempt.run]
    split
    · exact ⟨[], .nothing w, List.forall_mem_nil _⟩
    · refine ⟨[.exchange w.clock q (w.exchange q).1], ?_, ?_⟩
      · unfold Attempt.inTime
        split
        · exact (World.Makes.exchange w q).pass _
        · exact (World.Makes.exchange w q).advanceTo _
      · intro e he
        exact ⟨_, _, _, List.mem_singleton.mp he, hq⟩

/-- A poll for an object asks for it and does nothing else outside. -/
theorem pollObject_makes (c : Collection K) (name : String) (b : Budget) (passes : K → Readiness Unit) (w : World) :
    ∃ es, w.Makes es (pollObject c name b passes w).2 ∧ ∀ e ∈ es, e.AsksFor c name :=
  Poll.poll_makes (fun _ => c.fetch_makes name (judge (describe K name) passes)) _ b w

end ClusterProbe
