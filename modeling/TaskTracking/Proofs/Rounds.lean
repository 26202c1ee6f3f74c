import Mathlib.Logic.Function.Basic
import TaskTracking.Proofs.Selection

/-! # Courses of a poll channel

  A course is a poll channel in use, as a transition system:

  - Its owner starts and stops polling at any time, or is gone for good.
  - Loops and requests run whenever they have something to do.
  - Requests are answered, or fail, when and in whatever order the server likes.
  - Time passes; in a punctual course only when nothing can run, and never past
    the next tick.

  A course keeps the history of what has happened, so what the loops count can be
  compared with what there was to count.
-/

namespace TaskTracking.Polling

/-! ### State -/

namespace Course

/-- Something that happens to a poll channel. -/
inductive Event where
  | start (taskId : String)
  | stop
  /-- The channel's owner is gone. -/
  | retire
  /-- Nobody takes deliveries any more. -/
  | deserted
  /-- Loop `i` runs. -/
  | loop (i : Nat)
  /-- The request of loop `i` runs. -/
  | request (i : Nat)
  /-- The request that loop `i` has sent is answered. -/
  | answered (i : Nat) (result : Except TransportFailure Snapshot)
  | elapsed (duration : Nat)

/-- An event of the past, with what it did. -/
structure Record where
  event : Event
  time : Nat
  before : Channel
  after : Channel
  /-- The task whose status was asked for. -/
  asked : Option String := none
  delivered : List Delivery := []

end Course

/-- A poll channel in use. -/
structure Course where
  now : Nat := 0
  channel : Channel
  /-- Whether somebody takes deliveries. -/
  receiving : Bool := true
  /-- What has happened, the oldest first. -/
  history : List Course.Record := []

namespace Course

/-! ### Steps -/

/-- What an event does; none if it cannot happen now. -/
def record? (s : Course) (event : Event) : Option Record :=
  let time := s.now
  let before := s.channel
  match event with
  | .start taskId => some { event, time, before, after := (before.start taskId).1 }
  | .stop => some { event, time, before, after := before.stop }
  | .retire => some { event, time, before, after := before.retire }
  | .deserted | .elapsed _ => some { event, time, before, after := before }
  | .loop i =>
    if (before.loops[i]?).any (Loop.ready time) then
      some { event, time, before, after := before.runLoop time i }
    else none
  | .request i =>
    if (before.loops[i]?).any Loop.requestReady then
      some { event, time, before
             after := (before.runRequest i).1
             asked := (before.runRequest i).2 }
    else none
  | .answered i result =>
    if (before.loops[i]?).any (·.request = some .sent) then
      let answered := before.answer i s.receiving result
      some { event, time, before
             after := answered.1
             delivered := if s.receiving then answered.2 else [] }
    else none

/-- The time after an event. -/
def Event.pass (now : Nat) : Event → Nat
  | .elapsed duration => now + duration
  | _ => now

/-- Whether somebody takes deliveries after an event. -/
def Event.hear (receiving : Bool) : Event → Bool
  | .deserted => false
  | _ => receiving

/-- The course after an event; none if the event cannot happen now. -/
def step (s : Course) (event : Event) : Option Course :=
  (s.record? event).map fun r =>
    { now := event.pass s.now
      channel := r.after
      receiving := event.hear s.receiving
      history := s.history ++ [r] }

/-- The course of a new channel. -/
def opened (interval threshold : Nat) : Course := { channel := { interval, threshold } }

/-- The courses that come of `s₀` by events that are allowed where they happen. -/
inductive Reaches (allowed : Course → Event → Prop) (s₀ : Course) : Course → Prop where
  | refl : Reaches allowed s₀ s₀
  | step : ∀ {s s'} e, Reaches allowed s₀ s → allowed s e → s.step e = some s' →
      Reaches allowed s₀ s'

/-- Plays events one after another, as long as they are allowed and can happen. -/
def play (allowed : Course → Event → Prop) [∀ s e, Decidable (allowed s e)] :
    List Event → Course → Option Course
  | [], s => some s
  | e :: es, s => if allowed s e then (s.step e).bind (play allowed es) else none

theorem Reaches.trans {allowed : Course → Event → Prop} {s₀ s₁ s₂ : Course}
    (h₁ : Reaches allowed s₀ s₁) (h₂ : Reaches allowed s₁ s₂) : Reaches allowed s₀ s₂ := by
  induction h₂ with
  | refl => exact h₁
  | step e _ ha hs ih => exact .step e ih ha hs

theorem Reaches.mono {allowed allowed' : Course → Event → Prop} {s₀ s : Course}
    (hle : ∀ s e, allowed s e → allowed' s e) (h : Reaches allowed s₀ s) :
    Reaches allowed' s₀ s := by
  induction h with
  | refl => exact .refl
  | step e _ ha hs ih => exact .step e ih (hle _ _ ha) hs

/-- Whatever is played is reached. -/
theorem reaches_of_play {allowed : Course → Event → Prop} [∀ s e, Decidable (allowed s e)]
    {es : List Event} {s₀ s : Course} (h : play allowed es s₀ = some s) :
    Reaches allowed s₀ s := by
  induction es generalizing s₀ with
  | nil =>
    rw [play, Option.some.injEq] at h
    exact h ▸ .refl
  | cons e es ih =>
    rw [play, Option.ite_none_right_eq_some, Option.bind_eq_some_iff] at h
    obtain ⟨ha, s₁, hs, hrest⟩ := h
    exact (Reaches.step e .refl ha hs).trans (ih hrest)

/-! ### Rest -/

/-- Nothing can run. -/
def AtRest (s : Course) : Prop :=
  ∀ l ∈ s.channel.loops, l.ready s.now = false ∧ l.requestReady = false

instance (s : Course) : Decidable s.AtRest :=
  inferInstanceAs (Decidable (∀ l ∈ s.channel.loops, _))

/-- Anything may happen. -/
def anytime (_ : Course) (_ : Event) : Prop := True

instance (s : Course) (e : Event) : Decidable (anytime s e) := .isTrue trivial

/-- Time passes when nothing can run, and not past the next tick of a loop that polls. -/
def punctual (s : Course) : Event → Prop
  | .elapsed duration =>
    s.AtRest ∧ ∀ l ∈ s.channel.loops, l.isLive = true → l.due.all (s.now + duration ≤ ·) = true
  | _ => True

instance (s : Course) : (e : Event) → Decidable (punctual s e)
  | .elapsed _ => inferInstanceAs (Decidable (_ ∧ _))
  | .start _ | .stop | .retire | .deserted | .loop _ | .request _ | .answered _ _ =>
    .isTrue trivial

/-! ### What an event was -/

namespace Record

/-- Loop `i` as it was before the event. -/
def loopBefore (r : Record) (i : Nat) : Option Loop := r.before.loops[i]?

/-- Loop `i` as it is after the event. -/
def loopAfter (r : Record) (i : Nat) : Option Loop := r.after.loops[i]?

/-- Loop `i` is started. -/
def starts (r : Record) (i : Nat) : Bool := (r.loopBefore i).isNone && (r.loopAfter i).isSome

/-- Loop `i` is cancelled. -/
def cancels (r : Record) (i : Nat) : Bool :=
  (r.loopBefore i).all (!·.cancelled) && (r.loopAfter i).any Loop.cancelled

/-- Loop `i` ticks. -/
def ticks (r : Record) (i : Nat) : Bool :=
  match r.event with
  | .loop j =>
    j = i && (r.loopBefore i).any fun l => !l.cancelled && l.due.any (· ≤ r.time)
  | _ => false

/-- Loop `i` ticks while none of its requests is outstanding. -/
def issues (r : Record) (i : Nat) : Bool :=
  r.ticks i && (r.loopBefore i).any (·.request.isNone)

/-- Loop `i` ticks while its last request is outstanding. -/
def misses (r : Record) (i : Nat) : Bool :=
  r.ticks i && (r.loopBefore i).any (·.request.isSome)

/-- The request of loop `i` is sent to the server. -/
def asks (r : Record) (i : Nat) : Bool :=
  match r.event with
  | .request j => j = i && r.asked.isSome
  | _ => false

/-- The request of loop `i` is given up before it is sent. -/
def forgoes (r : Record) (i : Nat) : Bool :=
  match r.event with
  | .request j => j = i && (r.loopBefore i).any fun l => l.request = some .queued && l.cancelled
  | _ => false

/-- The request that loop `i` has sent is over, answered or abandoned. -/
def settles (r : Record) (i : Nat) : Bool :=
  (r.loopBefore i).any (·.request = some .sent) && (r.loopAfter i).all (·.request ≠ some .sent)

end Record

/-- When those events happened. -/
def times (mark : Record → Bool) (history : List Record) : List Nat :=
  (history.filter mark).map Record.time

/-! ### Which requests led to deliveries -/

/-- Requests by the order in which they were sent. -/
structure Ledger where
  /-- How many requests were sent. -/
  asked : Nat := 0
  /-- The number of the last request that a loop has sent. -/
  last : Nat → Nat := fun _ => 0
  /-- The numbers of the requests that led to deliveries, in the order of these. -/
  origins : List Nat := []

/-- The ledger after one more event. -/
def Ledger.add (g : Ledger) (r : Record) : Ledger :=
  match r.event with
  | .request i =>
    if r.asked.isSome then
      { g with asked := g.asked + 1, last := Function.update g.last i g.asked }
    else g
  | .answered i _ => { g with origins := g.origins ++ r.delivered.map fun _ => g.last i }
  | _ => g

/-- The ledger of a history. -/
def ledger (history : List Record) : Ledger := history.foldl Ledger.add {}

/-! ### Requests that may yet deliver -/

/-- A request of loop `i` is outstanding. -/
def Outstanding (s : Course) (i : Nat) : Prop :=
  (s.channel.loops[i]?).any (·.request.isSome) = true

/-- The event leaves the outstanding request of loop `i` outstanding. -/
def awaiting (i : Nat) (s : Course) (e : Event) : Prop :=
  ∀ s', s.step e = some s' → s'.Outstanding i

/-- The outstanding request of loop `i` can still lead to a delivery: the course can go
    on so that it is answered, and something is delivered. -/
def Promising (s : Course) (i : Nat) : Prop :=
  s.Outstanding i ∧ ∃ s' result r, Reaches (awaiting i) s s' ∧
    s'.record? (.answered i result) = some r ∧ r.delivered ≠ []

end Course

end TaskTracking.Polling
