import Mathlib.Data.List.DropRight
import TaskTracking.Tracker.Setup

/-! # Courses of a push channel

  A course is a push channel in use, as a transition system:

  - Its owner connects, subscribes, unsubscribes and shuts it down at any time.
  - The connect cycle takes its turns whenever it has something to do.
  - Attempts open a connection or fail, when and in whatever order they like.
  - The peer sends, fails, closes, or takes no more frames.

  A course keeps the history of what has happened, so what the channel counts
  can be compared with what there was to count.
-/

namespace TaskTracking.Push

/-! ### State -/

namespace Course

/-- Something that happens to a push channel. -/
inductive Event where
  | connect
  | subscribe (taskId : String)
  | unsubscribe
  | shutdown
  /-- The connect cycle runs. -/
  | turn
  /-- The attempt under way ends. -/
  | attempted (result : Except TransportFailure Unit)
  /-- Something comes in over the open connection. -/
  | received (incoming : Incoming)
  /-- The peer of the open connection takes no more frames. -/
  | deafened
  | elapsed (duration : Nat)

/-- An event of the past, with what it did. -/
structure Record where
  event : Event
  before : Channel
  after : Channel
  acts : List Act := []
  /-- What a call returned. -/
  answer : Option Bool := none

end Course

/-- A push channel in use. -/
structure Course where
  now : Nat := 0
  channel : Channel
  /-- The connections accepted so far. -/
  accepted : Nat := 0
  /-- What has happened, the oldest first. -/
  history : List Course.Record := []

namespace Course

/-! ### Steps -/

/-- What an event does; none if it cannot happen now. -/
def record? (s : Course) (event : Event) : Option Record :=
  let before := s.channel
  match event with
  | .connect =>
    some { event, before, after := before.connect.1, answer := some before.connect.2 }
  | .subscribe taskId =>
    some {
      event, before
      after := (before.subscribe taskId).1
      answer := some (before.subscribe taskId).2 }
  | .unsubscribe => some { event, before, after := before.unsubscribe }
  | .shutdown => some { event, before, after := before.shutdown }
  | .turn =>
    if before.ready s.now then
      some { event, before, after := (before.run s.now).1, acts := (before.run s.now).2 }
    else none
  | .attempted result =>
    if before.phase = .connecting then
      some { event, before, after := before.attempted s.now (result.map fun _ => s.accepted) }
    else none
  | .received incoming => some { event, before, after := before.receive incoming }
  | .deafened => some { event, before, after := before.deafen }
  | .elapsed _ => some { event, before, after := before }

/-- The time after an event. -/
def Event.pass (now : Nat) : Event → Nat
  | .elapsed duration => now + duration
  | _ => now

/-- The accepted connections after an event. -/
def Event.accept (accepted : Nat) : Event → Nat
  | .attempted (.ok ()) => accepted + 1
  | _ => accepted

/-- The course after an event; none if the event cannot happen now. -/
def step (s : Course) (event : Event) : Option Course :=
  (s.record? event).map fun r =>
    { now := event.pass s.now
      channel := r.after
      accepted := event.accept s.accepted
      history := s.history ++ [r] }

/-- The course of a new channel with the given settings. -/
def opened (p : PushSettings) : Course := { channel := .ofSettings p }

/-- The courses that come of `s₀`. -/
inductive Reaches (s₀ : Course) : Course → Prop where
  | refl : Reaches s₀ s₀
  | step : ∀ {s s'} e, Reaches s₀ s → s.step e = some s' → Reaches s₀ s'

/-- Events one after another, as long as they can happen. -/
def play (es : List Event) (s : Course) : Option Course := es.foldlM step s

/-- Whatever is played is reached. -/
theorem reaches_of_play {es : List Event} {s₀ s : Course} (h : play es s₀ = some s) :
    Reaches s₀ s := by
  -- From the last event, as courses grow at their end.
  induction es using List.reverseRecOn generalizing s with
  | nil =>
    have hs : s₀ = s := Option.some.inj h
    exact hs ▸ .refl
  | append_singleton es e ih =>
    rw [play, List.foldlM_append] at h
    obtain ⟨s₁, h₁, hlast⟩ := Option.bind_eq_some_iff.mp h
    rw [List.foldlM_cons] at hlast
    obtain ⟨s₂, h₂, hend⟩ := Option.bind_eq_some_iff.mp hlast
    have hs : s₂ = s := Option.some.inj hend
    exact .step e (ih h₁) (hs ▸ h₂)

end Course

/-! ### What an event was -/

/-- Whether there is a connect cycle. -/
def Channel.isRunning (c : Channel) : Bool :=
  match c.cycle with
  | .absent => false
  | _ => true

/-- Whether an attempt is under way. -/
def Channel.isConnecting (c : Channel) : Bool := c.phase = .connecting

/-- Whether a connection attempt is begun. -/
def Act.isAttempt : Act → Bool
  | .attempt => true
  | _ => false

namespace Course

namespace Record

/-- A call of `connect` started a cycle. -/
def begins (r : Record) : Bool :=
  match r.event with
  | .connect => r.answer = some true
  | _ => false

/-- The connect cycle came to its end. -/
def ends (r : Record) : Bool := r.before.isRunning && !r.after.isRunning

/-- The number of attempts that were begun. -/
def attempts (r : Record) : Nat := r.acts.countP Act.isAttempt

/-- An attempt opened a connection. What becomes of an attempt after the shutdown
    is not looked at. -/
def opens (r : Record) : Bool :=
  match r.event with
  | .attempted (.ok ()) => !r.before.shut
  | _ => false

/-- An attempt failed before the shutdown. -/
def fails (r : Record) : Bool :=
  match r.event with
  | .attempted (.error _) => !r.before.shut
  | _ => false

/-- The attempt under way is over, whatever has become of it. -/
def settles (r : Record) : Bool := r.before.isConnecting && !r.after.isConnecting

/-- The open connection is no more. -/
def closes (r : Record) : Bool := r.before.isOpen && !r.after.isOpen

/-- The open connection was lost, and not shut down. -/
def loses (r : Record) : Bool := r.closes && !r.before.shut

end Record

/-- How many attempts failed and connections were lost since a connection was last
    opened. -/
def failures (history : List Record) : Nat :=
  (history.rtakeWhile (!·.opens)).countP fun r => r.fails || r.loses

end Course

end TaskTracking.Push
