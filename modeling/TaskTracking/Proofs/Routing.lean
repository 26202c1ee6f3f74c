import TaskTracking.Proofs.Attention

/-! # Courses of a selector

  A course is a selector in use, with both its channels and a watcher from the
  beginning:

  - Its owner subscribes and unsubscribes at any time, to one task after another.
  - Push opens, fails, closes and is downgraded, when the server and the peer like.
  - The watcher, the connect cycle, loops and requests run whenever they have
    something to do; requests are answered at any time.

  The state of a course is a wiring, and every event is a move of it. A course
  keeps the history of what has happened, from which it can be told what has become
  of the last subscription (`Standing`).
-/

namespace TaskTracking.Selector

/-! ### State -/

namespace Course

/-- Something that happens to a selector. -/
inductive Event where
  | subscribe (taskId : String)
  | unsubscribe
  | connect
  /-- Watcher `k` runs. -/
  | watcher (k : Nat)
  /-- The connect cycle runs. -/
  | cycle
  /-- The connection attempt under way ends. -/
  | attempted (result : Except TransportFailure Unit)
  /-- Something comes in over the open connection. -/
  | received (incoming : Push.Incoming)
  /-- The peer of the open connection takes no more frames. -/
  | deafened
  /-- Loop `i` runs. -/
  | loop (i : Nat)
  /-- The request of loop `i` runs. -/
  | request (i : Nat)
  /-- The request that loop `i` has sent is answered. -/
  | answered (i : Nat) (result : Except TransportFailure Snapshot)
  | elapsed (duration : Nat)

/-- An event of the past, and the selector that it happened to. -/
structure Record where
  event : Event
  before : Selector

end Course

/-- A selector in use. -/
structure Course where
  wiring : Wiring
  /-- What has happened, the oldest first. -/
  history : List Course.Record := []

namespace Course

/-! ### Steps -/

/-- The wiring after an event; none if the event cannot happen now. -/
def next? (w : Wiring) : Event → Option Wiring
  | .subscribe taskId => some { w with selector := (w.selector.subscribe taskId).1 }
  | .unsubscribe => some { w with selector := w.selector.unsubscribe }
  | .connect => some { w with selector := w.selector.connect.1 }
  | .watcher k =>
    if (w.selector.watchers[k]?).any w.selector.watcherReady then
      some { w with selector := w.selector.runWatcher k }
    else none
  | .cycle =>
    w.selector.push.bind fun c =>
      if c.ready w.now then
        some { w with
          selector := { w.selector with push := some (c.run w.now).1 }
          frames := w.frames ++ Push.Channel.written (c.run w.now).2 }
      else none
  | .attempted (.ok ()) =>
    w.selector.push.bind fun c =>
      if c.phase = .connecting then
        some { w with
          selector := { w.selector with push := some (c.attempted w.now (.ok w.accepted)) }
          accepted := w.accepted + 1 }
      else none
  | .attempted (.error failure) =>
    w.selector.push.bind fun c =>
      if c.phase = .connecting then
        some { w with
          selector := { w.selector with push := some (c.attempted w.now (.error failure)) } }
      else none
  | .received incoming =>
    some { w with
      selector := { w.selector with push := w.selector.push.map (·.receive incoming) } }
  | .deafened =>
    some { w with
      selector := { w.selector with push := w.selector.push.map Push.Channel.deafen } }
  | .loop i =>
    if (w.selector.poll.loops[i]?).any (Polling.Loop.ready w.now) then
      some { w with selector := { w.selector with poll := w.selector.poll.runLoop w.now i } }
    else none
  | .request i =>
    if (w.selector.poll.loops[i]?).any Polling.Loop.requestReady then
      some { w with selector := { w.selector with poll := (w.selector.poll.runRequest i).1 } }
    else none
  | .answered i result =>
    if (w.selector.poll.loops[i]?).any (·.request = some .sent) then
      some { w with
        selector := { w.selector with poll := (w.selector.poll.answer i w.receiving result).1 }
        stopped := w.stopped ++ if Polling.Loop.isLast result then [i] else [] }
    else none
  | .elapsed duration => some { w with now := w.now + duration }

/-- The course after an event; none if the event cannot happen now. -/
def step (s : Course) (event : Event) : Option Course :=
  (next? s.wiring event).map fun wiring =>
    { wiring, history := s.history ++ [{ event, before := s.wiring.selector }] }

/-- The course of a new selector whose watcher was started. -/
def opened (push : Option PushSettings) (interval threshold : Nat) : Course where
  wiring :=
    { now := 0
      selector := (Selector.watch
        { push := push.map Push.Channel.ofSettings, poll := { interval, threshold } }).1
      begun := true
      receiving := true
      accepted := 0
      frames := []
      stopped := [] }

/-- The courses that come of `s₀`. -/
inductive Reaches (s₀ : Course) : Course → Prop where
  | refl : Reaches s₀ s₀
  | step : ∀ {s s'} e, Reaches s₀ s → s.step e = some s' → Reaches s₀ s'

/-- Events one after another, as long as they can happen. -/
def play : List Event → Course → Option Course
  | [], s => some s
  | e :: es, s => (s.step e).bind (play es)

theorem Reaches.trans {s₀ s₁ s₂ : Course} (h₁ : Reaches s₀ s₁) (h₂ : Reaches s₁ s₂) :
    Reaches s₀ s₂ := by
  induction h₂ with
  | refl => exact h₁
  | step e _ hs ih => exact .step e ih hs

/-- Whatever is played is reached. -/
theorem reaches_of_play {es : List Event} {s₀ s : Course} (h : play es s₀ = some s) :
    Reaches s₀ s := by
  induction es generalizing s₀ with
  | nil =>
    rw [play, Option.some.injEq] at h
    exact h ▸ .refl
  | cons e es ih =>
    rw [play, Option.bind_eq_some_iff] at h
    obtain ⟨s₁, hs, hrest⟩ := h
    exact (Reaches.step e .refl hs).trans (ih hrest)

/-! ### Rest -/

/-- Nothing can run. -/
structure AtRest (s : Course) : Prop where
  watchers : ∀ w ∈ s.wiring.selector.watchers, s.wiring.selector.watcherReady w = false
  cycle : ∀ c ∈ s.wiring.selector.push, c.ready s.wiring.now = false
  loops : ∀ l ∈ s.wiring.selector.poll.loops,
    l.ready s.wiring.now = false ∧ l.requestReady = false

instance (s : Course) : Decidable s.AtRest :=
  decidable_of_iff
    ((∀ w ∈ s.wiring.selector.watchers, s.wiring.selector.watcherReady w = false) ∧
      (∀ c ∈ s.wiring.selector.push, c.ready s.wiring.now = false) ∧
      ∀ l ∈ s.wiring.selector.poll.loops,
        l.ready s.wiring.now = false ∧ l.requestReady = false)
    ⟨fun h => ⟨h.1, h.2.1, h.2.2⟩, fun h => ⟨h.watchers, h.cycle, h.loops⟩⟩

/-! ### Following -/

/-- Polling follows the subscription: whatever loop runs polls the active task, and
    while push is closed, or there is none, one runs for it, unless it took a terminal
    status. -/
structure Follows (s : Course) : Prop where
  running : ∀ l ∈ s.wiring.selector.poll.loops, l.isLive = true →
    s.wiring.selector.active = some l.taskId
  polled : ∀ taskId, s.wiring.selector.active = some taskId →
    (∀ c, s.wiring.selector.push = some c → c.phase = .closed) →
    s.wiring.selector.poll.currentTask = some taskId ∨
      ∃ i l, s.wiring.selector.poll.active = some i ∧
        s.wiring.selector.poll.loops[i]? = some l ∧ l.taskId = taskId ∧ i ∈ s.wiring.stopped

/-- What has become of the last subscription. -/
inductive Standing where
  /-- Polling follows it. -/
  | followed
  /-- It went over the open connection while a loop was running for another task. -/
  | diverted
  /-- The loop for the other task then took a terminal status, and no watcher has found
      push closed since. -/
  | abandoned
deriving DecidableEq

/-- What becomes of the last subscription with one more event. -/
def Standing.next (standing : Standing) (r : Record) : Standing :=
  match r.event with
  | .subscribe taskId =>
    if (r.before.subscribe taskId).2 = .push ∧ r.before.poll.currentTask.any (· ≠ taskId) then
      .diverted
    else .followed
  | .unsubscribe => .followed
  | .answered i result =>
    if standing = .diverted ∧ r.before.poll.active = some i ∧ Polling.Loop.isLast result then
      .abandoned
    else standing
  | .watcher _ =>
    if standing = .abandoned ∧ r.before.push.any (·.phase = .closed) then .followed
    else standing
  | _ => standing

/-- What has become of the last subscription. -/
def standing (history : List Record) : Standing := history.foldl Standing.next .followed

/-- The last subscription went over the open connection while a loop was running for
    another task, and that loop still runs; or it has ended with a terminal status, and
    push is closed, which no watcher has found since. -/
def Strays (s : Course) : Prop :=
  standing s.history = .diverted ∨
    standing s.history = .abandoned ∧ s.wiring.selector.push.all (·.phase = .closed) = true

instance (s : Course) : Decidable s.Strays := inferInstanceAs (Decidable (_ ∨ _))

end Course

end TaskTracking.Selector
