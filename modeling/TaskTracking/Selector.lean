import TaskTracking.Polling
import TaskTracking.Push

/-! # Channel selection

  A selector routes a subscription to the push channel if its connection is open, and
  else to the poll channel. Watchers look at the push channel whenever its state was
  written: if it is closed while a subscription is active and nobody polls, they start
  polling. Polling is left running when push opens again, as applying a snapshot twice
  does no harm.
-/

namespace TaskTracking

/-- The delivery path of a subscription. -/
inductive Route where
  | push
  | poll
deriving DecidableEq

def Route.name : Route → String
  | .push => "push"
  | .poll => "poll"

/-- One that looks at the push channel's state. -/
structure Watcher where
  /-- The last state it has seen. -/
  seen : Nat
  ended : Bool := false
deriving DecidableEq

/-- A selector with its channels. -/
structure Selector where
  push : Option Push.Channel
  poll : Polling.Channel
  /-- The active subscription. -/
  active : Option String := none
  watchers : List Watcher := []
  /-- Whether the page was left, which ends all background work. -/
  left : Bool := false

namespace Selector

/-- Starts polling the task, if no one does. -/
def startPoll (s : Selector) (taskId : String) : Selector :=
  { s with poll := (s.poll.start taskId).1 }

/-- Starts a connect cycle if there is a push channel. -/
def connect (s : Selector) : Selector × Option Bool :=
  match s.push with
  | some push =>
    let (push, started) := push.connect
    ({ s with push := some push }, some started)
  | none => (s, none)

/-- Subscribes to a task. If push is not open it is made to connect, and the task is polled. -/
def subscribe (s : Selector) (taskId : String) : Selector × Route :=
  let s := { s with active := some taskId }
  match s.push with
  | none => (s.startPoll taskId, .poll)
  | some push =>
    let (push, told) := push.subscribe taskId
    if told then ({ s with push := some push }, .push)
    else (({ s with push := some push.connect.1 }).startPoll taskId, .poll)

/-- Ends the subscription and stops polling. -/
def unsubscribe (s : Selector) : Selector :=
  { s with
    active := none
    push := s.push.map Push.Channel.unsubscribe
    poll := s.poll.stop }

/-- Adds a watcher that has seen the present state, if there is a push channel. -/
def watch (s : Selector) : Selector × Bool :=
  match s.push with
  | some push => ({ s with watchers := s.watchers ++ [{ seen := push.version }] }, true)
  | none => (s, false)

/-- The page is left: push is shut down and no loop lives on. -/
def leave (s : Selector) : Selector :=
  { s with
    left := true
    push := s.push.map Push.Channel.shutdown
    poll := s.poll.retire }

/-- Falls back to polling if push is closed and a subscription is not polled. -/
def failOver (s : Selector) (push : Push.Channel) : Selector :=
  match s.active with
  | none => s
  | some taskId =>
    if push.phase = .closed && !s.poll.isRunning then s.startPoll taskId else s

/-- The selector with watcher `k` changed. -/
def updateWatcher (s : Selector) (k : Nat) (f : Watcher → Watcher) : Selector :=
  { s with watchers := s.watchers.modify k f }

/-- What a watcher does when it runs. -/
def runWatcher (s : Selector) (k : Nat) : Selector :=
  if s.left then s.updateWatcher k fun w => { w with ended := true }
  else
    match s.push with
    | some push => (s.updateWatcher k fun w => { w with seen := push.version }).failOver push
    | none => s

/-- Whether a watcher has something to do. -/
def watcherReady (s : Selector) (w : Watcher) : Bool :=
  !w.ended && (s.left || s.push.any (·.version ≠ w.seen))

end Selector

end TaskTracking
