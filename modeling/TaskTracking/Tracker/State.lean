import TaskTracking.Display
import TaskTracking.Selector
import TaskTracking.Store.Identity

/-! # Tracker state

  A tracker follows one task for one page. It owns the channels, the display and the
  page's task id.

  Several jobs work on it at once: a worker that applies what the channels deliver, the
  channels' own jobs, and the control calls of the page. A job runs until it has to wait
  for an answer from outside or for the lock under which snapshots are applied; the
  others run in between. So a job in progress is a value that says what it waits for.
-/

namespace TaskTracking

/-! ### Surroundings -/

/-- What the page's view is told. -/
inductive ViewCall where
  | showProgress (taskId : String)
  | updateProgress (display : Display)
  | hideProgress
  | renderResult (taskId : String) (result : Json.Value)
  | notify (notice : Notice)

/-- What a job asks of its surroundings, and then waits for. -/
inductive Ask where
  | store (request : Store.Request)
  | create (params : Json.Value)
  | status (taskId : String)
  | cancel (taskId : String)
  | connect

/-- What the surroundings answer. -/
inductive Reply where
  | store (result : Except StorageFailure Store.Answer)
  /-- The id of the created task. -/
  | created (result : Except TransportFailure String)
  | status (result : Except TransportFailure Snapshot)
  /-- Whether the server cancels the task. -/
  | cancelled (result : Except TransportFailure Bool)
  /-- The number of the new connection. -/
  | connected (result : Except TransportFailure Nat)

/-! ### Jobs in progress -/

/-- A snapshot that is being applied. -/
inductive Settling where
  /-- It waits for the lock. -/
  | locking (snapshot : Snapshot)
  /-- It waits for the stored task id. -/
  | reading (snapshot : Snapshot)
  /-- It waits until the stored task id is removed; then the rest of the effects follow. -/
  | clearing (snapshot : Snapshot) (applied : Applied) (rest : List Effect)

/-- The delivery worker. -/
inductive Worker where
  /-- It was not started yet. -/
  | absent
  | listening
  | settling (stage : Settling)
  | ended

/-- What a call returns after it has applied a snapshot. -/
inductive Goal where
  | applied
  | finished (taskId : String) (status : Status)
  | resumed (taskId : String)

/-- A control call, before it runs or where it waits. -/
inductive Call where
  /-- The page was entered. -/
  | entering
  | resuming
  | starting (params : Json.Value)
  | cancelling
  | applying (snapshot : Snapshot)
  /-- Resuming, waits for the stored task id. -/
  | loading
  /-- Resuming, waits for the task's status. -/
  | fetching (taskId : String)
  /-- Resuming, waits until a task id that could not be fetched is removed. -/
  | forgetting (taskId : String)
  /-- Starting, waits for the new task's id. -/
  | creating (params : Json.Value)
  /-- Starting, waits until the new task's id is stored. -/
  | saving (taskId : String)
  /-- Starting, has given up as the id was not stored, and waits for the task to be cancelled. -/
  | revoking (taskId : String) (cause : StorageFailure)
  /-- Cancelling, waits until the stored task id is removed. -/
  | erasing (taskId : String)
  /-- Cancelling, waits for the server; the id was removed unless there is a failure. -/
  | withdrawing (taskId : String) (failure : Option StorageFailure)
  | settling (stage : Settling) (goal : Goal)

/-- What came of resuming the stored task. -/
inductive Resumption where
  /-- No task was stored. -/
  | nothing
  /-- The stored task could not be fetched, and was forgotten. -/
  | stale (taskId : String)
  /-- The task had ended; its end was shown. -/
  | finished (taskId : String) (status : Status)
  | resumed (taskId : String)
deriving DecidableEq

/-- What a control call returns. -/
inductive Outcome where
  | resumption (resumption : Resumption)
  | started (taskId : String)
  | cancelled
  | applied (applied : Applied)

/-- The result of a control call. -/
abbrev Outcome.Result := Except TrackingError Outcome

/-! ### The tracker -/

structure Tracker where
  /-- Where the page's task id is stored. -/
  identity : Store.Identity
  selector : Selector
  inbox : Inbox := {}
  worker : Worker := .absent
  lifecycle : Lifecycle := .idle
  /-- How often the lifecycle state was written. -/
  lifecycleWrites : Nat := 0
  /-- The tracked task. -/
  current : Option String := none
  display : Display := {}
  /-- Whether someone holds the lock under which snapshots are applied. -/
  locked : Bool := false
  /-- Whether the user was told that updates of this task are delayed. -/
  stallNotified : Bool := false
  /-- The control calls in progress, by ticket. -/
  calls : List (Nat × Call) := []

/-- What works on a tracker. -/
inductive Job where
  | worker
  | watcher (number : Nat)
  /-- The push channel's connect cycle. -/
  | cycle
  | loop (number : Nat)
  /-- The request of a polling loop. -/
  | request (loop : Nat)
  | call (ticket : Nat)
deriving DecidableEq

/-- What leaves a tracker. -/
inductive Output where
  | view (call : ViewCall)
  | ask (job : Job) (ask : Ask)
  /-- A frame is written on a connection. -/
  | frame (connection : Nat) (text : String)
  | returned (ticket : Nat) (result : Outcome.Result)

namespace Tracker

/-- Writes the lifecycle state. -/
def enter (t : Tracker) (lifecycle : Lifecycle) : Tracker :=
  { t with lifecycle, lifecycleWrites := t.lifecycleWrites + 1 }

def lock (t : Tracker) : Tracker := { t with locked := true }

def unlock (t : Tracker) : Tracker := { t with locked := false }

/-- Starts the background jobs, the first time. -/
def startBackground (t : Tracker) : Tracker :=
  match t.worker with
  | .absent => { t with worker := .listening, selector := t.selector.watch.1 }
  | _ => t

/-- Follows a task from its beginning: shows it and subscribes to it. -/
def beginTracking (t : Tracker) (taskId : String) : Tracker × List ViewCall :=
  ({ t with
      current := some taskId
      display := .tracking taskId
      stallNotified := false
      selector := (t.selector.subscribe taskId).1 }.enter .tracking,
    [.showProgress taskId])

/-- Hands deliveries to the worker. -/
def deliver (t : Tracker) (deliveries : List Delivery) : Tracker :=
  { t with inbox := t.inbox.add deliveries }

/-- A new control call, which has not yet run. -/
def call (t : Tracker) (ticket : Nat) (call : Call) : Tracker :=
  { t with calls := t.calls ++ [(ticket, call)] }

/-- Whether the worker is the one who holds the lock. -/
def workerHolds (t : Tracker) : Bool :=
  match t.worker with
  | .settling (.reading _) | .settling (.clearing ..) => true
  | _ => false

/-- The page is left: the background jobs end, at once or when they run next. The stored
    task id stays, for the next tracker of the page. -/
def leave (t : Tracker) : Tracker :=
  let selector := t.selector.leave
  let t := { t with selector := { selector with poll := selector.poll.stop } }
  match t.worker with
  | .absent => t
  | _ => { t with worker := .ended, inbox := .closed, locked := t.locked && !t.workerHolds }

end Tracker

end TaskTracking
