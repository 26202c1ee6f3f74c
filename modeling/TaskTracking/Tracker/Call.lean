import TaskTracking.Tracker.Settling

/-! # Control calls

  What a page asks of its tracker: entering and resuming, starting a task, cancelling
  it, applying a snapshot. Each turn of a call ends where it has to wait, or with its
  result.
-/

namespace TaskTracking

/-- What a call asks for where it waits. -/
def Call.ask? (identity : Store.Identity) : Call → Option Ask
  | .loading => some (.store identity.load)
  | .fetching taskId => some (.status taskId)
  | .forgetting _ => some (.store identity.clear)
  | .creating params => some (.create params)
  | .saving taskId => some (.store (identity.save taskId))
  | .revoking taskId _ => some (.cancel taskId)
  | .erasing _ => some (.store identity.clear)
  | .withdrawing taskId _ => some (.cancel taskId)
  | .settling stage _ => stage.ask? identity
  | _ => none

/-- What came of a turn of a call. -/
inductive Turn where
  | waiting (call : Call)
  | over (result : Outcome.Result)

namespace Turn

def failed (error : TrackingError) : Turn := .over (.error error)

def resumption (r : Resumption) : Turn := .over (.ok (.resumption r))

end Turn

/-- What the call returns once its snapshot is applied. -/
def Goal.outcome : Goal → Applied → Outcome
  | .applied, a => .applied a
  | .finished taskId status, _ => .resumption (.finished taskId status)
  | .resumed taskId, _ => .resumption (.resumed taskId)

/-- The turn of a call in which its snapshot was settled. -/
def Settled.turn (goal : Goal) : Settled → Turn
  | .waiting stage => .waiting (.settling stage goal)
  | .over (.ok applied) => .over (.ok (goal.outcome applied))
  | .over (.error failure) => .failed (.storage failure)

namespace Tracker

/-! ### Resuming -/

/-- Begins to resume the stored task, which an idle tracker can. -/
def resume (t : Tracker) : Turn :=
  if t.lifecycle = .idle then .waiting .loading else .failed (.invalidState .idle t.lifecycle)

/-- Enters the page: starts the background jobs and the connection, and resumes. -/
def enterPage (t : Tracker) : Tracker × Turn :=
  let t := t.startBackground
  let t := { t with selector := t.selector.connect.1 }
  (t, t.resume)

/-- The status of the stored task has come; the snapshot is that task's, whatever id it names. -/
def resumeFrom (t : Tracker) (taskId : String) (snapshot : Snapshot) :
    Tracker × List ViewCall × Turn :=
  let snapshot := snapshot.withId taskId
  let ((t, calls), goal) :=
    if snapshot.isTerminal then
      (({ t with current := some taskId }, []), Goal.finished taskId snapshot.status)
    else (t.beginTracking taskId, Goal.resumed taskId)
  let (t, stage) := t.settle snapshot
  (t, calls, .waiting (.settling stage goal))

/-! ### Starting -/

/-- Begins to create a task, which an idle tracker can. -/
def start (t : Tracker) (params : Json.Value) : Tracker × Turn :=
  if t.lifecycle = .idle then ((t.enter .creating).startBackground, .waiting (.creating params))
  else (t, .failed (.invalidState .idle t.lifecycle))

/-- Gives up starting a task. -/
def giveUp (t : Tracker) (cause : String) : Tracker × List ViewCall :=
  (t.enter .idle, [.notify (.notStarted cause)])

/-! ### Cancelling -/

/-- Lets go of the tracked task, under the lock, before the server is told. -/
def release (t : Tracker) : Tracker × List ViewCall × Turn :=
  if t.lifecycle = .tracking then
    match t.current with
    | none => (t, [], .failed (.invalidState .tracking .idle))
    | some taskId =>
      ({ t with
          current := none
          selector := t.selector.unsubscribe
          display := {} }.enter .idle |>.lock,
        [.hideProgress], .waiting (.erasing taskId))
  else (t, [], .failed (.invalidState .tracking t.lifecycle))

/-- The server's answer to a cancel request, and what the user is told. -/
def cancelResult (taskId : String) : Except TransportFailure Bool → Notice × Outcome.Result
  | .ok true => (.cancelled, .ok .cancelled)
  | .ok false => (.cancelRefused, .error (.cancelRejected taskId))
  | .error failure => (.notCancelled failure.text, .error (.cancel taskId failure))

/-- Ends cancelling. A failure of the server goes before one of the store. -/
def endCancel (taskId : String) (failure : Option StorageFailure)
    (answer : Except TransportFailure Bool) : List ViewCall × Turn :=
  let (notice, result) := cancelResult taskId answer
  match failure with
  | none => ([.notify notice], .over result)
  | some failure =>
    ([.notify notice, .notify (.notForgotten failure.text)],
      .over (result.bind fun _ => .error (.storage failure)))

/-! ### Turns -/

/-- A call's turn without an answer; none if the call has to wait. -/
def runCall (t : Tracker) : Call → Option (Tracker × List ViewCall × Turn)
  | .entering => let (t, turn) := t.enterPage; some (t, [], turn)
  | .resuming => some (t, [], t.resume)
  | .starting params => let (t, turn) := t.start params; some (t, [], turn)
  | .cancelling => if t.locked then none else some t.release
  | .applying snapshot =>
    let (t, stage) := t.settle snapshot
    some (t, [], .waiting (.settling stage .applied))
  | .settling stage goal =>
    (t.settleRun stage).map fun (t, stage) => (t, [], .waiting (.settling stage goal))
  | _ => none

/-- A call's turn with the answer it waits for. -/
def replyCall (t : Tracker) : Call → Reply → Option (Tracker × List ViewCall × Turn)
  | .loading, .store (.ok (.value found)) =>
    match Store.Identity.taskId? found with
    | none => some (t, [], .resumption .nothing)
    | some taskId => some (t, [], .waiting (.fetching taskId))
  | .loading, .store (.error failure) => some (t, [], .failed (.storage failure))
  | .fetching taskId, .status (.ok snapshot) => some (t.resumeFrom taskId snapshot)
  | .fetching taskId, .status (.error _) => some (t, [], .waiting (.forgetting taskId))
  | .forgetting taskId, .store (.ok _) => some (t, [], .resumption (.stale taskId))
  | .forgetting _, .store (.error failure) => some (t, [], .failed (.storage failure))
  | .creating _, .created (.ok taskId) => some (t, [], .waiting (.saving taskId))
  | .creating _, .created (.error failure) =>
    let (t, calls) := t.giveUp failure.text
    some (t, calls, .failed (.create failure))
  | .saving taskId, .store (.ok _) =>
    let (t, calls) := t.beginTracking taskId
    some (t, calls, .over (.ok (.started taskId)))
  | .saving taskId, .store (.error failure) =>
    let (t, calls) := t.giveUp failure.text
    some (t, calls, .waiting (.revoking taskId failure))
  | .revoking _ cause, .cancelled _ => some (t, [], .failed (.storage cause))
  | .erasing taskId, .store result =>
    let failure := match result with
      | .ok _ => none
      | .error failure => some failure
    some (t.unlock, [], .waiting (.withdrawing taskId failure))
  | .withdrawing taskId failure, .cancelled answer =>
    let (calls, turn) := endCancel taskId failure answer
    some (t, calls, turn)
  | .settling stage goal, .store result =>
    (t.settleReply stage result).map fun (t, calls, settled) => (t, calls, settled.turn goal)
  | _, _ => none

end Tracker

end TaskTracking
