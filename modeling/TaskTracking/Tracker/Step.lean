import TaskTracking.Tracker.Worker
import TaskTracking.Tracker.Call

/-! # Steps

  A tracker moves by its jobs. `run` is a turn of a job that needs no answer, `reply`
  one that takes an answer; both give nothing where there is no such turn. A turn goes
  from one wait to the next and cannot be interrupted.
-/

namespace TaskTracking.Tracker

/-! ### Outputs of a turn -/

def asking (job : Job) (ask : Option Ask) : List Output := (ask.map (Output.ask job)).toList

/-- The tracker after a turn of its worker, with what it puts out. -/
def afterWorker : Tracker × List ViewCall → Tracker × List Output
  | (t, calls) => (t, calls.map .view ++ asking .worker (t.worker.ask? t.identity))

/-- The tracker after a turn of the call with that ticket, with what it puts out. -/
def afterCall (ticket : Nat) : Tracker × List ViewCall × Turn → Tracker × List Output
  | (t, calls, .waiting call) =>
    ({ t with calls := t.calls.map fun c => if c.1 = ticket then (ticket, call) else c },
      calls.map .view ++ asking (.call ticket) (call.ask? t.identity))
  | (t, calls, .over result) =>
    ({ t with calls := t.calls.filter (·.1 ≠ ticket) },
      calls.map .view ++ [.returned ticket result])

/-- The tracker with its push channel after a turn. -/
def afterPush (t : Tracker) (push : Push.Channel) (acts : List Push.Act) :
    Tracker × List Output :=
  let t := { t with selector := { t.selector with push := some push } }
  let deliveries := acts.filterMap fun
    | .deliver delivery => some delivery
    | _ => none
  let outputs := acts.filterMap fun
    | .attempt => some (.ask .cycle .connect)
    | .write number frame => some (.frame number frame)
    | .deliver _ => none
  (t.deliver deliveries, outputs)

/-- The tracker with its poll channel after a turn. -/
def afterPoll (t : Tracker) (poll : Polling.Channel) (deliveries : List Delivery) : Tracker :=
  { t with selector := { t.selector with poll } }.deliver deliveries

/-! ### Turns -/

/-- A turn of a job that needs no answer. -/
def run (t : Tracker) (now : Nat) : Job → Option (Tracker × List Output)
  | .worker => t.runWorker.map afterWorker
  | .watcher k => do
    let watcher ← t.selector.watchers[k]?
    guard (t.selector.watcherReady watcher)
    return ({ t with selector := t.selector.runWatcher k }, [])
  | .cycle => do
    let push ← t.selector.push
    guard (push.ready now)
    let (push, acts) := push.run now
    return t.afterPush push acts
  | .loop i => do
    let loop ← t.selector.poll.loops[i]?
    guard (loop.ready now)
    return (t.afterPoll (t.selector.poll.runLoop now i) [], [])
  | .request i => do
    let loop ← t.selector.poll.loops[i]?
    guard loop.requestReady
    let (poll, taskId) := t.selector.poll.runRequest i
    return (t.afterPoll poll [], asking (.request i) (taskId.map .status))
  | .call ticket => do
    let call ← t.calls.lookup ticket
    let turn ← t.runCall call
    return afterCall ticket turn

/-- A turn of a job that takes an answer. -/
def reply (t : Tracker) (now : Nat) : Job → Reply → Option (Tracker × List Output)
  | .worker, reply => (t.replyWorker reply).map afterWorker
  | .cycle, .connected result => do
    let push ← t.selector.push
    guard (push.phase = .connecting)
    return t.afterPush (push.attempted now result) []
  | .request i, .status result => do
    let loop ← t.selector.poll.loops[i]?
    guard (loop.request = some .sent)
    let (poll, deliveries) := t.selector.poll.answer i t.inbox.receiving result
    return (t.afterPoll poll deliveries, [])
  | .call ticket, reply => do
    let call ← t.calls.lookup ticket
    let turn ← t.replyCall call reply
    return afterCall ticket turn
  | _, _ => none

/-- The jobs of a tracker. -/
def jobs (t : Tracker) : List Job :=
  let loops := List.range t.selector.poll.loops.length
  [.worker] ++ (List.range t.selector.watchers.length).map .watcher ++ [.cycle] ++
    loops.map .loop ++ loops.map .request ++ t.calls.map fun c => .call c.1

/-- Whether the job has a turn that needs no answer. -/
def isReady (t : Tracker) (now : Nat) (job : Job) : Bool := (t.run now job).isSome

/-- The times at which a job of the tracker will be ready of itself. -/
def timers (t : Tracker) : List Nat :=
  let loops := (t.selector.poll.loops.filter Polling.Loop.isLive).filterMap Polling.Loop.due
  match t.selector.push.map Push.Channel.cycle with
  | some (.waiting wake) => wake :: loops
  | _ => loops

end TaskTracking.Tracker
