import TaskTracking.Scenario.Doubles
import TaskTracking.Tracker.Step

/-! # A world under a virtual clock

  Pages with their surroundings at one moment. Time stands still while anything can run.
  Jobs take turns in the order in which they became ready; a job whose turn leaves it
  ready goes on at once.
-/

namespace TaskTracking.Scenario

/-- What is on its way to a waiting job. -/
inductive Coming where
  | reply (reply : Reply)
  /-- The end of a connection attempt; an accepted connection gets its number on arrival. -/
  | connection (result : Except TransportFailure Unit)

/-- A job of a page. -/
structure Task where
  page : Nat
  job : Job
deriving DecidableEq

structure Pending where
  task : Task
  due : Nat
  coming : Coming

/-- What was done to the surroundings. -/
inductive Event where
  | view (call : ViewCall)
  | ask (ask : Ask)

structure World where
  now : Nat := 0
  server : Server := {}
  endpoint : Endpoint := {}
  storage : Storage := {}
  /-- A page as it is when it is new. -/
  blank : Tracker
  /-- Every page so far; the last one is the current one. -/
  pages : List Tracker
  pending : List Pending := []
  /-- The jobs that wait for their turn. -/
  queue : List Task := []
  events : List Event := []
  /-- The frames that reached the peers. -/
  frames : List (Nat × String) := []
  /-- The calls that ended. -/
  returned : List (Nat × Outcome.Result) := []

namespace World

/-- The current page. -/
def page (w : World) : Tracker := w.pages.getLast?.getD w.blank

def updatePage (w : World) (f : Tracker → Tracker) : World :=
  { w with pages := w.pages.modify (w.pages.length - 1) f }

/-! ### Outputs -/

/-- Something will reach a job. -/
def send (w : World) (task : Task) (delay : Nat) (coming : Coming) : World :=
  { w with pending := w.pending ++ [{ task, due := w.now + delay, coming }] }

def note (w : World) (event : Event) : World := { w with events := w.events ++ [event] }

/-- A job asks for something. -/
def ask (w : World) (task : Task) : Ask → World
  | .connect =>
    let (answer, endpoint) := w.endpoint.next
    { w with endpoint }.send task answer.delay (.connection answer.result)
  | .store request =>
    let (answer, storage) := w.storage.answer request
    ({ w with storage }.note (.ask (.store request))).send task 0 (.reply (.store answer))
  | .create params =>
    let (answer, creations) := w.server.creations.next
    ({ w with server := { w.server with creations } }.note (.ask (.create params))).send
      task answer.delay (.reply (.created answer.result))
  | .status taskId =>
    let (answer, statuses) := w.server.statuses.next
    ({ w with server := { w.server with statuses } }.note (.ask (.status taskId))).send
      task answer.delay (.reply (.status answer.result))
  | .cancel taskId =>
    let (answer, cancellations) := w.server.cancellations.next
    ({ w with server := { w.server with cancellations } }.note (.ask (.cancel taskId))).send
      task answer.delay (.reply (.cancelled answer.result))

/-- Something leaves a page. -/
def emit (page : Nat) (w : World) : Output → World
  | .view call => w.note (.view call)
  | .ask job ask => w.ask { page, job } ask
  | .frame connection text => { w with frames := w.frames ++ [(connection, text)] }
  | .returned ticket result => { w with returned := w.returned ++ [(ticket, result)] }

/-- A page after a turn of one of its jobs. -/
def afterTurn (w : World) (page : Nat) (turn : Tracker × List Output) : World :=
  turn.2.foldl (emit page) { w with pages := w.pages.set page turn.1 }

/-! ### Turns -/

/-- What has reached the job by now. -/
def arrived (w : World) (task : Task) : Option Pending :=
  w.pending.find? fun p => p.task = task ∧ p.due ≤ w.now

/-- The world without what is on its way to the job. -/
def forget (w : World) (task : Task) : World :=
  { w with pending := w.pending.filter (·.task ≠ task) }

/-- The reply that has come. -/
def receive (w : World) : Coming → Reply × World
  | .reply reply => (reply, w)
  | .connection (.error failure) => (.connected (.error failure), w)
  | .connection (.ok ()) =>
    let (number, endpoint) := w.endpoint.accept
    (.connected (.ok number), { w with endpoint })

/-- A turn of the job. Where it can go on without the reply it waits for, it no longer waits. -/
def turn (w : World) (task : Task) : Option World := do
  let page ← w.pages[task.page]?
  match page.run w.now task.job with
  | some turn => return (w.forget task).afterTurn task.page turn
  | none =>
    let pending ← w.arrived task
    let (reply, w) := (w.forget task).receive pending.coming
    return match page.reply w.now task.job reply with
      | some turn => w.afterTurn task.page turn
      | none => w

def isReady (w : World) (task : Task) : Bool :=
  (w.arrived task).isSome || w.pages[task.page]?.any (·.isReady w.now task.job)

/-- The jobs of all pages, those of older pages first. -/
def tasks (w : World) : List Task :=
  w.pages.zipIdx.flatMap fun (page, i) => page.jobs.map fun job => { page := i, job }

/-- Queues the jobs that have become ready, except the one whose turn it is. -/
def awaken (w : World) (running : Option Task) : World :=
  let ready := w.tasks.filter fun task =>
    running ≠ some task ∧ ¬w.queue.contains task ∧ w.isReady task
  { w with queue := w.queue ++ ready }

/-- Lets jobs take turns until nothing can run, or the fuel is used up. -/
def settle : Nat → Option Task → World → World
  | 0, _, w => w
  | fuel + 1, some task, w =>
    match w.turn task with
    | some w => settle fuel (some task) (w.awaken (some task))
    | none => settle fuel none w
  | fuel + 1, none, w =>
    match w.queue with
    | [] => w
    | task :: queue => settle fuel (some task) { w with queue }

/-- Turns allowed within one instant. -/
def patience : Nat := 1000000

/-- Lets everything run that can. -/
def quiesce (w : World) : World := settle patience none (w.awaken none)

/-! ### Time -/

/-- The earliest time at which something happens of itself. -/
def nextTimer (w : World) : Option Nat :=
  (w.pending.map Pending.due ++ w.pages.flatMap Tracker.timers).min?

/-- Moves the clock to the given time, stopping wherever something happens. -/
def advanceTo : Nat → Nat → World → World
  | 0, target, w => { w with now := max w.now target }
  | fuel + 1, target, w =>
    match w.nextTimer with
    | some time =>
      if time ≤ target then advanceTo fuel target ({ w with now := max w.now time }).quiesce
      else { w with now := max w.now target }
    | none => { w with now := max w.now target }

/-- Lets time pass; the clock stops at most once per unit of it. -/
def advance (w : World) (duration : Nat) : World := advanceTo (duration + 1) (w.now + duration) w

end World

end TaskTracking.Scenario
