import TaskTracking.Proofs.Core

/-! # Conditions on runs

  What is asked of the surroundings of a session, event by event:

  - `Fair`: the storage works, and created ids are new.
  - `Novel`: created ids are new even to the snapshots that were applied.
  - `Due`: a page applies a snapshot only once its task can be tracked.
  - `Unbroken`: a page that is left breaks off no removal of an id.
  - `Timely`: what a resume waits for comes while the tracker still waits for
    the task that was loaded.
  - `Alone`: an enter or a resume overlaps no other call, except for those that
    only apply a snapshot.

  All of them can be decided, so concrete runs can be checked against them.
-/

namespace TaskTracking

/-! ### The core of a session -/

namespace Session

/-- The view calls among outputs. -/
def viewCalls (outputs : List Output) : List ViewCall :=
  outputs.filterMap fun
    | .view call => some call
    | _ => none

/-- Whether the event was an answer to a cancel request. -/
def Event.isAside : Event → Bool
  | .answered _ (.cancelled _) => true
  | _ => false

/-- Whether the page was left. -/
def Event.isLeft : Event → Bool
  | .left => true
  | _ => false

def Record.scene (r : Record) : Scene :=
  { job := r.event.job?
    calls := viewCalls r.outputs
    applied := r.applied
    aside := r.event.isAside
    left := r.event.isLeft }

/-- Whether an output is the success of an enter or a resume. -/
def isResumption : Output → Bool
  | .returned _ result => result.isResumption
  | _ => false

/-- What there was for the view so far. -/
def scenes (s : Session) : List Scene := s.history.map Record.scene

/-- The tasks whose progress was shown so far. -/
def shown (s : Session) : List String :=
  s.scenes.flatMap fun scene => scene.calls.filterMap ViewCall.shown?

/-- Whether an enter or a resume has returned successfully. -/
def entered (s : Session) : Bool := s.history.any fun r => r.outputs.any isResumption

/-- The text stored under the page's key. -/
def found (s : Session) : Option String := s.storage.entries.get? s.tracker.identity.key

/-- The storage's answer under way to a job. -/
def pending (s : Session) (job : Job) : Option Store.Answer :=
  (s.answers.lookup job).bind Except.toOption

end Session

/-- The core of a tracker among the rest of a core. -/
def Tracker.core (t : Tracker) (found : Option String) (answer : Job → Option Store.Answer)
    (entered : Bool) (shown : List String) : Core where
  lifecycle := t.lifecycle
  current := t.current
  display := t.display
  warned := t.stallNotified
  locked := t.locked
  active := t.selector.active
  queue := t.inbox.queue
  doing := t.doing
  found := found
  answer := answer
  entered := entered
  shown := shown

namespace Session

def core (s : Session) : Core := s.tracker.core s.found s.pending s.entered s.shown

/-! ### Fairness -/

/-- Nothing that is still to be applied speaks of the task, and it was never shown. -/
def Fresh (s : Session) (taskId : String) : Prop :=
  taskId ≠ "" ∧ (∀ d ∈ s.tracker.inbox.queue, d.taskId ≠ taskId) ∧
    (∀ job ∈ s.tracker.jobs, (s.doing job).bind Call.named? ≠ some taskId) ∧
    s.tracker.current ≠ some taskId ∧ taskId ∉ s.shown

/-- Storage never fails, and created ids are fresh. -/
def Fair (s : Session) : Event → Prop
  | .disturbed _ => False
  | .answered _ (.created (.ok taskId)) => s.Fresh taskId
  | _ => True

/-- A created id is none of which a snapshot was applied. -/
def Novel (s : Session) : Event → Prop
  | .answered _ (.created (.ok taskId)) => ∀ sc ∈ s.scenes, ∀ x ∈ sc.applied, x.id ≠ taskId
  | _ => True

/-! ### What a page applies -/

/-- The snapshot's task is not one that an earlier page has left and that this page,
    not yet entered, does not track; nor is its id just being stored. -/
def MayApply (s : Session) (snapshot : Snapshot) : Prop :=
  (s.entered ∨ s.stored ≠ some snapshot.id ∨ s.tracker.lifecycle = .tracking) ∧
    ∀ job ∈ s.tracker.jobs, (s.doing job).bind Call.saved? ≠ some snapshot.id

/-- The page applies no snapshot of a task that is stored but not tracked yet. -/
def Due (s : Session) : Event → Prop
  | .called _ (.applying snapshot) => s.MayApply snapshot
  | _ => True

/-! ### How a page is left -/

/-- A page that is left breaks off no removal of an id. -/
def Unbroken (s : Session) : Event → Prop
  | .left => (s.doing .worker).any Call.isClearing = false
  | _ => True

/-! ### Timeliness -/

/-- The stored id that the storage's answer to a job tells. -/
def told (s : Session) (job : Job) : Option String :=
  match s.pending job with
  | some (.value found) => Store.Identity.taskId? found
  | _ => none

/-- The tracker is idle and the stored id is the given one. -/
def Waits (s : Session) (taskId : String) : Prop :=
  s.tracker.lifecycle = .idle ∧ s.stored = some taskId

/-- An answer that lets a resume act comes while the tracker waits for the task
    that was loaded. One that ends the current task may come later, and one that
    lets the resume remove an id may find none. -/
def Timely (s : Session) : Event → Prop
  | .answered job (.status (.ok snapshot)) =>
    match s.doing job with
    | some (.fetching taskId) =>
      s.Waits taskId ∨ snapshot.isTerminal = true ∧ s.tracker.current = some taskId
    | _ => True
  | .answered job (.status (.error _)) =>
    match s.doing job with
    | some (.fetching taskId) => s.Waits taskId ∨ s.stored = none
    | _ => True
  | .stored job =>
    match s.doing job with
    | some (.settling (.reading snapshot) (.finished taskId _)) =>
      s.told job = some snapshot.id → s.Waits taskId ∨ s.stored = none
    | some (.settling (.clearing ..) (.finished ..)) => s.tracker.lifecycle = .idle
    | _ => True
  | _ => True

/-! ### Solitude -/

/-- No enter or resume overlaps another call, except for those that only apply a
    snapshot. -/
def Alone (s : Session) : Event → Prop
  | .called _ call =>
    if call.resumes then ∀ job ∈ s.tracker.jobs, (s.doing job).all Call.onlyApplies
    else call.onlyApplies ∨ ∀ job ∈ s.tracker.jobs, (s.doing job).all fun d => !d.resumes
  | _ => True

/-! ### Decidability -/

instance (s : Session) (taskId : String) : Decidable (s.Fresh taskId) := by
  unfold Fresh
  infer_instance

instance (s : Session) (snapshot : Snapshot) : Decidable (s.MayApply snapshot) := by
  unfold MayApply
  infer_instance

instance (s : Session) (taskId : String) : Decidable (s.Waits taskId) := by
  unfold Waits
  infer_instance

instance (s : Session) (e : Event) : Decidable (s.Fair e) := by
  unfold Fair
  split <;> infer_instance

instance (s : Session) (e : Event) : Decidable (s.Novel e) := by
  unfold Novel
  split <;> infer_instance

instance (s : Session) (e : Event) : Decidable (s.Due e) := by
  unfold Due
  split <;> infer_instance

instance (s : Session) (e : Event) : Decidable (s.Unbroken e) := by
  unfold Unbroken
  split <;> infer_instance

instance (s : Session) (e : Event) : Decidable (s.Timely e) := by
  unfold Timely
  split
  · split <;> infer_instance
  · split <;> infer_instance
  · split <;> infer_instance
  · infer_instance

instance (s : Session) (e : Event) : Decidable (s.Alone e) := by
  unfold Alone
  split
  · split <;> infer_instance
  · infer_instance

end Session

end TaskTracking
