import TaskTracking.Snapshot
import TaskTracking.Binary64.Decimal

/-! # Progress display

  What a page shows of a task, and how a snapshot changes it. `apply` is the whole rule:
  it gives the next display and the effects to carry out, in order.

  Two things make it safe to apply snapshots from several channels in any order. The
  percentage and the item count of one task only grow. And a snapshot counts only while
  the identity store refers to its task, which a terminal snapshot ends.
-/

namespace TaskTracking

/-- What the progress area shows. -/
structure Display where
  /-- The task it belongs to. -/
  taskId : Option String := none
  /-- The last applied status. -/
  status : Option Status := none
  visible : Bool := false
  percentage : Binary64 := .zero
  current : Nat := 0
  total : Nat := 0
  message : String := ""

/-- The display of a task that tracking has just begun for. -/
def Display.tracking (taskId : String) : Display := { taskId := some taskId, visible := true }

/-- The label of the progress bar: the rounded percentage, and the counts if the total is known. -/
def Display.text (d : Display) : String :=
  let counts :=
    if 0 < d.total then
      " (".toList ++ decimalDigits d.current ++ '/' :: decimalDigits d.total ++ [')']
    else []
  String.ofList (d.percentage.wholeText ++ '%' :: counts)

/-! ### Notices -/

inductive NoticeLevel where
  | success
  | info
  | warning
  | error
deriving DecidableEq

def NoticeLevel.name : NoticeLevel → String
  | .success => "success"
  | .info => "info"
  | .warning => "warning"
  | .error => "error"

/-- A short message for the user. -/
structure Notice where
  level : NoticeLevel
  message : String
deriving DecidableEq

namespace Notice

def completed : Notice := ⟨.success, "Task completed"⟩

def cancelled : Notice := ⟨.info, "Task cancelled"⟩

/-- The notice of a failed task; an empty reason is no reason. -/
def failed (reason : Option String) : Notice :=
  let reason := match reason with
    | some "" | none => "unknown error"
    | some r => r
  ⟨.error, "Task failed: " ++ reason⟩

def stalled : Notice := ⟨.warning, "Live progress updates are delayed; still retrying"⟩

def notStarted (cause : String) : Notice := ⟨.error, "Failed to start task: " ++ cause⟩

def notCancelled (cause : String) : Notice := ⟨.error, "Failed to cancel task: " ++ cause⟩

def cancelRefused : Notice := ⟨.error, "Server refused to cancel the task"⟩

def notForgotten (cause : String) : Notice :=
  ⟨.error, "Failed to forget cancelled task: " ++ cause⟩

end Notice

/-! ### Applying snapshots -/

/-- What is to be done after a snapshot was applied. -/
inductive Effect where
  /-- Redraw the progress area. -/
  | updateProgress
  /-- Forget the tracked task's id. -/
  | clearIdentity
  /-- End the subscription. -/
  | stopChannels
  | hideProgress
  | renderResult (result : Json.Value)
  | notify (notice : Notice)

/-- The outcome of applying a snapshot. -/
structure Applied where
  display : Display
  effects : List Effect

namespace Applied

/-- Whether the snapshot was ignored. -/
def isNoop (a : Applied) : Bool := a.effects.isEmpty

/-- Whether the snapshot ended the tracking. -/
def isTerminal (a : Applied) : Bool := a.effects.any fun e => e matches .clearIdentity

end Applied

namespace Display

/-- Merges the progress of a snapshot: the percentage and the count of a task never fall, an
    unknown total and an empty message leave what was shown. -/
def advance (d : Display) (s : Snapshot) : Display :=
  let incoming := s.progress.clamped
  let same := d.taskId = some s.id
  let base := if same then d else tracking s.id
  { base with
    percentage := if !same ∨ base.percentage.le incoming then incoming else base.percentage
    current := max base.current s.progress.current
    total := if 0 < s.progress.total then s.progress.total else base.total
    message := if s.progress.message = "" then base.message else s.progress.message }

/-- What ends the tracking of a task, whatever its outcome. -/
def ending : List Effect := [.clearIdentity, .stopChannels, .hideProgress]

/-- Applies a snapshot while the identity store refers to the task `tracked`. -/
def apply (d : Display) (s : Snapshot) (tracked : Option String) : Applied :=
  if tracked ≠ some s.id then { display := d, effects := [] }
  else
    let next := { d.advance s with status := some s.status }
    match s.status with
    | .pending | .running =>
      { display := { next with visible := true }, effects := [.updateProgress] }
    | .completed =>
      { display := { next with visible := false, percentage := .hundred }
        effects := ending ++ [.renderResult (s.result.getD .null), .notify .completed] }
    | .failed =>
      { display := { next with visible := false }
        effects := ending ++ [.notify (.failed s.error)] }
    | .cancelled =>
      { display := { next with visible := false }
        effects := ending ++ [.notify .cancelled] }

end Display

end TaskTracking
