import TaskTracking.Json.Value

/-! # Task snapshots

  What the task server tells about a task at one moment.
-/

namespace TaskTracking

/-- Lifecycle status of a background task. -/
inductive Status where
  | pending
  | running
  | completed
  | failed
  | cancelled
deriving DecidableEq

namespace Status

def name : Status → String
  | .pending => "pending"
  | .running => "running"
  | .completed => "completed"
  | .failed => "failed"
  | .cancelled => "cancelled"

/-- All statuses with their names. -/
def table : List (String × Status) :=
  [pending, running, completed, failed, cancelled].map fun s => (s.name, s)

/-- Whether the status ends tracking. -/
def isTerminal : Status → Bool
  | .pending | .running => false
  | .completed | .failed | .cancelled => true

end Status

/-- Progress counters of a running task. -/
structure Progress where
  current : Nat := 0
  /-- Items to process, 0 when unknown. -/
  total : Nat := 0
  percentage : Binary64 := .zero
  message : String := ""

/-- The percentage within `[0, 100]`; one that is no finite number counts as 0. -/
def Progress.clamped (p : Progress) : Binary64 :=
  if p.percentage.isFinite then p.percentage.clamp .zero .hundred else .zero

/-- A point-in-time snapshot of a server-side task. -/
structure Snapshot where
  id : String := ""
  status : Status
  progress : Progress := {}
  /-- Result payload of a completed task. -/
  result : Option Json.Value := none
  /-- Error text of a failed task. -/
  error : Option String := none
  createdAt : Option String := none
  updatedAt : Option String := none

namespace Snapshot

def isTerminal (s : Snapshot) : Bool := s.status.isTerminal

/-- The snapshot under another id. -/
def withId (s : Snapshot) (id : String) : Snapshot := { s with id }

/-- The snapshot under the given id if it has none itself. -/
def withDefaultId (s : Snapshot) (id : String) : Snapshot :=
  if s.id = "" then s.withId id else s

end Snapshot

end TaskTracking
