import TaskTracking.Snapshot

/-! # Deliveries

  What the channels hand to the tracker. Both use one queue, so snapshots are applied
  one after another whichever channel they came by.
-/

namespace TaskTracking

/-- The channel a snapshot came by. -/
inductive Source where
  | poll
  | push
deriving DecidableEq

def Source.name : Source → String
  | .poll => "poll"
  | .push => "push"

/-- An event for the tracker. -/
inductive Delivery where
  | snapshot (source : Source) (snapshot : Snapshot)
  /-- Polling for the task has failed so many times in a row; it goes on. -/
  | stalled (taskId : String) (failures : Nat)

/-- The queue between the channels and the tracker. -/
structure Inbox where
  /-- Whether anyone still reads it. -/
  receiving : Bool := true
  queue : List Delivery := []

namespace Inbox

/-- The queue with the deliveries put at its end; nobody's queue takes none. -/
def add (i : Inbox) (deliveries : List Delivery) : Inbox :=
  if i.receiving then { i with queue := i.queue ++ deliveries } else i

/-- The queue after its reader went away. -/
def closed : Inbox := { receiving := false }

end Inbox

end TaskTracking
