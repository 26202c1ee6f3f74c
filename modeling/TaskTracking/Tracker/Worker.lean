import TaskTracking.Tracker.Settling

/-! # The delivery worker

  The worker takes the deliveries one after another. It applies each snapshot to its end
  before it looks at the next delivery; a snapshot that cannot be applied is dropped.
-/

namespace TaskTracking

/-- What the worker asks for. -/
def Worker.ask? (identity : Store.Identity) : Worker → Option Ask
  | .settling stage => stage.ask? identity
  | _ => none

namespace Tracker

/-- Polling for a task fails again and again. The user is told once per tracked task, unless
    push is open. -/
def stall (t : Tracker) (taskId : String) : Tracker × List ViewCall :=
  if t.current = some taskId ∧ !t.selector.push.any (·.isOpen) ∧ !t.stallNotified then
    ({ t with stallNotified := true }, [.notify .stalled])
  else (t, [])

/-- Takes the next delivery; none if there is nothing to do. -/
def runWorker (t : Tracker) : Option (Tracker × List ViewCall) :=
  match t.worker with
  | .listening =>
    if t.selector.left then some ({ t with worker := .ended, inbox := .closed }, [])
    else
      match t.inbox.queue with
      | [] => none
      | delivery :: rest =>
        let t := { t with inbox := { t.inbox with queue := rest } }
        match delivery with
        | .snapshot _ snapshot =>
          let (t, stage) := t.settle snapshot
          some ({ t with worker := .settling stage }, [])
        | .stalled taskId _ => some (t.stall taskId)
  | .settling stage =>
    (t.settleRun stage).map fun (t, stage) => ({ t with worker := .settling stage }, [])
  | _ => none

/-- Takes the answer that the worker waits for. -/
def replyWorker (t : Tracker) (reply : Reply) : Option (Tracker × List ViewCall) :=
  match t.worker, reply with
  | .settling stage, .store result =>
    (t.settleReply stage result).map fun
      | (t, calls, .waiting stage) => ({ t with worker := .settling stage }, calls)
      | (t, calls, .over _) => ({ t with worker := .listening }, calls)
  | _, _ => none

end Tracker

end TaskTracking
