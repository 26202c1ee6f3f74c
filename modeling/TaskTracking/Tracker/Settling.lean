import TaskTracking.Tracker.State

/-! # Applying a snapshot

  Whoever applies a snapshot takes the lock, reads the stored task id, and carries out
  the effects. The lock is held until the last effect, so two snapshots never mix.
-/

namespace TaskTracking

/-- What the job with the snapshot asks for. -/
def Settling.ask? (identity : Store.Identity) : Settling → Option Ask
  | .locking _ => none
  | .reading _ => some (.store identity.load)
  | .clearing .. => some (.store identity.clear)

/-- What came of a turn with the snapshot. -/
inductive Settled where
  | waiting (stage : Settling)
  | over (result : Except StorageFailure Applied)

namespace Tracker

/-- Carries out the effects up to the removal of the stored task id, if there is one; gives
    the effects after it. What is shown is the display that the snapshot led to. -/
def carryOut (t : Tracker) (snapshot : Snapshot) (display : Display) :
    List Effect → Tracker × List ViewCall × Option (List Effect)
  | [] => (t, [], none)
  | .clearIdentity :: rest => (t, [], some rest)
  | .stopChannels :: rest =>
    { t with selector := t.selector.unsubscribe }.carryOut snapshot display rest
  | .updateProgress :: rest =>
    let (t', calls, later) := t.carryOut snapshot display rest
    (t', .updateProgress display :: calls, later)
  | .hideProgress :: rest =>
    let (t', calls, later) := t.carryOut snapshot display rest
    (t', .hideProgress :: calls, later)
  | .renderResult result :: rest =>
    let (t', calls, later) := t.carryOut snapshot display rest
    (t', .renderResult snapshot.id result :: calls, later)
  | .notify notice :: rest =>
    let (t', calls, later) := t.carryOut snapshot display rest
    (t', .notify notice :: calls, later)

/-- The last effect was carried out. A terminal snapshot ends the tracking. -/
def endSettling (t : Tracker) (applied : Applied) : Tracker :=
  if applied.isTerminal then (({ t with current := none }.enter .done).enter .idle).unlock
  else t.unlock

/-- Carries out effects, until one has to wait or none is left. -/
def settleEffects (t : Tracker) (snapshot : Snapshot) (applied : Applied) (effects : List Effect) :
    Tracker × List ViewCall × Settled :=
  match t.carryOut snapshot applied.display effects with
  | (t, calls, some rest) => (t, calls, .waiting (.clearing snapshot applied rest))
  | (t, calls, none) => (t.endSettling applied, calls, .over (.ok applied))

/-- Begins to apply a snapshot: takes the lock, or waits for it. -/
def settle (t : Tracker) (snapshot : Snapshot) : Tracker × Settling :=
  if t.locked then (t, .locking snapshot) else (t.lock, .reading snapshot)

/-- The lock is free for a snapshot that waits for it. -/
def settleRun (t : Tracker) : Settling → Option (Tracker × Settling)
  | .locking snapshot => if t.locked then none else some (t.lock, .reading snapshot)
  | _ => none

/-- The snapshot counts only if the stored task id could be read. -/
def settleRead (t : Tracker) (snapshot : Snapshot) (found : Option String) :
    Tracker × List ViewCall × Settled :=
  let applied := t.display.apply snapshot (Store.Identity.taskId? found)
  if applied.isNoop then (t.unlock, [], .over (.ok applied))
  else { t with display := applied.display }.settleEffects snapshot applied applied.effects

/-- Takes the store's answer. That the id could not be removed stops nothing. -/
def settleReply (t : Tracker) :
    Settling → Except StorageFailure Store.Answer → Option (Tracker × List ViewCall × Settled)
  | .reading _, .error failure => some (t.unlock, [], .over (.error failure))
  | .reading snapshot, .ok (.value found) => some (t.settleRead snapshot found)
  | .clearing snapshot applied rest, _ => some (t.settleEffects snapshot applied rest)
  | _, _ => none

end Tracker

end TaskTracking
