import TaskTracking.Delivery
import TaskTracking.Failure

/-! # Polling

  A poll channel asks for the status of one task at a time, once an interval, one
  request at a time.

  Each loop ticks at fixed distances from its beginning. A tick issues a request, unless
  the loop's last one is still under way; then the tick is skipped and counted. Failed
  requests are counted and tolerated, and a streak of failures is reported once, when it
  reaches the threshold. A terminal answer ends the loop; a cancelled loop delivers
  nothing more, whatever is answered later.

  The channel is a state with one function for each thing that can happen. Loops are
  never forgotten, so what an earlier loop still does is part of the state.
-/

namespace TaskTracking.Polling

/-! ### State -/

/-- Counters of one loop. -/
structure Stats where
  /-- Status requests issued. -/
  requests : Nat := 0
  /-- Ticks skipped because a request was under way. -/
  skipped : Nat := 0
  failures : Nat := 0
deriving DecidableEq

/-- An outstanding request: decided on, or sent to the server. -/
inductive Request where
  | queued
  | sent
deriving DecidableEq

/-- One polling loop. -/
structure Loop where
  taskId : String
  /-- The time of the next tick, none before the loop has begun. -/
  due : Option Nat := none
  cancelled : Bool := false
  /-- Whether the loop has returned. -/
  ended : Bool := false
  request : Option Request := none
  /-- Failures since the last success. A counter of 32 bits holds them for `2 ^ 32` intervals, as a
      loop fails once an interval at most. -/
  streak : Nat := 0
  stats : Stats := {}

namespace Loop

/-! ### One loop -/

/-- Whether the loop still polls. -/
def isLive (l : Loop) : Bool := !l.cancelled && !l.ended

/-- The first time after `now` at a multiple of the interval from `due`. -/
def nextTick (interval due now : Nat) : Nat := due + ((now - due) / interval + 1) * interval

/-- What a loop does when it runs: it returns if it was cancelled, begins, or ticks. -/
def run (interval now : Nat) (l : Loop) : Loop :=
  if l.cancelled then { l with ended := true }
  else
    match l.due with
    | none =>
      if interval = 0 then { l with ended := true } else { l with due := some (now + interval) }
    | some due =>
      if now < due then l
      else
        let ticked := { l with due := some (nextTick interval due now) }
        match l.request with
        | some _ => { ticked with stats := { l.stats with skipped := l.stats.skipped + 1 } }
        | none => { ticked with request := some .queued }

/-- Whether the loop has something to do. -/
def ready (now : Nat) (l : Loop) : Bool :=
  !l.ended && (l.cancelled || l.due.all (· ≤ now))

/-- What a request does when it runs: it is sent, or given up because its loop was cancelled. -/
def runRequest (l : Loop) : Loop × Bool :=
  match l.request with
  | some .queued =>
    let counted := { l with stats := { l.stats with requests := l.stats.requests + 1 } }
    if l.cancelled then ({ counted with request := none }, false)
    else ({ counted with request := some .sent }, true)
  | some .sent => (if l.cancelled then { l with request := none } else l, false)
  | none => (l, false)

/-- Whether the request has something to do without an answer. -/
def requestReady (l : Loop) : Bool :=
  match l.request with
  | some .queued => true
  | some .sent => l.cancelled
  | none => false

/-- An answer to the loop's request. A snapshot without id is one of the polled task. The
    loop ends with a terminal snapshot, or when nobody receives what it delivers. -/
def answer (threshold : Nat) (receiving : Bool) (l : Loop)
    (result : Except TransportFailure Snapshot) : Loop × List Delivery :=
  let idle := { l with request := none }
  if l.cancelled then (idle, [])
  else
    match result with
    | .ok s =>
      ({ idle with streak := 0, cancelled := s.isTerminal || !receiving },
        [.snapshot .poll (s.withDefaultId l.taskId)])
    | .error _ =>
      let streak := l.streak + 1
      ({ idle with streak, stats := { l.stats with failures := l.stats.failures + 1 } },
        if streak = threshold then [.stalled l.taskId streak] else [])

end Loop

/-- A poll channel. -/
structure Channel where
  interval : Nat
  /-- The length of a failure streak that is reported. -/
  threshold : Nat
  /-- Every loop started so far, the oldest first. -/
  loops : List Loop := []
  /-- The number of the current or most recent loop, none after a stop. -/
  active : Option Nat := none
  /-- Whether the channel's owner is gone, so that no loop can live. -/
  retired : Bool := false

namespace Channel

/-- The channel with loop `i` changed. -/
def update (c : Channel) (i : Nat) (f : Loop → Loop) : Channel :=
  { c with loops := c.loops.modify i f }

def activeLoop (c : Channel) : Option Loop := c.active.bind (c.loops[·]?)

def isRunning (c : Channel) : Bool := c.activeLoop.any Loop.isLive

/-- The task being polled. -/
def currentTask (c : Channel) : Option String :=
  (c.activeLoop.filter Loop.isLive).map Loop.taskId

/-- The counters of the current or most recent loop. -/
def stats (c : Channel) : Option Stats := c.activeLoop.map Loop.stats

/-! ### Control -/

def cancelLoop (c : Channel) (i : Nat) : Channel := c.update i fun l => { l with cancelled := true }

/-- Stops the current loop; an answer under way is never delivered. -/
def stop (c : Channel) : Channel :=
  match c.active with
  | some i => { c.cancelLoop i with active := none }
  | none => c

/-- Starts polling a task, unless it is polled already. -/
def start (c : Channel) (taskId : String) : Channel × Bool :=
  if c.currentTask = some taskId then (c, false)
  else
    let stopped := c.stop
    ({ stopped with
        loops := stopped.loops ++ [{ taskId, cancelled := stopped.retired }]
        active := some stopped.loops.length },
      true)

/-- Cancels every loop, now and for good. -/
def retire (c : Channel) : Channel :=
  { c with retired := true, loops := c.loops.map fun l => { l with cancelled := true } }

/-! ### Loops and requests -/

/-- Loop `i` runs. -/
def runLoop (c : Channel) (now i : Nat) : Channel := c.update i (Loop.run c.interval now)

/-- Runs the request of loop `i`; gives the task whose status is asked for. -/
def runRequest (c : Channel) (i : Nat) : Channel × Option String :=
  match c.loops[i]? with
  | some l =>
    let (l', asks) := l.runRequest
    (c.update i fun _ => l', if asks then some l.taskId else none)
  | none => (c, none)

/-- Takes the answer to the request that loop `i` has sent. -/
def answer (c : Channel) (i : Nat) (receiving : Bool)
    (result : Except TransportFailure Snapshot) : Channel × List Delivery :=
  match c.loops[i]? with
  | some l =>
    if l.request = some .sent then
      let (l', deliveries) := l.answer c.threshold receiving result
      (c.update i fun _ => l', deliveries)
    else (c, [])
  | none => (c, [])

end Channel

end TaskTracking.Polling
