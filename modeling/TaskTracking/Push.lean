import TaskTracking.Delivery
import TaskTracking.Failure
import TaskTracking.Message

/-! # Push

  A push channel keeps one connection to the server, over which updates of many tasks
  come; it hands on those of its active task.

  A connect cycle makes attempts until one opens. After a failed attempt or a lost
  connection it waits and tries again, as long as a subscription is active and the
  retries last. When they are used up the channel is downgraded for good and every later
  subscription has to poll. An open connection gives all retries back and is told the
  active task.

  The connection phase is what the cycle is doing, so no cycle and an open connection
  cannot meet.
-/

namespace TaskTracking.Push

/-! ### State -/

/-- Connection phase as others see it. -/
inductive Phase where
  | closed
  | connecting
  | open
deriving DecidableEq

def Phase.name : Phase → String
  | .closed => "closed"
  | .connecting => "connecting"
  | .open => "open"

/-- What comes in over a connection. -/
inductive Incoming where
  | text (frame : String)
  | failure (cause : TransportFailure)
  /-- The peer has closed the connection. -/
  | closed
deriving DecidableEq

/-- An open connection. -/
structure Link where
  /-- Its number among all accepted ones. -/
  number : Nat
  /-- What has come in and was not yet read. -/
  incoming : List Incoming := []
  /-- Frames to be sent. -/
  outgoing : List String := []
  /-- Whether sending fails. -/
  deaf : Bool := false

/-- What the connect cycle is doing. -/
inductive Cycle where
  /-- There is no cycle. -/
  | absent
  /-- It has been started and not yet run. -/
  | starting
  /-- An attempt is under way. -/
  | connecting
  | connected (link : Link)
  /-- It waits for the given time to try again. -/
  | waiting (wake : Nat)

/-- A push channel. -/
structure Channel where
  /-- Failures in a row after which it is downgraded. -/
  maxRetry : Nat
  /-- The time from a failure to the next attempt. -/
  delay : Nat
  cycle : Cycle := .absent
  /-- Failed attempts and closes since the last open. -/
  retryCount : Nat := 0
  downgraded : Bool := false
  /-- How often the state others see was written. -/
  version : Nat := 0
  /-- The active subscription. -/
  active : Option String := none
  /-- Whether the channel was shut down, for good. -/
  shut : Bool := false

/-- What the channel does to its surroundings. -/
inductive Act where
  /-- Begins a connection attempt. -/
  | attempt
  /-- Writes a frame on the connection of that number. -/
  | write (number : Nat) (frame : String)
  | deliver (delivery : Delivery)

namespace Channel

def phase (c : Channel) : Phase :=
  match c.cycle with
  | .absent | .starting | .waiting _ => .closed
  | .connecting => .connecting
  | .connected _ => .open

def isOpen (c : Channel) : Bool := c.phase == .open

/-- The channel with its visible state written. -/
def touch (c : Channel) : Channel := { c with version := c.version + 1 }

/-- The frame that subscribes to a task. -/
def subscribeFrame (taskId : String) : String := (ClientMessage.subscribe taskId).encode

/-! ### Control -/

/-- Starts a connect cycle, unless there is one or there can be none. -/
def connect (c : Channel) : Channel × Bool :=
  match c.cycle with
  | .absent => if c.downgraded || c.shut then (c, false) else ({ c with cycle := .starting }, true)
  | _ => (c, false)

/-- Makes the task the active subscription; true if the server is told at once. -/
def subscribe (c : Channel) (taskId : String) : Channel × Bool :=
  let c := { c with active := some taskId }
  match c.cycle with
  | .connected link =>
    let link := { link with outgoing := link.outgoing ++ [subscribeFrame taskId] }
    ({ c with cycle := .connected link }, true)
  | _ => (c, false)

/-- Forgets the active subscription. -/
def unsubscribe (c : Channel) : Channel := { c with active := none }

/-- Closes the connection and ends all connecting, for good. -/
def shutdown (c : Channel) : Channel := { c with shut := true }

/-! ### The cycle -/

/-- The cycle ends. -/
def finish (c : Channel) : Channel := { c with cycle := .absent }

/-- Begins an attempt; a channel that was shut down ends the cycle instead. -/
def attempt (c : Channel) : Channel × List Act :=
  if c.shut then (c.finish.touch.touch, [])
  else ({ c with cycle := .connecting }.touch, [.attempt])

/-- Counts a failed attempt or a lost connection, and waits for the next attempt or ends the
    cycle. -/
def fall (c : Channel) (now : Nat) : Channel :=
  let retryCount := c.retryCount + 1
  let downgraded := c.downgraded || decide (c.maxRetry ≤ retryCount)
  let c := { c with retryCount, downgraded }.touch
  if downgraded || c.active.isNone then c.finish else { c with cycle := .waiting (now + c.delay) }

/-- Hands on a frame that updates the active task; all other frames are dropped. -/
def dispatch (c : Channel) (frame : String) : List Act :=
  match ServerMessage.decode frame with
  | .error _ => []
  | .ok message =>
    match message.taskUpdate? with
    | some (taskId, snapshot) =>
      if c.active = some taskId then [.deliver (.snapshot .push snapshot)] else []
    | none => []

/-- One turn with an open connection: frames are sent before any is read. -/
def pump (c : Channel) (now : Nat) (link : Link) : Channel × List Act :=
  match link.outgoing, link.incoming with
  | frame :: rest, _ =>
    if link.deaf then (c.fall now, [])
    else ({ c with cycle := .connected { link with outgoing := rest } }, [.write link.number frame])
  | [], .text frame :: rest =>
    ({ c with cycle := .connected { link with incoming := rest } }, c.dispatch frame)
  | [], .failure _ :: _ => (c.fall now, [])
  | [], .closed :: _ => (c.fall now, [])
  | [], [] => (c, [])

/-- What the cycle does when it runs. A shutdown goes before everything else. -/
def run (c : Channel) (now : Nat) : Channel × List Act :=
  match c.cycle with
  | .absent => (c, [])
  | .starting => c.attempt
  | .connecting => if c.shut then (c.finish.touch, []) else (c, [])
  | .connected link => if c.shut then (c.finish.touch, []) else c.pump now link
  | .waiting wake =>
    if c.shut then (c.finish, []) else if wake ≤ now then c.attempt else (c, [])

/-- Whether the cycle has something to do. -/
def ready (c : Channel) (now : Nat) : Bool :=
  match c.cycle with
  | .absent => false
  | .starting => true
  | .connecting => c.shut
  | .connected link => c.shut || !link.outgoing.isEmpty || !link.incoming.isEmpty
  | .waiting wake => c.shut || wake ≤ now

/-- The attempt under way has opened connection `number`, or failed. -/
def attempted (c : Channel) (now : Nat) (result : Except TransportFailure Nat) : Channel :=
  match c.cycle with
  | .connecting =>
    if c.shut then c.finish.touch
    else
      match result with
      | .ok number =>
        let outgoing := (c.active.map subscribeFrame).toList
        { c with cycle := .connected { number, outgoing }, retryCount := 0 }.touch
      | .error _ => c.fall now
  | _ => c

/-! ### The peer -/

/-- The channel with its open connection changed. -/
def onLink (c : Channel) (f : Link → Link) : Channel :=
  match c.cycle with
  | .connected link => { c with cycle := .connected (f link) }
  | _ => c

/-- Something comes in over the open connection. -/
def receive (c : Channel) (incoming : Incoming) : Channel :=
  c.onLink fun link => { link with incoming := link.incoming ++ [incoming] }

/-- The peer takes no more frames. -/
def deafen (c : Channel) : Channel := c.onLink fun link => { link with deaf := true }

/-- The peer closes both directions. -/
def hangUp (c : Channel) : Channel := (c.receive .closed).deafen

end Channel

end TaskTracking.Push
