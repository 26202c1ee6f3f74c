import TaskTracking.Scenario.World

/-! # Steps of a scenario

  What can be done to a page and its surroundings from outside. After each step
  everything runs that can, before the next one is taken.
-/

namespace TaskTracking.Scenario

/-- What the peer of a connection does. -/
inductive PeerAct where
  | send (frame : String)
  | fail (failure : TransportFailure)
  /-- It closes both directions. -/
  | close
  /-- It takes no more frames. -/
  | deafen

inductive Step where
  | advance (duration : Nat)
  | call (call : Call)
  | leave
  /-- The page is left, and entered anew over the same surroundings. -/
  | reload
  | setStatuses (script : Script Snapshot)
  | setCreations (script : Script String)
  | setCancellations (script : Script Bool)
  | setFaults (faults : Faults)
  /-- Something else than the page changes the storage. -/
  | overwrite (key value : String)
  /-- The newest connection's peer acts, or that of the given one. -/
  | peer (connection : Option Nat) (act : PeerAct)
  /-- This and the following steps are on the channels alone. -/
  | startPolling (taskId : String)
  | stopPolling
  | connect
  | subscribePush (taskId : String)
  | unsubscribePush
  | shutdownPush
  | failOver
  | subscribe (taskId : String)
  | unsubscribe
  | leaveChannels
  /-- Nobody takes deliveries any more. -/
  | dropReceiver

/-- What a step gives back. -/
inductive Response where
  | nothing
  | truth (value : Bool)
  | route (route : Route)
  | noConnection
deriving DecidableEq

namespace World

def updateSelector (w : World) (f : Selector → Selector) : World :=
  w.updatePage fun t => { t with selector := f t.selector }

/-- Changes the current page's selector. -/
def withSelector (w : World) (result : Selector × Response) : World × Response :=
  (w.updateSelector fun _ => result.1, result.2)

/-- Whether the channel holds that connection. -/
def holdsConnection (number : Nat) (push : Push.Channel) : Bool :=
  match push.cycle with
  | .connected link => link.number = number
  | _ => false

/-- A page as the act of the peer of that connection changes it. -/
def feel (number : Nat) (act : PeerAct) (t : Tracker) : Tracker :=
  let change (push : Push.Channel) : Push.Channel :=
    if holdsConnection number push then
      match act with
      | .send frame => push.receive (.text frame)
      | .fail failure => push.receive (.failure failure)
      | .close => push.hangUp
      | .deafen => push.deafen
    else push
  { t with selector := { t.selector with push := t.selector.push.map change } }

/-- The peer of a connection acts; it learns whether what it sends is still read. -/
def peerActs (w : World) (connection : Option Nat) (act : PeerAct) : World × Response :=
  let number := connection.getD (w.endpoint.accepted - 1)
  if number < w.endpoint.accepted then
    let isRead := w.pages.any fun t => t.selector.push.any (holdsConnection number)
    let response := match act with
      | .send _ | .fail _ => .truth isRead
      | _ => .nothing
    ({ w with pages := w.pages.map (feel number act) }, response)
  else (w, .noConnection)

/-- What a step does at once. The ticket names the call that the step may make. -/
def act (w : World) (ticket : Nat) : Step → World × Response
  | .advance _ => (w, .nothing)
  | .call call => (w.updatePage (·.call ticket call), .nothing)
  | .leave => (w.updatePage Tracker.leave, .nothing)
  | .reload =>
    let left := w.updatePage Tracker.leave
    ({ left with pages := left.pages ++ [w.blank] }, .nothing)
  | .setStatuses script => ({ w with server := { w.server with statuses := script } }, .nothing)
  | .setCreations script => ({ w with server := { w.server with creations := script } }, .nothing)
  | .setCancellations script =>
    ({ w with server := { w.server with cancellations := script } }, .nothing)
  | .setFaults faults => ({ w with storage := { w.storage with faults } }, .nothing)
  | .overwrite key value =>
    ({ w with storage := { w.storage with entries := w.storage.entries.put key value } }, .nothing)
  | .peer connection act => w.peerActs connection act
  | .startPolling taskId =>
    let (poll, started) := w.page.selector.poll.start taskId
    (w.updateSelector ({ · with poll }), .truth started)
  | .stopPolling => (w.updateSelector fun s => { s with poll := s.poll.stop }, .nothing)
  | .connect =>
    let (selector, started) := w.page.selector.connect
    w.withSelector (selector, started.elim .nothing .truth)
  | .subscribePush taskId =>
    match w.page.selector.push with
    | some push =>
      let (push, told) := push.subscribe taskId
      (w.updateSelector ({ · with push := some push }), .truth told)
    | none => (w, .nothing)
  | .unsubscribePush =>
    (w.updateSelector fun s => { s with push := s.push.map Push.Channel.unsubscribe }, .nothing)
  | .shutdownPush =>
    (w.updateSelector fun s => { s with push := s.push.map Push.Channel.shutdown }, .nothing)
  | .failOver =>
    let (selector, spawned) := w.page.selector.watch
    w.withSelector (selector, .truth spawned)
  | .subscribe taskId =>
    let (selector, route) := w.page.selector.subscribe taskId
    w.withSelector (selector, .route route)
  | .unsubscribe => (w.updateSelector Selector.unsubscribe, .nothing)
  | .leaveChannels => (w.updateSelector Selector.leave, .nothing)
  | .dropReceiver => (w.updatePage fun t => { t with inbox := .closed }, .nothing)

/-- Takes a step and lets everything run that can. Events, frames and ended calls are those
    of this step. -/
def take (w : World) (ticket : Nat) (step : Step) : World × Response :=
  let (w, response) := { w with events := [], frames := [], returned := [] }.act ticket step
  let w := w.quiesce
  match step with
  | .advance duration => (w.advance duration, response)
  | _ => (w, response)

/-- Takes what was delivered to the current page out of its inbox. -/
def collect (w : World) : List Delivery × World :=
  (w.page.inbox.queue, w.updatePage fun t => { t with inbox := { t.inbox with queue := [] } })

end World

end TaskTracking.Scenario
