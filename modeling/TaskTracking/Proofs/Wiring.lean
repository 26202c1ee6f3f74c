import Mathlib.Data.Option.Basic
import Mathlib.Logic.Relation
import TaskTracking.Proofs.Selection
import TaskTracking.Proofs.Turns

/-! # The wiring of a session

  What brings updates to a tracker is its selector with the two channels. A `Wiring`
  is that much of a session, with what the channels have done so far, and a `Move`
  is one thing that can happen to it. Every event of a session is a sequence of such
  moves, whatever the storage does (`Session.wires_of_step`), so a law of the
  channels has to be shown for moves only.
-/

namespace TaskTracking

/-! ### Wirings -/

/-- Whether a status is one with which its loop stops. -/
def Polling.Loop.isLast : Except TransportFailure Snapshot → Bool
  | .ok s => s.isTerminal
  | .error _ => false

/-- Whether the worker was started. -/
def Worker.isBegun : Worker → Bool
  | .absent => false
  | _ => true

/-- The selector of a tracker, and what its channels have done. -/
structure Wiring where
  now : Nat
  selector : Selector
  /-- Whether the background jobs were started. -/
  begun : Bool
  /-- Whether anyone takes what the channels deliver. -/
  receiving : Bool
  /-- The connections accepted so far. -/
  accepted : Nat
  /-- The frames written so far, each with the number of its connection. -/
  frames : List (Nat × String)
  /-- The loops that took a terminal status. -/
  stopped : List Nat

namespace Wiring

/-- What is allowed to happen. -/
structure Rules where
  /-- Where the background jobs may be started. -/
  starts : Wiring → Prop
  /-- Where a task may be subscribed to. -/
  begins : Wiring → Prop
  /-- Whether the page may be left. -/
  leaves : Prop
  /-- Where time may pass. -/
  elapses : Wiring → Prop

/-- Everything is allowed. -/
def Rules.any : Rules where
  starts := fun _ => True
  begins := fun _ => True
  leaves := True
  elapses := fun _ => True

/-- One thing that can happen to a wiring. -/
inductive Move (r : Rules) (w : Wiring) : Wiring → Prop
  /-- The background jobs are started. -/
  | startUp (hfirst : w.begun = false) (hstarts : r.starts w) :
      Move r w { w with selector := w.selector.watch.1, begun := true }
  | connect : Move r w { w with selector := w.selector.connect.1 }
  | subscribe (taskId : String) (hbegins : r.begins w) :
      Move r w { w with selector := (w.selector.subscribe taskId).1 }
  | unsubscribe : Move r w { w with selector := w.selector.unsubscribe }
  | watch (k : Nat) : Move r w { w with selector := w.selector.runWatcher k }
  /-- The connect cycle has a turn. -/
  | cycle {c : Push.Channel} (hpush : w.selector.push = some c) :
      Move r w
        { w with
          selector := { w.selector with push := some (c.run w.now).1 }
          frames := w.frames ++ Push.Channel.written (c.run w.now).2 }
  | opened {c : Push.Channel} (hpush : w.selector.push = some c) :
      Move r w
        { w with
          selector := { w.selector with push := some (c.attempted w.now (.ok w.accepted)) }
          accepted := w.accepted + 1 }
  | refused {c : Push.Channel} (failure : TransportFailure)
      (hpush : w.selector.push = some c) :
      Move r w
        { w with selector := { w.selector with push := some (c.attempted w.now (.error failure)) } }
  /-- The peer does something to the open connection. -/
  | link {f : Push.Link → Push.Link} (hnumber : ∀ l, (f l).number = l.number)
      (houtgoing : ∀ l, (f l).outgoing = l.outgoing) :
      Move r w
        { w with selector := { w.selector with push := w.selector.push.map (·.onLink f) } }
  | tick (i : Nat) :
      Move r w
        { w with selector := { w.selector with poll := w.selector.poll.runLoop w.now i } }
  | request (i : Nat) :
      Move r w
        { w with selector := { w.selector with poll := (w.selector.poll.runRequest i).1 } }
  | answer (i : Nat) {l : Polling.Loop} (result : Except TransportFailure Snapshot)
      (hloop : w.selector.poll.loops[i]? = some l) (hsent : l.request = some .sent) :
      Move r w
        { w with
          selector :=
            { w.selector with poll := (w.selector.poll.answer i w.receiving result).1 }
          stopped := w.stopped ++ if Polling.Loop.isLast result then [i] else [] }
  /-- The worker of a page that was left ends. -/
  | quit (hleft : w.selector.left = true) : Move r w { w with receiving := false }
  | leave (hleaves : r.leaves) :
      Move r w
        { w with selector := { w.selector.leave with poll := w.selector.leave.poll.stop } }
  | elapse (duration : Nat) (helapses : r.elapses w) :
      Move r w { w with now := w.now + duration }

/-- What can happen in one event. -/
def Moves (r : Rules) : Wiring → Wiring → Prop := Relation.ReflTransGen (Move r)

/-- The background jobs are started for good. -/
theorem Moves.begun {r : Rules} {w w' : Wiring} (h : Moves r w w') (hbegun : w.begun = true) :
    w'.begun = true := by
  induction h with
  | refl => exact hbegun
  | tail _ hmove ih =>
    cases hmove with
    | startUp => rfl
    | _ => exact ih

end Wiring

/-- The wiring `w` with what belongs to the tracker. -/
def Tracker.wiring (t : Tracker) (w : Wiring) : Wiring :=
  { w with
    selector := t.selector, begun := t.worker.isBegun, receiving := t.inbox.receiving }

namespace Session

/-- The frames among outputs. -/
def framesOf (outputs : List Output) : List (Nat × String) :=
  outputs.filterMap fun
    | .frame connection text => some (connection, text)
    | _ => none

/-- The loop that takes a terminal status in the event. -/
def Event.stopped? : Event → Option Nat
  | .answered (.request i) (.status result) => if Polling.Loop.isLast result then some i else none
  | _ => none

/-- The frames written so far, each with the number of its connection. -/
def frames (s : Session) : List (Nat × String) := s.history.flatMap fun r => framesOf r.outputs

/-- The loops that took a terminal status. -/
def stopped (s : Session) : List Nat := s.history.filterMap fun r => r.event.stopped?

def wiring (s : Session) : Wiring where
  now := s.now
  selector := s.tracker.selector
  begun := s.tracker.worker.isBegun
  receiving := s.tracker.inbox.receiving
  accepted := s.accepted
  frames := s.frames
  stopped := s.stopped

end Session

/-! ### Turns of the tracker -/

/-- A call that may come to track a task. -/
def Call.mayTrack : Call → Bool
  | .resuming | .loading | .fetching _ | .creating _ | .saving _ => true
  | _ => false

namespace Tracker

variable {r : Wiring.Rules} {w : Wiring} {t t' : Tracker}

/-- The tracker `t'` comes of `t` by moves of the wiring, with the same calls in
    progress. -/
structure Wires (r : Wiring.Rules) (w : Wiring) (t t' : Tracker) : Prop where
  moves : Wiring.Moves r (t.wiring w) (t'.wiring w)
  calls : t'.calls = t.calls

theorem Wires.refl (t : Tracker) : Wires r w t t := ⟨.refl, rfl⟩

theorem Wires.trans {t₁ : Tracker} (h : Wires r w t t₁)
    (h' : Wires r w t₁ t') :
    Wires r w t t' :=
  ⟨Relation.ReflTransGen.trans h.moves h'.moves, h'.calls.trans h.calls⟩

/-- One move. -/
theorem Wires.single (hmove : Wiring.Move r (t.wiring w) (t'.wiring w))
    (hcalls : t'.calls = t.calls) : Wires r w t t' :=
  ⟨Relation.ReflTransGen.single hmove, hcalls⟩

/-- Nothing happens to the wiring. -/
theorem wires_of_eq (hselector : t'.selector = t.selector)
    (hworker : t'.worker.isBegun = t.worker.isBegun)
    (hreceiving : t'.inbox.receiving = t.inbox.receiving) (hcalls : t'.calls = t.calls) :
    Wires r w t t' := by
  refine ⟨?_, hcalls⟩
  unfold wiring
  rw [hselector, hworker, hreceiving]
  exact .refl

theorem wires_startBackground (t : Tracker)
    (hstarts : t.worker.isBegun = false → r.starts (t.wiring w)) :
    Wires r w t t.startBackground := by
  unfold startBackground
  split
  · next habsent =>
    have hfirst : t.worker.isBegun = false := by
      rw [habsent]
      rfl
    exact .single (.startUp hfirst (hstarts hfirst)) rfl
  · exact .refl t

theorem isBegun_startBackground (t : Tracker) : t.startBackground.worker.isBegun = true := by
  unfold startBackground
  split
  · rfl
  · next hpresent =>
    cases hworker : t.worker with
    | absent => exact absurd hworker hpresent
    | _ => rfl

theorem wires_settle (t : Tracker) (s : Snapshot) :
    Wires r w t (t.settle s).1 := by
  unfold settle
  split <;> exact wires_of_eq rfl rfl rfl rfl

theorem wires_carryOut (t : Tracker) (s : Snapshot) (d : Display) (effects : List Effect) :
    Wires r w t (t.carryOut s d effects).1 := by
  induction effects generalizing t with
  | nil => exact .refl t
  | cons effect effects ih =>
    cases effect with
    | stopChannels =>
      have hunsubscribe : Wires r w t
          { t with selector := t.selector.unsubscribe } := .single .unsubscribe rfl
      exact hunsubscribe.trans (ih _)
    | clearIdentity => exact .refl t
    | _ => exact ih t

theorem wires_settleEffects (t : Tracker) (s : Snapshot) (a : Applied) (effects : List Effect) :
    Wires r w t (t.settleEffects s a effects).1 := by
  have hcarry : Wires r w t _ :=
    wires_carryOut t s a.display effects
  unfold settleEffects
  split
  · next heq =>
    rw [heq] at hcarry
    exact hcarry
  · next heq =>
    rw [heq] at hcarry
    unfold endSettling
    split <;> exact hcarry.trans (wires_of_eq rfl rfl rfl rfl)

theorem wires_settleReply {stage : Settling} {result : Except StorageFailure Store.Answer}
    {calls : List ViewCall} {settled : Settled}
    (hreply : t.settleReply stage result = some (t', calls, settled)) :
    Wires r w t t' := by
  unfold settleReply at hreply
  split at hreply
  · cases hreply
    exact wires_of_eq rfl rfl rfl rfl
  · -- The display is not wired, so only the effects of the snapshot count.
    next snapshot found =>
    have heq := Option.some.inj hreply
    unfold settleRead at heq
    dsimp only at heq
    split at heq
    · cases heq
      exact wires_of_eq rfl rfl rfl rfl
    · have hwires : Wires r w { t with
          display := (t.display.apply snapshot (Store.Identity.taskId? found)).display } _ :=
        wires_settleEffects _ snapshot
          (t.display.apply snapshot (Store.Identity.taskId? found))
          (t.display.apply snapshot (Store.Identity.taskId? found)).effects
      rw [heq] at hwires
      have hshown : Wires r w t { t with
          display := (t.display.apply snapshot (Store.Identity.taskId? found)).display } :=
        wires_of_eq rfl rfl rfl rfl
      exact hshown.trans hwires
  · next _ snapshot applied rest =>
    have hwires : Wires r w t _ :=
      wires_settleEffects t snapshot applied rest
    rw [Option.some.inj hreply] at hwires
    exact hwires
  · cases hreply

/-- A worker that goes on after a turn. -/
theorem wires_worker {t₁ : Tracker} {worker : Worker}
    (hwires : Wires r w t t₁)
    (hbegun : t.worker.isBegun = true) (hworker : worker.isBegun = true) :
    Wires r w t { t₁ with worker } := by
  have hbegun' : t₁.worker.isBegun = true := hwires.moves.begun hbegun
  exact hwires.trans (wires_of_eq rfl (hworker.trans hbegun'.symm) rfl rfl)

/-- The worker ends once the page was left. -/
theorem wires_quit (hleft : t.selector.left = true) (hbegun : t.worker.isBegun = true) :
    Wires r w t
      { t with worker := .ended, inbox := .closed } := by
  have hquit : Wires r w t { t with inbox := .closed } :=
    .single (.quit hleft) rfl
  exact wires_worker hquit hbegun rfl

theorem wires_of_workerTurn {calls : List ViewCall} (hturn : t.WorkerTurn (t', calls)) :
    Wires r w t t' := by
  cases hturn with
  | quit hworker hleft => exact wires_quit hleft (by rw [hworker]; rfl)
  | @take source s rest hworker =>
    have htake : Wires r w t { t with inbox := { t.inbox with queue := rest } } :=
      wires_of_eq rfl rfl rfl rfl
    exact wires_worker (htake.trans (wires_settle _ s)) (by rw [hworker]; rfl) rfl
  | warn | pass => exact wires_of_eq rfl rfl rfl rfl
  | lock hworker => exact wires_of_eq rfl (by rw [hworker]; rfl) rfl rfl

theorem wires_replyWorker {reply : Reply} {calls : List ViewCall}
    (hreply : t.replyWorker reply = some (t', calls)) :
    Wires r w t t' := by
  unfold replyWorker at hreply
  split at hreply
  · next stage result hsettling =>
    have hbegun : t.worker.isBegun = true := by rw [hsettling]; rfl
    obtain ⟨⟨t₁, calls₁, settled⟩, hsettle, hturn⟩ := Option.map_eq_some_iff.mp hreply
    cases settled <;> cases hturn <;> exact wires_worker (wires_settleReply hsettle) hbegun rfl
  · cases hreply

/-! ### Turns of calls -/

theorem wires_enterPage (t : Tracker)
    (hstarts : t.worker.isBegun = false → r.starts (t.wiring w)) :
    Wires r w t t.enterPage.1 := by
  have hconnect : Wires r w t.startBackground t.enterPage.1 :=
    .single .connect rfl
  exact (wires_startBackground t hstarts).trans hconnect

/-- A turn that shows a task subscribes to it, and the first turn of an enter or a start
    starts the background jobs. -/
theorem wires_of_callTurn {d : Call} {reply : Option Reply} {calls : List ViewCall} {turn : Turn}
    (hturn : t.CallTurn d reply (t', calls, turn))
    (hstarts : t.worker.isBegun = false → t'.worker.isBegun = true → r.starts (t.wiring w))
    (hbegins : d.mayTrack = true → calls.filterMap ViewCall.shown? ≠ [] →
      r.begins (t.wiring w)) :
    Wires r w t t' := by
  cases hturn with
  | enter => exact wires_enterPage t fun h => hstarts h (isBegun_startBackground t)
  | start =>
    have henter : Wires r w t (t.enter .creating) := wires_of_eq rfl rfl rfl rfl
    exact henter.trans
      (wires_startBackground _ fun h => hstarts h (isBegun_startBackground (t.enter .creating)))
  | release => exact .single .unsubscribe rfl
  | apply => exact wires_settle t _
  | @conclude taskId =>
    have hcurrent : Wires r w t { t with current := some taskId } := wires_of_eq rfl rfl rfl rfl
    exact hcurrent.trans (wires_settle _ _)
  -- A resume that fetches and a start that stores begin to track.
  | @track taskId =>
    have hbegin : Wires r w t (t.beginTracking taskId).1 :=
      .single (.subscribe taskId (hbegins rfl (List.cons_ne_nil _ _))) rfl
    exact hbegin.trans (wires_settle _ _)
  | begin => exact .single (.subscribe _ (hbegins rfl (List.cons_ne_nil _ _))) rfl
  | settle hsettle => exact wires_settleReply hsettle
  | _ => exact wires_of_eq rfl rfl rfl rfl

end Tracker

/-! ### Events -/

namespace Session

variable {r : Wiring.Rules} {s s' : Session} {e : Event}

/-- What an event puts out changes neither the time nor the number of connections. -/
theorem foldl_perform_spec (outputs : List Output) (s : Session) :
    (outputs.foldl perform s).now = s.now ∧
      (outputs.foldl perform s).accepted = s.accepted := by
  induction outputs generalizing s with
  | nil => exact ⟨rfl, rfl⟩
  | cons o outputs ih =>
    rw [List.foldl_cons]
    have hperform : (s.perform o).now = s.now ∧ (s.perform o).accepted = s.accepted := by
      unfold perform
      split <;> exact ⟨rfl, rfl⟩
    exact ⟨(ih _).1.trans hperform.1, (ih _).2.trans hperform.2⟩

/-- The wiring after an event that gave the tracker a turn. -/
theorem wiring_after (s : Session) (e : Event) (turn : Tracker × List Output) :
    (s.after e turn).wiring =
      { turn.1.wiring s.wiring with
        frames := s.frames ++ framesOf turn.2
        stopped := s.stopped ++ e.stopped?.toList } := by
  have hframes : (s.after e turn).frames = s.frames ++ framesOf turn.2 := by
    unfold frames after
    rw [foldl_perform_history]
    simp [note]
  have hstopped : (s.after e turn).stopped = s.stopped ++ e.stopped?.toList := by
    unfold stopped after
    rw [foldl_perform_history]
    cases hlast : e.stopped? <;> simp [note, hlast]
  obtain ⟨hnow, haccepted⟩ := foldl_perform_spec turn.2 (s.note e turn)
  have hnow' : (s.after e turn).now = s.now := hnow
  have haccepted' : (s.after e turn).accepted = s.accepted := haccepted
  unfold wiring Tracker.wiring
  rw [after_tracker, hnow', haccepted', hframes, hstopped]

/-- An event that neither writes a frame nor ends a loop. -/
theorem wiring_after_plain {turn : Tracker × List Output} (hframes : framesOf turn.2 = [])
    (hstopped : e.stopped? = none) :
    (s.after e turn).wiring = turn.1.wiring s.wiring := by
  rw [wiring_after, hframes, hstopped, Option.toList_none, List.append_nil, List.append_nil]
  rfl

theorem framesOf_map_view (calls : List ViewCall) (outputs : List Output) :
    framesOf (calls.map .view ++ outputs) = framesOf outputs := by
  induction calls with
  | nil => rfl
  | cons call calls ih => exact ih

@[simp] theorem framesOf_asking (job : Job) (ask : Option Ask) :
    framesOf (Tracker.asking job ask) = [] := by
  cases ask <;> rfl

theorem framesOf_afterWorker (turn : Tracker × List ViewCall) :
    framesOf (Tracker.afterWorker turn).2 = [] := by
  rw [Tracker.afterWorker, framesOf_map_view, framesOf_asking]

theorem framesOf_afterCall (k : Nat) (t : Tracker) (calls : List ViewCall) (turn : Turn) :
    framesOf (Tracker.afterCall k (t, calls, turn)).2 = [] := by
  cases turn with
  | waiting d => rw [Tracker.afterCall, framesOf_map_view, framesOf_asking]
  | «over» result =>
    rw [Tracker.afterCall, framesOf_map_view]
    rfl

theorem framesOf_afterPush (t : Tracker) (push : Push.Channel) (acts : List Push.Act) :
    framesOf (t.afterPush push acts).2 = Push.Channel.written acts := by
  unfold framesOf Tracker.afterPush Push.Channel.written
  rw [List.filterMap_filterMap]
  congr 1
  funext act
  cases act <;> rfl

theorem wiring_afterPush (t : Tracker) (push : Push.Channel) (acts : List Push.Act)
    (w : Wiring) : (t.afterPush push acts).1.wiring w =
      { t.wiring w with selector := { t.selector with push := some push } } := by
  unfold Tracker.afterPush Tracker.wiring Tracker.deliver Inbox.add
  simp only [Wiring.mk.injEq, true_and, and_true]
  split <;> rfl

theorem wiring_afterPoll (t : Tracker) (poll : Polling.Channel) (ds : List Delivery)
    (w : Wiring) : (t.afterPoll poll ds).wiring w =
      { t.wiring w with selector := { t.selector with poll } } := by
  unfold Tracker.afterPoll Tracker.wiring Tracker.deliver Inbox.add
  simp only [Wiring.mk.injEq, true_and, and_true]
  split <;> rfl

/-- A turn that an event gives a call. -/
theorem wires_of_takes {k : Nat} {d : Call} {t : Tracker} {calls : List ViewCall} {turn : Turn}
    (htakes : s.Takes k d e (t, calls, turn))
    (hstarts : s.tracker.worker.isBegun = false → t.worker.isBegun = true → r.starts s.wiring)
    (hbegins : d.mayTrack = true → calls.filterMap ViewCall.shown? ≠ [] → r.begins s.wiring) :
    Wiring.Moves r s.wiring
      ((s.forget (.call k)).after e (Tracker.afterCall k (t, calls, turn))).wiring := by
  obtain ⟨_, _, hturn⟩ := htakes.callTurn
  have hwires : Wiring.Moves r s.wiring (t.wiring s.wiring) :=
    (Tracker.wires_of_callTurn (w := s.wiring) hturn hstarts hbegins).moves
  rw [wiring_after_plain (framesOf_afterCall ..) (by cases htakes <;> rfl)]
  cases turn <;> exact hwires

/-- A turn that an event gives the worker. -/
theorem wires_of_works {turn : Tracker × List ViewCall} (hworks : s.Works e turn) :
    Wiring.Moves r s.wiring ((s.forget .worker).after e (Tracker.afterWorker turn)).wiring := by
  obtain ⟨t, calls⟩ := turn
  rw [wiring_after_plain (framesOf_afterWorker _) (by cases hworks <;> rfl)]
  cases hworks with
  | run hrun =>
    exact (Tracker.wires_of_workerTurn (w := s.wiring)
      (Tracker.workerTurn_of_runWorker hrun)).moves
  | stored _ hreply => exact (Tracker.wires_replyWorker (w := s.wiring) hreply).moves

/-- The page is left, and the worker, if there is one, ends. -/
theorem wires_leave {w : Wiring} (t : Tracker) (hleaves : r.leaves) :
    Tracker.Wires r w t t.leave := by
  have hleave : Tracker.Wires r w t
      { t with selector := { t.selector.leave with poll := t.selector.leave.poll.stop } } :=
    .single (.leave hleaves) rfl
  unfold Tracker.leave
  dsimp only
  split
  · exact hleave
  · next hpresent =>
    have hbegun : t.worker.isBegun = true := by
      cases hworker : t.worker with
      | absent => exact absurd hworker hpresent
      | _ => rfl
    have hquit : Tracker.Wires r w _ _ :=
      Tracker.wires_quit (t := { t with
        selector := { t.selector.leave with poll := t.selector.leave.poll.stop } }) rfl hbegun
    exact hleave.trans (hquit.trans (Tracker.wires_of_eq rfl rfl rfl rfl))

/-- The rules allow the event. -/
structure Obeys (r : Wiring.Rules) (s : Session) (e : Event) (s' : Session) : Prop where
  starts : s.tracker.worker.isBegun = false → s'.tracker.worker.isBegun = true →
    r.starts s.wiring
  begins : ∀ k d, s.doing (.call k) = some d → d.mayTrack = true → s'.shown ≠ s.shown →
    r.begins s.wiring
  leaves : e = .left → r.leaves
  elapses : ∀ duration, e = .elapsed duration → r.elapses s.wiring

/-- A turn that an event gives the channels. -/
theorem wires_of_stirs {b : Session} {turn : Tracker × List Output} (hstirs : s.Stirs e b turn)
    (helapses : ∀ duration, e = .elapsed duration → r.elapses s.wiring) :
    Wiring.Moves r s.wiring (b.after e turn).wiring := by
  -- Each is one move; only the cycle writes frames, and only an answer ends a loop.
  cases hstirs with
  | @watch k =>
    rw [wiring_after_plain rfl rfl]
    exact .single (.watch k)
  | cycle hpush =>
    rw [wiring_after, framesOf_afterPush, wiring_afterPush, show Event.stopped? (.turn .cycle) =
      none from rfl, Option.toList_none, List.append_nil]
    exact .single (.cycle hpush)
  | @tick i =>
    rw [wiring_after_plain rfl rfl, wiring_afterPoll]
    exact .single (.tick i)
  | @request i =>
    rw [wiring_after_plain (framesOf_asking ..) rfl, wiring_afterPoll]
    exact .single (.request i)
  | @answer i _ result hloop hsent =>
    have hstopped : (Event.stopped? (.answered (.request i) (.status result))).toList =
        if Polling.Loop.isLast result then [i] else [] := by
      change (if Polling.Loop.isLast result then some i else none).toList = _
      split <;> rfl
    rw [wiring_after, hstopped, wiring_afterPoll, show framesOf [] = [] from rfl, List.append_nil]
    exact .single (.answer i result hloop hsent)
  | opened hpush =>
    rw [wiring_after_plain (framesOf_afterPush ..) rfl, wiring_afterPush]
    exact .single (.opened hpush)
  | @refused _ failure hpush =>
    rw [wiring_after_plain (framesOf_afterPush ..) rfl, wiring_afterPush]
    exact .single (.refused failure hpush)
  | received | deafened =>
    rw [wiring_after_plain rfl rfl]
    exact .single (.link (fun _ => rfl) (fun _ => rfl))
  | elapsed duration =>
    rw [wiring_after_plain rfl rfl]
    exact .single (.elapse duration (helapses duration rfl))

/-- An event that gives neither a call nor the worker a turn. -/
theorem wires_of_channels (hjob : ∀ job, e.job? = some job → job.usesStorage = false)
    (hobeys : Obeys r s e s') (hstep : s.step e = some s') :
    Wiring.Moves r s.wiring s'.wiring := by
  rcases stirs_of_step hjob hstep with ⟨b, turn, hstirs, rfl⟩ | ⟨k, d, _, _, rfl, rfl⟩ |
    ⟨rfl, rfl⟩ | ⟨faults, rfl, rfl⟩
  · exact wires_of_stirs hstirs hobeys.elapses
  · rw [wiring_after_plain rfl rfl]
    exact .refl
  · rw [wiring_after_plain rfl rfl]
    exact (wires_leave (w := s.wiring) s.tracker (hobeys.leaves rfl)).moves
  · rw [wiring_after_plain rfl rfl]
    exact .refl

/-- **Every event of a session is a sequence of moves of its wiring** by the rules that
    allow the event. -/
theorem wires_of_step (hobeys : Obeys r s e s') (hstep : s.step e = some s') :
    Wiring.Moves r s.wiring s'.wiring := by
  cases happens_of_step hstep with
  | @call _ k d turn hjob hd htakes =>
    obtain ⟨t, calls, turn⟩ := turn
    refine wires_of_takes htakes (fun hnot hbegun => hobeys.starts hnot ?_)
      fun htrack hshown => hobeys.begins k d hd htrack ?_
    · obtain ⟨cs, htracker⟩ := Tracker.afterCall_fst k t calls turn
      rw [after_tracker, htracker]
      exact hbegun
    -- What the turn shows is shown by the session after it, and that has to be allowed.
    · refine shown_after_ne (s := s.forget (.call k)) ?_
      rwa [viewCalls_afterCall]
  | worker hjob hworks => exact wires_of_works hworks
  | channel hjob => exact wires_of_channels hjob hobeys hstep
  | called | left | disturbed => exact wires_of_channels (by rintro _ ⟨⟩) hobeys hstep

end Session

/-! ### The selector stays sound -/

/-- A selector stays sound if a task is subscribed to only where none is. -/
theorem Wiring.Moves.sound {r : Rules} {w w' : Wiring} (h : Moves r w w')
    (hbegins : ∀ w, r.begins w → w.selector.active = none) (hsound : w.selector.Sound) :
    w'.selector.Sound := by
  induction h with
  | refl => exact hsound
  | @tail w₁ w₂ _ hmove ih =>
    cases hmove with
    | startUp => exact ih.watch
    | connect => exact ih.connect
    | subscribe taskId hidle => exact ih.subscribe (hbegins w₁ hidle) taskId
    | unsubscribe => exact ih.unsubscribe
    | watch k => exact ih.runWatcher k
    | @cycle c hpush =>
      exact ih.withPush (by rw [Push.Channel.run_active]; exact ih.subscribed c hpush)
    | @opened c hpush | @refused c failure hpush =>
      exact ih.withPush (by rw [Push.Channel.attempted_active]; exact ih.subscribed c hpush)
    | link => exact ih.mapPush fun c => Push.Channel.onLink_active c _
    | tick i =>
      refine ih.withPoll (ih.noStray.update i ?_) (ih.polls.update i ?_)
      · intro l _ hc
        rwa [Polling.Loop.run_cancelled]
      · intro l _
        rw [Polling.Loop.run_taskId]
    | request i =>
      exact ih.withPoll (Polling.Channel.runRequest_noStray ih.noStray i)
        (Polling.Channel.runRequest_polls ih.polls i)
    | answer i result =>
      exact ih.withPoll (Polling.Channel.answer_noStray ih.noStray i _ result)
        (Polling.Channel.answer_polls ih.polls i _ result)
    | quit | elapse => exact ih
    | leave => exact ih.leave.stopPoll

/-- The selector stays sound, if a task is shown only where none is subscribed to. -/
theorem Session.sound_of_step {s s' : Session} {e : Event} (h : s.tracker.selector.Sound)
    (hstep : s.step e = some s')
    (hbegin : s'.shown ≠ s.shown → s.tracker.selector.active = none) :
    s'.tracker.selector.Sound := by
  have hobeys :
      Obeys { Wiring.Rules.any with begins := fun w => w.selector.active = none } s e s' :=
    ⟨fun _ _ => trivial, fun _ _ _ _ hshown => hbegin hshown, fun _ => trivial,
      fun _ _ => trivial⟩
  exact (wires_of_step hobeys hstep).sound (fun _ hidle => hidle) h

end TaskTracking
