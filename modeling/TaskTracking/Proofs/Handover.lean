import TaskTracking.Proofs.Calls
import TaskTracking.Proofs.Path
import TaskTracking.Rest

/-! # What the channels hand over

  A snapshot of the tracked task comes by one of three ways: in a frame of the
  push connection, as the answer to a request of the polling loop, or as the
  answer that a resume waits for. Each of them sets the id of the snapshot by a
  rule of its own before the tracker applies it.

  The push channel and a resume put the id of the task in any case. The polling
  loop does so only where the server left it out, so a snapshot under another id
  is handed over as it is, and then ignored.
-/

namespace TaskTracking

/-! ### Applying what was handed over -/

/-- What can be seen of applying a snapshot. -/
structure Landing where
  display : Display
  lifecycle : Lifecycle
  current : Option String
  stored : Option String
  subscribed : Option String
  calls : List ViewCall

namespace Core

/-- What can be seen of a core after these view calls. -/
def seen (c : Core) (calls : List ViewCall) : Landing where
  display := c.display
  lifecycle := c.lifecycle
  current := c.current
  stored := c.stored
  subscribed := c.active
  calls := calls

/-- What comes of a snapshot that is applied to a core. -/
def landing (c : Core) (s : Snapshot) : Landing :=
  if c.stored ≠ some s.id then c.seen []
  else if s.isTerminal then
    { display := c.display.following s, lifecycle := .idle, current := none, stored := none
      subscribed := none, calls := s.closing }
  else
    { c.seen [.updateProgress (c.display.following s)] with display := c.display.following s }

/-- A core in which a resume goes on with the status of the stored task. -/
def resumed (c : Core) (taskId : String) (s : Snapshot) : Core :=
  if s.isTerminal then { c with current := some taskId } else c.begin taskId

variable {c : Core} {s : Snapshot}

theorem landing_of_ne (h : c.stored ≠ some s.id) : c.landing s = c.seen [] := if_pos h

theorem landing_of_running (h : c.stored = some s.id) (hrun : s.isTerminal = false) :
    c.landing s =
      { c.seen [.updateProgress (c.display.following s)] with
        display := c.display.following s } := by
  unfold landing
  rw [if_neg (fun hne => hne h), if_neg (by simp [hrun])]

theorem landing_of_terminal (h : c.stored = some s.id) (hend : s.isTerminal = true) :
    c.landing s =
      { display := c.display.following s, lifecycle := .idle, current := none, stored := none
        subscribed := none, calls := s.closing } := by
  unfold landing
  rw [if_neg (fun hne => hne h), if_pos hend]

end Core

namespace Session

/-- What can be seen of the events since `s`. -/
def landing (s s' : Session) : Landing :=
  s'.core.seen ((s'.scenes.drop s.scenes.length).flatMap (·.calls))

/-- The job applies its snapshot to the end, and nothing comes in between. -/
def applyAll (s : Session) (job : Job) : Option Session :=
  (s.step (.stored job)).bind fun s' =>
    if (s'.doing job).isSome then s'.step (.stored job) else some s'

/-- What the events hand to a job to be applied, and what comes of it. -/
def handed (s : Session) (es : List Event) (job : Job) : Option (Snapshot × Landing) := do
  let s' ← play (fun _ _ => True) es s
  let snapshot ← (s'.doing job).bind Call.snapshot?
  let s'' ← s'.applyAll job
  return (snapshot, s'.landing s'')

end Session

namespace Session

/-- The storage's answer lets a job with a snapshot go on. -/
theorem exists_stored {s : Session} {job : Job} {stage : Settling} {goal : Goal} {a : Store.Answer}
    (hdoing : s.doing job = some (.settling stage goal)) (hanswer : s.pending job = some a)
    (hreply : (s.tracker.settleReply stage (.ok a)).isSome) :
    ∃ s', s.step (.stored job) = some s' := by
  obtain ⟨answer, hlookup, hok⟩ := Option.bind_eq_some_iff.mp hanswer
  obtain rfl : answer = .ok a := by
    cases answer with
    | ok => exact congrArg Except.ok (Option.some.inj hok)
    | error => cases hok
  obtain ⟨settled, hsettled⟩ := Option.isSome_iff_exists.mp hreply
  -- Both the worker and a call take any answer that their stage accepts.
  have hturn : (s.tracker.reply s.now job (.store (.ok a))).isSome := by
    cases job with
    | worker =>
      have hworker : s.tracker.worker = .settling stage := by
        change s.tracker.worker.doing = _ at hdoing
        cases hw : s.tracker.worker with
        | settling =>
          rw [hw] at hdoing
          cases hdoing
          rfl
        | _ =>
          rw [hw] at hdoing
          cases hdoing
      simp [Tracker.reply, Tracker.replyWorker, hworker, hsettled]
    | call k =>
      have hcall : s.tracker.calls.lookup k = some (.settling stage goal) := hdoing
      simp [Tracker.reply, hcall, Tracker.replyCall, hsettled]
    | _ => cases hdoing
  obtain ⟨turn, hturn⟩ := Option.isSome_iff_exists.mp hturn
  exact ⟨_, by rw [step, hlookup, Option.bind_some, hturn]; rfl⟩

theorem landing_eq {s s' : Session} {scenes : List Scene} (h : s'.scenes = s.scenes ++ scenes) :
    s.landing s' = s'.core.seen (scenes.flatMap (·.calls)) := by
  rw [landing, h, List.drop_left]

/-- A job that has settled its snapshot has nothing more to do. -/
theorem applyAll_of_settled {s s' : Session} {job : Job} (hstep : s.step (.stored job) = some s')
    {c : Core} {goal : Goal} (hcore : s'.core = c.settled job goal) : s.applyAll job = some s' := by
  have hdone : s'.doing job = none := by
    have hnone : s'.core.doing job = none := by
      rw [hcore]
      simp [Core.settled, Core.ended]
    exact hnone
  rw [applyAll, hstep, Option.bind_some, hdone]
  rfl

/-- What comes of the snapshot that a job is about to apply. -/
theorem landing_of_reading {s : Session} (h : s.Honest) {job : Job} {snapshot : Snapshot}
    {goal : Goal} (hdoing : s.doing job = some (.settling (.reading snapshot) goal))
    (hanswer : s.pending job = some (.value s.found)) :
    (s.applyAll job).map s.landing = some (s.core.landing snapshot) := by
  obtain ⟨s', hstep⟩ := exists_stored hdoing hanswer rfl
  have hprepared : ∀ stage goal',
      s.core.doing job = some (.settling stage goal') → stage.Prepared := by
    intro stage goal' hstage
    rw [show s.core.doing job = _ from hdoing] at hstage
    cases hstage
    trivial
  obtain ⟨scene, hmoves⟩ : ∃ scene, Moves (fun _ _ => True) s scene s' :=
    moves_of_stored h hprepared hstep
  have hjob := (hmoves.scene_eq hstep).1
  obtain ⟨found, hfound, hnext⟩ := hmoves.move.of_reading hjob hdoing
  obtain rfl : found = s.found := by
    rw [show s.core.answer job = some (.value s.found) from hanswer] at hfound
    cases hfound
    rfl
  change s.core.stored ≠ some snapshot.id ∧ _ ∨ s.core.stored = some snapshot.id ∧ _ at hnext
  -- Another id, the same id of a running task, or the same id at its end.
  rcases hnext with ⟨hother, hcalls, hcore⟩ | ⟨hsame, ⟨hrun, hcalls, hcore⟩ | ⟨hend, hcalls, hcore⟩⟩
  · rw [applyAll_of_settled hstep hcore, Option.map_some, landing_eq hmoves.scenes, hcore,
      Core.landing_of_ne hother, List.flatMap_singleton, hcalls]
    rfl
  · rw [applyAll_of_settled hstep hcore, Option.map_some, landing_eq hmoves.scenes, hcore,
      Core.landing_of_running hsame hrun, List.flatMap_singleton, hcalls]
    rfl
  · -- The removal of the stored id comes between the display and the last effects.
    have hclearing : s'.core.doing job = some (.settling (.clearing snapshot
        (s.core.display.apply snapshot (some snapshot.id)) snapshot.lastEffects) goal) := by
      rw [hcore]
      simp
    have hremoved : s'.core.answer job = some (.removed s.found.isSome) := by
      rw [hcore]
      simp [Core.wait, Call.answered]
      rfl
    obtain ⟨s'', hstep'⟩ := exists_stored hclearing hremoved rfl
    have hprepared' : ∀ stage goal',
        s'.core.doing job = some (.settling stage goal') → stage.Prepared := by
      intro stage goal' hstage
      rw [hclearing] at hstage
      cases hstage
      exact ⟨Display.isTerminal_apply hend, rfl⟩
    obtain ⟨scene', hmoves'⟩ : ∃ scene, Moves (fun _ _ => True) s' scene s'' :=
      moves_of_stored hmoves.honest hprepared' hstep'
    obtain ⟨hcalls', hcore'⟩ := hmoves'.move.of_clearing (hmoves'.scene_eq hstep').1 hclearing
    have happlied : s.applyAll job = some s'' := by
      rw [applyAll, hstep, Option.bind_some, show s'.doing job = _ from hclearing]
      exact hstep'
    have hscenes : s''.scenes = s.scenes ++ [scene, scene'] := by
      rw [hmoves'.scenes, hmoves.scenes, List.append_assoc]
      rfl
    rw [happlied, Option.map_some, landing_eq hscenes, hcore', hcore,
      Core.landing_of_terminal hsame hend, List.flatMap_cons, List.flatMap_singleton, hcalls,
      hcalls']
    rfl

/-- What a job is handed that reads the stored id for it. -/
theorem handed_of_arrived {s s' : Session} {es : List Event} {job : Job} {snapshot : Snapshot}
    {goal : Goal} {c : Core} (hplay : play (fun _ _ => True) es s = some s') (h : s'.Honest)
    (hcore : s'.core = { c with locked := true }.wait job (.settling (.reading snapshot) goal)) :
    s.handed es job = some (snapshot, c.landing snapshot) := by
  have hdoing : s'.core.doing job = some (.settling (.reading snapshot) goal) := by
    rw [hcore]
    simp
  have hfound : s'.core.found = c.found := by
    rw [hcore]
    rfl
  have hanswer : s'.core.answer job = some (.value s'.core.found) := by
    rw [hcore]
    simp [Core.wait, Call.answered, Call.leaving]
  have hlanding := landing_of_reading h hdoing hanswer
  obtain ⟨s'', happlied, hseen⟩ := Option.map_eq_some_iff.mp hlanding
  -- That the lock is taken and the job waits does not show in what comes of it.
  have hsame : s'.core.landing snapshot = c.landing snapshot := by
    rw [hcore]
    rfl
  unfold handed
  rw [hplay, Option.bind_eq_bind, Option.bind_some, show s'.doing job = _ from hdoing]
  simp only [Option.bind_some, Call.snapshot?, Settling.snapshot, Option.bind_eq_bind, happlied]
  rw [hseen, hsame]
  rfl

/-! ### Sessions in which something is about to arrive -/

/-- The session follows a task and has nothing else to do. -/
structure Follows (s : Session) (taskId : String) : Prop where
  honest : s.Honest
  lifecycle : s.tracker.lifecycle = .tracking
  current : s.tracker.current = some taskId
  stored : s.stored = some taskId
  subscribed : s.tracker.selector.active = some taskId
  stays : s.tracker.selector.left = false
  unlocked : s.tracker.locked = false
  listens : s.tracker.worker = .listening
  inbox : s.tracker.inbox = {}

/-- The frame is the next thing that the push channel of the session takes from its
    connection. -/
structure Hears (s : Session) (taskId frame : String) : Prop extends s.Follows taskId where
  hears : ∃ push link rest, s.tracker.selector.push = some push ∧ push.cycle = .connected link ∧
    push.shut = false ∧ push.active = some taskId ∧ link.outgoing = [] ∧
    link.incoming = .text frame :: rest

/-- A polling loop of the session waits for the answer to its request. -/
structure Polls (s : Session) (taskId : String) (i : Nat) : Prop extends s.Follows taskId where
  polls : ∃ loop, s.tracker.selector.poll.loops[i]? = some loop ∧ loop.taskId = taskId ∧
    loop.request = some .sent ∧ loop.cancelled = false

/-- A call of an idle session resumes the stored task and waits for its status. -/
structure Fetches (s : Session) (taskId : String) (k : Nat) : Prop where
  honest : s.Honest
  idle : s.tracker.lifecycle = .idle
  stored : s.stored = some taskId
  unlocked : s.tracker.locked = false
  fetches : s.doing (.call k) = some (.fetching taskId)

/-! ### The ways of a snapshot -/

/-- The worker takes the only delivery there is. -/
theorem taken {s : Session} (h : s.Honest) (hstays : s.tracker.selector.left = false)
    (hunlocked : s.tracker.locked = false) (hlistens : s.tracker.worker = .listening)
    {source : Source} {snapshot : Snapshot}
    (hqueue : s.tracker.inbox.queue = [.snapshot source snapshot]) :
    ∃ s', s.step (.turn .worker) = some s' ∧ s'.Honest ∧
      s'.core = { s.core with queue := [], locked := true }.wait .worker
        (.settling (.reading snapshot) .applied) := by
  have hrun : s.tracker.runWorker =
      some ({ s.tracker with
        inbox := { s.tracker.inbox with queue := [] }, locked := true
        worker := .settling (.reading snapshot) }, []) := by
    simp only [Tracker.runWorker, hlistens, hstays, hqueue, Tracker.settle, hunlocked, Tracker.lock]
    simp
  obtain ⟨hhonest, hcore⟩ := after_worker h
    (t := { s.tracker with
      inbox := { s.tracker.inbox with queue := [] }, locked := true
      worker := .settling (.reading snapshot) }) rfl rfl (.turn .worker) []
  refine ⟨_, ?_, hhonest, ?_⟩
  · rw [step, Tracker.run, hrun]
    rfl
  · rw [hcore, coreWith_of_hidden rfl]
    rfl

/-- What a channel delivers is handed to the worker. -/
theorem handed_of_delivered {s : Session} {taskId : String} (h : s.Follows taskId) {e : Event}
    {source : Source} {snapshot : Snapshot} {selector : Selector}
    (hstep : s.step e = some
      (s.after e ({ s.tracker with selector }.deliver [.snapshot source snapshot], [])))
    (hactive : selector.active = s.tracker.selector.active)
    (hleft : selector.left = s.tracker.selector.left) :
    s.handed [e, .turn .worker] .worker = some (snapshot, s.core.landing snapshot) := by
  have hquiet : ∀ o ∈ ([] : List Output), isRequest o = false := fun o ho => by cases ho
  have hinbox : ({ s.tracker with selector }.deliver [.snapshot source snapshot]).inbox =
      { queue := [.snapshot source snapshot] } := by
    simp [Tracker.deliver, Inbox.add, h.inbox]
  obtain ⟨hhonest, hcore⟩ := after_of_quiet h.honest
    (t := { s.tracker with selector }.deliver [.snapshot source snapshot]) rfl e hquiet
  have hdelivered :
      (s.after e ({ s.tracker with selector }.deliver [.snapshot source snapshot], [])).core =
        { s.core with queue := [.snapshot source snapshot] } := by
    have hselector :
        ({ s.tracker with selector }.deliver [.snapshot source snapshot]).selector = selector := rfl
    rw [hcore, Tracker.core, hinbox, hselector, hactive]
    simp only [List.any_nil, Bool.or_false]
    rw [append_shown rfl]
    rfl
  -- The delivery is the only one in the queue, and nobody holds the lock.
  have hlocked := (congrArg Core.locked hdelivered).trans h.unlocked
  obtain ⟨s', hstep', hhonest', hcore'⟩ := taken hhonest
    (by rw [after_tracker]; exact hleft.trans h.stays) hlocked
    (by rw [after_tracker]; exact h.listens) (congrArg Core.queue hdelivered)
  have hplay : play (fun _ _ => True) [e, .turn .worker] s = some s' := by
    simp [play, hstep, hstep']
  rw [hdelivered] at hcore'
  exact handed_of_arrived (c := { s.core with queue := [] }) hplay hhonest' hcore'

/-- A frame of the push channel goes by the task of its envelope. -/
theorem handed_of_hears {s : Session} {taskId frame : String} (h : s.Hears taskId frame)
    {snapshot : Snapshot}
    (hframe : ServerMessage.decode frame = .ok (.taskUpdate taskId snapshot)) :
    s.handed [.turn .cycle, .turn .worker] .worker =
      some (snapshot.withId taskId, s.core.landing (snapshot.withId taskId)) := by
  obtain ⟨push, link, rest, hpush, hcycle, hshut, hactive, hout, hin⟩ := h.hears
  have hready : push.ready s.now = true := by simp [Push.Channel.ready, hcycle, hin]
  have hturn : push.run s.now =
      ({ push with cycle := .connected { link with incoming := rest } },
        [.deliver (.snapshot .push (snapshot.withId taskId))]) := by
    simp [Push.Channel.run, hcycle, hshut, Push.Channel.pump, hout, hin, Push.Channel.dispatch,
      hframe, ServerMessage.taskUpdate?, hactive]
  have hrun := Tracker.run_cycle_iff.mpr ⟨push, hpush, hready, rfl⟩
  rw [hturn] at hrun
  have hstep : s.step (.turn .cycle) = some (s.after (.turn .cycle)
      ({ s.tracker with
          selector := { s.tracker.selector with push := some (push.run s.now).1 } }.deliver
        [.snapshot .push (snapshot.withId taskId)], [])) := by
    rw [step, hrun, h.honest.forget_eq rfl, hturn]
    rfl
  exact handed_of_delivered h.toFollows hstep rfl rfl

/-- The answer to a request of a polling loop keeps the id that it names, if it names one. -/
theorem handed_of_polls {s : Session} {taskId : String} {i : Nat} (h : s.Polls taskId i)
    {response : Rest.Response} {snapshot : Snapshot}
    (hresponse : Rest.read Snapshot.decoder response = .ok snapshot) :
    s.handed [.answered (.request i) (.status (Rest.readStatus taskId response)), .turn .worker]
        .worker =
      some (snapshot.withDefaultId taskId, s.core.landing (snapshot.withDefaultId taskId)) := by
  obtain ⟨loop, hloop, rfl, hsent, hlive⟩ := h.polls
  have hread : Rest.readStatus loop.taskId response = .ok (snapshot.withDefaultId loop.taskId) := by
    rw [Rest.readStatus, hresponse]
    rfl
  -- The default id is given when the answer is read, and once more by the loop.
  have hagain : (snapshot.withDefaultId loop.taskId).withDefaultId loop.taskId =
      snapshot.withDefaultId loop.taskId := by
    by_cases hid : snapshot.id = ""
    · simp [Snapshot.withDefaultId, Snapshot.withId, hid]
    · simp [Snapshot.withDefaultId, hid]
  have hreply : s.tracker.reply s.now (.request i)
      (.status (.ok (snapshot.withDefaultId loop.taskId))) = some _ :=
    Tracker.reply_status_iff.mpr ⟨loop, hloop, hsent, rfl⟩
  have hanswer : (s.tracker.selector.poll.answer i s.tracker.inbox.receiving
      (.ok (snapshot.withDefaultId loop.taskId))).2 =
        [.snapshot .poll (snapshot.withDefaultId loop.taskId)] := by
    simp [Polling.Channel.answer, hloop, hsent, Polling.Loop.answer, hlive, hagain]
  have hstep : s.step (.answered (.request i)
      (.status (.ok (snapshot.withDefaultId loop.taskId)))) = some (s.after
        (.answered (.request i) (.status (.ok (snapshot.withDefaultId loop.taskId))))
        ({ s.tracker with
            selector := { s.tracker.selector with
              poll := (s.tracker.selector.poll.answer i s.tracker.inbox.receiving
                (.ok (snapshot.withDefaultId loop.taskId))).1 } }.deliver
          [.snapshot .poll (snapshot.withDefaultId loop.taskId)], [])) := by
    rw [step, if_pos (by rfl), hreply, hanswer, h.honest.forget_eq rfl]
    rfl
  rw [hread]
  exact handed_of_delivered h.toFollows hstep rfl rfl

/-- A resume goes on with the status of the stored task. -/
theorem after_resumeFrom {s : Session} (h : s.Honest) {taskId : String} {k : Nat}
    (hdoing : s.doing (.call k) = some (.fetching taskId)) (snapshot : Snapshot) (e : Event) :
    ∃ goal, ((s.forget (.call k)).after e
        (Tracker.afterCall k (s.tracker.resumeFrom taskId snapshot))).Honest ∧
      ((s.forget (.call k)).after e
        (Tracker.afterCall k (s.tracker.resumeFrom taskId snapshot))).core =
          (s.core.resumed taskId snapshot).settle (.call k) (snapshot.withId taskId) goal := by
  have hreply : s.tracker.replyCall (.fetching taskId) (.status (.ok snapshot)) =
      some (s.tracker.resumeFrom taskId snapshot) := by
    simp only [Tracker.replyCall]
  have hturn := Tracker.callTurn_of_replyCall hreply
  generalize s.tracker.resumeFrom taskId snapshot = r at hturn ⊢
  obtain ⟨t, calls, turn⟩ := r
  obtain ⟨hhonest, hcore⟩ := after_call h hdoing hturn.keeps e calls turn
  unfold Core.resumed
  cases hturn with
  | conclude hend =>
    rw [if_pos hend]
    exact ⟨_, hhonest, hcore.trans (core_conclude ..)⟩
  | track hrun =>
    rw [if_neg (by simp [hrun])]
    exact ⟨_, hhonest, hcore.trans (core_track ..)⟩

/-- The answer that a resume waits for goes by the task that was loaded. -/
theorem handed_of_fetches {s : Session} {taskId : String} {k : Nat} (h : s.Fetches taskId k)
    {response : Rest.Response} {snapshot : Snapshot}
    (hresponse : Rest.read Snapshot.decoder response = .ok snapshot) :
    s.handed [.answered (.call k) (.status (Rest.readStatus taskId response))] (.call k) =
      some (snapshot.withId taskId,
        (s.core.resumed taskId snapshot).landing (snapshot.withId taskId)) := by
  have hread : Rest.readStatus taskId response = .ok (snapshot.withDefaultId taskId) := by
    rw [Rest.readStatus, hresponse]
    rfl
  -- Whichever id the answer has got, the resume replaces it by the one it has loaded.
  have hid : (snapshot.withDefaultId taskId).withId taskId = snapshot.withId taskId := by
    unfold Snapshot.withDefaultId
    split <;> rfl
  have hcall : s.tracker.calls.lookup k = some (.fetching taskId) := h.fetches
  have hreply : s.tracker.reply s.now (.call k)
      (.status (.ok (snapshot.withDefaultId taskId))) =
        some (Tracker.afterCall k (s.tracker.resumeFrom taskId snapshot)) := by
    have hsame : s.tracker.resumeFrom taskId (snapshot.withDefaultId taskId) =
        s.tracker.resumeFrom taskId snapshot := by
      unfold Tracker.resumeFrom
      rw [hid]
    simp [Tracker.reply, hcall, Tracker.replyCall, hsame]
  obtain ⟨goal, hhonest, hcore⟩ := after_resumeFrom h.honest h.fetches snapshot
    (.answered (.call k) (.status (.ok (snapshot.withDefaultId taskId))))
  have hunlocked : (s.core.resumed taskId snapshot).locked = false := by
    unfold Core.resumed
    split <;> exact h.unlocked
  rw [Core.settle, if_neg (by simp [hunlocked])] at hcore
  rw [hread]
  refine handed_of_arrived ?_ hhonest hcore
  rw [play, if_pos trivial, step, if_pos (by rfl), hreply]
  rfl

/-! ### All ways lead to the same -/

/-- What comes of a snapshot of the task that is followed; the display is the one after
    it. -/
def landed (display : Display) (s : Snapshot) : Landing :=
  if s.isTerminal then
    { display, lifecycle := .idle, current := none, stored := none, subscribed := none
      calls := s.closing }
  else
    { display, lifecycle := .tracking, current := some s.id, stored := some s.id
      subscribed := some s.id, calls := [.updateProgress display] }

/-- A core that follows the task of a snapshot applies it. -/
theorem landing_eq_landed {c : Core} {s : Snapshot} (hstored : c.stored = some s.id)
    (hfollows : s.isTerminal = false →
      c.lifecycle = .tracking ∧ c.current = some s.id ∧ c.active = some s.id) :
    c.landing s = landed (c.display.following s) s := by
  unfold landed
  cases hend : s.isTerminal with
  | true => exact Core.landing_of_terminal hstored hend
  | false =>
    obtain ⟨hlifecycle, hcurrent, hactive⟩ := hfollows hend
    rw [Core.landing_of_running hstored hend, Core.seen, hlifecycle, hcurrent, hstored, hactive]
    rfl

theorem Follows.landing_eq {s : Session} {snapshot : Snapshot} (h : s.Follows snapshot.id) :
    s.core.landing snapshot = landed (s.tracker.display.following snapshot) snapshot :=
  landing_eq_landed h.stored fun _ => ⟨h.lifecycle, h.current, h.subscribed⟩

/-- A resume applies the status of its task as if the task had just been begun. -/
theorem Fetches.landing_eq {s : Session} {taskId : String} {k : Nat} (h : s.Fetches taskId k)
    (hother : s.tracker.display.taskId ≠ some taskId) (snapshot : Snapshot) :
    (s.core.resumed taskId snapshot).landing (snapshot.withId taskId) =
      landed ((Display.tracking taskId).following (snapshot.withId taskId))
        (snapshot.withId taskId) := by
  unfold Core.resumed
  cases hend : snapshot.isTerminal with
  | true =>
    -- Without tracking the display is that of another task, of which nothing is kept.
    have hdisplay : s.tracker.display.following (snapshot.withId taskId) =
        (Display.tracking taskId).following (snapshot.withId taskId) :=
      Display.following_of_ne hother
    rw [if_pos rfl, ← hdisplay]
    refine landing_eq_landed h.stored fun hrun => ?_
    rw [show (snapshot.withId taskId).isTerminal = true from hend] at hrun
    cases hrun
  | false =>
    rw [if_neg (by simp)]
    exact landing_eq_landed h.stored fun _ => ⟨rfl, rfl, rfl⟩

theorem withDefaultId_eq {snapshot : Snapshot} {taskId : String}
    (h : snapshot.id = "" ∨ snapshot.id = taskId) :
    snapshot.withDefaultId taskId = snapshot.withId taskId := by
  rcases h with hnone | rfl
  · exact if_pos hnone
  · unfold Snapshot.withDefaultId
    split <;> rfl

/-- **The way of a snapshot does not matter if it names its task or none.** Push and a
    resume hand over the same snapshot, under the id of the task, and the same comes of
    it. Polling does so exactly if the server names that task or leaves the id out, and
    else hands over a snapshot that is ignored. -/
theorem handed_alike_iff {taskId frame : String} {response : Rest.Response} {snapshot : Snapshot}
    (hframe : ServerMessage.decode frame = .ok (.taskUpdate taskId snapshot))
    (hresponse : Rest.read Snapshot.decoder response = .ok snapshot)
    {pushed polled resumed : Session} {i k : Nat} (hpushed : pushed.Hears taskId frame)
    (hpolled : polled.Polls taskId i) (hresumed : resumed.Fetches taskId k)
    (hdisplay : polled.tracker.display = pushed.tracker.display) :
    let byPush := pushed.handed [.turn .cycle, .turn .worker] .worker
    let byPoll := polled.handed
      [.answered (.request i) (.status (Rest.readStatus taskId response)), .turn .worker] .worker
    let byResume := resumed.handed
      [.answered (.call k) (.status (Rest.readStatus taskId response))] (.call k)
    byPush.map Prod.fst = some (snapshot.withId taskId) ∧
      byResume.map Prod.fst = some (snapshot.withId taskId) ∧
      (pushed.tracker.display = .tracking taskId →
        resumed.tracker.display.taskId ≠ some taskId → byResume = byPush) ∧
      (byPoll = byPush ↔ snapshot.id = "" ∨ snapshot.id = taskId) ∧
      (snapshot.id ≠ "" → snapshot.id ≠ taskId →
        byPoll = some (snapshot, polled.core.seen [])) := by
  intro byPush byPoll byResume
  have hpush : byPush = _ := handed_of_hears hpushed hframe
  have hpoll : byPoll = _ := handed_of_polls hpolled hresponse
  have hresume : byResume = _ := handed_of_fetches hresumed hresponse
  have hpushed' : pushed.Follows (snapshot.withId taskId).id := hpushed.toFollows
  have hpolled' : polled.Follows (snapshot.withId taskId).id := hpolled.toFollows
  rw [hpush, hpoll, hresume]
  refine ⟨rfl, rfl, ?_, ⟨?_, ?_⟩, ?_⟩
  · intro hbegun hother
    rw [hresumed.landing_eq hother, hpushed'.landing_eq, hbegun]
  · intro heq
    -- The handed snapshots are the same, so their ids are.
    have hids : (snapshot.withDefaultId taskId).id = taskId :=
      congrArg (fun p => p.1.id) (Option.some.inj heq)
    by_cases hnone : snapshot.id = ""
    · exact .inl hnone
    · rw [show snapshot.withDefaultId taskId = snapshot from if_neg hnone] at hids
      exact .inr hids
  · intro hid
    rw [withDefaultId_eq hid, hpolled'.landing_eq, hpushed'.landing_eq, hdisplay]
  · intro hnamed hother
    have hkept : snapshot.withDefaultId taskId = snapshot := if_neg hnamed
    have hne : polled.core.stored ≠ some snapshot.id := by
      rw [show polled.core.stored = some taskId from hpolled.stored]
      exact fun h => hother (Option.some.inj h).symm
    rw [hkept, Core.landing_of_ne hne]

/-! ### A page to which a task's status comes twice -/

/-- What a server says of a running task, with or without its id. -/
def report (id : Option String) : String :=
  match id with
  | none => "\x7b\"status\":\"running\"\x7d"
  | some id => "\x7b\"id\":\"" ++ id ++ "\",\"status\":\"running\"\x7d"

/-- The report in a frame that updates the task. -/
def reportFrame (taskId : String) (id : Option String) : String :=
  "\x7b\"type\":\"task_update\",\"task_id\":\"" ++ taskId ++ "\",\"data\":" ++ report id ++ "\x7d"

/-- The report as the response to a request. -/
def reportResponse (id : Option String) : Rest.Response :=
  .reply 200 (.whole ((report id).toList.map fun c => UInt8.ofNat c.toNat))

/-- The snapshot of a running task of which nothing more is known. -/
def reported (id : Option String) : Snapshot := { id := id.getD "", status := .running }

/-- Whether the snapshot is that of a report. -/
def isReported (id : Option String) (s : Snapshot) : Bool :=
  s.id == id.getD "" && s.status == .running && s.progress.current == 0 &&
    s.progress.total == 0 && s.progress.percentage == .zero && s.progress.message == "" &&
    s.result.isNone && s.error == none && s.createdAt == none && s.updatedAt == none

theorem eq_reported {id : Option String} {s : Snapshot} (h : isReported id s = true) :
    s = reported id := by
  simp only [isReported, Bool.and_eq_true, beq_iff_eq, Option.isNone_iff_eq_none] at h
  obtain ⟨⟨⟨⟨⟨⟨⟨⟨⟨hid, hstatus⟩, hcurrent⟩, htotal⟩, hpercentage⟩, hmessage⟩, hresult⟩, herror⟩,
    hcreated⟩, hupdated⟩ := h
  obtain ⟨id', status, ⟨current, total, percentage, message⟩, result, error, created, updated⟩ := s
  simp only at hid hstatus hcurrent htotal hpercentage hmessage hresult herror hcreated hupdated
  subst hid hstatus hcurrent htotal hpercentage hmessage hresult herror hcreated hupdated
  rfl

/-- Whether a frame was read as that report. -/
def isReportFrame (id : Option String) : Json.Outcome ServerMessage → Bool
  | .ok (.taskUpdate taskId s) => taskId == "task" && isReported id s
  | _ => false

theorem decode_reportFrame : ∀ id ∈ [none, some "other"],
    ServerMessage.decode (reportFrame "task" id) = .ok (.taskUpdate "task" (reported id)) := by
  have hread : ∀ id ∈ [none, some "other"],
      isReportFrame id (ServerMessage.decode (reportFrame "task" id)) = true := by decide +kernel
  intro id hid
  have hread' := hread id hid
  unfold isReportFrame at hread'
  split at hread'
  · next taskId s hdecode =>
    obtain ⟨htask, hs⟩ := Bool.and_eq_true_iff.mp hread'
    rw [hdecode, beq_iff_eq.mp htask, eq_reported hs]
  · cases hread'

theorem read_reportResponse : ∀ id ∈ [none, some "other"],
    Rest.read Snapshot.decoder (reportResponse id) = .ok (reported id) := by
  have hread : ∀ id ∈ [none, some "other"],
      (Rest.read Snapshot.decoder (reportResponse id)).toOption.any (isReported id) = true := by
    decide +kernel
  intro id hid
  have hread' := hread id hid
  cases hs : Rest.read Snapshot.decoder (reportResponse id) with
  | error failure =>
    rw [hs] at hread'
    cases hread'
  | ok s =>
    rw [hs] at hread'
    rw [eq_reported hread']

/-- A page starts a task, which is polled while push still connects. The server reports it
    in a frame while the answer to a request is under way. -/
def reportedTwice (id : Option String) : List Event :=
  [.called 0 .entering, .turn (.call 0), .stored (.call 0), .called 1 (.starting .null),
    .turn (.call 1), .answered (.call 1) (.created (.ok "task")), .stored (.call 1),
    .turn (.loop 0), .elapsed 2000, .turn (.loop 0), .turn (.request 0), .turn .cycle,
    .connected (.ok ()), .turn .cycle, .received (.text (reportFrame "task" id))]

/-- A page that resumes a stored task. -/
def resuming : List Event := [.called 0 .entering, .turn (.call 0), .stored (.call 0)]

/-- The session in which that report is about to arrive, both ways. -/
def awaiting (id : Option String) : Session :=
  (play Fair (reportedTwice id) pushing).getD pushing

/-- The session in which the status of the stored task is about to arrive. -/
def fetching : Session := (play Fair resuming (polling "task")).getD (polling "task")

theorem follows_awaiting (id : Option String) : (awaiting id).Follows "task" where
  honest := ⟨rfl, fun _ => nofun⟩
  lifecycle := rfl
  current := rfl
  stored := rfl
  subscribed := rfl
  stays := rfl
  unlocked := rfl
  listens := rfl
  inbox := rfl

theorem hears_awaiting (id : Option String) :
    (awaiting id).Hears "task" (reportFrame "task" id) where
  toFollows := follows_awaiting id
  hears := ⟨_, _, [], rfl, rfl, rfl, rfl, rfl, rfl⟩

theorem polls_awaiting (id : Option String) : (awaiting id).Polls "task" 0 where
  toFollows := follows_awaiting id
  polls := ⟨_, rfl, rfl, rfl, rfl⟩

theorem fetches_fetching : fetching.Fetches "task" 0 where
  honest := ⟨rfl, fun _ => nofun⟩
  idle := rfl
  stored := rfl
  unlocked := rfl
  fetches := rfl

/-- A status without an id is handed over alike, by whichever way it comes. -/
theorem handed_alike_reported :
    ServerMessage.decode (reportFrame "task" none) = .ok (.taskUpdate "task" (reported none)) ∧
      Rest.read Snapshot.decoder (reportResponse none) = .ok (reported none) ∧
      (awaiting none).Hears "task" (reportFrame "task" none) ∧ (awaiting none).Polls "task" 0 ∧
      fetching.Fetches "task" 0 ∧
      ∃ landing, (awaiting none).handed [.answered (.request 0)
          (.status (Rest.readStatus "task" (reportResponse none))), .turn .worker] .worker =
        some ((reported none).withId "task", landing) := by
  have hframe := decode_reportFrame none (by simp)
  have hresponse := read_reportResponse none (by simp)
  obtain ⟨hpush, -, -, halike, -⟩ := handed_alike_iff hframe hresponse (hears_awaiting none)
    (polls_awaiting none) fetches_fetching rfl
  refine ⟨hframe, hresponse, hears_awaiting none, polls_awaiting none, fetches_fetching, ?_⟩
  obtain ⟨⟨snapshot, landing⟩, hhanded, rfl⟩ := Option.map_eq_some_iff.mp hpush
  exact ⟨landing, (halike.mpr (.inl rfl)).trans hhanded⟩

/-- A status under another id is the task's if it comes by push, and is ignored if it is
    polled. -/
theorem not_handed_alike_renamed :
    play Fair (reportedTwice (some "other")) pushing = some (awaiting (some "other")) ∧
      ServerMessage.decode (reportFrame "task" (some "other")) =
        .ok (.taskUpdate "task" (reported (some "other"))) ∧
      Rest.read Snapshot.decoder (reportResponse (some "other")) =
        .ok (reported (some "other")) ∧
      (awaiting (some "other")).tracker.current = some "task" ∧
      ((awaiting (some "other")).handed [.turn .cycle, .turn .worker] .worker).map
        (fun p => (p.1.id, p.2.calls.length)) = some ("task", 1) ∧
      ((awaiting (some "other")).handed [.answered (.request 0)
          (.status (Rest.readStatus "task" (reportResponse (some "other")))), .turn .worker]
        .worker).map (fun p => (p.1.id, p.2.calls.length)) = some ("other", 0) := by
  have hframe := decode_reportFrame (some "other") (by simp)
  have hresponse := read_reportResponse (some "other") (by simp)
  refine ⟨rfl, hframe, hresponse, rfl, ?_, ?_⟩
  · rw [handed_of_hears (hears_awaiting _) hframe]
    rfl
  · rw [handed_of_polls (polls_awaiting _) hresponse]
    rfl

end Session

end TaskTracking
