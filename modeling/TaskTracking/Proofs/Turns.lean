import TaskTracking.Proofs.Aftermath

/-! # Turns of the jobs

  Every turn of a call or of the worker is a move of the core, if the storage is
  honest. What a turn can be is told by cases (`Tracker.CallTurn`,
  `Tracker.WorkerTurn`), and so is the move that it makes.
-/

namespace TaskTracking

namespace Tracker

/-! ### The core of a changed tracker -/

theorem lifecycle_startBackground (t : Tracker) : t.startBackground.lifecycle = t.lifecycle := by
  unfold startBackground
  split <;> rfl

section Core

variable {found : Option String} {answer : Job → Option Store.Answer} {entered : Bool}
  {shown : List String}

theorem core_startBackground (t : Tracker) :
    t.startBackground.core found answer entered shown = t.core found answer entered shown := by
  unfold core
  rw [doing_startBackground]
  unfold startBackground Selector.watch
  split
  · split <;> rfl
  · rfl

theorem core_enterPage (t : Tracker) :
    t.enterPage.1.core found answer entered shown = t.core found answer entered shown := by
  have hconnect : t.enterPage.1.core found answer entered shown =
      t.startBackground.core found answer entered shown := by
    unfold enterPage Selector.connect
    dsimp only
    split <;> rfl
  rw [hconnect, core_startBackground]

theorem core_settle (t : Tracker) (job : Job) (s : Snapshot) (goal : Goal) :
    ((t.settle s).1.core found answer entered shown).wait job (.settling (t.settle s).2 goal) =
      (t.core found answer entered shown).settle job s goal := by
  unfold settle Core.settle
  change _ = if t.locked then _ else _
  split <;> rfl

theorem core_beginTracking (t : Tracker) (taskId : String) :
    (t.beginTracking taskId).1.core found answer entered (shown ++ [taskId]) =
      (t.core found answer entered shown).begin taskId := by
  have hactive : (t.selector.subscribe taskId).1.active = some taskId := by
    unfold Selector.subscribe
    dsimp only
    split
    · rfl
    · split <;> rfl
  unfold core Core.begin beginTracking
  simp only [Core.mk.injEq, and_true]
  exact ⟨rfl, rfl, rfl, rfl, rfl, hactive, rfl, rfl⟩

end Core

end Tracker

/-- Whether the call returns the success of an enter or a resume. -/
def Turn.isResumption : Turn → Bool
  | .waiting _ => false
  | .over result => result.isResumption

namespace Core

/-- Job `j` waits at its next call, or has nothing more to do. -/
def goOn (c : Core) (j : Job) : Option Call → Core
  | some d => c.wait j d
  | none => c.ended j

theorem turned_eq (c : Core) (j : Job) (turn : Turn) :
    c.turned j turn = { c with entered := c.entered || turn.isResumption }.goOn j turn.next := by
  cases turn with
  | waiting d =>
    simp only [Turn.isResumption, Bool.or_false]
    rfl
  | «over» result => rfl

theorem turned_of_not_resumption (c : Core) (j : Job) {turn : Turn}
    (h : turn.isResumption = false) : c.turned j turn = c.goOn j turn.next := by
  rw [turned_eq, h, Bool.or_false]

theorem turned_failed (c : Core) (j : Job) (error : TrackingError) :
    c.turned j (.failed error) = c.ended j := turned_of_not_resumption c j rfl

theorem turned_resumption (c : Core) (j : Job) (r : Resumption) :
    c.turned j (.resumption r) = { c with entered := true }.ended j := by
  simp [turned, Turn.resumption, Outcome.Result.isResumption]

/-- A job that has settled its snapshot returns what its goal says. -/
theorem turned_settled (c : Core) (j : Job) (goal : Goal) (applied : Applied) :
    c.turned j (Settled.turn goal (.over (.ok applied))) =
      { c with entered := c.entered || goal.isResumption }.ended j := by
  cases goal <;> rfl

/-- What is only to be applied resumes nothing. -/
theorem turned_applied (c : Core) (j : Job) (settled : Settled) :
    c.turned j (settled.turn .applied) = c.goOn j (settled.turn .applied).next := by
  refine turned_of_not_resumption c j ?_
  cases settled with
  | waiting => rfl
  | «over» result => cases result <;> rfl

end Core

namespace Session

variable {admits : Core → Call → Prop} {s : Session} {t : Tracker} {calls : List ViewCall}
  {k : Nat} {j : Job} {d : Call} {turn : Turn} {e : Event}

/-! ### The core after a turn -/

/-- The core of the session once its tracker is `t` and the view was called so. -/
def coreWith (s : Session) (t : Tracker) (calls : List ViewCall) : Core :=
  t.core s.found s.pending s.entered (s.shown ++ calls.filterMap ViewCall.shown?)

/-- View calls that begin to show no task. -/
theorem append_shown (h : calls.filterMap ViewCall.shown? = []) (shown : List String) :
    shown ++ calls.filterMap ViewCall.shown? = shown := by
  rw [h, List.append_nil]

theorem coreWith_of_hidden (h : calls.filterMap ViewCall.shown? = []) :
    s.coreWith t calls = t.core s.found s.pending s.entered s.shown := by
  rw [coreWith, append_shown h]

/-- A turn that changes nothing and shows nothing leaves the core. -/
theorem coreWith_self (s : Session) : s.coreWith s.tracker [] = s.core :=
  coreWith_of_hidden rfl

theorem coreWith_beginTracking (s : Session) (taskId : String) :
    s.coreWith (s.tracker.beginTracking taskId).1 (s.tracker.beginTracking taskId).2 =
      s.core.begin taskId := Tracker.core_beginTracking s.tracker taskId

section Resumed

variable (s : Session) (j : Job) (taskId : String) (snapshot : Snapshot) (goal : Goal)

/-- A resume whose task has ended makes it the current one and shows its end. -/
theorem core_conclude :
    (s.coreWith ({ s.tracker with current := some taskId }.settle snapshot).1 []).wait j
        (.settling ({ s.tracker with current := some taskId }.settle snapshot).2 goal) =
      { s.core with current := some taskId }.settle j snapshot goal := by
  rw [coreWith_of_hidden rfl, Tracker.core_settle]
  rfl

/-- A resume whose task runs begins to track it. -/
theorem core_track :
    (s.coreWith ((s.tracker.beginTracking taskId).1.settle snapshot).1
        (s.tracker.beginTracking taskId).2).wait j
        (.settling ((s.tracker.beginTracking taskId).1.settle snapshot).2 goal) =
      (s.core.begin taskId).settle j snapshot goal := by
  have hbegun := coreWith_beginTracking s taskId
  unfold coreWith at hbegun ⊢
  rw [Tracker.core_settle, hbegun]

end Resumed

/-- What is stored and answered after a turn is told by what the job is at then. -/
theorem core_of_turned (h : s.Honest) {next : Option Call} {turn : Tracker × List Output}
    (hturned : s.Turned j next ((s.forget j).after e turn)) :
    ((s.forget j).after e turn).core =
      { s.coreWith turn.1 (viewCalls turn.2) with
        entered := s.entered || turn.2.any isResumption
        doing := s.doing }.goOn j next := by
  have hfound := hturned.found h.faults
  have hanswer := hturned.answered h.faults
  have hpending : ((s.forget j).after e turn).pending =
      Function.update s.pending j (next.bind (Call.answered s.found)) := by
    funext i
    unfold pending
    by_cases hi : i = j
    · subst hi
      rw [hanswer, Function.update_self]
      cases next.bind (Call.answered s.found) <;> rfl
    · rw [hturned.others i hi, Function.update_of_ne hi]
  have hdoing : turn.1.doing = Function.update s.doing j next := by
    have hdoing' := hturned.doing
    unfold doing at hdoing'
    rwa [after_tracker] at hdoing'
  unfold core
  rw [hfound, hpending, after_tracker, entered_after, shown_after]
  unfold Tracker.core
  rw [hdoing]
  cases next <;> rfl

/-! ### Turns of calls -/

theorem viewCalls_afterCall (k : Nat) (t : Tracker) (calls : List ViewCall) (turn : Turn) :
    viewCalls (Tracker.afterCall k (t, calls, turn)).2 = calls := by
  cases turn with
  | waiting d => rw [Tracker.afterCall, viewCalls_map, viewCalls_asking, List.append_nil]
  | «over» result =>
    rw [Tracker.afterCall, viewCalls_map]
    exact List.append_nil calls

theorem isResumption_afterCall (k : Nat) (t : Tracker) (calls : List ViewCall) (turn : Turn) :
    (Tracker.afterCall k (t, calls, turn)).2.any isResumption = turn.isResumption := by
  cases turn with
  | waiting d =>
    rw [Tracker.afterCall]
    cases d.ask? t.identity <;>
      simp [Tracker.asking, Function.comp_def, isResumption, Turn.isResumption]
  | «over» result =>
    simp [Tracker.afterCall, Function.comp_def, isResumption, Turn.isResumption]

/-- The core after a turn of a call. -/
theorem after_call (h : s.Honest) (hdoing : s.doing (.call k) = some d)
    (hkeeps : s.tracker.Keeps t) (e : Event) (calls : List ViewCall) (turn : Turn) :
    ((s.forget (.call k)).after e (Tracker.afterCall k (t, calls, turn))).Honest ∧
      ((s.forget (.call k)).after e (Tracker.afterCall k (t, calls, turn))).core =
        (s.coreWith t calls).turned (.call k) turn := by
  constructor
  · refine (h.forget _).after e fun job request hask => ?_
    cases turn with
    | waiting d' => exact job_of_asking hask ▸ rfl
    | «over» result => cases isRequest_returned _ hask
  · have hjobs : s.doing = t.doing := hkeeps.doing.symm
    rw [core_of_turned h (turned_of_call hdoing hkeeps), viewCalls_afterCall,
      isResumption_afterCall, Core.turned_eq, hjobs]
    cases turn <;> rfl

theorem viewCalls_afterWorker (t : Tracker) (calls : List ViewCall) :
    viewCalls (Tracker.afterWorker (t, calls)).2 = calls := by
  rw [Tracker.afterWorker, viewCalls_map, viewCalls_asking, List.append_nil]

/-- The core after a turn of the worker. -/
theorem after_worker (h : s.Honest) (hid : t.identity = s.tracker.identity)
    (hcalls : t.calls = s.tracker.calls) (e : Event) (calls : List ViewCall) :
    ((s.forget .worker).after e (Tracker.afterWorker (t, calls))).Honest ∧
      ((s.forget .worker).after e (Tracker.afterWorker (t, calls))).core =
        { s.coreWith t calls with doing := s.doing }.goOn .worker t.worker.doing := by
  have hresumed : (Tracker.afterWorker (t, calls)).2.any isResumption = false := by
    rw [Tracker.afterWorker]
    cases t.worker.ask? t.identity <;> simp [Tracker.asking, Function.comp_def, isResumption]
  constructor
  · exact (h.forget _).after e fun job request hask => job_of_asking hask ▸ rfl
  · rw [core_of_turned h (turned_of_worker hid hcalls), viewCalls_afterWorker, hresumed,
      Bool.or_false]
    rfl

/-! ### Moves of a call -/

theorem move_of_resume {c : Core} (hdoing : c.doing j = some d)
    (hd : d = .entering ∨ d = .resuming) (hl : t.lifecycle = c.lifecycle) :
    Core.Move admits c { job := some j } (c.turned j t.resume) := by
  unfold Tracker.resume
  split
  · next hidle => exact .load hdoing hd (hl ▸ hidle)
  · rw [Core.turned_failed]
    exact .drop hdoing (by rcases hd with rfl | rfl <;> rfl)

/-- A job that has waited for the lock takes it where it is free. -/
theorem move_of_lock {c : Core} {snapshot : Snapshot} {goal : Goal}
    (hdoing : c.doing j = some (.settling (.locking snapshot) goal)) (hfree : c.locked = false) :
    Core.Move admits c { job := some j }
      ({ c with locked := true }.wait j (.settling (.reading snapshot) goal)) := by
  have hmove : Core.Move admits c { job := some j } _ := .lock hdoing hfree
  rwa [Core.settle, if_neg (by simp [hfree])] at hmove

/-- A turn of a call that needs no answer. -/
theorem move_of_run (hdoing : s.core.doing (.call k) = some d)
    (hturn : s.tracker.CallTurn d none (t, calls, turn)) :
    Core.Move admits s.core { job := some (.call k), calls }
      ((s.coreWith t calls).turned (.call k) turn) := by
  cases hturn with
  | enter =>
    rw [coreWith_of_hidden rfl, Tracker.core_enterPage]
    exact move_of_resume hdoing (.inl rfl) (Tracker.lifecycle_startBackground s.tracker)
  | resume =>
    rw [coreWith_self]
    exact move_of_resume hdoing (.inr rfl) rfl
  | start hidle =>
    rw [coreWith_of_hidden rfl, Tracker.core_startBackground]
    exact .create hdoing hidle
  | refuse hnew =>
    rw [coreWith_self, Core.turned_failed]
    exact .drop hdoing hnew
  | release hlocked htracking hcurrent =>
    rw [coreWith_of_hidden rfl]
    exact .release hdoing hlocked htracking hcurrent
  | apply =>
    rw [coreWith_of_hidden rfl, Core.turned, Tracker.core_settle]
    exact .apply hdoing
  | lock hlocked =>
    rw [coreWith_of_hidden rfl]
    exact move_of_lock hdoing hlocked

/-- The storage's answer to a job that applies a snapshot. -/
theorem move_of_applies {stage : Settling} {goal : Goal} {a : Store.Answer} {settled : Settled}
    (hdoing : s.core.doing j = some (.settling stage goal)) (hanswer : s.core.answer j = some a)
    (happlies : s.tracker.Applies stage (.ok a) (t, calls, settled)) :
    Core.Move admits s.core { job := some j, calls, applied := some stage.snapshot }
      ((s.coreWith t calls).turned j (settled.turn goal)) := by
  cases happlies with
  | ignored hother =>
    rw [coreWith_of_hidden rfl, Core.turned_settled]
    exact .pass hdoing hanswer hother
  | redrawn hsame hrun =>
    rw [coreWith_of_hidden rfl, Core.turned_settled]
    exact .redraw hdoing hanswer hsame hrun
  | closed hsame hend =>
    rw [coreWith_of_hidden rfl]
    exact .close hdoing hanswer hsame hend
  | @finished snapshot =>
    have hhidden : snapshot.closing.filterMap ViewCall.shown? = [] := by
      unfold Snapshot.closing
      split <;> rfl
    rw [coreWith_of_hidden hhidden, Core.turned_settled]
    exact .finish hdoing

/-- The storage's answer to a call. -/
theorem move_of_stored {a : Store.Answer} (hdoing : s.core.doing (.call k) = some d)
    (hanswer : s.core.answer (.call k) = some a)
    (hprepared : ∀ stage goal, d = .settling stage goal → stage.Prepared)
    (hturn : s.tracker.CallTurn d (some (.store (.ok a))) (t, calls, turn)) :
    Core.Move admits s.core { job := some (.call k), calls, applied := d.snapshot? }
      ((s.coreWith t calls).turned (.call k) turn) := by
  cases hturn with
  | nothing hfound =>
    rw [coreWith_self, Core.turned_resumption]
    exact .nothing hdoing hanswer hfound
  | found hfound =>
    rw [coreWith_self]
    exact .found hdoing hanswer hfound
  | stale =>
    rw [coreWith_self, Core.turned_resumption]
    exact .stale hdoing
  | begin =>
    rw [coreWith_beginTracking, Core.turned_of_not_resumption _ _ rfl]
    exact .track hdoing
  | @erase _ _ failure hfailure =>
    -- The storage has removed the id, so the cancel has no failure to tell of.
    have hnone : failure = none := Option.eq_none_iff_forall_ne_some.mpr fun f heq => by
      cases (hfailure f).mp heq
    rw [hnone, coreWith_of_hidden rfl]
    exact .erase hdoing
  | settle hsettle =>
    exact move_of_applies hdoing hanswer
      (Tracker.applies_of_settleReply (hprepared _ _ rfl) hsettle)

theorem mem_jobs_of_doing {s : Session} {j : Job} {d : Call} (h : s.doing j = some d) :
    j ∈ s.tracker.jobs := by
  cases j with
  | worker => simp [Tracker.jobs]
  | call k =>
    have hmem := List.lookup_eq_some_iff.mp (show s.tracker.calls.lookup k = some d from h)
    obtain ⟨l₁, l₂, hl, _⟩ := hmem
    simp [Tracker.jobs, hl]
  | _ => exact absurd h (by simp [Session.doing, Tracker.doing])

theorem Fresh.core {s : Session} {taskId : String} (h : s.Fresh taskId) :
    s.core.Fresh taskId where
  ne_empty := h.1
  queue := h.2.1
  doing := fun j d hd hnamed => by
    refine h.2.2.1 j (mem_jobs_of_doing hd) ?_
    rw [show s.doing j = some d from hd]
    exact hnamed
  current := h.2.2.2.1
  shown := h.2.2.2.2

/-- The task server's answer to a call. -/
theorem move_of_answered {reply : Reply} (hdoing : s.core.doing (.call k) = some d)
    (hservers : reply.isServers)
    (hfresh : ∀ taskId, reply = .created (.ok taskId) → s.core.Fresh taskId)
    (hturn : s.tracker.CallTurn d (some reply) (t, calls, turn)) :
    Core.Move admits s.core
      { job := some (.call k), calls, aside := (Event.answered (.call k) reply).isAside }
      ((s.coreWith t calls).turned (.call k) turn) := by
  cases hturn with
  -- The status is taken for the one of the stored task, whatever id it names.
  | @conclude taskId snapshot hend =>
    rw [Core.turned, core_conclude]
    exact .conclude (s := snapshot.withId taskId) hdoing hend
  | @track taskId snapshot hrun =>
    rw [Core.turned, core_track]
    exact .resume (s := snapshot.withId taskId) hdoing hrun
  | forget =>
    rw [coreWith_self]
    exact .forget hdoing
  | save =>
    rw [coreWith_self]
    exact .save hdoing (hfresh _ rfl)
  | giveUp =>
    rw [coreWith_of_hidden rfl, Core.turned_failed]
    exact .refuse hdoing
  | revoked =>
    rw [coreWith_self, Core.turned_failed]
    exact .withdraw hdoing rfl (by simp)
  | @withdraw taskId failure answer _ result hends hnotices =>
    have hhidden : calls.filterMap ViewCall.shown? = [] := by
      rw [List.filterMap_eq_nil_iff]
      intro call hcall
      obtain ⟨notice, rfl⟩ := hnotices call hcall
      rfl
    have hplain : (Turn.over result).isResumption = false := by
      obtain ⟨-, result', hresult, hplain⟩ := Tracker.endCancel_spec taskId failure answer
      rw [hends] at hresult
      exact Turn.over.inj hresult ▸ hplain
    rw [coreWith_of_hidden hhidden, Core.turned_of_not_resumption _ _ hplain]
    exact .withdraw hdoing rfl hnotices
  | _ => cases hservers

/-! ### Moves of the worker -/

/-- A worker that is free passes over deliveries. -/
theorem move_dismiss {c : Core} (hfree : c.doing .worker = none) {rest : List Delivery}
    (hrest : ∀ d ∈ rest, d ∈ c.queue) :
    Core.Move admits c { job := some .worker } ({ c with queue := rest }.ended .worker) := by
  have hmove : Core.Move admits c { job := some .worker } _ :=
    .dismiss (by rintro j ⟨⟩; exact hfree) hrest (by simp [hfree]) (by simp [hfree])
  simpa only [hfree, Option.any_none, Bool.not_false, Bool.and_true] using hmove

/-- A turn of the worker that needs no answer. -/
theorem move_of_runWorker (hturn : s.tracker.WorkerTurn (t, calls)) :
    Core.Move admits s.core { job := some .worker, calls }
      ({ s.coreWith t calls with doing := s.doing }.goOn .worker t.worker.doing) := by
  have hdoing : s.core.doing .worker = s.tracker.worker.doing := rfl
  have hfree : s.tracker.worker = .listening → s.core.doing .worker = none := by
    intro hworker
    rw [hdoing, hworker]
    rfl
  -- None of its calls shows a task, so the core sees its inbox and its lock alone.
  cases hturn with
  | quit hworker =>
    rw [coreWith_of_hidden rfl]
    exact move_dismiss (hfree hworker) fun d hd => absurd hd List.not_mem_nil
  | @take source snapshot rest hworker hqueue =>
    have hkept := (Tracker.keeps_settle
      { s.tracker with inbox := { s.tracker.inbox with queue := rest } } snapshot).doing
    have hcore : _ = Core.settle { s.core with queue := rest } .worker snapshot .applied :=
      Tracker.core_settle { s.tracker with inbox := { s.tracker.inbox with queue := rest } }
        .worker snapshot .applied
    have hmove : Core.Move admits s.core { job := some .worker } _ :=
      .take hqueue (hfree hworker)
    rw [← hcore] at hmove
    rw [coreWith_of_hidden rfl, show s.doing = _ from hkept.symm]
    exact hmove
  | warn hworker hqueue hwarns =>
    rw [coreWith_of_hidden rfl]
    dsimp only
    rw [hworker]
    have hwarned : s.tracker.stallNotified = false := by simpa using hwarns.2.2
    exact .warn hqueue (hfree hworker) hwarns.1 hwarned
  | pass hworker hqueue =>
    have hqueue' : s.core.queue = _ := hqueue
    rw [coreWith_of_hidden rfl]
    dsimp only
    rw [hworker]
    exact move_dismiss (hfree hworker) fun d hd => hqueue' ▸ List.mem_cons_of_mem _ hd
  | lock hworker hlocked =>
    rw [coreWith_of_hidden rfl]
    exact move_of_lock (by rw [hdoing, hworker]; rfl) hlocked

/-- The storage's answer to the worker. -/
theorem move_of_replyWorker {a : Store.Answer} (hanswer : s.core.answer .worker = some a)
    (hprepared : ∀ stage goal, s.doing .worker = some (.settling stage goal) → stage.Prepared)
    (hreply : s.tracker.replyWorker (.store (.ok a)) = some (t, calls)) :
    Core.Move admits s.core
      { job := some .worker, calls, applied := s.applied? (.stored .worker) }
      ({ s.coreWith t calls with doing := s.doing }.goOn .worker t.worker.doing) := by
  obtain ⟨stage, t', settled, hworker, hsettle, ht, hnext⟩ := Tracker.replyWorker_spec hreply
  have hdoing : s.core.doing .worker = some (.settling stage .applied) := by
    change s.tracker.worker.doing = _
    rw [hworker]
    rfl
  have happlied : s.applied? (.stored .worker) = some stage.snapshot := by
    rw [applied?, show s.doing .worker = _ from hdoing]
    rfl
  have happlies := Tracker.applies_of_settleReply (hprepared stage .applied hdoing) hsettle
  -- The worker's own field is all that its turn changes besides what the snapshot does.
  have hcore : { s.coreWith t calls with doing := s.doing } = s.coreWith t' calls := by
    rw [show s.doing = t'.doing from (Tracker.keeps_settleReply hsettle).doing.symm, ht]
    rfl
  rw [happlied, hcore, hnext, ← Core.turned_applied]
  exact move_of_applies hdoing hanswer happlies

/-! ### Moves of the session -/

/-- `s'` comes of `s` by an event that is a move of the core. -/
structure Moves (admits : Core → Call → Prop) (s : Session) (scene : Scene) (s' : Session) :
    Prop where
  honest : s'.Honest
  scenes : s'.scenes = s.scenes ++ [scene]
  move : Core.Move admits s.core scene s'.core

/-- A turn of a call. -/
theorem moves_of_call (h : s.Honest) (hdoing : s.doing (.call k) = some d)
    (hkeeps : s.tracker.Keeps t) (e : Event)
    (hmove : Core.Move admits s.core
      { job := e.job?, calls, applied := s.applied? e, aside := e.isAside, left := e.isLeft }
      ((s.coreWith t calls).turned (.call k) turn)) :
    Moves admits s
      { job := e.job?, calls, applied := s.applied? e, aside := e.isAside, left := e.isLeft }
      ((s.forget (.call k)).after e (Tracker.afterCall k (t, calls, turn))) := by
  have hscenes := scenes_after (s.forget (.call k)) e (Tracker.afterCall k (t, calls, turn))
  rw [viewCalls_afterCall] at hscenes
  obtain ⟨hhonest, hafter⟩ := after_call h hdoing hkeeps e calls turn
  exact ⟨hhonest, hscenes, hafter ▸ hmove⟩

/-- A turn of the worker. -/
theorem moves_of_worker (h : s.Honest) (hid : t.identity = s.tracker.identity)
    (hcalls : t.calls = s.tracker.calls) (e : Event)
    (hmove : Core.Move admits s.core
      { job := e.job?, calls, applied := s.applied? e, aside := e.isAside, left := e.isLeft }
      ({ s.coreWith t calls with doing := s.doing }.goOn .worker t.worker.doing)) :
    Moves admits s
      { job := e.job?, calls, applied := s.applied? e, aside := e.isAside, left := e.isLeft }
      ((s.forget .worker).after e (Tracker.afterWorker (t, calls))) := by
  have hscenes := scenes_after (s.forget .worker) e (Tracker.afterWorker (t, calls))
  rw [viewCalls_afterWorker] at hscenes
  obtain ⟨hhonest, hafter⟩ := after_worker h hid hcalls e calls
  exact ⟨hhonest, hscenes, hafter ▸ hmove⟩

end Session

end TaskTracking
