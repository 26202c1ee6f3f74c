import TaskTracking.Proofs.Selection
import TaskTracking.Proofs.Turns

/-! # Sessions move as their cores

  Every event of a fair session is a move of its core (`Session.moves_of_step`).
-/

namespace TaskTracking

namespace Session

variable {admits : Core → Call → Prop}

/-! ### The channels -/

/-- Whether an output is only for the peers of the channels. -/
def isForPeers : Output → Bool
  | .ask _ (.store _) | .view _ | .returned .. => false
  | _ => true

theorem isForPeers_of_channels {o : Output} (h : isOfChannels o = true) : isForPeers o = true := by
  unfold isOfChannels at h
  split at h
  · rfl
  · rfl
  · rfl
  · cases h

/-- The tracker after some deliveries and changes of its channels that keep the
    active subscription. -/
structure Delivers (t : Tracker) (ds : List Delivery) (t' : Tracker) : Prop where
  identity : t'.identity = t.identity
  core : ∀ found answer entered shown, t'.core found answer entered shown =
    { t.core found answer entered shown with queue := t.inbox.queue ++ ds }
  quiet : t.selector.active = none → ds = []

/-- An event of the channels. -/
theorem moves_of_delivers {s : Session} (h : s.Honest) {ds : List Delivery} {t : Tracker}
    (hdelivers : Delivers s.tracker ds t) {outputs : List Output}
    (hpeers : ∀ o ∈ outputs, isForPeers o) (e : Event)
    (hjob : ∀ j, e.job? = some j → s.doing j = none) (happlied : s.applied? e = none)
    (haside : e.isAside = false) (hleft : e.isLeft = false) :
    Moves admits s { job := e.job? } (s.after e (t, outputs)) := by
  have hquiet : ∀ o ∈ outputs, isRequest o = false := by
    intro o ho
    have hpeer := hpeers o ho
    unfold isForPeers at hpeer
    split at hpeer <;> simp_all [isRequest]
  have hviews : viewCalls outputs = [] := by
    rw [viewCalls, List.filterMap_eq_nil_iff]
    intro o ho
    have hpeer := hpeers o ho
    cases o <;> simp_all [isForPeers]
  have hresumed : outputs.any isResumption = false := by
    rw [List.any_eq_false]
    intro o ho
    have hpeer := hpeers o ho
    cases o <;> simp_all [isForPeers, isResumption]
  obtain ⟨hhonest, hcore⟩ := after_of_quiet h hdelivers.identity e hquiet
  refine ⟨hhonest, ?_, ?_⟩
  · rw [scenes_after, hviews, happlied, haside, hleft]
  · rw [hcore, hviews, hresumed, append_shown rfl, hdelivers.core, Bool.or_false]
    exact .deliver hjob hdelivers.quiet

/-- Deliveries that the worker may or may not still receive. -/
theorem delivers_add {t : Tracker} {selector : Selector} {ds : List Delivery}
    (hactive : selector.active = t.selector.active)
    (hquiet : t.selector.active = none → ds = []) :
    ∃ ds', Delivers t ds' ({ t with selector }.deliver ds) := by
  by_cases hopen : t.inbox.receiving
  · refine ⟨ds, rfl, ?_, hquiet⟩
    intro found answer entered shown
    unfold Tracker.deliver Inbox.add
    rw [if_pos hopen]
    unfold Tracker.core
    rw [hactive]
    rfl
  · refine ⟨[], rfl, ?_, fun _ => rfl⟩
    intro found answer entered shown
    unfold Tracker.deliver Inbox.add
    rw [if_neg hopen]
    unfold Tracker.core
    rw [hactive, List.append_nil]
    rfl

/-- A change of the channels alone. -/
theorem delivers_nothing {t : Tracker} {selector : Selector}
    (hactive : selector.active = t.selector.active) : Delivers t [] { t with selector } := by
  refine ⟨rfl, ?_, fun _ => rfl⟩
  intro found answer entered shown
  unfold Tracker.core
  rw [hactive, List.append_nil]
  rfl

theorem delivers_feel (s : Session) (f : Push.Channel → Push.Channel) :
    Delivers s.tracker [] (s.feel f) := by
  unfold feel
  exact delivers_nothing rfl

theorem runWatcher_active (s : Selector) (k : Nat) : (s.runWatcher k).active = s.active := by
  unfold Selector.runWatcher
  split
  · rfl
  · split
    · unfold Selector.failOver
      split
      · rfl
      · split <;> rfl
    · rfl

/-- The connect cycle has changed the push channel. -/
theorem moves_of_afterPush {s : Session} (h : s.Honest) {push : Push.Channel}
    {acts : List Push.Act} (hactive : s.tracker.selector.active = none →
      Push.Channel.deliveries acts = []) (e : Event)
    (hjob : ∀ j, e.job? = some j → s.doing j = none) (happlied : s.applied? e = none)
    (haside : e.isAside = false) (hleft : e.isLeft = false) :
    Moves admits s { job := e.job? } (s.after e (s.tracker.afterPush push acts)) := by
  have hkeep : ({ s.tracker.selector with push := some push } : Selector).active =
      s.tracker.selector.active := rfl
  obtain ⟨ds, hdelivers⟩ := delivers_add hkeep hactive
  refine moves_of_delivers h hdelivers (fun o ho => ?_) e hjob happlied haside hleft
  exact isForPeers_of_channels (isOfChannels_afterPush s.tracker push acts o ho)

/-- The poll channel has changed and may have delivered. -/
theorem moves_of_afterPoll {s : Session} (h : s.Honest) {poll : Polling.Channel}
    {ds : List Delivery} (hquiet : s.tracker.selector.active = none → ds = [])
    {outputs : List Output} (hpeers : ∀ o ∈ outputs, isForPeers o) (e : Event)
    (hjob : ∀ j, e.job? = some j → s.doing j = none)
    (happlied : s.applied? e = none) (haside : e.isAside = false) (hleft : e.isLeft = false) :
    Moves admits s { job := e.job? } (s.after e (s.tracker.afterPoll poll ds, outputs)) := by
  have hkeep : ({ s.tracker.selector with poll } : Selector).active =
      s.tracker.selector.active := rfl
  obtain ⟨ds', hdelivers⟩ := delivers_add hkeep hquiet
  exact moves_of_delivers h hdelivers hpeers e hjob happlied haside hleft

/-- A turn that an event gives the channels. -/
theorem moves_of_stirs {s b : Session} {e : Event} {turn : Tracker × List Output} (h : s.Honest)
    (hsound : s.tracker.selector.Sound) (hstirs : s.Stirs e b turn) :
    Moves admits s { job := e.job? } (b.after e turn) := by
  have hnone : ∀ o ∈ ([] : List Output), isForPeers o := fun o ho => by cases ho
  cases hstirs with
  | @watch k =>
    rw [h.forget_eq rfl]
    exact moves_of_delivers h (delivers_nothing (runWatcher_active _ k)) hnone
      (.turn (.watcher k)) (by rintro _ ⟨⟩; rfl) rfl rfl rfl
  | cycle hpush =>
    rw [h.forget_eq rfl]
    exact moves_of_afterPush h (fun hidle => hsound.quiet_run hidle hpush s.now) (.turn .cycle)
      (by rintro _ ⟨⟩; rfl) rfl rfl rfl
  | @tick i =>
    rw [h.forget_eq rfl]
    exact moves_of_afterPoll h (fun _ => rfl) hnone (.turn (.loop i)) (by rintro _ ⟨⟩; rfl)
      rfl rfl rfl
  | @request i =>
    rw [h.forget_eq rfl]
    refine moves_of_afterPoll h (fun _ => rfl) (fun o ho => ?_) (.turn (.request i))
      (by rintro _ ⟨⟩; rfl) rfl rfl rfl
    exact isForPeers_of_channels (isOfChannels_asking_status i _ o ho)
  | @answer i _ result =>
    rw [h.forget_eq rfl]
    exact moves_of_afterPoll h (fun hidle => hsound.quiet_answer hidle i _ result) hnone
      (.answered (.request i) (.status result)) (by rintro _ ⟨⟩; rfl) rfl rfl rfl
  | @opened c =>
    -- Neither the core nor the scenes read how many connections were accepted.
    have hmoves : Moves admits { s with accepted := s.accepted + 1 } {}
        (({ s with accepted := s.accepted + 1 } : Session).after (.connected (.ok ()))
          (s.tracker.afterPush (c.attempted s.now (.ok s.accepted)) [])) :=
      moves_of_afterPush (s := { s with accepted := s.accepted + 1 }) ⟨h.faults, h.answers⟩
        (fun _ => rfl) (.connected (.ok ())) (by rintro _ ⟨⟩) rfl rfl rfl
    exact ⟨hmoves.honest, hmoves.scenes, hmoves.move⟩
  | @refused _ failure =>
    exact moves_of_afterPush h (fun _ => rfl) (.connected (.error failure)) (by rintro _ ⟨⟩)
      rfl rfl rfl
  | received | deafened =>
    exact moves_of_delivers h (delivers_feel s _) hnone _ (by rintro _ ⟨⟩) rfl rfl rfl
  | elapsed duration =>
    have hmoves : Moves admits { s with now := s.now + duration } {} _ :=
      moves_of_delivers (s := { s with now := s.now + duration }) ⟨h.faults, h.answers⟩
        (delivers_nothing (t := s.tracker) rfl) hnone (.elapsed duration) (by rintro _ ⟨⟩)
        rfl rfl rfl
    exact ⟨hmoves.honest, hmoves.scenes, hmoves.move⟩

/-! ### The page -/

/-- A new control call. -/
theorem moves_of_called {s : Session} (h : s.Honest) {k : Nat} {d : Call} (hnew : d.isNew)
    (hfree : s.doing (.call k) = none) (hadmits : admits s.core d) :
    Moves admits s {} (s.after (.called k d) (s.tracker.call k d, [])) := by
  have hquiet : ∀ o ∈ ([] : List Output), isRequest o = false := fun o ho => by cases ho
  obtain ⟨hhonest, hcore⟩ := after_of_quiet h (t := s.tracker.call k d) rfl (.called k d) hquiet
  have hdoing : (s.tracker.call k d).doing = Function.update s.core.doing (.call k) (some d) :=
    Tracker.doing_call hfree d
  refine ⟨hhonest, scenes_after s _ _, ?_⟩
  have hmove : Core.Move admits s.core {} _ := .call hfree hnew hadmits
  rw [← hdoing] at hmove
  rw [hcore]
  simp only [List.any_nil, Bool.or_false]
  rw [append_shown rfl]
  exact hmove

/-- A page that is left only loses its deliveries and the worker's hold on the lock. -/
theorem core_leave (t : Tracker) (doing : Job → Option Call) (found : Option String)
    (answer : Job → Option Store.Answer) (entered : Bool) (shown : List String) :
    ({ t.leave.core found answer entered shown with doing } : Core) =
      { t.core found answer entered shown with
        doing
        queue := t.leave.inbox.queue
        locked := t.locked && !t.worker.doing.any Call.holds } := by
  unfold Tracker.core
  rw [t.leave_spec.2.2.2]
  unfold Tracker.leave
  dsimp only
  split <;> rfl

theorem mem_queue_of_leave {t : Tracker} : ∀ d ∈ t.leave.inbox.queue, d ∈ t.inbox.queue := by
  unfold Tracker.leave
  dsimp only
  split
  · exact fun d hd => hd
  · exact fun d hd => absurd hd List.not_mem_nil

/-- The page is left. -/
theorem moves_of_left {s : Session} (h : s.Honest) :
    Moves admits s { left := true } ((s.forget .worker).after .left (s.tracker.leave, [])) := by
  obtain ⟨hid, hcalls, hworker, -⟩ := s.tracker.leave_spec
  have hdoing := doing_of_worker (s := s) hcalls
  rw [hworker] at hdoing
  have hturned : s.Turned .worker none
      ((s.forget .worker).after .left (s.tracker.leave, [])) :=
    turned_of_quiet hid hdoing rfl fun o ho => by cases ho
  refine ⟨(h.forget _).after .left (by simp), scenes_after (s.forget .worker) _ _, ?_⟩
  rw [core_of_turned h hturned, coreWith_of_hidden rfl, List.any_nil, Bool.or_false]
  change Core.Move admits s.core { left := true } (Core.ended
    { s.tracker.leave.core s.found s.pending s.entered s.shown with doing := s.doing } .worker)
  rw [core_leave]
  refine .dismiss nofun mem_queue_of_leave (fun d hd => ?_) fun _ _ _ => rfl
  change s.tracker.worker.doing = some d at hd
  cases hw : s.tracker.worker with
  | settling stage =>
    rw [hw] at hd
    cases hd
    exact ⟨stage, rfl⟩
  | _ =>
    rw [hw] at hd
    cases hd

/-! ### Steps -/

/-- The jobs that hold a terminal snapshot have its last effects still to come. -/
def Prepared (s : Session) : Prop :=
  ∀ j stage goal, s.core.doing j = some (.settling stage goal) → stage.Prepared

section Steps

variable {s s' : Session} {e : Event}

/-- A turn that an event gives a call. -/
theorem moves_of_takes {k : Nat} {d : Call} {r : Tracker × List ViewCall × Turn} (h : s.Honest)
    (hd : s.doing (.call k) = some d)
    (hprepared : ∀ stage goal, d = .settling stage goal → stage.Prepared) (hfair : s.Fair e)
    (htakes : s.Takes k d e r) :
    ∃ scene, Moves admits s scene
      ((s.forget (.call k)).after e (Tracker.afterCall k r)) := by
  obtain ⟨t, calls, turn⟩ := r
  have hkeeps := htakes.keeps
  cases htakes with
  | run hrun =>
    have hturn := Tracker.callTurn_of_runCall hrun
    exact ⟨_, moves_of_call h hd hkeeps _ (move_of_run hd hturn)⟩
  | stored hanswer hreply =>
    obtain ⟨a, rfl, hpending⟩ := h.pending hanswer
    have hturn := Tracker.callTurn_of_replyCall hreply
    have happlied : s.applied? (.stored (.call k)) = d.snapshot? := by
      rw [applied?, hd, Option.bind_some]
    refine ⟨_, moves_of_call h hd hkeeps (.stored (.call k)) ?_⟩
    rw [happlied]
    exact move_of_stored hd hpending hprepared hturn
  | @answered reply _ hservers hreply =>
    have hturn := Tracker.callTurn_of_replyCall hreply
    have hfresh : ∀ taskId, reply = .created (.ok taskId) → s.core.Fresh taskId := by
      rintro taskId rfl
      exact Fresh.core hfair
    exact ⟨_, moves_of_call h hd hkeeps _
      (move_of_answered hd hservers hfresh hturn)⟩

/-- A turn that an event gives the worker. -/
theorem moves_of_works {r : Tracker × List ViewCall} (h : s.Honest)
    (hprepared : ∀ stage goal, s.doing .worker = some (.settling stage goal) → stage.Prepared)
    (hworks : s.Works e r) :
    ∃ scene, Moves admits s scene ((s.forget .worker).after e (Tracker.afterWorker r)) := by
  obtain ⟨t, calls⟩ := r
  obtain ⟨hid, hcalls⟩ := hworks.keeps
  cases hworks with
  | run hrun =>
    exact ⟨_, moves_of_worker h hid hcalls (.turn .worker)
      (move_of_runWorker (Tracker.workerTurn_of_runWorker hrun))⟩
  | stored hanswer hreply =>
    obtain ⟨a, rfl, hpending⟩ := h.pending hanswer
    exact ⟨_, moves_of_worker h hid hcalls (.stored .worker)
      (move_of_replyWorker hpending hprepared hreply)⟩

/-- The storage's answer to a job. -/
theorem moves_of_stored {job : Job} (h : s.Honest)
    (hprepared : ∀ stage goal, s.core.doing job = some (.settling stage goal) → stage.Prepared)
    (hstep : s.step (.stored job) = some s') : ∃ scene, Moves admits s scene s' := by
  obtain ⟨answer, hanswer, hstep'⟩ := Option.bind_eq_some_iff.mp hstep
  obtain ⟨turn, hreply, rfl⟩ := Option.map_eq_some_iff.mp hstep'
  cases job with
  | worker =>
    obtain ⟨r, hreply', rfl⟩ := Option.map_eq_some_iff.mp hreply
    exact moves_of_works h hprepared (.stored hanswer hreply')
  | call k =>
    obtain ⟨d, r, hd, hreply', rfl⟩ := Tracker.reply_call hreply
    exact moves_of_takes h hd (fun stage goal heq => hprepared stage goal (heq ▸ hd)) trivial
      (.stored hanswer hreply')
  | _ => cases Tracker.usesStorage_of_reply hreply

/-- **Simulation.** An event of a fair session is a move of its core. -/
theorem moves_of_step (h : s.Honest) (hsound : s.tracker.selector.Sound) (hprepared : s.Prepared)
    (hfair : s.Fair e) (hadmits : ∀ k d, e = .called k d → admits s.core d)
    (hstep : s.step e = some s') : ∃ scene, Moves admits s scene s' := by
  by_cases hjob : ∀ job, e.job? = some job → job.usesStorage = false
  · rcases stirs_of_step hjob hstep with ⟨b, turn, hstirs, rfl⟩ | ⟨k, d, hnew, hfree, rfl, rfl⟩ |
      ⟨rfl, rfl⟩ | ⟨faults, rfl, rfl⟩
    · exact ⟨_, moves_of_stirs h hsound hstirs⟩
    · exact ⟨_, moves_of_called h hnew hfree (hadmits k d rfl)⟩
    · exact ⟨_, moves_of_left h⟩
    · exact hfair.elim
  · cases happens_of_step hstep with
    | @call _ k d r _ hd htakes =>
      exact moves_of_takes h hd (fun stage goal heq => hprepared (.call k) stage goal (heq ▸ hd))
        hfair htakes
    | worker _ hworks => exact moves_of_works h (hprepared .worker) hworks
    | channel hjob' => exact absurd hjob' hjob
    | called | left | disturbed => exact absurd nofun hjob

end Steps

end Session

end TaskTracking
