import TaskTracking.Proofs.Attention
import TaskTracking.Proofs.Orderly

/-! # Delivery paths

  A task has a path while it is polled, or while push is open and was last told the
  task. When a session rests whose page stays, the path of a task is lost in three
  ways only (`Session.hasPath_iff`): another task is served, the poll loop has
  stopped itself, or nobody polls and push is not open. The last has two causes: push is
  connecting again before its closing was seen, or the page resumed before its
  background jobs were started, so nobody was there to see it.
-/

namespace TaskTracking

namespace Session

/-! ### Runs of a page that stays -/

/-- The page is not left. -/
def Stays (_ : Session) (e : Event) : Prop := e.isLeft = false

instance (s : Session) (e : Event) : Decidable (s.Stays e) := by
  unfold Stays
  infer_instance

/-- The page is not left, and it resumes only once the background jobs were started. -/
def Primed (s : Session) : Event → Prop
  | .left => False
  | .called _ .resuming => s.tracker.worker.isBegun = true
  | _ => True

/-- The page is primed, and time passes only while the session rests. -/
def Unhurried (s : Session) : Event → Prop
  | .elapsed _ => s.AtRest
  | e => s.Primed e

/-! ### Paths -/

/-- Push is open, and the last frame written on the connection subscribes to the task. -/
def Pushed (s : Session) (taskId : String) : Prop :=
  match s.tracker.selector.push.map Push.Channel.cycle with
  | some (.connected link) =>
    (Push.Channel.onConnection s.frames link.number).getLast? =
      some (Push.Channel.subscribeFrame taskId)
  | _ => False

/-- The task is polled, or its updates come over push. -/
def HasPath (s : Session) (taskId : String) : Prop :=
  s.tracker.selector.poll.currentTask = some taskId ∨ s.Pushed taskId

instance (s : Session) (taskId : String) : Decidable (s.Pushed taskId) := by
  unfold Pushed
  split <;> infer_instance

instance (s : Session) (taskId : String) : Decidable (s.HasPath taskId) := by
  unfold HasPath
  infer_instance

/-- The task of the current loop or, if there is none, of the subscription. -/
def served (s : Session) : Option String :=
  match s.tracker.selector.poll.activeLoop with
  | some l => some l.taskId
  | none => s.tracker.selector.active

/-- The current loop took a terminal status. -/
def Stopped (s : Session) : Prop := ∃ i ∈ s.stopped, s.tracker.selector.poll.active = some i

/-- Nobody was set to poll for the subscription. -/
def Unpolled (s : Session) : Prop := s.tracker.selector.Unpolled

/-- Nobody was set to poll for the subscription, and push is not open: no watcher saw that
    it closed. -/
def Missed (s : Session) : Prop :=
  s.Unpolled ∧ s.tracker.selector.push.map Push.Channel.phase ≠ some .open

/-- Since before the background jobs were started, nobody was set to poll for the
    subscription. -/
def Late (s₀ s : Session) : Prop :=
  ∃ s₁, Reaches Stays s₀ s₁ ∧ s₁.tracker.worker.isBegun = false ∧
    Reaches (fun s e => s.Stays e ∧ s.Unpolled) s₁ s

/-- The page has resumed before its background jobs were started, and since before that
    nobody was set to poll for the subscription. -/
def Unwatched (s₀ s : Session) : Prop := ¬ Reaches Primed s₀ s ∧ Late s₀ s

instance (s : Session) : Decidable s.Stopped := by
  unfold Stopped
  infer_instance

instance (s : Session) : Decidable s.Missed := by
  unfold Missed Unpolled
  infer_instance

/-! ### The background jobs -/

variable {s s' : Session} {e : Event}

/-- **Invariant.** A call that may come to track a task has had the background jobs
    started, and so has whoever has subscribed to one. -/
structure Staffed (s : Session) : Prop where
  calls : ∀ k d, s.doing (.call k) = some d → d.mayTrack = true → s.tracker.worker.isBegun = true
  subscribed : s.wiring.Started

/-- A call may come to track a task only if it might before, or starts the background
    jobs. -/
theorem mayTrack_of_callTurn {t t' : Tracker} {d d' : Call} {reply : Option Reply}
    {calls : List ViewCall} {turn : Turn} (hturn : t.CallTurn d reply (t', calls, turn))
    (hnext : turn.next = some d') (htrack : d'.mayTrack = true) :
    d.mayTrack = true ∨ t'.worker.isBegun = true := by
  cases hturn with
  | enter => exact .inr (Tracker.isBegun_startBackground t)
  | start => exact .inr (Tracker.isBegun_startBackground _)
  | resume | found | save => exact .inl rfl
  | @settle _ _ _ _ _ settled =>
    -- Whoever applies a snapshot goes on to apply it, or is done.
    cases settled with
    | waiting =>
      cases hnext
      cases htrack
    | «over» result => cases result <;> cases hnext
  | release | apply | lock | conclude | track | forget | revoke | erase =>
    cases hnext
    cases htrack
  | _ => cases hnext

theorem Staffed.step (h : s.Staffed) (hprimed : s.Primed e) (hstep : s.step e = some s') :
    s'.Staffed := by
  have hobeys : Obeys .staffed s e s' :=
    ⟨fun _ _ => trivial, fun k d hd htrack _ => h.calls k d hd htrack, fun _ => trivial,
      fun _ _ => trivial⟩
  have hmoves := wires_of_step hobeys hstep
  have hbegun : s.tracker.worker.isBegun = true → s'.tracker.worker.isBegun = true := hmoves.begun
  refine ⟨fun k d' hdoing htrack => ?_, hmoves.started (fun _ hstarted => hstarted) h.subscribed⟩
  have hbefore : s.doing (.call k) = some d' → s'.tracker.worker.isBegun = true :=
    fun hd => hbegun (h.calls k d' hd htrack)
  cases happens_of_step hstep with
  | @call _ i d r hjob hd htakes =>
    obtain ⟨t, calls, turn⟩ := r
    rw [(turned_of_takes hd htakes).doing] at hdoing
    by_cases hk : Job.call k = .call i
    · rw [hk, Function.update_self] at hdoing
      obtain ⟨_, _, hturn⟩ := htakes.callTurn
      rcases mayTrack_of_callTurn hturn hdoing htrack with hold | hstarted
      · exact hbegun (h.calls i d hd hold)
      · obtain ⟨cs, htracker⟩ := Tracker.afterCall_fst i t calls turn
        rw [after_tracker, htracker]
        exact hstarted
    · rw [Function.update_of_ne hk] at hdoing
      exact hbefore hdoing
  | @worker _ r hjob hworks =>
    obtain ⟨t, calls⟩ := r
    rw [(turned_of_works hworks).doing, Function.update_of_ne (by simp)] at hdoing
    exact hbefore hdoing
  | channel | disturbed =>
    rw [doing, after_tracker] at hdoing
    exact hbefore hdoing
  | @called i d hnew hfree =>
    rw [doing_called hfree] at hdoing
    by_cases hk : Job.call k = .call i
    · rw [hk, Function.update_self] at hdoing
      cases hdoing
      -- A resume is the one new call that may track without starting the jobs itself.
      cases d' with
      | resuming => exact hbegun hprimed
      | entering | starting | cancelling | applying => cases htrack
      | _ => cases hnew
    · rw [Function.update_of_ne hk] at hdoing
      exact hbefore hdoing
  | left => exact hprimed.elim

/-- The background jobs come before any subscription. -/
theorem Staffed.not_unpolled (h : s.Staffed) (hnot : s.tracker.worker.isBegun = false) :
    ¬ s.Unpolled := by
  intro hidle
  have hbegun : s.tracker.worker.isBegun = true := h.subscribed hidle.1
  rw [hnot] at hbegun
  cases hbegun

theorem stays_of_primed (h : s.Primed e) : s.Stays e := by
  cases e with
  | left => exact h.elim
  | _ => rfl

theorem primed_of_unhurried (h : s.Unhurried e) : s.Primed e := by
  cases e with
  | elapsed => trivial
  | _ => exact h

/-- An event of a page that stays keeps the rules of one that stays, unless it starts the
    background jobs too late. -/
theorem Stays.obeys (hstays : s.Stays e)
    (hstarts : s.tracker.worker.isBegun = false → ¬ s.Unpolled) : Obeys .staying s e s' where
  starts := fun hnot _ => hstarts hnot
  begins := fun _ _ _ _ _ => trivial
  leaves := by
    rintro rfl
    cases hstays
  elapses := fun _ _ => trivial

/-! ### The beginning -/

/-- Settings that make sense poll at intervals. -/
theorem pollInterval_pos {config c : Config} (h : config.validated = .ok c) :
    0 < c.pollInterval := by
  unfold Config.validated at h
  split at h
  · cases h
  · next hvalid =>
    cases h
    unfold Config.violation? at hvalid
    split at hvalid
    · cases hvalid
    · split at hvalid
      · cases hvalid
      · next hinterval => exact Nat.pos_of_ne_zero hinterval

/-- At first nothing is subscribed to, connected or polled for. -/
theorem attended_opened {config : Config} {t : Tracker} (h : Tracker.ofConfig config = .ok t)
    (entries : Store.Entries) :
    (opened t entries).wiring.Attended ∧ t.selector.active = none := by
  unfold Tracker.ofConfig at h
  split at h
  · cases h
  · next c hvalid =>
    cases h
    refine ⟨⟨rfl, nofun, ?_, ⟨rfl, pollInterval_pos hvalid, nofun, nofun, nofun⟩,
      ⟨rfl, ?_, nofun, nofun, nofun⟩⟩, rfl⟩
    · intro push hpush
      obtain ⟨p, _, rfl⟩ := Option.map_eq_some_iff.mp hpush
      exact .of_closed rfl nofun
    · intro push hpush
      obtain ⟨p, _, rfl⟩ := Option.map_eq_some_iff.mp hpush
      rfl

theorem not_unpolled_opened {config : Config} {t : Tracker} (h : Tracker.ofConfig config = .ok t)
    (entries : Store.Entries) : ¬ (opened t entries).Unpolled :=
  fun hidle => hidle.1 (attended_opened h entries).2

theorem staffed_opened {config : Config} {t : Tracker} (h : Tracker.ofConfig config = .ok t)
    (entries : Store.Entries) : (opened t entries).Staffed := by
  refine ⟨fun k d hd => ?_, fun hsub => absurd (attended_opened h entries).2 hsub⟩
  rw [show (opened t entries).doing (.call k) = none from doing_opened h _] at hd
  cases hd

theorem delayed_opened {config : Config} {t : Tracker} (h : Tracker.ofConfig config = .ok t)
    (hdelay : ∀ p, config.push = some p → 0 < p.reconnectDelay) (entries : Store.Entries) :
    (opened t entries).wiring.Delayed := by
  unfold Tracker.ofConfig Config.validated at h
  cases hvalid : config.violation? with
  | some v =>
    rw [hvalid] at h
    cases h
  | none =>
    rw [hvalid] at h
    cases h
    intro c hc
    obtain ⟨p, hp, rfl⟩ := Option.map_eq_some_iff.mp hc
    exact hdelay p hp

/-! ### Runs -/

section Runs

variable {config : Config} {t : Tracker} {entries : Store.Entries}

/-- While the page stays, the subscription is attended to. -/
theorem attended_of_reaches (hconfig : Tracker.ofConfig config = .ok t)
    (h : Reaches Stays (opened t entries) s) : s.wiring.Attended := by
  induction h with
  | refl => exact (attended_opened hconfig entries).1
  | @step s₁ s₂ e _ hstays hstep ih =>
    have hobeys : Obeys { Wiring.Rules.any with leaves := False } s₁ e s₂ := by
      refine ⟨fun _ _ => trivial, fun _ _ _ _ _ => trivial, ?_, fun _ _ => trivial⟩
      rintro rfl
      cases hstays
    exact (wires_of_step hobeys hstep).attended id ih

theorem reaches_of_primed (h : Reaches Primed (opened t entries) s) :
    Reaches Stays (opened t entries) s := h.mono fun _ _ => stays_of_primed

/-- An event that starts no background jobs too late keeps push watched. -/
theorem covered_of_step (hattended : s.wiring.Attended) (hstays : s.Stays e)
    (hstep : s.step e = some s') (hstarts : s.tracker.worker.isBegun = false → ¬ s.Unpolled)
    (h : s.wiring.Covered) : s'.wiring.Covered :=
  ((wires_of_step (hstays.obeys hstarts) hstep).covered (fun _ hpolled => hpolled) id hattended
    h).2

/-- On a primed page, push is watched if nobody polls for the subscription. -/
theorem covered_of_primed (hconfig : Tracker.ofConfig config = .ok t)
    (h : Reaches Primed (opened t entries) s) : s.Staffed ∧ s.wiring.Covered := by
  induction h with
  | refl =>
    exact ⟨staffed_opened hconfig entries,
      fun _ hidle => absurd hidle (not_unpolled_opened hconfig entries)⟩
  | @step s₁ s₂ e hrun hprimed hstep ih =>
    obtain ⟨hstaffed, hcovered⟩ := ih
    have hattended := attended_of_reaches hconfig (reaches_of_primed hrun)
    exact ⟨hstaffed.step hprimed hstep,
      covered_of_step hattended (stays_of_primed hprimed) hstep hstaffed.not_unpolled hcovered⟩

/-- On any page that stays it is, unless the background jobs came too late. -/
theorem late_or_covered (hconfig : Tracker.ofConfig config = .ok t)
    (h : Reaches Stays (opened t entries) s) :
    Late (opened t entries) s ∨ s.wiring.Covered := by
  induction h with
  | refl => exact .inr fun _ hidle => absurd hidle (not_unpolled_opened hconfig entries)
  | @step s₁ s₂ e hrun hstays hstep ih =>
    have hkeeps := covered_of_step (attended_of_reaches hconfig hrun) hstays hstep
    -- Only an event that finds the subscription unpolled may come too late. It is the
    -- first of a late stretch, or one more.
    by_cases hidle : s₁.Unpolled
    · rcases ih with ⟨s₀, hreaches, hnot, hlate⟩ | hcovered
      · exact .inl ⟨s₀, hreaches, hnot, .step e hlate ⟨hstays, hidle⟩ hstep⟩
      · cases hbegun : s₁.tracker.worker.isBegun with
        | false => exact .inl ⟨s₁, hrun, hbegun, .step e .refl ⟨hstays, hidle⟩ hstep⟩
        | true => exact .inr (hkeeps (fun hnot => by simp [hbegun] at hnot) hcovered)
    · exact .inr (hkeeps (fun _ => hidle) fun _ hidle' => absurd hidle' hidle)

/-- If nobody polls for the subscription, push is watched, or never was. -/
theorem unwatched_or_watched (hconfig : Tracker.ofConfig config = .ok t)
    (h : Reaches Stays (opened t entries) s) (hidle : s.Unpolled) :
    Unwatched (opened t entries) s ∨ s.tracker.selector.Watched := by
  by_cases hprimed : Reaches Primed (opened t entries) s
  · obtain ⟨hstaffed, hcovered⟩ := covered_of_primed hconfig hprimed
    exact .inr (hcovered (hstaffed.subscribed hidle.1) hidle)
  · rcases late_or_covered hconfig h with hlate | hcovered
    · exact .inl ⟨hprimed, hlate⟩
    · cases hbegun : s.tracker.worker.isBegun with
      | false => exact .inl ⟨hprimed, s, h, hbegun, .refl⟩
      | true => exact .inr (hcovered hbegun hidle)

end Runs

/-! ### At rest -/

/-- The watchers have seen push as it is. -/
theorem seen_of_atRest (h : s.wiring.Attended) (hrest : s.AtRest) {c : Push.Channel}
    (hpush : s.tracker.selector.push = some c) {w : Watcher}
    (hw : w ∈ s.tracker.selector.watchers) : w.seen = c.version := by
  obtain ⟨k, hk⟩ := List.mem_iff_getElem?.mp hw
  have hidle := hrest.2 (.watcher k)
  by_cases hseen : w.seen = c.version
  · exact hseen
  · have hready : s.tracker.selector.watcherReady w = true := by
      have hworking := h.selector.working w hw
      simp [Selector.watcherReady, hworking, hpush, Ne.symm hseen]
    rw [Tracker.run, hk, Option.bind_eq_bind, Option.bind_some,
      (Option.guard_eq_some' ()).mpr hready] at hidle
    cases hidle

/-- An open connection has been told all there is to tell. -/
theorem outgoing_of_atRest (hrest : s.AtRest) {c : Push.Channel}
    (hpush : s.tracker.selector.push = some c) {link : Push.Link}
    (hlink : c.cycle = .connected link) : link.outgoing = [] := by
  have hidle := hrest.2 .cycle
  cases houtgoing : link.outgoing with
  | nil => rfl
  | cons frame rest =>
    have hready : c.ready s.now = true := by
      unfold Push.Channel.ready
      rw [hlink]
      simp [houtgoing]
    rw [Tracker.run, hpush, Option.bind_eq_bind, Option.bind_some,
      (Option.guard_eq_some' ()).mpr hready] at hidle
    cases hidle

/-- If nobody polls for a subscription, push brings its updates, unless its closing was
    missed. -/
theorem pushed_of_atRest (h : s.wiring.Attended) (hrest : s.AtRest) {taskId : String}
    (hsub : s.tracker.selector.active = some taskId)
    (hidle : s.tracker.selector.poll.active = none) (hmissed : ¬ s.Missed) :
    s.Pushed taskId := by
  have hunpolled : s.Unpolled := ⟨by rw [hsub]; exact Option.some_ne_none _, hidle⟩
  have hopen : s.tracker.selector.push.map Push.Channel.phase = some .open := by
    by_contra hclosed
    exact hmissed ⟨hunpolled, hclosed⟩
  obtain ⟨c, hpush, hphase⟩ := Option.map_eq_some_iff.mp hopen
  cases hcycle : c.cycle with
  | connected link =>
    have htold := ((h.spoken c hpush).told link hcycle).2 taskId
      ((h.selector.subscribed c hpush).trans hsub)
    rw [outgoing_of_atRest hrest hpush hcycle, List.append_nil] at htold
    unfold Pushed
    rw [hpush, Option.map_some, hcycle]
    exact htold
  | _ =>
    unfold Push.Channel.phase at hphase
    rw [hcycle] at hphase
    cases hphase

/-- Push that is watched is not closed once the session rests, so it connects again if its
    closing was missed. -/
theorem connecting_of_missed (h : s.wiring.Attended) (hrest : s.AtRest) (hmissed : s.Missed)
    (hwatched : s.tracker.selector.Watched) :
    s.tracker.selector.push.map Push.Channel.phase = some .connecting := by
  obtain ⟨c, hpush, hunseen⟩ := hwatched
  obtain ⟨_, hclosed⟩ := hmissed
  rw [hpush, Option.map_some] at hclosed ⊢
  cases hphase : c.phase with
  | connecting => rfl
  | «open» => exact absurd (congrArg some hphase) hclosed
  | closed =>
    obtain ⟨w, hw, hne⟩ := hunseen hphase
    exact absurd (seen_of_atRest h hrest hpush hw) hne

/-- A task is polled by the current loop just if that polls the task and was not
    stopped. -/
theorem currentTask_iff (h : s.wiring.Attended) {i : Nat} {l : Polling.Loop}
    (hactive : s.tracker.selector.poll.active = some i)
    (hl : s.tracker.selector.poll.loops[i]? = some l) (taskId : String) :
    s.tracker.selector.poll.currentTask = some taskId ↔ l.taskId = taskId ∧ ¬ s.Stopped := by
  have hcancelled : l.cancelled = true ↔ s.Stopped := by
    constructor
    · intro hcancelled
      obtain ⟨l', hl', hstopped⟩ := h.intact.current i hactive
      have heq := hl.symm.trans hl'
      cases heq
      exact ⟨i, hstopped hcancelled, hactive⟩
    · rintro ⟨j, hj, hactive'⟩
      have heq := hactive.symm.trans hactive'
      cases heq
      obtain ⟨l', hl', hcancelled⟩ := h.intact.stopped i hj
      have heq := hl.symm.trans hl'
      cases heq
      exact hcancelled
  have hreturned : l.Returned := h.intact.returned i l hl
  have hloop : s.tracker.selector.poll.activeLoop = some l := by
    unfold Polling.Channel.activeLoop
    rw [hactive, Option.bind_some, hl]
  have hlive : l.isLive = !l.cancelled := by
    unfold Polling.Loop.isLive
    cases hended : l.ended with
    | false => exact Bool.and_true _
    | true => simp [hreturned hended]
  rw [← hcancelled]
  unfold Polling.Channel.currentTask
  rw [hloop, Option.filter_some, hlive]
  cases l.cancelled <;> simp

/-- On a primed page, while time waits for the session to rest and push waits between
    attempts, no closing of push is missed. -/
theorem not_missed_of_reaches {config : Config} {t : Tracker}
    (hconfig : Tracker.ofConfig config = .ok t) {entries : Store.Entries}
    (hdelay : ∀ p, config.push = some p → 0 < p.reconnectDelay)
    (h : Reaches Unhurried (opened t entries) s) (hrest : s.AtRest) : ¬ s.Missed := by
  have hinv : s.Staffed ∧ s.wiring.Prompt := by
    clear hrest
    induction h with
    | refl =>
      have hidle := not_unpolled_opened hconfig entries
      exact ⟨staffed_opened hconfig entries, (attended_opened hconfig entries).1,
        fun _ hidle' => absurd hidle' hidle, delayed_opened hconfig hdelay entries,
        fun _ hidle' => absurd hidle' hidle⟩
    | @step s₁ s₂ e _ hunhurried hstep ih =>
      obtain ⟨hstaffed, hprompt⟩ := ih
      have hprimed := primed_of_unhurried hunhurried
      have hobeys : Obeys .prompt s₁ e s₂ := by
        have hobeys : Obeys .staying s₁ e s₂ :=
          (stays_of_primed hprimed).obeys hstaffed.not_unpolled
        refine ⟨hobeys.starts, hobeys.begins, hobeys.leaves, ?_⟩
        rintro duration rfl c hpush w hw
        exact seen_of_atRest hprompt.attended hunhurried hpush hw
      exact ⟨hstaffed.step hprimed hstep, (wires_of_step hobeys hstep).prompt hprompt⟩
  obtain ⟨hstaffed, hprompt⟩ := hinv
  -- A missed closing leaves push connecting, and one that stays visible does not.
  intro hmissed
  have hbegun : s.wiring.begun = true := hstaffed.subscribed hmissed.1.1
  have hconnecting := connecting_of_missed hprompt.attended hrest hmissed
    (hprompt.covered hbegun hmissed.1)
  obtain ⟨c, hpush, hphase⟩ := Option.map_eq_some_iff.mp hconnecting
  have hvisible := hprompt.visible hbegun hmissed.1 c hpush
  unfold Push.Channel.Visible at hvisible
  unfold Push.Channel.phase at hphase
  cases hcycle : c.cycle with
  | connecting =>
    rw [hcycle] at hvisible
    exact hvisible
  | _ =>
    rw [hcycle] at hphase
    cases hphase

/-- The current loop polls what is served, and while there is one nothing is missed. -/
theorem hasPath_of_loop (h : s.wiring.Attended) {i : Nat}
    (hactive : s.tracker.selector.poll.active = some i) (taskId : String) :
    s.HasPath taskId ↔ s.Pushed taskId ∨ s.served = some taskId ∧ ¬ s.Stopped ∧ ¬ s.Missed := by
  obtain ⟨l, hl, _⟩ := h.intact.current i hactive
  have hl' : s.tracker.selector.poll.loops[i]? = some l := hl
  have hserved : s.served = some l.taskId := by
    unfold served Polling.Channel.activeLoop
    rw [hactive, Option.bind_some, hl']
  have hmissed : ¬ s.Missed := by
    rintro ⟨⟨_, hnone⟩, _⟩
    rw [hactive] at hnone
    cases hnone
  unfold HasPath
  rw [currentTask_iff h hactive hl' taskId, hserved, Option.some.injEq]
  constructor
  · rintro (⟨htask, hstopped⟩ | hpushed)
    · exact .inr ⟨htask, hstopped, hmissed⟩
    · exact .inl hpushed
  · rintro (hpushed | ⟨htask, hstopped, _⟩)
    · exact .inr hpushed
    · exact .inl ⟨htask, hstopped⟩

/-- Without a loop the only path is push. -/
theorem hasPath_of_no_loop (h : s.wiring.Attended) (hrest : s.AtRest)
    (hactive : s.tracker.selector.poll.active = none) (taskId : String) :
    s.HasPath taskId ↔ s.Pushed taskId ∨ s.served = some taskId ∧ ¬ s.Stopped ∧ ¬ s.Missed := by
  have hloop : s.tracker.selector.poll.activeLoop = none := by
    unfold Polling.Channel.activeLoop
    rw [hactive]
    rfl
  constructor
  · rintro (hpolled | hpushed)
    · unfold Polling.Channel.currentTask at hpolled
      rw [hloop] at hpolled
      cases hpolled
    · exact .inl hpushed
  · rintro (hpushed | ⟨hserved, _, hmissed⟩)
    · exact .inr hpushed
    · unfold served at hserved
      rw [hloop] at hserved
      exact .inr (pushed_of_atRest h hrest hserved hactive hmissed)

/-- **Paths.** Whatever the servers answer and the storage does, a resting session whose
    page stays has a path for a task just if push brings its updates, or the task is
    the one that is served, the current loop was not stopped by a terminal status,
    and no closing of push was missed. A closing is missed only by a page that resumed
    before anybody watched push, or where push is connecting again. -/
theorem hasPath_iff {config : Config} {t : Tracker} (hconfig : Tracker.ofConfig config = .ok t)
    {entries : Store.Entries} (hrun : Reaches Stays (opened t entries) s) (hrest : s.AtRest)
    (taskId : String) :
    (s.HasPath taskId ↔
      s.Pushed taskId ∨ s.served = some taskId ∧ ¬ s.Stopped ∧ ¬ s.Missed) ∧
      (s.Missed → s.tracker.selector.push.map Push.Channel.phase = some .connecting ∨
        Unwatched (opened t entries) s) := by
  have h := attended_of_reaches hconfig hrun
  constructor
  · cases hactive : s.tracker.selector.poll.active with
    | some i => exact hasPath_of_loop h hactive taskId
    | none => exact hasPath_of_no_loop h hrest hactive taskId
  · intro hmissed
    rcases unwatched_or_watched hconfig hrun hmissed.1 with hunwatched | hwatched
    · exact .inr hunwatched
    · exact .inl (connecting_of_missed h hrest hmissed hwatched)

/-- In an orderly session the tracked task is the one that is served. -/
theorem served_of_orderly (h : s.Orderly) (htracking : s.tracker.lifecycle = .tracking) :
    s.served = s.tracker.current := by
  obtain ⟨φ, hφ⟩ := h.phase
  have hserved : s.served = s.tracker.selector.active := by
    unfold served
    split
    · next l hloop =>
      unfold Polling.Channel.activeLoop at hloop
      obtain ⟨i, hi, hl⟩ := Option.bind_eq_some_iff.mp hloop
      obtain ⟨l', hl', hactive⟩ := h.selector.polls i hi
      have heq := hl.symm.trans hl'
      cases heq
      exact hactive.symm
    · rfl
  obtain ⟨x, htask⟩ : ∃ x, φ.task = some x := by
    obtain ⟨x, rfl | rfl | rfl⟩ := hφ.is_tracking htracking <;> exact ⟨x, rfl⟩
  obtain ⟨_, hcurrent, hactive, _⟩ := hφ.looks.tracked x htask
  have hcurrent' : s.tracker.current = some x := hcurrent
  have hactive' : s.tracker.selector.active = some x := hactive
  rw [hserved, hactive', hcurrent']

/-- A page starts a task, which is polled. -/
def started : List Event :=
  [.called 0 (.starting .null), .turn (.call 0), .answered (.call 0) (.created (.ok "new")),
    .stored (.call 0), .turn (.loop 0)]

/-- A page with push that tries again after a while. -/
def pushingPage (delay : Nat) : Config :=
  { pollingPage with
    push := some { url := { scheme := "ws", path := .segments [] }, reconnectDelay := delay } }

/-- The session in which the tracker of that page begins. -/
def pushingFrom (delay : Nat) (entries : Store.Entries) : Session :=
  opened
    { identity := ⟨pollingPage.pageKey⟩
      selector :=
        { push := some { maxRetry := 3, delay }
          poll :=
            { interval := pollingPage.pollInterval, threshold := pollingPage.stallThreshold } } }
    entries

/-- The page that tries again at once, and has stored nothing. -/
def pushing : Session := pushingFrom 0 (.ofList [])

/-- That page starts a task over push and loses the connection. It tries again before the
    watcher has had a turn. -/
def hasty : List Event :=
  [.called 0 .entering, .turn (.call 0), .stored (.call 0), .turn .cycle, .connected (.ok ()),
    .turn (.watcher 0), .called 1 (.starting .null), .turn (.call 1),
    .answered (.call 1) (.created (.ok "new")), .stored (.call 1), .turn .cycle,
    .received .closed, .turn .cycle, .turn .cycle, .turn (.watcher 0)]

/-- A page resumes twice before its background jobs were started, and cancels its task
    in between. The second time push is open, and the connection is lost after that. -/
def early : List Event :=
  [.called 0 .resuming, .turn (.call 0), .stored (.call 0),
    .called 1 .resuming, .turn (.call 1), .stored (.call 1),
    .answered (.call 0) (.status (.ok { id := "old", status := .running })), .stored (.call 0),
    .turn .cycle, .connected (.ok ()), .turn .cycle,
    .called 2 .cancelling, .turn (.call 2), .stored (.call 2),
    .answered (.call 2) (.cancelled (.ok true)), .turn (.loop 0),
    .answered (.call 1) (.status (.ok { id := "old", status := .running })), .stored (.call 1),
    .turn .cycle, .received .closed, .turn .cycle]

/-- The task that is polled has a path. One whose connection was lost has none, if nobody
    saw that, be it for haste or because nobody was there. -/
theorem hasPath_started_not_hasty :
    (∃ s, play Stays started (polling "old") = some s ∧ s.AtRest ∧ s.HasPath "new") ∧
      (∃ s, play Stays hasty pushing = some s ∧ s.AtRest ∧
        s.tracker.current = some "new" ∧ ¬ s.HasPath "new") ∧
      ∃ s, play Stays early (pushingFrom 3000 (.ofList [(pollingPage.pageKey, "old")])) = some s ∧
        s.AtRest ∧ s.tracker.current = some "old" ∧ ¬ s.HasPath "old" ∧
        Unwatched (pushingFrom 3000 (.ofList [(pollingPage.pageKey, "old")])) s := by
  refine ⟨?_, ?_, ?_⟩
  · have hplayed : (play Stays started (polling "old")).any fun s =>
        decide (s.AtRest ∧ s.served = some "new" ∧ ¬ s.Stopped ∧ ¬ s.Missed) := by decide
    obtain ⟨s, hs, hholds⟩ := (Option.any_eq_true ..).mp hplayed
    obtain ⟨hrest, hserved⟩ := of_decide_eq_true hholds
    have hconfig : Tracker.ofConfig pollingPage = .ok (polling "old").tracker := rfl
    exact ⟨s, hs, hrest,
      (hasPath_iff hconfig (reaches_of_play hs) hrest "new").1.mpr (.inr hserved)⟩
  · have hplayed : (play Stays hasty pushing).any fun s =>
        decide (s.AtRest ∧ s.tracker.current = some "new" ∧ ¬ s.Pushed "new" ∧ s.Missed) := by
      decide
    obtain ⟨s, hs, hholds⟩ := (Option.any_eq_true ..).mp hplayed
    obtain ⟨hrest, hcurrent, hpushed, hmissed⟩ := of_decide_eq_true hholds
    have hconfig : Tracker.ofConfig (pushingPage 0) = .ok pushing.tracker := rfl
    refine ⟨s, hs, hrest, hcurrent, fun hpath => ?_⟩
    rcases (hasPath_iff hconfig (reaches_of_play hs) hrest "new").1.mp hpath with hpush | hlost
    · exact hpushed hpush
    · exact hlost.2.2 hmissed
  · have hplayed :
        (play Stays early (pushingFrom 3000 (.ofList [(pollingPage.pageKey, "old")]))).any fun s =>
          decide (s.AtRest ∧ s.tracker.current = some "old" ∧ ¬ s.Pushed "old" ∧ s.Missed ∧
            s.tracker.selector.push.map Push.Channel.phase ≠ some .connecting) := by
      decide
    obtain ⟨s, hs, hholds⟩ := (Option.any_eq_true ..).mp hplayed
    obtain ⟨hrest, hcurrent, hpushed, hmissed, hwaits⟩ := of_decide_eq_true hholds
    have hconfig : Tracker.ofConfig (pushingPage 3000) =
        .ok (pushingFrom 3000 (.ofList [(pollingPage.pageKey, "old")])).tracker := rfl
    obtain ⟨hiff, hcause⟩ := hasPath_iff hconfig (reaches_of_play hs) hrest "old"
    refine ⟨s, hs, hrest, hcurrent, fun hpath => ?_, (hcause hmissed).resolve_left hwaits⟩
    rcases hiff.mp hpath with hpush | hlost
    · exact hpushed hpush
    · exact hlost.2.2 hmissed

/-- A page polls its task, and the server answers with the end of another one. -/
def misled : List Event :=
  started ++
    [.elapsed 2000, .turn (.loop 0), .turn (.request 0),
      .answered (.request 0) (.status (.ok { id := "other", status := .completed })),
      .turn .worker, .stored .worker, .turn (.loop 0)]

/-- The loop of that page stops itself, and the task that is still tracked has no path. -/
theorem not_hasPath_misled : ∃ s, play Stays misled (polling "old") = some s ∧ s.AtRest ∧
    s.tracker.lifecycle = .tracking ∧ s.tracker.current = some "new" ∧ s.Stopped ∧
      ¬ s.HasPath "new" := by
  have hplayed : (play Stays misled (polling "old")).any fun s =>
      decide (s.AtRest ∧ s.tracker.lifecycle = .tracking ∧ s.tracker.current = some "new" ∧
        s.Stopped ∧ ¬ s.HasPath "new") := by decide
  obtain ⟨s, hs, hlost⟩ := (Option.any_eq_true ..).mp hplayed
  exact ⟨s, hs, of_decide_eq_true hlost⟩

end Session

end TaskTracking
