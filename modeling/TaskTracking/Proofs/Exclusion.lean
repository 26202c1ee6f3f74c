import TaskTracking.Proofs.Aftermath
import TaskTracking.Proofs.Orderly

/-! # Whoever applies a snapshot is alone

  In any session, whatever the storage does and however calls overlap, at most one
  job holds the lock under which snapshots are applied (`Session.Guarded`). So an
  event changes what is stored only for one of a few reasons, which are what its
  job was at before (`Session.Guarded.changes`).
-/

namespace TaskTracking

/-! ### The lock -/

/-- A job that goes on to `next` keeps the lock or does without it, takes it where it is
    free, or gives it back. -/
inductive Passes (old next : Option Call) (locked locked' : Bool) : Prop where
  | keep (hholds : next.any Call.holds = old.any Call.holds) (hlocked : locked' = locked)
  | take (hfree : locked = false) (hholds : next.any Call.holds = true) (hlocked : locked' = true)
  | leave (hheld : old.any Call.holds = true) (hholds : next.any Call.holds = false)
      (hlocked : locked' = false)

/-- How a job goes on, whatever it does. -/
structure Proper (old next : Option Call) (locked locked' : Bool) : Prop where
  lock : Passes old next locked locked'
  /-- A terminal snapshot keeps its last effects for the end. -/
  prepared : ∀ stage goal, next = some (.settling stage goal) → stage.Prepared

theorem Sole.passes {doing : Job → Option Call} {j : Job} {next : Option Call}
    {locked locked' : Bool} (h : Sole Call.holds doing locked)
    (hpasses : Passes (doing j) next locked locked') :
    Sole Call.holds (Function.update doing j next) locked' := by
  cases hpasses with
  | keep hholds hlocked => exact hlocked ▸ h.keep hholds
  | take hfree hholds hlocked =>
    subst hlocked
    exact Sole.take (hfree ▸ h) hholds
  | leave hheld hholds hlocked =>
    subst hlocked
    exact h.leave hheld hholds

namespace Tracker

variable {t t' : Tracker} {calls : List ViewCall}

theorem proper_of_plain {old next : Option Call} {locked : Bool}
    (hold : old.any Call.holds = false) (hnext : next.any Call.holds = false)
    (hstage : ∀ stage goal, next ≠ some (.settling stage goal)) :
    Proper old next locked locked :=
  ⟨.keep (hnext.trans hold.symm) rfl, fun stage goal heq => absurd heq (hstage stage goal)⟩

theorem proper_of_settle {old : Option Call} (hold : old.any Call.holds = false) (t : Tracker)
    (s : Snapshot) (goal : Goal) :
    Proper old (some (.settling (t.settle s).2 goal)) t.locked (t.settle s).1.locked := by
  unfold settle
  cases hlocked : t.locked with
  | true => exact ⟨.keep hold.symm hlocked, by rintro _ _ ⟨⟩; trivial⟩
  | false => exact ⟨.take rfl rfl rfl, by rintro _ _ ⟨⟩; trivial⟩

theorem proper_of_applies (goal : Goal) {stage : Settling}
    {answer : Except StorageFailure Store.Answer} {settled : Settled}
    (happlies : t.Applies stage answer (t', calls, settled)) :
    Proper (some (.settling stage goal)) (settled.turn goal).next t.locked t'.locked := by
  cases happlies with
  | failed | ignored | redrawn | finished => exact ⟨.leave rfl rfl rfl, by rintro _ _ ⟨⟩⟩
  | closed hsame hend =>
    refine ⟨.keep rfl rfl, ?_⟩
    rintro _ _ ⟨⟩
    exact ⟨Display.isTerminal_apply hend, rfl⟩

theorem proper_of_resume {d : Call} (hd : d.holds = false) (t : Tracker) (locked : Bool) :
    Proper (some d) t.resume.next locked locked := by
  unfold resume
  split
  · exact proper_of_plain hd rfl (by rintro _ _ ⟨⟩)
  · exact proper_of_plain hd rfl (by rintro _ _ ⟨⟩)

theorem startBackground_locked (t : Tracker) : t.startBackground.locked = t.locked := by
  unfold startBackground
  split <;> rfl

theorem proper_of_callTurn {d : Call} {reply : Option Reply} {turn : Turn}
    (hprepared : ∀ stage goal, d = .settling stage goal → stage.Prepared)
    (hturn : t.CallTurn d reply (t', calls, turn)) :
    Proper (some d) turn.next t.locked t'.locked := by
  cases hturn with
  | enter =>
    rw [show t.enterPage.1.locked = t.locked from startBackground_locked t]
    exact proper_of_resume rfl _ _
  | resume => exact proper_of_resume rfl _ _
  -- A start begins the channels as an enter does, but for another lifecycle.
  | start =>
    rw [startBackground_locked]
    exact proper_of_plain rfl rfl (by rintro _ _ ⟨⟩)
  | refuse hnew => exact proper_of_plain (Core.Sound.isNew_spec hnew).1 rfl (by rintro _ _ ⟨⟩)
  -- The lock is taken where it is free: by a cancel, or by whoever has waited for it.
  | release hlocked => exact ⟨.take hlocked rfl rfl, by rintro _ _ ⟨⟩⟩
  | apply => exact proper_of_settle rfl t _ .applied
  | lock hlocked => exact ⟨.take hlocked rfl rfl, by rintro _ _ ⟨⟩; trivial⟩
  | fail hd => rcases hd with rfl | ⟨_, rfl⟩ <;> exact proper_of_plain rfl rfl (by rintro _ _ ⟨⟩)
  | @conclude taskId => exact proper_of_settle rfl { t with current := some taskId } _ _
  | @track taskId => exact proper_of_settle rfl (t.beginTracking taskId).1 _ _
  -- It is given back with the answer of the storage.
  | erase => exact ⟨.leave rfl rfl rfl, by rintro _ _ ⟨⟩⟩
  | @settle stage goal _ _ _ _ hsettle =>
    exact proper_of_applies goal (applies_of_settleReply (hprepared stage goal rfl) hsettle)
  | _ =>
    -- All others leave the lock alone and apply nothing.
    exact proper_of_plain rfl rfl (by rintro _ _ ⟨⟩)

theorem proper_of_workerTurn (hturn : t.WorkerTurn (t', calls)) :
    Proper t.worker.doing t'.worker.doing t.locked t'.locked := by
  have hplain : ∀ w : Worker, t.worker = .listening → w.doing = none →
      Proper t.worker.doing w.doing t.locked t.locked := by
    intro w hworker hw
    rw [hworker, hw]
    exact proper_of_plain rfl rfl (by rintro _ _ ⟨⟩)
  cases hturn with
  | quit hworker => exact hplain .ended hworker rfl
  | @take source s rest hworker =>
    have hfree : t.worker.doing.any Call.holds = false := by rw [hworker]; rfl
    exact proper_of_settle hfree { t with inbox := { t.inbox with queue := rest } } s .applied
  | warn hworker | pass hworker => exact hplain t.worker hworker (by rw [hworker]; rfl)
  | lock hworker hlocked =>
    rw [hworker]
    exact ⟨.take hlocked rfl rfl, by rintro _ _ ⟨⟩; trivial⟩

theorem proper_of_replyWorker {answer : Except StorageFailure Store.Answer}
    (hprepared : ∀ stage, t.worker = .settling stage → stage.Prepared)
    (hreply : t.replyWorker (.store answer) = some (t', calls)) :
    Proper t.worker.doing t'.worker.doing t.locked t'.locked := by
  obtain ⟨stage, t₁, settled, hsettling, hsettle, ht', hnext⟩ := replyWorker_spec hreply
  have hlocked : t'.locked = t₁.locked := by rw [ht']
  rw [hnext, hsettling, hlocked]
  exact proper_of_applies .applied (applies_of_settleReply (hprepared stage hsettling) hsettle)

/-- What a tracker is set up with. -/
theorem ofConfig_eq_ok {config : Config} (h : ofConfig config = .ok t) :
    ∃ c, config.validated = .ok c ∧
      t = { identity := ⟨c.pageKey⟩
            selector :=
              { push := c.push.map Push.Channel.ofSettings
                poll := { interval := c.pollInterval, threshold := c.stallThreshold } } } := by
  unfold ofConfig at h
  split at h
  · cases h
  · next c hvalid =>
    cases h
    exact ⟨c, hvalid, rfl⟩

end Tracker

/-! ### Nobody shares the lock -/

namespace Session

/-- **Invariant.** At most one job holds the lock, and one does just when it is locked; and
    the jobs with a terminal snapshot have its last effects still to come. -/
structure Guarded (s : Session) : Prop where
  lock : Sole Call.holds s.doing s.tracker.locked
  prepared : ∀ j stage goal, s.doing j = some (.settling stage goal) → stage.Prepared

variable {s s' : Session} {e : Event} {t : Tracker} {calls : List ViewCall}

theorem guarded_opened {config : Config} {t : Tracker} (h : Tracker.ofConfig config = .ok t)
    (entries : Store.Entries) : (opened t entries).Guarded := by
  have hdoing : (opened t entries).doing = fun _ => none := by
    funext j
    exact doing_opened h j
  obtain ⟨c, _, rfl⟩ := Tracker.ofConfig_eq_ok h
  refine ⟨?_, fun j stage goal hd => ?_⟩
  · rw [hdoing]
    exact ⟨none, rfl, fun _ => rfl⟩
  · rw [hdoing] at hd
    cases hd

namespace Guarded

theorem of_call (h : s.Guarded) {k : Nat} {d : Call} {turn : Turn}
    (hd : s.doing (.call k) = some d) (htakes : s.Takes k d e (t, calls, turn)) :
    Proper (some d) turn.next s.tracker.locked t.locked := by
  have hprepared : ∀ stage goal, d = .settling stage goal → stage.Prepared :=
    fun stage goal heq => h.prepared (.call k) stage goal (heq ▸ hd)
  obtain ⟨_, _, hturn⟩ := htakes.callTurn
  exact Tracker.proper_of_callTurn hprepared hturn

theorem of_worker (h : s.Guarded) (hworks : s.Works e (t, calls)) :
    Proper (s.doing .worker) t.worker.doing s.tracker.locked t.locked := by
  have hprepared : ∀ stage, s.tracker.worker = .settling stage → stage.Prepared := by
    intro stage hworker
    refine h.prepared .worker stage .applied ?_
    change s.tracker.worker.doing = _
    rw [hworker]
    rfl
  cases hworks with
  | run hrun => exact Tracker.proper_of_workerTurn (Tracker.workerTurn_of_runWorker hrun)
  | stored _ hreply => exact Tracker.proper_of_replyWorker hprepared hreply

/-- One job goes on with what is prepared. -/
theorem prepared_update (h : s.Guarded) {j : Job} {next : Option Call}
    (hnext : ∀ stage goal, next = some (.settling stage goal) → stage.Prepared) (i : Job)
    (stage : Settling) (goal : Goal)
    (hd : Function.update s.doing j next i = some (.settling stage goal)) : stage.Prepared := by
  by_cases hi : i = j
  · subst hi
    rw [Function.update_self] at hd
    exact hnext stage goal hd
  · rw [Function.update_of_ne hi] at hd
    exact h.prepared i stage goal hd

/-- A job that has gone on as it may leaves the rest alone. -/
theorem of_turned (h : s.Guarded) {j : Job} {next : Option Call} (hturned : s.Turned j next s')
    (hproper : Proper (s.doing j) next s.tracker.locked s'.tracker.locked) : s'.Guarded := by
  refine ⟨?_, fun i stage goal hd => ?_⟩
  · rw [hturned.doing]
    exact h.lock.passes hproper.lock
  · rw [hturned.doing] at hd
    exact h.prepared_update hproper.prepared i stage goal hd

theorem step (h : s.Guarded) (hstep : s.step e = some s') : s'.Guarded := by
  cases happens_of_step hstep with
  | @call _ k d r hjob hd htakes =>
    obtain ⟨t, calls, turn⟩ := r
    have hproper := h.of_call hd htakes
    obtain ⟨cs, htracker⟩ := Tracker.afterCall_fst k t calls turn
    refine h.of_turned (turned_of_takes hd htakes) ?_
    rw [after_tracker, htracker, hd]
    exact hproper
  | @worker _ r hjob hworks =>
    obtain ⟨t, calls⟩ := r
    refine h.of_turned (turned_of_works hworks) ?_
    rw [after_tracker]
    exact h.of_worker hworks
  -- Neither the lock nor a job that could hold it is touched.
  | channel | disturbed =>
    refine ⟨?_, fun j stage goal hd => ?_⟩
    · unfold doing
      rw [after_tracker]
      exact h.lock
    · unfold doing at hd
      rw [after_tracker] at hd
      exact h.prepared j stage goal hd
  | @called k d hnew hfree =>
    refine ⟨?_, fun j stage goal hd => ?_⟩
    · rw [doing_called hfree, after_tracker]
      exact h.lock.keep (by rw [hfree]; exact (Core.Sound.isNew_spec hnew).1)
    · rw [doing_called hfree] at hd
      exact h.prepared_update (by rintro _ _ ⟨⟩; cases hnew) j stage goal hd
  | left =>
    refine ⟨?_, fun j stage goal hd => ?_⟩
    -- The page takes the lock from its worker if that holds it.
    · rw [doing_left, after_tracker]
      refine h.lock.passes ?_
      change Passes (s.doing .worker) none s.tracker.locked s.tracker.leave.locked
      rw [s.tracker.leave_spec.2.2.2]
      cases hheld : s.tracker.worker.doing.any Call.holds with
      | true => exact .leave hheld rfl (by simp)
      | false => exact .keep hheld.symm (by simp)
    · rw [doing_left] at hd
      exact h.prepared_update (by rintro _ _ ⟨⟩) j stage goal hd

end Guarded

/-- Whatever happens, the lock is never shared. -/
theorem guarded_of_reaches {config : Config} {t : Tracker}
    (hconfig : Tracker.ofConfig config = .ok t) {entries : Store.Entries}
    {allowed : Session → Event → Prop} (hrun : Reaches allowed (opened t entries) s) :
    s.Guarded := by
  -- Along the run, with no condition on its events: the lock is the tracker's own affair.
  induction hrun with
  | refl => exact guarded_opened hconfig entries
  | step e _ _ hstep ih => exact ih.step hstep

/-! ### What changes the stored id -/

/-- What an event was by which job `j` has come to a call that changes the stored id. -/
def Causes (s : Session) (e : Event) (j : Job) : Call → Prop
  | .saving taskId => e = .answered j (.created (.ok taskId))
  | .forgetting taskId =>
    (∃ failure, e = .answered j (.status (.error failure))) ∧ s.doing j = some (.fetching taskId)
  | .erasing taskId =>
    e = .turn j ∧ s.doing j = some .cancelling ∧ s.tracker.lifecycle = .tracking ∧
      s.tracker.current = some taskId
  | .settling (.clearing snapshot _ _) goal =>
    e = .stored j ∧ s.doing j = some (.settling (.reading snapshot) goal) ∧
      snapshot.isTerminal = true ∧ s.told j = some snapshot.id
  | _ => True

theorem causes_of_settle (s : Session) (e : Event) (j : Job) (t : Tracker) (snapshot : Snapshot)
    (goal : Goal) : s.Causes e j (.settling (t.settle snapshot).2 goal) := by
  unfold Tracker.settle
  split <;> trivial

theorem causes_of_applies {j : Job} {stage : Settling} {goal : Goal}
    {answer : Except StorageFailure Store.Answer} {settled : Settled}
    (hd : s.doing j = some (.settling stage goal)) (hanswer : s.answers.lookup j = some answer)
    (happlies : s.tracker.Applies stage answer (t, calls, settled)) :
    ∀ d, (settled.turn goal).next = some d → s.Causes (.stored j) j d := by
  cases happlies with
  -- Only a terminal snapshot goes on to another call, and has read its id before.
  | closed hsame hend =>
    rintro _ ⟨⟩
    refine ⟨rfl, hd, hend, ?_⟩
    unfold told pending
    rw [hanswer]
    exact hsame
  | _ => rintro _ ⟨⟩

theorem causes_of_takes (h : s.Guarded) {k : Nat} {d : Call} {turn : Turn}
    (hd : s.doing (.call k) = some d) (htakes : s.Takes k d e (t, calls, turn)) :
    ∀ d', turn.next = some d' → s.Causes e (.call k) d' := by
  intro d' hnext
  have hresume : ∀ t : Tracker, t.resume.next = some d' → s.Causes e (.call k) d' := by
    intro t hnext
    unfold Tracker.resume at hnext
    split at hnext <;> cases hnext
    trivial
  obtain ⟨_, hbrings, hturn⟩ := htakes.callTurn
  cases hturn with
  | enter | resume => exact hresume _ hnext
  | release _ htracking hcurrent =>
    cases hbrings
    cases hnext
    exact ⟨rfl, hd, htracking, hcurrent⟩
  | apply | conclude | track =>
    cases hnext
    exact causes_of_settle ..
  | forget =>
    cases hbrings
    cases hnext
    exact ⟨⟨_, rfl⟩, hd⟩
  | save =>
    cases hbrings
    cases hnext
    rfl
  | settle hsettle =>
    obtain ⟨rfl, hanswer⟩ := hbrings.of_store
    exact causes_of_applies hd hanswer (Tracker.applies_of_settleReply
      (h.prepared _ _ _ hd) hsettle) d' hnext
  | start | lock | found | revoke | erase =>
    cases hnext
    trivial
  | _ => cases hnext

/-- The worker applies the snapshot that the storage's answer is about. -/
theorem applies_of_replyWorker (h : s.Guarded) {answer : Except StorageFailure Store.Answer}
    (hreply : s.tracker.replyWorker (.store answer) = some (t, calls)) :
    ∃ stage t₁ settled, s.doing .worker = some (.settling stage .applied) ∧
      s.tracker.Applies stage answer (t₁, calls, settled) ∧
      t = { t₁ with worker := t.worker } ∧ t.worker.doing = (settled.turn .applied).next := by
  obtain ⟨stage, t₁, settled, hsettling, hsettle, htracker, hnext⟩ :=
    Tracker.replyWorker_spec hreply
  have hd : s.doing .worker = some (.settling stage .applied) := by
    change s.tracker.worker.doing = _
    rw [hsettling]
    rfl
  exact ⟨stage, t₁, settled, hd,
    Tracker.applies_of_settleReply (h.prepared .worker stage .applied hd) hsettle, htracker, hnext⟩

theorem causes_of_works (h : s.Guarded) (hworks : s.Works e (t, calls)) :
    ∀ d, t.worker.doing = some d → s.Causes e .worker d := by
  intro d hnext
  cases hworks with
  | run hrun =>
    cases Tracker.workerTurn_of_runWorker hrun with
    | quit => cases hnext
    | take =>
      cases hnext
      exact causes_of_settle ..
    | warn hworker | pass hworker => simp [hworker, Worker.doing] at hnext
    | lock =>
      cases hnext
      trivial
  | stored hanswer hreply =>
    obtain ⟨stage, t₁, settled, hd, happlies, _, hworker⟩ := applies_of_replyWorker h hreply
    rw [hworker] at hnext
    exact causes_of_applies hd hanswer happlies d hnext

/-- No call and no snapshot has gone on, and nothing is stored or removed. -/
structure Still (s s' : Session) : Prop where
  identity : s'.tracker.identity = s.tracker.identity
  entries : s'.storage.entries = s.storage.entries
  doing : ∀ j d, s'.doing j = some d →
    d.isNew = true ∨ s.doing j = some d ∧ s'.answers.lookup j = s.answers.lookup j

/-- What an event does to the calls and to what is stored. -/
inductive Changes (s : Session) (e : Event) (s' : Session) : Prop where
  | turned {j : Job} {next : Option Call} (hjob : e.job? = some j) (hturned : s.Turned j next s')
      (hcauses : ∀ d, next = some d → s.Causes e j d)
  | still (hstill : s.Still s')

theorem Guarded.changes (h : s.Guarded) (hstep : s.step e = some s') : s.Changes e s' := by
  have hnone : ∀ o ∈ ([] : List Output), isRequest o = false := fun o ho => by cases ho
  cases happens_of_step hstep with
  | @call _ k d r hjob hd htakes =>
    obtain ⟨t, calls, turn⟩ := r
    exact .turned hjob (turned_of_takes hd htakes) (causes_of_takes h hd htakes)
  | @worker _ r hjob hworks =>
    obtain ⟨t, calls⟩ := r
    exact .turned hjob (turned_of_works hworks) (causes_of_works h hworks)
  | @channel _ b selector inbox outputs hjob hbeside hchannels =>
    rw [after_quiet b (quiet_of_channels hchannels)]
    refine .still ⟨rfl, by rw [note, hbeside.storage], fun j d hd => .inr ⟨hd, ?_⟩⟩
    exact hbeside.answers j (usesStorage_of_doing (t := s.tracker) hd)
  -- The call that is begun is new, and all others are at what they were.
  | @called k d hnew hfree =>
    have hdoing := doing_called hfree d
    rw [after_quiet s hnone] at hdoing ⊢
    refine .still ⟨rfl, rfl, fun j d' hd => ?_⟩
    rw [hdoing] at hd
    by_cases hj : j = .call k
    · subst hj
      rw [Function.update_self] at hd
      cases hd
      exact .inl hnew
    · rw [Function.update_of_ne hj] at hd
      exact .inr ⟨hd, rfl⟩
  | left =>
    -- The worker has given up, and whoever calls goes on as before.
    have hdoing := doing_left s
    rw [after_quiet _ hnone] at hdoing ⊢
    refine .still ⟨s.tracker.leave_spec.1, rfl, fun j d hd => ?_⟩
    rw [hdoing] at hd
    by_cases hj : j = .worker
    · subst hj
      rw [Function.update_self] at hd
      cases hd
    · rw [Function.update_of_ne hj] at hd
      exact .inr ⟨hd, lookup_filter_ne hj _⟩
  | disturbed faults =>
    rw [after_quiet _ hnone]
    exact .still ⟨rfl, rfl, fun j d hd => .inr ⟨hd, rfl⟩⟩

/-! ### What comes of a snapshot -/

section Answer

variable {j : Job} {stage : Settling} {goal : Goal}

theorem told_of_value {found : Option String}
    (hanswer : s.answers.lookup j = some (.ok (.value found))) :
    s.told j = Store.Identity.taskId? found := by
  unfold told pending
  rw [hanswer]
  rfl

/-- A job that applies a snapshot takes the storage's answer. -/
theorem applies_of_stored (h : s.Guarded) (hd : s.doing j = some (.settling stage goal))
    (hstep : s.step (.stored j) = some s') :
    ∃ answer t calls settled, s.answers.lookup j = some answer ∧
      s.tracker.Applies stage answer (t, calls, settled) ∧
      (∃ worker cs, s'.tracker = { t with worker, calls := cs }) ∧
      s.Turned j (settled.turn goal).next s' ∧
      ∃ scene, s'.scenes = s.scenes ++ [scene] ∧ scene.calls = calls := by
  have hprepared := h.prepared j stage goal hd
  -- The event is kept as an equation, so that the cases below are those of any event.
  generalize he : Event.stored j = e at hstep
  cases happens_of_step hstep with
  | @call _ k d r hjob hd' htakes =>
    subst he
    cases hjob
    cases hd.symm.trans hd'
    obtain ⟨t, calls, turn⟩ := r
    cases htakes with
    | @stored answer _ hanswer hreply =>
      obtain ⟨⟨t', calls', settled⟩, hsettle, hturn⟩ := Option.map_eq_some_iff.mp hreply
      cases hturn
      have happlies := Tracker.applies_of_settleReply hprepared hsettle
      obtain ⟨cs, htracker⟩ := Tracker.afterCall_fst k t calls (settled.turn goal)
      refine ⟨answer, t, calls, settled, hanswer, happlies, ⟨t.worker, cs, ?_⟩,
        turned_of_takes hd (.stored hanswer hreply), _, scenes_after (s.forget (.call k)) _ _,
        viewCalls_afterCall ..⟩
      rw [after_tracker, htracker]
  | @worker _ r hjob hworks =>
    subst he
    cases hjob
    obtain ⟨t, calls⟩ := r
    cases hworks with
    | @stored answer _ hanswer hreply =>
      obtain ⟨stage', t₁, settled, hd', happlies, htracker, hnext⟩ :=
        applies_of_replyWorker h hreply
      cases hd.symm.trans hd'
      refine ⟨answer, t₁, calls, settled, hanswer, happlies, ⟨t.worker, t₁.calls, ?_⟩,
        hnext ▸ turned_of_works (.stored hanswer hreply), _, scenes_after (s.forget .worker) _ _,
        viewCalls_afterWorker ..⟩
      rw [after_tracker]
      exact htracker
  | channel hjob =>
    subst he
    have huses := usesStorage_of_doing (t := s.tracker) hd
    rw [hjob j rfl] at huses
    cases huses
  | called | left | disturbed => cases he

end Answer

end Session

end TaskTracking
