import TaskTracking.Proofs.Conduct
import TaskTracking.Proofs.Revival

/-! # Who ends the tracking of a task

  A tracked task is ended by a terminal snapshot of it, or by the page, which takes
  it back. Both can be under way at once: a cancel waits for the lock under which a
  snapshot is applied, and a snapshot that has come too late finds no stored id.

  So one of them ends the task and the other does nothing to it. While the storage
  works, whatever snapshots come, whatever the page calls meanwhile, and even if it
  is left, the tracking of a task ends at most once (`Contested.endings`).
-/

namespace TaskTracking

namespace Session

variable {s s' : Session} {e : Event} {es : List Event} {j : Job} {k : Nat} {taskId : String}

/-! ### What is tracked -/

/-- What an event does to the lifecycle and the current task. -/
inductive Tracks (s : Session) (e : Event) (s' : Session) : Prop where
  | keeps (hlifecycle : s'.tracker.lifecycle = s.tracker.lifecycle)
      (hcurrent : s'.tracker.current = s.tracker.current)
  /-- A start begins to create a task. -/
  | creates (hidle : s.tracker.lifecycle = .idle) (hcreating : s'.tracker.lifecycle = .creating)
  /-- A start gives up. -/
  | givesUp {j : Job} {d : Call} (hd : s.doing j = some d) (hstarts : d.starts = true)
      (hidle : s'.tracker.lifecycle = .idle)
  /-- A start has stored an id, or a resume has got a status. -/
  | begins {j : Job} {taskId : String}
      (hd : s.doing j = some (.saving taskId) ∨ s.doing j = some (.fetching taskId))
      (hcurrent : s'.tracker.current = some taskId)
  | ends {taskId : String} (hends : s.Ends taskId e) (hidle : s'.tracker.lifecycle = .idle)
      (hcurrent : s'.tracker.current = none)

/-- A tracker that stands where it stood tracks what it tracked. -/
theorem Tracks.of_stance (h : s'.tracker.stance = s.tracker.stance) : s.Tracks e s' :=
  .keeps (congrArg Stance.lifecycle h) (congrArg (fun x => x.focus.current) h)

theorem ends_of_clearing {snapshot : Snapshot} {applied : Applied} {rest : List Effect}
    {goal : Goal} (hd : s.doing j = some (.settling (.clearing snapshot applied rest) goal)) :
    s.Ends snapshot.id (.stored j) := by
  unfold Ends
  simp only [hd]

theorem ends_of_cancelling (hd : s.doing j = some .cancelling)
    (htracking : s.tracker.lifecycle = .tracking) (hcurrent : s.tracker.current = some taskId) :
    s.Ends taskId (.turn j) := by
  unfold Ends
  simp only [hd]
  exact ⟨htracking, hcurrent⟩

/-- A job that applies a snapshot changes what is tracked only with the last effects. -/
theorem Tracks.of_applies {stage : Settling} {goal : Goal}
    {answer : Except StorageFailure Store.Answer} {t : Tracker} {calls : List ViewCall}
    {settled : Settled} (hd : s.doing j = some (.settling stage goal))
    (happlies : s.tracker.Applies stage answer (t, calls, settled))
    (hlifecycle : s'.tracker.lifecycle = t.lifecycle)
    (hcurrent : s'.tracker.current = t.current) : s.Tracks (.stored j) s' := by
  cases happlies with
  | finished => exact .ends (ends_of_clearing hd) hlifecycle hcurrent
  | _ => exact .keeps hlifecycle hcurrent

theorem Tracks.of_call (h : s.Guarded) {d : Call} {t : Tracker} {calls : List ViewCall}
    {turn : Turn} (hd : s.doing (.call k) = some d) (htakes : s.Takes k d e (t, calls, turn))
    (hstance : s'.tracker.stance = t.stance) : s.Tracks e s' := by
  have hlifecycle : s'.tracker.lifecycle = t.lifecycle := congrArg Stance.lifecycle hstance
  have hcurrent : s'.tracker.current = t.current := congrArg (fun x => x.focus.current) hstance
  obtain ⟨reply, hbrings, hturn⟩ := htakes.callTurn
  cases hturn with
  | enter => exact .of_stance (hstance.trans s.tracker.stance_enterPage)
  | apply => exact .of_stance (hstance.trans (s.tracker.stance_settle _))
  | start hidle =>
    exact .creates hidle (hlifecycle.trans (Tracker.lifecycle_startBackground _))
  | release _ htracking htask =>
    cases hbrings
    exact .ends (ends_of_cancelling hd htracking htask) hlifecycle hcurrent
  | conclude =>
    rw [Tracker.stance_settle] at hstance
    exact .begins (.inr hd) (congrArg (fun x => x.focus.current) hstance)
  | track =>
    rw [Tracker.stance_settle] at hstance
    exact .begins (.inr hd) (congrArg (fun x => x.focus.current) hstance)
  | begin => exact .begins (.inl hd) hcurrent
  | giveUp | revoke => exact .givesUp hd rfl hlifecycle
  | settle hsettle =>
    rw [hbrings.of_store.1]
    exact .of_applies hd (Tracker.applies_of_settleReply (h.prepared _ _ _ hd) hsettle) hlifecycle
      hcurrent
  | _ => exact .keeps hlifecycle hcurrent

theorem tracks_of_step (h : s.Guarded) (hstep : s.step e = some s') : s.Tracks e s' := by
  cases happens_of_step hstep with
  | @call _ i d r hjob hd htakes =>
    obtain ⟨t, calls, turn⟩ := r
    obtain ⟨cs, htracker⟩ := Tracker.afterCall_fst i t calls turn
    refine .of_call h hd htakes ?_
    rw [after_tracker, htracker]
    rfl
  | @worker _ r hjob hworks =>
    obtain ⟨t, calls⟩ := r
    have htracker : ((s.forget .worker).after e (Tracker.afterWorker (t, calls))).tracker = t := by
      rw [after_tracker]
      rfl
    cases hworks with
    | run hrun =>
      cases Tracker.workerTurn_of_runWorker hrun with
      | @take source snapshot rest =>
        have hsettle := Tracker.stance_settle
          { s.tracker with inbox := { s.tracker.inbox with queue := rest } } snapshot
        refine .of_stance ?_
        rw [htracker]
        exact hsettle
      | _ =>
        refine .of_stance ?_
        rw [htracker]
        rfl
    | stored hanswer hreply =>
      obtain ⟨stage, t₁, settled, hd, happlies, ht, _⟩ := applies_of_replyWorker h hreply
      refine .of_applies hd happlies ?_ ?_
      · rw [htracker, ht]
      · rw [htracker, ht]
  -- Nothing else touches the lifecycle or the current task.
  | channel | disturbed => exact .keeps (by rw [after_tracker]) (by rw [after_tracker])
  | called =>
    refine .keeps ?_ ?_ <;>
    · rw [after_tracker]
      rfl
  | left =>
    have hleave : s.tracker.leave.lifecycle = s.tracker.lifecycle ∧
        s.tracker.leave.current = s.tracker.current := by
      unfold Tracker.leave
      dsimp only
      split <;> exact ⟨rfl, rfl⟩
    exact .keeps (by rw [after_tracker]; exact hleave.1) (by rw [after_tracker]; exact hleave.2)

/-- Whatever happens, a tracker that tracks has a current task. -/
theorem current_of_reaches {config : Config} {t : Tracker}
    (hconfig : Tracker.ofConfig config = .ok t) {entries : Store.Entries}
    {allowed : Session → Event → Prop} (hrun : Reaches allowed (opened t entries) s)
    (htracking : s.tracker.lifecycle = .tracking) : s.tracker.current ≠ none := by
  induction hrun with
  | refl =>
    obtain ⟨_, _, rfl⟩ := Tracker.ofConfig_eq_ok hconfig
    cases htracking
  | step e hrun _ hstep ih =>
    cases tracks_of_step (guarded_of_reaches hconfig hrun) hstep with
    | keeps hlifecycle hcurrent =>
      rw [hcurrent]
      exact ih (hlifecycle ▸ htracking)
    | begins _ hcurrent =>
      rw [hcurrent]
      simp
    | creates _ hother | givesUp _ _ hother | ends _ hother =>
      rw [hother] at htracking
      cases htracking

/-! ### A task that can still end in two ways -/

/-- The jobs by which the tracking of the task ends as these events happen. -/
def endings (taskId : String) : List Event → Session → List Job
  | [], _ => []
  | e :: es, s =>
    match s.step e with
    | none => []
    | some s' => (if s.Ends taskId e then e.job?.toList else []) ++ endings taskId es s'

/-- The storage is not disturbed, and no new task gets that id. -/
def Peaceful (taskId : String) (s : Session) (e : Event) : Prop :=
  s.Undisturbed e ∧ s.Unclaimed taskId e

instance (taskId : String) (s : Session) (e : Event) : Decidable (s.Peaceful taskId e) :=
  inferInstanceAs (Decidable (_ ∧ _))

/-- **Invariant.** The task is tracked, the storage works, no start or resume is under way, and
    whoever removes the stored id does so for this task. -/
structure Contested (s : Session) (taskId : String) : Prop where
  guarded : s.Guarded
  works : s.storage.faults = {}
  tracking : s.tracker.lifecycle = .tracking
  current : s.tracker.current = some taskId
  free : ∀ j d, s.doing j = some d →
    d.starts = false ∧ d ≠ .loading ∧ ∀ taskId, d ≠ .fetching taskId
  stored : ∀ x, s.stored = some x → x = taskId
  told : ∀ j snapshot goal, s.doing j = some (.settling (.reading snapshot) goal) →
    s.told j = some snapshot.id → snapshot.id = taskId
  closing : ∀ j snapshot applied rest goal,
    s.doing j = some (.settling (.clearing snapshot applied rest) goal) →
    snapshot.id = taskId ∧ s.stored = none

/-- **Invariant.** The tracking of the task has ended: its id is not stored, and no job will
    track it or end it. -/
structure Ended (s : Session) (taskId : String) : Prop where
  guarded : s.Guarded
  forgotten : s.Forgotten taskId
  unclosed : s.Unclosed taskId
  untracked : s.tracker.lifecycle = .tracking → s.tracker.current ≠ some taskId
  unheld : ∀ j d, s.doing j = some d → d ≠ .saving taskId ∧ d ≠ .fetching taskId ∧
    (d = .loading → s.told j ≠ some taskId)

/-- **Where a page resumes alone and its storage has always worked, every tracked task is
    contested.** -/
theorem Lone.contested (h : s.Lone) (htracking : s.tracker.lifecycle = .tracking)
    (hcurrent : s.tracker.current = some taskId) : s.Contested taskId := by
  obtain ⟨φ, hφ⟩ := h.orderly.phase
  obtain ⟨x, hx⟩ := hφ.is_tracking htracking
  have htask : φ.task = some x := by rcases hx with rfl | rfl | rfl <;> rfl
  have hsame : x = taskId := by
    have hlooks := (hφ.looks.tracked x htask).2.1
    exact Option.some.inj (hlooks.symm.trans hcurrent)
  subst hsame
  have hbusy : s.core.lifecycle ≠ .idle := by
    intro hidle
    have heq : s.tracker.lifecycle = .idle := hidle
    rw [htracking] at heq
    cases heq
  -- A resume that finishes an earlier task waits for an idle tracker.
  have hplain : ∀ j stage goal, s.doing j = some (.settling stage goal) →
      goal.isFinishing = false := by
    intro j stage goal hd
    cases goal with
    | finished => exact absurd ((h.solo.attends j _ hd).idle rfl) hbusy
    | _ => rfl
  refine ⟨⟨hφ.lock, h.orderly.prepared⟩, h.orderly.honest.faults, htracking, hcurrent,
    ?_, ?_, ?_, ?_⟩
  · intro j d hd
    refine ⟨?_, ?_, ?_⟩
    · have hstart := hφ.start
      rw [show s.core.lifecycle = .tracking from htracking] at hstart
      have hnone := hstart.none j
      rw [show s.core.doing j = some d from hd] at hnone
      exact hnone
    · rintro rfl
      exact hbusy (h.solo.attends j _ hd).1
    · rintro y rfl
      exact hbusy (h.solo.attends j _ hd).1
  · intro y hy
    have hstored : φ.stored = some y := hφ.looks.stored.symm.trans hy
    rcases hx with rfl | rfl | rfl
    · exact (Option.some.inj hstored).symm
    · cases hstored
    · cases hstored
  · intro j snapshot goal hd htold
    obtain ⟨_, _, hsettles⟩ := hφ.fits j _ hd
    -- Only what was stored can have been told, and that is the tracked id or none.
    unfold told at htold
    split at htold
    · next found hpending =>
      have hstored := (hsettles.2 found hpending (.inl (hplain j _ _ hd))).mp htold
      rcases hx with rfl | rfl | rfl
      · exact (Option.some.inj hstored).symm
      · cases hstored
      · cases hstored
    · cases htold
  · intro j snapshot applied rest goal hd
    obtain ⟨_, _, hsettles⟩ := hφ.fits j _ hd
    have hclosing := hsettles.2.2.2.2 (hplain j _ _ hd)
    subst hclosing
    cases htask
    exact ⟨rfl, hφ.looks.stored⟩

/-! ### Where a job comes from -/

/-- Where job `j` was before it came to a call that leads to the tracking of a task. -/
def Origin (s : Session) (j : Job) : Call → Prop
  | .creating _ | .loading => s.tracker.lifecycle = .idle
  | .saving _ => ∃ params, s.doing j = some (.creating params)
  | .fetching taskId => s.doing j = some .loading ∧ s.told j = some taskId
  | _ => True

theorem origin_of_takes {d : Call} {t : Tracker} {calls : List ViewCall} {turn : Turn}
    (hd : s.doing (.call k) = some d) (htakes : s.Takes k d e (t, calls, turn)) :
    ∀ d', turn.next = some d' → s.Origin (.call k) d' := by
  intro d' hnext
  have hresume : ∀ t : Tracker, t.lifecycle = s.tracker.lifecycle → t.resume.next = some d' →
      s.Origin (.call k) d' := by
    intro t hlifecycle hnext
    unfold Tracker.resume at hnext
    split at hnext
    · next hidle =>
      cases hnext
      exact hlifecycle.symm.trans hidle
    · cases hnext
  obtain ⟨reply, hbrings, hturn⟩ := htakes.callTurn
  cases hturn with
  | enter => exact hresume _ (congrArg Stance.lifecycle s.tracker.stance_enterPage) hnext
  | resume => exact hresume _ rfl hnext
  | start hidle =>
    cases hnext
    exact hidle
  | found hfound =>
    cases hnext
    exact ⟨hd, (told_of_value hbrings.of_store.2).trans hfound⟩
  | save =>
    cases hnext
    exact ⟨_, hd⟩
  | @settle stage goal _ _ _ settled =>
    -- Whoever applies a snapshot goes on to apply it, or is done.
    cases settled with
    | waiting =>
      cases hnext
      trivial
    | «over» result => cases result <;> cases hnext
  | release | apply | lock | conclude | track | forget | revoke | erase =>
    cases hnext
    trivial
  | _ => cases hnext

theorem origin_of_turned (hjob : e.job? = some j) (hstep : s.step e = some s')
    {d : Call} (hd : s'.doing j = some d) : s.Origin j d := by
  cases happens_of_step hstep with
  | @call _ k d₀ r hjob' hd₀ htakes =>
    cases hjob.symm.trans hjob'
    obtain ⟨t, calls, turn⟩ := r
    rw [(turned_of_takes hd₀ htakes).doing, Function.update_self] at hd
    exact origin_of_takes hd₀ htakes d hd
  | @worker _ r hjob' hworks =>
    cases hjob.symm.trans hjob'
    obtain ⟨t, calls⟩ := r
    rw [(turned_of_works hworks).doing, Function.update_self] at hd
    cases hworker : t.worker with
    | settling stage =>
      rw [hworker] at hd
      cases hd
      trivial
    | _ =>
      rw [hworker] at hd
      cases hd
  | channel hjob' =>
    have huses : j.usesStorage = true := usesStorage_of_doing hd
    rw [hjob' j hjob] at huses
    cases huses
  | called | left | disturbed => cases hjob

/-- Every job has come to what it is at, or was there before. -/
theorem origin_of_step (h : s.Guarded) (hstep : s.step e = some s') {d : Call}
    (hd : s'.doing j = some d) :
    d.isNew = true ∨ s.doing j = some d ∧ s'.told j = s.told j ∨
      s.Turned j (some d) s' ∧ s.Causes e j d ∧ s.Origin j d := by
  cases h.changes hstep with
  | @turned i next hjob hturned hcauses =>
    have hdoing := hd
    rw [hturned.doing] at hdoing
    by_cases hi : j = i
    · subst hi
      rw [Function.update_self] at hdoing
      subst hdoing
      exact .inr (.inr ⟨hturned, hcauses d rfl, origin_of_turned hjob hstep hd⟩)
    · rw [Function.update_of_ne hi] at hdoing
      exact .inr (.inl ⟨hdoing, told_of_lookup (hturned.others j hi)⟩)
  | still hstill =>
    rcases hstill.doing j d hd with hnew | ⟨hdoing, hlookup⟩
    · exact .inl hnew
    · exact .inr (.inl ⟨hdoing, told_of_lookup hlookup⟩)

/-! ### While the task is tracked -/

namespace Contested

/-- A tracker that tracks begins nothing, and nobody is about to. -/
theorem free_step (h : s.Contested taskId) (hstep : s.step e = some s') {d : Call}
    (hd : s'.doing j = some d) :
    d.starts = false ∧ d ≠ .loading ∧ ∀ taskId, d ≠ .fetching taskId := by
  rcases origin_of_step h.guarded hstep hd with hnew | ⟨hd, _⟩ | ⟨_, _, horigin⟩
  · cases d with
    | creating | saving | loading | fetching => cases hnew
    | _ => exact ⟨rfl, nofun, nofun⟩
  · exact h.free j d hd
  · cases d with
    | creating | loading =>
      have hidle : s.tracker.lifecycle = .idle := horigin
      rw [h.tracking] at hidle
      cases hidle
    | saving =>
      obtain ⟨params, hd⟩ := horigin
      have hstarts := (h.free j _ hd).1
      cases hstarts
    | fetching => exact absurd rfl (h.free j _ horigin.1).2.1
    | _ => exact ⟨rfl, nofun, nofun⟩

/-- No id comes to be stored. -/
theorem not_stored (h : s.Contested taskId) (hstep : s.step e = some s') {x : String}
    (hnot : s.stored ≠ some x) : s'.stored ≠ some x := by
  cases h.guarded.changes hstep with
  | @turned j next _ hturned _ =>
    refine stored_of_turned hturned ?_ hnot
    intro hnext
    have hsaving : s'.doing j = some (.saving x) := by
      rw [hturned.doing, Function.update_self, hnext]
    have hstarts := (h.free_step hstep hsaving).1
    cases hstarts
  | still hstill => exact hstill.stored_eq ▸ hnot

theorem stored_eq_none (h : s.Contested taskId) (hstep : s.step e = some s')
    (hnone : s.stored = none) : s'.stored = none := by
  refine Option.eq_none_iff_forall_ne_some.mpr ?_
  intro x
  apply h.not_stored hstep
  rw [hnone]
  simp

/-- No other task ends. -/
theorem eq_of_ends (h : s.Contested taskId) {x : String} (hends : s.Ends x e) : x = taskId := by
  cases hends.by_whom with
  | snapshot hd hid =>
    rw [← hid]
    exact (h.closing _ _ _ _ _ hd).1
  | page _ _ hcurrent => exact Option.some.inj (hcurrent.symm.trans h.current)

/-- **A contested task stays so until it ends.** -/
theorem step (h : s.Contested taskId) (hundisturbed : s.Undisturbed e)
    (hstep : s.step e = some s') : s.Ends taskId e ∨ s'.Contested taskId := by
  -- The task stays the tracked one, or the event ends it; nobody else may change that.
  cases tracks_of_step h.guarded hstep with
  | keeps hlifecycle hcurrent =>
    right
    refine ⟨h.guarded.step hstep, (faults_of_step hundisturbed hstep).trans h.works,
      hlifecycle.trans h.tracking, hcurrent.trans h.current, ?_, ?_, ?_, ?_⟩
    · intro j d hd
      exact h.free_step hstep hd
    · intro x hx
      by_contra hne
      exact h.not_stored hstep (fun hstored => hne (h.stored x hstored)) hx
    · intro j snapshot goal hd htold
      rcases origin_of_step h.guarded hstep hd with hnew | ⟨hd, heq⟩ | ⟨hturned, _, _⟩
      · cases hnew
      · exact h.told j snapshot goal hd (heq ▸ htold)
      · exact h.stored _ (told_of_asked rfl hturned htold)
    · intro j snapshot applied rest goal hd
      rcases origin_of_step h.guarded hstep hd with hnew | ⟨hd, _⟩ | ⟨hturned, hcauses, _⟩
      · cases hnew
      · obtain ⟨hid, hnone⟩ := h.closing j _ _ _ _ hd
        exact ⟨hid, h.stored_eq_none hstep hnone⟩
      · -- What was told is the tracked id, and this turn has it removed.
        obtain ⟨_, hreading, _, htold⟩ := hcauses
        refine ⟨h.told j snapshot goal hreading htold, ?_⟩
        change Store.Identity.taskId? s'.found = none
        rw [hturned.found h.works]
        rfl
  | creates hidle =>
    rw [h.tracking] at hidle
    cases hidle
  | givesUp hd hstarts =>
    rw [(h.free _ _ hd).1] at hstarts
    cases hstarts
  | begins hd =>
    rcases hd with hd | hd
    · have hstarts := (h.free _ _ hd).1
      cases hstarts
    · exact absurd rfl ((h.free _ _ hd).2.2 _)
  | ends hends => exact .inl (h.eq_of_ends hends ▸ hends)

end Contested

/-! ### When it ends -/

theorem idle_of_ends (h : s.Guarded) (hends : s.Ends taskId e) (hstep : s.step e = some s') :
    s'.tracker.lifecycle = .idle := by
  cases hends.by_whom with
  | snapshot hd =>
    obtain ⟨_, t, _, _, _, happlies, ⟨_, _, htracker⟩, _⟩ := applies_of_stored h hd hstep
    rw [htracker]
    cases happlies
    rfl
  | page hd htracking hcurrent =>
    obtain ⟨k, rfl⟩ := eq_call_of_doing hd (by rintro _ ⟨⟩)
    obtain ⟨t, calls, turn, htakes, htook⟩ := took_of_step hd rfl hstep
    cases htakes with
    | run hrun =>
      simp only [Tracker.runCall] at hrun
      split at hrun
      · cases hrun
      · simp only [Tracker.release, htracking, hcurrent, ↓reduceIte, Option.some.injEq] at hrun
        cases hrun
        exact htook.lifecycle

/-- **The end of a contested task leaves nothing by which it could end again.** -/
theorem Contested.ended (h : s.Contested taskId) (hends : s.Ends taskId e)
    (hstep : s.step e = some s') : s'.Ended taskId := by
  have hstored : s'.stored ≠ some taskId := by
    cases hends.by_whom with
    | snapshot hd =>
      rw [h.stored_eq_none hstep (h.closing _ _ _ _ _ hd).2]
      simp
    | page hd =>
      have hturned := (released hd h.tracking h.current hstep).2
      change Store.Identity.taskId? s'.found ≠ some taskId
      rw [hturned.found h.works]
      simp [Call.leaving, Store.Identity.taskId?]
  have hidle := idle_of_ends h.guarded hends hstep
  refine ⟨h.guarded.step hstep, ⟨hstored, ?_⟩, unclosed_of_ends h.guarded hends hstep, ?_, ?_⟩
  · intro j snapshot goal hd
    obtain ⟨_, hlocking⟩ := alone_of_ends h.guarded hends hstep j _ goal hd
    cases hlocking
  · intro htracking
    rw [hidle] at htracking
    cases htracking
  · intro j d hd
    obtain ⟨hstarts, hloading, hfetching⟩ := h.free_step hstep hd
    refine ⟨?_, hfetching taskId, fun heq => absurd heq hloading⟩
    rintro rfl
    cases hstarts

/-! ### After its end -/

namespace Ended

theorem not_ends (h : s.Ended taskId) : ¬ s.Ends taskId e := by
  intro hends
  cases hends.by_whom with
  | snapshot hd hid => exact h.unclosed _ _ _ _ _ hd hid
  | page _ htracking hcurrent => exact h.untracked htracking hcurrent

theorem step (h : s.Ended taskId) (hunclaimed : s.Unclaimed taskId e)
    (hstep : s.step e = some s') : s'.Ended taskId := by
  have hunheld : ∀ j d, s'.doing j = some d → d ≠ .saving taskId ∧ d ≠ .fetching taskId ∧
      (d = .loading → s'.told j ≠ some taskId) := by
    intro j d hd
    -- The call is new, was where it is before, or has just come there.
    rcases origin_of_step h.guarded hstep hd with hnew | ⟨hd, htold⟩ | ⟨hturned, hcauses, horigin⟩
    · cases d with
      | saving | loading | fetching => cases hnew
      | _ => exact ⟨nofun, nofun, nofun⟩
    · rw [htold]
      exact h.unheld j d hd
    · refine ⟨?_, ?_, ?_⟩
      · rintro rfl
        have hcreated : e = .answered j (.created (.ok taskId)) := hcauses
        subst hcreated
        exact hunclaimed rfl
      · rintro rfl
        exact (h.unheld j _ horigin.1).2.2 rfl horigin.2
      · rintro rfl htold
        exact h.forgotten.stored (told_of_asked rfl hturned htold)
  refine ⟨h.guarded.step hstep, h.forgotten.step h.guarded hunclaimed hstep,
    h.unclosed.step h.guarded (h.forgotten.untold e) hstep, ?_, hunheld⟩
  intro htracking hcurrent
  cases tracks_of_step h.guarded hstep with
  | keeps hlifecycle hsame =>
    exact h.untracked (hlifecycle ▸ htracking) (hsame ▸ hcurrent)
  | begins hd htask =>
    cases htask.symm.trans hcurrent
    rcases hd with hd | hd
    · exact (h.unheld _ _ hd).1 rfl
    · exact (h.unheld _ _ hd).2.1 rfl
  | creates _ hother | givesUp _ _ hother | ends _ hother =>
    rw [hother] at htracking
    cases htracking

theorem endings (h : s.Ended taskId) (hrun : play (Peaceful taskId) es s = some s') :
    endings taskId es s = [] := by
  induction es generalizing s with
  | nil => rfl
  | cons e es ih =>
    obtain ⟨hpeaceful, s₁, hstep, hrest⟩ := play_cons_iff.mp hrun
    rw [Session.endings, hstep]
    dsimp only
    rw [if_neg h.not_ends, ih (h.step hpeaceful.2 hstep) hrest]
    rfl

end Ended

/-! ### Races -/

theorem job_of_ends (hends : s.Ends taskId e) : ∃ j, e.job? = some j := by
  cases hends.by_whom with
  | @snapshot j | @page j => exact ⟨j, rfl⟩

/-- **The tracking of a contested task ends at most once.** -/
theorem Contested.endings (h : s.Contested taskId)
    (hrun : play (Peaceful taskId) es s = some s') :
    Session.endings taskId es s = [] ∧ s'.Contested taskId ∨
      ∃ j, Session.endings taskId es s = [j] := by
  induction es generalizing s with
  | nil =>
    rw [play, Option.some.injEq] at hrun
    exact .inl ⟨rfl, hrun ▸ h⟩
  | cons e es ih =>
    obtain ⟨hpeaceful, s₁, hstep, hrest⟩ := play_cons_iff.mp hrun
    rw [Session.endings, hstep]
    dsimp only
    by_cases hends : s.Ends taskId e
    · obtain ⟨j, hjob⟩ := job_of_ends hends
      right
      refine ⟨j, ?_⟩
      rw [if_pos hends, hjob, (h.ended hends hstep).endings hrest]
      rfl
    · rw [if_neg hends, List.nil_append]
      exact ih ((h.step hpeaceful.1 hstep).resolve_left hends) hrest

/-- **A cancel that gets its turn, or the snapshot that came before it, ends the task.** -/
theorem Contested.endings_of_turn (h : s.Contested taskId)
    (hd : s.doing (.call k) = some .cancelling)
    (hrun : play (Peaceful taskId) es s = some s') (hturn : turnsOf k es s ≠ []) :
    ∃ j, Session.endings taskId es s = [j] := by
  induction es generalizing s with
  | nil => exact absurd rfl hturn
  | cons e es ih =>
    obtain ⟨hpeaceful, s₁, hstep, hrest⟩ := play_cons_iff.mp hrun
    rw [Session.endings, hstep]
    dsimp only
    by_cases hends : s.Ends taskId e
    · obtain ⟨j, hjob⟩ := job_of_ends hends
      refine ⟨j, ?_⟩
      rw [if_pos hends, hjob, (h.ended hends hstep).endings hrest]
      rfl
    · rw [if_neg hends, List.nil_append]
      -- The cancel would end the task if this were its turn, so it still waits.
      have hother : e.job? ≠ some (.call k) := by
        intro hjob
        obtain ⟨_, _, _, htakes, _⟩ := takes_of_step hd hjob hstep
        cases htakes with
        | run => exact hends (ends_of_cancelling hd h.tracking h.current)
        | stored _ hreply => simp [Tracker.replyCall] at hreply
        | answered _ hreply => simp [Tracker.replyCall] at hreply
      have hdoing := (steady_of_step (by rw [hd]; rfl) hother hstep).1
      refine ih ((h.step hpeaceful.1 hstep).resolve_left hends) (hdoing.trans hd) hrest ?_
      simpa [turnsOf, hstep, hother] using hturn

end Session

end TaskTracking
