import TaskTracking.Proofs.Handover
import TaskTracking.Proofs.Sparing

/-! # Snapshots that come too late

  Once the tracking of a task has ended, its snapshots can still come: they wait in
  the queue, or the channels deliver them again. Whether one is applied is decided
  by the stored id alone, at the moment it is read. So the end of a task is as good
  as the removal of its id: a late snapshot is ignored exactly if the storage does
  not tell that id any more (`Session.ignores_along_iff`).

  The storage may fail at any time here, and calls may overlap in any way.
-/

namespace TaskTracking

namespace Session

/-! ### The law -/

/-- The event ends the tracking of the task: the last effects of a terminal snapshot of
    it are carried out, or the page takes it back. -/
def Ends (s : Session) (taskId : String) : Event → Prop
  | .stored job =>
    match s.doing job with
    | some (.settling (.clearing snapshot _ _) _) => snapshot.id = taskId
    | _ => False
  | .turn job =>
    match s.doing job with
    | some .cancelling => s.tracker.lifecycle = .tracking ∧ s.tracker.current = some taskId
    | _ => False
  | _ => False

instance (s : Session) (taskId : String) (e : Event) : Decidable (s.Ends taskId e) := by
  induction e using Event.casesOn with
  | stored job =>
    dsimp only [Ends]
    generalize s.doing job = d
    induction d using Option.casesOn with
    | none => exact instDecidableFalse
    | some d =>
      induction d using Call.casesOn with
      | settling stage goal => induction stage using Settling.casesOn <;> exact inferInstance
      | _ => exact instDecidableFalse
  | turn job =>
    dsimp only [Ends]
    generalize s.doing job = d
    induction d using Option.casesOn with
    | none => exact instDecidableFalse
    | some d => induction d using Call.casesOn <;> exact inferInstance
  | _ => exact instDecidableFalse

/-- By whom the event ends the tracking of the task. -/
inductive EndsBy (s : Session) (taskId : String) : Event → Prop where
  | snapshot {j : Job} {snapshot : Snapshot} {applied : Applied} {rest : List Effect} {goal : Goal}
      (hd : s.doing j = some (.settling (.clearing snapshot applied rest) goal))
      (hid : snapshot.id = taskId) : EndsBy s taskId (.stored j)
  | page {j : Job} (hd : s.doing j = some .cancelling)
      (htracking : s.tracker.lifecycle = .tracking)
      (hcurrent : s.tracker.current = some taskId) : EndsBy s taskId (.turn j)

theorem Ends.by_whom {s : Session} {taskId : String} {e : Event} (h : s.Ends taskId e) :
    s.EndsBy taskId e := by
  cases e with
  | stored j =>
    simp only [Ends] at h
    split at h
    · next hd => exact .snapshot hd h
    · exact h.elim
  | turn j =>
    simp only [Ends] at h
    split at h
    · next hd => exact .page hd h.1 h.2
    · exact h.elim
  | _ => exact h.elim

/-- Job `j` has ignored its snapshot: it has only given the lock back. -/
structure Ignored (s : Session) (j : Job) (s' : Session) : Prop where
  tracker : ∃ worker calls, s'.tracker = { s.tracker with worker, calls, locked := false }
  storage : s'.storage = s.storage
  others : ∀ i, i ≠ j → s'.doing i = s.doing i
  «over» : s'.doing j = none
  silent : ∃ scene, s'.scenes = s.scenes ++ [scene] ∧ scene.calls = []

/-- An event that carries on with a snapshot of the task ignores it. -/
def Ignores (taskId : String) (s : Session) : Event → Prop
  | .stored job =>
    match s.doing job with
    | some (.settling stage _) =>
      stage.snapshot.id = taskId → ∀ s', s.step (.stored job) = some s' → s.Ignored job s'
    | _ => True
  | _ => True

/-- The id is not what the storage tells a job that reads it for a snapshot of the task. -/
def Untold (taskId : String) (s : Session) : Event → Prop
  | .stored job =>
    match s.doing job with
    | some (.settling (.reading snapshot) _) => snapshot.id = taskId → s.told job ≠ some taskId
    | _ => True
  | _ => True

instance (taskId : String) (s : Session) (e : Event) : Decidable (s.Untold taskId e) := by
  induction e using Event.casesOn with
  | stored job =>
    dsimp only [Untold]
    generalize s.doing job = d
    induction d using Option.casesOn with
    | none => exact instDecidableTrue
    | some d =>
      induction d using Call.casesOn with
      | settling stage goal => induction stage using Settling.casesOn <;> exact inferInstance
      | _ => exact instDecidableTrue
  | _ => exact instDecidableTrue

/-- The tasks whose results were rendered, in that order. -/
def rendered (s : Session) : List String :=
  (s.scenes.flatMap Scene.calls).filterMap fun
    | .renderResult taskId _ => some taskId
    | _ => none

/-! ### One answer -/

section Answer

variable {s s' : Session} {j : Job} {stage : Settling} {goal : Goal} {taskId : String} {e : Event}

/-- **A snapshot that is read is ignored exactly if the storage does not tell its id.** -/
theorem ignored_iff {snapshot : Snapshot} (h : s.Guarded)
    (hd : s.doing j = some (.settling (.reading snapshot) goal))
    (hstep : s.step (.stored j) = some s') :
    s.Ignored j s' ↔ s.told j ≠ some snapshot.id := by
  obtain ⟨answer, t, calls, settled, hanswer, happlies, ⟨worker, cs, htracker⟩, hturned,
    scene, hscenes, hcalls⟩ := applies_of_stored h hd hstep
  have hothers : ∀ i, i ≠ j → s'.doing i = s.doing i := by
    intro i hne
    rw [hturned.doing, Function.update_of_ne hne]
  -- A job that is done with its snapshot waits for nothing more.
  have hignored : ∀ result, settled = .over result →
      (∃ worker calls, s'.tracker = { s.tracker with worker, calls, locked := false }) →
      calls = [] → s.Ignored j s' := by
    rintro result rfl htracker rfl
    have hnext : (Settled.turn goal (.over result)).next = none := by cases result <;> rfl
    rw [hnext] at hturned
    exact ⟨htracker, hturned.storage, hothers, by rw [hturned.doing, Function.update_self],
      scene, hscenes, hcalls⟩
  cases happlies with
  | failed =>
    refine iff_of_true (hignored _ rfl ⟨worker, cs, htracker⟩ rfl) ?_
    unfold told pending
    rw [hanswer]
    exact nofun
  | ignored hother =>
    refine iff_of_true (hignored _ rfl ⟨worker, cs, htracker⟩ rfl) ?_
    rw [told_of_value hanswer]
    exact hother
  | redrawn hsame hrun =>
    have htold := told_of_value hanswer
    refine iff_of_false (fun hignored => ?_) (fun hne => hne (htold.trans hsame))
    obtain ⟨scene', hscenes', hsilent⟩ := hignored.silent
    cases List.append_cancel_left (hscenes.symm.trans hscenes')
    rw [hsilent] at hcalls
    cases hcalls
  | closed hsame hend =>
    have htold := told_of_value hanswer
    refine iff_of_false (fun hignored => ?_) (fun hne => hne (htold.trans hsame))
    have hover := hignored.over
    rw [hturned.doing, Function.update_self] at hover
    cases hover

end Answer

/-! ### Runs after the end -/

section Later

variable {s s' : Session} {j : Job} {taskId : String} {e : Event}

/-- No job has the stored id removed for a snapshot of the task. -/
def Unclosed (s : Session) (taskId : String) : Prop :=
  ∀ j snapshot applied rest goal,
    s.doing j = some (.settling (.clearing snapshot applied rest) goal) → snapshot.id ≠ taskId

theorem Unclosed.step (hunclosed : s.Unclosed taskId) (h : s.Guarded)
    (huntold : s.Untold taskId e) (hstep : s.step e = some s') : s'.Unclosed taskId := by
  intro i snapshot applied rest goal hd
  cases h.changes hstep with
  | @turned j next hjob hturned hcauses =>
    rw [hturned.doing] at hd
    -- A job that has just come to remove the id was told it, which the event rules out.
    by_cases hi : i = j
    · subst hi
      rw [Function.update_self] at hd
      obtain ⟨rfl, hreading, _, htold⟩ := hcauses _ hd
      rintro rfl
      simp only [Untold, hreading] at huntold
      exact huntold trivial htold
    · rw [Function.update_of_ne hi] at hd
      exact hunclosed i snapshot applied rest goal hd
  | still hstill =>
    rcases hstill.doing i _ hd with hnew | ⟨hd', _⟩
    · cases hnew
    · exact hunclosed i snapshot applied rest goal hd'

theorem ignores_iff_untold (h : s.Guarded) (hunclosed : s.Unclosed taskId)
    (hstep : s.step e = some s') : s.Ignores taskId e ↔ s.Untold taskId e := by
  cases e with
  | stored j =>
    simp only [Ignores, Untold]
    cases hd : s.doing j with
    | none => exact Iff.rfl
    | some d =>
      cases d with
      | settling stage goal =>
        cases stage with
        -- Whoever waits for the lock has asked for nothing yet.
        | locking snapshot =>
          obtain ⟨_, _, _, _, _, happlies, _⟩ := applies_of_stored h hd hstep
          cases happlies
        | reading snapshot =>
          have hiff := ignored_iff h hd hstep
          constructor
          · rintro hignores rfl
            exact hiff.mp (hignores rfl s' hstep)
          · rintro huntold rfl s'' hstep'
            cases hstep.symm.trans hstep'
            exact hiff.mpr (huntold rfl)
        | clearing snapshot applied rest =>
          exact iff_of_true (fun hid => absurd hid (hunclosed j _ _ _ _ hd)) trivial
      | _ => exact Iff.rfl
  | _ => exact Iff.rfl

/-- The events are ignored one by one. -/
theorem ignores_along_of_unclosed {es : List Event} (h : s.Guarded)
    (hunclosed : s.Unclosed taskId) (hrun : play (Unclaimed taskId) es s = some s') :
    Along (Ignores taskId) es s ↔ Along (Untold taskId) es s := by
  -- No job comes to remove the id as long as nobody is told it.
  refine along_congr (I := fun s => s.Guarded ∧ s.Unclosed taskId) ?_ ?_ ⟨h, hunclosed⟩ hrun
  · rintro s e s' ⟨h, hunclosed⟩ _ hstep
    exact ignores_iff_untold h hunclosed hstep
  · rintro s e s' ⟨h, hunclosed⟩ _ huntold hstep
    exact ⟨h.step hstep, hunclosed.step h huntold hstep⟩

/-! ### After a removal -/

/-- The id of the task is not stored, and nobody who reads for a snapshot is told it. -/
structure Forgotten (s : Session) (taskId : String) : Prop where
  stored : s.stored ≠ some taskId
  told : ∀ j snapshot goal, s.doing j = some (.settling (.reading snapshot) goal) →
    s.told j ≠ some taskId

theorem told_of_lookup (hlookup : s'.answers.lookup j = s.answers.lookup j) :
    s'.told j = s.told j := by
  unfold told pending
  rw [hlookup]

theorem Forgotten.step (hforgotten : s.Forgotten taskId) (h : s.Guarded)
    (hunclaimed : s.Unclaimed taskId e) (hstep : s.step e = some s') : s'.Forgotten taskId := by
  refine ⟨not_stored_step h hunclaimed hstep hforgotten.stored, fun i snapshot goal hd => ?_⟩
  cases h.changes hstep with
  | @turned j next _ hturned _ =>
    rw [hturned.doing] at hd
    -- What a job is told that begins to read is what is stored at that moment.
    by_cases hi : i = j
    · subst hi
      rw [Function.update_self] at hd
      subst hd
      exact fun htold => hforgotten.stored (told_of_asked rfl hturned htold)
    · rw [Function.update_of_ne hi] at hd
      rw [told_of_lookup (hturned.others i hi)]
      exact hforgotten.told i snapshot goal hd
  | still hstill =>
    rcases hstill.doing i _ hd with hnew | ⟨hd', hlookup⟩
    · cases hnew
    · rw [told_of_lookup hlookup]
      exact hforgotten.told i snapshot goal hd'

theorem Forgotten.untold (hforgotten : s.Forgotten taskId) (e : Event) : s.Untold taskId e := by
  unfold Untold
  split
  · split
    · next hd => exact fun _ => hforgotten.told _ _ _ hd
    · trivial
  · trivial

/-- What is not stored any more is never told again. -/
theorem Forgotten.along {es : List Event} (hforgotten : s.Forgotten taskId) (h : s.Guarded)
    (hrun : play (Unclaimed taskId) es s = some s') : Along (Untold taskId) es s := by
  induction es generalizing s with
  | nil => trivial
  | cons e es ih =>
    obtain ⟨hunclaimed, s₁, hstep, hrest⟩ := play_cons_iff.mp hrun
    refine ⟨hforgotten.untold e, ?_⟩
    rw [hstep]
    rintro _ ⟨⟩
    exact ih (hforgotten.step h hunclaimed hstep) (h.step hstep) hrest

/-! ### The end of a task -/

/-- When the tracking of a task ends, nobody else reads or removes the stored id: the lock
    is given back, or taken by the call that cancels the task. -/
theorem alone_of_ends (h : s.Guarded) (hends : s.Ends taskId e) (hstep : s.step e = some s') :
    ∀ j stage goal, s'.doing j = some (.settling stage goal) →
      ∃ snapshot, stage = .locking snapshot := by
  have h' := h.step hstep
  have hnobody : ∀ j stage goal, s'.doing j = some (.settling stage goal) →
      (s'.doing j).any Call.holds = false → ∃ snapshot, stage = .locking snapshot := by
    intro j stage goal hd hholds
    rw [hd] at hholds
    cases stage with
    | locking snapshot => exact ⟨snapshot, rfl⟩
    | _ => cases hholds
  cases hends.by_whom with
  | snapshot hd =>
    -- The lock is given back with the last effects, so nobody holds it now.
    obtain ⟨_, t, _, _, _, happlies, ⟨_, _, htracker⟩, _⟩ := applies_of_stored h hd hstep
    have hunlocked : s'.tracker.locked = false := by
      rw [htracker]
      cases happlies
      rfl
    have hlock := h'.lock
    rw [hunlocked] at hlock
    intro j stage goal hd'
    exact hnobody j stage goal hd' (hlock.none j)
  | @page i hd htracking hcurrent =>
    -- The cancel could take the lock, so nobody held it; now the cancel does.
    obtain ⟨hunlocked, hturned⟩ := released hd htracking hcurrent hstep
    intro j stage goal hd'
    have hlock := h.lock
    rw [hunlocked] at hlock
    refine hnobody j stage goal hd' ?_
    rw [hturned.doing] at hd' ⊢
    by_cases hj : j = i
    · subst hj
      rw [Function.update_self] at hd'
      cases hd'
    · rw [Function.update_of_ne hj]
      exact hlock.none j

/-! ### Results -/

/-- No turn of a call renders a result, unless it carries out the effects of a snapshot. -/
theorem not_renders_of_takes {k : Nat} {d : Call} {t : Tracker} {calls : List ViewCall}
    {turn : Turn} (htakes : s.Takes k d e (t, calls, turn))
    (hother : ∀ stage goal, e = .stored (.call k) → d ≠ .settling stage goal) :
    ∀ result, .renderResult taskId result ∉ calls := by
  obtain ⟨_, hbrings, hturn⟩ := htakes.callTurn
  cases hturn with
  | settle => exact absurd rfl (hother _ _ hbrings.of_store.1)
  | withdraw _ hnotices =>
    intro result hmem
    obtain ⟨_, hnotice⟩ := hnotices _ hmem
    cases hnotice
  | _ => simp [Tracker.beginTracking, Tracker.giveUp]

theorem not_renders_of_runWorker {t : Tracker} {calls : List ViewCall}
    (hrun : s.tracker.runWorker = some (t, calls)) :
    ∀ result, .renderResult taskId result ∉ calls := by
  cases Tracker.workerTurn_of_runWorker hrun <;> simp

/-- While nobody removes the stored id for a snapshot of the task, no result of it is
    rendered. -/
theorem Unclosed.not_renders (hunclosed : s.Unclosed taskId) (h : s.Guarded)
    (hstep : s.step e = some s') :
    ∃ scene, s'.scenes = s.scenes ++ [scene] ∧
      ∀ result, .renderResult taskId result ∉ scene.calls := by
  by_cases hsettles : ∃ j stage goal, e = .stored j ∧ s.doing j = some (.settling stage goal)
  · obtain ⟨j, stage, goal, rfl, hd⟩ := hsettles
    obtain ⟨_, t, calls, _, _, happlies, _, _, scene, hscenes, rfl⟩ := applies_of_stored h hd hstep
    refine ⟨scene, hscenes, fun result hmem => ?_⟩
    -- Of all that can come of a snapshot only its last effects render a result, and that of
    -- its own task.
    generalize hcalls : scene.calls = calls at happlies hmem
    cases happlies with
    | @finished snapshot =>
      refine hunclosed j _ _ _ _ hd ?_
      unfold Snapshot.closing at hmem
      split at hmem <;> simp at hmem
      exact hmem.1.symm
    | _ => simp at hmem
  · have hother : ∀ j stage goal, e = .stored j → s.doing j ≠ some (.settling stage goal) :=
      fun j stage goal he hd => hsettles ⟨j, stage, goal, he, hd⟩
    cases happens_of_step hstep with
    | @call _ k d r hjob hd htakes =>
      obtain ⟨t, calls, turn⟩ := r
      refine ⟨_, scenes_after (s.forget (.call k)) _ _, ?_⟩
      dsimp only
      rw [viewCalls_afterCall]
      exact not_renders_of_takes htakes fun stage goal he heq => hother _ stage goal he (heq ▸ hd)
    | @worker _ r hjob hworks =>
      obtain ⟨t, calls⟩ := r
      refine ⟨_, scenes_after (s.forget .worker) _ _, ?_⟩
      dsimp only
      rw [viewCalls_afterWorker]
      cases hworks with
      | run hrun => exact not_renders_of_runWorker hrun
      | stored _ hreply =>
        obtain ⟨stage, _, _, hsettling, _⟩ := Tracker.replyWorker_spec hreply
        refine absurd ?_ (hother .worker stage .applied rfl)
        change s.tracker.worker.doing = _
        rw [hsettling]
        rfl
    | @channel _ b selector inbox outputs hjob hbeside hchannels =>
      -- The channels show nothing.
      have hscenes : b.scenes = s.scenes := by
        unfold scenes
        rw [hbeside.history]
      refine ⟨_, (scenes_after b _ _).trans (congrArg (· ++ _) hscenes), fun result hmem => ?_⟩
      obtain ⟨o, ho, hview⟩ := List.mem_filterMap.mp hmem
      have hchannel := hchannels o ho
      cases o <;> simp_all [isOfChannels]
    | called | left | disturbed => exact ⟨_, scenes_after _ _ _, fun _ => List.not_mem_nil⟩

theorem Unclosed.count_rendered (hunclosed : s.Unclosed taskId) (h : s.Guarded)
    (hstep : s.step e = some s') : s'.rendered.count taskId = s.rendered.count taskId := by
  obtain ⟨scene, hscenes, hnone⟩ := hunclosed.not_renders h hstep
  unfold rendered
  rw [hscenes, List.flatMap_append, List.filterMap_append, List.count_append,
    Nat.add_eq_left, List.count_eq_zero, List.flatMap_singleton]
  intro hmem
  obtain ⟨call, hcall, hrenders⟩ := List.mem_filterMap.mp hmem
  split at hrenders <;> cases hrenders
  exact hnone _ hcall

theorem count_rendered_along {es : List Event} (h : s.Guarded) (hunclosed : s.Unclosed taskId)
    (huntold : Along (Untold taskId) es s) (hrun : play (Unclaimed taskId) es s = some s') :
    s'.rendered.count taskId = s.rendered.count taskId := by
  induction es generalizing s with
  | nil =>
    rw [play, Option.some.injEq] at hrun
    rw [hrun]
  | cons e es ih =>
    obtain ⟨_, s₁, hstep, hrest⟩ := play_cons_iff.mp hrun
    obtain ⟨huntold, hlater⟩ := huntold
    rw [ih (h.step hstep) (hunclosed.step h huntold hstep) (hlater s₁ hstep) hrest]
    exact hunclosed.count_rendered h hstep

/-- Nobody removes the stored id for a snapshot of the task just after its end. -/
theorem unclosed_of_ends (h : s.Guarded) (hends : s.Ends taskId e) (hstep : s.step e = some s') :
    s'.Unclosed taskId := by
  intro j snapshot applied rest goal hd
  obtain ⟨_, hlocking⟩ := alone_of_ends h hends hstep j _ goal hd
  cases hlocking

/-- **A task that has ended is not revived.** After the tracking of a task has ended, in
    any session and whatever the storage does, every snapshot of the task is ignored
    exactly if none is read while the storage tells the id of the task. If its id was not
    stored any more at the end, none is, and no further result of it is rendered. -/
theorem ignores_along_iff {config : Config} {t : Tracker}
    (hconfig : Tracker.ofConfig config = .ok t)
    {entries : Store.Entries} {s₀ s₁ : Session} {es : List Event}
    (hrun : Reaches (fun _ _ => True) (opened t entries) s₀) (hends : s₀.Ends taskId e)
    (hstep : s₀.step e = some s₁) (hlater : play (Unclaimed taskId) es s₁ = some s) :
    (Along (Ignores taskId) es s₁ ↔ Along (Untold taskId) es s₁) ∧
      (s₁.stored ≠ some taskId →
        Along (Ignores taskId) es s₁ ∧ s.rendered.count taskId = s₁.rendered.count taskId) := by
  have h₀ := guarded_of_reaches hconfig hrun
  have h₁ := h₀.step hstep
  have hunclosed := unclosed_of_ends h₀ hends hstep
  have hiff := ignores_along_of_unclosed h₁ hunclosed hlater
  refine ⟨hiff, fun hstored => ?_⟩
  -- At the end itself nobody reads, so that the removal of the id is all it takes.
  have hforgotten : s₁.Forgotten taskId := by
    refine ⟨hstored, fun j snapshot goal hd => ?_⟩
    obtain ⟨_, hlocking⟩ := alone_of_ends h₀ hends hstep j _ goal hd
    cases hlocking
  have huntold := hforgotten.along h₁ hlater
  exact ⟨hiff.mpr huntold, count_rendered_along h₁ hunclosed huntold hlater⟩

end Later

/-! ### A page that is told the end of its task twice -/

/-- The last snapshot of a task. -/
def lastSnapshot : Snapshot := { id := "task", status := .completed }

/-- A page tracks a task and applies its last snapshot, up to the removal of the id; the
    storage may fail from the moment at which the task is tracked. -/
def ending (faults : Scenario.Faults) : List Event :=
  [.called 0 (.starting .null), .turn (.call 0), .answered (.call 0) (.created (.ok "task")),
    .stored (.call 0), .disturbed faults, .called 1 (.applying lastSnapshot), .turn (.call 1),
    .stored (.call 1)]

/-- The last snapshot comes again. -/
def repeated : List Event :=
  [.called 2 (.applying lastSnapshot), .turn (.call 2), .stored (.call 2)]

/-- The repeated snapshot is ignored where the id was removed. -/
theorem ignores_along_repeated : ∃ s₀ s₁ s,
    play (fun _ _ => True) (ending {}) (polling "") = some s₀ ∧
      s₀.Ends "task" (.stored (.call 1)) ∧ s₀.step (.stored (.call 1)) = some s₁ ∧
      s₁.stored ≠ some "task" ∧ play (Unclaimed "task") repeated s₁ = some s ∧
      Along (Ignores "task") repeated s₁ := by
  have hplayed : (play (fun _ _ => True) (ending {}) (polling "")).any fun s₀ =>
      decide (s₀.Ends "task" (.stored (.call 1))) &&
        (s₀.step (.stored (.call 1))).any fun s₁ =>
          decide (s₁.stored ≠ some "task") && (play (Unclaimed "task") repeated s₁).isSome := by
    decide
  obtain ⟨s₀, hs₀, hplayed⟩ := (Option.any_eq_true ..).mp hplayed
  obtain ⟨hends, hplayed⟩ := (Bool.and_eq_true ..).mp hplayed
  obtain ⟨s₁, hs₁, hplayed⟩ := (Option.any_eq_true ..).mp hplayed
  obtain ⟨hstored, hplayed⟩ := (Bool.and_eq_true ..).mp hplayed
  obtain ⟨s, hs⟩ := Option.isSome_iff_exists.mp hplayed
  have hconfig : Tracker.ofConfig pollingPage = .ok (polling "").tracker := rfl
  have hignored := (ignores_along_iff hconfig (reaches_of_play hs₀) (of_decide_eq_true hends) hs₁
    hs).2 (of_decide_eq_true hstored)
  exact ⟨s₀, s₁, s, hs₀, of_decide_eq_true hends, hs₁, of_decide_eq_true hstored, hs, hignored.1⟩

/-- Where the removal of the id failed, the page is idle after the end of the task and no
    call is in progress, and the repeated snapshot is applied again. -/
theorem not_ignores_along_undeleted : ∃ s₀ s₁ s₂ s,
    play (fun _ _ => True) (ending { delete := some "disk full" }) (polling "") = some s₀ ∧
      s₀.Ends "task" (.stored (.call 1)) ∧ s₀.step (.stored (.call 1)) = some s₁ ∧
      s₁.tracker.lifecycle = .idle ∧ s₁.tracker.calls = [] ∧ s₁.rendered = ["task"] ∧
      play (Unclaimed "task") repeated s₁ = some s₂ ∧ ¬ Along (Ignores "task") repeated s₁ ∧
      s₂.step (.stored (.call 2)) = some s ∧ s.rendered = ["task", "task"] := by
  have hplayed : (play (fun _ _ => True) (ending { delete := some "disk full" })
      (polling "")).any fun s₀ =>
      decide (s₀.Ends "task" (.stored (.call 1))) &&
        (s₀.step (.stored (.call 1))).any fun s₁ =>
          decide (s₁.tracker.lifecycle = .idle ∧ s₁.tracker.calls = [] ∧ s₁.rendered = ["task"] ∧
            ¬ Along (Untold "task") repeated s₁) &&
          (play (Unclaimed "task") repeated s₁).any fun s₂ =>
            (s₂.step (.stored (.call 2))).any fun s =>
              decide (s.rendered = ["task", "task"]) := by
    decide
  obtain ⟨s₀, hs₀, hplayed⟩ := (Option.any_eq_true ..).mp hplayed
  obtain ⟨hends, hplayed⟩ := (Bool.and_eq_true ..).mp hplayed
  obtain ⟨s₁, hs₁, hplayed⟩ := (Option.any_eq_true ..).mp hplayed
  obtain ⟨hatEnd, hplayed⟩ := (Bool.and_eq_true ..).mp hplayed
  obtain ⟨s₂, hs₂, hplayed⟩ := (Option.any_eq_true ..).mp hplayed
  obtain ⟨s, hs, hagain⟩ := (Option.any_eq_true ..).mp hplayed
  have hends := of_decide_eq_true hends
  obtain ⟨hidle, hrest, honce, htold⟩ := of_decide_eq_true hatEnd
  have hconfig : Tracker.ofConfig pollingPage = .ok (polling "").tracker := rfl
  have h₀ := guarded_of_reaches hconfig (reaches_of_play hs₀)
  refine ⟨s₀, s₁, s₂, s, hs₀, hends, hs₁, hidle, hrest, honce, hs₂, fun hignores => htold ?_, hs,
    of_decide_eq_true hagain⟩
  exact (ignores_along_of_unclosed (h₀.step hs₁) (unclosed_of_ends h₀ hends hs₁) hs₂).mp hignores

end Session

end TaskTracking
