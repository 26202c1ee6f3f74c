import TaskTracking.Proofs.Orderly

/-! # Resuming beside other calls

  A resume looks at the lifecycle before it loads the stored id, and at nothing
  when the answers it waits for have come. In between the page may start or
  cancel tasks. So resumes leave a task to its owner on just those runs on which
  their answers come while the tracker still waits for the loaded task, and no
  page is left while the id of its task is removed (`Session.keeps_along_iff`).
-/

namespace TaskTracking

namespace Session

/-! ### Laws along runs -/

/-- Each of the events satisfies `P` where it happens. -/
def Along (P : Session → Event → Prop) : List Event → Session → Prop
  | [], _ => True
  | e :: es, s => P s e ∧ ∀ s' ∈ s.step e, Along P es s'

instance instDecidableAlong {P : Session → Event → Prop} [∀ s e, Decidable (P s e)] :
    ∀ es s, Decidable (Along P es s)
  | [], _ => .isTrue trivial
  | _ :: es, _ =>
    have := instDecidableAlong (P := P) es
    instDecidableAnd

/-- Two conditions on events are the same along a run if each step on which the one is
    satisfied satisfies the other, and keeps what that rests on. -/
theorem along_congr {allowed P Q : Session → Event → Prop} [∀ s e, Decidable (allowed s e)]
    {I : Session → Prop}
    (hiff : ∀ s e s', I s → allowed s e → s.step e = some s' → (P s e ↔ Q s e))
    (hkeeps : ∀ s e s', I s → allowed s e → Q s e → s.step e = some s' → I s')
    {es : List Event} {s s' : Session} (h : I s) (hrun : play allowed es s = some s') :
    Along P es s ↔ Along Q es s := by
  induction es generalizing s with
  | nil => exact Iff.rfl
  | cons e es ih =>
    obtain ⟨hallowed, s₁, hstep, hrest⟩ := play_cons_iff.mp hrun
    simp only [Along, hstep, Option.mem_some_iff, forall_eq', hiff s e s₁ h hallowed hstep]
    exact and_congr_right fun hQ => ih (hkeeps s e s₁ h hallowed hQ hstep) hrest

/-- A tracked task is the stored one, unless its id is just being removed for a
    terminal snapshot. -/
def Owns (s : Session) : Prop :=
  s.tracker.lifecycle = .tracking →
    (∀ job ∈ s.tracker.jobs, (s.doing job).all fun d => !d.isClearing) →
      s.stored.isSome ∧ s.tracker.current = s.stored

instance (s : Session) : Decidable s.Owns := by
  unfold Owns
  infer_instance

/-- After the event the tracked task is the stored one, and no resume has changed
    whose the task is while the tracker did not wait for it. -/
def Keeps (s : Session) (e : Event) : Prop := ∀ s' ∈ s.step e, s.Heeds e s' ∧ s'.Owns

/-- What is tracked is owned, unless it is stranded. -/
theorem owns_of_sound {s : Session} {φ : Phase} (hφ : s.core.Sound φ)
    (hstranded : φ.isStranded = false) : s.Owns := by
  intro htracking hnobody
  have hstored : s.stored = φ.stored := hφ.looks.stored
  obtain ⟨x, rfl | rfl | rfl⟩ := hφ.is_tracking htracking
  · have hcurrent : s.tracker.current = some x := (hφ.looks.tracked x rfl).2.1
    rw [hstored, hcurrent]
    exact ⟨rfl, rfl⟩
  · obtain ⟨j, d, hd, hclears⟩ := hφ.closer x rfl
    have hnot := hnobody j (mem_jobs_of_doing hd)
    rw [show s.doing j = some d from hd] at hnot
    simp [hclears] at hnot
  · cases hstranded

/-! ### When a resume may act -/

theorem heeds_of_not_loaded {s s' : Session} {e : Event}
    (h : ∀ j d, e.job? = some j → s.doing j = some d → d.loaded? = none) : s.Heeds e s' := by
  intro j d x hjob hdoing hloaded
  rw [h j d hjob hdoing] at hloaded
  cases hloaded

variable {admits : Core → Call → Prop} {s s' : Session} {scene : Scene} {j : Job} {k : Nat}
  {d : Call} {x : String}

/-- Only a call resumes, by what it is at. -/
theorem callTurn_of_loaded {e : Event} (hdoing : s.doing j = some d) (hloaded : d.loaded? = some x)
    (hjob : e.job? = some j) (hstep : s.step e = some s') :
    ∃ k reply t calls turn, j = .call k ∧ s.Brings (.call k) e reply ∧
      s.tracker.CallTurn d reply (t, calls, turn) := by
  obtain ⟨k, rfl⟩ := eq_call_of_doing hdoing (by rintro _ rfl; cases hloaded)
  obtain ⟨t, calls, turn, htakes, _⟩ := takes_of_step hdoing hjob hstep
  obtain ⟨reply, hbrings, hturn⟩ := htakes.callTurn
  exact ⟨k, reply, t, calls, turn, rfl, hbrings, hturn⟩

/-- What a resume does without an answer changes nothing that anyone owns. -/
theorem heeds_turn (hmove : Core.Move admits s.core scene s'.core) (hjob : scene.job = some j)
    (hstep : s.step (.turn j) = some s') : s.Heeds (.turn j) s' := by
  rintro _ d x ⟨⟩ hdoing hloaded
  obtain ⟨k, _, _, _, _, rfl, hbrings, hturn⟩ := callTurn_of_loaded hdoing hloaded rfl hstep
  cases hbrings
  cases hturn with
  | lock =>
    rw [hmove.of_locking hjob hdoing]
    exact .inl ⟨by simp, by simp, by simp [Core.stored], by simp⟩
  | refuse hnew =>
    cases d with
    | fetching | settling => cases hnew
    | _ => cases hloaded
  | _ => cases hloaded

/-- A resume that has read the stored id removes it only while the tracker waits
    for the task, if there is one to remove. -/
theorem heeds_reading_iff (h : s.Orderly) {snapshot : Snapshot} {status : Status}
    (hmove : Core.Move admits s.core scene s'.core) (hjob : scene.job = some j)
    (hdoing : s.doing j = some (.settling (.reading snapshot) (.finished x status))) :
    s.Heeds (.stored j) s' ↔
      (s.told j = some snapshot.id → s.Waits x ∨ s.stored = none) := by
  obtain ⟨φ, hφ⟩ := h.phase
  obtain ⟨_, hgoal, _⟩ := hφ.fits j _ hdoing
  obtain ⟨found, hanswer, hnext⟩ := hmove.of_reading hjob hdoing
  have htold : s.told j = Store.Identity.taskId? found := by
    unfold told
    rw [show s.pending j = some (.value found) from hanswer]
  -- The id is another one and nothing is removed, or it is the task's, which has ended.
  rcases hnext with ⟨hother, -, hcore⟩ | ⟨_, ⟨hrun, _⟩ | ⟨_, -, hcore⟩⟩
  · refine iff_of_true ?_ (fun hsame => absurd (htold ▸ hsame) hother)
    rintro _ d y ⟨⟩ _ _
    rw [hcore]
    exact .inl ⟨rfl, rfl, rfl, rfl⟩
  · rw [show snapshot.isTerminal = true from (hgoal x status rfl).2] at hrun
    cases hrun
  · next hsame _ =>
    constructor
    · intro hheeds _
      rcases hheeds.waits hdoing rfl rfl with howner | hwaits
      · have hstored := howner.stored
        rw [hcore] at hstored
        exact .inr hstored.symm
      · exact .inl hwaits
    · intro hwaits
      rintro _ d y ⟨⟩ hdoing' hloaded
      rw [show s.core.doing j = _ from hdoing] at hdoing'
      cases hdoing'
      cases hloaded
      rcases hwaits (htold.trans hsame) with ⟨hidle, hstored⟩ | hnone
      · exact .inr ⟨hidle, .inr hstored⟩
      · rw [hcore]
        exact .inl ⟨rfl, rfl, hnone.symm, rfl⟩

/-- A resume that has had the stored id removed goes on only while the tracker is
    idle. -/
theorem heeds_clearing_iff {snapshot : Snapshot} {applied : Applied} {rest : List Effect}
    {status : Status} (hmove : Core.Move admits s.core scene s'.core) (hjob : scene.job = some j)
    (hdoing : s.doing j = some (.settling (.clearing snapshot applied rest) (.finished x status))) :
    s.Heeds (.stored j) s' ↔ s.tracker.lifecycle = .idle := by
  obtain ⟨-, hcore⟩ := hmove.of_clearing hjob hdoing
  constructor
  · intro hheeds
    rcases hheeds j _ x rfl hdoing rfl with howner | ⟨hidle, _⟩
    · have hlifecycle := howner.lifecycle
      rw [hcore] at hlifecycle
      exact hlifecycle.symm
    · exact hidle
  · intro hidle
    rintro _ d y ⟨⟩ hdoing' _
    rw [show s.core.doing j = _ from hdoing] at hdoing'
    cases hdoing'
    exact .inr ⟨hidle, .inl rfl⟩

theorem heeds_stored_iff (h : s.Orderly) (hmove : Core.Move admits s.core scene s'.core)
    (hjob : scene.job = some j) (hstep : s.step (.stored j) = some s') :
    s.Heeds (.stored j) s' ↔ s.Timely (.stored j) := by
  simp only [Timely]
  split
  · next hdoing => exact heeds_reading_iff h hmove hjob hdoing
  · next hdoing => exact heeds_clearing_iff hmove hjob hdoing
  · next hreading hclearing =>
    refine iff_of_true ?_ trivial
    rintro _ d x ⟨⟩ hdoing hloaded
    obtain ⟨k, _, _, _, _, rfl, hbrings, hturn⟩ := callTurn_of_loaded hdoing hloaded rfl hstep
    cases hbrings
    cases hturn with
    | @settle stage goal _ _ _ _ hsettle =>
      cases goal with
      | finished taskId status =>
        cases stage with
        | locking => cases hsettle
        | reading snapshot => exact absurd hdoing (hreading snapshot taskId status)
        | clearing snapshot applied rest =>
          exact absurd hdoing (hclearing snapshot applied rest taskId status)
      | _ => cases hloaded
    | fail hd => rcases hd with rfl | ⟨_, rfl⟩ <;> cases hloaded
    | _ => cases hloaded

/-- What the status of the loaded task makes of the core. -/
theorem core_of_fetched (h : s.Honest) (hdoing : s.doing (.call k) = some (.fetching x))
    {result : Except TransportFailure Snapshot}
    (hstep : s.step (.answered (.call k) (.status result)) = some s') :
    s'.core = match result with
      | .error _ => s.core.wait (.call k) (.forgetting x)
      | .ok snapshot =>
        if snapshot.isTerminal then
          { s.core with current := some x }.settle (.call k) (snapshot.withId x)
            (.finished x snapshot.status)
        else (s.core.begin x).settle (.call k) (snapshot.withId x) (.resumed x) := by
  obtain ⟨t, calls, turn, htakes, rfl⟩ := takes_of_step hdoing rfl hstep
  obtain ⟨reply, hbrings, hturn⟩ := htakes.callTurn
  cases hbrings
  rw [(after_call h hdoing hturn.keeps _ _ _).2]
  cases hturn with
  | forget =>
    rw [coreWith_self]
    rfl
  | conclude hend =>
    dsimp only
    rw [if_pos hend]
    exact core_conclude ..
  | track hrun =>
    dsimp only
    rw [if_neg (by simp [hrun])]
    exact core_track ..

theorem heeds_fetched_iff {e : Event} (hjob : e.job? = some j)
    (hdoing : s.doing j = some (.fetching x)) :
    s.Heeds e s' ↔ s.core.SameOwner s'.core ∨ s.Waits x := by
  constructor
  · intro hheeds
    unfold Heeds at hheeds
    rw [hjob] at hheeds
    exact hheeds.waits hdoing rfl rfl
  · intro howner i d y hi hd hloaded
    rw [hjob] at hi
    cases hi
    rw [show s.core.doing j = _ from hdoing] at hd
    cases hd
    cases hloaded
    rcases howner with howner | ⟨hidle, hstored⟩
    · exact .inl howner
    · exact .inr ⟨hidle, .inr hstored⟩

/-- Only what was fetched makes a resume go on. -/
theorem heeds_of_not_fetched {reply : Reply} (hservers : reply.isServers)
    (hstep : s.step (.answered j reply) = some s')
    (hnot : ∀ x result, s.doing j = some (.fetching x) → reply ≠ .status result) :
    s.Heeds (.answered j reply) s' := by
  rintro _ d x ⟨⟩ hdoing hloaded
  obtain ⟨k, _, _, _, _, rfl, hbrings, hturn⟩ := callTurn_of_loaded hdoing hloaded rfl hstep
  cases hbrings
  cases hturn with
  | conclude | track | forget => exact absurd rfl (hnot _ _ hdoing)
  -- The others are at something else, or are answered by the storage.
  | settle => cases hservers
  | fail => cases hservers
  | _ => cases hloaded

theorem timely_of_not_fetching {reply : Reply} (hnot : ∀ x, s.doing j ≠ some (.fetching x)) :
    s.Timely (.answered j reply) := by
  cases reply with
  | status result =>
    cases result <;>
    · unfold Timely
      dsimp only
      split
      · next x hd => exact absurd hd (hnot x)
      · trivial
  | _ => trivial

/-- A resume that has fetched acts only while the tracker waits for the task, unless
    it finds nothing to remove or the end of the current task. -/
theorem heeds_answered_iff (h : s.Honest) {reply : Reply}
    (hstep : s.step (.answered j reply) = some s') :
    s.Heeds (.answered j reply) s' ↔ s.Timely (.answered j reply) := by
  have hservers : reply.isServers = true := by
    simp only [step] at hstep
    split at hstep
    · assumption
    · cases hstep
  -- Only the status that a resume has fetched can move the tracker to another task.
  by_cases hfetching : ∃ x, s.doing j = some (.fetching x)
  · obtain ⟨x, hdoing⟩ := hfetching
    obtain ⟨k, rfl⟩ := eq_call_of_doing hdoing (by rintro _ ⟨⟩)
    cases reply with
    | status result =>
      have hcore := core_of_fetched h hdoing hstep
      rw [heeds_fetched_iff rfl hdoing, hcore, or_comm]
      cases result with
      | error failure =>
        simp only [Timely, hdoing]
        refine or_congr_right ⟨fun howner => howner.stored.symm, fun hnone => ?_⟩
        exact ⟨rfl, rfl, Eq.symm hnone, rfl⟩
      | ok snapshot =>
        simp only [Timely, hdoing]
        refine or_congr_right ?_
        cases hend : snapshot.isTerminal with
        | true =>
          rw [if_pos rfl]
          constructor
          · intro howner
            have hcurrent := howner.current
            rw [Core.settle_current] at hcurrent
            exact ⟨rfl, hcurrent.symm⟩
          · rintro ⟨_, hcurrent⟩
            have hsame : s.core.current = some x := hcurrent
            exact ⟨by simp, by simp [hsame], by simp [Core.stored], by simp⟩
        | false =>
          rw [if_neg Bool.false_ne_true]
          constructor
          · intro howner
            have hshown := howner.shown
            rw [Core.settle_shown] at hshown
            exact absurd hshown (by simp [Core.begin])
          · rintro ⟨⟨⟩, _⟩
    | _ =>
      exact iff_of_true (heeds_of_not_fetched hservers hstep (by rintro _ _ _ ⟨⟩)) trivial
  · have hnot : ∀ x, s.doing j ≠ some (.fetching x) := fun x hd => hfetching ⟨x, hd⟩
    exact iff_of_true (heeds_of_not_fetched hservers hstep fun x _ hd => absurd hd (hnot x))
      (timely_of_not_fetching hnot)

/-- **An event of an orderly session leaves the task to its owner just when it is
    timely.** -/
theorem heeds_iff_timely (h : s.Orderly) {e : Event} (hfair : s.Fair e) (hdue : s.Due e)
    (hstep : s.step e = some s') : s.Heeds e s' ↔ s.Timely e := by
  obtain ⟨scene, hmoves⟩ := h.moves_of_due hfair hdue hstep
  have hjob := (hmoves.scene_eq hstep).1
  cases e with
  | turn j => exact iff_of_true (heeds_turn hmoves.move hjob hstep) trivial
  | stored j => exact heeds_stored_iff h hmoves.move hjob hstep
  | answered j reply => exact heeds_answered_iff h.honest hstep
  | called | left | connected | received | deafened | elapsed | disturbed =>
    exact iff_of_true (heeds_of_not_loaded (by rintro j d ⟨⟩)) trivial

/-- A page that is left in the middle of a removal tracks what is not stored. -/
theorem not_owns_of_broken (h : s.Orderly) {e : Event} (hfair : s.Fair e) (hdue : s.Due e)
    (hstep : s.step e = some s') (hbroken : ¬ s.Unbroken e) {ψ : Phase} (hψ : s'.core.Sound ψ)
    (hstranded : ψ.isStranded = true) : ¬ s'.Owns := by
  intro howns
  obtain ⟨scene, hmoves⟩ := h.moves_of_due hfair hdue hstep
  have hbreaks := (breaks_iff (hmoves.scene_eq hstep).2.2.2).mpr hbroken
  cases ψ with
  | stranded x =>
    have hlock := hψ.lock
    rw [hmoves.move.locked_of_breaks hbreaks] at hlock
    have hnobody : ∀ job ∈ s'.tracker.jobs, (s'.doing job).all fun d => !d.isClearing := by
      intro job _
      have hfree : (s'.doing job).any Call.holds = false := hlock.none job
      cases hd : s'.doing job with
      | none => rfl
      | some d =>
        rw [hd, Option.any_some] at hfree
        rw [Option.all_some, Bool.not_eq_true', ← Bool.not_eq_true]
        intro hclears
        rw [Call.holds_of_isClearing hclears] at hfree
        cases hfree
    have hsome := (howns (hψ.looks.tracked x rfl).1 hnobody).1
    rw [show s'.stored = none from hψ.looks.stored] at hsome
    cases hsome
  | _ => cases hstranded

/-! ### The law -/

/-- The event leaves the task to its owner just when it is timely and breaks off no
    removal, and then the next phase is no stranded one either. -/
theorem keeps_iff (h : s.Orderly) {φ : Phase} (hφ : s.core.Sound φ)
    (hstill : φ.isStranded = false) {e : Event} (hfair : s.Fair e) (hdue : s.Due e)
    (hstep : s.step e = some s') :
    (s.Keeps e ↔ s.Timely e ∧ s.Unbroken e) ∧
      (s.Keeps e → s'.Orderly ∧ ∃ ψ, s'.core.Sound ψ ∧ ψ.isStranded = false) := by
  have hiff := heeds_iff_timely h hfair hdue hstep
  have hkeeps : s.Keeps e ↔ s.Heeds e s' ∧ s'.Owns := by simp [Keeps, hstep]
  by_cases hheeds : s.Heeds e s'
  · obtain ⟨ψ, hψ, hstranded⟩ := h.leads hfair hdue hstep hheeds hφ
    rw [hstill] at hstranded
    have howns : s'.Owns ↔ s.Unbroken e := by
      constructor
      · intro howns
        by_contra hbroken
        exact not_owns_of_broken h hfair hdue hstep hbroken hψ
          (hstranded.mpr (.inl hbroken)) howns
      · intro hunbroken
        refine owns_of_sound hψ ?_
        rw [← Bool.not_eq_true, hstranded]
        rintro (hbroken | ⟨⟨⟩, _⟩)
        exact hbroken hunbroken
    refine ⟨hkeeps.trans (and_congr hiff howns), fun hkept => ?_⟩
    refine ⟨h.step hfair hdue hstep hheeds, ψ, hψ, ?_⟩
    rw [← Bool.not_eq_true, hstranded]
    rintro (hbroken | ⟨⟨⟩, _⟩)
    exact hbroken (howns.mp (hkeeps.mp hkept).2)
  · exact ⟨iff_of_false (fun hkept => hheeds (hkeeps.mp hkept).1)
      fun htimely => hheeds (hiff.mpr htimely.1), fun hkept => absurd (hkeeps.mp hkept).1 hheeds⟩

/-- **Ownership.** On a run of a fair session that applies only what is due, in any
    order of its events, every tracked task is the stored one and no resume changes
    whose the task is while the tracker does not wait for it, just when the answers to
    resumes come in time and no leave breaks off the removal of an id. -/
theorem keeps_along_iff {config : Config} {t : Tracker} (hconfig : Tracker.ofConfig config = .ok t)
    (entries : Store.Entries) {es : List Event} {s : Session}
    (hrun : play (fun s e => s.Fair e ∧ s.Due e) es (opened t entries) = some s) :
    Along Keeps es (opened t entries) ↔
      Along (fun s e => s.Timely e ∧ s.Unbroken e) es (opened t entries) :=
  along_congr
    (I := fun s => s.Orderly ∧ ∃ φ, s.core.Sound φ ∧ φ.isStranded = false)
    (fun _ _ _ ⟨h, _, hφ, hstill⟩ ⟨hfair, hdue⟩ hstep => (keeps_iff h hφ hstill hfair hdue hstep).1)
    (fun _ _ _ ⟨h, _, hφ, hstill⟩ ⟨hfair, hdue⟩ hkept hstep =>
      have hiff := keeps_iff h hφ hstill hfair hdue hstep
      hiff.2 (hiff.1.mpr hkept))
    ⟨orderly_opened hconfig entries, phase_opened hconfig entries⟩ hrun

/-- A page resumes an old task, starts a new one, and gets the status of the old one
    last. -/
def overtaken : List Event :=
  [.called 0 .resuming, .turn (.call 0), .stored (.call 0), .called 1 (.starting .null),
    .turn (.call 1), .answered (.call 1) (.created (.ok "new")), .stored (.call 1),
    .answered (.call 0) (.status (.error .timeout))]

/-- A page gets the status of an old task before it starts a new one. -/
def patient : List Event :=
  [.called 0 .resuming, .turn (.call 0), .stored (.call 0),
    .answered (.call 0) (.status (.error .timeout)), .called 1 (.starting .null),
    .turn (.call 1), .answered (.call 1) (.created (.ok "new")), .stored (.call 1)]

/-- The patient page keeps its tasks, and the overtaken one does not. -/
theorem keeps_patient_not_overtaken :
    Along Keeps patient (polling "old") ∧ ¬ Along Keeps overtaken (polling "old") := by
  have hpatient : (play (fun s e => s.Fair e ∧ s.Due e) patient (polling "old")).isSome := by
    decide
  have hovertaken : (play (fun s e => s.Fair e ∧ s.Due e) overtaken (polling "old")).isSome := by
    decide
  obtain ⟨s, hs⟩ := Option.isSome_iff_exists.mp hpatient
  obtain ⟨s', hs'⟩ := Option.isSome_iff_exists.mp hovertaken
  have hconfig : Tracker.ofConfig pollingPage = .ok (polling "old").tracker := rfl
  refine ⟨(keeps_along_iff hconfig _ hs).mpr (by decide), fun hkeeps => ?_⟩
  have htimely := (keeps_along_iff hconfig _ hs').mp hkeeps
  exact absurd htimely (by decide)

/-- The overtaken page tracks a task whose id its resume has removed. -/
theorem not_owns_overtaken :
    ∃ s, play (fun s e => s.Fair e ∧ s.Due e) overtaken (polling "old") = some s ∧
      s.tracker.lifecycle = .tracking ∧ s.stored = none ∧ ¬ s.Owns := by
  have hplayed : (play (fun s e => s.Fair e ∧ s.Due e) overtaken (polling "old")).any fun s =>
      decide (s.tracker.lifecycle = .tracking ∧ s.stored = none ∧ ¬ s.Owns) := by decide
  obtain ⟨s, hs, hlost⟩ := (Option.any_eq_true ..).mp hplayed
  exact ⟨s, hs, of_decide_eq_true hlost⟩

end Session

end TaskTracking
