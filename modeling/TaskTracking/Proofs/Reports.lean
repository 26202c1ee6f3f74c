import TaskTracking.Proofs.Resumption
import TaskTracking.Proofs.Streaks

/-! # Reports of failing polls

  No report gets lost before the worker takes it: a streak that is as long as the
  threshold was reported when it became so long, and the report stays in the inbox
  (`Session.Attentive.reported_of_play`). When a session rests, the worker has taken
  all there are, unless there is no worker (`Session.Awaited.worker_of_atRest`).
-/

namespace TaskTracking

/-- Settings that make sense have streaks of some length reported. -/
theorem Config.stallThreshold_pos {config c : Config} (h : config.validated = .ok c) :
    0 < c.stallThreshold := by
  unfold validated at h
  split at h
  · cases h
  · next hvalid =>
    cases h
    unfold violation? at hvalid
    split at hvalid
    · cases hvalid
    · split at hvalid
      · cases hvalid
      · split at hvalid
        · cases hvalid
        · next hthreshold => exact Nat.pos_of_ne_zero hthreshold

/-! ### What asks the storage -/

namespace Call

/-- A new call asks nothing of the storage. -/
theorem request?_of_isNew {d : Call} (h : d.isNew = true) (identity : Store.Identity) :
    (d.ask? identity).bind Ask.request? = none := by
  cases d <;> first | rfl | cases h

/-- Whoever holds the lock waits for the storage. -/
theorem request?_of_holds {d : Call} (h : d.holds = true) (identity : Store.Identity) :
    (d.ask? identity).bind Ask.request? ≠ none := by
  cases d with
  | erasing => nofun
  | settling stage goal =>
    cases stage with
    | locking => cases h
    | _ => nofun
  | _ => cases h

end Call

namespace Session

/-! ### Reports that are taken -/

/-- The task whose failing polls are reported by what the worker takes in the event. -/
def learnt? (s : Session) : Event → Option String
  | .turn .worker =>
    match s.tracker.worker, s.tracker.inbox.queue with
    | .listening, .stalled taskId _ :: _ =>
      if s.tracker.selector.left then none else some taskId
    | _, _ => none
  | _ => none

/-- In the event the worker takes a report that polls for the task fail. -/
def Learns (s : Session) (taskId : String) (e : Event) : Prop := s.learnt? e = some taskId

instance (s : Session) (taskId : String) (e : Event) : Decidable (s.Learns taskId e) :=
  inferInstanceAs (Decidable (_ = _))

theorem learns_iff {s : Session} {taskId : String} {e : Event} :
    s.Learns taskId e ↔ e = .turn .worker ∧ s.tracker.worker = .listening ∧
      s.tracker.selector.left = false ∧
        ∃ n rest, s.tracker.inbox.queue = .stalled taskId n :: rest := by
  constructor
  · intro h
    unfold Learns learnt? at h
    split at h
    · split at h
      · next hworker hqueue =>
        split at h
        · cases h
        · next hleft =>
          cases h
          exact ⟨rfl, hworker, Bool.of_not_eq_true hleft, _, _, hqueue⟩
      · cases h
    · cases h
  · rintro ⟨rfl, hworker, hleft, n, rest, hqueue⟩
    unfold Learns learnt?
    simp [hworker, hqueue, hleft]

/-! ### No report gets lost -/

theorem Along.mono {P Q : Session → Event → Prop} (hle : ∀ s e, P s e → Q s e) {es : List Event}
    {s : Session} (h : Along P es s) : Along Q es s := by
  induction es generalizing s with
  | nil => trivial
  | cons e es ih => exact ⟨hle s e h.1, fun s' hs' => ih (h.2 s' hs')⟩

/-- Some of the events satisfies `P` where it happens. -/
def Sometime (P : Session → Event → Prop) (es : List Event) (s : Session) : Prop :=
  ¬ Along (fun s e => ¬ P s e) es s

instance {P : Session → Event → Prop} [∀ s e, Decidable (P s e)] (es : List Event)
    (s : Session) : Decidable (Sometime P es s) :=
  inferInstanceAs (Decidable (¬ _))

theorem sometime_cons_iff {P : Session → Event → Prop} {e : Event} {es : List Event}
    {s s₁ : Session} (hstep : s.step e = some s₁) :
    Sometime P (e :: es) s ↔ P s e ∨ Sometime P es s₁ := by
  unfold Sometime
  simp only [Along, hstep, Option.mem_some_iff, forall_eq']
  rw [not_and_or, not_not]

/-- Loop `i` polls the task, and its streak of failures is as long as is reported. -/
def Fails (s : Session) (i : Nat) (taskId : String) : Prop :=
  ∃ l ∈ s.tracker.selector.poll.loops[i]?,
    l.taskId = taskId ∧ s.tracker.selector.poll.threshold ≤ l.streak

instance (s : Session) (i : Nat) (taskId : String) : Decidable (s.Fails i taskId) := by
  unfold Fails
  infer_instance

/-- **Invariant.** Streaks are reported, and unless the worker has ended what is
    delivered is kept. -/
structure Attentive (s : Session) : Prop where
  guarded : s.Guarded
  threshold : 0 < s.tracker.selector.poll.threshold
  receiving : s.tracker.worker ≠ .ended → s.tracker.inbox.receiving = true

section Attentive

variable {s s' : Session} {e : Event} {i n : Nat} {taskId : String}

/-- A worker ends for good. -/
theorem Airs.ended (h : s.Airs e s') (hended : s.tracker.worker = .ended) :
    s'.tracker.worker = .ended := by
  cases h with
  | adds _ _ _ hkeeps => exact hkeeps hended
  | takes _ hworker =>
    rw [hworker] at hended
    cases hended
  | answers _ _ _ _ _ hworker => exact hworker.trans hended
  | ends _ hworker => exact hworker

theorem Airs.threshold (h : s.Airs e s') :
    s'.tracker.selector.poll.threshold = s.tracker.selector.poll.threshold := by
  cases h with
  | adds _ hpoll | takes _ _ _ _ hpoll | ends hpoll => exact hpoll.threshold
  | answers result hl hsent hpoll =>
    rw [hpoll, Polling.Channel.answer_eq hl hsent]
    rfl

theorem Attentive.step (h : s.Attentive) (hstep : s.step e = some s') : s'.Attentive := by
  have hairs := airs_of_step h.guarded hstep
  refine ⟨h.guarded.step hstep, hairs.threshold ▸ h.threshold, fun hgoes => ?_⟩
  have hreceiving := h.receiving fun hended => hgoes (hairs.ended hended)
  cases hairs with
  | adds ds _ hinbox =>
    rw [hinbox, Inbox.receiving_add]
    exact hreceiving
  | takes _ _ _ _ _ hinbox =>
    rw [hinbox]
    exact hreceiving
  | answers result _ _ _ hinbox =>
    rw [hinbox, Inbox.receiving_add]
    exact hreceiving
  | ends _ hworker => exact absurd hworker hgoes

/-- A report waits until the worker takes it. -/
theorem Attentive.waits (h : s.Attentive) (hstep : s.step e = some s')
    (hgoes : s'.tracker.worker ≠ .ended) (hmem : .stalled taskId n ∈ s.tracker.inbox.queue) :
    .stalled taskId n ∈ s'.tracker.inbox.queue ∨ s.Learns taskId e := by
  cases airs_of_step h.guarded hstep with
  | adds ds _ hinbox =>
    rw [hinbox]
    exact .inl (Inbox.mem_add hmem)
  | @takes d rest he hworker hleft hqueue _ hinbox =>
    rw [hqueue] at hmem
    rcases List.mem_cons.mp hmem with rfl | hrest
    · exact .inr (learns_iff.mpr ⟨he, hworker, hleft, n, rest, hqueue⟩)
    · rw [hinbox]
      exact .inl hrest
  | answers result _ _ _ hinbox =>
    rw [hinbox]
    exact .inl (Inbox.mem_add hmem)
  | ends _ hworker => exact absurd hworker hgoes

theorem fails_of_unfailing (hthreshold : 0 < s.tracker.selector.poll.threshold)
    (hpoll : s.tracker.selector.poll.Unfailing s'.tracker.selector.poll)
    (hfails : s'.Fails i taskId) : s.Fails i taskId := by
  obtain ⟨l', hl', htask', hle⟩ := hfails
  rw [hpoll.threshold] at hle
  obtain ⟨l, hl, htask, hstreak⟩ := hpoll.streaks i l' hl' (Nat.lt_of_lt_of_le hthreshold hle)
  exact ⟨l, hl, htask.trans htask', hstreak ▸ hle⟩

/-- A loop comes to fail by a failure that is reported at once. -/
theorem Attentive.fails (h : s.Attentive) (hstep : s.step e = some s')
    (hgoes : s'.tracker.worker ≠ .ended) (hfails : s'.Fails i taskId) :
    s.Fails i taskId ∨ ∃ n, .stalled taskId n ∈ s'.tracker.inbox.queue := by
  cases airs_of_step h.guarded hstep with
  | adds _ hpoll | takes _ _ _ _ hpoll | ends hpoll =>
    exact .inl (fails_of_unfailing h.threshold hpoll hfails)
  | @answers j l result hl hsent hpoll hinbox hworker =>
    have hreceiving := h.receiving (hworker ▸ hgoes)
    rw [Polling.Channel.answer_eq hl hsent] at hpoll hinbox
    obtain ⟨l', hl', htask', hle⟩ := hfails
    rw [hpoll] at hl' hle
    by_cases hij : j = i
    · subst hij
      rw [Option.mem_def, Polling.Channel.update_self hl] at hl'
      cases hl'
      obtain ⟨htask, hstreak⟩ := l.answer_streak s.tracker.selector.poll.threshold
        s.tracker.inbox.receiving result
      have htask₀ : l.taskId = taskId := htask.symm.trans htask'
      rcases hstreak with hsame | hzero | ⟨hlonger, hreports⟩
      · exact .inl ⟨l, hl, htask₀, hsame ▸ hle⟩
      · rw [hzero] at hle
        exact absurd hle (Nat.not_le.mpr h.threshold)
      -- The streak was long enough before, or is just as long as is reported.
      · rw [hlonger] at hle
        rcases Nat.lt_or_eq_of_le hle with hlt | heq
        · exact .inl ⟨l, hl, htask₀, Nat.le_of_lt_succ hlt⟩
        · have hreport := hreports heq.symm
          rw [htask₀] at hreport
          rw [hinbox]
          exact .inr ⟨_, Inbox.mem_add_new hreceiving hreport⟩
    · rw [Option.mem_def, Polling.Channel.update_ne hij] at hl'
      exact .inl ⟨l', hl', htask', hle⟩

variable {allowed : Session → Event → Prop} [∀ s e, Decidable (allowed s e)] {es : List Event}

theorem Attentive.ended_of_play (h : s.Attentive) (hrun : play allowed es s = some s')
    (hended : s.tracker.worker = .ended) : s'.tracker.worker = .ended := by
  induction es generalizing s with
  | nil =>
    cases hrun
    exact hended
  | cons e es ih =>
    obtain ⟨_, s₁, hstep, hrest⟩ := play_cons_iff.mp hrun
    exact ih (h.step hstep) hrest ((airs_of_step h.guarded hstep).ended hended)

theorem Attentive.waits_of_play (h : s.Attentive) (hrun : play allowed es s = some s')
    (hgoes : s'.tracker.worker ≠ .ended) (hmem : .stalled taskId n ∈ s.tracker.inbox.queue) :
    .stalled taskId n ∈ s'.tracker.inbox.queue ∨ Sometime (Learns · taskId ·) es s := by
  induction es generalizing s with
  | nil =>
    cases hrun
    exact .inl hmem
  | cons e es ih =>
    obtain ⟨_, s₁, hstep, hrest⟩ := play_cons_iff.mp hrun
    have h₁ := h.step hstep
    have hgoes₁ : s₁.tracker.worker ≠ .ended :=
      fun hended => hgoes (h₁.ended_of_play hrest hended)
    rw [sometime_cons_iff hstep]
    rcases h.waits hstep hgoes₁ hmem with hmem₁ | hlearns
    · rcases ih h₁ hrest hmem₁ with hwaits | hlater
      · exact .inl hwaits
      · exact .inr (.inr hlater)
    · exact .inr (.inl hlearns)

/-- **Reports.** A loop that fails has failed so all along, or a report of its task waits
    in the inbox, or the worker has taken one. -/
theorem Attentive.reported_of_play (h : s.Attentive) (hrun : play allowed es s = some s')
    (hgoes : s'.tracker.worker ≠ .ended) (hfails : s'.Fails i taskId) :
    Along (fun s _ => s.Fails i taskId) es s ∨
      (∃ n, .stalled taskId n ∈ s'.tracker.inbox.queue) ∨ Sometime (Learns · taskId ·) es s := by
  induction es generalizing s with
  | nil => exact .inl trivial
  | cons e es ih =>
    obtain ⟨_, s₁, hstep, hrest⟩ := play_cons_iff.mp hrun
    have h₁ := h.step hstep
    have hgoes₁ : s₁.tracker.worker ≠ .ended :=
      fun hended => hgoes (h₁.ended_of_play hrest hended)
    rw [sometime_cons_iff hstep]
    rcases ih h₁ hrest with halong | hwaits | hlater
    · have hfails₁ : s₁.Fails i taskId := by
        cases es with
        | nil =>
          cases hrest
          exact hfails
        | cons => exact halong.1
      rcases h.fails hstep hgoes₁ hfails₁ with hbefore | ⟨n, hmem⟩
      · refine .inl ⟨hbefore, ?_⟩
        rw [hstep]
        rintro _ ⟨⟩
        exact halong
      -- It has come to fail just now, and from here on its report is followed.
      · rcases h₁.waits_of_play hrest hgoes hmem with hwaits | hlater
        · exact .inr (.inl ⟨n, hwaits⟩)
        · exact .inr (.inr (.inr hlater))
    · exact .inr (.inl hwaits)
    · exact .inr (.inr (.inr hlater))

theorem attentive_opened {config : Config} {t : Tracker} (h : Tracker.ofConfig config = .ok t)
    (entries : Store.Entries) : (opened t entries).Attentive := by
  have hguarded := guarded_opened h entries
  obtain ⟨c, hvalid, rfl⟩ := Tracker.ofConfig_eq_ok h
  exact ⟨hguarded, Config.stallThreshold_pos hvalid, fun _ => rfl⟩

theorem attentive_of_reaches {config : Config} {t : Tracker}
    (hconfig : Tracker.ofConfig config = .ok t) {entries : Store.Entries}
    {allowed : Session → Event → Prop} (h : Reaches allowed (opened t entries) s) :
    s.Attentive := by
  induction h with
  | refl => exact attentive_opened hconfig entries
  | step e _ _ hstep ih => exact ih.step hstep

end Attentive

/-! ### At rest -/

/-- **Invariant.** Whoever waits for the storage has its answer under way. -/
def Awaited (s : Session) : Prop :=
  ∀ j d, s.doing j = some d → (d.ask? s.tracker.identity).bind Ask.request? ≠ none →
    s.answers.lookup j ≠ none

section Rest

variable {s s' : Session} {e : Event}

theorem awaited_opened {config : Config} {t : Tracker} (h : Tracker.ofConfig config = .ok t)
    (entries : Store.Entries) : (opened t entries).Awaited := by
  intro j d hd
  rw [show (opened t entries).doing j = none from doing_opened h j] at hd
  cases hd

theorem Awaited.step (h : s.Awaited) (hguarded : s.Guarded) (hstep : s.step e = some s') :
    s'.Awaited := by
  intro i d hd hasks
  cases hguarded.changes hstep with
  | @turned j next _ hturned _ =>
    rw [hturned.identity] at hasks
    rw [hturned.doing] at hd
    by_cases hi : i = j
    · subst hi
      rw [Function.update_self] at hd
      subst hd
      rw [hturned.answer]
      simpa [performed?] using hasks
    · rw [Function.update_of_ne hi] at hd
      rw [hturned.others i hi]
      exact h i d hd hasks
  | still hstill =>
    rw [hstill.identity] at hasks
    rcases hstill.doing i d hd with hnew | ⟨hd', hlookup⟩
    · exact absurd (Call.request?_of_isNew hnew _) hasks
    · rw [hlookup]
      exact h i d hd' hasks

theorem awaited_of_reaches {config : Config} {t : Tracker}
    (hconfig : Tracker.ofConfig config = .ok t) {entries : Store.Entries}
    {allowed : Session → Event → Prop} (h : Reaches allowed (opened t entries) s) :
    s.Awaited := by
  induction h with
  | refl => exact awaited_opened hconfig entries
  | step e hreached _ hstep ih => exact ih.step (guarded_of_reaches hconfig hreached) hstep

/-- The lock is free: whoever holds it waits for the storage. -/
theorem Awaited.locked_of_atRest (h : s.Awaited) (hguarded : s.Guarded) (hrest : s.AtRest) :
    s.tracker.locked = false := by
  cases hlocked : s.tracker.locked with
  | false => rfl
  | true =>
    have hlock := hguarded.lock
    rw [hlocked] at hlock
    obtain ⟨j, d, hd, hholds⟩ := hlock.exists_of_true
    refine absurd ?_ (h j d hd (Call.request?_of_holds hholds _))
    rw [hrest.1]
    rfl

/-- The worker of a session at rest has taken all reports, unless there is none. -/
theorem Awaited.worker_of_atRest (h : s.Awaited) (hguarded : s.Guarded) (hrest : s.AtRest) :
    s.tracker.worker = .absent ∨ s.tracker.worker = .ended ∨
      s.tracker.worker = .listening ∧ s.tracker.inbox.queue = [] := by
  have hidle : s.tracker.runWorker = none := by
    have hrun := hrest.2 .worker
    simpa [Tracker.run] using hrun
  cases hworker : s.tracker.worker with
  | absent => exact .inl rfl
  | ended => exact .inr (.inl rfl)
  | listening =>
    cases hqueue : s.tracker.inbox.queue with
    | nil => exact .inr (.inr ⟨rfl, rfl⟩)
    | cons d rest =>
      -- The worker would take the delivery, or end if the page was left.
      cases hleft : s.tracker.selector.left <;> cases d <;>
        simp [Tracker.runWorker, hworker, hqueue, hleft] at hidle
  | settling stage =>
    have hd : s.doing .worker = some (.settling stage .applied) := by
      change s.tracker.worker.doing = _
      rw [hworker]
      rfl
    cases stage with
    | locking snapshot =>
      simp [Tracker.runWorker, hworker, Tracker.settleRun,
        h.locked_of_atRest hguarded hrest] at hidle
    | _ =>
      refine absurd ?_ (h _ _ hd (Call.request?_of_holds rfl _))
      rw [hrest.1]
      rfl

end Rest

end Session

end TaskTracking
