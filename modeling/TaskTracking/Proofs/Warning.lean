import TaskTracking.Proofs.Reports

/-! # The warning that updates are delayed

  While a task is tracked, the user is warned at most once, namely when the worker
  takes a report that polls for this task fail and push is not open. A report that
  comes while push is open is dropped, and the streak that it was about is reported no
  more. So when push then goes away, polls may fail on and on without a warning.

  `Session.warned_iff` says that a warning that is due when the session rests is
  missing for this reason, or because the streak was reported before its task was shown
  once more, or because nobody takes the reports.
-/

namespace TaskTracking

/-! ### What is told -/

def ViewCall.isWarning : ViewCall → Bool
  | .notify notice => notice.level = .warning
  | _ => false

namespace Tracker

variable {t t' : Tracker} {calls : List ViewCall}

/-- A turn in which the user is not warned. -/
inductive Speaks (t t' : Tracker) (calls : List ViewCall) : Prop where
  | calm (hwarnings : calls.countP ViewCall.isWarning = 0)
      (hshown : calls.filterMap ViewCall.shown? = [])
      (hnotified : t'.stallNotified = t.stallNotified)
  /-- The progress of a task begins to be shown. -/
  | begins (taskId : String) (hcalls : calls = [.showProgress taskId])
      (hnotified : t'.stallNotified = false) (hcurrent : t'.current = some taskId)

theorem startBackground_stallNotified (t : Tracker) :
    t.startBackground.stallNotified = t.stallNotified := by
  unfold startBackground
  split <;> rfl

theorem settle_spec (t : Tracker) (s : Snapshot) :
    (t.settle s).1.stallNotified = t.stallNotified ∧ (t.settle s).1.current = t.current := by
  unfold settle
  split <;> exact ⟨rfl, rfl⟩

theorem closing_speaks (s : Snapshot) :
    s.closing.countP ViewCall.isWarning = 0 ∧ s.closing.filterMap ViewCall.shown? = [] := by
  unfold Snapshot.closing
  split <;> exact ⟨rfl, rfl⟩

theorem endCancel_speaks (taskId : String) (failure : Option StorageFailure)
    (answer : Except TransportFailure Bool) :
    (endCancel taskId failure answer).1.countP ViewCall.isWarning = 0 ∧
      (endCancel taskId failure answer).1.filterMap ViewCall.shown? = [] := by
  cases answer with
  | error => cases failure <;> exact ⟨rfl, rfl⟩
  | ok refused => cases failure <;> cases refused <;> exact ⟨rfl, rfl⟩

theorem speaks_of_applies {stage : Settling} {answer : Except StorageFailure Store.Answer}
    {settled : Settled} (happlies : t.Applies stage answer (t', calls, settled)) :
    t.Speaks t' calls := by
  cases happlies with
  | @finished s => exact .calm (closing_speaks s).1 (closing_speaks s).2 rfl
  | _ => exact .calm rfl rfl rfl

theorem speaks_of_callTurn {d : Call} {reply : Option Reply} {turn : Turn}
    (hprepared : ∀ stage goal, d = .settling stage goal → stage.Prepared)
    (hturn : t.CallTurn d reply (t', calls, turn)) : t.Speaks t' calls := by
  cases hturn with
  | enter => exact .calm rfl rfl (startBackground_stallNotified t)
  | start => exact .calm rfl rfl (startBackground_stallNotified _)
  | apply => exact .calm rfl rfl (settle_spec t _).1
  | @conclude taskId s =>
    exact .calm rfl rfl (settle_spec { t with current := some taskId } (s.withId taskId)).1
  | @track taskId s =>
    obtain ⟨hnotified, hcurrent⟩ := settle_spec (t.beginTracking taskId).1 (s.withId taskId)
    exact .begins taskId rfl hnotified hcurrent
  | @begin taskId => exact .begins taskId rfl rfl rfl
  | @withdraw taskId failure answer _ _ hends =>
    obtain ⟨hwarnings, hshown⟩ := endCancel_speaks taskId failure answer
    rw [hends] at hwarnings hshown
    exact .calm hwarnings hshown rfl
  | @settle stage goal _ _ _ _ hsettle =>
    exact speaks_of_applies (applies_of_settleReply (hprepared stage goal rfl) hsettle)
  | _ => exact .calm rfl rfl rfl

end Tracker

namespace Session

variable {s s' s₀ s₁ : Session} {e : Event} {es : List Event} {taskId : String}

/-- How often the user was warned so far. -/
def warnings (s : Session) : Nat := (s.scenes.flatMap Scene.calls).countP ViewCall.isWarning

def PushOpen (s : Session) : Prop := s.tracker.selector.push.any (·.isOpen) = true

instance (s : Session) : Decidable s.PushOpen := inferInstanceAs (Decidable (_ = _))

/-- The worker takes a report that polls for the task fail, and push is not open. -/
def Alerts (s : Session) (taskId : String) (e : Event) : Prop := s.Learns taskId e ∧ ¬ s.PushOpen

instance (s : Session) (taskId : String) (e : Event) : Decidable (s.Alerts taskId e) :=
  inferInstanceAs (Decidable (_ ∧ _))

theorem warnings_after (s : Session) (e : Event) (turn : Tracker × List Output) :
    (s.after e turn).warnings =
      s.warnings + (viewCalls turn.2).countP ViewCall.isWarning := by
  unfold warnings
  rw [scenes_after, List.flatMap_append, List.countP_append, List.flatMap_singleton]

/-- What the user is told in an event, and whether the tracker remembers it. -/
inductive Tells (s : Session) (e : Event) (s' : Session) : Prop where
  | calm (hshown : s'.shown = s.shown) (hwarnings : s'.warnings = s.warnings)
      (hnotified : s'.tracker.stallNotified = s.tracker.stallNotified)
      (hknown : ∀ taskId, s.Alerts taskId e → s.tracker.current = some taskId →
        s.tracker.stallNotified = true)
  | warns {taskId : String} (halerts : s.Alerts taskId e)
      (hcurrent : s.tracker.current = some taskId) (hfirst : s.tracker.stallNotified = false)
      (hshown : s'.shown = s.shown) (hwarnings : s'.warnings = s.warnings + 1)
      (hnotified : s'.tracker.stallNotified = true)
  | begins (taskId : String) (hshown : s'.shown = s.shown ++ [taskId])
      (hwarnings : s'.warnings = s.warnings) (hnotified : s'.tracker.stallNotified = false)
      (hcurrent : s'.tracker.current = some taskId)

section Tells

variable {b : Session} {t : Tracker} {calls : List ViewCall} {turn : Tracker × List Output}

/-- An event in which the worker takes no report. -/
theorem tells_of_speaks (hhistory : b.history = s.history)
    (hspeaks : s.tracker.Speaks t calls) (hcalls : viewCalls turn.2 = calls)
    (hdeaf : ∀ taskId, ¬ s.Learns taskId e) (hnotified : turn.1.stallNotified = t.stallNotified)
    (hcurrent : turn.1.current = t.current) : s.Tells e (b.after e turn) := by
  have hshown : (b.after e turn).shown = s.shown ++ calls.filterMap ViewCall.shown? := by
    rw [shown_after, hcalls, shown, scenes, hhistory]
    rfl
  have hwarnings : (b.after e turn).warnings =
      s.warnings + calls.countP ViewCall.isWarning := by
    rw [warnings_after, hcalls, warnings, scenes, hhistory]
    rfl
  cases hspeaks with
  | calm hnone hunshown hkept =>
    refine .calm ?_ ?_ ?_ fun taskId halerts => absurd halerts.1 (hdeaf taskId)
    · rw [hshown, hunshown, List.append_nil]
    · rw [hwarnings, hnone, Nat.add_zero]
    · rw [after_tracker]
      exact hnotified.trans hkept
  | begins taskId hbegins hreset htracked =>
    subst hbegins
    refine .begins taskId hshown hwarnings ?_ ?_
    · rw [after_tracker]
      exact hnotified.trans hreset
    · rw [after_tracker]
      exact hcurrent.trans htracked

/-- Only a turn of the worker takes a report. -/
theorem not_learns (he : e ≠ .turn .worker) (taskId : String) : ¬ s.Learns taskId e :=
  fun hlearns => he (learns_iff.mp hlearns).1

theorem viewCalls_of_channels {outputs : List Output}
    (h : ∀ o ∈ outputs, isOfChannels o = true) : viewCalls outputs = [] := by
  refine List.filterMap_eq_nil_iff.mpr fun o ho => ?_
  have hchannel := h o ho
  cases o with
  | view => cases hchannel
  | _ => rfl

theorem tells_of_works (h : s.Guarded) (hworks : s.Works e (t, calls)) :
    s.Tells e ((s.forget .worker).after e (Tracker.afterWorker (t, calls))) := by
  have hviews := viewCalls_afterWorker t calls
  cases hworks with
  | run hrun =>
    have hstays := Tracker.stays_of_runWorker hrun
    cases Tracker.workerTurn_of_runWorker hrun with
    | quit hworker hleft =>
      refine tells_of_speaks rfl (.calm rfl rfl rfl) hviews (fun taskId hlearns => ?_) rfl rfl
      rw [(learns_iff.mp hlearns).2.2.1] at hleft
      cases hleft
    | @take source snapshot rest hworker hqueue =>
      have hsettle := (Tracker.settle_spec
        { s.tracker with inbox := { s.tracker.inbox with queue := rest } } snapshot).1
      refine tells_of_speaks rfl (.calm rfl rfl hsettle) hviews (fun taskId hlearns => ?_) rfl rfl
      obtain ⟨_, _, _, n, rest', hqueue'⟩ := learns_iff.mp hlearns
      rw [hqueue] at hqueue'
      cases hqueue'
    | @warn taskId n rest hworker hqueue hwarns =>
      obtain ⟨hcurrent, hpush, hfirst⟩ := hwarns
      have hlearns : s.Learns taskId (.turn .worker) := by
        refine learns_iff.mpr ⟨rfl, hworker, hstays hworker ?_, n, rest, hqueue⟩
        rw [hworker]
        nofun
      refine .warns ⟨hlearns, ?_⟩ hcurrent (by simpa using hfirst) ?_ ?_ ?_
      · unfold PushOpen
        simpa using hpush
      · rw [shown_after, hviews]
        exact List.append_nil _
      · rw [warnings_after, hviews]
        rfl
      · rw [after_tracker]
        rfl
    | @pass taskId n rest hworker hqueue hknown =>
      -- The worker keeps still about what is no news, or not about the tracked task.
      refine .calm ?_ ?_ ?_ fun taskId' halerts hcurrent => ?_
      · rw [shown_after, hviews]
        exact List.append_nil _
      · rw [warnings_after, hviews]
        rfl
      · rw [after_tracker]
        rfl
      · obtain ⟨hlearns, hpush⟩ := halerts
        obtain ⟨_, _, _, n', rest', hqueue'⟩ := learns_iff.mp hlearns
        rw [hqueue] at hqueue'
        cases hqueue'
        unfold PushOpen at hpush
        by_contra hfirst
        exact hknown ⟨hcurrent, by simpa using hpush, by simpa using hfirst⟩
    | lock hworker =>
      refine tells_of_speaks rfl (.calm rfl rfl rfl) hviews (fun taskId hlearns => ?_) rfl rfl
      rw [(learns_iff.mp hlearns).2.1] at hworker
      cases hworker
  | stored _ hreply =>
    obtain ⟨stage, t₁, settled, _, happlies, ht, _⟩ := applies_of_replyWorker h hreply
    have hspeaks := Tracker.speaks_of_applies happlies
    refine tells_of_speaks rfl hspeaks hviews (not_learns nofun) ?_ ?_
    · show t.stallNotified = _
      rw [ht]
    · show t.current = _
      rw [ht]

theorem tells_of_step (h : s.Guarded) (hstep : s.step e = some s') : s.Tells e s' := by
  cases happens_of_step hstep with
  | @call _ k d r hjob hd htakes =>
    obtain ⟨t, calls, turn⟩ := r
    obtain ⟨_, _, hturn⟩ := htakes.callTurn
    have hspeaks := Tracker.speaks_of_callTurn
      (fun stage goal heq => h.prepared (.call k) stage goal (heq ▸ hd)) hturn
    have hdeaf : ∀ taskId, ¬ s.Learns taskId e := by
      refine not_learns ?_
      rintro rfl
      cases hjob
    obtain ⟨cs, htracker⟩ := Tracker.afterCall_fst k t calls turn
    have hviews := viewCalls_afterCall k t calls turn
    refine tells_of_speaks rfl hspeaks hviews hdeaf ?_ ?_
    · rw [htracker]
    · rw [htracker]
  | @worker _ r hjob hworks =>
    obtain ⟨t, calls⟩ := r
    exact tells_of_works h hworks
  | @channel _ b selector inbox outputs hjob hbeside hchannels =>
    have hdeaf : ∀ taskId, ¬ s.Learns taskId e := by
      refine not_learns ?_
      rintro rfl
      cases hjob .worker rfl
    exact tells_of_speaks hbeside.history (t := s.tracker) (.calm rfl rfl rfl)
      (viewCalls_of_channels hchannels) hdeaf rfl rfl
  | called | disturbed =>
    exact tells_of_speaks rfl (t := s.tracker) (.calm rfl rfl rfl) rfl (not_learns nofun) rfl rfl
  | left =>
    have hleave : s.tracker.leave.stallNotified = s.tracker.stallNotified ∧
        s.tracker.leave.current = s.tracker.current := by
      unfold Tracker.leave
      dsimp only
      split <;> exact ⟨rfl, rfl⟩
    exact tells_of_speaks rfl (t := s.tracker) (.calm rfl rfl rfl) rfl (not_learns nofun)
      hleave.1 hleave.2

end Tells

/-! ### Episodes -/

/-- The event goes on with the tracking of the task, of which it shows no new beginning. -/
def During (taskId : String) (s : Session) (e : Event) : Prop :=
  ∀ s' ∈ s.step e, s'.tracker.current = some taskId ∧ s'.shown = s.shown

instance (taskId : String) (s : Session) (e : Event) : Decidable (During taskId s e) := by
  unfold During
  infer_instance

/-- **Counting.** In an episode there is a warning if the worker takes a report while push
    is not open, and the tracker remembers it. -/
theorem warnings_of_play (h : s₁.Guarded) (hcurrent : s₁.tracker.current = some taskId)
    (hrun : play (During taskId) es s₁ = some s) :
    s.warnings = s₁.warnings +
      if s₁.tracker.stallNotified = false ∧ Sometime (Alerts · taskId ·) es s₁ then 1 else 0 := by
  induction es generalizing s₁ with
  | nil =>
    cases hrun
    simp [Sometime, Along]
  | cons e es ih =>
    obtain ⟨hduring, s₂, hstep, hrest⟩ := play_cons_iff.mp hrun
    obtain ⟨hcurrent₂, hshown₂⟩ := hduring s₂ hstep
    rw [ih (h.step hstep) hcurrent₂ hrest]
    simp only [sometime_cons_iff hstep]
    cases tells_of_step h hstep with
    | calm _ hwarnings hnotified hknown =>
      rw [hwarnings, hnotified]
      cases hnotified₁ : s₁.tracker.stallNotified with
      | true => simp
      | false =>
        -- Had the worker taken a report now, the tracker would remember the warning.
        have hquiet : ¬ s₁.Alerts taskId e := by
          intro halerts
          rw [hknown taskId halerts hcurrent] at hnotified₁
          cases hnotified₁
        simp [hquiet]
    | warns halerts hcurrent' hfirst _ hwarnings hnotified =>
      cases hcurrent.symm.trans hcurrent'
      simp [hfirst, halerts, hwarnings, hnotified]
    | begins _ hshown => exact absurd (hshown.symm.trans hshown₂) (by simp)

/-- **Safety.** In an episode only a report of its task, and only while push is not open,
    makes the user be warned. -/
theorem alerts_along (h : s₁.Guarded) (hcurrent : s₁.tracker.current = some taskId)
    (hrun : play (During taskId) es s₁ = some s) :
    Along (fun s e => ∀ s' ∈ s.step e, s'.warnings ≠ s.warnings → s.Alerts taskId e) es s₁ := by
  induction es generalizing s₁ with
  | nil => trivial
  | cons e es ih =>
    obtain ⟨hduring, s₂, hstep, hrest⟩ := play_cons_iff.mp hrun
    obtain ⟨hcurrent₂, _⟩ := hduring s₂ hstep
    simp only [Along, hstep, Option.mem_some_iff, forall_eq']
    refine ⟨fun hwarned => ?_, ih (h.step hstep) hcurrent₂ hrest⟩
    cases tells_of_step h hstep with
    | calm _ hwarnings => exact absurd hwarnings hwarned
    | warns halerts hcurrent' =>
      cases hcurrent.symm.trans hcurrent'
      exact halerts
    | begins _ _ hwarnings => exact absurd hwarnings hwarned

/-- An episode begins without a warning in it. -/
theorem begun_of_shown (h : s₀.Guarded) (hbegins : s₀.step e = some s₁)
    (hshown : s₁.shown = s₀.shown ++ [taskId]) :
    s₁.tracker.stallNotified = false ∧ s₁.tracker.current = some taskId := by
  cases tells_of_step h hbegins with
  | calm hsame | warns _ _ _ hsame => exact absurd (hshown.symm.trans hsame) (by simp)
  | begins taskId' hshown' _ hnotified hcurrent =>
    have heq : taskId = taskId' := by simpa using hshown.symm.trans hshown'
    exact heq ▸ ⟨hnotified, hcurrent⟩

/-! ### What is overlooked -/

/-- The current poll loop polls the task, and its streak is as long as is reported. -/
def Overdue (s : Session) (taskId : String) : Prop :=
  ∃ i ∈ s.tracker.selector.poll.active, s.Fails i taskId

instance (s : Session) (taskId : String) : Decidable (s.Overdue taskId) := by
  unfold Overdue
  infer_instance

/-- What a user may expect of the warnings in an episode of the task, which has begun with
    `s₁` and has come to `s`: there is one at most, for this task and not while push is
    open; and it is there if the session rests, polls for the task fail again and again,
    and push is not open. -/
structure Warned (taskId : String) (es : List Event) (s₁ s : Session) : Prop where
  once : s.warnings ≤ s₁.warnings + 1
  own : Along (fun s e => ∀ s' ∈ s.step e, s'.warnings ≠ s.warnings → s.Alerts taskId e) es s₁
  told : s.AtRest → s.Overdue taskId → ¬ s.PushOpen → s₁.warnings < s.warnings

/-- How it can be overlooked in an episode that polls fail. -/
inductive Overlooked (taskId : String) (es : List Event) (s₁ s : Session) : Prop where
  /-- Whenever a report is taken push is open. -/
  | dropped (htaken : Sometime (Learns · taskId ·) es s₁)
      (hopen : Along (fun s e => s.Learns taskId e → s.PushOpen) es s₁)
  /-- No report is taken, as the streak of the current loop is older than the episode. -/
  | older {i : Nat} (huntaken : ¬ Sometime (Learns · taskId ·) es s₁)
      (hactive : s.tracker.selector.poll.active = some i)
      (hfails : Along (fun s _ => s.Fails i taskId) es s₁)
  /-- Nobody takes the reports: the background jobs were not started, or have ended. -/
  | unread (huntaken : ¬ Sometime (Learns · taskId ·) es s₁)
      (hworker : s.tracker.worker = .absent ∨ s.tracker.worker = .ended)

/-- What is overlooked makes nobody be warned. -/
theorem Overlooked.silent (h : Overlooked taskId es s₁ s) :
    ¬ Sometime (Alerts · taskId ·) es s₁ := by
  cases h with
  | dropped _ hopen =>
    exact not_not.mpr (hopen.mono fun _ _ hopen halerts => halerts.2 (hopen halerts.1))
  | older huntaken | unread huntaken =>
    exact not_not.mpr ((not_not.mp huntaken).mono fun _ _ huntaken halerts => huntaken halerts.1)

/-- What fails in an episode without a warning was overlooked: a session that rests has no
    report left to take. -/
theorem overlooked_of_atRest (hattentive : s₁.Attentive) (hawaited : s.Awaited)
    (hguarded : s.Guarded) (hrun : play (During taskId) es s₁ = some s) (hrest : s.AtRest)
    (hoverdue : s.Overdue taskId) (hsilent : ¬ Sometime (Alerts · taskId ·) es s₁) :
    Overlooked taskId es s₁ s := by
  by_cases htaken : Sometime (Learns · taskId ·) es s₁
  · refine .dropped htaken ((not_not.mp hsilent).mono fun s e hsilent hlearns => ?_)
    by_contra hpush
    exact hsilent ⟨hlearns, hpush⟩
  · obtain ⟨i, hactive, hfails⟩ := hoverdue
    rcases hawaited.worker_of_atRest hguarded hrest with habsent | hended | ⟨hworker, hqueue⟩
    · exact .unread htaken (.inl habsent)
    · exact .unread htaken (.inr hended)
    · have hgoes : s.tracker.worker ≠ .ended := by
        rw [hworker]
        nofun
      -- Nobody has taken a report, and none waits: the loop has failed all along.
      rcases hattentive.reported_of_play hrun hgoes hfails with halong | ⟨n, hwaits⟩ | hlearnt
      · exact .older htaken hactive halong
      · rw [hqueue] at hwaits
        cases hwaits
      · exact absurd hlearnt htaken

/-- **Warnings.** Whatever the order in which polls fail and push opens and closes, the
    user is warned in an episode as is to be expected, unless polls for its task fail
    again and again while push is not open, and this was overlooked. -/
theorem warned_iff {config : Config} {t : Tracker} (hconfig : Tracker.ofConfig config = .ok t)
    {entries : Store.Entries} {allowed : Session → Event → Prop}
    (hbefore : Reaches allowed (opened t entries) s₀) (hbegins : s₀.step e = some s₁)
    (hshown : s₁.shown = s₀.shown ++ [taskId]) (hrun : play (During taskId) es s₁ = some s) :
    Warned taskId es s₁ s ↔
      (s.AtRest → s.Overdue taskId → ¬ s.PushOpen → ¬ Overlooked taskId es s₁ s) := by
  have hreached : Reaches (fun _ _ => True) (opened t entries) s₁ :=
    .step e (hbefore.mono fun _ _ _ => trivial) trivial hbegins
  have hreached' : Reaches (fun _ _ => True) (opened t entries) s :=
    hreached.trans ((reaches_of_play hrun).mono fun _ _ _ => trivial)
  have hattentive := attentive_of_reaches hconfig hreached
  obtain ⟨hfirst, hcurrent⟩ := begun_of_shown (guarded_of_reaches hconfig hbefore) hbegins hshown
  have hwarnings := warnings_of_play hattentive.guarded hcurrent hrun
  simp only [hfirst, true_and] at hwarnings
  constructor
  · intro hwarned hrest hoverdue hpush hoverlooked
    have htold := hwarned.told hrest hoverdue hpush
    rw [hwarnings, if_neg hoverlooked.silent] at htold
    exact Nat.lt_irrefl _ htold
  · intro hseen
    refine ⟨?_, alerts_along hattentive.guarded hcurrent hrun, fun hrest hoverdue hpush => ?_⟩
    · rw [hwarnings]
      split <;> omega
    · rw [hwarnings]
      split
      · exact Nat.lt_succ_self _
      · next hsilent =>
        refine absurd ?_ (hseen hrest hoverdue hpush)
        exact overlooked_of_atRest hattentive (awaited_of_reaches hconfig hreached')
          (guarded_of_reaches hconfig hreached') hrun hrest hoverdue hsilent

/-- A page whose push is downgraded when it is lost once, and which has streaks of two failures
    reported. -/
def attentivePage : Config :=
  { pollingPage with
    push := some { url := { scheme := "ws", path := .segments [] }, maxRetry := 1 }
    stallThreshold := 2 }

/-- The session in which the tracker of that page begins. -/
def attending : Session :=
  opened
    { identity := ⟨attentivePage.pageKey⟩
      selector :=
        { push := attentivePage.push.map Push.Channel.ofSettings
          poll := { interval := attentivePage.pollInterval, threshold := 2 } } }
    (.ofList [])

/-- The page is entered and starts a task, while push is connecting. -/
def starting : List Event :=
  [.called 0 .entering, .turn (.call 0), .stored (.call 0), .turn .cycle, .turn (.watcher 0),
    .called 1 (.starting .null), .turn (.call 1), .answered (.call 1) (.created (.ok "new"))]

/-- The task is polled once more, in vain. -/
def failing : List Event :=
  [.elapsed 2000, .turn (.loop 0), .turn (.request 0),
    .answered (.request 0) (.status (.error .timeout))]

/-- Two polls fail, and push is still connecting. -/
def stalled : List Event := [.turn (.loop 0)] ++ failing ++ failing ++ [.turn .worker]

/-- Two polls fail while push is open. Then push is lost, and a third one fails. -/
def dismissed : List Event :=
  [.turn (.loop 0), .connected (.ok ()), .turn .cycle, .turn (.watcher 0)] ++ failing ++ failing ++
    [.turn .worker, .received .closed, .turn .cycle, .turn (.watcher 0)] ++ failing

/-- While push is connecting the user is warned when two polls have failed. -/
theorem warned_stalled : ∃ s₀ s₁ s, play Fair starting attending = some s₀ ∧
    s₀.step (.stored (.call 1)) = some s₁ ∧ play (During "new") stalled s₁ = some s ∧
      s.AtRest ∧ s.Overdue "new" ∧ ¬ s.PushOpen ∧ Warned "new" stalled s₁ s := by
  have hplayed : (play Fair starting attending).any (fun s₀ =>
      (s₀.step (.stored (.call 1))).any fun s₁ =>
        decide (s₁.shown = s₀.shown ++ ["new"] ∧ Sometime (Alerts · "new" ·) stalled s₁) &&
        (play (During "new") stalled s₁).any fun s =>
          decide (s.AtRest ∧ s.Overdue "new" ∧ ¬ s.PushOpen)) := by decide
  obtain ⟨s₀, hs₀, hplayed⟩ := (Option.any_eq_true ..).mp hplayed
  obtain ⟨s₁, hs₁, hplayed⟩ := (Option.any_eq_true ..).mp hplayed
  obtain ⟨hbegins, hplayed⟩ := (Bool.and_eq_true _ _).mp hplayed
  obtain ⟨hshown, halerts⟩ := of_decide_eq_true hbegins
  obtain ⟨s, hs, hholds⟩ := (Option.any_eq_true ..).mp hplayed
  obtain ⟨hrest, hoverdue, hpush⟩ := of_decide_eq_true hholds
  have hconfig : Tracker.ofConfig attentivePage = .ok attending.tracker := rfl
  exact ⟨s₀, s₁, s, hs₀, hs₁, hs, hrest, hoverdue, hpush,
    (warned_iff hconfig (reaches_of_play hs₀) hs₁ hshown hs).mpr
      fun _ _ _ hoverlooked => hoverlooked.silent halerts⟩

/-- Push is downgraded, polls fail again and again, and the user is never told. -/
theorem not_warned_dismissed : ∃ s₀ s₁ s, play Fair starting attending = some s₀ ∧
    s₀.step (.stored (.call 1)) = some s₁ ∧ s₁.shown = s₀.shown ++ ["new"] ∧
      play (During "new") dismissed s₁ = some s ∧ s.AtRest ∧ s.Overdue "new" ∧
        s.tracker.selector.push.any (·.downgraded) ∧ s.warnings = 0 ∧
          ¬ Warned "new" dismissed s₁ s := by
  have hplayed : (play Fair starting attending).any (fun s₀ =>
      (s₀.step (.stored (.call 1))).any fun s₁ => decide (s₁.shown = s₀.shown ++ ["new"]) &&
        (play (During "new") dismissed s₁).any fun s => decide (s.AtRest ∧ s.Overdue "new" ∧
          s.tracker.selector.push.any (·.downgraded) ∧ ¬ s.PushOpen ∧ s.warnings = 0)) := by decide
  obtain ⟨s₀, hs₀, hplayed⟩ := (Option.any_eq_true ..).mp hplayed
  obtain ⟨s₁, hs₁, hplayed⟩ := (Option.any_eq_true ..).mp hplayed
  obtain ⟨hshown, hplayed⟩ := (Bool.and_eq_true _ _).mp hplayed
  obtain ⟨s, hs, hholds⟩ := (Option.any_eq_true ..).mp hplayed
  obtain ⟨hrest, hoverdue, hdowngraded, hpush, hnone⟩ := of_decide_eq_true hholds
  refine ⟨s₀, s₁, s, hs₀, hs₁, of_decide_eq_true hshown, hs, hrest, hoverdue, hdowngraded, hnone,
    ?_⟩
  intro hwarned
  have htold := hwarned.told hrest hoverdue hpush
  rw [hnone] at htold
  exact absurd htold (Nat.not_lt_zero _)

end Session

end TaskTracking
