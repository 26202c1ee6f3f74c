import TaskTracking.Proofs.Storage

/-! # What a call and the worker can do

  One constructor for each thing that a turn of a call or of the worker can be, with
  all that it presupposes. What holds of every turn is proved by cases on these.
-/

namespace TaskTracking

/-- The call at which a job is after its turn. -/
@[simp] def Turn.next : Turn → Option Call
  | .waiting d => some d
  | .over _ => none

namespace Tracker

/-! ### Applying a snapshot -/

theorem carryOut_lastEffects (t : Tracker) (s : Snapshot) (display : Display) :
    t.carryOut s display s.lastEffects =
      ({ t with selector := t.selector.unsubscribe }, s.closing, none) := by
  unfold Snapshot.lastEffects Snapshot.farewell Snapshot.closing
  cases hs : s.status <;> rfl

theorem settleRead_of_ne (t : Tracker) {s : Snapshot} {found : Option String}
    (h : Store.Identity.taskId? found ≠ some s.id) :
    t.settleRead s found = (t.unlock, [], .over (.ok { display := t.display, effects := [] })) := by
  unfold settleRead
  rw [Display.apply_of_ne h]
  rfl

theorem settleRead_of_running (t : Tracker) {s : Snapshot} {found : Option String}
    (h : Store.Identity.taskId? found = some s.id) (hrun : s.isTerminal = false) :
    t.settleRead s found =
      ({ t with display := t.display.following s }.unlock,
        [.updateProgress (t.display.following s)],
        .over (.ok (t.display.apply s (some s.id)))) := by
  unfold settleRead
  rw [h]
  simp only [Applied.isNoop, settleEffects, endSettling, Applied.isTerminal,
    Display.effects_of_running hrun]
  rfl

theorem settleRead_of_terminal (t : Tracker) {s : Snapshot} {found : Option String}
    (h : Store.Identity.taskId? found = some s.id) (hend : s.isTerminal = true) :
    t.settleRead s found =
      ({ t with display := t.display.following s }, [],
        .waiting (.clearing s (t.display.apply s (some s.id)) s.lastEffects)) := by
  unfold settleRead
  rw [h]
  simp only [Applied.isNoop, settleEffects, Display.effects_of_terminal hend]
  rfl

theorem settleEffects_last (t : Tracker) (s : Snapshot) {applied : Applied}
    (h : applied.isTerminal = true) :
    t.settleEffects s applied s.lastEffects =
      (((({ t with selector := t.selector.unsubscribe, current := none } : Tracker).enter
          .done).enter .idle).unlock, s.closing, .over (.ok applied)) := by
  unfold settleEffects
  rw [carryOut_lastEffects]
  simp only [endSettling, h, ↓reduceIte]

/-- A job that applies a snapshot goes on with the storage's answer. -/
inductive Applies (t : Tracker) : Settling → Except StorageFailure Store.Answer →
    Tracker × List ViewCall × Settled → Prop where
  /-- Without the stored id nothing is applied. -/
  | failed {s : Snapshot} {failure : StorageFailure} :
      Applies t (.reading s) (.error failure) (t.unlock, [], .over (.error failure))
  | ignored {s : Snapshot} {found : Option String}
      (hother : Store.Identity.taskId? found ≠ some s.id) :
      Applies t (.reading s) (.ok (.value found))
        (t.unlock, [], .over (.ok { display := t.display, effects := [] }))
  | redrawn {s : Snapshot} {found : Option String}
      (hsame : Store.Identity.taskId? found = some s.id) (hrun : s.isTerminal = false) :
      Applies t (.reading s) (.ok (.value found))
        ({ t with display := t.display.following s }.unlock,
          [.updateProgress (t.display.following s)],
          .over (.ok (t.display.apply s (some s.id))))
  | closed {s : Snapshot} {found : Option String}
      (hsame : Store.Identity.taskId? found = some s.id) (hend : s.isTerminal = true) :
      Applies t (.reading s) (.ok (.value found))
        ({ t with display := t.display.following s }, [],
          .waiting (.clearing s (t.display.apply s (some s.id)) s.lastEffects))
  | finished {s : Snapshot} {applied : Applied} {answer : Except StorageFailure Store.Answer} :
      Applies t (.clearing s applied s.lastEffects) answer
        (((({ t with selector := t.selector.unsubscribe, current := none } : Tracker).enter
            .done).enter .idle).unlock, s.closing, .over (.ok applied))

theorem applies_of_settleReply {t : Tracker} {stage : Settling}
    {answer : Except StorageFailure Store.Answer} {r : Tracker × List ViewCall × Settled}
    (hprepared : stage.Prepared) (hreply : t.settleReply stage answer = some r) :
    t.Applies stage answer r := by
  cases stage with
  | locking s => cases answer <;> simp [settleReply] at hreply
  | reading s =>
    cases answer with
    | error failure =>
      cases hreply
      exact .failed
    | ok a =>
      cases a with
      | value found =>
        simp only [settleReply, Option.some.injEq] at hreply
        by_cases hsame : Store.Identity.taskId? found = some s.id
        · cases hend : s.isTerminal with
          | false =>
            rw [settleRead_of_running t hsame hend] at hreply
            exact hreply ▸ .redrawn hsame hend
          | true =>
            rw [settleRead_of_terminal t hsame hend] at hreply
            exact hreply ▸ .closed hsame hend
        · rw [settleRead_of_ne t hsame] at hreply
          exact hreply ▸ .ignored hsame
      | _ => simp [settleReply] at hreply
  | clearing s applied rest =>
    -- A prepared snapshot has only its last effects to come, which end the task for good.
    obtain ⟨hterminal, rfl⟩ := hprepared
    have hlast : some (t.settleEffects s applied s.lastEffects) = some r := by
      cases answer <;> exact hreply
    rw [settleEffects_last _ _ hterminal] at hlast
    exact Option.some.inj hlast ▸ .finished

/-! ### Calls -/

/-- A resume that finds its task ended does not begin to track it. -/
theorem resumeFrom_of_terminal (t : Tracker) (taskId : String) {s : Snapshot}
    (h : s.isTerminal = true) :
    t.resumeFrom taskId s =
      (({ t with current := some taskId }.settle (s.withId taskId)).1, [],
        .waiting (.settling ({ t with current := some taskId }.settle (s.withId taskId)).2
          (.finished taskId s.status))) := by
  unfold resumeFrom
  simp only [show (s.withId taskId).isTerminal = true from h, ↓reduceIte]
  rfl

theorem resumeFrom_of_running (t : Tracker) (taskId : String) {s : Snapshot}
    (h : s.isTerminal = false) :
    t.resumeFrom taskId s =
      (((t.beginTracking taskId).1.settle (s.withId taskId)).1, (t.beginTracking taskId).2,
        .waiting (.settling ((t.beginTracking taskId).1.settle (s.withId taskId)).2
          (.resumed taskId))) := by
  unfold resumeFrom
  simp only [show (s.withId taskId).isTerminal = false from h, Bool.false_eq_true, ↓reduceIte]

/-- The end of cancelling gives notices and does not resume. -/
theorem endCancel_spec (taskId : String) (failure : Option StorageFailure)
    (answer : Except TransportFailure Bool) :
    (∀ call ∈ (endCancel taskId failure answer).1, ∃ notice, call = .notify notice) ∧
      ∃ result, (endCancel taskId failure answer).2 = .over result ∧
        result.isResumption = false := by
  have hresult : (cancelResult taskId answer).2.isResumption = false := by
    unfold cancelResult
    split <;> rfl
  unfold endCancel
  cases failure with
  | none => exact ⟨by simp, _, rfl, hresult⟩
  | some failure =>
    refine ⟨by simp, _, rfl, ?_⟩
    cases (cancelResult taskId answer).2 <;> rfl

/-- What one turn of a call does, without an answer or with the one that it waits for. -/
inductive CallTurn (t : Tracker) :
    Call → Option Reply → Tracker × List ViewCall × Turn → Prop where
  | enter : CallTurn t .entering none (t.enterPage.1, [], t.enterPage.1.resume)
  | resume : CallTurn t .resuming none (t, [], t.resume)
  | start {params : Json.Value} (hidle : t.lifecycle = .idle) :
      CallTurn t (.starting params) none
        ((t.enter .creating).startBackground, [], .waiting (.creating params))
  /-- A new call that the lifecycle does not allow. -/
  | refuse {d : Call} {error : TrackingError} (hnew : d.isNew = true) :
      CallTurn t d none (t, [], .failed error)
  | release {taskId : String} (hlocked : t.locked = false) (htracking : t.lifecycle = .tracking)
      (hcurrent : t.current = some taskId) :
      CallTurn t .cancelling none
        ({ t with
            current := none
            selector := t.selector.unsubscribe
            display := {} }.enter .idle |>.lock,
          [.hideProgress], .waiting (.erasing taskId))
  | apply {s : Snapshot} :
      CallTurn t (.applying s) none
        ((t.settle s).1, [], .waiting (.settling (t.settle s).2 .applied))
  | lock {s : Snapshot} {goal : Goal} (hlocked : t.locked = false) :
      CallTurn t (.settling (.locking s) goal) none
        (t.lock, [], .waiting (.settling (.reading s) goal))
  | nothing {found : Option String} (hfound : Store.Identity.taskId? found = none) :
      CallTurn t .loading (some (.store (.ok (.value found)))) (t, [], .resumption .nothing)
  | found {found : Option String} {taskId : String}
      (hfound : Store.Identity.taskId? found = some taskId) :
      CallTurn t .loading (some (.store (.ok (.value found)))) (t, [], .waiting (.fetching taskId))
  /-- A resume whose storage fails. -/
  | fail {d : Call} {failure : StorageFailure}
      (hd : d = .loading ∨ ∃ taskId, d = .forgetting taskId) :
      CallTurn t d (some (.store (.error failure))) (t, [], .failed (.storage failure))
  | conclude {taskId : String} {s : Snapshot} (hend : s.isTerminal = true) :
      CallTurn t (.fetching taskId) (some (.status (.ok s)))
        (({ t with current := some taskId }.settle (s.withId taskId)).1, [],
          .waiting (.settling ({ t with current := some taskId }.settle (s.withId taskId)).2
            (.finished taskId s.status)))
  | track {taskId : String} {s : Snapshot} (hrun : s.isTerminal = false) :
      CallTurn t (.fetching taskId) (some (.status (.ok s)))
        (((t.beginTracking taskId).1.settle (s.withId taskId)).1, (t.beginTracking taskId).2,
          .waiting (.settling ((t.beginTracking taskId).1.settle (s.withId taskId)).2
            (.resumed taskId)))
  | forget {taskId : String} {failure : TransportFailure} :
      CallTurn t (.fetching taskId) (some (.status (.error failure)))
        (t, [], .waiting (.forgetting taskId))
  | stale {taskId : String} {answer : Store.Answer} :
      CallTurn t (.forgetting taskId) (some (.store (.ok answer)))
        (t, [], .resumption (.stale taskId))
  | save {params : Json.Value} {taskId : String} :
      CallTurn t (.creating params) (some (.created (.ok taskId)))
        (t, [], .waiting (.saving taskId))
  | giveUp {params : Json.Value} {failure : TransportFailure} :
      CallTurn t (.creating params) (some (.created (.error failure)))
        ((t.giveUp failure.text).1, (t.giveUp failure.text).2, .failed (.create failure))
  | begin {taskId : String} {answer : Store.Answer} :
      CallTurn t (.saving taskId) (some (.store (.ok answer)))
        ((t.beginTracking taskId).1, (t.beginTracking taskId).2, .over (.ok (.started taskId)))
  /-- A task whose id could not be stored is taken back. -/
  | revoke {taskId : String} {failure : StorageFailure} :
      CallTurn t (.saving taskId) (some (.store (.error failure)))
        ((t.giveUp failure.text).1, (t.giveUp failure.text).2, .waiting (.revoking taskId failure))
  | revoked {taskId : String} {cause : StorageFailure} {answer : Except TransportFailure Bool} :
      CallTurn t (.revoking taskId cause) (some (.cancelled answer))
        (t, [], .failed (.storage cause))
  | erase {taskId : String} {result : Except StorageFailure Store.Answer}
      {failure : Option StorageFailure}
      (hfailure : ∀ f, failure = some f ↔ result = .error f) :
      CallTurn t (.erasing taskId) (some (.store result))
        (t.unlock, [], .waiting (.withdrawing taskId failure))
  | withdraw {taskId : String} {failure : Option StorageFailure}
      {answer : Except TransportFailure Bool} {calls : List ViewCall} {result : Outcome.Result}
      (hends : endCancel taskId failure answer = (calls, .over result))
      (hnotices : ∀ call ∈ calls, ∃ notice, call = .notify notice) :
      CallTurn t (.withdrawing taskId failure) (some (.cancelled answer)) (t, calls, .over result)
  | settle {stage : Settling} {goal : Goal} {answer : Except StorageFailure Store.Answer}
      {t' : Tracker} {calls : List ViewCall} {settled : Settled}
      (hsettle : t.settleReply stage answer = some (t', calls, settled)) :
      CallTurn t (.settling stage goal) (some (.store answer)) (t', calls, settled.turn goal)

theorem callTurn_of_runCall {t : Tracker} {d : Call} {r : Tracker × List ViewCall × Turn}
    (hrun : t.runCall d = some r) : t.CallTurn d none r := by
  cases d with
  | entering =>
    cases hrun
    exact .enter
  | resuming =>
    cases hrun
    exact .resume
  | starting params =>
    simp only [runCall, start, Option.some.injEq] at hrun
    split at hrun
    · next hidle =>
      cases hrun
      exact .start hidle
    · cases hrun
      exact .refuse rfl
  -- A cancel waits for the lock before it looks at the lifecycle.
  | cancelling =>
    simp only [runCall] at hrun
    split at hrun
    · cases hrun
    · next hlocked =>
      simp only [release, Option.some.injEq] at hrun
      split at hrun
      · next htracking =>
        split at hrun
        · cases hrun
          exact .refuse rfl
        · next taskId hcurrent =>
          cases hrun
          exact .release (Bool.of_not_eq_true hlocked) htracking hcurrent
      · cases hrun
        exact .refuse rfl
  | applying s =>
    cases hrun
    exact .apply
  | settling stage goal =>
    obtain ⟨⟨t', stage'⟩, hsettle, hturn⟩ := Option.map_eq_some_iff.mp hrun
    cases hturn
    cases stage with
    | locking s =>
      simp only [settleRun] at hsettle
      split at hsettle
      · cases hsettle
      · next hlocked =>
        cases hsettle
        exact .lock (Bool.of_not_eq_true hlocked)
    | _ => cases hsettle
  | _ => cases hrun

/-- The storage's answer to a call. -/
theorem callTurn_of_kept {t : Tracker} {d : Call} {answer : Except StorageFailure Store.Answer}
    {r : Tracker × List ViewCall × Turn} (hreply : t.replyCall d (.store answer) = some r) :
    t.CallTurn d (some (.store answer)) r := by
  -- Five kinds of calls ask the storage; a failure means something else to each of them.
  cases d with
  | loading =>
    cases answer with
    | error =>
      cases hreply
      exact .fail (.inl rfl)
    | ok answer =>
      cases answer with
      | value found =>
        simp only [replyCall] at hreply
        cases hfound : Store.Identity.taskId? found with
        | none =>
          rw [hfound] at hreply
          cases hreply
          exact .nothing hfound
        | some taskId =>
          rw [hfound] at hreply
          cases hreply
          exact .found hfound
      | _ => simp [replyCall] at hreply
  | forgetting taskId =>
    cases answer with
    | error =>
      cases hreply
      exact .fail (.inr ⟨taskId, rfl⟩)
    | ok =>
      cases hreply
      exact .stale
  | saving taskId =>
    cases answer with
    | error =>
      cases hreply
      exact .revoke
    | ok =>
      cases hreply
      exact .begin
  | erasing taskId =>
    cases hreply
    refine .erase fun f => ?_
    cases answer with
    | ok => exact ⟨by rintro ⟨⟩, by rintro ⟨⟩⟩
    | error => simp
  | settling stage goal =>
    obtain ⟨⟨t', calls, settled⟩, hsettle, hturn⟩ := Option.map_eq_some_iff.mp hreply
    cases hturn
    exact .settle hsettle
  | _ => simp [replyCall] at hreply

/-- The status of a task that a resumption has asked for. -/
theorem callTurn_of_status {t : Tracker} {d : Call} {result : Except TransportFailure Snapshot}
    {r : Tracker × List ViewCall × Turn} (hreply : t.replyCall d (.status result) = some r) :
    t.CallTurn d (some (.status result)) r := by
  cases d with
  | fetching taskId =>
    cases result with
    | error =>
      cases hreply
      exact .forget
    | ok s =>
      simp only [replyCall, Option.some.injEq] at hreply
      subst hreply
      cases hend : s.isTerminal with
      | true =>
        rw [resumeFrom_of_terminal t taskId hend]
        exact .conclude hend
      | false =>
        rw [resumeFrom_of_running t taskId hend]
        exact .track hend
  | _ => simp [replyCall] at hreply

/-- The answer to a cancellation that a call has asked for. -/
theorem callTurn_of_cancelled {t : Tracker} {d : Call} {answer : Except TransportFailure Bool}
    {r : Tracker × List ViewCall × Turn} (hreply : t.replyCall d (.cancelled answer) = some r) :
    t.CallTurn d (some (.cancelled answer)) r := by
  cases d with
  | revoking =>
    cases hreply
    exact .revoked
  | withdrawing taskId failure =>
    obtain ⟨hnotices, result, hturn, _⟩ := endCancel_spec taskId failure answer
    simp only [replyCall, Option.some.injEq] at hreply
    subst hreply
    rw [hturn]
    exact .withdraw (Prod.ext rfl hturn) hnotices
  | _ => simp [replyCall] at hreply

theorem callTurn_of_replyCall {t : Tracker} {d : Call} {reply : Reply}
    {r : Tracker × List ViewCall × Turn} (hreply : t.replyCall d reply = some r) :
    t.CallTurn d (some reply) r := by
  -- A call in progress waits for answers of one kind only, and has no turn with others.
  cases reply with
  | store => exact callTurn_of_kept hreply
  | status => exact callTurn_of_status hreply
  | cancelled => exact callTurn_of_cancelled hreply
  | created result =>
    cases d with
    | creating params =>
      cases result with
      | error =>
        cases hreply
        exact .giveUp
      | ok =>
        cases hreply
        exact .save
    | _ => simp [replyCall] at hreply
  | connected => cases d <;> simp [replyCall] at hreply

/-! ### The worker -/

/-- What one turn of the worker does that needs no answer. -/
inductive WorkerTurn (t : Tracker) : Tracker × List ViewCall → Prop where
  /-- The page was left. -/
  | quit (hworker : t.worker = .listening) (hleft : t.selector.left = true) :
      WorkerTurn t ({ t with worker := .ended, inbox := .closed }, [])
  | take {source : Source} {s : Snapshot} {rest : List Delivery} (hworker : t.worker = .listening)
      (hqueue : t.inbox.queue = .snapshot source s :: rest) :
      WorkerTurn t
        ({ ({ t with inbox := { t.inbox with queue := rest } }.settle s).1 with
            worker := .settling ({ t with inbox := { t.inbox with queue := rest } }.settle s).2 },
          [])
  | warn {taskId : String} {n : Nat} {rest : List Delivery} (hworker : t.worker = .listening)
      (hqueue : t.inbox.queue = .stalled taskId n :: rest)
      (hwarns : t.current = some taskId ∧ !t.selector.push.any (·.isOpen) ∧ !t.stallNotified) :
      WorkerTurn t
        ({ t with inbox := { t.inbox with queue := rest }, stallNotified := true },
          [.notify .stalled])
  /-- Of a delay that the user knows, or that is another task's, nothing is told. -/
  | pass {taskId : String} {n : Nat} {rest : List Delivery} (hworker : t.worker = .listening)
      (hqueue : t.inbox.queue = .stalled taskId n :: rest)
      (hknown : ¬ (t.current = some taskId ∧ !t.selector.push.any (·.isOpen) ∧ !t.stallNotified)) :
      WorkerTurn t ({ t with inbox := { t.inbox with queue := rest } }, [])
  | lock {s : Snapshot} (hworker : t.worker = .settling (.locking s)) (hlocked : t.locked = false) :
      WorkerTurn t ({ t.lock with worker := .settling (.reading s) }, [])

theorem workerTurn_of_runWorker {t : Tracker} {r : Tracker × List ViewCall}
    (hrun : t.runWorker = some r) : t.WorkerTurn r := by
  unfold runWorker at hrun
  split at hrun
  · -- It listens: the end of the page comes before what is in the inbox.
    next hworker =>
    split at hrun
    · next hleft =>
      cases hrun
      exact .quit hworker hleft
    · split at hrun
      · cases hrun
      · next delivery rest hqueue =>
        dsimp only at hrun
        split at hrun
        · cases hrun
          exact .take hworker hqueue
        · unfold stall at hrun
          split at hrun
          · next hwarns =>
            cases hrun
            exact .warn hworker hqueue hwarns
          · next hknown =>
            cases hrun
            exact .pass hworker hqueue hknown
  · next stage hworker =>
    obtain ⟨⟨t', stage'⟩, hsettle, hturn⟩ := Option.map_eq_some_iff.mp hrun
    cases hturn
    cases stage with
    | locking s =>
      simp only [settleRun] at hsettle
      split at hsettle
      · cases hsettle
      · next hlocked =>
        cases hsettle
        exact .lock hworker (Bool.of_not_eq_true hlocked)
    | _ => cases hsettle
  · cases hrun

/-- A turn of the worker with the storage's answer. -/
theorem replyWorker_spec {t t' : Tracker} {calls : List ViewCall}
    {answer : Except StorageFailure Store.Answer}
    (hreply : t.replyWorker (.store answer) = some (t', calls)) :
    ∃ stage t₁ settled, t.worker = .settling stage ∧
      t.settleReply stage answer = some (t₁, calls, settled) ∧
      t' = { t₁ with worker := t'.worker } ∧ t'.worker.doing = (settled.turn .applied).next := by
  unfold replyWorker at hreply
  split at hreply
  · next stage result hsettling hstore =>
    cases hstore
    -- The worker drops what has come of the snapshot: it tells nobody of failures.
    obtain ⟨⟨t₁, calls₁, settled⟩, hsettle, hturn⟩ := Option.map_eq_some_iff.mp hreply
    cases settled with
    | waiting stage' =>
      cases hturn
      exact ⟨stage, t₁, _, hsettling, hsettle, rfl, rfl⟩
    | «over» result =>
      cases hturn
      refine ⟨stage, t₁, _, hsettling, hsettle, rfl, ?_⟩
      cases result <;> rfl
  · cases hreply

end Tracker

end TaskTracking
