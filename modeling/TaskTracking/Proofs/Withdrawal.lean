import TaskTracking.Proofs.Contest

/-! # Cancelling a task

  A cancel goes in three turns. Under the lock it lets go of the tracked task and
  has its id removed; then it gives the lock back and asks the server, once; and
  when the server has answered, however late, it tells the user and returns. In
  between another task can be created, tracked and finished, which the last turn
  leaves alone.

  A cancel that finds no tracked task when it gets the lock is refused.
-/

namespace TaskTracking

namespace Session

/-! ### The turns of a cancel -/

/-- What a cancel returns: what the server has to say against it goes before a failure of the
    storage. -/
def cancelOutcome (taskId : String) (failure : Option StorageFailure) :
    Except TransportFailure Bool → Outcome.Result
  | .error cause => .error (.cancel taskId cause)
  | .ok false => .error (.cancelRejected taskId)
  | .ok true =>
    match failure with
    | some failure => .error (.storage failure)
    | none => .ok .cancelled

/-- The notice of the server's answer. -/
def cancelNotice : Except TransportFailure Bool → Notice
  | .error cause => .notCancelled cause.text
  | .ok false => .cancelRefused
  | .ok true => .cancelled

/-- The turn has changed nothing of the tracker but its calls, nothing that is stored, and no
    other call. -/
structure Turning.Aside (τ : Turning) (k : Nat) : Prop where
  tracker : ∃ cs, τ.after.tracker = { τ.before.tracker with calls := cs }
  storage : τ.after.storage = τ.before.storage
  others : ∀ j, j ≠ .call k → τ.after.doing j = τ.before.doing j

/-- A cancel gets the lock while no task is tracked, and is refused. -/
structure Refuses (k : Nat) (τ : Turning) : Prop where
  free : τ.before.tracker.locked = false
  untracked : τ.before.tracker.lifecycle ≠ .tracking
  aside : τ.Aside k
  outputs : τ.outputs =
    [.returned k (.error (.invalidState .tracking τ.before.tracker.lifecycle))]

/-- A cancel gets the lock and lets go of the tracked task: nothing is shown or subscribed to,
    the tracker is idle, and the storage is asked to remove the id. -/
structure Releases (k : Nat) (taskId : String) (τ : Turning) : Prop where
  free : τ.before.tracker.locked = false
  tracking : τ.before.tracker.lifecycle = .tracking
  current : τ.before.tracker.current = some taskId
  stance : τ.after.tracker.stance =
    { lifecycle := .idle
      focus :=
        { current := none, display := {}, active := none, pushed := none, polled := none } }
  storage : τ.after.storage = (τ.before.storage.answer τ.before.tracker.identity.clear).2
  outputs : τ.outputs =
    [.view .hideProgress, .ask (.call k) (.store τ.before.tracker.identity.clear)]

/-- The storage has answered: the lock is given back, and the server is asked. -/
structure Requests (k : Nat) (taskId : String) (τ : Turning) : Prop where
  tracker : ∃ cs, τ.after.tracker = { τ.before.tracker with calls := cs, locked := false }
  storage : τ.after.storage = τ.before.storage
  others : ∀ j, j ≠ .call k → τ.after.doing j = τ.before.doing j
  outputs : τ.outputs = [.ask (.call k) (.cancel taskId)]

/-- The server has answered: the user is told, and the cancel returns. -/
structure Concludes (k : Nat) (taskId : String) (failure : Option StorageFailure) (τ : Turning) :
    Prop where
  aside : τ.Aside k
  outputs : ∃ answer, τ.event = .answered (.call k) (.cancelled answer) ∧
    τ.outputs = .view (.notify (cancelNotice answer)) ::
      (failure.map fun failure => .view (.notify (.notForgotten failure.text))).toList ++
        [.returned k (cancelOutcome taskId failure answer)]

/-- The failure of the storage to remove the id as the task was let go of. -/
def Turning.clearFailure (τ : Turning) : Option StorageFailure :=
  match (τ.before.storage.answer τ.before.tracker.identity.clear).1 with
  | .ok _ => none
  | .error failure => some failure

/-- **How a cancel goes on**, by the turns it has taken and what it is at. -/
inductive Withdrawal (k : Nat) : List Turning → Option Call → Prop where
  | waiting : Withdrawal k [] (some .cancelling)
  | refused {τ : Turning} (h : Refuses k τ) : Withdrawal k [τ] none
  | released {τ : Turning} {taskId : String} (h : Releases k taskId τ) :
      Withdrawal k [τ] (some (.erasing taskId))
  | requested {τ τ' : Turning} {taskId : String} (h : Releases k taskId τ)
      (h' : Requests k taskId τ') :
      Withdrawal k [τ, τ'] (some (.withdrawing taskId τ.clearFailure))
  | concluded {τ τ' τ'' : Turning} {taskId : String} (h : Releases k taskId τ)
      (h' : Requests k taskId τ') (h'' : Concludes k taskId τ.clearFailure τ'') :
      Withdrawal k [τ, τ', τ''] none

section Turns

variable {turns : List Turning} {k : Nat} {t : Tracker} {calls : List ViewCall} {turn : Turn}
  {d : Call} {s before after : Session} {e : Event} {taskId : String}

/-- What a cancel returns, and what the user is told, as it ends. -/
theorem endCancel_eq (taskId : String) (failure : Option StorageFailure)
    (answer : Except TransportFailure Bool) :
    Tracker.endCancel taskId failure answer =
      (.notify (cancelNotice answer) ::
          (failure.map fun failure => .notify (.notForgotten failure.text)).toList,
        .over (cancelOutcome taskId failure answer)) := by
  unfold Tracker.endCancel
  cases failure with
  | none =>
    cases answer with
    | error => rfl
    | ok cancels => cases cancels <;> rfl
  | some failure =>
    cases answer with
    | error => rfl
    | ok cancels => cases cancels <;> rfl

/-- A turn that asks nothing of the storage and changes nothing of the tracker. -/
theorem Turning.Took.aside {τ : Turning} (h : τ.Took k τ.before.tracker calls turn)
    (hask : (turn.next.bind fun d => d.ask? τ.before.tracker.identity).bind Ask.request? = none) :
    τ.Aside k where
  tracker := h.tracker
  storage := storage_of_unasked h.turned hask
  others := h.others

/-- A cancel that gets the lock is refused, or lets go of the task. -/
theorem Withdrawal.begin
    (hcurrent : before.tracker.lifecycle = .tracking → before.tracker.current ≠ none)
    (htakes : before.Takes k .cancelling e (t, calls, turn))
    (htook : (Turning.mk before e after).Took k t calls turn) :
    Withdrawal k [⟨before, e, after⟩] turn.next ∧
      ∀ taskId, turn.next = some (.erasing taskId) → after.answers.lookup (.call k) =
        some (before.storage.answer before.tracker.identity.clear).1 := by
  cases htakes with
  | run hrun =>
    simp only [Tracker.runCall] at hrun
    split at hrun
    · cases hrun
    · next hlocked =>
      -- The lock is free, so what the lifecycle is now decides.
      have hfree : before.tracker.locked = false := Bool.of_not_eq_true hlocked
      simp only [Tracker.release, Option.some.injEq] at hrun
      split at hrun
      · next htracking =>
        split at hrun
        · next hnone => exact absurd hnone (hcurrent htracking)
        · next taskId htask =>
          cases hrun
          refine ⟨.released ⟨hfree, htracking, htask, htook.stance.trans ?_, htook.turned.storage,
            htook.outputs⟩, fun _ _ => htook.turned.answer⟩
          exact congrArg (Stance.mk .idle) (Tracker.focus_unsubscribe before.tracker)
      · next huntracked =>
        cases hrun
        refine ⟨.refused ⟨hfree, huntracked, htook.aside rfl, htook.outputs⟩, ?_⟩
        intro _ heq
        cases heq
  | stored _ hreply => simp [Tracker.replyCall] at hreply
  | answered _ hreply => simp [Tracker.replyCall] at hreply

/-- **Each turn of a cancel takes it on.** -/
theorem Withdrawal.next (h : Withdrawal k turns (some d))
    (hcurrent : before.tracker.lifecycle = .tracking → before.tracker.current ≠ none)
    (hanswer : ∀ τ taskId, turns = [τ] → d = .erasing taskId →
      before.answers.lookup (.call k) =
        some (τ.before.storage.answer τ.before.tracker.identity.clear).1)
    (htakes : before.Takes k d e (t, calls, turn))
    (htook : (Turning.mk before e after).Took k t calls turn) :
    Withdrawal k (turns ++ [⟨before, e, after⟩]) turn.next ∧
      ∀ τ taskId, turns ++ [⟨before, e, after⟩] = [τ] → turn.next = some (.erasing taskId) →
        after.answers.lookup (.call k) =
          some (τ.before.storage.answer τ.before.tracker.identity.clear).1 := by
  obtain ⟨reply, hbrings, hturn⟩ := htakes.callTurn
  cases h with
  | waiting =>
    obtain ⟨hnext, herased⟩ := Withdrawal.begin hcurrent htakes htook
    refine ⟨hnext, ?_⟩
    intro τ taskId hτ heq
    cases hτ
    exact herased taskId heq
  | @released τ taskId h =>
    cases hturn with
    | @erase _ result failure hfailure =>
      -- The answer that comes is the one that the storage gave when the task was let go of.
      have hresult := (hanswer τ taskId rfl rfl).symm.trans hbrings.of_store.2
      have hclear : failure = τ.clearFailure := by
        unfold Turning.clearFailure
        rw [Option.some.inj hresult]
        cases result with
        | ok => exact Option.eq_none_iff_forall_ne_some.mpr fun f hf => by cases (hfailure f).mp hf
        | error f => exact (hfailure f).mpr rfl
      subst hclear
      refine ⟨.requested h ⟨htook.tracker, storage_of_unasked htook.turned rfl, htook.others,
        htook.outputs⟩, ?_⟩
      intro _ _ hτ
      cases hτ
    | refuse hnew => cases hnew
    | fail hd => rcases hd with hd | ⟨_, hd⟩ <;> cases hd
  | @requested τ τ' taskId h h' =>
    cases hturn with
    | @withdraw _ _ answer _ result hends =>
      cases hbrings
      rw [endCancel_eq] at hends
      cases hends
      have houtputs : (Turning.mk before (.answered (.call k) (.cancelled answer)) after).outputs =
          .view (.notify (cancelNotice answer)) ::
            (τ.clearFailure.map fun cause => .view (.notify (.notForgotten cause.text))).toList ++
              [.returned k (cancelOutcome taskId τ.clearFailure answer)] := by
        rw [htook.outputs]
        cases τ.clearFailure <;> rfl
      refine ⟨.concluded h h' ⟨htook.aside rfl, answer, rfl, houtputs⟩, ?_⟩
      intro _ _ hτ
      cases hτ
    | refuse hnew => cases hnew
    | fail hd => rcases hd with hd | ⟨_, hd⟩ <;> cases hd

end Turns

/-! ### The law -/

/-- Nothing but the lock, the storage and the server keeps a cancel waiting. -/
structure GoesOn (s : Session) (k : Nat) : Prop where
  locked : s.doing (.call k) = some .cancelling → s.tracker.locked = false →
    (s.step (.turn (.call k))).isSome
  erased : ∀ taskId, s.doing (.call k) = some (.erasing taskId) →
    (s.step (.stored (.call k))).isSome
  answered : ∀ taskId failure, s.doing (.call k) = some (.withdrawing taskId failure) →
    ∀ answer, (s.step (.answered (.call k) (.cancelled answer))).isSome

/-- A cancel under way goes on, once the storage has answered what it was asked. -/
theorem goesOn_of_answered {s : Session} {k : Nat}
    (hanswer : ∀ taskId, s.doing (.call k) = some (.erasing taskId) →
      ∃ answer, s.answers.lookup (.call k) = some answer) : s.GoesOn k := by
  refine ⟨?_, ?_, ?_⟩
  · intro hd hfree
    have hrun : s.tracker.runCall .cancelling = some s.tracker.release := by
      simp [Tracker.runCall, hfree]
    rw [step_of_takes hd (.run hrun)]
    rfl
  · intro taskId hd
    obtain ⟨answer, hlookup⟩ := hanswer taskId hd
    rw [step_of_takes hd (.stored hlookup rfl)]
    rfl
  · intro taskId failure hd answer
    rw [step_of_takes hd (.answered rfl rfl)]
    rfl

/-- **A cancel is immediate, asks once, and disturbs no successor.** Whatever happens
    meanwhile, a cancel goes on by its turns as `Withdrawal` says, and is kept waiting by
    nobody else than the lock, the storage and the server. Where the tracked task is
    contested while the cancel waits, as every tracked task is where resumes were alone
    (`Lone.contested`), the cancel and the snapshots of that task end its tracking at most
    once from there on, and exactly once if the cancel gets its turn. -/
theorem cancel_withdraws {config : Config} {t : Tracker}
    (hconfig : Tracker.ofConfig config = .ok t) {entries : Store.Entries} {s₀ s₁ s : Session}
    {k : Nat} {es : List Event} (hreach : Reaches (fun _ _ => True) (opened t entries) s₀)
    (hcalled : s₀.step (.called k .cancelling) = some s₁)
    (hrun : play (Underway k) es s₁ = some s) :
    Withdrawal k (turnsOf k es s₁) (s.doing (.call k)) ∧ s.GoesOn k ∧
      ∀ taskId es' s', s.Contested taskId → play (Peaceful taskId) es' s = some s' →
        (endings taskId es' s).length ≤ 1 ∧
          (s.doing (.call k) = some .cancelling → turnsOf k es' s ≠ [] →
            ∃ j, endings taskId es' s = [j]) := by
  have hdoing := (called_spec hcalled).1
  -- The answer of the storage is carried along with the stage, as the second turn reads it.
  obtain ⟨hstages, hanswer⟩ := conduct_induction
    (Q := fun turns next answer => Withdrawal k turns next ∧ ∀ τ taskId, turns = [τ] →
      next = some (.erasing taskId) →
      answer = some (τ.before.storage.answer τ.before.tracker.identity.clear).1)
    hconfig
    (fun _ _ _ _ _ _ hreach _ htakes htook hstage =>
      hstage.1.next (current_of_reaches hconfig hreach)
        (fun τ taskId hτ hd => hstage.2 τ taskId hτ (congrArg some hd)) htakes htook)
    (hreach.step _ trivial hcalled) hrun
    ⟨hdoing ▸ .waiting, fun _ _ hτ => by cases hτ⟩
  refine ⟨hstages, goesOn_of_answered ?_, ?_⟩
  · intro taskId hd
    rw [hd] at hstages hanswer
    generalize turnsOf k es s₁ = turns at hstages hanswer
    cases hstages with
    | released => exact ⟨_, hanswer _ taskId rfl rfl⟩
  · intro taskId es' s' hcontested hrun'
    refine ⟨?_, fun hwaits => hcontested.endings_of_turn hwaits hrun'⟩
    rcases hcontested.endings hrun' with ⟨hnone, _⟩ | ⟨j, hone⟩
    · simp [hnone]
    · simp [hone]

/-! ### A race -/

/-- A page tracks a task, of which a terminal snapshot is about to be applied. -/
def ended : List Event :=
  [.called 0 (.starting .null), .turn (.call 0), .answered (.call 0) (.created (.ok "task")),
    .stored (.call 0), .called 1 (.applying { id := "task", status := .completed })]

/-- A cancel gets the lock first, and is answered. -/
def prompt : List Event :=
  [.turn (.call 2), .stored (.call 2), .answered (.call 2) (.cancelled (.ok true))]

/-- A cancel gets the lock first, and the snapshot comes too late. -/
def belatedSnapshot : List Event :=
  [.turn (.call 2), .stored (.call 2), .turn (.call 1), .stored (.call 1)]

/-- The cancel takes its three turns, and it alone has ended the task. -/
theorem cancel_withdraws_ended : ∃ s₀ s₁ s s',
    play Apart ended (polling "") = some s₀ ∧ s₀.step (.called 2 .cancelling) = some s₁ ∧
      play (Underway 2) prompt s₁ = some s ∧ (turnsOf 2 prompt s₁).length = 3 ∧
      Withdrawal 2 (turnsOf 2 prompt s₁) (s.doing (.call 2)) ∧
      play (Peaceful "task") belatedSnapshot s₁ = some s' ∧
      ∃ j, endings "task" belatedSnapshot s₁ = [j] := by
  have hplayed : (play Apart ended (polling "")).any fun s₀ =>
      decide (s₀.Apart (.called 2 .cancelling)) &&
        (s₀.step (.called 2 .cancelling)).any fun s₁ =>
          decide ((play (Underway 2) prompt s₁).isSome ∧ (turnsOf 2 prompt s₁).length = 3 ∧
            s₁.tracker.lifecycle = .tracking ∧ s₁.tracker.current = some "task" ∧
            (play (Peaceful "task") belatedSnapshot s₁).isSome ∧
            (turnsOf 2 belatedSnapshot s₁).length ≠ 0) := by
    decide
  obtain ⟨s₀, hs₀, hplayed⟩ := (Option.any_eq_true ..).mp hplayed
  obtain ⟨hapart, hplayed⟩ := (Bool.and_eq_true ..).mp hplayed
  obtain ⟨s₁, hs₁, hplayed⟩ := (Option.any_eq_true ..).mp hplayed
  obtain ⟨hs, hthree, htracking, hcurrent, hs', hturn⟩ := of_decide_eq_true hplayed
  obtain ⟨s, hs⟩ := Option.isSome_iff_exists.mp hs
  obtain ⟨s', hs'⟩ := Option.isSome_iff_exists.mp hs'
  have hconfig : Tracker.ofConfig pollingPage = .ok (polling "").tracker := rfl
  have hreach : Reaches (fun _ _ => True) (polling "") s₀ :=
    (reaches_of_play hs₀).mono fun _ _ _ => trivial
  have hlone : s₁.Lone :=
    lone_of_reaches hconfig ((reaches_of_play hs₀).step _ (of_decide_eq_true hapart) hs₁)
  obtain ⟨hwithdraws, _, _⟩ := cancel_withdraws hconfig hreach hs₁ hs
  -- The race is on from the moment of the call.
  have hcalled : play (Underway 2) [] s₁ = some s₁ := rfl
  obtain ⟨_, _, hrace⟩ := cancel_withdraws hconfig hreach hs₁ hcalled
  refine ⟨s₀, s₁, s, s', hs₀, hs₁, hs, hthree, hwithdraws, hs', ?_⟩
  refine (hrace "task" belatedSnapshot s' (hlone.contested htracking hcurrent) hs').2
    (called_spec hs₁).1 ?_
  intro hnil
  rw [hnil] at hturn
  exact hturn rfl

end Session

end TaskTracking
