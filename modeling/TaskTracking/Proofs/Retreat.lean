import TaskTracking.Proofs.Conduct

/-! # A start that fails

  A start makes up to three requests, each of which can fail: it has the task
  created, it has its id stored, and if that fails it has the task cancelled.

  However it fails, it has shown and tracked nothing, and a task that was created
  for it was cancelled, whatever comes of that (`Session.failed_start_retreats`). A
  start that is refused does nothing at all.
-/

namespace TaskTracking

namespace Session

/-! ### Traces of a start -/

/-- The new task that an event gives a call. -/
def Event.created? : Event → Option String
  | .answered (.call _) (.created (.ok taskId)) => some taskId
  | _ => none

/-- The tasks that the server has created for a call. -/
def createdBy (turns : List Turning) : List String := turns.filterMap fun τ => τ.event.created?

/-- The turn has changed nothing of what the tracker is about, and nothing that is stored. -/
structure Turning.Traceless (τ : Turning) : Prop where
  focus : τ.after.tracker.focus = τ.before.tracker.focus
  entries : τ.after.storage.entries = τ.before.storage.entries

/-- One of the turns has made the tracker idle, and those after it have left it so. -/
def BackToIdle (turns : List Turning) : Prop :=
  ∃ earlier τ later, turns = earlier ++ τ :: later ∧ τ.after.tracker.lifecycle = .idle ∧
    ∀ σ ∈ later, σ.after.tracker.lifecycle = σ.before.tracker.lifecycle

/-- The turns of a start so far: they have left no trace, this passed between the start and
    its surroundings, and these tasks were created. -/
structure Attempt (turns : List Turning) (account : Account) (created : List String) : Prop where
  traceless : ∀ τ ∈ turns, τ.Traceless
  account : accountOf turns = account
  created : createdBy turns = created
  idle : FromIdle turns

section Attempt

variable {turns : List Turning} {a : Account} {created : List String} {τ : Turning} {k : Nat}
  {t : Tracker} {calls : List ViewCall} {turn : Turn}

theorem Attempt.snoc (h : Attempt turns a created) (htook : τ.Took k t calls turn)
    (htraceless : τ.Traceless) {a' : Account} {created' : List String}
    (haccount : a' =
      { asked := a.asked ++ ((turn.next.bind (Call.ask? t.identity)).bind Ask.foreign?).toList
        fetched := a.fetched ++ τ.event.fetched?.toList
        results := a.results ++ turn.result?.toList
        views := a.views ++ calls })
    (hcreated : created' = created ++ τ.event.created?.toList) :
    Attempt (turns ++ [τ]) a' created' := by
  refine ⟨?_, ?_, ?_, h.idle.append⟩
  · intro σ hσ
    rcases List.mem_append.mp hσ with hσ | hσ
    · exact h.traceless σ hσ
    · rw [List.mem_singleton.mp hσ]
      exact htraceless
  · rw [htook.account, h.account, haccount]
  · have hlast : createdBy [τ] = τ.event.created?.toList := by
      unfold createdBy
      cases hevent : τ.event.created? <;> simp [hevent]
    rw [hcreated, ← hlast, ← h.created]
    exact List.filterMap_append

theorem BackToIdle.snoc (h : BackToIdle turns)
    (hkeeps : τ.after.tracker.lifecycle = τ.before.tracker.lifecycle) :
    BackToIdle (turns ++ [τ]) := by
  obtain ⟨earlier, σ, later, rfl, hidle, hlater⟩ := h
  refine ⟨earlier, σ, later ++ [τ], by simp, hidle, ?_⟩
  intro ρ hρ
  rcases List.mem_append.mp hρ with hρ | hρ
  · exact hlater ρ hρ
  · rw [List.mem_singleton.mp hρ]
    exact hkeeps

theorem BackToIdle.last (hidle : τ.after.tracker.lifecycle = .idle) : BackToIdle (turns ++ [τ]) :=
  ⟨turns, τ, [], rfl, hidle, by simp⟩

end Attempt

/-! ### The law -/

/-- A start that returns this error has kept the page as it was, by its own turns. -/
structure Retreats (params : Json.Value) (turns : List Turning) (error : TrackingError) :
    Prop where
  traceless : ∀ τ ∈ turns, τ.Traceless
  unshown : ∀ taskId, .showProgress taskId ∉ (accountOf turns).views
  /-- A start that is refused asks and shows nothing, and changes nothing. -/
  refused : ∀ expected actual, error = .invalidState expected actual →
    accountOf turns = { results := [.error error] } ∧
      ∀ τ ∈ turns, expected = .idle ∧ τ.before.tracker.lifecycle = actual ∧ actual ≠ .idle ∧
        (∃ cs, τ.after.tracker = { τ.before.tracker with calls := cs }) ∧
        τ.after.storage = τ.before.storage
  /-- Any other start makes the tracker idle again and tells the user once that it has failed,
      whether the task was not created or its id was not stored. -/
  told : (∀ expected actual, error ≠ .invalidState expected actual) →
    BackToIdle turns ∧
      ((∃ failure, error = .create failure ∧ createdBy turns = [] ∧
          (accountOf turns).views = [.notify (.notStarted failure.text)]) ∨
        ∃ failure taskId, error = .storage failure ∧ createdBy turns = [taskId] ∧
          (accountOf turns).views = [.notify (.notStarted failure.text)])
  /-- Besides the request that creates a task it makes one for each created task, which
      cancels that task. -/
  asked : (∀ expected actual, error ≠ .invalidState expected actual) →
    (accountOf turns).asked = .create params :: (createdBy turns).map .cancel

/-! ### The stages of a start -/

/-- How far a start has come: the turns it has taken, what it is at, and what the storage has
    answered it. -/
inductive Starting (params : Json.Value) :
    List Turning → Option Call → Option (Except StorageFailure Store.Answer) → Prop where
  | called {answer : Option (Except StorageFailure Store.Answer)} :
      Starting params [] (some (.starting params)) answer
  | creating {turns : List Turning} {answer : Option (Except StorageFailure Store.Answer)}
      (h : Attempt turns { asked := [.create params] } []) :
      Starting params turns (some (.creating params)) answer
  /-- The id could not be stored, as the start will be told. -/
  | saving {turns : List Turning} {taskId : String} {failure : StorageFailure}
      (h : Attempt turns { asked := [.create params] } [taskId]) :
      Starting params turns (some (.saving taskId)) (some (.error failure))
  | saved {turns : List Turning} {taskId : String} {result : Store.Answer}
      (hresults : (accountOf turns).results = []) :
      Starting params turns (some (.saving taskId)) (some (.ok result))
  | revoking {turns : List Turning} {taskId : String} {cause : StorageFailure}
      {answer : Option (Except StorageFailure Store.Answer)}
      (h : Attempt turns
        { asked := [.create params, .cancel taskId]
          views := [.notify (.notStarted cause.text)] } [taskId])
      (hidle : BackToIdle turns) : Starting params turns (some (.revoking taskId cause)) answer
  | refused {τ : Turning} {answer : Option (Except StorageFailure Store.Answer)}
      (hbusy : τ.before.tracker.lifecycle ≠ .idle)
      (haccount : accountOf [τ] =
        { results := [.error (.invalidState .idle τ.before.tracker.lifecycle)] })
      (htracker : ∃ cs, τ.after.tracker = { τ.before.tracker with calls := cs })
      (hstorage : τ.after.storage = τ.before.storage) : Starting params [τ] none answer
  | uncreated {turns : List Turning} {failure : TransportFailure}
      {answer : Option (Except StorageFailure Store.Answer)}
      (h : Attempt turns
        { asked := [.create params], results := [.error (.create failure)]
          views := [.notify (.notStarted failure.text)] } [])
      (hidle : BackToIdle turns) : Starting params turns none answer
  | unsaved {turns : List Turning} {taskId : String} {failure : StorageFailure}
      {answer : Option (Except StorageFailure Store.Answer)}
      (h : Attempt turns
        { asked := [.create params, .cancel taskId], results := [.error (.storage failure)]
          views := [.notify (.notStarted failure.text)] } [taskId])
      (hidle : BackToIdle turns) : Starting params turns none answer
  | started {turns : List Turning} {outcome : Outcome}
      {answer : Option (Except StorageFailure Store.Answer)}
      (hresults : (accountOf turns).results = [.ok outcome]) : Starting params turns none answer

section Stages

variable {params : Json.Value} {turns : List Turning} {k : Nat} {t : Tracker}
  {calls : List ViewCall} {turn : Turn} {d : Call} {before after : Session} {e : Event}

/-- A storage that fails to store an id keeps what it has. -/
theorem entries_of_saving {s s' : Session} {j : Job} {taskId : String} {failure : StorageFailure}
    (hturned : s.Turned j (some (.saving taskId)) s')
    (hanswer : s'.answers.lookup j = some (.error failure)) :
    s'.storage.entries = s.storage.entries := by
  have hperformed : s'.answers.lookup j =
      some (s.storage.answer (s.tracker.identity.save taskId)).1 := hturned.answer
  have hstorage : s'.storage = (s.storage.answer (s.tracker.identity.save taskId)).2 :=
    hturned.storage
  rw [hanswer] at hperformed
  rw [hstorage]
  unfold Scenario.Storage.answer at hperformed ⊢
  split
  · rfl
  · next hworks =>
    rw [hworks] at hperformed
    cases hperformed

/-- A start that is not refused asks for its task. -/
theorem Starting.begin (htakes : before.Takes k (.starting params) e (t, calls, turn))
    (htook : (Turning.mk before e after).Took k t calls turn) :
    Starting params [⟨before, e, after⟩] turn.next (after.answers.lookup (.call k)) := by
  have haccount := htook.account []
  cases htakes with
  | run hrun =>
    simp only [Tracker.runCall, Tracker.start, Option.some.injEq] at hrun
    split at hrun
    · next hidle =>
      cases hrun
      refine .creating ⟨?_, haccount, rfl, hidle⟩
      intro σ hσ
      rw [List.mem_singleton.mp hσ]
      refine ⟨htook.focus.trans (Tracker.focus_startBackground _), ?_⟩
      exact congrArg _ (storage_of_unasked htook.turned rfl)
    · next hbusy =>
      cases hrun
      exact .refused hbusy haccount htook.tracker (storage_of_unasked htook.turned rfl)
  | stored _ hreply => simp [Tracker.replyCall] at hreply
  | answered _ hreply => simp [Tracker.replyCall] at hreply

/-- **Each turn of a start takes it to the next stage.** -/
theorem Starting.next (h : Starting params turns (some d) (before.answers.lookup (.call k)))
    (htakes : before.Takes k d e (t, calls, turn))
    (htook : (Turning.mk before e after).Took k t calls turn) :
    Starting params (turns ++ [⟨before, e, after⟩]) turn.next
      (after.answers.lookup (.call k)) := by
  obtain ⟨reply, hbrings, hturn⟩ := htakes.callTurn
  generalize hanswer : before.answers.lookup (.call k) = answer at h
  -- A turn that asks nothing of the storage leaves it as it is.
  have htraceless : t.focus = before.tracker.focus →
      (turn.next.bind fun d => d.ask? before.tracker.identity).bind Ask.request? = none →
      (Turning.mk before e after).Traceless := by
    intro hfocus hask
    exact ⟨htook.focus.trans hfocus, congrArg _ (storage_of_unasked htook.turned hask)⟩
  cases h with
  | called => exact .begin htakes htook
  | creating h =>
    cases hturn with
    | @save _ taskId =>
      cases hbrings
      -- The storage has its answer ready, so the stage says whether the id was stored.
      have hlookup : after.answers.lookup (.call k) =
          some (before.storage.answer (before.tracker.identity.save taskId)).1 :=
        htook.turned.answer
      rw [hlookup]
      cases hresult : (before.storage.answer (before.tracker.identity.save taskId)).1 with
      | ok =>
        refine .saved ?_
        rw [htook.account, h.account]
        rfl
      | error failure =>
        rw [hresult] at hlookup
        exact .saving (h.snoc htook ⟨htook.focus, entries_of_saving htook.turned hlookup⟩ rfl rfl)
    | giveUp =>
      cases hbrings
      exact .uncreated (h.snoc htook (htraceless rfl rfl) rfl rfl) (.last htook.lifecycle)
    | refuse hnew => cases hnew
    | fail hd => rcases hd with hd | ⟨_, hd⟩ <;> cases hd
  | saving h =>
    cases hturn with
    | begin =>
      obtain ⟨_, hlookup⟩ := hbrings.of_store
      rw [hanswer] at hlookup
      cases hlookup
    | revoke =>
      obtain ⟨rfl, hlookup⟩ := hbrings.of_store
      rw [hanswer] at hlookup
      cases hlookup
      exact .revoking (h.snoc htook (htraceless rfl rfl) rfl rfl) (.last htook.lifecycle)
    | refuse hnew => cases hnew
    | fail hd => rcases hd with hd | ⟨_, hd⟩ <;> cases hd
  | saved hresults =>
    cases hturn with
    | begin =>
      apply Starting.started
      rw [htook.account, hresults]
      rfl
    | revoke =>
      obtain ⟨_, hlookup⟩ := hbrings.of_store
      rw [hanswer] at hlookup
      cases hlookup
    | refuse hnew => cases hnew
    | fail hd => rcases hd with hd | ⟨_, hd⟩ <;> cases hd
  | revoking h hidle =>
    cases hturn with
    | revoked =>
      cases hbrings
      exact .unsaved (h.snoc htook (htraceless rfl rfl) rfl rfl) (hidle.snoc htook.lifecycle)
    | refuse hnew => cases hnew
    | fail hd => rcases hd with hd | ⟨_, hd⟩ <;> cases hd

end Stages

/-! ### What a failed start leaves behind -/

section Failed

variable {params : Json.Value} {turns : List Turning} {next : Option Call}
  {answer : Option (Except StorageFailure Store.Answer)} {error : TrackingError} {x y : Stance}

/-- The turns of a start that was refused: it has asked and shown nothing, and changed nothing. -/
structure Refused (turns : List Turning) (error : TrackingError) (τ : Turning) : Prop where
  only : turns = [τ]
  reason : error = .invalidState .idle τ.before.tracker.lifecycle
  busy : τ.before.tracker.lifecycle ≠ .idle
  account : accountOf turns = { results := [.error error] }
  tracker : ∃ cs, τ.after.tracker = { τ.before.tracker with calls := cs }
  storage : τ.after.storage = τ.before.storage

/-- The turns of a start that has tried in vain, whichever of its requests has failed. -/
structure Failed (params : Json.Value) (turns : List Turning) (error : TrackingError)
    (cause : String) (created : List String) : Prop where
  attempt : Attempt turns
    { asked := .create params :: created.map .cancel, results := [.error error]
      views := [.notify (.notStarted cause)] } created
  idle : BackToIdle turns
  reason : (∃ failure, error = .create failure ∧ created = [] ∧ cause = failure.text) ∨
    ∃ failure taskId, error = .storage failure ∧ created = [taskId] ∧ cause = failure.text

theorem Failed.tried {cause : String} {created : List String}
    (h : Failed params turns error cause created) (expected actual : Lifecycle) :
    error ≠ .invalidState expected actual := by
  intro herror
  rcases h.reason with ⟨_, heq, _⟩ | ⟨_, _, heq, _⟩
  · rw [heq] at herror
    cases herror
  · rw [heq] at herror
    cases herror

/-- A start that has failed was refused, or it has tried in vain. -/
theorem Starting.failed (h : Starting params turns next answer)
    (hfails : (accountOf turns).error? = some error) :
    (∃ τ, Refused turns error τ) ∨ ∃ cause created, Failed params turns error cause created := by
  have hresults := Account.results_of_error? hfails
  cases h with
  | @refused τ _ hbusy haccount htracker hstorage =>
    rw [haccount] at hresults
    cases hresults
    exact .inl ⟨τ, rfl, rfl, hbusy, haccount, htracker, hstorage⟩
  | uncreated h hidle =>
    rw [h.account] at hresults
    cases hresults
    exact .inr ⟨_, [], h, hidle, .inl ⟨_, rfl, rfl, rfl⟩⟩
  | @unsaved _ taskId _ _ h hidle =>
    rw [h.account] at hresults
    cases hresults
    exact .inr ⟨_, [taskId], h, hidle, .inr ⟨_, taskId, rfl, rfl, rfl⟩⟩
  | started hok =>
    rw [hok] at hresults
    cases hresults
  -- No other stage has returned anything.
  | called => cases hresults
  | creating h | saving h | revoking h =>
    rw [h.account] at hresults
    cases hresults
  | saved hnone =>
    rw [hnone] at hresults
    cases hresults

theorem Refused.retreats {τ : Turning} (h : Refused turns error τ) :
    Retreats params turns error := by
  obtain ⟨rfl, herror, hbusy, haccount, ⟨cs, htracker⟩, hstorage⟩ := h
  refine ⟨?_, by simp [haccount], ?_, fun hnot => absurd herror (hnot _ _),
    fun hnot => absurd herror (hnot _ _)⟩
  · intro σ hσ
    rw [List.mem_singleton.mp hσ]
    refine ⟨?_, congrArg _ hstorage⟩
    rw [htracker]
    rfl
  · intro expected actual heq
    cases herror.symm.trans heq
    refine ⟨haccount, ?_⟩
    intro σ hσ
    rw [List.mem_singleton.mp hσ]
    exact ⟨rfl, rfl, hbusy, ⟨cs, htracker⟩, hstorage⟩

theorem Failed.retreats {cause : String} {created : List String}
    (h : Failed params turns error cause created) : Retreats params turns error where
  traceless := h.attempt.traceless
  unshown taskId := by simp [h.attempt.account]
  refused expected actual herror := absurd herror (h.tried expected actual)
  told _ := by
    refine ⟨h.idle, ?_⟩
    rw [h.attempt.account, h.attempt.created]
    rcases h.reason with ⟨failure, rfl, rfl, rfl⟩ | ⟨failure, taskId, rfl, rfl, rfl⟩
    · exact .inl ⟨failure, rfl, rfl, rfl⟩
    · exact .inr ⟨failure, taskId, rfl, rfl, rfl⟩
  asked _ := by rw [h.attempt.account, h.attempt.created]

theorem BackToIdle.linked (h : BackToIdle turns) (hlinked : Linked x turns y) :
    y.lifecycle = .idle := by
  obtain ⟨earlier, τ, later, rfl, hidle, hlater⟩ := h
  obtain ⟨z, _, _, hlinked⟩ := linked_append.mp hlinked
  exact (hlinked.keep (f := Stance.lifecycle) hlater).trans hidle

/-- Where nobody else moves the tracker, a refused start leaves it where it stood. -/
theorem Refused.stance_eq {τ : Turning} (h : Refused turns error τ) (hlinked : Linked x turns y) :
    y = x := by
  obtain ⟨rfl, -, -, -, ⟨cs, htracker⟩, -⟩ := h
  have hstays : τ.after.tracker.stance = τ.before.tracker.stance := by
    rw [htracker]
    rfl
  apply hlinked.keep (f := id)
  intro σ hσ
  rw [List.mem_singleton.mp hσ]
  exact hstays

/-- One that has tried takes it back to where it stood. -/
theorem Failed.stance_eq {cause : String} {created : List String}
    (h : Failed params turns error cause created) (hlinked : Linked x turns y) : y = x := by
  have hfocus : y.focus = x.focus := by
    apply hlinked.keep
    intro τ hτ
    exact (h.attempt.traceless τ hτ).focus
  have hlifecycle : y.lifecycle = x.lifecycle :=
    (h.idle.linked hlinked).trans (h.attempt.idle.linked hlinked).symm
  cases x
  cases y
  cases hfocus
  cases hlifecycle
  rfl

end Failed

/-- **A failed start leaves no trace and no orphan.** Whatever is answered to it, and
    whatever happens meanwhile, a start that fails has itself changed nothing of what the
    tracker is about and nothing that is stored. It has told the user so once, is idle
    again, and has cancelled the task if one was created; a start that is refused has
    done nothing. So the tracker ends where it stood unless others have moved it. -/
theorem failed_start_retreats {config : Config} {t : Tracker}
    (hconfig : Tracker.ofConfig config = .ok t) {entries : Store.Entries} {s₀ s₁ s : Session}
    {k : Nat} {params : Json.Value} {es : List Event} {error : TrackingError}
    (hreach : Reaches (fun _ _ => True) (opened t entries) s₀)
    (hcalled : s₀.step (.called k (.starting params)) = some s₁)
    (hrun : play (Underway k) es s₁ = some s)
    (hfails : (accountOf (turnsOf k es s₁)).error? = some error) :
    Retreats params (turnsOf k es s₁) error ∧
      (Along (Undistracted k) es s₁ → s.tracker.stance = s₀.tracker.stance) := by
  obtain ⟨hdoing, hstance⟩ := called_spec hcalled
  have hstages := conduct_induction (Q := Starting params) hconfig
    (fun _ _ _ _ _ _ _ _ htakes htook hstage => hstage.next htakes htook)
    (hreach.step _ trivial hcalled) hrun (hdoing ▸ .called)
  have hlinked : Along (Undistracted k) es s₁ →
      Linked s₀.tracker.stance (turnsOf k es s₁) s.tracker.stance := by
    intro halone
    rw [← hstance]
    exact linked_of_play hrun halone
  rcases hstages.failed hfails with ⟨τ, hrefused⟩ | ⟨cause, created, hfailed⟩
  · exact ⟨hrefused.retreats, fun halone => hrefused.stance_eq (hlinked halone)⟩
  · exact ⟨hfailed.retreats, fun halone => hfailed.stance_eq (hlinked halone)⟩

/-- A page starts a task whose id cannot be stored. -/
def unsaved : List Event :=
  [.disturbed { put := some "disk full" }, .turn (.call 0),
    .answered (.call 0) (.created (.ok "task")), .stored (.call 0),
    .answered (.call 0) (.cancelled (.error .timeout))]

/-- The task is cancelled, though the request fails, and the page stands as before. -/
theorem failed_start_retreats_unsaved : ∃ s₁ s error,
    (polling "").step (.called 0 (.starting .null)) = some s₁ ∧
      play (Underway 0) unsaved s₁ = some s ∧
      (accountOf (turnsOf 0 unsaved s₁)).error? = some error ∧
      Retreats .null (turnsOf 0 unsaved s₁) error ∧
      createdBy (turnsOf 0 unsaved s₁) = ["task"] ∧
      s.tracker.stance = (polling "").tracker.stance := by
  have hplayed : ((polling "").step (.called 0 (.starting .null))).any fun s₁ =>
      (play (Underway 0) unsaved s₁).isSome &&
        ((accountOf (turnsOf 0 unsaved s₁)).error?.isSome &&
          decide (createdBy (turnsOf 0 unsaved s₁) = ["task"])) := by
    decide
  obtain ⟨s₁, hs₁, hplayed⟩ := (Option.any_eq_true ..).mp hplayed
  obtain ⟨hs, hplayed⟩ := (Bool.and_eq_true ..).mp hplayed
  obtain ⟨herror, hcreated⟩ := (Bool.and_eq_true ..).mp hplayed
  obtain ⟨s, hs⟩ := Option.isSome_iff_exists.mp hs
  obtain ⟨error, herror⟩ := Option.isSome_iff_exists.mp herror
  have hconfig : Tracker.ofConfig pollingPage = .ok (polling "").tracker := rfl
  obtain ⟨hretreats, hstance⟩ := failed_start_retreats hconfig .refl hs₁ hs herror
  refine ⟨s₁, s, error, hs₁, hs, herror, hretreats, of_decide_eq_true hcreated,
    hstance (undistracted_of_own ?_)⟩
  simp [unsaved, Event.job?]

end Session

end TaskTracking
