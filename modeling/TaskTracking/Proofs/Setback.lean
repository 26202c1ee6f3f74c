import TaskTracking.Proofs.Conduct

/-! # A resume that fails

  An enter or a resume that fails is to leave the tracker as it found it. It does,
  as long as no status of the stored task has come: neither a refusal nor a failure
  of the storage has then changed where the tracker stands.

  Once a status has come, the resume has made the task the current one, and a task
  that goes on is tracked, shown and subscribed to. If the storage fails after that,
  the resume returns the failure and takes nothing back
  (`Session.failed_resume_keeps_iff`).
-/

namespace TaskTracking

namespace Session

/-! ### Turns that change nothing -/

/-- The turn has left the tracker where it stood. -/
def Turning.Stays (τ : Turning) : Prop := τ.after.tracker.stance = τ.before.tracker.stance

/-- The turns of a call that no status was answered to. -/
structure Unanswered (turns : List Turning) : Prop where
  stays : ∀ τ ∈ turns, τ.Stays
  fetched : ∀ snapshot, .ok snapshot ∉ (accountOf turns).fetched

/-- The turns of a resume that has fetched task `taskId`, and since then only waited for
    the lock and for the storage. -/
structure Answered (turns : List Turning) (taskId : String) (snapshot : Snapshot) : Prop where
  asked : (accountOf turns).asked = [.status taskId]
  fetched : (accountOf turns).fetched = [.ok snapshot]
  idle : FromIdle turns
  stays : ∃ earlier τ later, turns = earlier ++ τ :: later ∧
    (∀ σ ∈ earlier ++ later, σ.Stays) ∧ τ.event.fetched? = some (.ok snapshot) ∧
    τ.after.tracker.stance = (τ.before.tracker.resumeFrom taskId snapshot).1.stance

section Turns

variable {turns : List Turning} {τ : Turning} {k : Nat} {t : Tracker} {calls : List ViewCall}
  {turn : Turn} {taskId : String} {snapshot : Snapshot}

theorem Turning.Took.stays (h : τ.Took k t calls turn)
    (hstance : t.stance = τ.before.tracker.stance) : τ.Stays :=
  h.stance.trans hstance

theorem Unanswered.nil : Unanswered [] := ⟨by simp, by simp [accountOf]⟩

theorem Unanswered.snoc (h : Unanswered turns) (htook : τ.Took k t calls turn)
    (hstance : t.stance = τ.before.tracker.stance)
    (hfetched : ∀ snapshot, τ.event.fetched? ≠ some (.ok snapshot)) :
    Unanswered (turns ++ [τ]) := by
  constructor
  · intro σ hσ
    rcases List.mem_append.mp hσ with hσ | hσ
    · exact h.stays σ hσ
    · rw [List.mem_singleton.mp hσ]
      exact htook.stays hstance
  · intro snapshot hmem
    rw [htook.account] at hmem
    rcases List.mem_append.mp hmem with hmem | hmem
    · exact h.fetched snapshot hmem
    · exact hfetched snapshot (Option.mem_toList.mp hmem)

/-- A turn that changes nothing and brings no status. -/
theorem Unanswered.next (h : Unanswered turns) (htook : τ.Took k t calls turn)
    (hstance : t.stance = τ.before.tracker.stance) (hfetched : τ.event.fetched? = none) :
    Unanswered (turns ++ [τ]) :=
  h.snoc htook hstance (by rw [hfetched]; simp)

/-- Waiting for the lock or for the storage changes nothing. -/
theorem Answered.snoc (h : Answered turns taskId snapshot) (htook : τ.Took k t calls turn)
    (hstance : t.stance = τ.before.tracker.stance) (hfetched : τ.event.fetched? = none)
    (hasked : (turn.next.bind (Call.ask? t.identity)).bind Ask.foreign? = none) :
    Answered (turns ++ [τ]) taskId snapshot := by
  obtain ⟨earlier, σ, later, hturns, hstays, hevent, hafter⟩ := h.stays
  refine ⟨?_, ?_, h.idle.append, earlier, σ, later ++ [τ], ?_, ?_, hevent, hafter⟩
  · rw [htook.account, hasked]
    simpa using h.asked
  · rw [htook.account, hfetched]
    simpa using h.fetched
  · rw [hturns]
    simp
  · intro ρ hρ
    rw [← List.append_assoc] at hρ
    rcases List.mem_append.mp hρ with hρ | hρ
    · exact hstays ρ hρ
    · rw [List.mem_singleton.mp hρ]
      exact htook.stays hstance

end Turns

/-! ### The stages of a resume -/

/-- How far an enter or a resume has come: the turns it has taken, and what it is at. -/
inductive Resuming : List Turning → Option Call → Prop where
  | called {d : Call} (hd : d = .entering ∨ d = .resuming) : Resuming [] (some d)
  | loading {turns : List Turning} (h : Unanswered turns) (haccount : accountOf turns = {})
      (hidle : FromIdle turns) : Resuming turns (some .loading)
  | fetching {turns : List Turning} {taskId : String} (h : Unanswered turns)
      (haccount : accountOf turns = { asked := [.status taskId] }) (hidle : FromIdle turns) :
      Resuming turns (some (.fetching taskId))
  | forgetting {turns : List Turning} {taskId : String} (h : Unanswered turns) :
      Resuming turns (some (.forgetting taskId))
  | settling {turns : List Turning} {taskId : String} {snapshot : Snapshot} {stage : Settling}
      {goal : Goal} (h : Answered turns taskId snapshot) (hresults : (accountOf turns).results = [])
      (hopen : (Call.settling stage goal).isClearing = false) :
      Resuming turns (some (.settling stage goal))
  /-- From here on nothing can fail: that the id is not removed stops nothing. -/
  | closing {turns : List Turning} {stage : Settling} {goal : Goal}
      (hresults : (accountOf turns).results = [])
      (hclosing : (Call.settling stage goal).isClearing = true) :
      Resuming turns (some (.settling stage goal))
  | unanswered {turns : List Turning} (h : Unanswered turns) : Resuming turns none
  | answered {turns : List Turning} {taskId : String} {snapshot : Snapshot}
      (h : Answered turns taskId snapshot) : Resuming turns none
  | succeeded {turns : List Turning} {outcome : Outcome}
      (hresults : (accountOf turns).results = [.ok outcome]) : Resuming turns none

section Stages

variable {turns : List Turning} {τ : Turning} {k : Nat} {t : Tracker} {calls : List ViewCall}
  {turn : Turn} {taskId : String} {d : Call}

/-- A resume looks at the lifecycle first. -/
theorem Resuming.begin (htook : τ.Took k t calls t.resume) (hcalls : calls = [])
    (hstance : t.stance = τ.before.tracker.stance) (hfetched : τ.event.fetched? = none) :
    Resuming [τ] t.resume.next := by
  have hunanswered : Unanswered [τ] :=
    Unanswered.nil.next htook hstance hfetched
  have hidle : t.lifecycle = τ.before.tracker.lifecycle := congrArg Stance.lifecycle hstance
  have haccount := htook.account []
  unfold Tracker.resume at htook haccount ⊢
  split
  · next hlifecycle =>
    rw [if_pos hlifecycle, hcalls, hfetched] at haccount
    exact .loading hunanswered haccount (hidle.symm.trans hlifecycle)
  · exact .unanswered hunanswered

/-- **A status that has come is followed at once.** -/
theorem Resuming.follow (h : Unanswered turns)
    (haccount : accountOf turns = { asked := [.status taskId] }) (hidle : FromIdle turns)
    {snapshot : Snapshot} {stage : Settling} {goal : Goal}
    (htook : τ.Took k t calls (.waiting (.settling stage goal)))
    (hevent : τ.event.fetched? = some (.ok snapshot))
    (hafter : t.stance = (τ.before.tracker.resumeFrom taskId snapshot).1.stance)
    (hopen : (Call.settling stage goal).isClearing = false) :
    Resuming (turns ++ [τ]) (some (.settling stage goal)) := by
  have hasked : ((Call.settling stage goal).ask? t.identity).bind Ask.foreign? = none := by
    cases stage <;> rfl
  have hturned := htook.account turns
  rw [haccount, hevent] at hturned
  simp only [Turn.next, Option.bind_some, hasked] at hturned
  refine .settling ⟨?_, ?_, hidle.append, turns, τ, [], rfl, ?_, hevent,
    htook.stance.trans hafter⟩ ?_ hopen
  · rw [hturned]
    rfl
  · rw [hturned]
    rfl
  · simpa using h.stays
  · rw [hturned]
    rfl

theorem isClearing_settle (t : Tracker) (s : Snapshot) (goal : Goal) :
    (Call.settling (t.settle s).2 goal).isClearing = false := by
  unfold Tracker.settle
  split <;> rfl

/-- The storage answers a resume that applies the status it has fetched. -/
theorem Resuming.applied {snapshot : Snapshot} {stage : Settling} {goal : Goal}
    {answer : Except StorageFailure Store.Answer} {settled : Settled}
    (h : Answered turns taskId snapshot) (hresults : (accountOf turns).results = [])
    (happlies : τ.before.tracker.Applies stage answer (t, calls, settled))
    (htook : τ.Took k t calls (settled.turn goal)) (hfetched : τ.event.fetched? = none) :
    Resuming (turns ++ [τ]) (settled.turn goal).next := by
  have haccount := htook.account turns
  cases happlies with
  | failed => exact .answered (h.snoc htook rfl hfetched rfl)
  | ignored | redrawn | finished =>
    apply Resuming.succeeded
    rw [haccount, hresults]
    rfl
  | closed =>
    refine .closing ?_ rfl
    rw [haccount, hresults]
    rfl

theorem fetched_of_stored {s : Session} {e : Event} {answer : Except StorageFailure Store.Answer}
    {j : Job} (hbrings : s.Brings j e (some (.store answer))) : e.fetched? = none := by
  rw [hbrings.of_store.1]
  rfl

theorem fetched_of_status {s : Session} {e : Event} {result : Except TransportFailure Snapshot}
    (hbrings : s.Brings (.call k) e (some (.status result))) : e.fetched? = some result := by
  cases hbrings
  rfl

theorem fetched_of_turn {s : Session} {e : Event} {j : Job} (hbrings : s.Brings j e none) :
    e.fetched? = none := by
  cases hbrings
  rfl

/-- **Each turn of a resume takes it to the next stage.** -/
theorem Resuming.next {before : Session} {e : Event} {after : Session}
    (h : Resuming turns (some d)) (hguarded : before.Guarded)
    (hd : before.doing (.call k) = some d) (htakes : before.Takes k d e (t, calls, turn))
    (htook : (Turning.mk before e after).Took k t calls turn) :
    Resuming (turns ++ [⟨before, e, after⟩]) turn.next := by
  obtain ⟨reply, hbrings, hturn⟩ := htakes.callTurn
  cases h with
  | called hnew =>
    rcases hnew with rfl | rfl
    · cases hturn with
      | enter => exact .begin htook rfl before.tracker.stance_enterPage (fetched_of_turn hbrings)
      | refuse => exact .unanswered (Unanswered.nil.next htook rfl (fetched_of_turn hbrings))
      | fail hd => rcases hd with hd | ⟨_, hd⟩ <;> cases hd
    · cases hturn with
      | resume => exact .begin htook rfl rfl (fetched_of_turn hbrings)
      | refuse => exact .unanswered (Unanswered.nil.next htook rfl (fetched_of_turn hbrings))
      | fail hd => rcases hd with hd | ⟨_, hd⟩ <;> cases hd
  | loading h haccount hidle =>
    cases hturn with
    | nothing | fail => exact .unanswered (h.next htook rfl (fetched_of_stored hbrings))
    | found =>
      refine .fetching (h.next htook rfl (fetched_of_stored hbrings)) ?_ hidle.append
      have hturned := htook.account turns
      rw [haccount, fetched_of_stored hbrings] at hturned
      exact hturned
    | refuse hnew => cases hnew
  | fetching h haccount hidle =>
    cases hturn with
    -- Here the tracker begins to follow the task; only a failed request changes nothing.
    | conclude hend =>
      refine .follow h haccount hidle htook (fetched_of_status hbrings) ?_ (isClearing_settle ..)
      rw [Tracker.resumeFrom_of_terminal _ _ hend]
    | track hrun =>
      refine .follow h haccount hidle htook (fetched_of_status hbrings) ?_ (isClearing_settle ..)
      rw [Tracker.resumeFrom_of_running _ _ hrun]
    | forget =>
      refine .forgetting (h.snoc htook rfl ?_)
      intro snapshot
      rw [fetched_of_status hbrings]
      simp
    | fail hd => rcases hd with hd | ⟨_, hd⟩ <;> cases hd
    | refuse hnew => cases hnew
  | forgetting h =>
    cases hturn with
    | stale | fail => exact .unanswered (h.next htook rfl (fetched_of_stored hbrings))
    | refuse hnew => cases hnew
  | settling h hresults hopen =>
    -- Only the reading of the id can fail here, and it comes before all effects.
    cases hturn with
    | lock =>
      refine .settling (h.snoc htook rfl (fetched_of_turn hbrings) rfl) ?_ rfl
      rw [htook.account, hresults]
      rfl
    | settle hsettle =>
      exact .applied h hresults (Tracker.applies_of_settleReply
        (hguarded.prepared _ _ _ hd) hsettle) htook (fetched_of_stored hbrings)
    | refuse hnew => cases hnew
    | fail hd => rcases hd with hd | ⟨_, hd⟩ <;> cases hd
  | closing hresults hclosing =>
    cases hturn with
    | lock => cases hclosing
    | settle hsettle =>
      have happlies := Tracker.applies_of_settleReply (hguarded.prepared _ _ _ hd) hsettle
      cases happlies with
      | finished =>
        apply Resuming.succeeded
        rw [htook.account, hresults]
        rfl
      | _ => cases hclosing
    | refuse hnew => cases hnew
    | fail hd => rcases hd with hd | ⟨_, hd⟩ <;> cases hd

/-- Whatever has failed, no status had come, or the resume has changed nothing since. -/
theorem Resuming.failed {next : Option Call} {error : TrackingError} (h : Resuming turns next)
    (hfails : (accountOf turns).error? = some error) :
    Unanswered turns ∨ ∃ taskId snapshot, Answered turns taskId snapshot := by
  have hresults := Account.results_of_error? hfails
  cases h with
  | called => exact .inl .nil
  | loading h | fetching h | forgetting h | unanswered h => exact .inl h
  | settling h | answered h => exact .inr ⟨_, _, h⟩
  | closing hnone =>
    rw [hnone] at hresults
    cases hresults
  | succeeded hok =>
    rw [hok] at hresults
    cases hresults

end Stages

/-! ### What a failed resume leaves behind -/

section Failed

variable {turns : List Turning} {x y : Stance} {taskId : String} {snapshot : Snapshot}

/-- The turns after the status have left the tracker where that has taken it. -/
theorem Answered.linked (h : Answered turns taskId snapshot) (hlinked : Linked x turns y) :
    ∃ t : Tracker, t.stance = x ∧ y = (t.resumeFrom taskId snapshot).1.stance := by
  obtain ⟨earlier, τ, later, rfl, hstays, _, hafter⟩ := h.stays
  obtain ⟨z, hearlier, hbefore, hlater⟩ := linked_append.mp hlinked
  have hz : z = x := hearlier.keep (f := id) fun σ hσ => hstays σ (by simp [hσ])
  have hy : y = τ.after.tracker.stance := hlater.keep (f := id) fun σ hσ => hstays σ (by simp [hσ])
  exact ⟨τ.before.tracker, hbefore.trans hz, hy.trans hafter⟩

/-- A status leaves an idle tracker where it is just if the task has ended and was the current
    one already. -/
theorem stance_resumeFrom_eq_iff {t : Tracker} (hidle : t.lifecycle = .idle) :
    (t.resumeFrom taskId snapshot).1.stance = t.stance ↔
      snapshot.isTerminal = true ∧ t.current = some taskId := by
  cases hend : snapshot.isTerminal with
  | true =>
    rw [Tracker.resumeFrom_of_terminal _ _ hend, Tracker.stance_settle]
    constructor
    · intro hstance
      have hcurrent := congrArg (fun x => x.focus.current) hstance
      exact ⟨rfl, hcurrent.symm⟩
    · rintro ⟨_, hcurrent⟩
      unfold Tracker.stance Tracker.focus
      rw [← hcurrent]
  | false =>
    rw [Tracker.resumeFrom_of_running _ _ hend, Tracker.stance_settle]
    -- What is tracked now was not tracked before, as the tracker was idle.
    refine iff_of_false ?_ (by simp)
    intro hstance
    have hlifecycle : Lifecycle.tracking = t.lifecycle := congrArg Stance.lifecycle hstance
    rw [hidle] at hlifecycle
    cases hlifecycle

end Failed

/-- **A failed resume leaves the tracker as it was exactly if no status has come, or if the
    task had ended and was the current one before.** An enter or a resume that fails, in any
    session and whatever the storage does, changes nothing in its turns but in the one that
    takes a status. So if nobody else moves the tracker meanwhile, it stands at the end
    where it stood before the call, unless a status has come that moves it. -/
theorem failed_resume_keeps_iff {config : Config} {t : Tracker}
    (hconfig : Tracker.ofConfig config = .ok t) {entries : Store.Entries} {s₀ s₁ s : Session}
    {k : Nat} {d : Call} {es : List Event} {error : TrackingError}
    (hreach : Reaches (fun _ _ => True) (opened t entries) s₀)
    (hd : d = .entering ∨ d = .resuming) (hcalled : s₀.step (.called k d) = some s₁)
    (hrun : play (Underway k) es s₁ = some s)
    (hfails : (accountOf (turnsOf k es s₁)).error? = some error) :
    (∀ τ ∈ turnsOf k es s₁, (∀ snapshot, τ.event.fetched? ≠ some (.ok snapshot)) → τ.Stays) ∧
      (Along (Undistracted k) es s₁ → (s.tracker.stance = s₀.tracker.stance ↔
        ∀ taskId snapshot, .status taskId ∈ (accountOf (turnsOf k es s₁)).asked →
          .ok snapshot ∈ (accountOf (turnsOf k es s₁)).fetched →
          snapshot.isTerminal = true ∧ s₀.tracker.current = some taskId)) := by
  obtain ⟨hdoing, hstance⟩ := called_spec hcalled
  have hstages := conduct_induction (Q := fun turns next _ => Resuming turns next) hconfig
    (fun _ τ _ _ _ _ hreach hd htakes htook hstage =>
      hstage.next (guarded_of_reaches hconfig hreach) hd htakes htook)
    (hreach.step _ trivial hcalled) hrun (hdoing ▸ .called hd)
  constructor
  · intro τ hτ hnone
    rcases hstages.failed hfails with h | ⟨taskId, snapshot, h⟩
    · exact h.stays τ hτ
    · obtain ⟨earlier, σ, later, hturns, hstays, hevent, _⟩ := h.stays
      rw [hturns] at hτ
      by_cases hσ : τ = σ
      · exact absurd (hσ ▸ hevent) (hnone snapshot)
      · refine hstays τ ?_
        simpa [hσ] using hτ
  · intro halone
    have hlinked := linked_of_play hrun halone
    rw [hstance] at hlinked
    rcases hstages.failed hfails with h | ⟨taskId, snapshot, h⟩
    · refine iff_of_true (hlinked.keep (f := id) h.stays) ?_
      intro _ snapshot _ hfetched
      exact absurd hfetched (h.fetched snapshot)
    · obtain ⟨t, ht, hs⟩ := h.linked hlinked
      have hidle : t.lifecycle = .idle :=
        (congrArg Stance.lifecycle ht).trans (h.idle.linked hlinked)
      have hcurrent : t.current = s₀.tracker.current := congrArg (fun x => x.focus.current) ht
      rw [hs, ← ht, stance_resumeFrom_eq_iff hidle, h.asked, h.fetched, hcurrent]
      simp

/-! ### Two enters that fail -/

/-- An enter finds a stored id whose task it cannot fetch, and then cannot remove the id. -/
def unfetched : List Event :=
  [.turn (.call 0), .stored (.call 0), .disturbed { delete := some "disk full" },
    .answered (.call 0) (.status (.error .timeout)), .stored (.call 0)]

/-- An enter finds a stored id whose task has ended, and then cannot read the id again. -/
def unread : List Event :=
  [.turn (.call 0), .stored (.call 0), .disturbed { get := some "disk full" },
    .answered (.call 0) (.status (.ok { status := .completed })), .stored (.call 0)]

/-- Without a status the enter that fails leaves no trace. -/
theorem failed_resume_keeps_unfetched : ∃ s₁ s error,
    (polling "task").step (.called 0 .entering) = some s₁ ∧
      play (Underway 0) unfetched s₁ = some s ∧
      (accountOf (turnsOf 0 unfetched s₁)).error? = some error ∧
      s.tracker.stance = (polling "task").tracker.stance := by
  have hplayed : ((polling "task").step (.called 0 .entering)).any fun s₁ =>
      (play (Underway 0) unfetched s₁).isSome &&
        ((accountOf (turnsOf 0 unfetched s₁)).error?.isSome &&
          (accountOf (turnsOf 0 unfetched s₁)).fetched.all fun result =>
            result.toOption.isNone) := by
    decide
  obtain ⟨s₁, hs₁, hplayed⟩ := (Option.any_eq_true ..).mp hplayed
  obtain ⟨hs, hplayed⟩ := (Bool.and_eq_true ..).mp hplayed
  obtain ⟨herror, hnone⟩ := (Bool.and_eq_true ..).mp hplayed
  obtain ⟨s, hs⟩ := Option.isSome_iff_exists.mp hs
  obtain ⟨error, herror⟩ := Option.isSome_iff_exists.mp herror
  refine ⟨s₁, s, error, hs₁, hs, herror, ?_⟩
  have hconfig : Tracker.ofConfig pollingPage = .ok (polling "").tracker := rfl
  refine ((failed_resume_keeps_iff hconfig .refl (.inl rfl) hs₁ hs herror).2
    (undistracted_of_own ?_)).mpr ?_
  · simp [unfetched, Event.job?]
  · intro taskId snapshot _ hfetched
    cases List.all_eq_true.mp hnone _ hfetched

/-- With one, the task stays the current one of an idle tracker that reports a failure. -/
theorem not_keeps_unread : ∃ s₁ s error,
    (polling "task").step (.called 0 .entering) = some s₁ ∧
      play (Underway 0) unread s₁ = some s ∧
      (accountOf (turnsOf 0 unread s₁)).error? = some error ∧
      Along (Undistracted 0) unread s₁ ∧ s.tracker.lifecycle = .idle ∧
      s.tracker.current = some "task" ∧
      s.tracker.stance ≠ (polling "task").tracker.stance := by
  have hplayed : ((polling "task").step (.called 0 .entering)).any fun s₁ =>
      (accountOf (turnsOf 0 unread s₁)).error?.isSome &&
        (play (Underway 0) unread s₁).any fun s =>
          decide (s.tracker.lifecycle = .idle ∧ s.tracker.current = some "task") := by
    decide
  obtain ⟨s₁, hs₁, hplayed⟩ := (Option.any_eq_true ..).mp hplayed
  obtain ⟨herror, hplayed⟩ := (Bool.and_eq_true ..).mp hplayed
  obtain ⟨s, hs, hends⟩ := (Option.any_eq_true ..).mp hplayed
  obtain ⟨error, herror⟩ := Option.isSome_iff_exists.mp herror
  obtain ⟨hidle, hcurrent⟩ := of_decide_eq_true hends
  refine ⟨s₁, s, error, hs₁, hs, herror, undistracted_of_own ?_, hidle, hcurrent, ?_⟩
  · simp [unread, Event.job?]
  · intro hstance
    have hkept : s.tracker.current = none := congrArg (fun x => x.focus.current) hstance
    rw [hcurrent] at hkept
    cases hkept

end Session

end TaskTracking
