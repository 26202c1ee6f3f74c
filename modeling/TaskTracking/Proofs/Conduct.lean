import TaskTracking.Proofs.Visit

/-! # What a call does itself

  While a control call is under way, other jobs take their turns, and other calls
  come and go. The turns of the one call are picked out of a run
  (`Session.turnsOf`), each with the session before and after it, so that what the
  call does can be told from what happens meanwhile.

  A law about the turns of a call is proved by what one more of them adds
  (`Session.conduct_induction`): nobody else changes what the call is at, or what
  the storage has answered it.
-/

namespace TaskTracking

/-- The error of a call that has failed. -/
def Account.error? (a : Account) : Option TrackingError :=
  match a.results with
  | [.error error] => some error
  | _ => none

theorem Account.results_of_error? {a : Account} {error : TrackingError}
    (h : a.error? = some error) : a.results = [.error error] := by
  unfold error? at h
  split at h
  · next hresults =>
    cases h
    exact hresults
  · cases h

namespace Session

/-! ### The turns of a call -/

/-- A turn that a call has taken. -/
structure Turning where
  before : Session
  event : Event
  after : Session

/-- What the turn has put out. -/
def Turning.outputs (τ : Turning) : List Output :=
  (τ.after.history.getLast?.map Record.outputs).getD []

/-- The turns that call `k` takes as these events happen. -/
def turnsOf (k : Nat) : List Event → Session → List Turning
  | [], _ => []
  | e :: es, s =>
    match s.step e with
    | none => []
    | some s' =>
      if e.job? = some (.call k) then ⟨s, e, s'⟩ :: turnsOf k es s' else turnsOf k es s'

/-- What passed between a call and its surroundings in these turns. -/
def accountOf (turns : List Turning) : Account :=
  turns.foldl (fun a τ => a.add τ.event τ.outputs) {}

theorem accountOf_append (turns : List Turning) (τ : Turning) :
    accountOf (turns ++ [τ]) = (accountOf turns).add τ.event τ.outputs := by
  unfold accountOf
  rw [List.foldl_append]
  rfl

/-- Call `k` has not returned. -/
def Underway (k : Nat) (s : Session) (_ : Event) : Prop := (s.doing (.call k)).isSome

instance (k : Nat) (s : Session) (e : Event) : Decidable (s.Underway k e) :=
  inferInstanceAs (Decidable ((s.doing (.call k)).isSome = true))

/-! ### The turns of others -/

section Others

variable {s s' b : Session} {e : Event} {k : Nat} {turn : Tracker × List Output}

/-- Outputs that ask nothing of the storage leave its answers alone. -/
theorem answers_after_of_quiet (hquiet : ∀ o ∈ turn.2, isRequest o = false) :
    (b.after e turn).answers = b.answers := by
  obtain ⟨t, outputs⟩ := turn
  rw [after_quiet b hquiet]
  rfl

/-- **What a call is at, and what it was answered, is changed by nobody else.** -/
theorem steady_of_step (hbusy : (s.doing (.call k)).isSome)
    (hother : e.job? ≠ some (.call k)) (hstep : s.step e = some s') :
    s'.doing (.call k) = s.doing (.call k) ∧
      s'.answers.lookup (.call k) = s.answers.lookup (.call k) := by
  have hnone : ∀ o ∈ ([] : List Output), isRequest o = false := fun o ho => by cases ho
  -- The job that has its turn is another one, whatever that turn is.
  have hturned : ∀ {j next}, e.job? = some j → s.Turned j next s' →
      s'.doing (.call k) = s.doing (.call k) ∧
        s'.answers.lookup (.call k) = s.answers.lookup (.call k) := by
    intro j next hjob hturned
    have hne : Job.call k ≠ j := by
      intro heq
      exact hother (heq ▸ hjob)
    refine ⟨?_, hturned.others _ hne⟩
    rw [hturned.doing, Function.update_of_ne hne]
  cases happens_of_step hstep with
  | @call _ i d r hjob hd htakes =>
    obtain ⟨t, calls, turn⟩ := r
    exact hturned hjob (turned_of_takes hd htakes)
  | @worker _ r hjob hworks =>
    obtain ⟨t, calls⟩ := r
    exact hturned hjob (turned_of_works hworks)
  | @channel _ b selector inbox outputs hjob hbeside hchannels =>
    have hanswers : (b.after e ({ s.tracker with selector, inbox }, outputs)).answers = b.answers :=
      answers_after_of_quiet (quiet_of_channels hchannels)
    constructor
    · unfold doing
      rw [after_tracker]
      rfl
    · rw [hanswers]
      exact hbeside.answers _ rfl
  | @called i d hnew hfree =>
    -- A call under way has its ticket, which no new one can get.
    have hne : Job.call k ≠ .call i := by
      intro heq
      rw [heq, hfree] at hbusy
      cases hbusy
    constructor
    · rw [doing_called hfree, Function.update_of_ne hne]
    · rw [answers_after_of_quiet hnone]
  | left =>
    constructor
    · rw [doing_left, Function.update_of_ne (by simp)]
    · rw [answers_after_of_quiet hnone]
      exact lookup_filter_ne (by simp) _
  | disturbed faults =>
    constructor
    · unfold doing
      rw [after_tracker]
    · rw [answers_after_of_quiet hnone]

end Others

/-! ### A turn of the call -/

section Turn

variable {s s' : Session} {e : Event} {τ : Turning} {k : Nat} {d : Call} {t : Tracker}
  {calls : List ViewCall} {turn : TaskTracking.Turn}

/-- All that a turn of call `k` does, besides what the turn itself says. -/
structure Turning.Took (τ : Turning) (k : Nat) (t : Tracker) (calls : List ViewCall)
    (turn : TaskTracking.Turn) : Prop where
  turned : τ.before.Turned (.call k) turn.next τ.after
  tracker : ∃ cs, τ.after.tracker = { t with calls := cs }
  outputs : τ.outputs = (Tracker.afterCall k (t, calls, turn)).2

/-- A call that asks nothing of the storage leaves it alone. -/
theorem storage_of_unasked {s s' : Session} {j : Job} {next : Option Call}
    (hturned : s.Turned j next s')
    (hask : (next.bind fun d => d.ask? s.tracker.identity).bind Ask.request? = none) :
    s'.storage = s.storage := by
  rw [hturned.storage]
  unfold performed?
  rw [hask]
  rfl

theorem outputs_after (b : Session) (turn : Tracker × List Output) :
    (Turning.mk s e (b.after e turn)).outputs = turn.2 := by
  unfold Turning.outputs after
  dsimp only
  rw [foldl_perform_history]
  simp [note]

theorem took_of_step (hd : s.doing (.call k) = some d) (hjob : e.job? = some (.call k))
    (hstep : s.step e = some s') :
    ∃ t calls turn, s.Takes k d e (t, calls, turn) ∧ (Turning.mk s e s').Took k t calls turn := by
  obtain ⟨t, calls, turn, htakes, rfl⟩ := takes_of_step hd hjob hstep
  refine ⟨t, calls, turn, htakes, turned_of_takes hd htakes, ?_, outputs_after _ _⟩
  rw [after_tracker]
  exact Tracker.afterCall_fst k t calls turn

theorem Turning.Took.others (h : τ.Took k t calls turn) (j : Job) (hj : j ≠ .call k) :
    τ.after.doing j = τ.before.doing j := by
  rw [h.turned.doing, Function.update_of_ne hj]

/-- What a turn adds to the account of a call. -/
theorem Turning.Took.account (h : τ.Took k t calls turn) (turns : List Turning) :
    accountOf (turns ++ [τ]) =
      { asked := (accountOf turns).asked ++
          ((turn.next.bind (Call.ask? t.identity)).bind Ask.foreign?).toList
        fetched := (accountOf turns).fetched ++ τ.event.fetched?.toList
        results := (accountOf turns).results ++ turn.result?.toList
        views := (accountOf turns).views ++ calls } := by
  rw [accountOf_append, h.outputs, add_afterCall]

end Turn

/-! ### Induction over the turns -/

section Induction

variable {config : Config} {t₀ : Tracker} {entries : Store.Entries} {k : Nat} {s s' : Session}
  {es : List Event}
  {Q : List Turning → Option Call → Option (Except StorageFailure Store.Answer) → Prop}

/-- **Whatever holds before a call has taken a turn, and is kept by each turn of it, holds
    along a run, whatever happens in between.** -/
theorem conduct_induction (hconfig : Tracker.ofConfig config = .ok t₀)
    (hturn : ∀ turns (τ : Turning) d t calls turn,
      Reaches (fun _ _ => True) (opened t₀ entries) τ.before →
      τ.before.doing (.call k) = some d → τ.before.Takes k d τ.event (t, calls, turn) →
      τ.Took k t calls turn → Q turns (some d) (τ.before.answers.lookup (.call k)) →
      Q (turns ++ [τ]) turn.next (τ.after.answers.lookup (.call k)))
    (hreach : Reaches (fun _ _ => True) (opened t₀ entries) s)
    (hrun : play (Underway k) es s = some s')
    (hQ : Q [] (s.doing (.call k)) (s.answers.lookup (.call k))) :
    Q (turnsOf k es s) (s'.doing (.call k)) (s'.answers.lookup (.call k)) := by
  -- Generalised over the turns already taken; those of the rest of the run come after them.
  suffices hall : ∀ turns, Q turns (s.doing (.call k)) (s.answers.lookup (.call k)) →
      Q (turns ++ turnsOf k es s) (s'.doing (.call k)) (s'.answers.lookup (.call k)) by
    have hfirst := hall [] hQ
    rwa [List.nil_append] at hfirst
  clear hQ
  induction es generalizing s with
  | nil =>
    intro turns hQ
    rw [play, Option.some.injEq] at hrun
    subst hrun
    simpa [turnsOf] using hQ
  | cons e es ih =>
    intro turns hQ
    obtain ⟨hbusy, s₁, hstep, hrest⟩ := play_cons_iff.mp hrun
    have h := guarded_of_reaches hconfig hreach
    have hreach₁ := hreach.step e trivial hstep
    simp only [turnsOf, hstep]
    by_cases hjob : e.job? = some (.call k)
    · rw [if_pos hjob, List.append_cons]
      obtain ⟨d, hd⟩ := Option.isSome_iff_exists.mp hbusy
      obtain ⟨t, calls, turn, htakes, htook⟩ := took_of_step hd hjob hstep
      rw [hd] at hQ
      have hnext := hturn turns ⟨s, e, s₁⟩ d t calls turn hreach hd htakes htook hQ
      refine ih hreach₁ hrest _ ?_
      rwa [htook.turned.doing, Function.update_self]
    · rw [if_neg hjob]
      obtain ⟨hdoing, hanswer⟩ := steady_of_step hbusy hjob hstep
      rw [← hdoing, ← hanswer] at hQ
      exact ih hreach₁ hrest turns hQ

end Induction

end Session

/-! ### Where a tracker stands -/

/-- The task that a tracker is about, wherever it says so. -/
structure Focus where
  current : Option String
  display : Display
  /-- The subscription of the selector. -/
  active : Option String
  /-- The subscription of the push channel. -/
  pushed : Option String
  /-- The task that is polled. -/
  polled : Option String

structure Stance where
  lifecycle : Lifecycle
  focus : Focus

namespace Tracker

def focus (t : Tracker) : Focus where
  current := t.current
  display := t.display
  active := t.selector.active
  pushed := t.selector.push.bind Push.Channel.active
  polled := t.selector.poll.currentTask

def stance (t : Tracker) : Stance := ⟨t.lifecycle, t.focus⟩

variable (t : Tracker)

theorem focus_startBackground : t.startBackground.focus = t.focus := by
  unfold startBackground Selector.watch
  split
  · split <;> rfl
  · rfl

/-- A connection that is begun subscribes to nothing. -/
theorem focus_connect :
    ({ t with selector := t.selector.connect.1 } : Tracker).focus = t.focus := by
  unfold Selector.connect
  split
  · next push hpush => simp [focus, hpush]
  · rfl

theorem stance_enterPage : t.enterPage.1.stance = t.stance := by
  have hfocus : t.enterPage.1.focus = t.focus :=
    (focus_connect t.startBackground).trans (focus_startBackground t)
  have hlifecycle : t.enterPage.1.lifecycle = t.lifecycle := lifecycle_startBackground t
  unfold stance
  rw [hfocus, hlifecycle]

/-- Whoever waits for the lock or takes it changes nothing else. -/
theorem stance_settle (s : Snapshot) : (t.settle s).1.stance = t.stance := by
  unfold settle
  split <;> rfl

/-- What is let go of by a cancel. -/
theorem focus_unsubscribe : ({ t with
      current := none
      selector := t.selector.unsubscribe
      display := {} } : Tracker).focus =
    { current := none, display := {}, active := none, pushed := none, polled := none } := by
  have hpushed :
      (t.selector.push.map Push.Channel.unsubscribe).bind Push.Channel.active = none := by
    cases t.selector.push <;> rfl
  have hpolled : t.selector.poll.stop.currentTask = none := by
    simp [Polling.Channel.currentTask, Polling.Channel.activeLoop]
  simp [focus, Selector.unsubscribe, hpushed, hpolled]

end Tracker

namespace Session

/-- No other job than call `k` changes where the tracker stands. -/
def Undistracted (k : Nat) (s : Session) (e : Event) : Prop :=
  e.job? ≠ some (.call k) → ∀ s' ∈ s.step e, s'.tracker.stance = s.tracker.stance

theorem Turning.Took.stance {τ : Turning} {k : Nat} {t : Tracker} {calls : List ViewCall}
    {turn : Turn} (h : τ.Took k t calls turn) : τ.after.tracker.stance = t.stance := by
  obtain ⟨cs, htracker⟩ := h.tracker
  rw [htracker]
  rfl

theorem Turning.Took.focus {τ : Turning} {k : Nat} {t : Tracker}
    {calls : List ViewCall} {turn : Turn} (h : τ.Took k t calls turn) :
    τ.after.tracker.focus = t.focus :=
  congrArg Stance.focus h.stance

theorem Turning.Took.lifecycle {τ : Turning} {k : Nat} {t : Tracker}
    {calls : List ViewCall} {turn : Turn} (h : τ.Took k t calls turn) :
    τ.after.tracker.lifecycle = t.lifecycle :=
  congrArg Stance.lifecycle h.stance

/-- The tracker was idle at the first of the turns. -/
def FromIdle : List Turning → Prop
  | [] => False
  | τ :: _ => τ.before.tracker.lifecycle = .idle

/-- Each turn begins where the one before it has left the tracker. -/
def Linked (x : Stance) : List Turning → Stance → Prop
  | [], y => x = y
  | τ :: turns, y => τ.before.tracker.stance = x ∧ Linked τ.after.tracker.stance turns y

section Linked

variable {k : Nat} {s s' : Session} {es : List Event} {x y : Stance} {turns turns' : List Turning}

theorem linked_append :
    Linked x (turns ++ turns') y ↔ ∃ z, Linked x turns z ∧ Linked z turns' y := by
  induction turns generalizing x with
  | nil => simp [Linked]
  | cons τ turns ih => simp [Linked, ih, and_assoc]

theorem FromIdle.append (h : FromIdle turns) : FromIdle (turns ++ turns') := by
  cases turns with
  | nil => exact h.elim
  | cons τ turns => exact h

theorem FromIdle.linked (h : FromIdle turns) (hlinked : Linked x turns y) :
    x.lifecycle = .idle := by
  cases turns with
  | nil => exact h.elim
  | cons τ turns =>
    rw [← hlinked.1]
    exact h

/-- What every turn keeps of the stance is kept from first to last. -/
theorem Linked.keep {α : Type} {f : Stance → α} (h : Linked x turns y)
    (hkeep : ∀ τ ∈ turns, f τ.after.tracker.stance = f τ.before.tracker.stance) : f y = f x := by
  induction turns generalizing x with
  | nil =>
    have hxy : x = y := h
    rw [hxy]
  | cons τ turns ih =>
    obtain ⟨hbefore, hrest⟩ := h
    have hlater := ih hrest fun σ hσ => hkeep σ (List.mem_cons_of_mem _ hσ)
    rw [hlater, hkeep τ List.mem_cons_self, hbefore]

theorem linked_of_play (hrun : play (Underway k) es s = some s')
    (halone : Along (Undistracted k) es s) :
    Linked s.tracker.stance (turnsOf k es s) s'.tracker.stance := by
  induction es generalizing s with
  | nil =>
    rw [play, Option.some.injEq] at hrun
    exact congrArg (fun s => s.tracker.stance) hrun
  | cons e es ih =>
    obtain ⟨_, s₁, hstep, hrest⟩ := play_cons_iff.mp hrun
    obtain ⟨hother, hlater⟩ := halone
    have hlinked := ih hrest (hlater s₁ hstep)
    simp only [turnsOf, hstep]
    by_cases hjob : e.job? = some (.call k)
    · rw [if_pos hjob]
      exact ⟨rfl, hlinked⟩
    · rw [if_neg hjob, ← hother hjob s₁ hstep]
      exact hlinked

/-- A new call has done nothing yet. -/
theorem called_spec {d : Call} (hcalled : s.step (.called k d) = some s') :
    s'.doing (.call k) = some d ∧ s'.tracker.stance = s.tracker.stance := by
  simp only [step] at hcalled
  split at hcalled
  · next hcond =>
    cases hcalled
    have hfree := Option.isNone_iff_eq_none.mp ((Bool.and_eq_true ..).mp hcond).2
    rw [doing_called hfree, Function.update_self, after_tracker]
    exact ⟨rfl, rfl⟩
  · cases hcalled

/-- The call's own turns do not distract it, nor does a storage that begins to fail. -/
theorem undistracted_of_own
    (hown : ∀ e ∈ es, e.job? = some (.call k) ∨ ∃ faults, e = .disturbed faults) :
    Along (Undistracted k) es s := by
  induction es generalizing s with
  | nil => trivial
  | cons e es ih =>
    constructor
    · intro hother s' hs'
      rcases hown e List.mem_cons_self with hjob | ⟨faults, rfl⟩
      · exact absurd hjob hother
      · cases hs'
        rw [after_tracker]
    · intro s' _
      apply ih
      intro e he
      exact hown e (List.mem_cons_of_mem _ he)

end Linked

end Session

end TaskTracking
