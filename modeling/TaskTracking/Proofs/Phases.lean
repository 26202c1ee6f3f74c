import TaskTracking.Proofs.Core

/-! # Phases of ownership

  At any time the stored task id belongs to an earlier page, to nobody, to a start
  that has just stored it, or to the tracking of its task; and while a terminal
  snapshot has it removed, the tracking goes on without it, as it does for good if
  the page is left in the meantime. These are the phases of a core. `Core.Sound` says
  what a core looks like in a phase and what each job may be at: it is the invariant
  from which the laws follow.
-/

namespace TaskTracking

/-! ### One job at most -/

/-- At most one job is at a call with `P`, and there is one just when `b` holds. -/
def Sole (P : Call → Bool) (doing : Job → Option Call) (b : Bool) : Prop :=
  ∃ holder : Option Job, holder.isSome = b ∧ ∀ j, (doing j).any P = decide (holder = some j)

namespace Sole

variable {P : Call → Bool} {doing : Job → Option Call} {b : Bool} {j j' : Job} {d : Option Call}

/-- A job that goes on without a change of `P`. -/
theorem keep (h : Sole P doing b) (hsame : d.any P = (doing j).any P) :
    Sole P (Function.update doing j d) b := by
  obtain ⟨holder, hb, hall⟩ := h
  refine ⟨holder, hb, fun i => ?_⟩
  by_cases hi : i = j
  · subst hi
    rw [Function.update_self, hsame, hall]
  · rw [Function.update_of_ne hi, hall]

/-- A job becomes the one. -/
theorem take (h : Sole P doing false) (hd : d.any P = true) :
    Sole P (Function.update doing j d) true := by
  obtain ⟨holder, hb, hall⟩ := h
  have hnone : holder = none := by simpa using hb
  subst hnone
  refine ⟨some j, rfl, fun i => ?_⟩
  by_cases hi : i = j
  · subst hi
    rw [Function.update_self, hd]
    simp
  · rw [Function.update_of_ne hi, hall]
    simpa using Ne.symm hi

/-- The one job goes on to something else. -/
theorem leave (h : Sole P doing b) (hj : (doing j).any P = true) (hd : d.any P = false) :
    Sole P (Function.update doing j d) false := by
  obtain ⟨holder, hb, hall⟩ := h
  have hholder : holder = some j := by simpa [hj] using hall j
  subst hholder
  refine ⟨none, rfl, fun i => ?_⟩
  by_cases hi : i = j
  · subst hi
    rw [Function.update_self, hd]
    simp
  · rw [Function.update_of_ne hi, hall]
    simpa using Ne.symm hi

/-- No other job is at such a call. -/
theorem other (h : Sole P doing b) (hj : (doing j).any P = true) (hne : j' ≠ j) :
    (doing j').any P = false := by
  obtain ⟨holder, hb, hall⟩ := h
  have hholder : holder = some j := by simpa [hj] using hall j
  rw [hall, hholder]
  simpa using Ne.symm hne

theorem none (h : Sole P doing false) (j : Job) : (doing j).any P = false := by
  obtain ⟨holder, hb, hall⟩ := h
  have hnone : holder = .none := by simpa using hb
  rw [hall, hnone]
  simp

theorem eq_true (h : Sole P doing b) (hj : (doing j).any P = true) : b = true := by
  obtain ⟨holder, hb, hall⟩ := h
  have hholder : holder = some j := by simpa [hj] using hall j
  rw [← hb, hholder]
  rfl

theorem exists_of_true (h : Sole P doing true) : ∃ j d, doing j = some d ∧ P d = true := by
  obtain ⟨holder, hb, hall⟩ := h
  obtain ⟨j, rfl⟩ := Option.isSome_iff_exists.mp hb
  have hj : (doing j).any P = true := by simpa using hall j
  cases hd : doing j with
  | none => simp [hd] at hj
  | some d => exact ⟨j, d, hd, by simpa [hd] using hj⟩

end Sole

/-! ### Phases -/

/-- Whom the stored task id belongs to. -/
inductive Phase where
  /-- To an earlier page: nothing was done for the task here. -/
  | dormant (taskId : String)
  | free
  /-- To a start that has stored it and not yet begun to track the task. -/
  | saving (taskId : String)
  | tracking (taskId : String)
  /-- The task is still tracked; its id is removed for a terminal snapshot. -/
  | closing (taskId : String)
  /-- The task is still tracked; the page was left while its id was removed. -/
  | stranded (taskId : String)

namespace Phase

def stored : Phase → Option String
  | .dormant taskId | .saving taskId | .tracking taskId => some taskId
  | .free | .closing _ | .stranded _ => none

/-- The tracked task. -/
def task : Phase → Option String
  | .tracking taskId | .closing taskId | .stranded taskId => some taskId
  | _ => none

def isDormant : Phase → Bool
  | .dormant _ => true
  | _ => false

def isTracking : Phase → Bool
  | .tracking _ => true
  | _ => false

def isStranded : Phase → Bool
  | .stranded _ => true
  | _ => false

/-- Whether a call may have the snapshot for its goal: it applies none of a task that
    an earlier page has left, and finishes such a task by one of its own. -/
def Suits (φ : Phase) (s : Snapshot) : Goal → Prop
  | .applied => φ ≠ .dormant s.id
  | .resumed _ => φ.isDormant = false
  | .finished .. => ∀ x, φ = .dormant x → s.id = x

/-- A phase that is not a dormant one suits every goal. -/
theorem suits_of_awake {φ : Phase} (h : φ.isDormant = false) (s : Snapshot) (goal : Goal) :
    φ.Suits s goal := by
  have hnone : ∀ x, φ ≠ .dormant x := by
    rintro x rfl
    cases h
  cases goal with
  | applied => exact hnone s.id
  | resumed => exact h
  | finished => exact fun x hx => absurd hx (hnone x)

/-- A snapshot that is not for finishing a task is none of a dormant one. -/
theorem Suits.ne_dormant {φ : Phase} {s : Snapshot} {goal : Goal} (h : φ.Suits s goal)
    (hplain : goal.isFinishing = false) : φ ≠ .dormant s.id := by
  cases goal with
  | applied => exact h
  | resumed =>
    rintro rfl
    cases h
  | finished => cases hplain

end Phase

/-! ### What a job may be at -/

namespace Call

/-- Whether the call waits for the storage. -/
def asks : Call → Bool
  | .loading | .forgetting _ | .saving _ | .erasing _ => true
  | .settling (.reading _) _ | .settling (.clearing ..) _ => true
  | _ => false

/-- Whether the call creates a task. -/
def starts : Call → Bool
  | .creating _ | .saving _ => true
  | _ => false

theorem asks_of_holds {d : Call} (h : d.holds = true) : d.asks = true := by
  cases d with
  | erasing => rfl
  | settling stage goal =>
    cases stage with
    | locking => cases h
    | _ => rfl
  | _ => cases h

theorem isClearing_of_isWithdrawing {d : Call} (h : d.isWithdrawing = true) :
    d.isClearing = false := by
  cases d <;> first | rfl | cases h

/-- What a call that applies a snapshot may be at in a phase. One that finishes a
    task of an earlier page may be there before the phase has changed. -/
def Settles (φ : Phase) (answer : Option Store.Answer) (goal : Goal) : Settling → Prop
  | .locking s => φ.Suits s goal
  | .reading s =>
    φ.Suits s goal ∧
      ∀ found, answer = some (.value found) →
        goal.isFinishing = false ∨ φ.isDormant ∨ φ.isStranded →
          (Store.Identity.taskId? found = some s.id ↔ φ.stored = some s.id)
  | .clearing s applied rest =>
    φ.isDormant = false ∧ s.isTerminal = true ∧ applied.isTerminal = true ∧
      rest = s.lastEffects ∧ (goal.isFinishing = false → φ = .closing s.id)

/-- What a call may be at in a phase, with this answer of the storage under way. -/
def Fits (φ : Phase) (answer : Option Store.Answer) : Call → Prop
  | .saving taskId => φ = .saving taskId
  | .loading =>
    ∀ found, answer = some (.value found) → Store.Identity.taskId? found = none →
      φ.isDormant = false
  | .forgetting _ => φ.isDormant = false
  | .applying s => φ ≠ .dormant s.id ∧ φ ≠ .saving s.id
  | .settling stage goal =>
    φ ≠ .saving stage.snapshot.id ∧
      (∀ taskId status, goal = .finished taskId status →
        stage.snapshot.id = taskId ∧ stage.snapshot.isTerminal = true) ∧
      Settles φ answer goal stage
  | _ => True

end Call

namespace Call

/-- A call fits a new phase if that is not a dormant one, if the call neither stores
    an id nor has a snapshot of one that is just stored, and if what it has read
    about the stored id is not outdated: only who does not hold the lock may have the
    phase close or get stranded. -/
theorem Fits.change {φ ψ : Phase} {answer : Option Store.Answer} {d : Call} (h : d.Fits φ answer)
    (hawake : ψ.isDormant = false) (hnew : ∀ x, ψ = .saving x → d.named? ≠ some x)
    (hsaved : d.saved? = none)
    (hread : d.holds = false ∨ (∀ x, φ ≠ .closing x) ∧ ψ.isStranded = false ∧
      ∀ x, d.named? = some x → φ ≠ .dormant x → (φ.stored = some x ↔ ψ.stored = some x)) :
    d.Fits ψ answer := by
  -- A new phase matters to those who know of a dormant one, of a new id, or of the stored id.
  cases d with
  | saving taskId => simp [saved?] at hsaved
  | loading => exact fun _ _ _ => hawake
  | forgetting taskId => exact hawake
  | applying s =>
    refine ⟨?_, fun heq => hnew s.id heq rfl⟩
    rintro rfl
    cases hawake
  | settling stage goal =>
    obtain ⟨_, hgoal, hsettles⟩ := h
    refine ⟨fun heq => hnew _ heq rfl, hgoal, ?_⟩
    cases stage with
    | locking s => exact Phase.suits_of_awake hawake s goal
    | reading s =>
      refine ⟨Phase.suits_of_awake hawake s goal, fun found hanswer hcounts => ?_⟩
      have hplain : goal.isFinishing = false := by
        rcases hread with hholds | ⟨_, hstill, _⟩
        · cases hholds
        · simpa [hawake, hstill] using hcounts
      rcases hread with hholds | ⟨_, _, hsame⟩
      · cases hholds
      · rw [hsettles.2 found hanswer (.inl hplain)]
        exact hsame s.id rfl (hsettles.1.ne_dormant hplain)
    | clearing s applied rest =>
      obtain ⟨_, hend, happlied, hrest, hclosing⟩ := hsettles
      refine ⟨hawake, hend, happlied, hrest, fun hplain => ?_⟩
      rcases hread with hholds | ⟨hopen, _⟩
      · cases hholds
      · exact absurd (hclosing hplain) (hopen s.id)
  | _ => trivial

end Call

namespace Core

/-- What a core looks like in a phase. -/
structure Looks (c : Core) (φ : Phase) : Prop where
  stored : c.stored = φ.stored
  untracked : φ.task = none → c.lifecycle ≠ .tracking ∧ c.lifecycle ≠ .done ∧ c.active = none
  tracked : ∀ x, φ.task = some x → c.lifecycle = .tracking ∧ c.current = some x ∧
    c.active = some x ∧ c.display.taskId = some x
  visible : c.display.visible = φ.isTracking
  dormant : ∀ x, φ = .dormant x →
    c.queue = [] ∧ c.entered = false ∧ c.shown = [] ∧ ∀ y, c.current = some y → y = x
  saving : ∀ x, φ = .saving x →
    c.lifecycle = .creating ∧ c.current ≠ some x ∧ ∀ d ∈ c.queue, d.taskId ≠ x

/-- **Invariant.** The core is in the phase, and every job is at what fits it. -/
structure Sound (c : Core) (φ : Phase) : Prop where
  looks : c.Looks φ
  lock : Sole Call.holds c.doing c.locked
  start : Sole Call.starts c.doing (decide (c.lifecycle = .creating))
  asked : ∀ j, (c.answer j).isSome = (c.doing j).any Call.asks
  fits : ∀ j d, c.doing j = some d → d.Fits φ (c.answer j)
  saver : ∀ x, φ = .saving x → ∃ j, c.doing j = some (.saving x)
  closer : ∀ x, φ = .closing x → ∃ j d, c.doing j = some d ∧ d.isClearing

/-! ### Changes of one job -/

theorem answered_isSome (d : Call) (found : Option String) :
    (d.answered found).isSome = d.asks := by
  cases d with
  | settling stage goal => cases stage <;> rfl
  | _ => rfl

/-- The job neither stores an id nor removes one for a snapshot. -/
def Passive (c : Core) (j : Job) : Prop :=
  ∀ d, c.doing j = some d → d.saved? = none ∧ d.isClearing = false

/-- A core that looks the same but for a shorter queue. -/
theorem Looks.of_eq {c c' : Core} {φ : Phase} (h : c.Looks φ) (hfound : c'.found = c.found)
    (hlifecycle : c'.lifecycle = c.lifecycle) (hcurrent : c'.current = c.current)
    (hactive : c'.active = c.active) (hdisplay : c'.display = c.display)
    (hshown : c'.shown = c.shown) (hqueue : ∀ d ∈ c'.queue, d ∈ c.queue)
    (hentered : φ.isDormant = true → c'.entered = c.entered) : c'.Looks φ where
  stored := by
    unfold Core.stored
    rw [hfound]
    exact h.stored
  untracked := by
    rw [hlifecycle, hactive]
    exact h.untracked
  tracked := by
    rw [hlifecycle, hcurrent, hactive, hdisplay]
    exact h.tracked
  visible := by
    rw [hdisplay]
    exact h.visible
  dormant := by
    rintro x rfl
    obtain ⟨hnil, hent, hnone, hcur⟩ := h.dormant x rfl
    rw [hentered rfl, hcurrent, hshown]
    refine ⟨List.eq_nil_iff_forall_not_mem.mpr fun d hd => ?_, hent, hnone, hcur⟩
    have hmem := hqueue d hd
    rw [hnil] at hmem
    cases hmem
  saving := by
    intro x hx
    obtain ⟨hlife, hcur, hunnamed⟩ := h.saving x hx
    rw [hlifecycle, hcurrent]
    exact ⟨hlife, hcur, fun d hd => hunnamed d (hqueue d hd)⟩

namespace Sound

variable {c b : Core} {φ ψ : Phase} {j : Job} {d : Call}

/-- A job goes on to wait, perhaps into another phase. -/
theorem wait (h : c.Sound φ) (hdoing : b.doing = c.doing) (hanswer : b.answer = c.answer)
    (hlooks : (b.wait j d).Looks ψ)
    (hlock : Sole Call.holds (Function.update c.doing j (some d)) b.locked)
    (hstart : Sole Call.starts (Function.update c.doing j (some d))
      (decide (b.lifecycle = .creating)))
    (hfits : d.Fits ψ (d.answered b.found))
    (hothers : ∀ j' d', j' ≠ j → c.doing j' = some d' → d'.Fits φ (c.answer j') →
      d'.Fits ψ (c.answer j'))
    (hsaver : ∀ x, ψ = .saving x → ∃ i, Function.update c.doing j (some d) i = some (.saving x))
    (hcloser : ∀ x, ψ = .closing x →
      ∃ i d', Function.update c.doing j (some d) i = some d' ∧ d'.isClearing) :
    (b.wait j d).Sound ψ := by
  have hdoing' : (b.wait j d).doing = Function.update c.doing j (some d) := by rw [← hdoing]; rfl
  have hanswer' : (b.wait j d).answer = Function.update c.answer j (d.answered b.found) := by
    rw [← hanswer]; rfl
  refine ⟨hlooks, hdoing' ▸ hlock, hdoing' ▸ hstart, fun i => ?_, fun i d' hd' => ?_,
    hdoing' ▸ hsaver, hdoing' ▸ hcloser⟩
  · rw [hdoing', hanswer']
    by_cases hi : i = j
    · subst hi
      simp [answered_isSome]
    · rw [Function.update_of_ne hi, Function.update_of_ne hi]
      exact h.asked i
  · rw [hdoing'] at hd'
    rw [hanswer']
    by_cases hi : i = j
    · subst hi
      rw [Function.update_self] at hd' ⊢
      cases hd'
      exact hfits
    · rw [Function.update_of_ne hi] at hd' ⊢
      exact hothers i d' hi hd' (h.fits i d' hd')

/-- A job ends, perhaps into another phase. -/
theorem ended (h : c.Sound φ) (hdoing : b.doing = c.doing) (hanswer : b.answer = c.answer)
    (hlooks : (b.ended j).Looks ψ)
    (hlock : Sole Call.holds (Function.update c.doing j none) b.locked)
    (hstart : Sole Call.starts (Function.update c.doing j none)
      (decide (b.lifecycle = .creating)))
    (hothers : ∀ j' d', j' ≠ j → c.doing j' = some d' → d'.Fits φ (c.answer j') →
      d'.Fits ψ (c.answer j'))
    (hsaver : ∀ x, ψ = .saving x → ∃ i, Function.update c.doing j none i = some (.saving x))
    (hcloser : ∀ x, ψ = .closing x →
      ∃ i d', Function.update c.doing j none i = some d' ∧ d'.isClearing) :
    (b.ended j).Sound ψ := by
  have hdoing' : (b.ended j).doing = Function.update c.doing j none := by rw [← hdoing]; rfl
  have hanswer' : (b.ended j).answer = Function.update c.answer j none := by rw [← hanswer]; rfl
  refine ⟨hlooks, hdoing' ▸ hlock, hdoing' ▸ hstart, fun i => ?_, fun i d' hd' => ?_,
    hdoing' ▸ hsaver, hdoing' ▸ hcloser⟩
  · rw [hdoing', hanswer']
    by_cases hi : i = j
    · subst hi
      simp
    · rw [Function.update_of_ne hi, Function.update_of_ne hi]
      exact h.asked i
  · rw [hdoing'] at hd'
    rw [hanswer']
    by_cases hi : i = j
    · subst hi
      rw [Function.update_self] at hd'
      cases hd'
    · rw [Function.update_of_ne hi] at hd' ⊢
      exact hothers i d' hi hd' (h.fits i d' hd')

/-- The job that stores an id goes on doing so while another one moves. -/
theorem saver_update (h : c.Sound φ) (hpassive : c.Passive j) (d : Option Call) (x : String)
    (hx : φ = .saving x) : ∃ i, Function.update c.doing j d i = some (.saving x) := by
  obtain ⟨i, hi⟩ := h.saver x hx
  have hne : i ≠ j := by
    rintro rfl
    have hsaved := (hpassive _ hi).1
    cases hsaved
  exact ⟨i, by rw [Function.update_of_ne hne]; exact hi⟩

theorem closer_update (h : c.Sound φ) (hpassive : c.Passive j) (d : Option Call) (x : String)
    (hx : φ = .closing x) :
    ∃ i d', Function.update c.doing j d i = some d' ∧ d'.isClearing := by
  obtain ⟨i, d', hi, hclearing⟩ := h.closer x hx
  have hne : i ≠ j := by
    rintro rfl
    have hnot := (hpassive _ hi).2
    rw [hclearing] at hnot
    cases hnot
  exact ⟨i, d', by rw [Function.update_of_ne hne]; exact hi, hclearing⟩

/-- A job goes on to wait within the phase. -/
theorem stay_wait (h : c.Sound φ) (hpassive : c.Passive j) (hdoing : b.doing = c.doing)
    (hanswer : b.answer = c.answer) (hlooks : (b.wait j d).Looks φ)
    (hlock : Sole Call.holds (Function.update c.doing j (some d)) b.locked)
    (hstart : Sole Call.starts (Function.update c.doing j (some d))
      (decide (b.lifecycle = .creating)))
    (hfits : d.Fits φ (d.answered b.found)) : (b.wait j d).Sound φ :=
  h.wait hdoing hanswer hlooks hlock hstart hfits (fun _ _ _ _ hf => hf)
    (h.saver_update hpassive _) (h.closer_update hpassive _)

/-- A job ends within the phase. -/
theorem stay_ended (h : c.Sound φ) (hpassive : c.Passive j) (hdoing : b.doing = c.doing)
    (hanswer : b.answer = c.answer) (hlooks : (b.ended j).Looks φ)
    (hlock : Sole Call.holds (Function.update c.doing j none) b.locked)
    (hstart : Sole Call.starts (Function.update c.doing j none)
      (decide (b.lifecycle = .creating))) : (b.ended j).Sound φ :=
  h.ended hdoing hanswer hlooks hlock hstart (fun _ _ _ _ hf => hf)
    (h.saver_update hpassive _) (h.closer_update hpassive _)

/-! ### Phases by what they look like -/

theorem idle (h : c.Sound φ) (hidle : c.lifecycle = .idle) :
    φ = .free ∨ ∃ x, φ = .dormant x := by
  cases φ with
  | free => exact .inl rfl
  | dormant x => exact .inr ⟨x, rfl⟩
  | saving x => exact absurd (h.looks.saving x rfl).1 (by simp [hidle])
  | tracking x | closing x | stranded x =>
    exact absurd (h.looks.tracked x rfl).1 (by simp [hidle])

/-- An idle tracker whose stored id is there has nobody's but an earlier page's. -/
theorem waits (h : c.Sound φ) {x : String} (hwaits : c.Waits x) : φ = .dormant x := by
  obtain ⟨hidle, hstored⟩ := hwaits
  rw [h.looks.stored] at hstored
  rcases h.idle hidle with rfl | ⟨y, rfl⟩
  · cases hstored
  · cases hstored
    rfl

theorem stored_none (h : c.Sound φ) (hnone : c.stored = none) :
    φ = .free ∨ ∃ x, φ = .closing x ∨ φ = .stranded x := by
  rw [h.looks.stored] at hnone
  cases φ with
  | free => exact .inl rfl
  | closing x => exact .inr ⟨x, .inl rfl⟩
  | stranded x => exact .inr ⟨x, .inr rfl⟩
  | _ => cases hnone

theorem is_tracking (h : c.Sound φ) (htracking : c.lifecycle = .tracking) :
    ∃ x, φ = .tracking x ∨ φ = .closing x ∨ φ = .stranded x := by
  cases φ with
  | tracking x => exact ⟨x, .inl rfl⟩
  | closing x => exact ⟨x, .inr (.inl rfl)⟩
  | stranded x => exact ⟨x, .inr (.inr rfl)⟩
  | _ => exact absurd htracking (h.looks.untracked rfl).1

/-- A tracker that creates a task tracks none. -/
theorem is_creating (h : c.Sound φ) (hdoing : c.doing j = some d) (hstarts : d.starts = true) :
    c.lifecycle = .creating := by
  have hany : (c.doing j).any Call.starts = true := by rw [hdoing]; exact hstarts
  simpa using h.start.eq_true hany

/-- While someone else than who removes an id holds the lock, no id is removed. -/
theorem not_closing (h : c.Sound φ) (hdoing : c.doing j = some d) (hholds : d.holds = true)
    (hclearing : d.isClearing = false) (x : String) : φ ≠ .closing x := by
  intro hx
  obtain ⟨i, d', hd', hclears⟩ := h.closer x hx
  have hne : i ≠ j := by
    rintro rfl
    rw [hdoing] at hd'
    cases hd'
    rw [hclears] at hclearing
    cases hclearing
  have hother := h.lock.other (j := j) (by rw [hdoing]; exact hholds) hne
  rw [hd', Option.any_some, Call.holds_of_isClearing hclears] at hother
  cases hother

/-! ### Beginning with a snapshot -/

/-- What a job with a snapshot may be at when it begins with it. -/
theorem fits_settling (hlooks : c.Looks φ) {s : Snapshot} {goal : Goal}
    (hsaving : φ ≠ .saving s.id)
    (hgoal : ∀ taskId status, goal = .finished taskId status →
      s.id = taskId ∧ s.isTerminal = true)
    (hsuits : φ.Suits s goal) :
    (Call.settling (.locking s) goal).Fits φ none ∧
      (Call.settling (.reading s) goal).Fits φ (some (.value c.found)) := by
  refine ⟨⟨hsaving, hgoal, hsuits⟩, hsaving, hgoal, hsuits, fun found hfound _ => ?_⟩
  cases hfound
  rw [← hlooks.stored]
  rfl

/-- A job takes the lock for a snapshot or waits for it, perhaps in a new phase. -/
theorem settle (h : c.Sound φ) {s : Snapshot} {goal : Goal} (hdoing : b.doing = c.doing)
    (hanswer : b.answer = c.answer) (hlocked : b.locked = c.locked) (hlooks : b.Looks ψ)
    (hholds : (c.doing j).any Call.holds = false) (hstarts : (c.doing j).any Call.starts = false)
    (hstart : Sole Call.starts c.doing (decide (b.lifecycle = .creating)))
    (hfits : (Call.settling (.locking s) goal).Fits ψ none ∧
      (Call.settling (.reading s) goal).Fits ψ (some (.value b.found)))
    (hothers : ∀ j' d', j' ≠ j → c.doing j' = some d' → d'.Fits φ (c.answer j') →
      d'.Fits ψ (c.answer j'))
    (hsaver : ∀ d x, ψ = .saving x → ∃ i, Function.update c.doing j d i = some (.saving x))
    (hcloser : ∀ d x, ψ = .closing x →
      ∃ i d', Function.update c.doing j d i = some d' ∧ d'.isClearing) :
    (b.settle j s goal).Sound ψ := by
  unfold Core.settle
  split
  · next hheld =>
    refine h.wait hdoing hanswer (hlooks.of_eq rfl rfl rfl rfl rfl rfl
      (fun _ hd => hd) fun _ => rfl) ?_ (hstart.keep hstarts.symm) hfits.1 hothers (hsaver _)
      (hcloser _)
    rw [hlocked]
    exact h.lock.keep hholds.symm
  · next hfree =>
    have hunlocked : c.locked = false := by simpa [hlocked] using hfree
    refine h.wait (b := { b with locked := true }) hdoing hanswer (hlooks.of_eq rfl rfl rfl
      rfl rfl rfl (fun _ hd => hd) fun _ => rfl) ?_
      (hstart.keep hstarts.symm) hfits.2 hothers (hsaver _) (hcloser _)
    have hlock := h.lock
    rw [hunlocked] at hlock
    exact hlock.take rfl

end Sound

end Core

end TaskTracking
