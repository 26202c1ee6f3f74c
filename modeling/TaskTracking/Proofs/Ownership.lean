import TaskTracking.Proofs.Phases

/-! # Every move keeps the phases

  A move of a sound core leads to a sound core, in the same phase or in the next
  one: an earlier page's id is forgotten or taken over, a free place is taken by
  a start, what was stored is tracked, and tracking ends by a terminal snapshot
  or by cancelling (`Core.sound_move`).
-/

namespace TaskTracking

namespace Core

/-- A page applies no snapshot of a task that an earlier page has left, and none of a
    task whose id is just being stored. -/
def Admits (c : Core) (d : Call) : Prop :=
  ∀ s, d = .applying s →
    (c.entered = true ∨ c.stored ≠ some s.id ∨ c.lifecycle = .tracking) ∧
      ∀ j d', c.doing j = some d' → d'.saved? ≠ some s.id

/-- A resume that has removed nothing yet changes whose the task is only while the
    tracker waits for it. -/
theorem Heeds.waits {c c' : Core} {j : Job} {d : Call} {x : String} (h : c.Heeds (some j) c')
    (hdoing : c.doing j = some d) (hloaded : d.loaded? = some x)
    (hclearing : d.isClearing = false) : c.SameOwner c' ∨ c.Waits x := by
  rcases h j d x rfl hdoing hloaded with howner | ⟨hidle, hclears | hstored⟩
  · exact .inl howner
  · rw [hclearing] at hclears
    cases hclears
  · exact .inr ⟨hidle, hstored⟩

namespace Sound

variable {c : Core} {φ : Phase} {j : Job} {d : Call}

theorem passive_of (hdoing : c.doing j = some d) (hsaved : d.saved? = none)
    (hclearing : d.isClearing = false) : c.Passive j := by
  intro d' hd'
  rw [hdoing] at hd'
  cases hd'
  exact ⟨hsaved, hclearing⟩

theorem passive_of_free (hfree : c.doing j = none) : c.Passive j := by
  intro d hd
  rw [hfree] at hd
  cases hd

/-! ### Moves within a phase -/

theorem deliver (h : c.Sound φ) {ds : List Delivery} (hquiet : c.active = none → ds = []) :
    ({ c with queue := c.queue ++ ds } : Core).Sound φ := by
  cases hφ : φ.task with
  | none =>
    have hnil := hquiet (h.looks.untracked hφ).2.2
    subst hnil
    simpa using h
  | some x =>
    have hdormant : ∀ y, φ ≠ .dormant y := by rintro y rfl; cases hφ
    have hsaving : ∀ y, φ ≠ .saving y := by rintro y rfl; cases hφ
    refine ⟨⟨h.looks.stored, h.looks.untracked, h.looks.tracked, h.looks.visible,
      fun y hy => absurd hy (hdormant y), fun y hy => absurd hy (hsaving y)⟩,
      h.lock, h.start, h.asked, h.fits, h.saver, h.closer⟩

/-- A new call asks nothing and holds nothing. -/
theorem isNew_spec (hnew : d.isNew) : d.holds = false ∧ d.starts = false ∧ d.asks = false ∧
    d.saved? = none ∧ d.isClearing = false := by
  cases d <;> first | exact ⟨rfl, rfl, rfl, rfl, rfl⟩ | cases hnew

theorem fits_new (h : c.Sound φ) (hnew : d.isNew) (hadmits : c.Admits d)
    (answer : Option Store.Answer) : d.Fits φ answer := by
  cases d with
  | applying s =>
    obtain ⟨hawake, hsaved⟩ := hadmits s rfl
    constructor
    · rintro rfl
      obtain ⟨_, hentered, _⟩ := h.looks.dormant s.id rfl
      rcases hawake with hent | hother | htracking
      · rw [hentered] at hent
        cases hent
      · exact absurd h.looks.stored hother
      · exact absurd htracking (h.looks.untracked rfl).1
    · intro hφ
      obtain ⟨i, hi⟩ := h.saver s.id hφ
      exact hsaved i _ hi rfl
  | _ => trivial

theorem call (h : c.Sound φ) {k : Nat} (hfree : c.doing (.call k) = none) (hnew : d.isNew)
    (hadmits : c.Admits d) :
    ({ c with doing := Function.update c.doing (.call k) (some d) } : Core).Sound φ := by
  obtain ⟨hholds, hstarts, hasks, _, _⟩ := isNew_spec hnew
  have hpassive : c.Passive (.call k) := passive_of_free hfree
  refine ⟨h.looks.of_eq rfl rfl rfl rfl rfl rfl (fun _ hd => hd)
    (fun _ => rfl), h.lock.keep (by simp [hfree, hholds]), h.start.keep (by simp [hfree, hstarts]),
    fun i => ?_, fun i d' hd' => ?_, h.saver_update hpassive _, h.closer_update hpassive _⟩
  · change (c.answer i).isSome = (Function.update c.doing (.call k) (some d) i).any Call.asks
    by_cases hi : i = .call k
    · subst hi
      rw [Function.update_self, h.asked, hfree]
      simp [hasks]
    · rw [Function.update_of_ne hi]
      exact h.asked i
  · change Function.update c.doing (.call k) (some d) i = some d' at hd'
    by_cases hi : i = .call k
    · subst hi
      rw [Function.update_self] at hd'
      cases hd'
      exact h.fits_new hnew hadmits _
    · rw [Function.update_of_ne hi] at hd'
      exact h.fits i d' hd'

/-- The worker creates no task. -/
theorem not_starting_of_worker
    (hworker : ∀ d, c.doing .worker = some d → ∃ stage, d = .settling stage .applied) :
    (c.doing .worker).any Call.starts = false := by
  cases hd : c.doing .worker with
  | none => rfl
  | some d =>
    obtain ⟨stage, rfl⟩ := hworker d hd
    rfl

/-- The worker gives up what it is at, and removes no id. -/
theorem dismiss (h : c.Sound φ) {rest : List Delivery} (hrest : ∀ d ∈ rest, d ∈ c.queue)
    (hworker : ∀ d, c.doing .worker = some d → ∃ stage, d = .settling stage .applied)
    (hclear : (c.doing .worker).any Call.isClearing = false) :
    ({ c with
        queue := rest
        locked := c.locked && !(c.doing .worker).any Call.holds } :
      Core).ended .worker |>.Sound φ := by
  have hpassive : c.Passive .worker := by
    intro d hd
    obtain ⟨stage, rfl⟩ := hworker d hd
    rw [hd] at hclear
    exact ⟨rfl, hclear⟩
  refine h.stay_ended hpassive rfl rfl (h.looks.of_eq rfl rfl rfl rfl rfl rfl
    hrest fun _ => rfl) ?_ (h.start.keep (not_starting_of_worker hworker).symm)
  cases hholds : (c.doing .worker).any Call.holds with
  | true => simpa using h.lock.leave hholds rfl
  | false =>
    have hkeep := h.lock.keep (d := none) hholds.symm
    simpa using hkeep

/-- A worker that is free takes what is next in the queue. -/
theorem pass_over (h : c.Sound φ) (hfree : c.doing .worker = none) {rest : List Delivery}
    (hrest : ∀ d ∈ rest, d ∈ c.queue) (warned : Bool) :
    ({ c with queue := rest, warned } : Core).ended .worker |>.Sound φ :=
  h.stay_ended (passive_of_free hfree) rfl rfl
    (h.looks.of_eq rfl rfl rfl rfl rfl rfl hrest fun _ => rfl)
    (h.lock.keep (by simp [hfree])) (h.start.keep (by simp [hfree]))

/-- A job begins with a snapshot that it only applies, or with the one it waited for. -/
theorem stay_settle (h : c.Sound φ) {b : Core} {s : Snapshot} {goal : Goal}
    (hdoing : b.doing = c.doing) (hanswer : b.answer = c.answer) (hlocked : b.locked = c.locked)
    (hlooks : b.Looks φ) (hlifecycle : b.lifecycle = c.lifecycle) (hpassive : c.Passive j)
    (hholds : (c.doing j).any Call.holds = false) (hstarts : (c.doing j).any Call.starts = false)
    (hsaving : φ ≠ .saving s.id)
    (hgoal : ∀ taskId status, goal = .finished taskId status → s.id = taskId ∧ s.isTerminal = true)
    (hsuits : φ.Suits s goal) : (b.settle j s goal).Sound φ :=
  h.settle hdoing hanswer hlocked hlooks hholds hstarts (hlifecycle ▸ h.start)
    (fits_settling hlooks hsaving hgoal hsuits) (fun _ _ _ _ hf => hf)
    (h.saver_update hpassive) (h.closer_update hpassive)

theorem take (h : c.Sound φ) {source : Source} {s : Snapshot} {rest : List Delivery}
    (hqueue : c.queue = .snapshot source s :: rest) (hfree : c.doing .worker = none) :
    (({ c with queue := rest } : Core).settle .worker s .applied).Sound φ := by
  have hrest : ∀ d ∈ rest, d ∈ c.queue := by
    intro d hd
    rw [hqueue]
    exact List.mem_cons_of_mem _ hd
  have hsaving : φ ≠ .saving s.id := by
    intro hφ
    have hne := (h.looks.saving s.id hφ).2.2 (.snapshot source s) (by simp [hqueue])
    exact hne rfl
  have hdormant : φ.isDormant = false := by
    cases φ with
    | dormant x =>
      have hnil := (h.looks.dormant x rfl).1
      rw [hqueue] at hnil
      cases hnil
    | _ => rfl
  have hlooks : ({ c with queue := rest } : Core).Looks φ := h.looks.of_eq rfl rfl rfl rfl
    rfl rfl hrest fun _ => rfl
  exact h.stay_settle rfl rfl rfl hlooks rfl (passive_of_free hfree) (by simp [hfree])
    (by simp [hfree]) hsaving (by simp) (Phase.suits_of_awake hdormant s .applied)

theorem apply (h : c.Sound φ) {s : Snapshot} (hdoing : c.doing j = some (.applying s)) :
    (c.settle j s .applied).Sound φ := by
  obtain ⟨hdormant, hsaving⟩ := h.fits j _ hdoing
  exact h.stay_settle rfl rfl rfl h.looks rfl (passive_of hdoing rfl rfl)
    (by simp [hdoing, Call.holds]) (by simp [hdoing, Call.starts]) hsaving (by simp) hdormant

theorem locked (h : c.Sound φ) {s : Snapshot} {goal : Goal}
    (hdoing : c.doing j = some (.settling (.locking s) goal)) : (c.settle j s goal).Sound φ := by
  obtain ⟨hsaving, hgoal, hsuits⟩ := h.fits j _ hdoing
  exact h.stay_settle rfl rfl rfl h.looks rfl (passive_of hdoing rfl rfl)
    (by simp [hdoing, Call.holds]) (by simp [hdoing, Call.starts]) hsaving hgoal hsuits

/-- A resume that ignores a snapshot does so in no dormant phase. -/
theorem not_dormant_of_other (h : c.Sound φ) {s : Snapshot} {goal : Goal} {found : Option String}
    (hdoing : c.doing j = some (.settling (.reading s) goal))
    (hanswer : c.answer j = some (.value found))
    (hother : Store.Identity.taskId? found ≠ some s.id) (hresumes : goal.isResumption = true) :
    φ.isDormant = false := by
  obtain ⟨_, _, hsuits, hread⟩ := h.fits j _ hdoing
  cases goal with
  | applied => cases hresumes
  | resumed => exact hsuits
  | finished =>
    cases φ with
    | dormant x =>
      refine absurd ((hread found hanswer (.inr (.inl rfl))).mpr ?_) hother
      rw [hsuits x rfl]
      rfl
    | _ => rfl

/-- The job is done with its snapshot. -/
theorem settled (h : c.Sound φ) {b : Core} {stage : Settling} {goal : Goal}
    (hdoing : c.doing j = some (.settling stage goal))
    (hholds : (Call.settling stage goal).holds = true)
    (hclearing : (Call.settling stage goal).isClearing = false) (hdoing' : b.doing = c.doing)
    (hanswer' : b.answer = c.answer) (hlifecycle : b.lifecycle = c.lifecycle)
    (hlooks : b.Looks φ) (hawake : goal.isResumption = true → φ.isDormant = false) :
    (b.settled j goal).Sound φ := by
  have hlock : (c.doing j).any Call.holds = true := by rw [hdoing]; exact hholds
  refine h.stay_ended (b := { b with locked := false, entered := b.entered || goal.isResumption })
    (passive_of hdoing rfl hclearing) hdoing' hanswer' (hlooks.of_eq rfl rfl rfl rfl
    rfl rfl (fun _ hd => hd) fun hd => ?_) (h.lock.leave hlock rfl)
    (hlifecycle ▸ h.start.keep (by rw [hdoing]; rfl))
  cases hresumes : goal.isResumption with
  | false => exact Bool.or_false _
  | true =>
    rw [hawake hresumes] at hd
    cases hd

theorem pass (h : c.Sound φ) {s : Snapshot} {goal : Goal} {found : Option String}
    (hdoing : c.doing j = some (.settling (.reading s) goal))
    (hanswer : c.answer j = some (.value found))
    (hother : Store.Identity.taskId? found ≠ some s.id) : (c.settled j goal).Sound φ :=
  h.settled hdoing rfl rfl rfl rfl rfl h.looks (h.not_dormant_of_other hdoing hanswer hother)

/-- A snapshot of the stored task, other than one that finishes, is one of the tracked task. -/
theorem tracking_of_read (h : c.Sound φ) {s : Snapshot} {goal : Goal} {found : Option String}
    (hdoing : c.doing j = some (.settling (.reading s) goal))
    (hanswer : c.answer j = some (.value found))
    (hsame : Store.Identity.taskId? found = some s.id) (hplain : goal.isFinishing = false) :
    φ = .tracking s.id := by
  obtain ⟨hsaving, _, hsuits, hread⟩ := h.fits j _ hdoing
  have hstored := (hread found hanswer (.inl hplain)).mp hsame
  cases φ with
  | tracking x => cases hstored; rfl
  | saving x => cases hstored; exact absurd rfl hsaving
  | dormant x => cases hstored; exact absurd rfl (hsuits.ne_dormant hplain)
  | _ => cases hstored

theorem redraw (h : c.Sound φ) {s : Snapshot} {goal : Goal} {found : Option String}
    (hdoing : c.doing j = some (.settling (.reading s) goal))
    (hanswer : c.answer j = some (.value found))
    (hsame : Store.Identity.taskId? found = some s.id) (hrun : s.isTerminal = false) :
    ({ c with display := c.display.following s }.settled j goal).Sound φ := by
  have hplain : goal.isFinishing = false := by
    obtain ⟨_, hgoal, _⟩ := h.fits j _ hdoing
    cases goal with
    | finished taskId status =>
      have hend := (hgoal taskId status rfl).2
      rw [show (Settling.reading s).snapshot = s from rfl, hrun] at hend
      cases hend
    | _ => rfl
  have hφ := h.tracking_of_read hdoing hanswer hsame hplain
  subst hφ
  obtain ⟨hlife, hcurrent, hactive, _⟩ := h.looks.tracked s.id rfl
  refine h.settled hdoing rfl rfl rfl rfl rfl ⟨h.looks.stored, by rintro ⟨⟩, ?_, ?_,
    by rintro x ⟨⟩, by rintro x ⟨⟩⟩ fun _ => rfl
  · rintro x ⟨⟩
    exact ⟨hlife, hcurrent, hactive, Display.following_taskId c.display s⟩
  · change (c.display.following s).visible = true
    rw [Display.following_visible, hrun]
    rfl

/-- A job that does not hold the lock goes on to another wait, of the same kind. -/
theorem go_on (h : c.Sound φ) {d₀ : Call} (hdoing : c.doing j = some d₀)
    (hpassive : d₀.saved? = none ∧ d₀.isClearing = false) (hstored : d.leaving c.found = c.found)
    (hholds : d.holds = d₀.holds) (hstarts : d.starts = d₀.starts)
    (hfits : d.Fits φ (d.answered c.found)) : (c.wait j d).Sound φ :=
  h.stay_wait (passive_of hdoing hpassive.1 hpassive.2) rfl rfl
    (h.looks.of_eq hstored rfl rfl rfl rfl rfl (fun _ hd => hd) fun _ => rfl)
    (h.lock.keep (by rw [hdoing]; exact hholds)) (h.start.keep (by rw [hdoing]; exact hstarts))
    hfits

/-- A call that neither holds the lock nor creates a task returns. -/
theorem return_of (h : c.Sound φ) (hdoing : c.doing j = some d)
    (hpassive : d.saved? = none ∧ d.isClearing = false) (hholds : d.holds = false)
    (hstarts : d.starts = false) {entered : Bool}
    (hentered : φ.isDormant = true → entered = c.entered) :
    (({ c with entered } : Core).ended j).Sound φ :=
  h.stay_ended (b := { c with entered }) (passive_of hdoing hpassive.1 hpassive.2) rfl rfl
    (h.looks.of_eq rfl rfl rfl rfl rfl rfl (fun _ hd => hd) hentered)
    (h.lock.keep (by rw [hdoing]; exact hholds.symm))
    (h.start.keep (by rw [hdoing]; exact hstarts.symm))

theorem load (h : c.Sound φ) (hdoing : c.doing j = some d) (hd : d = .entering ∨ d = .resuming) :
    (c.wait j .loading).Sound φ := by
  have hfits : Call.loading.Fits φ (Call.loading.answered c.found) := by
    intro found hfound hnone
    cases hfound
    have hstored := h.looks.stored
    rw [show c.stored = none from hnone] at hstored
    cases φ with
    | dormant x => cases hstored
    | _ => rfl
  rcases hd with rfl | rfl
  · exact h.go_on hdoing ⟨rfl, rfl⟩ rfl rfl rfl hfits
  · exact h.go_on hdoing ⟨rfl, rfl⟩ rfl rfl rfl hfits

/-- The lock is given back before the server is told to cancel. -/
theorem erase (h : c.Sound φ) {x : String} (hdoing : c.doing j = some (.erasing x)) :
    (({ c with locked := false } : Core).wait j (.withdrawing x none)).Sound φ :=
  h.stay_wait (passive_of hdoing rfl rfl) rfl rfl
    (h.looks.of_eq rfl rfl rfl rfl rfl rfl (fun _ hd => hd) fun _ => rfl)
    (h.lock.leave (by rw [hdoing]; rfl) rfl) (h.start.keep (by rw [hdoing]; rfl)) trivial

/-! ### Moves to another phase -/

/-- An id is only being stored in the phase that says so. -/
theorem saved_none (h : c.Sound φ) (hφ : ∀ x, φ ≠ .saving x) {i : Job}
    (hdoing : c.doing i = some d) : d.saved? = none := by
  cases d with
  | saving x => exact absurd (h.fits i _ hdoing) (hφ x)
  | _ => rfl

/-- The other jobs of one that holds the lock fit any next phase. -/
theorem others_of_holds (h : c.Sound φ) {ψ : Phase} (hholds : (c.doing j).any Call.holds = true)
    (hφ : ∀ x, φ ≠ .saving x) (hawake : ψ.isDormant = false) (hψ : ∀ x, ψ ≠ .saving x) :
    ∀ j' d', j' ≠ j → c.doing j' = some d' → d'.Fits φ (c.answer j') → d'.Fits ψ (c.answer j') := by
  intro j' d' hne hd' hf
  have hother := h.lock.other hholds hne
  rw [hd'] at hother
  exact hf.change hawake (fun x hx => absurd hx (hψ x)) (h.saved_none hφ hd') (.inl hother)

/-- The other jobs in a dormant phase fit a next one in which the stored id is the same,
    a new one, or none. -/
theorem others_of_dormant {x : String} (h : c.Sound (.dormant x)) {ψ : Phase}
    (hawake : ψ.isDormant = false) (hopen : ψ.isStranded = false)
    (hstored : ∀ y, ψ.stored = some y → y = x ∨ ψ = .saving y)
    (hnew : ∀ y, ψ = .saving y → ∀ i d, c.doing i = some d → d.named? ≠ some y) :
    ∀ j' d', j' ≠ j → c.doing j' = some d' → d'.Fits (.dormant x) (c.answer j') →
      d'.Fits ψ (c.answer j') := by
  intro j' d' _ hd' hf
  refine hf.change hawake (fun y hy => hnew y hy j' d' hd') (h.saved_none (by rintro y ⟨⟩) hd')
    (.inr ⟨by rintro y ⟨⟩, hopen, fun y hnamed hne => ?_⟩)
  -- What a job has a snapshot of is neither the dormant task nor the new one.
  refine iff_of_false (fun hold => ?_) fun hnext => ?_
  · cases hold
    exact hne rfl
  · rcases hstored y hnext with rfl | hsaving
    · exact hne rfl
    · exact hnew y hsaving j' d' hd' hnamed

/-- The worker gives up the removal of an id, and the tracking goes on without it. -/
theorem strand (h : c.Sound φ) {rest : List Delivery}
    (hworker : ∀ d, c.doing .worker = some d → ∃ stage, d = .settling stage .applied)
    (hclear : (c.doing .worker).any Call.isClearing = true) :
    ∃ x, ({ c with
        queue := rest
        locked := c.locked && !(c.doing .worker).any Call.holds } :
      Core).ended .worker |>.Sound
          (.stranded x) := by
  obtain ⟨d, hd, hclears⟩ := Option.any_eq_true .. |>.mp hclear
  obtain ⟨s, applied, last, rfl⟩ : ∃ s applied last,
      d = .settling (.clearing s applied last) .applied := by
    obtain ⟨stage, rfl⟩ := hworker d hd
    cases stage with
    | clearing s applied last => exact ⟨s, applied, last, rfl⟩
    | _ => cases hclears
  obtain ⟨_, _, _, _, _, _, hclosing⟩ := h.fits .worker _ hd
  obtain rfl := hclosing rfl
  have hholds : (c.doing .worker).any Call.holds = true := by rw [hd]; rfl
  have hlocked : (c.locked && !(c.doing .worker).any Call.holds) = false := by simp [hholds]
  refine ⟨s.id, h.ended (b := { c with
      queue := rest, locked := c.locked && !(c.doing .worker).any Call.holds }) rfl rfl
    ⟨h.looks.stored, by rintro ⟨⟩, fun x hx => ?_, h.looks.visible, by rintro x ⟨⟩, by rintro x ⟨⟩⟩
    ?_ (h.start.keep (not_starting_of_worker hworker).symm)
    (h.others_of_holds hholds (by rintro x ⟨⟩) rfl (by rintro x ⟨⟩)) (by rintro x ⟨⟩)
    (by rintro x ⟨⟩)⟩
  · cases hx
    exact h.looks.tracked s.id rfl
  · rw [hlocked]
    exact h.lock.leave hholds rfl

/-- A terminal snapshot of the tracked task has its id removed. -/
theorem close_tracked {s : Snapshot} (h : c.Sound (.tracking s.id)) {goal : Goal}
    (hdoing : c.doing j = some (.settling (.reading s) goal)) (hend : s.isTerminal = true) :
    (({ c with display := c.display.following s } : Core).wait j
      (.settling (.clearing s (c.display.apply s (some s.id)) s.lastEffects) goal)).Sound
        (.closing s.id) := by
  obtain ⟨_, hgoal, _⟩ := h.fits j _ hdoing
  obtain ⟨hlife, hcurrent, hactive, _⟩ := h.looks.tracked s.id rfl
  have hholds : (c.doing j).any Call.holds = true := by rw [hdoing]; rfl
  refine h.wait rfl rfl ⟨rfl, by rintro ⟨⟩, ?_, ?_, by rintro x ⟨⟩, by rintro x ⟨⟩⟩
    (h.lock.keep (by rw [hdoing]; rfl)) (h.start.keep (by rw [hdoing]; rfl)) ?_
    (h.others_of_holds hholds (by rintro x ⟨⟩) rfl (by rintro x ⟨⟩)) (by rintro x ⟨⟩) ?_
  · rintro x ⟨⟩
    exact ⟨hlife, hcurrent, hactive, Display.following_taskId c.display s⟩
  · change (c.display.following s).visible = false
    rw [Display.following_visible, hend]
    rfl
  · exact ⟨by rintro ⟨⟩, hgoal, rfl, hend, Display.isTerminal_apply hend, rfl, fun _ => rfl⟩
  · exact fun x _ => ⟨j, _, Function.update_self .., rfl⟩

/-- A finished task of an earlier page is forgotten. -/
theorem close_finished (h : c.Sound φ) {s : Snapshot} {goal : Goal}
    (hdoing : c.doing j = some (.settling (.reading s) goal)) (hend : s.isTerminal = true)
    (hfinishing : goal.isFinishing = true) (hφ : φ = .free ∨ ∃ x, φ = .dormant x) :
    (({ c with display := c.display.following s } : Core).wait j
      (.settling (.clearing s (c.display.apply s (some s.id)) s.lastEffects) goal)).Sound
        .free := by
  obtain ⟨_, hgoal, _⟩ := h.fits j _ hdoing
  have huntracked : φ.task = none := by
    rcases hφ with rfl | ⟨x, rfl⟩ <;> rfl
  have hholds : (c.doing j).any Call.holds = true := by rw [hdoing]; rfl
  refine h.wait rfl rfl ⟨rfl, fun _ => h.looks.untracked huntracked, by rintro x ⟨⟩, ?_,
    by rintro x ⟨⟩, by rintro x ⟨⟩⟩
    (h.lock.keep (by rw [hdoing]; rfl)) (h.start.keep (by rw [hdoing]; rfl)) ?_
    (h.others_of_holds hholds ?_ rfl (by rintro x ⟨⟩)) (by rintro x ⟨⟩) (by rintro x ⟨⟩)
  · change (c.display.following s).visible = false
    rw [Display.following_visible, hend]
    rfl
  · refine ⟨by rintro ⟨⟩, hgoal, rfl, hend, Display.isTerminal_apply hend, rfl, fun hplain => ?_⟩
    have hnot : goal.isFinishing = false := hplain
    rw [hfinishing] at hnot
    cases hnot
  · rintro x rfl
    rcases hφ with hφ | ⟨y, hφ⟩ <;> cases hφ

theorem close (h : c.Sound φ) {s : Snapshot} {goal : Goal} {found : Option String}
    (hdoing : c.doing j = some (.settling (.reading s) goal))
    (hanswer : c.answer j = some (.value found))
    (hsame : Store.Identity.taskId? found = some s.id) (hend : s.isTerminal = true)
    (hheeds : c.Heeds (some j) (({ c with display := c.display.following s } : Core).wait j
      (.settling (.clearing s (c.display.apply s (some s.id)) s.lastEffects) goal))) :
    φ = .tracking s.id ∧ (({ c with display := c.display.following s } : Core).wait j
        (.settling (.clearing s (c.display.apply s (some s.id)) s.lastEffects) goal)).Sound
          (.closing s.id) ∨
      (φ = .free ∨ ∃ x, φ = .dormant x) ∧
        (({ c with display := c.display.following s } : Core).wait j
          (.settling (.clearing s (c.display.apply s (some s.id)) s.lastEffects) goal)).Sound
            .free := by
  cases hfinishing : goal.isFinishing with
  | false =>
    have hφ := h.tracking_of_read hdoing hanswer hsame hfinishing
    subst hφ
    exact .inl ⟨rfl, h.close_tracked hdoing hend⟩
  | true =>
    have hφ : φ = .free ∨ ∃ x, φ = .dormant x := by
      cases goal with
      | finished taskId status =>
        rcases hheeds.waits hdoing rfl rfl with howner | hwaits
        · rcases h.stored_none howner.stored.symm with rfl | ⟨x, rfl | rfl⟩
          · exact .inl rfl
          · -- only one job can hold the lock, and this one still reads
            exact absurd rfl (h.not_closing hdoing rfl rfl x)
          · obtain ⟨_, _, _, hread⟩ := h.fits j _ hdoing
            cases (hread found hanswer (.inr (.inr rfl))).mp hsame
        · exact .inr ⟨_, h.waits hwaits⟩
      | _ => cases hfinishing
    exact .inr ⟨hφ, h.close_finished hdoing hend hfinishing hφ⟩

/-- Who has had the id removed ends the tracking, or finds none. -/
theorem finish (h : c.Sound φ) {s : Snapshot} {applied : Applied} {rest : List Effect}
    {goal : Goal} (hdoing : c.doing j = some (.settling (.clearing s applied rest) goal))
    (hheeds : c.Heeds (some j)
      (({ c with lifecycle := .idle, current := none, active := none } : Core).settled j goal)) :
    (({ c with lifecycle := .idle, current := none, active := none } : Core).settled j
      goal).Sound .free := by
  obtain ⟨_, _, hdormant, hend, _, _, hclosing⟩ := h.fits j _ hdoing
  have hholds : (c.doing j).any Call.holds = true := by rw [hdoing]; rfl
  -- A resume that ends an earlier task may find the tracker free; the others close their own.
  have hφ : φ = .free ∧ c.lifecycle = .idle ∨ φ = .closing s.id := by
    cases hfinishing : goal.isFinishing with
    | false => exact .inr (hclosing hfinishing)
    | true =>
      cases goal with
      | finished taskId status =>
        have hidle : c.lifecycle = .idle := by
          rcases hheeds j _ taskId rfl hdoing rfl with howner | ⟨hidle, _⟩
          · exact howner.lifecycle.symm
          · exact hidle
        rcases h.idle hidle with rfl | ⟨x, rfl⟩
        · exact .inl ⟨rfl, hidle⟩
        · cases hdormant
      | _ => cases hfinishing
  have hstored : c.stored = none := by
    rw [h.looks.stored]
    rcases hφ with ⟨rfl, _⟩ | rfl <;> rfl
  have hvisible : c.display.visible = false := by
    rw [h.looks.visible]
    rcases hφ with ⟨rfl, _⟩ | rfl <;> rfl
  have hcreating : decide (c.lifecycle = .creating) = false := by
    rcases hφ with ⟨_, hidle⟩ | rfl
    · rw [hidle]
      rfl
    · rw [(h.looks.tracked s.id rfl).1]
      rfl
  have hstart := h.start
  rw [hcreating] at hstart
  refine h.ended (b := { c with
      lifecycle := .idle, current := none, active := none, locked := false
      entered := c.entered || goal.isResumption }) rfl rfl
    ⟨hstored, fun _ => ⟨nofun, nofun, rfl⟩, by rintro x ⟨⟩, hvisible, by rintro x ⟨⟩,
      by rintro x ⟨⟩⟩ (h.lock.leave hholds rfl) (hstart.keep (by rw [hdoing]; rfl))
    (h.others_of_holds hholds ?_ rfl (by rintro x ⟨⟩)) (by rintro x ⟨⟩) (by rintro x ⟨⟩)
  rintro x rfl
  rcases hφ with ⟨hφ, _⟩ | hφ <;> cases hφ

/-- A stored task that could not be fetched is forgotten, if it is still there. -/
theorem forget (h : c.Sound φ) {x : String} (hdoing : c.doing j = some (.fetching x))
    (hheeds : c.Heeds (some j) (c.wait j (.forgetting x))) :
    (c.wait j (.forgetting x)).Sound φ ∨
      (∃ y, φ = .dormant y) ∧ (c.wait j (.forgetting x)).Sound .free := by
  have hpassive : c.Passive j := passive_of hdoing rfl rfl
  have hlock : Sole Call.holds (Function.update c.doing j (some (.forgetting x))) c.locked :=
    h.lock.keep (by rw [hdoing]; rfl)
  have hstart : Sole Call.starts (Function.update c.doing j (some (.forgetting x)))
      (decide (c.lifecycle = .creating)) := h.start.keep (by rw [hdoing]; rfl)
  rcases hheeds.waits hdoing rfl rfl with howner | hwaits
  · have hnone : c.stored = none := howner.stored.symm
    refine .inl (h.stay_wait hpassive rfl rfl ⟨?_, h.looks.untracked, h.looks.tracked,
      h.looks.visible, h.looks.dormant, h.looks.saving⟩ hlock hstart ?_)
    · rw [← h.looks.stored, hnone]
      rfl
    · rcases h.stored_none hnone with rfl | ⟨y, rfl | rfl⟩ <;> rfl
  · have hφ := h.waits hwaits
    subst hφ
    exact .inr ⟨⟨x, rfl⟩, h.wait rfl rfl ⟨rfl, fun _ => h.looks.untracked rfl, by rintro y ⟨⟩,
      h.looks.visible, by rintro y ⟨⟩, by rintro y ⟨⟩⟩ hlock hstart rfl
      (h.others_of_dormant rfl rfl (by rintro y ⟨⟩) (by rintro y ⟨⟩)) (by rintro y ⟨⟩)
      (by rintro y ⟨⟩)⟩

/-- A new task is tracked from its beginning, in place of an earlier page's. -/
theorem resume (h : c.Sound φ) {s : Snapshot} (hdoing : c.doing j = some (.fetching s.id))
    (hheeds : c.Heeds (some j) ((c.begin s.id).settle j s (.resumed s.id))) :
    φ = .dormant s.id ∧ ((c.begin s.id).settle j s (.resumed s.id)).Sound (.tracking s.id) := by
  have hwaits : c.Waits s.id := by
    rcases hheeds.waits hdoing rfl rfl with howner | hwaits
    · have hshown : ((c.begin s.id).settle j s (.resumed s.id)).shown = c.shown ++ [s.id] := by
        unfold Core.settle
        split <;> rfl
      exact absurd (hshown.symm.trans howner.shown) (by simp)
    · exact hwaits
  have hφ := h.waits hwaits
  subst hφ
  have hstart := h.start
  rw [hwaits.1] at hstart
  have hlooks : (c.begin s.id).Looks (.tracking s.id) :=
    ⟨h.looks.stored, by rintro ⟨⟩, by rintro x ⟨⟩; exact ⟨rfl, rfl, rfl, rfl⟩, rfl,
      by rintro x ⟨⟩, by rintro x ⟨⟩⟩
  exact ⟨rfl, h.settle rfl rfl rfl hlooks (by rw [hdoing]; rfl) (by rw [hdoing]; rfl) hstart
    (fits_settling hlooks (by rintro ⟨⟩) (by rintro x status ⟨⟩) rfl)
    (h.others_of_dormant rfl rfl (by rintro y ⟨⟩; exact .inl rfl) (by rintro y ⟨⟩))
    (by rintro d x ⟨⟩) (by rintro d x ⟨⟩)⟩

/-- The end of an earlier page's task is going to be shown. -/
theorem conclude (h : c.Sound φ) {s : Snapshot} (hdoing : c.doing j = some (.fetching s.id))
    (hend : s.isTerminal = true)
    (hheeds : c.Heeds (some j)
      (({ c with current := some s.id } : Core).settle j s (.finished s.id s.status))) :
    (({ c with current := some s.id } : Core).settle j s (.finished s.id s.status)).Sound φ := by
  have hgoal : ∀ taskId status, Goal.finished s.id s.status = .finished taskId status →
      s.id = taskId ∧ s.isTerminal = true := by
    rintro x status ⟨⟩
    exact ⟨rfl, hend⟩
  rcases hheeds.waits hdoing rfl rfl with howner | hwaits
  · have hcurrent : c.current = some s.id := by
      rw [← howner.current]
      unfold Core.settle
      split <;> rfl
    have hsame : ({ c with current := some s.id } : Core) = c := by rw [← hcurrent]
    rw [hsame]
    refine h.stay_settle rfl rfl rfl h.looks rfl (passive_of hdoing rfl rfl) (by rw [hdoing]; rfl)
      (by rw [hdoing]; rfl) ?_ hgoal ?_
    · intro hφ
      exact (h.looks.saving s.id hφ).2.1 hcurrent
    · intro x hx
      exact (h.looks.dormant x hx).2.2.2 s.id hcurrent
  · have hφ := h.waits hwaits
    subst hφ
    have hlooks : ({ c with current := some s.id } : Core).Looks (.dormant s.id) := by
      obtain ⟨hnil, hentered, hshown, _⟩ := h.looks.dormant s.id rfl
      refine ⟨h.looks.stored, h.looks.untracked, by rintro x ⟨⟩, h.looks.visible, ?_,
        by rintro x ⟨⟩⟩
      rintro x ⟨⟩
      exact ⟨hnil, hentered, hshown, by rintro y ⟨⟩; rfl⟩
    refine h.stay_settle rfl rfl rfl hlooks rfl (passive_of hdoing rfl rfl) (by rw [hdoing]; rfl)
      (by rw [hdoing]; rfl) (by rintro ⟨⟩) hgoal ?_
    rintro x ⟨⟩
    rfl

theorem create (h : c.Sound φ) {params : Json.Value}
    (hdoing : c.doing j = some (.starting params)) (hidle : c.lifecycle = .idle) :
    (({ c with lifecycle := .creating } : Core).wait j (.creating params)).Sound φ := by
  have hstart := h.start
  rw [hidle] at hstart
  have huntracked : φ.task = none := by
    rcases h.idle hidle with rfl | ⟨x, rfl⟩ <;> rfl
  refine h.stay_wait (passive_of hdoing rfl rfl) rfl rfl ⟨h.looks.stored,
    fun _ => ⟨nofun, nofun, (h.looks.untracked huntracked).2.2⟩, fun x hx => ?_, h.looks.visible,
    h.looks.dormant, fun x hx => ?_⟩ (h.lock.keep (by rw [hdoing]; rfl)) (hstart.take rfl) trivial
  · rw [huntracked] at hx
    cases hx
  · exact ⟨rfl, (h.looks.saving x hx).2⟩

/-- A start that has no task id yet leaves the phase before it. -/
theorem before_saving (h : c.Sound φ) {params : Json.Value}
    (hdoing : c.doing j = some (.creating params)) : φ = .free ∨ ∃ x, φ = .dormant x := by
  have hcreating := h.is_creating hdoing rfl
  cases φ with
  | free => exact .inl rfl
  | dormant x => exact .inr ⟨x, rfl⟩
  | saving x =>
    obtain ⟨i, hi⟩ := h.saver x rfl
    have hne : i ≠ j := by
      rintro rfl
      rw [hdoing] at hi
      cases hi
    have hother := h.start.other (by rw [hdoing]; rfl) hne
    rw [hi] at hother
    cases hother
  | tracking x | closing x | stranded x =>
    rw [(h.looks.tracked x rfl).1] at hcreating
    cases hcreating

theorem save (h : c.Sound φ) {params : Json.Value} {x : String}
    (hdoing : c.doing j = some (.creating params)) (hfresh : c.Fresh x) :
    (c.wait j (.saving x)).Sound (.saving x) := by
  have hcreating := h.is_creating hdoing rfl
  have hφ := h.before_saving hdoing
  have huntracked : φ.task = none := by
    rcases hφ with rfl | ⟨y, rfl⟩ <;> rfl
  have hvisible : c.display.visible = false := by
    rw [h.looks.visible]
    rcases hφ with rfl | ⟨y, rfl⟩ <;> rfl
  have hstored : Store.Identity.taskId? (some x) = some x := by
    simp [Store.Identity.taskId?, hfresh.ne_empty]
  have hothers : ∀ j' d', j' ≠ j → c.doing j' = some d' → d'.Fits φ (c.answer j') →
      d'.Fits (.saving x) (c.answer j') := by
    have hnew : ∀ y, Phase.saving x = .saving y → ∀ i d, c.doing i = some d →
        d.named? ≠ some y := by
      rintro y ⟨⟩
      exact hfresh.doing
    rcases hφ with rfl | ⟨y, rfl⟩
    · intro j' d' _ hd' hf
      refine hf.change rfl (fun y hy => hnew y hy j' d' hd') (h.saved_none (by rintro y ⟨⟩) hd')
        (.inr ⟨by rintro y ⟨⟩, rfl, fun y hy _ => ?_⟩)
      constructor
      · rintro ⟨⟩
      · rintro ⟨⟩
        exact absurd hy (hfresh.doing j' d' hd')
    · exact h.others_of_dormant rfl rfl (by rintro z ⟨⟩; exact .inr rfl) hnew
  refine h.wait rfl rfl ⟨hstored, fun _ => h.looks.untracked huntracked, by rintro y ⟨⟩,
    hvisible, by rintro y ⟨⟩, ?_⟩ (h.lock.keep (by rw [hdoing]; rfl))
    (h.start.keep (by rw [hdoing]; rfl)) rfl hothers ?_ (by rintro y ⟨⟩)
  · rintro y ⟨⟩
    exact ⟨hcreating, hfresh.current, hfresh.queue⟩
  · rintro y ⟨⟩
    exact ⟨j, Function.update_self ..⟩

theorem refuse (h : c.Sound φ) {params : Json.Value}
    (hdoing : c.doing j = some (.creating params)) :
    (({ c with lifecycle := .idle } : Core).ended j).Sound φ := by
  have hφ := h.before_saving hdoing
  have huntracked : φ.task = none := by
    rcases hφ with rfl | ⟨y, rfl⟩ <;> rfl
  refine h.stay_ended (b := { c with lifecycle := .idle }) (passive_of hdoing rfl rfl) rfl rfl
    ⟨h.looks.stored, fun _ => ⟨nofun, nofun, (h.looks.untracked huntracked).2.2⟩, fun x hx => ?_,
      h.looks.visible, h.looks.dormant, fun x hx => ?_⟩ (h.lock.keep (by rw [hdoing]; rfl))
    (h.start.leave (by rw [hdoing]; rfl) rfl)
  · rw [huntracked] at hx
    cases hx
  · rcases hφ with rfl | ⟨y, rfl⟩ <;> cases hx

/-- What was stored is tracked. -/
theorem track (h : c.Sound φ) {x : String} (hdoing : c.doing j = some (.saving x)) :
    ((c.begin x).ended j).Sound (.tracking x) := by
  have hφ : φ = .saving x := h.fits j _ hdoing
  subst hφ
  have hstarts : (c.doing j).any Call.starts = true := by rw [hdoing]; rfl
  refine h.ended (b := c.begin x) rfl rfl ⟨h.looks.stored, by rintro ⟨⟩, ?_, rfl, by rintro y ⟨⟩,
    by rintro y ⟨⟩⟩ (h.lock.keep (by rw [hdoing]; rfl)) (h.start.leave hstarts rfl) ?_
    (by rintro y ⟨⟩) (by rintro y ⟨⟩)
  · rintro y ⟨⟩
    exact ⟨rfl, rfl, rfl, rfl⟩
  · intro j' d' hne hd' hf
    have hother := h.start.other hstarts hne
    refine hf.change rfl (by rintro y ⟨⟩) ?_ (.inr ⟨by rintro y ⟨⟩, rfl, fun _ _ _ => Iff.rfl⟩)
    rw [hd'] at hother
    cases d' with
    | saving => cases hother
    | _ => rfl

/-- The page cancels the tracked task. -/
theorem release (h : c.Sound φ) {x : String} (hdoing : c.doing j = some .cancelling)
    (hlocked : c.locked = false) (htracking : c.lifecycle = .tracking) :
    (({ c with
        lifecycle := .idle, current := none, display := {}, active := none
        locked := true } : Core).wait j (.erasing x)).Sound .free := by
  have hsaving : ∀ y, φ ≠ .saving y := by
    obtain ⟨y, rfl | rfl | rfl⟩ := h.is_tracking htracking <;> rintro z ⟨⟩
  have hlock := h.lock
  have hstart := h.start
  rw [hlocked] at hlock
  rw [htracking] at hstart
  refine h.wait rfl rfl ⟨rfl, fun _ => ⟨nofun, nofun, rfl⟩, by rintro z ⟨⟩, rfl, by rintro z ⟨⟩,
    by rintro z ⟨⟩⟩ (hlock.take rfl) (hstart.keep (by rw [hdoing]; rfl)) trivial ?_
    (by rintro z ⟨⟩) (by rintro z ⟨⟩)
  intro j' d' _ hd' hf
  have hnone := hlock.none j'
  rw [hd'] at hnone
  exact hf.change rfl (by rintro z ⟨⟩) (h.saved_none hsaving hd') (.inl hnone)

/-- A task begins to be shown only where none is subscribed to. -/
theorem active_of_shown (h : c.Sound φ) {admits : Core → Call → Prop} {c' : Core} {scene : Scene}
    (hmove : Move admits c scene c') (hheeds : c.Heeds scene.job c') (hne : c'.shown ≠ c.shown) :
    c.active = none := by
  cases hmove with
  | resume hdoing _ =>
    rcases hheeds.waits hdoing rfl rfl with howner | hwaits
    · exact absurd howner.shown hne
    · have hφ := h.waits hwaits
      subst hφ
      exact (h.looks.untracked rfl).2.2
  | track hdoing =>
    have hφ : φ = .saving _ := h.fits _ _ hdoing
    subst hφ
    exact (h.looks.untracked rfl).2.2
  | take | apply | lock | conclude => exact absurd (settle_shown ..) hne
  | _ => exact absurd rfl hne

end Sound

/-! ### The next phase -/

/-- After the scene the core is in phase `ψ`. -/
structure Leads (c : Core) (φ : Phase) (scene : Scene) (c' : Core) (ψ : Phase) : Prop where
  sound : c'.Sound ψ
  /-- The removal of an id is broken off, or was before and the tracking goes on. -/
  stranded : ψ.isStranded = true ↔
    c.Breaks scene ∨ φ.isStranded = true ∧ c'.lifecycle = .tracking
  /-- Nothing gets dormant. -/
  dormant : ψ.isDormant = true → ψ = φ
  /-- A new id begins to be stored by the start that has created its task. -/
  saving : ∀ x, ψ = .saving x → ψ = φ ∨ ∃ j params, scene.job = some j ∧
    c.doing j = some (.creating params) ∧ c'.doing j = some (.saving x)

section Leads

variable {c c' : Core} {φ ψ : Phase} {scene : Scene}

/-- The phase stays the same. -/
theorem Leads.same (hsound : c'.Sound φ) (hnot : ¬ c.Breaks scene) : c.Leads φ scene c' φ := by
  refine ⟨hsound, ⟨fun hstranded => .inr ⟨hstranded, ?_⟩, fun hor => (hor.resolve_left hnot).1⟩,
    fun _ => rfl, fun _ _ => .inl rfl⟩
  cases φ with
  | stranded x => exact (hsound.looks.tracked x rfl).1
  | _ => cases hstranded

/-- A task is taken up or given up, other than by storing a new one. -/
theorem Leads.next (hsound : c'.Sound ψ) (hψ : ψ.isStranded = false) (hnot : ¬ c.Breaks scene)
    (hφ : φ.isStranded = false ∨ c'.lifecycle ≠ .tracking) (hdormant : ψ.isDormant = false)
    (hsaving : ∀ x, ψ ≠ .saving x) : c.Leads φ scene c' ψ := by
  refine ⟨hsound, iff_of_false (by simp [hψ]) ?_, by simp [hdormant],
    fun x hx => absurd hx (hsaving x)⟩
  rintro (hbreaks | ⟨hstranded, htracking⟩)
  · exact hnot hbreaks
  · rcases hφ with hφ | hidle
    · rw [hφ] at hstranded
      cases hstranded
    · exact hidle htracking

end Leads

/-- **Every move of a sound core in which resumes heed the owner leads to a sound
    core.** -/
theorem sound_move {admits : Core → Call → Prop} (hadmits : ∀ c d, admits c d → c.Admits d)
    {c c' : Core} {φ : Phase} {scene : Scene} (h : c.Sound φ) (hmove : Move admits c scene c')
    (hheeds : c.Heeds scene.job c') : ∃ ψ, c.Leads φ scene c' ψ := by
  have hstays : scene.left = false → ¬ c.Breaks scene := by
    rintro hleft ⟨hbreaks, _⟩
    rw [hleft] at hbreaks
    cases hbreaks
  -- Most moves stay in the phase; those that take a task up or give one up lead to another.
  cases hmove with
  | deliver _ hquiet => exact ⟨φ, .same (h.deliver hquiet) (hstays rfl)⟩
  | call hfree hnew hadm => exact ⟨φ, .same (h.call hfree hnew (hadmits _ _ hadm)) (hstays rfl)⟩
  | @dismiss job left rest _ hrest hworker hclear =>
    cases hclears : (c.doing .worker).any Call.isClearing with
    | false =>
      refine ⟨φ, .same (h.dismiss hrest hworker hclears) ?_⟩
      rintro ⟨_, hbreaks⟩
      rw [hclears] at hbreaks
      cases hbreaks
    | true =>
      obtain ⟨d, hd, hd'⟩ := Option.any_eq_true .. |>.mp hclears
      obtain ⟨x, hx⟩ := h.strand hworker hclears
      exact ⟨_, hx, iff_of_true rfl (.inl ⟨hclear d hd hd', hclears⟩), nofun, nofun⟩
  | warn hqueue hfree hcurrent hwarned =>
    refine ⟨φ, .same (h.pass_over hfree (fun d hd => ?_) true) (hstays rfl)⟩
    rw [hqueue]
    exact List.mem_cons_of_mem _ hd
  | take hqueue hfree => exact ⟨φ, .same (h.take hqueue hfree) (hstays rfl)⟩
  | apply hdoing => exact ⟨φ, .same (h.apply hdoing) (hstays rfl)⟩
  | lock hdoing _ => exact ⟨φ, .same (h.locked hdoing) (hstays rfl)⟩
  | pass hdoing hanswer hother => exact ⟨φ, .same (h.pass hdoing hanswer hother) (hstays rfl)⟩
  | redraw hdoing hanswer hsame hrun =>
    exact ⟨φ, .same (h.redraw hdoing hanswer hsame hrun) (hstays rfl)⟩
  | close hdoing hanswer hsame hend =>
    rcases h.close hdoing hanswer hsame hend hheeds with ⟨rfl, hclosing⟩ | ⟨hφ, hfree⟩
    · exact ⟨_, .next hclosing rfl (hstays rfl) (.inl rfl) rfl nofun⟩
    · refine ⟨_, .next hfree rfl (hstays rfl) (.inl ?_) rfl nofun⟩
      rcases hφ with rfl | ⟨x, rfl⟩ <;> rfl
  | finish hdoing =>
    exact ⟨_, .next (h.finish hdoing hheeds) rfl (hstays rfl) (.inr nofun) rfl nofun⟩
  | drop hdoing hnew =>
    obtain ⟨hholds, hstarts, _, hsaved, hclearing⟩ := Sound.isNew_spec hnew
    exact ⟨φ, .same (h.return_of hdoing ⟨hsaved, hclearing⟩ hholds hstarts fun _ => rfl)
      (hstays rfl)⟩
  | load hdoing hd _ => exact ⟨φ, .same (h.load hdoing hd) (hstays rfl)⟩
  | found hdoing _ _ =>
    exact ⟨φ, .same (h.go_on hdoing ⟨rfl, rfl⟩ rfl rfl rfl trivial) (hstays rfl)⟩
  | nothing hdoing hanswer hfound =>
    refine ⟨φ, .same (h.return_of hdoing ⟨rfl, rfl⟩ rfl rfl fun hdormant => ?_) (hstays rfl)⟩
    rw [h.fits _ _ hdoing _ hanswer hfound] at hdormant
    cases hdormant
  | forget hdoing =>
    rcases h.forget hdoing hheeds with hsame | ⟨⟨y, rfl⟩, hfree⟩
    · exact ⟨φ, .same hsame (hstays rfl)⟩
    · exact ⟨_, .next hfree rfl (hstays rfl) (.inl rfl) rfl nofun⟩
  | stale hdoing =>
    refine ⟨φ, .same (h.return_of hdoing ⟨rfl, rfl⟩ rfl rfl fun hdormant => ?_) (hstays rfl)⟩
    rw [show φ.isDormant = false from h.fits _ _ hdoing] at hdormant
    cases hdormant
  | conclude hdoing hend => exact ⟨φ, .same (h.conclude hdoing hend hheeds) (hstays rfl)⟩
  | resume hdoing _ =>
    obtain ⟨rfl, hsound⟩ := h.resume hdoing hheeds
    exact ⟨_, .next hsound rfl (hstays rfl) (.inl rfl) rfl nofun⟩
  | create hdoing hidle => exact ⟨φ, .same (h.create hdoing hidle) (hstays rfl)⟩
  | save hdoing hfresh =>
    have hφ : φ.isStranded = false := by
      rcases h.before_saving hdoing with rfl | ⟨y, rfl⟩ <;> rfl
    refine ⟨_, h.save hdoing hfresh, iff_of_false nofun ?_, nofun, fun x hx => ?_⟩
    · rintro (hbreaks | ⟨hstranded, _⟩)
      · exact hstays rfl hbreaks
      · rw [hφ] at hstranded
        cases hstranded
    · cases hx
      exact .inr ⟨_, _, rfl, hdoing, Function.update_self ..⟩
  | refuse hdoing => exact ⟨φ, .same (h.refuse hdoing) (hstays rfl)⟩
  | track hdoing =>
    obtain rfl : φ = .saving _ := h.fits _ _ hdoing
    exact ⟨_, .next (h.track hdoing) rfl (hstays rfl) (.inl rfl) rfl nofun⟩
  | release hdoing hlocked htracking _ =>
    exact ⟨_, .next (h.release hdoing hlocked htracking) rfl (hstays rfl) (.inr nofun) rfl nofun⟩
  | erase hdoing => exact ⟨φ, .same (h.erase hdoing) (hstays rfl)⟩
  | withdraw hdoing hd _ =>
    have hspec : ∀ d : Call, d.isWithdrawing → (d.saved? = none ∧ d.isClearing = false) ∧
        d.holds = false ∧ d.starts = false := by
      intro d hd
      cases d <;> first | exact ⟨⟨rfl, rfl⟩, rfl, rfl⟩ | cases hd
    obtain ⟨hpassive, hholds, hstarts⟩ := hspec _ hd
    exact ⟨φ, .same (h.return_of hdoing hpassive hholds hstarts fun _ => rfl) (hstays rfl)⟩

end Core

end TaskTracking
