import TaskTracking.Proofs.Ownership

/-! # Resuming alone

  While a resume overlaps no other call but those that only apply a snapshot,
  nothing takes the task away that it has loaded: the tracker waits for it until
  the resume goes on (`Core.Solo`). So such a resume always heeds the owner
  (`Core.Solo.heeds`).
-/

namespace TaskTracking

theorem Call.resumes_of_onlyApplies {d : Call} (h : d.onlyApplies = true) : d.resumes = false := by
  cases d with
  | applying => rfl
  | settling stage goal =>
    cases goal with
    | applied => rfl
    | _ => cases h
  | _ => cases h

namespace Core

/-- No resume overlaps another call, except for those that only apply a snapshot. -/
def Alone (c : Core) (d : Call) : Prop :=
  if d.resumes then ∀ i d', c.doing i = some d' → d'.onlyApplies = true
  else d.onlyApplies = true ∨ ∀ i d', c.doing i = some d' → d'.resumes = false

/-- What a page may call if its resumes are to be alone. -/
def MayCall (c : Core) (d : Call) : Prop := c.Admits d ∧ c.Alone d

/-- What a resume at its call relies on. -/
def Attends (c : Core) (j : Job) : Call → Prop
  | .loading => c.lifecycle = .idle ∧ c.answer j = some (.value c.found)
  | .fetching taskId => c.Waits taskId
  | .settling (.clearing ..) (.finished ..) => c.lifecycle = .idle
  | .settling _ (.finished taskId _) => c.Waits taskId
  | _ => True

/-- **Invariant.** Resumes are alone, the tracker waits for what they have loaded,
    and a current task that is not tracked is one that a resume finishes. -/
structure Solo (c : Core) : Prop where
  alone : ∀ j d, c.doing j = some d → d.resumes = true →
    ∀ i d', i ≠ j → c.doing i = some d' → d'.onlyApplies = true
  attends : ∀ j d, c.doing j = some d → c.Attends j d
  vacant : c.lifecycle ≠ .tracking →
    c.current = none ∨ ∃ j d, c.doing j = some d ∧ d.isFinishing = true

variable {c c' : Core} {φ : Phase} {i j : Job} {d d₀ : Call} {e : Option Call}

/-! ### What a resume relies on -/

theorem attends_of_not_resumes (h : d.resumes = false) : c.Attends j d := by
  cases d with
  | loading | fetching => cases h
  | settling stage goal =>
    cases goal with
    | finished => cases h
    | _ => cases stage <;> trivial
  | _ => trivial

theorem Attends.of_eq (h : c.Attends j d) (hlifecycle : c'.lifecycle = c.lifecycle)
    (hfound : c'.found = c.found) (hanswer : c'.answer j = c.answer j) : c'.Attends j d := by
  have hwaits : ∀ x, c.Waits x → c'.Waits x := by
    rintro x ⟨hidle, hstored⟩
    refine ⟨hlifecycle.trans hidle, ?_⟩
    unfold Core.stored at hstored ⊢
    rw [hfound]
    exact hstored
  cases d with
  | loading => exact ⟨hlifecycle.trans h.1, by rw [hanswer, hfound]; exact h.2⟩
  | fetching x => exact hwaits x h
  | settling stage goal =>
    cases goal with
    | finished x status =>
      cases stage with
      | clearing => exact hlifecycle.trans h
      | _ => exact hwaits x h
    | _ => cases stage <;> trivial
  | _ => trivial

/-- Whoever follows up what a resume has loaded relies on an idle tracker. -/
theorem Attends.idle {x : String} (h : c.Attends j d) (hloaded : d.loaded? = some x) :
    c.lifecycle = .idle := by
  cases d with
  | fetching => exact h.1
  | settling stage goal =>
    cases goal with
    | finished =>
      cases stage with
      | clearing => exact h
      | _ => exact h.1
    | _ => cases hloaded
  | _ => cases hloaded

/-- Nobody relies on a tracker that is not idle. -/
theorem Attends.of_busy (h : c.Attends j d) (hbusy : c.lifecycle ≠ .idle) : c'.Attends j d := by
  cases d with
  | loading => exact absurd h.1 hbusy
  | fetching => exact absurd (h.idle rfl) hbusy
  | settling stage goal =>
    cases goal with
    | finished => exact absurd (h.idle rfl) hbusy
    | _ => cases stage <;> trivial
  | _ => trivial

/-- A job that takes up a snapshot waits for the lock or for the stored id. -/
theorem settle_waits (b : Core) (j : Job) (s : Snapshot) (goal : Goal) :
    ∃ locked stage, (stage = .locking s ∨ stage = .reading s) ∧
      b.settle j s goal = { b with locked }.wait j (.settling stage goal) := by
  rcases settle_eq b j s goal with heq | heq
  · exact ⟨b.locked, _, .inl rfl, heq⟩
  · exact ⟨true, _, .inr rfl, heq⟩

/-- With a snapshot taken up, only the end of a loaded task relies on the tracker. -/
theorem attends_settling {s : Snapshot} {stage : Settling} {goal : Goal}
    (hstage : stage = .locking s ∨ stage = .reading s)
    (hwaits : ∀ x status, goal = .finished x status → c.Waits x) :
    (c.wait j (.settling stage goal)).Attends j (.settling stage goal) := by
  cases goal with
  | finished x status => rcases hstage with rfl | rfl <;> exact hwaits x status rfl
  | _ => rcases hstage with rfl | rfl <;> trivial

namespace Solo

/-- A resume changes whose the task is only while the tracker waits for it. -/
theorem heeds (h : c.Solo) (job : Option Job) : c.Heeds job c' := by
  intro j d x _ hd hloaded
  have hattends := h.attends j d hd
  refine .inr ?_
  cases d with
  | fetching y =>
    cases hloaded
    exact ⟨hattends.1, .inr hattends.2⟩
  | settling stage goal =>
    cases goal with
    | finished y status =>
      cases hloaded
      cases stage with
      | clearing => exact ⟨hattends, .inl rfl⟩
      | _ => exact ⟨hattends.1, .inr hattends.2⟩
    | _ => cases hloaded
  | _ => cases hloaded

/-! ### Changes of one job -/

/-- A job goes on to what it may. -/
theorem next (h : c.Solo) (hdoing : c'.doing = Function.update c.doing j e)
    (hresumes : ∀ d, e = some d → d.resumes = true → (c.doing j).any Call.resumes = true)
    (happlies : (∀ d₀, c.doing j = some d₀ → d₀.onlyApplies = true) →
      ∀ d, e = some d → d.onlyApplies = true)
    (hself : ∀ d, e = some d → c'.Attends j d)
    (hothers : ∀ i d, i ≠ j → c.doing i = some d → c.Attends i d → c'.Attends i d)
    (hvacant : c'.lifecycle ≠ .tracking →
      c'.current = none ∨ ∃ i d, c'.doing i = some d ∧ d.isFinishing = true) : c'.Solo := by
  refine ⟨fun i d hd hres k dk hne hk => ?_, fun i d hd => ?_, hvacant⟩
  · -- The job that goes on is the resume, or one of those beside it.
    rw [hdoing] at hd hk
    by_cases hi : i = j
    · subst hi
      rw [Function.update_self] at hd
      rw [Function.update_of_ne hne] at hk
      obtain ⟨d₀, hd₀, hres₀⟩ := (Option.any_eq_true ..).mp (hresumes d hd hres)
      exact h.alone i d₀ hd₀ hres₀ k dk hne hk
    · rw [Function.update_of_ne hi] at hd
      by_cases hkj : k = j
      · subst hkj
        rw [Function.update_self] at hk
        exact happlies (fun d₀ hd₀ => h.alone i d hd hres k d₀ hne hd₀) dk hk
      · rw [Function.update_of_ne hkj] at hk
        exact h.alone i d hd hres k dk hne hk
  · rw [hdoing] at hd
    by_cases hi : i = j
    · subst hi
      rw [Function.update_self] at hd
      exact hself d hd
    · rw [Function.update_of_ne hi] at hd
      exact hothers i d hi hd (h.attends i d hd)

/-- A job that finishes a task is still there. -/
theorem vacant_keep (h : c.Solo) (hdoing : c'.doing = Function.update c.doing j e)
    (hlifecycle : c.lifecycle = .tracking → c'.lifecycle = .tracking)
    (hcurrent : c'.current = c.current)
    (hfinishing : (c.doing j).any Call.isFinishing = true → e.any Call.isFinishing = true)
    (huntracked : c'.lifecycle ≠ .tracking) :
    c'.current = none ∨ ∃ i d, c'.doing i = some d ∧ d.isFinishing = true := by
  rcases h.vacant fun htracking => huntracked (hlifecycle htracking) with hnone | ⟨i, d, hd, hfin⟩
  · exact .inl (hcurrent.trans hnone)
  · right
    rw [hdoing]
    by_cases hi : i = j
    · subst hi
      obtain ⟨d₁, hd₁, hfin₁⟩ := (Option.any_eq_true ..).mp (hfinishing (by rw [hd]; exact hfin))
      exact ⟨i, d₁, by rw [Function.update_self]; exact hd₁, hfin₁⟩
    · exact ⟨i, d, by rw [Function.update_of_ne hi]; exact hd, hfin⟩

/-- A job goes on and leaves everything that a resume relies on. -/
theorem keep (h : c.Solo) (hdoing : c'.doing = Function.update c.doing j e)
    (hanswer : ∀ i, i ≠ j → c'.answer i = c.answer i) (hlifecycle : c'.lifecycle = c.lifecycle)
    (hcurrent : c'.current = c.current) (hfound : c'.found = c.found)
    (hresumes : ∀ d, e = some d → d.resumes = true → (c.doing j).any Call.resumes = true)
    (happlies : (∀ d₀, c.doing j = some d₀ → d₀.onlyApplies = true) →
      ∀ d, e = some d → d.onlyApplies = true)
    (hself : ∀ d, e = some d → c'.Attends j d)
    (hfinishing : (c.doing j).any Call.isFinishing = true → e.any Call.isFinishing = true) :
    c'.Solo :=
  h.next hdoing hresumes happlies hself
    (fun i _ hne _ hattends => hattends.of_eq hlifecycle hfound (hanswer i hne))
    (h.vacant_keep hdoing (fun htracking => hlifecycle.trans htracking) hcurrent hfinishing)

/-- A call that does more than to apply a snapshot is beside no resume. -/
theorem go (h : c.Solo) (hd₀ : c.doing j = some d₀) (hmore : d₀.onlyApplies = false)
    (hdoing : c'.doing = Function.update c.doing j e)
    (hresumes : ∀ d, e = some d → d.resumes = true → d₀.resumes = true)
    (hself : ∀ d, e = some d → c'.Attends j d)
    (hvacant : c'.lifecycle ≠ .tracking →
      c'.current = none ∨ ∃ i d, c'.doing i = some d ∧ d.isFinishing = true) : c'.Solo := by
  refine h.next hdoing (fun d hd hres => by rw [hd₀]; exact hresumes d hd hres)
    (fun hall => ?_) hself (fun i d hne hd _ => attends_of_not_resumes ?_) hvacant
  · rw [hall d₀ hd₀] at hmore
    cases hmore
  · cases hres : d.resumes with
    | false => rfl
    | true =>
      rw [h.alone i d hd hres j d₀ (Ne.symm hne) hd₀] at hmore
      cases hmore

/-- A call that finishes nothing goes on without changing whose the task is. -/
theorem go_on (h : c.Solo) (hd₀ : c.doing j = some d₀) (hmore : d₀.onlyApplies = false)
    (hplain : d₀.isFinishing = false) (hdoing : c'.doing = Function.update c.doing j e)
    (hlifecycle : c'.lifecycle = c.lifecycle) (hcurrent : c'.current = c.current)
    (hresumes : ∀ d, e = some d → d.resumes = true → d₀.resumes = true)
    (hself : ∀ d, e = some d → c'.Attends j d) : c'.Solo := by
  refine h.go hd₀ hmore hdoing hresumes hself
    (h.vacant_keep hdoing (fun htracking => hlifecycle.trans htracking) hcurrent ?_)
  intro hfinishing
  rw [hd₀, Option.any_some, hplain] at hfinishing
  cases hfinishing

/-- A call that does more than to apply a snapshot takes one up. -/
theorem go_settle (h : c.Solo) (hd₀ : c.doing j = some d₀) (hmore : d₀.onlyApplies = false)
    {b : Core} {s : Snapshot} {goal : Goal} (hdoing : b.doing = c.doing)
    (hresumes : d₀.resumes = true) (hwaits : ∀ x status, goal = .finished x status → b.Waits x)
    (hvacant : b.lifecycle ≠ .tracking → goal.isFinishing = true) : (b.settle j s goal).Solo := by
  obtain ⟨locked, stage, hstage, heq⟩ := settle_waits b j s goal
  rw [heq]
  refine h.go hd₀ hmore (e := some (.settling stage goal)) (by rw [← hdoing]; rfl)
    (fun _ _ _ => hresumes) ?_
    fun huntracked => .inr ⟨j, _, Function.update_self .., hvacant huntracked⟩
  rintro d ⟨⟩
  exact attends_settling hstage hwaits

/-- A call ends or goes on, and then resumes and finishes nothing. -/
theorem go_plain (h : c.Solo) (hd₀ : c.doing j = some d₀) (hmore : d₀.onlyApplies = false)
    (hdoing : c'.doing = Function.update c.doing j e) (he : e.any Call.resumes = false)
    (hvacant : c'.lifecycle ≠ .tracking →
      c'.current = none ∨ ∃ i d, c'.doing i = some d ∧ d.isFinishing = true) : c'.Solo := by
  have hplain : ∀ d, e = some d → d.resumes = false := by
    rintro d rfl
    exact he
  refine h.go hd₀ hmore hdoing (fun d hd hres => ?_)
    (fun d hd => attends_of_not_resumes (hplain d hd)) hvacant
  rw [hplain d hd] at hres
  cases hres

/-! ### Moves -/

theorem call (h : c.Solo) {k : Nat} (hfree : c.doing (.call k) = none) (hnew : d.isNew)
    (hadmits : c.Alone d) :
    ({ c with doing := Function.update c.doing (.call k) (some d) } : Core).Solo := by
  have hattends : ∀ j, c.Attends j d := by
    intro j
    cases d <;> trivial
  refine ⟨fun i di hdi hres m dm hne hdm => ?_, fun i di hdi => ?_, fun huntracked => ?_⟩
  · change Function.update c.doing (.call k) (some d) i = some di at hdi
    change Function.update c.doing (.call k) (some d) m = some dm at hdm
    unfold Alone at hadmits
    -- The resume, the other call, or neither is the new one.
    by_cases hi : i = .call k
    · subst hi
      rw [Function.update_self] at hdi
      cases hdi
      rw [if_pos hres] at hadmits
      rw [Function.update_of_ne hne] at hdm
      exact hadmits m dm hdm
    · rw [Function.update_of_ne hi] at hdi
      by_cases hm : m = .call k
      · subst hm
        rw [Function.update_self] at hdm
        cases hdm
        split at hadmits
        · -- two resumes at once: the new one is not admitted beside the other
          rw [Call.resumes_of_onlyApplies (hadmits i di hdi)] at hres
          cases hres
        · rcases hadmits with honly | hnone
          · exact honly
          · rw [hnone i di hdi] at hres
            cases hres
      · rw [Function.update_of_ne hm] at hdm
        exact h.alone i di hdi hres m dm hne hdm
  · change Function.update c.doing (.call k) (some d) i = some di at hdi
    by_cases hi : i = .call k
    · subst hi
      rw [Function.update_self] at hdi
      cases hdi
      exact hattends _
    · rw [Function.update_of_ne hi] at hdi
      exact h.attends i di hdi
  · refine h.vacant_keep rfl id rfl ?_ huntracked
    rw [hfree]
    rintro ⟨⟩

/-- A job takes the lock for a snapshot or waits for it, and leaves everything that
    a resume relies on. -/
theorem settle (h : c.Solo) {b : Core} {s : Snapshot} {goal : Goal} (hdoing : b.doing = c.doing)
    (hanswer : b.answer = c.answer) (hlifecycle : b.lifecycle = c.lifecycle)
    (hcurrent : b.current = c.current) (hfound : b.found = c.found)
    (hresumes : goal.isResumption = true → (c.doing j).any Call.resumes = true)
    (happlies : (∀ d₀, c.doing j = some d₀ → d₀.onlyApplies = true) → goal = .applied)
    (hself : ∀ x status, goal = .finished x status → c.Waits x)
    (hfinishing : (c.doing j).any Call.isFinishing = true → goal.isFinishing = true) :
    (b.settle j s goal).Solo := by
  have hwaits : ∀ x status, goal = .finished x status → b.Waits x := by
    intro x status hgoal
    obtain ⟨hidle, hstored⟩ := hself x status hgoal
    refine ⟨hlifecycle.trans hidle, ?_⟩
    unfold Core.stored
    rw [hfound]
    exact hstored
  obtain ⟨locked, stage, hstage, heq⟩ := settle_waits b j s goal
  rw [heq]
  refine h.keep (e := some (.settling stage goal)) (by rw [← hdoing]; rfl) (fun i hi => ?_)
    hlifecycle hcurrent ?_ ?_ ?_ ?_ hfinishing
  · rw [← hanswer]
    exact Function.update_of_ne hi ..
  · rcases hstage with rfl | rfl <;> exact hfound
  · rintro d ⟨⟩ hres
    exact hresumes hres
  · rintro hall d ⟨⟩
    rw [happlies hall]
    rfl
  · rintro d ⟨⟩
    exact attends_settling hstage hwaits

theorem dismiss (h : c.Solo) {rest : List Delivery}
    (hworker : ∀ d, c.doing .worker = some d → ∃ stage, d = .settling stage .applied) :
    ({ c with
        queue := rest
        locked := c.locked && !(c.doing .worker).any Call.holds } :
      Core).ended .worker |>.Solo := by
  refine h.keep (e := none) rfl (fun i hi => Function.update_of_ne hi ..) rfl rfl rfl
    (by rintro d ⟨⟩) (by rintro _ d ⟨⟩) (by rintro d ⟨⟩) ?_
  intro hfinishing
  obtain ⟨d, hd, hfin⟩ := (Option.any_eq_true ..).mp hfinishing
  obtain ⟨stage, rfl⟩ := hworker d hd
  cases hfin

/-- A job that finishes nothing ends and leaves everything that a resume relies on. -/
theorem done (h : c.Solo) {b : Core} (hdoing : b.doing = c.doing) (hanswer : b.answer = c.answer)
    (hlifecycle : b.lifecycle = c.lifecycle) (hcurrent : b.current = c.current)
    (hfound : b.found = c.found) (hplain : (c.doing j).any Call.isFinishing = false) :
    (b.ended j).Solo := by
  refine h.keep (e := none) (by rw [← hdoing]; rfl) (fun i hi => ?_) hlifecycle hcurrent hfound
    (by rintro d ⟨⟩) (by rintro _ d ⟨⟩) (by rintro d ⟨⟩) ?_
  · rw [← hanswer]
    exact Function.update_of_ne hi ..
  · intro hfinishing
    rw [hplain] at hfinishing
    cases hfinishing

/-- What a resume reads of the id that it has loaded is that id. -/
theorem read_of_finishing (h : c.Solo) (hsound : c.Sound φ) {s : Snapshot} {x : String}
    {status : Status} {found : Option String}
    (hdoing : c.doing j = some (.settling (.reading s) (.finished x status)))
    (hanswer : c.answer j = some (.value found)) :
    Store.Identity.taskId? found = some s.id ∧ s.isTerminal = true := by
  have hφ := hsound.waits (h.attends j _ hdoing)
  subst hφ
  obtain ⟨_, hgoal, _, hread⟩ := hsound.fits j _ hdoing
  obtain ⟨hid, hend⟩ := hgoal x status rfl
  refine ⟨(hread found hanswer (.inr (.inl rfl))).mpr ?_, hend⟩
  rw [show s.id = x from hid]
  rfl

theorem close (h : c.Solo) (hsound : c.Sound φ) {s : Snapshot} {goal : Goal}
    {found : Option String} (hdoing : c.doing j = some (.settling (.reading s) goal))
    (hanswer : c.answer j = some (.value found))
    (hsame : Store.Identity.taskId? found = some s.id) :
    (({ c with display := c.display.following s } : Core).wait j
      (.settling (.clearing s (c.display.apply s (some s.id)) s.lastEffects) goal)).Solo := by
  have hfinishing : (c.doing j).any Call.isFinishing = true →
      (some (Call.settling (.clearing s (c.display.apply s (some s.id)) s.lastEffects) goal)).any
        Call.isFinishing = true := by
    rw [hdoing]
    exact id
  -- The goal says what the job relies on from now on.
  cases goal with
  | finished x status =>
    refine h.go hdoing rfl rfl (by rintro d ⟨⟩ _; rfl) ?_
      (h.vacant_keep rfl id rfl hfinishing)
    rintro d ⟨⟩
    exact (h.attends j _ hdoing).1
  | resumed x =>
    refine h.go hdoing rfl rfl (by rintro d ⟨⟩ _; rfl) ?_
      (h.vacant_keep rfl id rfl hfinishing)
    rintro d ⟨⟩
    trivial
  | applied =>
    have hφ := hsound.tracking_of_read hdoing hanswer hsame rfl
    subst hφ
    have hbusy : c.lifecycle ≠ .idle := by
      rw [(hsound.looks.tracked s.id rfl).1]
      nofun
    refine h.next rfl (by rintro d ⟨⟩ ⟨⟩) (by rintro _ d ⟨⟩; rfl) (by rintro d ⟨⟩; trivial)
      (fun i d _ _ hattends => hattends.of_busy hbusy)
      (h.vacant_keep rfl id rfl hfinishing)

theorem finish (h : c.Solo) (hsound : c.Sound φ) {s : Snapshot} {applied : Applied}
    {rest : List Effect} {goal : Goal}
    (hdoing : c.doing j = some (.settling (.clearing s applied rest) goal)) :
    (({ c with lifecycle := .idle, current := none, active := none } : Core).settled j
      goal).Solo := by
  cases goal with
  | applied =>
    obtain ⟨_, _, _, _, _, _, hclosing⟩ := hsound.fits j _ hdoing
    have hφ := hclosing rfl
    subst hφ
    have hbusy : c.lifecycle ≠ .idle := by
      rw [(hsound.looks.tracked s.id rfl).1]
      nofun
    exact h.next (e := none) rfl (by rintro d ⟨⟩) (by rintro _ d ⟨⟩) (by rintro d ⟨⟩)
      (fun i d _ _ hattends => hattends.of_busy hbusy) fun _ => .inl rfl
  | _ => exact h.go_plain (e := none) hdoing rfl rfl rfl fun _ => .inl rfl

theorem conclude (h : c.Solo) {s : Snapshot} (hdoing : c.doing j = some (.fetching s.id)) :
    (({ c with current := some s.id } : Core).settle j s (.finished s.id s.status)).Solo := by
  have hwaits : c.Waits s.id := h.attends j _ hdoing
  refine h.go_settle hdoing rfl rfl rfl ?_ fun _ => rfl
  rintro x status ⟨⟩
  exact hwaits

theorem resume (h : c.Solo) {s : Snapshot} (hdoing : c.doing j = some (.fetching s.id)) :
    ((c.begin s.id).settle j s (.resumed s.id)).Solo :=
  h.go_settle hdoing rfl rfl rfl nofun fun huntracked => absurd rfl huntracked

theorem lock (h : c.Solo) {s : Snapshot} {goal : Goal}
    (hdoing : c.doing j = some (.settling (.locking s) goal)) : (c.settle j s goal).Solo := by
  refine h.settle rfl rfl rfl rfl rfl (fun hres => by rw [hdoing]; exact hres) ?_ ?_
    (by rw [hdoing]; exact id)
  · intro hall
    have honly := hall _ hdoing
    cases goal with
    | applied => rfl
    | _ => cases honly
  · rintro x status rfl
    exact h.attends j _ hdoing

/-- Only a resume that has loaded another id would finish a task here. -/
theorem pass (h : c.Solo) (hsound : c.Sound φ) {s : Snapshot} {goal : Goal} {found : Option String}
    (hdoing : c.doing j = some (.settling (.reading s) goal))
    (hanswer : c.answer j = some (.value found))
    (hother : Store.Identity.taskId? found ≠ some s.id) : (c.settled j goal).Solo := by
  refine h.done (b := { c with locked := false, entered := c.entered || goal.isResumption })
    rfl rfl rfl rfl rfl ?_
  rw [hdoing]
  cases goal with
  | finished x status => exact absurd (h.read_of_finishing hsound hdoing hanswer).1 hother
  | _ => rfl

theorem redraw (h : c.Solo) (hsound : c.Sound φ) {s : Snapshot} {goal : Goal}
    {found : Option String} (hdoing : c.doing j = some (.settling (.reading s) goal))
    (hanswer : c.answer j = some (.value found)) (hrun : s.isTerminal = false) :
    (({ c with display := c.display.following s } : Core).settled j goal).Solo := by
  refine h.done (b := { c with
    display := c.display.following s, locked := false
    entered := c.entered || goal.isResumption }) rfl rfl rfl rfl rfl ?_
  rw [hdoing]
  cases goal with
  | finished x status =>
    rw [(h.read_of_finishing hsound hdoing hanswer).2] at hrun
    cases hrun
  | _ => rfl

theorem load (h : c.Solo) (hdoing : c.doing j = some d) (hd : d = .entering ∨ d = .resuming)
    (hidle : c.lifecycle = .idle) : (c.wait j .loading).Solo := by
  have hself : ∀ d', some Call.loading = some d' → (c.wait j .loading).Attends j d' := by
    rintro _ ⟨⟩
    exact ⟨hidle, Function.update_self ..⟩
  rcases hd with rfl | rfl <;> exact h.go_on hdoing rfl rfl rfl rfl rfl (fun _ _ _ => rfl) hself

theorem found (h : c.Solo) {found : Option String} {x : String}
    (hdoing : c.doing j = some .loading) (hanswer : c.answer j = some (.value found))
    (hfound : Store.Identity.taskId? found = some x) : (c.wait j (.fetching x)).Solo := by
  refine h.go_on hdoing rfl rfl rfl rfl rfl (fun _ _ _ => rfl) ?_
  rintro d ⟨⟩
  -- What is stored is what the resume has loaded.
  obtain ⟨hidle, hvalue⟩ := h.attends j _ hdoing
  rw [hanswer] at hvalue
  cases hvalue
  exact ⟨hidle, hfound⟩

end Solo

/-- **Every move of a sound core in which resumes are alone keeps them alone.** -/
theorem solo_move {admits : Core → Call → Prop} (hadmits : ∀ c d, admits c d → c.Alone d)
    {scene : Scene} (h : c.Solo) (hsound : c.Sound φ) (hmove : Move admits c scene c') :
    c'.Solo := by
  -- A new call is admitted only where it disturbs no resume, and no other job goes on to one.
  cases hmove with
  | deliver _ _ =>
    exact ⟨h.alone, fun j d hd => (h.attends j d hd).of_eq rfl rfl rfl, h.vacant⟩
  | call hfree hnew hadm => exact h.call hfree hnew (hadmits _ _ hadm)
  | dismiss _ _ hworker _ => exact h.dismiss hworker
  | warn hqueue hfree _ _ => exact h.done rfl rfl rfl rfl rfl (by rw [hfree]; rfl)
  | take hqueue hfree =>
    refine h.settle rfl rfl rfl rfl rfl nofun (fun _ => rfl) nofun ?_
    rw [hfree]
    rintro ⟨⟩
  | apply hdoing =>
    refine h.settle rfl rfl rfl rfl rfl nofun (fun _ => rfl) nofun ?_
    rw [hdoing]
    rintro ⟨⟩
  | lock hdoing _ => exact h.lock hdoing
  | pass hdoing hanswer hother => exact h.pass hsound hdoing hanswer hother
  | redraw hdoing hanswer _ hrun => exact h.redraw hsound hdoing hanswer hrun
  | close hdoing hanswer hsame _ => exact h.close hsound hdoing hanswer hsame
  | finish hdoing => exact h.finish hsound hdoing
  | @drop j d hdoing hnew =>
    refine h.done rfl rfl rfl rfl rfl ?_
    rw [hdoing]
    cases d <;> first | rfl | cases hnew
  | load hdoing hd hidle => exact h.load hdoing hd hidle
  | found hdoing hanswer hfound => exact h.found hdoing hanswer hfound
  | nothing hdoing _ _ =>
    exact h.done (b := { c with entered := true }) rfl rfl rfl rfl rfl (by rw [hdoing]; rfl)
  | forget hdoing =>
    refine h.go_on hdoing rfl rfl rfl rfl rfl (fun _ _ _ => rfl) ?_
    rintro d ⟨⟩
    trivial
  | stale hdoing =>
    exact h.done (b := { c with entered := true }) rfl rfl rfl rfl rfl (by rw [hdoing]; rfl)
  | conclude hdoing _ => exact h.conclude hdoing
  | resume hdoing _ => exact h.resume hdoing
  -- A start needs no solitude, but it leaves the tracker vacant until it tracks its task.
  | create hdoing hidle =>
    refine h.go_plain hdoing rfl rfl rfl
      (h.vacant_keep rfl (fun htracking => ?_) rfl (by rw [hdoing]; rintro ⟨⟩))
    rw [hidle] at htracking
    cases htracking
  | save hdoing _ =>
    exact h.go_plain hdoing rfl rfl rfl (h.vacant_keep rfl id rfl (by rw [hdoing]; rintro ⟨⟩))
  | refuse hdoing =>
    refine h.go_plain (e := none) hdoing rfl rfl rfl
      (h.vacant_keep rfl (fun htracking => ?_) rfl (by rw [hdoing]; rintro ⟨⟩))
    rw [hsound.is_creating hdoing rfl] at htracking
    cases htracking
  | track hdoing =>
    exact h.go_plain (e := none) hdoing rfl rfl rfl fun huntracked => absurd rfl huntracked
  | release hdoing _ _ _ => exact h.go_plain hdoing rfl rfl rfl fun _ => .inl rfl
  | erase hdoing =>
    exact h.go_plain hdoing rfl rfl rfl (h.vacant_keep rfl id rfl (by rw [hdoing]; rintro ⟨⟩))
  | @withdraw j d calls hdoing hd _ =>
    refine h.done rfl rfl rfl rfl rfl ?_
    rw [hdoing]
    cases d <;> first | rfl | cases hd

end Core

end TaskTracking
