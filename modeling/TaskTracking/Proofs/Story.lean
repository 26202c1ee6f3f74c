import TaskTracking.Proofs.Coherence
import TaskTracking.Proofs.Trace

/-! # The story of a task

  Every run without overlapping resumes tells each task's story as the law has it
  (`Session.told_of_reaches`): while the task is tracked its story goes on
  (`Core.Ongoing`), the removal of its id or the page's cancelling ends it, and
  then no move adds to it (`Core.Over`).
-/

namespace TaskTracking

theorem Call.isClearing_spec {d : Call} (h : d.isClearing = true) :
    ∃ s applied rest goal, d = .settling (.clearing s applied rest) goal := by
  cases d with
  | settling stage goal =>
    cases stage with
    | clearing s applied rest => exact ⟨s, applied, rest, goal, rfl⟩
    | _ => cases h
  | _ => cases h

theorem Call.resumes_of_isFinishing {d : Call} (h : d.isFinishing = true) : d.resumes = true := by
  cases d with
  | settling stage goal =>
    cases goal with
    | finished => rfl
    | _ => cases h
  | _ => cases h

namespace Core

variable {admits : Core → Call → Prop} {c c' : Core} {φ : Phase} {scene : Scene} {i j : Job}
  {t : String} {post : List Scene}

/-! ### What becomes of the jobs -/

/-- A job stores an id that is fresh when it begins to. -/
theorem Move.saving_of {x : String} (h : Move admits c scene c')
    (hd : c'.doing i = some (.saving x)) :
    c.doing i = some (.saving x) ∨ c.Fresh x ∧ c'.shown = c.shown := by
  cases h with
  | save hdoing hfresh =>
    rw [doing_wait] at hd
    rcases hd with ⟨_, heq⟩ | ⟨_, hd⟩
    · cases heq
      exact .inr ⟨hfresh, rfl⟩
    · exact .inl hd
  | take | apply | lock | conclude | resume =>
    rcases doing_settle hd with ⟨_, heq | heq⟩ | ⟨_, hd⟩
    · cases heq
    · cases heq
    · exact .inl hd
  | call _ hnew _ => grind [Call.isNew, Function.update_apply]
  | deliver => exact .inl hd
  | _ =>
    simp only [doing_wait, doing_ended, doing_settled] at hd
    grind [begin]

/-- A job finishes a task only once it has fetched its status. -/
theorem Move.finishing_of {d : Call} (h : Move admits c scene c') (hd : c'.doing i = some d)
    (hfin : d.isFinishing = true) :
    (∃ d₀, c.doing i = some d₀ ∧ d₀.isFinishing = true) ∨ ∃ x, c.doing i = some (.fetching x) := by
  cases h with
  | take | apply | lock | conclude | resume =>
    have hcases := doing_settle hd
    grind [begin, Call.isFinishing, Goal.isFinishing]
  | @call k d₁ _ hnew _ =>
    have hnot : d₁.isFinishing = false := by cases d₁ <;> first | rfl | cases hnew
    grind [Function.update_apply]
  | deliver => exact .inl ⟨d, hd, hfin⟩
  | _ =>
    simp only [doing_wait, doing_ended, doing_settled] at hd
    grind [begin, Call.isFinishing, Goal.isFinishing]

/-- A job removes an id only once it has read it for a terminal snapshot. -/
theorem Move.clearing_of {d : Call} (h : Move admits c scene c') (hd : c'.doing i = some d)
    (hclear : d.isClearing = true) : c.doing i = some d ∨ scene.applied.isSome = true := by
  cases h with
  | take | apply | lock | conclude | resume =>
    have hcases := doing_settle hd
    grind [begin, Call.isClearing]
  | @call k d₁ _ hnew _ =>
    have hnot : d₁.isClearing = false := by cases d₁ <;> first | rfl | cases hnew
    grind [Function.update_apply]
  | deliver => exact .inl hd
  | _ =>
    simp only [doing_wait, doing_ended, doing_settled] at hd
    grind [begin, Call.isClearing]

/-- A job that removes an id does so until its own next turn, or the page is left. -/
theorem Move.clearing_keep {d : Call} (h : Move admits c scene c') (hd : c.doing i = some d)
    (hclear : d.isClearing = true) :
    c'.doing i = some d ∨ scene.job = some i ∨ scene.left = true := by
  cases h with
  | call hfree hnew _ => grind [Function.update_apply]
  | deliver => exact .inl hd
  | @take _ _ _ hqueue hfree =>
    left
    rw [doing_settle_of_ne (by rintro rfl; rw [hfree] at hd; cases hd)]
    exact hd
  | @apply j _ hdoing | @lock j _ _ hdoing | @conclude j _ hdoing | @resume j _ hdoing =>
    by_cases hi : i = j
    · subst hi
      exact .inr (.inl rfl)
    · rw [doing_settle_of_ne hi]
      exact .inl hd
  | _ =>
    simp only [doing_wait, doing_ended, doing_settled]
    grind [begin, Call.isClearing]

/-- A task begins to be shown by a start that has stored it, or by a resume. -/
theorem Move.shown_of (h : Move admits c scene c') : c'.shown = c.shown ∨
    ∃ j y, c'.shown = c.shown ++ [y] ∧
      (c.doing j = some (.saving y) ∧ c'.doing j = none ∨
        c.doing j = some (.fetching y) ∧ ∀ d, c'.doing j = some d → d.isFinishing = false) := by
  cases h with
  | @track j y hdoing =>
    exact .inr ⟨j, y, rfl, .inl ⟨hdoing, Function.update_self ..⟩⟩
  | @resume j s hdoing _ =>
    refine .inr ⟨j, s.id, settle_shown .., .inr ⟨hdoing, fun d hd => ?_⟩⟩
    rcases doing_settle hd with ⟨_, rfl | rfl⟩ | ⟨hne, _⟩
    · rfl
    · rfl
    · exact absurd rfl hne
  | take | apply | lock | conclude => exact .inl (settle_shown ..)
  | _ => exact .inl rfl

/-! ### What is known of the shown tasks -/

/-- What a resume has loaded comes before anything is shown. -/
theorem Solo.shown_of_fetching (h : c.Solo) (hsound : c.Sound φ) {x : String}
    (hd : c.doing j = some (.fetching x)) : c.shown = [] := by
  have hφ := hsound.waits (h.attends j _ hd)
  exact (hsound.looks.dormant x hφ).2.2.1

/-- **Invariant.** Only new tasks are stored, only tasks of earlier pages are
    finished without having been shown, and the display has a percentage. -/
structure Candid (c : Core) : Prop where
  saved : ∀ j x, c.doing j = some (.saving x) → x ∉ c.shown
  finished : ∀ j d, c.doing j = some d → d.isFinishing = true → c.shown = []
  percentage : c.display.percentage.IsPercentage

theorem candid_move (h : c.Candid) (hsolo : c.Solo) (hsound : c.Sound φ)
    (hmove : Move admits c scene c') : c'.Candid := by
  refine ⟨fun i x hd => ?_, fun i d hd hfin => ?_, ?_⟩
  · rcases hmove.saving_of hd with hd₀ | ⟨hfresh, hsame⟩
    · rcases hmove.shown_of with hsame | ⟨j, y, _, ⟨hj, hover⟩ | ⟨hj, _⟩⟩
      · rw [hsame]
        exact h.saved i x hd₀
      · -- two starts at once
        have hne : i ≠ j := by
          rintro rfl
          rw [hover] at hd
          cases hd
        have hother := hsound.start.other (j := j) (by rw [hj]; rfl) hne
        rw [hd₀] at hother
        cases hother
      · have hidle : c.lifecycle = .idle := (hsolo.attends j _ hj).1
        rw [hsound.is_creating hd₀ rfl] at hidle
        cases hidle
    · rw [hsame]
      exact hfresh.shown
  · have hbefore : ∃ d₀, c.doing i = some d₀ ∧ d₀.resumes = true ∧ c.shown = [] := by
      rcases hmove.finishing_of hd hfin with ⟨d₀, hd₀, hfin₀⟩ | ⟨x, hd₀⟩
      · exact ⟨d₀, hd₀, Call.resumes_of_isFinishing hfin₀, h.finished i d₀ hd₀ hfin₀⟩
      · exact ⟨_, hd₀, rfl, hsolo.shown_of_fetching hsound hd₀⟩
    obtain ⟨d₀, hd₀, hres₀, hnone⟩ := hbefore
    rcases hmove.shown_of with hsame | ⟨j, y, _, ⟨hj, hover⟩ | ⟨hj, hplain⟩⟩
    · rw [hsame]
      exact hnone
    · have hne : j ≠ i := by
        rintro rfl
        rw [hover] at hd
        cases hd
      cases hsolo.alone i d₀ hd₀ hres₀ j _ hne hj
    · have hne : j ≠ i := by
        rintro rfl
        rw [hplain d hd] at hfin
        cases hfin
      cases hsolo.alone i d₀ hd₀ hres₀ j _ hne hj
  · cases hmove with
    | take | apply | lock | conclude =>
      rw [settle_display]
      exact h.percentage
    | resume =>
      rw [settle_display]
      exact Binary64.zero_isPercentage
    | redraw | close => exact Display.following_isPercentage h.percentage
    | track | release => exact Binary64.zero_isPercentage
    | _ => exact h.percentage

/-- Once a task is shown every snapshot is applied as one of a tracked task. -/
theorem Candid.plain_goal (h : c.Candid) (hshown : t ∈ c.shown) {stage : Settling} {goal : Goal}
    (hdoing : c.doing j = some (.settling stage goal)) : goal.isFinishing = false := by
  cases hfin : goal.isFinishing with
  | false => rfl
  | true =>
    rw [h.finished j _ hdoing hfin] at hshown
    cases hshown

/-! ### While the task is tracked -/

/-- How near the task is to its end, as far as its snapshots go. -/
inductive Nearing (t : String) (post : List Scene) (c : Core) : Prop where
  | running (hstored : c.stored = some t) (hnone : ∀ sc ∈ post, sc.ends t = false)
      (hclear : ∀ j d, c.doing j = some d → d.isClearing = false)
  /-- A job has read a terminal snapshot and removes the stored id. -/
  | closing {s : Snapshot} {before after : List Scene} {first : Scene} {j : Job}
      {applied : Applied} {rest : List Effect} {goal : Goal} (hstored : c.stored = none)
      (hid : s.id = t) (hend : s.isTerminal = true) (hpost : post = before ++ first :: after)
      (hjob : first.job = some j) (hfirst : first.applied = some s ∧ first.calls = [])
      (honly : ∀ sc ∈ before ++ after, sc.ends t = false)
      (hdoing : c.doing j = some (.settling (.clearing s applied rest) goal))
  /-- The page was left while the worker removed the stored id. -/
  | stranded {s : Snapshot} {before after : List Scene} {first : Scene}
      (hstored : c.stored = none) (hid : s.id = t) (hend : s.isTerminal = true)
      (hpost : post = before ++ first :: after) (hjob : first.job = some .worker)
      (hfirst : first.applied = some s ∧ first.calls = [])
      (hnone : ∀ sc ∈ before, sc.ends t = false)
      (hsilent : ∀ sc ∈ after, sc.ends t = true → sc.calls = [])
      (hleft : ∃ sc ∈ after, sc.left = true)
      (hclear : ∀ j d, c.doing j = some d → d.isClearing = false)

/-- The task is tracked, and `post` is what was shown of it. -/
structure Ongoing (t : String) (post : List Scene) (c : Core) : Prop where
  lifecycle : c.lifecycle = .tracking
  current : c.current = some t
  shown : t ∈ c.shown
  follows : Follows t post
  below : ∀ x ∈ (Scene.plain post).filterMap ViewCall.percentage?, x.le c.display.percentage
  unwarned : c.warned = false → (Scene.plain post).filter ViewCall.isNotice = []
  nearing : Nearing t post c

/-- What all scenes have and a new one has too. -/
theorem forall_snoc {P : Scene → Prop} {scenes : List Scene} (h : ∀ sc ∈ scenes, P sc)
    (hscene : P scene) : ∀ sc ∈ scenes ++ [scene], P sc := by
  intro sc hsc
  rcases List.mem_append.mp hsc with hsc | hsc
  · exact h sc hsc
  · rw [List.mem_singleton.mp hsc]
    exact hscene

/-- Nobody removes an id if nobody did before. -/
theorem nobody_of_iff (h : ∀ j d, c.doing j = some d → d.isClearing = false)
    (hclear : ∀ j d, d.isClearing = true → (c'.doing j = some d ↔ c.doing j = some d)) (j : Job)
    (d : Call) (hd : c'.doing j = some d) : d.isClearing = false := by
  cases hclears : d.isClearing with
  | false => rfl
  | true =>
    rw [← hclears]
    exact h j d ((hclear j d hclears).mp hd)

/-- A scene without a terminal snapshot of the task brings it no nearer to its end. -/
theorem Nearing.snoc (h : Nearing t post c) (hends : scene.ends t = false)
    (hstored : c'.stored = c.stored)
    (hclear : ∀ j d, d.isClearing = true → (c'.doing j = some d ↔ c.doing j = some d)) :
    Nearing t (post ++ [scene]) c' := by
  cases h with
  | running hown hnone hnobody =>
    exact .running (hstored.trans hown) (forall_snoc hnone hends) (nobody_of_iff hnobody hclear)
  | @closing s before after first j applied rest goal hlost hid hend hpost hjob hfirst honly
      hdoing =>
    have hpost' : post ++ [scene] = before ++ first :: (after ++ [scene]) := by simp [hpost]
    refine .closing (hstored.trans hlost) hid hend hpost' hjob hfirst ?_
      ((hclear j _ rfl).mpr hdoing)
    rw [← List.append_assoc]
    exact forall_snoc honly hends
  | @stranded s before after first hlost hid hend hpost hjob hfirst hnone hsilent hleft
      hnobody =>
    have hpost' : post ++ [scene] = before ++ first :: (after ++ [scene]) := by simp [hpost]
    obtain ⟨sc, hsc, hsc'⟩ := hleft
    refine .stranded (hstored.trans hlost) hid hend hpost' hjob hfirst hnone
      (forall_snoc hsilent fun hends' => ?_) ⟨sc, List.mem_append_left _ hsc, hsc'⟩
      (nobody_of_iff hnobody hclear)
    rw [hends] at hends'
    cases hends'

/-- A move that applies no snapshot leaves those alone that remove ids. -/
theorem Move.clearing_iff (h : Move admits c scene c') (happlied : scene.applied = none)
    (hleft : scene.left = false)
    (hjob : ∀ i d, scene.job = some i → c.doing i = some d → d.isClearing = false) (i : Job)
    (d : Call) (hclear : d.isClearing = true) : c'.doing i = some d ↔ c.doing i = some d := by
  constructor
  · intro hd
    rcases h.clearing_of hd hclear with hd | hsome
    · exact hd
    · rw [happlied] at hsome
      cases hsome
  · intro hd
    rcases h.clearing_keep hd hclear with hd' | hi | hleft'
    · exact hd'
    · rw [hjob i d hi hd] at hclear
      cases hclear
    · rw [hleft] at hleft'
      cases hleft'

/-- Nor does a job that ends without removing one. -/
theorem ended_clear {b : Core} (hdoing : b.doing = c.doing)
    (hj : (c.doing j).any Call.isClearing = false) (i : Job) (d : Call)
    (hclears : d.isClearing = true) : (b.ended j).doing i = some d ↔ c.doing i = some d := by
  rw [doing_ended, hdoing]
  constructor
  · exact fun hd => hd.2
  · intro hd
    refine ⟨?_, hd⟩
    rintro rfl
    rw [hd, Option.any_some, hclears] at hj
    cases hj

namespace Ongoing

/-- A scene that shows nothing. -/
theorem silent (h : Ongoing t post c) (hsilent : scene.IsSilent)
    (hlifecycle : c'.lifecycle = c.lifecycle) (hcurrent : c'.current = c.current)
    (hdisplay : c'.display = c.display) (hwarned : c'.warned = c.warned)
    (hshown : c'.shown = c.shown) (hnearing : Nearing t (post ++ [scene]) c') :
    Ongoing t (post ++ [scene]) c' where
  lifecycle := hlifecycle.trans h.lifecycle
  current := hcurrent.trans h.current
  shown := hshown ▸ h.shown
  follows := h.follows.silent hsilent
  below := by
    rw [plain_silent hsilent, hdisplay]
    exact h.below
  unwarned := by
    rw [plain_silent hsilent, hwarned]
    exact h.unwarned
  nearing := hnearing

/-- A move that applies no snapshot and shows nothing. -/
theorem silent_move (h : Ongoing t post c) (hmove : Move admits c scene c')
    (hsilent : scene.IsSilent) (happlied : scene.applied = none) (hleft : scene.left = false)
    (hjob : ∀ i d, scene.job = some i → c.doing i = some d → d.isClearing = false)
    (hlifecycle : c'.lifecycle = c.lifecycle) (hcurrent : c'.current = c.current)
    (hdisplay : c'.display = c.display) (hwarned : c'.warned = c.warned)
    (hshown : c'.shown = c.shown) (hstored : c'.stored = c.stored) :
    Ongoing t (post ++ [scene]) c' := by
  refine h.silent hsilent hlifecycle hcurrent hdisplay hwarned hshown
    (h.nearing.snoc ?_ hstored (hmove.clearing_iff happlied hleft hjob))
  rw [Scene.ends, happlied]
  rfl

/-- Only this task is tracked. -/
theorem task_eq (h : Ongoing t post c) (hsound : c.Sound φ) {x : String}
    (hx : φ.task = some x) : x = t := by
  have hcurrent := (hsound.looks.tracked x hx).2.1
  rw [h.current] at hcurrent
  cases hcurrent
  rfl

/-- While a snapshot is read the task's id is still stored, or the task is stranded. -/
theorem phase_of_reading (h : Ongoing t post c) (hsound : c.Sound φ) {s : Snapshot} {goal : Goal}
    (hdoing : c.doing j = some (.settling (.reading s) goal)) :
    φ = .tracking t ∨ φ = .stranded t := by
  obtain ⟨x, rfl | rfl | rfl⟩ := hsound.is_tracking h.lifecycle
  · exact .inl (congrArg _ (h.task_eq hsound rfl))
  · exact absurd rfl (hsound.not_closing hdoing rfl rfl x)
  · exact .inr (congrArg _ (h.task_eq hsound rfl))

/-! #### Moves -/

theorem warn (h : Ongoing t post c) {job : Option Job} {queue : List Delivery}
    (hfree : c.doing .worker = none) (hwarned : c.warned = false) :
    Ongoing t (post ++ [{ job, calls := [.notify .stalled] }])
      (({ c with queue, warned := true } : Core).ended .worker) := by
  have hfirst := h.unwarned hwarned
  have hplain : Scene.plain (post ++ [{ job, calls := [.notify .stalled] }]) =
      Scene.plain post ++ [.notify .stalled] := plain_snoc
  refine ⟨h.lifecycle, h.current, h.shown, h.follows.warned rfl rfl hfirst, ?_, nofun,
    h.nearing.snoc rfl rfl (ended_clear rfl (by rw [hfree]; rfl))⟩
  rw [hplain, List.filterMap_append, show [ViewCall.notify .stalled].filterMap
    ViewCall.percentage? = [] from rfl, List.append_nil]
  exact h.below

/-- The page is left, or the worker passes over what no longer concerns it, while it
    removes no id. -/
theorem dismiss (h : Ongoing t post c) {job : Option Job} {left : Bool} {queue : List Delivery}
    {locked : Bool} (hclear : (c.doing .worker).any Call.isClearing = false) :
    Ongoing t (post ++ [{ job := job, left := left }])
      (({ c with queue, locked } : Core).ended .worker) := by
  refine h.silent (.inl rfl) rfl rfl rfl rfl rfl (h.nearing.snoc rfl rfl ?_)
  exact ended_clear (b := { c with queue, locked }) rfl hclear

/-- The page is left while the worker removes the id. -/
theorem strand (h : Ongoing t post c) (hsound : c.Sound φ)
    {job : Option Job} {queue : List Delivery} {locked : Bool}
    (hclear : (c.doing .worker).any Call.isClearing = true) :
    Ongoing t (post ++ [{ job := job, left := true }])
      (({ c with queue, locked } : Core).ended .worker) := by
  have hworker : ∃ d, c.doing .worker = some d ∧ d.isClearing = true :=
    Option.any_eq_true .. |>.mp hclear
  obtain ⟨d, hd, hclears⟩ := hworker
  have hholds : (c.doing .worker).any Call.holds = true := by
    rw [hd]
    exact Call.holds_of_isClearing hclears
  -- Nobody but the worker can hold the lock.
  have hsame : ∀ i d', c.doing i = some d' → d'.isClearing = true → i = .worker := by
    intro i d' hd' hclears'
    by_contra hne
    have hother := hsound.lock.other hholds hne
    rw [hd', Option.any_some, Call.holds_of_isClearing hclears'] at hother
    cases hother
  have hnobody : ∀ i d', (({ c with queue, locked } : Core).ended .worker).doing i = some d' →
      d'.isClearing = false := by
    intro i d' hd'
    obtain ⟨hne, hd'⟩ := doing_ended.mp hd'
    rw [← Bool.not_eq_true]
    exact fun hclears' => hne (hsame i d' hd' hclears')
  refine h.silent (.inl rfl) rfl rfl rfl rfl rfl ?_
  cases h.nearing with
  | running _ _ hnone | stranded _ _ _ _ _ _ _ _ _ hnone =>
    rw [hnone .worker d hd] at hclears
    cases hclears
  | @closing s before after first j applied rest goal hlost hid hend hpost hjob hfirst honly
      hdoing =>
    have hpost' : post ++ [{ job := job, left := true }] =
        before ++ first :: (after ++ [{ job := job, left := true }]) := by simp [hpost]
    obtain rfl := hsame j _ hdoing rfl
    refine .stranded hlost hid hend hpost' hjob hfirst
      (fun sc hsc => honly sc (List.mem_append_left _ hsc)) ?_
      ⟨_, List.mem_append_right _ (List.mem_singleton_self _), rfl⟩ hnobody
    refine forall_snoc (fun sc hsc hends => ?_) fun _ => rfl
    rw [honly sc (List.mem_append_right _ hsc)] at hends
    cases hends

/-- Who reads removes no id. -/
theorem reads_clear {s : Snapshot} {goal : Goal}
    (hdoing : c.doing j = some (.settling (.reading s) goal)) :
    (c.doing j).any Call.isClearing = false := by
  rw [hdoing]
  rfl

/-- A snapshot of another task is ignored, as are all of a task that is stranded. -/
theorem pass (h : Ongoing t post c) (hcandid : c.Candid) (hsound : c.Sound φ) {s : Snapshot}
    {goal : Goal} {found : Option String}
    (hdoing : c.doing j = some (.settling (.reading s) goal))
    (hanswer : c.answer j = some (.value found))
    (hother : Store.Identity.taskId? found ≠ some s.id) :
    Ongoing t (post ++ [{ job := some j, applied := some s }]) (c.settled j goal) := by
  have hclear : ∀ i d, d.isClearing = true →
      ((c.settled j goal).doing i = some d ↔ c.doing i = some d) :=
    ended_clear rfl (reads_clear hdoing)
  refine h.silent (.inl rfl) rfl rfl rfl rfl rfl ?_
  rcases h.phase_of_reading hsound hdoing with rfl | rfl
  · obtain ⟨_, _, _, hread⟩ := hsound.fits j _ hdoing
    have hne : s.id ≠ t := by
      intro heq
      refine hother ((hread found hanswer (.inl (hcandid.plain_goal h.shown hdoing))).mpr ?_)
      rw [← heq]
      rfl
    exact h.nearing.snoc (by simp [Scene.ends, hne]) rfl hclear
  · cases h.nearing with
    | running hown =>
      rw [hsound.looks.stored] at hown
      cases hown
    | closing _ _ _ _ _ _ _ hi =>
      have hplain := hcandid.plain_goal h.shown hi
      obtain ⟨_, _, _, _, _, _, hclosing⟩ := hsound.fits _ _ hi
      cases hclosing hplain
    | @stranded s' before after first hlost hid hend hpost hjob hfirst hnone hsilent hleft
        hnobody =>
      obtain ⟨sc, hsc, hsc'⟩ := hleft
      have hpost' : post ++ [{ job := some j, applied := some s }] =
          before ++ first :: (after ++ [{ job := some j, applied := some s }]) := by simp [hpost]
      exact .stranded hlost hid hend hpost' hjob hfirst hnone
        (forall_snoc hsilent fun _ => rfl) ⟨sc, List.mem_append_left _ hsc, hsc'⟩
        (nobody_of_iff hnobody hclear)

/-- What counts as below the display stays so when the display follows a snapshot. -/
theorem below_following (h : Ongoing t post c) (hcandid : c.Candid) {s : Snapshot}
    (hsound : c.Sound (.tracking s.id)) :
    ∀ x ∈ (Scene.plain post).filterMap ViewCall.percentage?,
      x.le (c.display.following s).percentage := by
  intro x hx
  exact Binary64.le_trans (h.below x hx) (Display.percentage_le_following hcandid.percentage
    (hsound.looks.tracked s.id rfl).2.2.2)

theorem redraw (h : Ongoing t post c) (hcandid : c.Candid) (hsound : c.Sound φ) {s : Snapshot}
    {goal : Goal} {found : Option String}
    (hdoing : c.doing j = some (.settling (.reading s) goal))
    (hanswer : c.answer j = some (.value found))
    (hsame : Store.Identity.taskId? found = some s.id) (hrun : s.isTerminal = false) :
    Ongoing t (post ++ [{ job := some j, calls := [.updateProgress (c.display.following s)]
                          applied := some s }])
      ({ c with display := c.display.following s }.settled j goal) := by
  have hφ := hsound.tracking_of_read hdoing hanswer hsame (hcandid.plain_goal h.shown hdoing)
  subst hφ
  obtain rfl := h.task_eq hsound rfl
  have hbelow := h.below_following hcandid hsound
  have hpercentage : (c.display.following s).percentage.IsPercentage :=
    Display.following_isPercentage hcandid.percentage
  refine ⟨h.lifecycle, h.current, h.shown, h.follows.redrawn rfl rfl
    (Display.following_taskId c.display s) hpercentage hbelow, fun x hx => ?_, fun hwarned => ?_,
    h.nearing.snoc ?_ rfl (ended_clear rfl (reads_clear hdoing))⟩
  · rw [plain_snoc, List.filterMap_append] at hx
    rcases List.mem_append.mp hx with hx | hx
    · exact hbelow x hx
    · have hx' : x = (c.display.following s).percentage := by
        simpa [ViewCall.percentage?] using hx
      rw [hx']
      exact hpercentage.refl
  · rw [plain_snoc, List.filter_append, h.unwarned hwarned]
    rfl
  · simp [Scene.ends, hrun]

/-- The first terminal snapshot of the task has its id removed. -/
theorem close (h : Ongoing t post c) (hcandid : c.Candid) (hsound : c.Sound φ) {s : Snapshot}
    {goal : Goal} {found : Option String}
    (hdoing : c.doing j = some (.settling (.reading s) goal))
    (hanswer : c.answer j = some (.value found))
    (hsame : Store.Identity.taskId? found = some s.id) (hend : s.isTerminal = true) :
    Ongoing t (post ++ [{ job := some j, applied := some s }])
      (({ c with display := c.display.following s } : Core).wait j
        (.settling (.clearing s (c.display.apply s (some s.id)) s.lastEffects) goal)) := by
  have hφ := hsound.tracking_of_read hdoing hanswer hsame (hcandid.plain_goal h.shown hdoing)
  subst hφ
  have hnone : ∀ sc ∈ post, sc.ends t = false := by
    have hstored : c.stored = some s.id := hsound.looks.stored
    cases h.nearing with
    | running _ hnone => exact hnone
    | closing hlost | stranded hlost =>
      rw [hlost] at hstored
      cases hstored
  have hsilent : Scene.IsSilent { job := some j, applied := some s } := .inl rfl
  have hpost : post ++ [{ job := some j, applied := some s }] =
      post ++ { job := some j, applied := some s } :: [] := rfl
  refine ⟨h.lifecycle, h.current, h.shown, h.follows.silent hsilent, ?_, ?_,
    .closing rfl (h.task_eq hsound rfl) hend hpost rfl ⟨rfl, rfl⟩ (by simpa using hnone)
      (Function.update_self ..)⟩
  · rw [plain_silent hsilent]
    exact h.below_following hcandid hsound
  · rw [plain_silent hsilent]
    exact h.unwarned

/-- The task has ended by its first terminal snapshot. -/
theorem finish (h : Ongoing t post c) (hsound : c.Sound φ) {s : Snapshot}
    {applied : Applied} {rest : List Effect} {goal : Goal}
    (hdoing : c.doing j = some (.settling (.clearing s applied rest) goal)) :
    Ends t post { job := some j, calls := s.closing, applied := some s } := by
  cases h.nearing with
  | running _ _ hclear | stranded _ _ _ _ _ _ _ _ _ hclear => cases hclear j _ hdoing
  | @closing s' before after first i applied' rest' goal' _ hid hend hpost hjob hfirst honly hi =>
    have hholds : (c.doing j).any Call.holds = true := by rw [hdoing]; rfl
    have heq : i = j := by
      by_cases heq : i = j
      · exact heq
      · have hother := hsound.lock.other hholds heq
        rw [hi] at hother
        cases hother
    subst heq
    rw [hdoing] at hi
    cases hi
    exact .closed hid hend hpost hjob hfirst honly rfl rfl

/-- The page cancels the task. -/
theorem release (h : Ongoing t post c) (hsound : c.Sound φ) (hlocked : c.locked = false) :
    Ends t post { job := some j, calls := [.hideProgress] } := by
  cases h.nearing with
  | running _ hnone => exact .released hnone rfl rfl
  | @closing s before after first i applied rest goal _ _ _ _ _ _ _ hi =>
    have hholds : (c.doing i).any Call.holds = true := by rw [hi]; rfl
    rw [hsound.lock.eq_true hholds] at hlocked
    cases hlocked
  | stranded _ hid hend hpost hjob hfirst hnone hsilent hleft =>
    exact .abandoned hid hend hpost hjob hfirst hnone hsilent hleft rfl rfl

end Ongoing

/-! ### After the end -/

/-- The tracking of the task has ended in `post`. -/
structure Over (t : String) (post : List Scene) (c : Core) : Prop where
  shown : t ∈ c.shown
  past : c.lifecycle = .tracking → c.current ≠ some t
  split : ∃ body e rest, post = body ++ e :: rest ∧ Follows t body ∧ Ends t body e ∧
    Gone t rest ∧ ((∀ sc ∈ rest, sc.shows = false) → c.lifecycle ≠ .tracking)

theorem Gone.nil : Gone t [] := ⟨by simp, by simp, by simp⟩

namespace Over

/-- The scene that ends the task. -/
theorem begin {body : List Scene} (h : Ongoing t body c) (hends : Ends t body scene)
    (hlifecycle : c'.lifecycle = .idle) (hshown : c'.shown = c.shown) :
    Over t (body ++ [scene]) c' := by
  have hidle : c'.lifecycle ≠ .tracking := by
    rw [hlifecycle]
    nofun
  exact ⟨hshown ▸ h.shown, fun htracking => absurd htracking hidle,
    body, scene, [], rfl, h.follows, hends, Gone.nil, fun _ => hidle⟩

/-- A scene after the end. -/
theorem snoc (h : Over t post c) (hshown : t ∈ c'.shown)
    (hpast : c'.lifecycle = .tracking → c'.current ≠ some t)
    (hsilent : scene.applied.any (fun s => s.id = t) = true → scene.calls = [])
    (hunshown : ViewCall.showProgress t ∉ scene.calls)
    (hidle : c.lifecycle ≠ .tracking → scene.shows = false → c'.lifecycle ≠ .tracking ∧
      ∀ call ∈ scene.calls, scene.aside = true ∧ call.isNotice = true ∨
        ∃ cause, call = .notify (.notStarted cause)) : Over t (post ++ [scene]) c' := by
  obtain ⟨body, e, rest, rfl, hfollows, hends, hgone, huntracked⟩ := h.split
  refine ⟨hshown, hpast, body, e, rest ++ [scene], by simp, hfollows, hends,
    ⟨fun sc hsc => ?_, fun sc hsc => ?_, fun before sc after hsplit hnone => ?_⟩, fun hnone => ?_⟩
  · rcases List.mem_append.mp hsc with hsc | hsc
    · exact hgone.silent sc hsc
    · rw [List.mem_singleton.mp hsc]
      exact hsilent
  · rcases List.mem_append.mp hsc with hsc | hsc
    · exact hgone.unshown sc hsc
    · rw [List.mem_singleton.mp hsc]
      exact hunshown
  · rcases split_snoc hsplit with ⟨after', _, hrest⟩ | ⟨_, rfl, hrest⟩
    · exact hgone.idle before sc after' hrest hnone
    · have hbefore : ∀ sc' ∈ rest, sc'.shows = false := by
        intro sc' hsc'
        rw [hrest] at hsc'
        exact hnone sc' (List.mem_append_left _ hsc')
      exact (hidle (huntracked hbefore) (hnone sc (by simp))).2
  · have hrest : ∀ sc' ∈ rest, sc'.shows = false := fun sc' hsc' =>
      hnone sc' (List.mem_append_left _ hsc')
    exact (hidle (huntracked hrest) (hnone scene (by simp))).1

/-- A scene that shows nothing, and begins no tracking. -/
theorem silent (h : Over t post c) (hcalls : scene.calls = []) (hshown : c'.shown = c.shown)
    (htracking : c'.lifecycle = .tracking → c.lifecycle = .tracking ∧ c'.current = c.current) :
    Over t (post ++ [scene]) c' := by
  refine h.snoc (hshown ▸ h.shown) (fun ht => ?_) (fun _ => hcalls) (by simp [hcalls])
    fun huntracked _ => ⟨fun ht => huntracked (htracking ht).1, by simp [hcalls]⟩
  obtain ⟨ht, hcurrent⟩ := htracking ht
  rw [hcurrent]
  exact h.past ht

/-- Nothing of an earlier page is left. -/
theorem not_fetching (h : Over t post c) (hsolo : c.Solo) (hsound : c.Sound φ) (x : String) :
    c.doing j ≠ some (.fetching x) := by
  intro hd
  have hmem := h.shown
  rw [hsolo.shown_of_fetching hsound hd] at hmem
  cases hmem

/-- A tracker without a task has no current one. -/
theorem current_none (h : Over t post c) (hsolo : c.Solo) (hcandid : c.Candid)
    (huntracked : c.lifecycle ≠ .tracking) : c.current = none := by
  rcases hsolo.vacant huntracked with hnone | ⟨i, d, hd, hfin⟩
  · exact hnone
  · have hmem := h.shown
    rw [hcandid.finished i d hd hfin] at hmem
    cases hmem

/-- What is shown of another task that is tracked. -/
theorem other (h : Over t post c) {x : String} {s : Snapshot}
    (htracked : c.lifecycle = .tracking ∧ c.current = some x ∧ c.active = some x ∧
      c.display.taskId = some x) (hshown : t ∈ c'.shown)
    (hpast : c'.lifecycle = .tracking → c'.current ≠ some t) (happlied : scene.applied = some s)
    (hid : s.id = x) (hunshown : ViewCall.showProgress t ∉ scene.calls) :
    Over t (post ++ [scene]) c' := by
  refine h.snoc hshown hpast (fun hsame => ?_) hunshown
    fun huntracked => absurd htracked.1 huntracked
  rw [happlied] at hsame
  have heq : s.id = t := by simpa using hsame
  have hcurrent := htracked.2.1
  rw [← hid, heq] at hcurrent
  exact absurd hcurrent (h.past htracked.1)

/-- Whatever happens after the end adds nothing to the story. -/
theorem move (h : Over t post c) (hcandid : c.Candid) (hsolo : c.Solo) (hsound : c.Sound φ)
    (hmove : Move admits c scene c') : Over t (post ++ [scene]) c' := by
  cases hmove with
  | take | apply | lock => exact h.silent rfl (settle_shown ..) (by simp)
  | @warn x n rest hqueue hfree hcurrent hwarned =>
    refine h.snoc h.shown h.past nofun (by simp) fun huntracked _ => ?_
    rw [h.current_none hsolo hcandid huntracked] at hcurrent
    cases hcurrent
  -- A snapshot that is shown is now one of the task that is tracked, which is another one.
  | @redraw j s goal found hdoing hanswer hsame hrun =>
    have hφ := hsound.tracking_of_read hdoing hanswer hsame (hcandid.plain_goal h.shown hdoing)
    subst hφ
    exact h.other (hsound.looks.tracked s.id rfl) h.shown h.past rfl rfl (by simp)
  | @finish j s applied rest goal hdoing =>
    obtain ⟨_, _, _, _, _, _, hclosing⟩ := hsound.fits j _ hdoing
    have hφ := hclosing (hcandid.plain_goal h.shown hdoing)
    subst hφ
    refine h.other (hsound.looks.tracked s.id rfl) h.shown nofun rfl rfl ?_
    unfold Snapshot.closing
    split <;> simp
  | create hdoing hidle => exact h.silent rfl rfl nofun
  | refuse hdoing =>
    refine h.snoc h.shown nofun nofun (by simp) fun _ _ => ⟨nofun, fun call hcall => ?_⟩
    exact .inr ⟨_, List.mem_singleton.mp hcall⟩
  | found hdoing | load hdoing | nothing hdoing => exact h.silent rfl rfl fun ht => ⟨ht, rfl⟩
  | forget hdoing => exact absurd hdoing (h.not_fetching hsolo hsound _)
  | conclude hdoing => exact absurd hdoing (h.not_fetching hsolo hsound _)
  | resume hdoing => exact absurd hdoing (h.not_fetching hsolo hsound _)
  | @track j x hdoing =>
    have hne : x ≠ t := by
      rintro rfl
      exact hcandid.saved j x hdoing h.shown
    refine h.snoc (List.mem_append_left _ h.shown) (fun _ => ?_) nofun ?_ fun _ hshows => ?_
    · rintro ⟨⟩
      exact hne rfl
    · simp [Ne.symm hne]
    · cases hshows
  | @release j x hdoing hlocked htracking hcurrent =>
    exact h.snoc h.shown nofun nofun (by simp) fun huntracked => absurd htracking huntracked
  | @withdraw j d calls hdoing hd hcalls =>
    refine h.snoc h.shown h.past nofun (fun hmem => ?_) fun huntracked _ => ⟨huntracked, ?_⟩
    · obtain ⟨notice, heq⟩ := hcalls _ hmem
      cases heq
    · intro call hcall
      obtain ⟨notice, rfl⟩ := hcalls call hcall
      exact .inl ⟨rfl, rfl⟩
  | _ => exact h.silent rfl rfl fun ht => ⟨ht, rfl⟩

end Over

/-! ### The whole story -/

/-- A tracked task goes on to be tracked, or its story ends. -/
theorem Ongoing.move (h : Ongoing t post c) (hcandid : c.Candid) (hsolo : c.Solo)
    (hsound : c.Sound φ) (hmove : Move admits c scene c') :
    Ongoing t (post ++ [scene]) c' ∨ Over t (post ++ [scene]) c' := by
  -- While the task is tracked no start and no resume of another one gets on.
  have hbusy : c.lifecycle ≠ .idle := by
    rw [h.lifecycle]
    nofun
  have hstarted : ∀ j d, c.doing j = some d → d.starts = false := by
    intro j d hd
    cases hstarts : d.starts with
    | false => rfl
    | true =>
      have hcreating := hsound.is_creating hd hstarts
      rw [h.lifecycle] at hcreating
      cases hcreating
  have hmove' := hmove
  cases hmove with
  | deliver hjob _ =>
    exact .inl (h.silent_move hmove' (.inl rfl) rfl rfl (fun i d hi hd => by
      rw [hjob i hi] at hd; cases hd) rfl rfl rfl rfl rfl rfl)
  | call _ _ _ =>
    exact .inl (h.silent_move hmove' (.inl rfl) rfl rfl (by rintro i d ⟨⟩) rfl rfl rfl rfl rfl rfl)
  | @dismiss job left rest _ _ _ hleft =>
    cases hclear : (c.doing .worker).any Call.isClearing with
    | false => exact .inl (h.dismiss hclear)
    | true =>
      obtain ⟨d, hd, hclears⟩ := Option.any_eq_true .. |>.mp hclear
      obtain rfl := hleft d hd hclears
      exact .inl (h.strand hsound hclear)
  | warn _ hfree _ hwarned => exact .inl (h.warn hfree hwarned)
  | take _ hfree =>
    refine .inl (h.silent_move hmove' (.inl rfl) rfl rfl ?_ (by simp) (by simp) (by simp)
      (by simp) (by simp) (by simp [stored]))
    rintro i d ⟨⟩ hd
    rw [hfree] at hd
    cases hd
  | apply hdoing | lock hdoing _ =>
    refine .inl (h.silent_move hmove' (.inl rfl) rfl rfl ?_ (by simp) (by simp) (by simp)
      (by simp) (by simp) (by simp [stored]))
    rintro i d ⟨⟩ hd
    rw [hdoing] at hd
    cases hd
    rfl
  | pass hdoing hanswer hother => exact .inl (h.pass hcandid hsound hdoing hanswer hother)
  | redraw hdoing hanswer hsame hrun =>
    exact .inl (h.redraw hcandid hsound hdoing hanswer hsame hrun)
  | close hdoing hanswer hsame hend => exact .inl (h.close hcandid hsound hdoing hanswer hsame hend)
  -- Two moves end the story: the last effects of a terminal snapshot, and a cancel.
  | finish hdoing => exact .inr (Over.begin h (h.finish hsound hdoing) rfl rfl)
  | release hdoing hlocked _ _ => exact .inr (Over.begin h (h.release hsound hlocked) rfl rfl)
  | drop hdoing hnew =>
    refine .inl (h.silent_move hmove' (.inl rfl) rfl rfl ?_ rfl rfl rfl rfl rfl rfl)
    rintro i d ⟨⟩ hd
    rw [hdoing] at hd
    cases hd
    exact (Sound.isNew_spec hnew).2.2.2.2
  | stale hdoing | erase hdoing =>
    refine .inl (h.silent_move hmove' (.inl rfl) rfl rfl ?_ rfl rfl rfl rfl rfl rfl)
    rintro i d ⟨⟩ hd
    rw [hdoing] at hd
    cases hd
    rfl
  | withdraw hdoing hd hcalls =>
    refine .inl (h.silent_move hmove' (.inr ⟨rfl, fun call hcall => ?_⟩) rfl rfl ?_
      rfl rfl rfl rfl rfl rfl)
    · obtain ⟨notice, rfl⟩ := hcalls call hcall
      rfl
    · rintro i d ⟨⟩ hd'
      rw [hdoing] at hd'
      cases hd'
      exact Call.isClearing_of_isWithdrawing hd
  -- The others need an idle tracker, or a start under way.
  | load _ _ hidle | create _ hidle => exact absurd hidle hbusy
  | found hdoing _ _ | nothing hdoing _ _ => exact absurd (hsolo.attends _ _ hdoing).1 hbusy
  | forget hdoing | conclude hdoing _ | resume hdoing _ =>
    exact absurd ((hsolo.attends _ _ hdoing).idle rfl) hbusy
  | save hdoing _ | refuse hdoing | track hdoing => cases hstarted _ _ hdoing

/-- Nobody removes an id for a snapshot while a start stores one. -/
theorem not_clearing_of_saving (hsolo : c.Solo) (hsound : c.Sound φ) {x : String}
    (hdoing : c.doing j = some (.saving x)) {d : Call} (hd : c.doing i = some d) :
    d.isClearing = false := by
  cases hclears : d.isClearing with
  | false => rfl
  | true =>
    have hφ : φ = .saving x := hsound.fits j _ hdoing
    subst hφ
    obtain ⟨s, applied, rest, goal, rfl⟩ := Call.isClearing_spec hclears
    obtain ⟨_, _, _, _, _, _, hclosing⟩ := hsound.fits i _ hd
    cases hfin : goal.isFinishing with
    | false => cases hclosing hfin
    | true =>
      have hresumes : Call.resumes (.settling (.clearing s applied rest) goal) = true :=
        Call.resumes_of_isFinishing hfin
      have hne : j ≠ i := by
        rintro rfl
        rw [hdoing] at hd
        cases hd
      cases hsolo.alone i _ hd hresumes j _ hne hdoing

/-- A story begins with the scene that shows its task. -/
theorem ongoing_of_shown (hsolo : c.Solo) (hsound : c.Sound φ) (hmove : Move admits c scene c')
    (hshows : .showProgress t ∈ scene.calls) :
    scene.calls = [.showProgress t] ∧ Ongoing t [] c' := by
  cases hmove with
  | @track j x hdoing =>
    cases List.mem_singleton.mp hshows
    refine ⟨rfl, rfl, rfl, List.mem_append_right _ (List.mem_singleton_self _), Follows.nil,
      by simp [Scene.plain], fun _ => rfl, .running ?_ (by simp) fun i d hd => ?_⟩
    · obtain rfl : φ = .saving t := hsound.fits j _ hdoing
      exact hsound.looks.stored
    -- Nobody is about to end the task that has just begun.
    rw [doing_ended] at hd
    exact not_clearing_of_saving hsolo hsound hdoing hd.2
  | @resume j s hdoing hrun =>
    cases List.mem_singleton.mp hshows
    have hφ := hsound.waits (hsolo.attends j _ hdoing)
    subst hφ
    refine ⟨rfl, by simp [begin], by simp [begin], by simp [begin], Follows.nil,
      by simp [Scene.plain], fun _ => rfl, .running ?_ (by simp) fun i d hd => ?_⟩
    · rw [stored, settle_found]
      exact hsound.looks.stored
    rcases doing_settle hd with ⟨_, rfl | rfl⟩ | ⟨_, hd⟩
    · rfl
    · rfl
    · cases hclears : d.isClearing with
      | false => rfl
      | true =>
        obtain ⟨s, applied, rest, goal, rfl⟩ := Call.isClearing_spec hclears
        obtain ⟨_, _, hawake, _⟩ := hsound.fits i _ hd
        cases hawake
  | warn | redraw | refuse | release => simp at hshows
  | finish hdoing =>
    simp only [Snapshot.closing] at hshows
    split at hshows <;> simp at hshows
  | withdraw _ _ hcalls =>
    obtain ⟨notice, heq⟩ := hcalls _ hshows
    cases heq
  | _ => cases hshows

/-! ### Before a task is shown -/

/-- A snapshot is applied by a job that has it. -/
theorem Move.applied_of {x : Snapshot} (h : Move admits c scene c')
    (happlied : scene.applied = some x) :
    ∃ j stage goal, scene.job = some j ∧ c.doing j = some (.settling stage goal) ∧
      stage.snapshot = x := by
  cases h with
  | pass hdoing | redraw hdoing | close hdoing | finish hdoing =>
    cases happlied
    exact ⟨_, _, _, rfl, hdoing, rfl⟩
  | _ => cases happlied

/-- Nothing is shown of what is applied while an earlier page's task is dormant. -/
theorem Sound.silent_of_dormant {x : String} (h : c.Sound (.dormant x))
    (hmove : Move admits c scene c') (happlied : scene.applied ≠ none) : scene.calls = [] := by
  cases hmove with
  | pass | close => rfl
  | @redraw j s goal found hdoing hanswer hsame hrun =>
    obtain ⟨_, hgoal, _⟩ := h.fits j _ hdoing
    cases goal with
    | finished taskId status =>
      rw [show s.isTerminal = true from (hgoal taskId status rfl).2] at hrun
      cases hrun
    | _ => cases h.tracking_of_read hdoing hanswer hsame rfl
  | finish hdoing =>
    obtain ⟨_, _, hawake, _⟩ := h.fits _ _ hdoing
    cases hawake
  | _ => exact absurd rfl happlied

/-- **Invariant.** Nothing was shown of snapshots while an earlier page's task is
    dormant, and none of the task was applied whose id is being stored. -/
structure Unseen (φ : Phase) (scenes : List Scene) : Prop where
  dormant : ∀ x, φ = .dormant x → ∀ sc ∈ scenes, sc.applied ≠ none → sc.calls = []
  saving : ∀ x, φ = .saving x → ∀ sc ∈ scenes, ∀ y ∈ sc.applied, y.id ≠ x

theorem Unseen.leads {ψ : Phase} {scenes : List Scene} (h : Unseen φ scenes) (hsound : c.Sound φ)
    (hmove : Move admits c scene c') (hleads : c.Leads φ scene c' ψ)
    (hnovel : ∀ j params x, scene.job = some j → c.doing j = some (.creating params) →
      c'.doing j = some (.saving x) → ∀ sc ∈ scenes, ∀ y ∈ sc.applied, y.id ≠ x) :
    Unseen ψ (scenes ++ [scene]) := by
  constructor
  · rintro x rfl
    obtain rfl := hleads.dormant rfl
    exact forall_snoc (h.dormant x rfl) (hsound.silent_of_dormant hmove)
  · rintro x rfl
    rcases hleads.saving x rfl with rfl | ⟨j, params, hjob, hdoing, hsaves⟩
    · refine forall_snoc (h.saving x rfl) fun y hy => ?_
      obtain ⟨i, stage, goal, _, hi, rfl⟩ := hmove.applied_of hy
      obtain ⟨hne, _⟩ := hsound.fits i _ hi
      rintro rfl
      exact hne rfl
    · -- the start that stores the new id applies nothing
      refine forall_snoc (hnovel j params x hjob hdoing hsaves) fun y hy => ?_
      obtain ⟨i, stage, goal, hi, hdoing', _⟩ := hmove.applied_of hy
      cases hjob.symm.trans hi
      cases hdoing.symm.trans hdoing'

/-- A task that begins to be shown was not seen of before. -/
theorem Unseen.of_shown {scenes : List Scene} (h : Unseen φ scenes) (hsolo : c.Solo)
    (hsound : c.Sound φ) (hmove : Move admits c scene c')
    (hshows : .showProgress t ∈ scene.calls) :
    ∀ sc ∈ scenes, sc.applied.any (fun s => s.id = t) = true → sc.calls = [] := by
  intro sc hsc happlied
  obtain ⟨s, hs, hid⟩ := Option.any_eq_true .. |>.mp happlied
  cases hmove with
  | @track j x hdoing =>
    cases List.mem_singleton.mp hshows
    exact absurd (of_decide_eq_true hid) (h.saving t (hsound.fits j _ hdoing) sc hsc s hs)
  | @resume j x hdoing hrun =>
    refine h.dormant _ (hsound.waits (hsolo.attends j _ hdoing)) sc hsc ?_
    rw [hs]
    nofun
  | warn | redraw | refuse | release => simp at hshows
  | finish hdoing =>
    simp only [Snapshot.closing] at hshows
    split at hshows <;> simp at hshows
  | withdraw _ _ hcalls =>
    obtain ⟨notice, heq⟩ := hcalls _ hshows
    cases heq
  | _ => cases hshows

end Core

namespace Session

/-- A start stores the id that the server has created. -/
theorem eq_created_of_saving {s s' : Session} {e : Event} {j : Job} {params : Json.Value}
    {x : String} (hjob : e.job? = some j) (hdoing : s.doing j = some (.creating params))
    (hsaves : s'.doing j = some (.saving x)) (hstep : s.step e = some s') :
    e = .answered j (.created (.ok x)) := by
  obtain ⟨k, rfl⟩ := eq_call_of_doing hdoing (by rintro _ ⟨⟩)
  obtain ⟨t, calls, turn, htakes, hturned⟩ := turned_of_step hdoing hjob hstep
  rw [hturned.doing, Function.update_self] at hsaves
  obtain ⟨reply, hbrings, hturn⟩ := htakes.callTurn
  cases hturn with
  | save =>
    cases hsaves
    cases hbrings
    rfl
  | _ => cases hsaves

/-- **Invariant.** The session's resumes are alone, and the story of every task that
    was shown has gone on by the law. -/
structure Telling (s : Session) : Prop where
  lone : s.Lone
  candid : s.core.Candid
  unseen : ∃ φ, s.core.Sound φ ∧ Core.Unseen φ s.scenes
  told : ∀ before sc post t, s.scenes = before ++ sc :: post → .showProgress t ∈ sc.calls →
    (∀ sc' ∈ before, sc'.applied.any (fun x => x.id = t) = true → sc'.calls = []) ∧
      sc.calls = [.showProgress t] ∧ (Core.Ongoing t post s.core ∨ Core.Over t post s.core)

theorem telling_opened {config : Config} {t : Tracker} (h : Tracker.ofConfig config = .ok t)
    (entries : Store.Entries) : (opened t entries).Telling := by
  have hnone : ∀ j d, (opened t entries).core.doing j ≠ some d := by
    intro j d hd
    rw [show (opened t entries).core.doing j = none from doing_opened h j] at hd
    cases hd
  obtain ⟨φ, hφ, _⟩ := phase_opened h entries
  refine ⟨lone_opened h entries, ⟨fun j x hd => absurd hd (hnone j _),
    fun j d hd => absurd hd (hnone j d), ?_⟩, ⟨φ, hφ, fun x _ sc hsc => ?_, fun x _ sc hsc => ?_⟩,
    fun before sc post t hsplit => ?_⟩
  · unfold Tracker.ofConfig at h
    split at h
    · cases h
    · cases h
      exact Binary64.zero_isPercentage
  · cases hsc
  · cases hsc
  · have hnil : [] = before ++ sc :: post := hsplit
    simp at hnil

theorem Telling.step {s s' : Session} {e : Event} (h : s.Telling) (hapart : s.Apart e)
    (hnovel : s.Novel e) (hstep : s.step e = some s') : s'.Telling := by
  obtain ⟨φ, hφ, hunseen⟩ := h.unseen
  obtain ⟨scene, hmoves⟩ := h.lone.moves hapart hstep
  have hjob := (hmoves.scene_eq hstep).1
  obtain ⟨ψ, hleads⟩ :=
    Core.sound_move (fun _ _ hadm => hadm.1) hφ hmoves.move (h.lone.solo.heeds _)
  have hunseen' := hunseen.leads hφ hmoves.move hleads fun j params x hj hd hd' => by
    have he := eq_created_of_saving (hjob ▸ hj) hd hd' hstep
    subst he
    exact hnovel
  refine ⟨h.lone.step hapart hstep, Core.candid_move h.candid h.lone.solo hφ hmoves.move,
    ⟨ψ, hleads.sound, hmoves.scenes ▸ hunseen'⟩, fun before sc post t hsplit hshows => ?_⟩
  rw [hmoves.scenes] at hsplit
  rcases split_snoc hsplit with ⟨post', rfl, hsplit'⟩ | ⟨rfl, rfl, rfl⟩
  · -- a story that has begun before
    obtain ⟨hbefore, hcalls, hongoing | hover⟩ := h.told before sc post' t hsplit' hshows
    · exact ⟨hbefore, hcalls, hongoing.move h.candid h.lone.solo hφ hmoves.move⟩
    · exact ⟨hbefore, hcalls, .inr (hover.move h.candid h.lone.solo hφ hmoves.move)⟩
  · obtain ⟨hcalls, hongoing⟩ := Core.ongoing_of_shown h.lone.solo hφ hmoves.move hshows
    exact ⟨hunseen.of_shown h.lone.solo hφ hmoves.move hshows, hcalls, .inl hongoing⟩

theorem telling_of_reaches {config : Config} {t : Tracker}
    (hconfig : Tracker.ofConfig config = .ok t) {entries : Store.Entries} {s : Session}
    (h : Reaches (fun s e => s.Apart e ∧ s.Novel e) (opened t entries) s) : s.Telling := by
  induction h with
  | refl => exact telling_opened hconfig entries
  | step e _ hallowed hstep ih => exact ih.step hallowed.1 hallowed.2 hstep

/-- **The story of a task.** Whatever the order of events, if no enter or resume
    overlaps another call and what is applied is due, nothing is shown of a new
    task's snapshots before the task is, the scene that shows it shows nothing else,
    and the scenes after it tell its story by the law. -/
theorem told_of_reaches {config : Config} {t : Tracker}
    (hconfig : Tracker.ofConfig config = .ok t) {entries : Store.Entries} {s : Session}
    (hrun : Reaches (fun s e => s.Apart e ∧ s.Novel e) (opened t entries) s)
    {before post : List Scene} {sc : Scene} {taskId : String}
    (hscenes : s.scenes = before ++ sc :: post) (hshows : .showProgress taskId ∈ sc.calls) :
    (∀ sc' ∈ before, sc'.applied.any (fun x => x.id = taskId) = true → sc'.calls = []) ∧
      sc.calls = [.showProgress taskId] ∧
        Told taskId post
          (s.tracker.lifecycle = .tracking ∧ s.tracker.current = some taskId) := by
  have htelling := telling_of_reaches hconfig hrun
  obtain ⟨hbefore, hcalls, hstory⟩ := htelling.told before sc post taskId hscenes hshows
  refine ⟨hbefore, hcalls, ?_⟩
  rcases hstory with hongoing | hover
  · exact .ongoing ⟨hongoing.lifecycle, hongoing.current⟩ hongoing.follows
  · obtain ⟨body, e, rest, hpost, hfollows, hends, hgone, _⟩ := hover.split
    have hpast : ¬ (s.tracker.lifecycle = .tracking ∧ s.tracker.current = some taskId) :=
      fun htracked => hover.past htracked.1 htracked.2
    exact .over hpast hpost hfollows hends hgone

/-- The page goes on to poll the new task, whose end is applied twice. -/
def finished : List Event :=
  restarted ++
    [.elapsed 2000, .turn (.loop 0), .turn (.request 0),
      .answered (.request 0) (.status (.ok { id := "new", status := .completed })),
      .turn .worker, .stored .worker, .stored .worker,
      .called 2 (.applying { id := "new", status := .completed }), .turn (.call 2),
      .stored (.call 2)]

theorem mem_of_shown {calls : List ViewCall} {taskId : String}
    (h : taskId ∈ calls.filterMap ViewCall.shown?) : .showProgress taskId ∈ calls := by
  obtain ⟨call, hcall, hshown⟩ := List.mem_filterMap.mp h
  cases call with
  | showProgress =>
    cases hshown
    exact hcall
  | _ => cases hshown

/-- The story of that task is told by the law. -/
theorem told_finished : ∃ s before sc post,
    play (fun s e => s.Apart e ∧ s.Novel e) finished (polling "old") = some s ∧
      s.scenes = before ++ sc :: post ∧ sc.calls = [.showProgress "new"] ∧
        Told "new" post (s.tracker.lifecycle = .tracking ∧ s.tracker.current = some "new") := by
  have hplayed : (play (fun s e => s.Apart e ∧ s.Novel e) finished (polling "old")).any fun s =>
      decide ("new" ∈ s.shown) := by decide
  obtain ⟨s, hs, hholds⟩ := (Option.any_eq_true ..).mp hplayed
  obtain ⟨sc, hsc, hshown⟩ := List.mem_flatMap.mp (of_decide_eq_true hholds)
  obtain ⟨before, post, hscenes⟩ := List.append_of_mem hsc
  have hconfig : Tracker.ofConfig pollingPage = .ok (polling "old").tracker := rfl
  obtain ⟨_, hcalls, htold⟩ :=
    told_of_reaches hconfig (reaches_of_play hs) hscenes (mem_of_shown hshown)
  exact ⟨s, before, sc, post, hs, hscenes, hcalls, htold⟩

/-- A page that is left while a task ends shows nothing of that, and a cancel ends it. -/
example :
    (play (fun s e => s.Apart e ∧ s.Novel e)
        (deserted ++ [.called 2 .cancelling, .turn (.call 2), .stored (.call 2)])
        (polling "old")).map (fun s => s.scenes.flatMap Scene.calls) =
      some [.showProgress "new", .hideProgress] := by rfl

/-- The page that has seen the end of its old task before it resumes that cancels it. -/
def recanted : List Event :=
  revived ++
    [.called 2 .cancelling, .turn (.call 2), .stored (.call 2),
      .answered (.call 2) (.cancelled (.ok true))]

/-- Both ends of that task are shown, and its progress in between. -/
theorem not_told_recanted : ∃ s before sc post,
    play (fun s e => s.Fair e ∧ s.Alone e ∧ s.Novel e) recanted (polling "old") = some s ∧
      s.scenes.flatMap Scene.calls =
        [.hideProgress, .renderResult "old" .null, .notify .completed, .showProgress "old",
          .hideProgress, .notify .cancelled] ∧
      s.scenes = before ++ sc :: post ∧ .showProgress "old" ∈ sc.calls ∧
        ¬ ∀ sc' ∈ before, sc'.applied.any (fun x => x.id = "old") = true → sc'.calls = [] := by
  -- The seventh scene shows the end of the task, and the eighth one its progress.
  have hplayed : (play (fun s e => s.Fair e ∧ s.Alone e ∧ s.Novel e) recanted
      (polling "old")).any fun s =>
      (s.scenes.drop 7).head?.any (fun sc => decide ("old" ∈ sc.calls.filterMap ViewCall.shown?)) &&
        (s.scenes.take 7).any fun sc =>
          sc.applied.any (fun x => x.id = "old") && !sc.calls.isEmpty := by
    decide
  have htrace : (play (fun s e => s.Fair e ∧ s.Alone e ∧ s.Novel e) recanted
      (polling "old")).map (fun s => s.scenes.flatMap Scene.calls) =
        some [.hideProgress, .renderResult "old" .null, .notify .completed, .showProgress "old",
          .hideProgress, .notify .cancelled] := by rfl
  obtain ⟨s, hs, hholds⟩ := (Option.any_eq_true ..).mp hplayed
  rw [hs] at htrace
  obtain ⟨hshows, hseen⟩ := Bool.and_eq_true .. |>.mp hholds
  obtain ⟨sc, hsc, hshown⟩ := (Option.any_eq_true ..).mp hshows
  obtain ⟨sc', hsc', hseen'⟩ := List.any_eq_true.mp hseen
  obtain ⟨happlied, hcalls⟩ := Bool.and_eq_true .. |>.mp hseen'
  obtain ⟨post, hpost⟩ := List.head?_eq_some_iff.mp hsc
  have hscenes : s.scenes = s.scenes.take 7 ++ sc :: post := by
    rw [← hpost, List.take_append_drop]
  refine ⟨s, _, sc, post, hs, Option.some.inj htrace, hscenes,
    mem_of_shown (of_decide_eq_true hshown), fun hlaw => ?_⟩
  rw [hlaw sc' hsc' happlied] at hcalls
  cases hcalls

end Session

end TaskTracking
