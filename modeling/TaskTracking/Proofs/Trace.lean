import TaskTracking.Proofs.Core

/-! # What the user sees of a task

  The law of the view calls: the progress of a task is shown once, and redrawn
  with percentages that never fall. Its end is shown by one block of calls, for
  its first terminal snapshot or as the page cancels it, and nothing more is seen
  of it. A page that is left while a terminal snapshot is applied shows nothing of
  it, so that it is for a cancel to show the end.
-/

namespace TaskTracking

/-! ### The law -/

namespace ViewCall

/-- The percentage of a redrawn progress area. -/
def percentage? : ViewCall → Option Binary64
  | .updateProgress d => some d.percentage
  | _ => none

def isNotice : ViewCall → Bool
  | .notify _ => true
  | _ => false

end ViewCall

namespace Scene

/-- Whether a terminal snapshot of the task was being applied. -/
def ends (sc : Scene) (taskId : String) : Bool :=
  sc.applied.any fun s => s.id = taskId && s.isTerminal

/-- Whether the progress of a task begins to be shown. -/
def shows (sc : Scene) : Bool := sc.calls.any fun call => call.shown?.isSome

/-- The view calls of scenes, but for those that answer a cancel request. -/
def plain (scenes : List Scene) : List ViewCall :=
  scenes.flatMap fun sc => if sc.aside then [] else sc.calls

end Scene

/-- What is shown of a task while it is tracked: its own progress, which never
    falls, and at most one warning. -/
structure Follows (taskId : String) (body : List Scene) : Prop where
  own : ∀ call ∈ Scene.plain body, call = .notify .stalled ∨ ∃ d, call = .updateProgress d ∧
    d.taskId = some taskId ∧ d.percentage.IsPercentage
  rising : ((Scene.plain body).filterMap ViewCall.percentage?).Pairwise fun x y => x.le y
  once : ((Scene.plain body).filter ViewCall.isNotice).length ≤ 1
  asides : ∀ sc ∈ body, sc.aside = true → ∀ call ∈ sc.calls, call.isNotice = true

/-- How the tracking of a task ends after what was shown of it. -/
inductive Ends (taskId : String) (body : List Scene) (e : Scene) : Prop where
  /-- The first terminal snapshot of the task is applied: its id is removed, and
      then the user is told. -/
  | closed {s : Snapshot} {before after : List Scene} {first : Scene} (hid : s.id = taskId)
      (hend : s.isTerminal = true) (hbody : body = before ++ first :: after)
      (hjob : first.job = e.job) (hfirst : first.applied = some s ∧ first.calls = [])
      (honly : ∀ sc ∈ before ++ after, sc.ends taskId = false) (happlied : e.applied = some s)
      (hcalls : e.calls = s.closing)
  /-- The page cancels the task, of which no terminal snapshot was applied. -/
  | released (hnone : ∀ sc ∈ body, sc.ends taskId = false) (happlied : e.applied = none)
      (hcalls : e.calls = [.hideProgress])
  /-- The page cancels the task after it was left while the worker applied the first
      terminal snapshot. Nothing was shown of that, or of those that came later. -/
  | abandoned {s : Snapshot} {before after : List Scene} {first : Scene} (hid : s.id = taskId)
      (hend : s.isTerminal = true) (hbody : body = before ++ first :: after)
      (hjob : first.job = some .worker) (hfirst : first.applied = some s ∧ first.calls = [])
      (hnone : ∀ sc ∈ before, sc.ends taskId = false)
      (hsilent : ∀ sc ∈ after, sc.ends taskId = true → sc.calls = [])
      (hleft : ∃ sc ∈ after, sc.left = true) (happlied : e.applied = none)
      (hcalls : e.calls = [.hideProgress])

/-- What is shown once the tracking of a task has ended: nothing of its snapshots,
    and until another task is shown only answers to cancel requests and notices
    that none could be started. -/
structure Gone (taskId : String) (rest : List Scene) : Prop where
  silent : ∀ sc ∈ rest, sc.applied.any (fun s => s.id = taskId) = true → sc.calls = []
  unshown : ∀ sc ∈ rest, ViewCall.showProgress taskId ∉ sc.calls
  idle : ∀ before sc after, rest = before ++ sc :: after →
    (∀ sc' ∈ before ++ [sc], sc'.shows = false) → ∀ call ∈ sc.calls,
      sc.aside = true ∧ call.isNotice = true ∨ ∃ cause, call = .notify (.notStarted cause)

/-- The story of a task after the scene that shows it: the task is still `tracked`,
    or it is not, since its tracking has ended once and for all. -/
inductive Told (taskId : String) (post : List Scene) (tracked : Prop) : Prop where
  | ongoing (htracked : tracked) (hfollows : Follows taskId post)
  | over {body rest : List Scene} {e : Scene} (hpast : ¬ tracked) (hpost : post = body ++ e :: rest)
      (hfollows : Follows taskId body) (hends : Ends taskId body e) (hgone : Gone taskId rest)

/-! ### Traces that grow -/

section Snoc

variable {taskId : String} {scenes : List Scene} {sc : Scene}

/-- A place in a list that has grown by one. -/
theorem split_snoc {α : Type} {l pre post : List α} {x y : α} (h : l ++ [x] = pre ++ y :: post) :
    (∃ post', post = post' ++ [x] ∧ l = pre ++ y :: post') ∨ post = [] ∧ y = x ∧ l = pre := by
  cases hpost : post.reverse with
  | nil =>
    have hnil : post = [] := by simpa using hpost
    subst hnil
    obtain ⟨hl, hx⟩ := List.append_inj' h rfl
    cases hx
    exact .inr ⟨rfl, rfl, hl⟩
  | cons z r =>
    have hsnoc : post = r.reverse ++ [z] := by
      rw [← List.reverse_cons, ← hpost, List.reverse_reverse]
    subst hsnoc
    rw [← List.cons_append, ← List.append_assoc] at h
    obtain ⟨hl, hx⟩ := List.append_inj' h rfl
    cases hx
    exact .inl ⟨_, rfl, hl⟩

theorem plain_snoc : Scene.plain (scenes ++ [sc]) =
    Scene.plain scenes ++ if sc.aside then [] else sc.calls := by
  simp [Scene.plain]

/-- The scene shows nothing, or answers a cancel request by notices. -/
def Scene.IsSilent (sc : Scene) : Prop :=
  sc.calls = [] ∨ sc.aside = true ∧ ∀ call ∈ sc.calls, call.isNotice = true

theorem plain_silent (h : sc.IsSilent) : Scene.plain (scenes ++ [sc]) = Scene.plain scenes := by
  rw [plain_snoc]
  rcases h with hnil | ⟨haside, _⟩
  · simp [hnil]
  · simp [haside]

theorem asides_snoc (h : ∀ sc' ∈ scenes, sc'.aside = true → ∀ call ∈ sc'.calls,
      call.isNotice = true) (hsc : sc.aside = true → ∀ call ∈ sc.calls, call.isNotice = true) :
    ∀ sc' ∈ scenes ++ [sc], sc'.aside = true → ∀ call ∈ sc'.calls, call.isNotice = true := by
  intro sc' hmem
  rcases List.mem_append.mp hmem with hmem | hmem
  · exact h sc' hmem
  · rw [List.mem_singleton.mp hmem]
    exact hsc

theorem Follows.nil : Follows taskId [] :=
  ⟨by simp [Scene.plain], by simp [Scene.plain], by simp [Scene.plain], by simp⟩

theorem Follows.silent (h : Follows taskId scenes) (hsc : sc.IsSilent) :
    Follows taskId (scenes ++ [sc]) := by
  refine ⟨?_, ?_, ?_, asides_snoc h.asides fun haside call hcall => ?_⟩
  · rw [plain_silent hsc]
    exact h.own
  · rw [plain_silent hsc]
    exact h.rising
  · rw [plain_silent hsc]
    exact h.once
  · rcases hsc with hnil | ⟨_, hnotices⟩
    · rw [hnil] at hcall
      cases hcall
    · exact hnotices call hcall

/-- The progress is redrawn, and has not fallen. -/
theorem Follows.redrawn (h : Follows taskId scenes) {d : Display} (haside : sc.aside = false)
    (hcalls : sc.calls = [.updateProgress d]) (htask : d.taskId = some taskId)
    (hpercentage : d.percentage.IsPercentage)
    (hbelow : ∀ x ∈ (Scene.plain scenes).filterMap ViewCall.percentage?, x.le d.percentage) :
    Follows taskId (scenes ++ [sc]) := by
  have hplain : Scene.plain (scenes ++ [sc]) = Scene.plain scenes ++ [.updateProgress d] := by
    rw [plain_snoc, haside, hcalls]
    rfl
  refine ⟨?_, ?_, ?_, asides_snoc h.asides fun htrue => ?_⟩
  · rw [hplain]
    intro call hcall
    rcases List.mem_append.mp hcall with hcall | hcall
    · exact h.own call hcall
    · exact .inr ⟨d, List.mem_singleton.mp hcall, htask, hpercentage⟩
  · rw [hplain, List.filterMap_append, List.pairwise_append]
    refine ⟨h.rising, by simp [ViewCall.percentage?], fun x hx y hy => ?_⟩
    have hy' : y = d.percentage := by simpa [ViewCall.percentage?] using hy
    rw [hy']
    exact hbelow x hx
  · rw [hplain, List.filter_append]
    simpa [ViewCall.isNotice] using h.once
  · rw [haside] at htrue
    cases htrue

/-- The user is warned, for the first time. -/
theorem Follows.warned (h : Follows taskId scenes) (haside : sc.aside = false)
    (hcalls : sc.calls = [.notify .stalled])
    (hfirst : (Scene.plain scenes).filter ViewCall.isNotice = []) :
    Follows taskId (scenes ++ [sc]) := by
  have hplain : Scene.plain (scenes ++ [sc]) = Scene.plain scenes ++ [.notify .stalled] := by
    rw [plain_snoc, haside, hcalls]
    rfl
  refine ⟨?_, ?_, ?_, asides_snoc h.asides fun htrue => ?_⟩
  · rw [hplain]
    intro call hcall
    rcases List.mem_append.mp hcall with hcall | hcall
    · exact h.own call hcall
    · exact .inl (List.mem_singleton.mp hcall)
  · rw [hplain, List.filterMap_append, show [ViewCall.notify .stalled].filterMap
      ViewCall.percentage? = [] from rfl, List.append_nil]
    exact h.rising
  · rw [hplain, List.filter_append, hfirst]
    exact Nat.le_refl 1
  · rw [haside] at htrue
    cases htrue

end Snoc

end TaskTracking
