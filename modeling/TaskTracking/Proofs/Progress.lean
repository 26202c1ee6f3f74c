import TaskTracking.Display

/-! # Progress of a display

  What a snapshot does to a display and which effects it has. A snapshot of the
  stored task always counts, and any other never does. While the display stays
  with one task its percentage is one (`Binary64.IsPercentage`) and never falls.
-/

namespace TaskTracking

/-! ### Percentages -/

namespace Binary64

/-- A number within `[0, 100]`. -/
def IsPercentage (x : Binary64) : Prop := zero.le x ∧ x.le hundred

theorem le_iff {x y : Binary64} :
    x.le y ↔ x.isNaN = false ∧ y.isNaN = false ∧ x.order ≤ y.order := by
  simp [le, and_assoc]

theorem le_trans {x y z : Binary64} (hxy : x.le y) (hyz : y.le z) : x.le z := by
  rw [le_iff] at hxy hyz ⊢
  exact ⟨hxy.1, hyz.2.1, Int.le_trans hxy.2.2 hyz.2.2⟩

theorem IsPercentage.refl {x : Binary64} (h : x.IsPercentage) : x.le x := by
  have hnum := (le_iff.mp h.1).2.1
  exact le_iff.mpr ⟨hnum, hnum, Int.le_refl _⟩

theorem zero_isPercentage : zero.IsPercentage := by
  constructor <;> decide

theorem hundred_isPercentage : hundred.IsPercentage := by
  constructor <;> decide

/-- A finite number brought into `[0, 100]` is a percentage. -/
theorem clamp_isPercentage {x : Binary64} (h : x.isFinite) :
    (x.clamp zero hundred).IsPercentage := by
  have hnum : x.isNaN = false := by
    simp only [isFinite, decide_eq_true_eq] at h
    simp only [isNaN, decide_eq_false_iff_not]
    omega
  unfold clamp
  split
  · exact zero_isPercentage
  · next hlow =>
    split
    · exact hundred_isPercentage
    · next hhigh =>
      simp only [lt, hnum, Bool.not_false, Bool.true_and, Bool.and_true, Bool.and_eq_true,
        decide_eq_true_eq, not_and] at hlow hhigh
      have hz : zero.isNaN = false := by decide
      have hh : hundred.isNaN = false := by decide
      refine ⟨le_iff.mpr ⟨hz, hnum, ?_⟩, le_iff.mpr ⟨hnum, hh, ?_⟩⟩
      · have := hlow (by simp [hz])
        omega
      · have := hhigh (by simp [hh])
        omega

end Binary64

theorem Progress.clamped_isPercentage (p : Progress) : p.clamped.IsPercentage := by
  unfold clamped
  split
  · next h => exact Binary64.clamp_isPercentage h
  · exact Binary64.zero_isPercentage

/-! ### Effects -/

/-- What follows the end of a task, as its last snapshot tells it. -/
def Snapshot.farewell (s : Snapshot) : List Effect :=
  match s.status with
  | .pending | .running => []
  | .completed => [.renderResult (s.result.getD .null), .notify .completed]
  | .failed => [.notify (.failed s.error)]
  | .cancelled => [.notify .cancelled]

/-- What is left to do for a terminal snapshot once the task id is removed. -/
def Snapshot.lastEffects (s : Snapshot) : List Effect :=
  .stopChannels :: .hideProgress :: s.farewell

namespace Display

/-- The display after a snapshot that counts. -/
def following (d : Display) (s : Snapshot) : Display := (d.apply s (some s.id)).display

/-- A snapshot of another task than the stored one does nothing. -/
theorem apply_of_ne {d : Display} {s : Snapshot} {tracked : Option String}
    (h : tracked ≠ some s.id) : d.apply s tracked = { display := d, effects := [] } := by
  simp [apply, h]

/-- A snapshot that ends nothing redraws the progress area. -/
theorem effects_of_running {d : Display} {s : Snapshot} (h : s.isTerminal = false) :
    (d.apply s (some s.id)).effects = [.updateProgress] := by
  unfold Snapshot.isTerminal Status.isTerminal at h
  unfold apply
  cases hs : s.status <;> simp_all

/-- A terminal snapshot first has the task id removed. -/
theorem effects_of_terminal {d : Display} {s : Snapshot} (h : s.isTerminal = true) :
    (d.apply s (some s.id)).effects = .clearIdentity :: s.lastEffects := by
  unfold Snapshot.isTerminal Status.isTerminal at h
  unfold apply Snapshot.lastEffects Snapshot.farewell
  cases hs : s.status <;> simp_all [ending]

theorem isTerminal_apply {d : Display} {s : Snapshot} (h : s.isTerminal = true) :
    (d.apply s (some s.id)).isTerminal = true := by
  unfold Applied.isTerminal
  rw [effects_of_terminal h]
  rfl

theorem following_taskId (d : Display) (s : Snapshot) : (d.following s).taskId = some s.id := by
  have hbase : (if d.taskId = some s.id then d else tracking s.id).taskId = some s.id := by
    split
    · assumption
    · rfl
  unfold following apply
  cases hs : s.status <;> simp [advance, hbase]

theorem following_visible (d : Display) (s : Snapshot) :
    (d.following s).visible = !s.isTerminal := by
  unfold following apply Snapshot.isTerminal Status.isTerminal
  cases hs : s.status <;> simp

/-- What was shown of another task makes no difference. -/
theorem following_of_ne {d : Display} {s : Snapshot} (h : d.taskId ≠ some s.id) :
    d.following s = (tracking s.id).following s := by
  have hfrom : (tracking s.id).percentage.le s.progress.clamped = true :=
    s.progress.clamped_isPercentage.1
  have hadvance : d.advance s = (tracking s.id).advance s := by
    have hsame : (tracking s.id).taskId = some s.id := rfl
    unfold advance
    simp [h, hsame, hfrom]
  unfold following apply
  rw [hadvance]
  cases s.status <;> simp

/-! ### The percentage -/

theorem advance_percentage (d : Display) (s : Snapshot) :
    (d.advance s).percentage = s.progress.clamped ∨
      d.taskId = some s.id ∧ (d.advance s).percentage = d.percentage := by
  unfold advance
  by_cases hsame : d.taskId = some s.id
  · by_cases hle : d.percentage.le s.progress.clamped <;> simp [hsame, hle]
  · simp [hsame]

theorem following_percentage (d : Display) (s : Snapshot) :
    (d.following s).percentage = (d.advance s).percentage ∨
      (d.following s).percentage = .hundred := by
  unfold following apply
  cases hs : s.status <;> simp

/-- The percentage stays one. -/
theorem following_isPercentage {d : Display} {s : Snapshot} (h : d.percentage.IsPercentage) :
    (d.following s).percentage.IsPercentage := by
  rcases following_percentage d s with hp | hp
  · rw [hp]
    rcases advance_percentage d s with ha | ⟨_, ha⟩
    · rw [ha]
      exact s.progress.clamped_isPercentage
    · rw [ha]
      exact h
  · rw [hp]
    exact Binary64.hundred_isPercentage

/-- The percentage of a task never falls. -/
theorem percentage_le_following {d : Display} {s : Snapshot} (h : d.percentage.IsPercentage)
    (htask : d.taskId = some s.id) : d.percentage.le (d.following s).percentage := by
  rcases following_percentage d s with hp | hp
  · rw [hp]
    unfold advance
    by_cases hle : d.percentage.le s.progress.clamped
    · simp [htask, hle]
    · simp [htask, hle, h.refl]
  · rw [hp]
    exact h.2

end Display

end TaskTracking
