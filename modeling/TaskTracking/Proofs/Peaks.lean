import Mathlib.Data.List.Induction
import Mathlib.Order.Bounds.Basic
import TaskTracking.Proofs.Magnitudes

/-! # The peak of what was seen

  Snapshots arrive over several channels in any order, and a late one may tell
  of less than an earlier one. While one task is tracked its display shows the
  most that any of its snapshots has told (`Display.Peaks`): the percentage is
  the greatest of theirs, where a completed task counts as 100 and a percentage
  that is no finite number as 0, and so is the item count. The order in which
  they came makes no difference (`Display.peaks_of_tracking`).
-/

namespace TaskTracking

/-! ### What one snapshot tells -/

/-- The percentage as a number within `[0, 100]`. -/
def Progress.portion (p : Progress) : ℚ :=
  if p.percentage.isFinite then max 0 (min 100 p.percentage.value) else 0

/-- How much of its task a snapshot tells to be done, in percent. -/
def Snapshot.portion (s : Snapshot) : ℚ :=
  if s.status = .completed then 100 else s.progress.portion

theorem Progress.value_clamped (p : Progress) : p.clamped.value = p.portion := by
  unfold clamped portion
  by_cases h : p.percentage.isFinite = true
  · simp [h, Binary64.value_clamp h]
  · simp [h]

namespace Display

/-! ### One step -/

/-- The percentage rises to that of the snapshot, and no further. -/
theorem value_following {d : Display} {s : Snapshot} (h : d.percentage.IsPercentage)
    (htask : d.taskId = some s.id) :
    (d.following s).percentage.value = max s.portion d.percentage.value := by
  by_cases hdone : s.status = .completed
  · have hle := (Binary64.value_of_isPercentage h).2
    simp [following, apply, Snapshot.portion, hdone, max_eq_left hle]
  · have hadvance : (d.following s).percentage = (d.advance s).percentage := by
      cases hs : s.status <;> simp [following, apply, hs] at hdone ⊢
    have hd := Binary64.isFinite_of_isPercentage h
    have hs := Binary64.isFinite_of_isPercentage s.progress.clamped_isPercentage
    have hle := Binary64.le_iff_value hd hs
    rw [hadvance]
    simp only [Snapshot.portion, hdone, if_false, ← s.progress.value_clamped]
    by_cases hrise : d.percentage.le s.progress.clamped = true
    · simp [advance, htask, hrise, max_eq_left (hle.mp hrise)]
    · have hlt : s.progress.clamped.value < d.percentage.value := not_le.mp (mt hle.mpr hrise)
      simp [advance, htask, hrise, max_eq_right hlt.le]

theorem current_following {d : Display} {s : Snapshot} (htask : d.taskId = some s.id) :
    (d.following s).current = max s.progress.current d.current := by
  unfold following apply
  cases hs : s.status <;> simp [advance, htask, Nat.max_comm]

/-! ### A sequence of snapshots -/

/-- What is shown of the tracked task after snapshots were applied one after the other. -/
def shownAfter (taskId : String) (seen : List Snapshot) : Display :=
  seen.foldl (fun d s => (d.apply s (some taskId)).display) (tracking taskId)

theorem shownAfter_concat (taskId : String) (seen : List Snapshot) (s : Snapshot) :
    shownAfter taskId (seen ++ [s]) =
      ((shownAfter taskId seen).apply s (some taskId)).display := by
  simp [shownAfter]

/-- A snapshot of another task changes nothing. -/
theorem shownAfter_concat_of_ne {taskId : String} {s : Snapshot} (seen : List Snapshot)
    (h : s.id ≠ taskId) : shownAfter taskId (seen ++ [s]) = shownAfter taskId seen := by
  have hne : some taskId ≠ some s.id := by simp [h.symm]
  rw [shownAfter_concat, apply_of_ne hne]

/-- A figure that some snapshot of the task tells, or zero. -/
def Told {α : Type} [Zero α] (taskId : String) (seen : List Snapshot) (figure : Snapshot → α) :
    Set α :=
  {x | x = 0 ∨ ∃ s ∈ seen, s.id = taskId ∧ x = figure s}

section Told

variable {α : Type} [Zero α] {taskId : String} {seen : List Snapshot} {figure : Snapshot → α}

theorem told_nil : Told taskId [] figure = {0} := by
  simp [Told]

theorem told_concat_of_ne {s : Snapshot} (h : s.id ≠ taskId) :
    Told taskId (seen ++ [s]) figure = Told taskId seen figure := by
  ext x
  simp [Told, or_and_right, exists_or, h]

theorem told_concat_of_eq {s : Snapshot} (h : s.id = taskId) :
    Told taskId (seen ++ [s]) figure = insert (figure s) (Told taskId seen figure) := by
  ext x
  have hnew : (∃ s' ∈ seen ++ [s], s'.id = taskId ∧ x = figure s') ↔
      x = figure s ∨ ∃ s' ∈ seen, s'.id = taskId ∧ x = figure s' := by
    simp [or_and_right, exists_or, h, or_comm]
  unfold Told
  rw [Set.mem_ofPred_eq, hnew, or_left_comm]
  rfl

theorem told_of_perm {seen' : List Snapshot} (h : seen'.Perm seen) :
    Told taskId seen' figure = Told taskId seen figure := by
  ext x
  simp [Told, h.mem_iff]

end Told

/-- The display shows the most that the snapshots of its task have told. -/
structure Peaks (taskId : String) (seen : List Snapshot) (d : Display) : Prop where
  task : d.taskId = some taskId
  inRange : d.percentage.IsPercentage
  percentage : IsGreatest (Told taskId seen Snapshot.portion) d.percentage.value
  current : IsGreatest (Told taskId seen fun s => s.progress.current) d.current

theorem peaks_tracking (taskId : String) : Peaks taskId [] (tracking taskId) where
  task := rfl
  inRange := Binary64.zero_isPercentage
  percentage := by
    have hstart : (tracking taskId).percentage.value = 0 := Binary64.value_zero
    rw [told_nil, hstart]
    exact isGreatest_singleton
  current := by
    rw [told_nil]
    exact isGreatest_singleton

namespace Peaks

variable {taskId : String} {seen : List Snapshot} {d : Display} {s : Snapshot}

theorem apply (h : Peaks taskId seen d) (s : Snapshot) :
    Peaks taskId (seen ++ [s]) (d.apply s (some taskId)).display := by
  by_cases hid : s.id = taskId
  · -- The greatest of one more figure is the greater of it and the greatest before.
    have htask : d.taskId = some s.id := by rw [h.task, hid]
    have hshown : (d.apply s (some taskId)).display = d.following s := by rw [← hid]; rfl
    rw [hshown]
    constructor
    · rw [following_taskId, hid]
    · exact following_isPercentage h.inRange
    · rw [told_concat_of_eq hid, value_following h.inRange htask]
      exact h.percentage.insert _
    · rw [told_concat_of_eq hid, current_following htask]
      exact h.current.insert _
  · have hne : some taskId ≠ some s.id := by simp [Ne.symm hid]
    rw [apply_of_ne hne]
    constructor
    · exact h.task
    · exact h.inRange
    · rw [told_concat_of_ne hid]
      exact h.percentage
    · rw [told_concat_of_ne hid]
      exact h.current

end Peaks

theorem peaks_shownAfter (taskId : String) (seen : List Snapshot) :
    Peaks taskId seen (shownAfter taskId seen) := by
  induction seen using List.reverseRecOn with
  | nil => exact peaks_tracking taskId
  | append_singleton seen s ih =>
    rw [shownAfter_concat]
    exact ih.apply s

/-- What a task shows is the greatest of what its snapshots have told, after each of them. A
    snapshot of another task changes nothing, and the order makes no difference in the
    end. -/
theorem shownAfter_runningMaximum (taskId : String) (ss : List Snapshot) :
    (∀ seen, seen <+: ss → Peaks taskId seen (shownAfter taskId seen)) ∧
      (∀ seen s, seen ++ [s] <+: ss → s.id ≠ taskId →
        shownAfter taskId (seen ++ [s]) = shownAfter taskId seen) ∧
      ∀ ss', ss'.Perm ss →
        (shownAfter taskId ss').percentage.value = (shownAfter taskId ss).percentage.value ∧
          (shownAfter taskId ss').current = (shownAfter taskId ss).current := by
  refine ⟨?_, ?_, ?_⟩
  · intro seen _
    exact peaks_shownAfter taskId seen
  · intro seen s _ hne
    exact shownAfter_concat_of_ne seen hne
  · intro ss' hperm
    have h := peaks_shownAfter taskId ss
    have h' := peaks_shownAfter taskId ss'
    have hpercentage := h'.percentage
    have hcurrent := h'.current
    rw [told_of_perm hperm] at hpercentage hcurrent
    exact ⟨hpercentage.unique h.percentage, hcurrent.unique h.current⟩

/-- Snapshots out of order: of two tasks, above 100, negative zero and with no number at all. -/
def jumbled : List Snapshot :=
  [{ id := "a", status := .running, progress := { current := 3, percentage := .nan } },
    { id := "b", status := .completed, progress := { current := 9 } },
    { id := "a", status := .pending, progress := { percentage := .negInfinity } },
    { id := "a", status := .failed, progress := { current := 7, percentage := .negZero } },
    { id := "a", status := .running, progress := { current := 2, percentage := .ofNat 140 } }]

theorem shownAfter_runningMaximum_jumbled :
    Peaks "a" jumbled (shownAfter "a" jumbled) ∧
      shownAfter "a" (jumbled.take 2) = shownAfter "a" (jumbled.take 1) ∧
      (shownAfter "a" jumbled.reverse).percentage.value = 100 ∧
      (shownAfter "a" jumbled.reverse).current = 7 := by
  obtain ⟨hpeaks, hforeign, hperm⟩ := shownAfter_runningMaximum "a" jumbled
  obtain ⟨hpercentage, hcurrent⟩ := hperm jumbled.reverse (List.reverse_perm _)
  refine ⟨hpeaks jumbled (List.prefix_refl _), ?_, ?_, ?_⟩
  · have hnext : jumbled.take 1 ++ [jumbled[1]] <+: jumbled := List.take_prefix 2 jumbled
    exact hforeign _ _ hnext (by decide)
  · have hfull : (shownAfter "a" jumbled).percentage = .hundred := by decide +kernel
    rw [hpercentage, hfull, Binary64.value_hundred]
  · rw [hcurrent]
    decide +kernel

end Display

end TaskTracking
