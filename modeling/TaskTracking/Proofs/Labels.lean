import Mathlib.Tactic.Linarith
import TaskTracking.Proofs.Peaks
import TaskTracking.Proofs.Rereading

/-! # The label of the progress bar

  The label begins with the displayed percentage, rounded to a whole number. While one
  task is tracked that number is one from 0 to 100, the nearest to the percentage, and
  it never falls. What stands before it is another matter. A negative zero is within
  `[0, 100]`, so it is displayed as it was told, and its text has a sign.
  `Display.advances_iff` says when this comes about: as long as no snapshot has told
  more than zero, the label has a minus sign whenever the last one told negative zero.
-/

namespace TaskTracking

/-! ### Rounding -/

section Rounding

variable {m n den : Nat}

theorem roundDiv_mono (hpos : 0 < den) (h : m ≤ n) : roundDiv m den ≤ roundDiv n den := by
  have hm := Nat.div_add_mod m den
  have hn := Nat.div_add_mod n den
  have hm_mod := Nat.mod_lt m hpos
  have hn_mod := Nat.mod_lt n hpos
  have hquotient : m / den ≤ n / den := Nat.div_le_div_right h
  unfold roundDiv
  dsimp only
  rcases Nat.lt_or_eq_of_le hquotient with hless | hsame
  · split_ifs <;> omega
  · rw [hsame] at hm ⊢
    split_ifs <;> omega

/-- A rounded quotient is off by half of one at most. -/
theorem roundDiv_near (m : Nat) (hpos : 0 < den) :
    2 * m ≤ 2 * (den * roundDiv m den) + den ∧ 2 * (den * roundDiv m den) ≤ 2 * m + den := by
  have hm := Nat.div_add_mod m den
  have hmod := Nat.mod_lt m hpos
  have hnext : den * (m / den + 1) = den * (m / den) + den := Nat.mul_succ _ _
  unfold roundDiv
  dsimp only
  split_ifs with hlow hhigh
  · omega
  · omega
  · rcases Nat.mod_two_eq_zero_or_one (m / den) with heven | hodd
    · rw [heven, Nat.add_zero]
      omega
    · rw [hodd]
      omega

end Rounding

namespace Binary64

variable {x y : Binary64}

theorem zero_lt_unit : 0 < unit := Nat.cast_pos.mp unit_pos

/-! ### Percentages as whole numbers -/

/-- The one percentage with a sign is negative zero. -/
theorem negative_iff_of_isPercentage (h : x.IsPercentage) : x.negative = true ↔ x = negZero := by
  constructor
  · intro hnegative
    have horder : 0 ≤ x.order := (le_iff.mp h.1).2.2
    obtain ⟨negative, magnitude, hbound⟩ := x
    obtain rfl : negative = true := hnegative
    have hzero : magnitude = 0 := by
      simp only [order, if_true] at horder
      omega
    subst hzero
    rfl
  · rintro rfl
    rfl

theorem magnitude_of_isPercentage (h : x.IsPercentage) : (x.magnitude : Int) = x.order := by
  by_cases hnegative : x.negative = true
  · rw [(negative_iff_of_isPercentage h).mp hnegative]
    rfl
  · simp [order, hnegative]

theorem roundedAbs_le_of_isPercentage (hx : x.IsPercentage) (hy : y.IsPercentage)
    (h : x.le y = true) : x.roundedAbs ≤ y.roundedAbs := by
  have horder := (le_iff.mp h).2.2
  have hx_magnitude := magnitude_of_isPercentage hx
  have hy_magnitude := magnitude_of_isPercentage hy
  exact roundDiv_mono zero_lt_unit (numerator_le_iff.mpr (by omega))

theorem roundedAbs_le_hundred (h : x.IsPercentage) : x.roundedAbs ≤ 100 := by
  have hhundred : hundred.roundedAbs = 100 := by decide +kernel
  rw [← hhundred]
  exact roundedAbs_le_of_isPercentage h hundred_isPercentage h.2

/-- The whole number is off by half of a percent at most. -/
theorem roundedAbs_near (h : x.IsPercentage) : |(x.roundedAbs : ℚ) - x.value| ≤ 1 / 2 := by
  have hsigned : x.signed = x.numerator := by
    by_cases hnegative : x.negative = true
    · rw [(negative_iff_of_isPercentage h).mp hnegative]
      decide
    · simp [signed, hnegative]
  have hvalue : x.value * unit = x.numerator := by
    rw [value, hsigned, Int.cast_natCast, div_mul_cancel₀ _ unit_pos.ne']
  obtain ⟨hlow, hhigh⟩ := roundDiv_near x.numerator zero_lt_unit
  have hlow' : 2 * (x.numerator : ℚ) ≤ 2 * (unit * x.roundedAbs) + unit := by exact_mod_cast hlow
  have hhigh' : 2 * ((unit : ℚ) * x.roundedAbs) ≤ 2 * x.numerator + unit := by
    exact_mod_cast hhigh
  have hrounded : |((x.roundedAbs : ℚ) - x.value) * unit| ≤ 1 / 2 * unit := by
    rw [sub_mul, hvalue, abs_le]
    constructor
    · linarith
    · linarith
  rw [abs_mul, abs_of_pos unit_pos] at hrounded
  exact le_of_mul_le_mul_right hrounded unit_pos

theorem value_negZero : negZero.value = 0 := by
  have hsigned : negZero.signed = 0 := by decide
  simp [value, hsigned]

end Binary64

/-- Only a negative zero is clamped to one. -/
theorem Progress.clamped_eq_negZero {p : Progress} :
    p.clamped = .negZero ↔ p.percentage = .negZero := by
  have hzero : Binary64.zero ≠ .negZero := by decide
  have hhundred : Binary64.hundred ≠ .negZero := by decide
  constructor
  · intro h
    unfold clamped Binary64.clamp at h
    split_ifs at h
    · exact absurd h hzero
    · exact absurd h hhundred
    · exact h
    · exact absurd h hzero
  · intro h
    have hclamped : Binary64.negZero.clamp .zero .hundred = .negZero := by decide
    have hfinite : Binary64.negZero.isFinite = true := by decide
    rw [clamped, h, if_pos hfinite, hclamped]

namespace Display

/-! ### Reading a label -/

/-- The whole number without a sign that a label begins with, up to its percent sign. -/
def figure? (label : List Char) : Option Nat :=
  let digits := label.takeWhile Char.isDigit
  if digits ≠ [] ∧ label[digits.length]? = some '%' then some (Nat.ofDigitChars 10 digits 0)
  else none

/-- A label without the minus sign that it begins with. -/
def unsigned (label : List Char) : List Char :=
  if label.head? = some '-' then label.tail else label

theorem figure?_digits (n : Nat) (rest : List Char) :
    figure? (decimalDigits n ++ '%' :: rest) = some n := by
  have hall : ∀ c ∈ decimalDigits n, c.isDigit = true := fun c hc =>
    Nat.isDigit_of_mem_toDigits (by decide) (by decide) hc
  have hsome : decimalDigits n ≠ [] := Nat.toDigits_ne_nil
  have hdigits : (decimalDigits n ++ '%' :: rest).takeWhile Char.isDigit = decimalDigits n := by
    rw [List.takeWhile_append_of_pos hall]
    simp
  have hvalue : Nat.ofDigitChars 10 (decimalDigits n) 0 = n :=
    Nat.ofDigitChars_toDigits (by decide) (by decide)
  unfold figure?
  rw [hdigits]
  simp [hsome, hvalue]

theorem figure?_minus (rest : List Char) : figure? ('-' :: rest) = none := by
  simp [figure?]

theorem unsigned_digits (n : Nat) (rest : List Char) :
    unsigned (decimalDigits n ++ rest) = decimalDigits n ++ rest := by
  have hfirst : (decimalDigits n ++ rest).head? ≠ some '-' := by
    obtain ⟨c, digits, hdigits⟩ :=
      List.exists_cons_of_ne_nil (Nat.toDigits_ne_nil (n := n) (b := 10))
    have hdigit : c.isDigit = true :=
      Nat.isDigit_of_mem_toDigits (by decide) (by decide) (hdigits ▸ List.mem_cons_self)
    intro hminus
    rw [decimalDigits, hdigits] at hminus
    obtain rfl : c = '-' := Option.some.inj hminus
    exact absurd hdigit (by decide)
  exact if_neg hfirst

/-- The label of a percentage: a whole number, with a sign if it is a negative zero. -/
theorem toList_text {d : Display} (h : d.percentage.IsPercentage) :
    ∃ rest, d.text.toList =
      if d.percentage = .negZero then '-' :: (decimalDigits d.percentage.roundedAbs ++ '%' :: rest)
      else decimalDigits d.percentage.roundedAbs ++ '%' :: rest := by
  have hfinite := Binary64.isFinite_of_isPercentage h
  have hnumber := Binary64.isNaN_of_isFinite hfinite
  have hsign := Binary64.negative_iff_of_isPercentage h
  obtain ⟨counts, hcounts⟩ : ∃ counts,
      d.text = String.ofList (d.percentage.wholeText ++ '%' :: counts) := ⟨_, rfl⟩
  refine ⟨counts, ?_⟩
  rw [hcounts, String.toList_ofList, Binary64.wholeText]
  simp only [hnumber, hfinite, hsign, if_true, Bool.false_eq_true, if_false]
  split
  · rfl
  · rfl

theorem figure?_text {d : Display} (h : d.percentage.IsPercentage) :
    figure? d.text.toList =
      if d.percentage = .negZero then none else some d.percentage.roundedAbs := by
  obtain ⟨rest, hrest⟩ := toList_text h
  rw [hrest]
  split
  · exact figure?_minus _
  · exact figure?_digits _ _

theorem figure?_unsigned_text {d : Display} (h : d.percentage.IsPercentage) :
    figure? (unsigned d.text.toList) = some d.percentage.roundedAbs := by
  obtain ⟨rest, hrest⟩ := toList_text h
  rw [hrest]
  split
  · exact figure?_digits _ _
  · rw [unsigned_digits]
    exact figure?_digits _ _

/-! ### When a label has a sign -/

/-- A snapshot makes the percentage a negative zero if it tells of one and nothing more has been
    told. -/
theorem following_eq_negZero {d : Display} {s : Snapshot} (h : d.percentage.IsPercentage)
    (htask : d.taskId = some s.id) :
    (d.following s).percentage = .negZero ↔
      s.status ≠ .completed ∧ s.progress.percentage = .negZero ∧ d.percentage.value = 0 := by
  by_cases hdone : s.status = .completed
  · have hhundred : (d.following s).percentage = .hundred := by
      simp [following, apply, hdone]
    rw [hhundred]
    simp [hdone]
    decide
  · have hadvance : (d.following s).percentage =
        if d.percentage.le s.progress.clamped then s.progress.clamped else d.percentage := by
      unfold following apply
      cases hs : s.status <;> simp [advance, htask, hs] at hdone ⊢
    have hnonneg := (Binary64.value_of_isPercentage h).1
    have htold := (Binary64.value_of_isPercentage s.progress.clamped_isPercentage).1
    have hle := Binary64.le_iff_value (Binary64.isFinite_of_isPercentage h)
      (Binary64.isFinite_of_isPercentage s.progress.clamped_isPercentage)
    rw [hadvance, ← Progress.clamped_eq_negZero]
    split
    · next hrise =>
      constructor
      · intro hclamped
        have hnone : d.percentage.value ≤ 0 := by
          rw [hle, hclamped, Binary64.value_negZero] at hrise
          exact hrise
        exact ⟨hdone, hclamped, le_antisymm hnone hnonneg⟩
      · rintro ⟨-, hclamped, -⟩
        exact hclamped
    · next hrise =>
      -- What was shown is more than what is told, so it is more than zero.
      rw [hle, not_le] at hrise
      constructor
      · intro hshown
        rw [hshown, Binary64.value_negZero] at hrise
        exact absurd htold (not_le.mpr hrise)
      · rintro ⟨-, -, hnone⟩
        rw [hnone] at hrise
        exact absurd htold (not_le.mpr hrise)

section Peaks

variable {taskId : String} {seen : List Snapshot} {d : Display}

/-- Nothing is shown as long as nothing has been told. -/
theorem Peaks.value_eq_zero (h : Peaks taskId seen d) :
    d.percentage.value = 0 ↔ ∀ s ∈ seen, s.id = taskId → s.portion ≤ 0 := by
  have hnonneg := (Binary64.value_of_isPercentage h.inRange).1
  obtain ⟨hshown, hgreatest⟩ := h.percentage
  constructor
  · intro hzero s hs hid
    rw [← hzero]
    exact hgreatest (.inr ⟨s, hs, hid, rfl⟩)
  · intro hnone
    rcases hshown with hzero | ⟨s, hs, hid, hvalue⟩
    · exact hzero
    · rw [hvalue] at hnonneg ⊢
      exact le_antisymm (hnone s hs hid) hnonneg

end Peaks

/-! ### A sequence of snapshots -/

/-- The label of the tracked task after snapshots were applied one after the other. -/
def labelAfter (taskId : String) (seen : List Snapshot) : List Char :=
  (shownAfter taskId seen).text.toList

/-- After each snapshot a label begins with a whole number from 0 to 100, without a sign, and it is
    never smaller than the one before. -/
def Advances (label : List Snapshot → List Char) (ss : List Snapshot) : Prop :=
  (∀ seen, seen <+: ss → ∃ n, n ≤ 100 ∧ figure? (label seen) = some n) ∧
    ∀ seen s m n, seen ++ [s] <+: ss → figure? (label seen) = some m →
      figure? (label (seen ++ [s])) = some n → m ≤ n

section Labels

variable {taskId : String} {seen ss : List Snapshot} {s : Snapshot}

theorem percentage_le_shownAfter (taskId : String) (seen : List Snapshot) (s : Snapshot) :
    (shownAfter taskId seen).percentage.le (shownAfter taskId (seen ++ [s])).percentage = true := by
  have hpeaks := peaks_shownAfter taskId seen
  by_cases hid : s.id = taskId
  · rw [shownAfter_concat, ← hid]
    rw [← hid] at hpeaks
    exact percentage_le_following hpeaks.inRange hpeaks.task
  · rw [shownAfter_concat_of_ne seen hid]
    exact hpeaks.inRange.refl

/-- The label has a sign after a snapshot that tells of a negative zero, if nothing more has been
    told before. -/
theorem shownAfter_concat_eq_negZero (hid : s.id = taskId) :
    (shownAfter taskId (seen ++ [s])).percentage = .negZero ↔
      s.status ≠ .completed ∧ s.progress.percentage = .negZero ∧
        ∀ s' ∈ seen, s'.id = taskId → s'.portion ≤ 0 := by
  have hpeaks := peaks_shownAfter taskId seen
  have htask : (shownAfter taskId seen).taskId = some s.id := by rw [hpeaks.task, hid]
  have hshown : shownAfter taskId (seen ++ [s]) = (shownAfter taskId seen).following s := by
    rw [shownAfter_concat, ← hid]
    rfl
  rw [hshown, following_eq_negZero hpeaks.inRange htask, hpeaks.value_eq_zero]

/-- The numbers never fall, whatever is told. -/
theorem advances_of_figures {label : List Snapshot → List Char}
    (h : ∀ seen, seen <+: ss →
      figure? (label seen) = some (shownAfter taskId seen).percentage.roundedAbs) :
    Advances label ss := by
  constructor
  · intro seen hseen
    exact ⟨_, Binary64.roundedAbs_le_hundred (peaks_shownAfter taskId seen).inRange, h seen hseen⟩
  · intro seen s m n hnext hm hn
    have hseen : seen <+: ss := (List.prefix_append seen [s]).trans hnext
    obtain rfl := Option.some.inj ((h seen hseen).symm.trans hm)
    obtain rfl := Option.some.inj ((h _ hnext).symm.trans hn)
    exact Binary64.roundedAbs_le_of_isPercentage (peaks_shownAfter taskId seen).inRange
      (peaks_shownAfter taskId _).inRange (percentage_le_shownAfter taskId seen s)

/-- Each negative zero that is told of the task comes after more than zero has been told. -/
def ZerosLate (taskId : String) (ss : List Snapshot) : Prop :=
  ∀ seen s, seen ++ [s] <+: ss → s.id = taskId → s.status ≠ .completed →
    s.progress.percentage = .negZero → ∃ s' ∈ seen, s'.id = taskId ∧ 0 < s'.portion

theorem shownAfter_ne_negZero (h : ZerosLate taskId ss) (hseen : seen <+: ss) :
    (shownAfter taskId seen).percentage ≠ .negZero := by
  induction seen using List.reverseRecOn with
  | nil =>
    show Binary64.zero ≠ .negZero
    decide
  | append_singleton seen s ih =>
    by_cases hid : s.id = taskId
    · rw [ne_eq, shownAfter_concat_eq_negZero hid]
      rintro ⟨hdone, hzero, hnone⟩
      obtain ⟨s', hs', hid', hportion⟩ := h seen s hseen hid hdone hzero
      exact absurd (hnone s' hs' hid') (not_le.mpr hportion)
    · rw [shownAfter_concat_of_ne seen hid]
      exact ih ((List.prefix_append seen [s]).trans hseen)

theorem figure?_labelAfter (taskId : String) (seen : List Snapshot) :
    figure? (labelAfter taskId seen) =
      if (shownAfter taskId seen).percentage = .negZero then none
      else some (shownAfter taskId seen).percentage.roundedAbs :=
  figure?_text (peaks_shownAfter taskId seen).inRange

theorem zerosLate_of_advances (h : Advances (labelAfter taskId) ss) : ZerosLate taskId ss := by
  intro seen s hnext hid hdone hzero
  by_contra hnone
  have hnothing : ∀ s' ∈ seen, s'.id = taskId → s'.portion ≤ 0 := by
    intro s' hs' hid'
    by_contra hmore
    exact hnone ⟨s', hs', hid', not_le.mp hmore⟩
  have hshown := (shownAfter_concat_eq_negZero hid).mpr ⟨hdone, hzero, hnothing⟩
  obtain ⟨n, -, hfigure⟩ := h.1 _ hnext
  rw [figure?_labelAfter, if_pos hshown] at hfigure
  cases hfigure

/-- The label advances as a whole number without a sign exactly if each negative zero that
    is told comes after more than zero has been told. Without its sign it always does, and
    then its number is the nearest to the greatest percentage that was told. -/
theorem advances_iff (taskId : String) (ss : List Snapshot) :
    (Advances (labelAfter taskId) ss ↔ ZerosLate taskId ss) ∧
      Advances (fun seen => unsigned (labelAfter taskId seen)) ss ∧
      ∀ seen n, seen <+: ss → figure? (unsigned (labelAfter taskId seen)) = some n →
        ∀ greatest, IsGreatest (Told taskId seen Snapshot.portion) greatest →
          |(n : ℚ) - greatest| ≤ 1 / 2 := by
  have hunsigned (seen : List Snapshot) :
      figure? (unsigned (labelAfter taskId seen)) =
        some (shownAfter taskId seen).percentage.roundedAbs :=
    figure?_unsigned_text (peaks_shownAfter taskId seen).inRange
  refine ⟨⟨zerosLate_of_advances, ?_⟩, ?_, ?_⟩
  · intro h
    apply advances_of_figures
    intro seen hseen
    rw [figure?_labelAfter, if_neg (shownAfter_ne_negZero h hseen)]
  · exact advances_of_figures fun seen _ => hunsigned seen
  · intro seen n _ hfigure greatest hgreatest
    have hpeaks := peaks_shownAfter taskId seen
    obtain rfl := Option.some.inj ((hunsigned seen).symm.trans hfigure)
    rw [hgreatest.unique hpeaks.percentage]
    exact Binary64.roundedAbs_near hpeaks.inRange

end Labels

/-- A task of which 40 percent are done, and then as good as nothing. -/
def relapsed : List Snapshot :=
  [{ id := "T1", status := .running, progress := { percentage := Form.forty } },
    { id := "T1", status := .running, progress := { percentage := .negZero } }]

theorem advances_iff_relapsed :
    ZerosLate "T1" relapsed ∧ Advances (labelAfter "T1") relapsed ∧
      labelAfter "T1" relapsed = "40%".toList := by
  have hzeros : ZerosLate "T1" relapsed := by
    rintro seen s ⟨rest, hrest⟩ - - hzero
    cases seen with
    | nil =>
      obtain ⟨rfl, -⟩ := List.cons.inj hrest
      exact absurd hzero (by decide +kernel)
    | cons first seen =>
      obtain ⟨rfl, -⟩ := List.cons.inj hrest
      have hforty : 0 < Form.forty.value := by
        rw [← Binary64.value_zero, ← Binary64.lt_iff_value (by decide) (by decide +kernel)]
        decide +kernel
      refine ⟨_, List.mem_cons_self, rfl, ?_⟩
      have hfinite : Form.forty.isFinite = true := by decide +kernel
      simp [Snapshot.portion, Progress.portion, hfinite, hforty]
  exact ⟨hzeros, (advances_iff "T1" relapsed).1.mpr hzeros, by decide +kernel⟩

/-- A task of which nothing is done, as a server may tell it. -/
def minusZero : Json.Value :=
  .object [("id", .string "T1"), ("status", .string "running"),
    ("progress", .object [("percentage", .number (.float .negZero))])]

/-- The snapshot that is read from it. -/
def minusZeroSnapshot : Snapshot :=
  { id := "T1", status := .running, progress := { percentage := .negZero } }

theorem read_minusZero : Snapshot.decoder.runText minusZero.compact = .ok minusZeroSnapshot := by
  have hzero : (Json.Number.float .negZero).Readable := by
    have htext : (Json.Number.float .negZero).text = "-0.0".toList := by decide +kernel
    refine ⟨{ negative := true, whole := [0], fraction := some [0], exponent := none }, ?_, ?_⟩
    · rw [htext]
      rfl
    · decide +kernel
  have hreads : Json.Reads minusZero.compact minusZero := by
    apply Json.reads_compact
    simpa [minusZero, Json.Value.numbers, Json.Value.fieldNumbers] using hzero
  exact Json.Decoder.runText_of_reads hreads rfl

/-- Not every label advances: a negative zero is displayed with its sign. -/
theorem not_advances_minusZero :
    Snapshot.decoder.runText minusZero.compact = .ok minusZeroSnapshot ∧
      labelAfter "T1" [minusZeroSnapshot] = "-0%".toList ∧
      ¬ Advances (labelAfter "T1") [minusZeroSnapshot] := by
  refine ⟨read_minusZero, by decide +kernel, ?_⟩
  rintro ⟨hfigures, -⟩
  obtain ⟨n, -, hfigure⟩ := hfigures [minusZeroSnapshot] (List.prefix_refl _)
  rw [figure?_labelAfter, if_pos (by decide +kernel)] at hfigure
  cases hfigure

end Display

end TaskTracking
