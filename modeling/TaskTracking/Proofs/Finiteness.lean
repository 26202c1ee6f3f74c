import Mathlib.Algebra.Group.Nat.Defs
import TaskTracking.Proofs.Numerals

/-! # Numbers in range

  Every number that a text holds is an integer of 64 bits or a finite float
  (`Json.Numeral.number?_inRange`). What has to be shown is that rounding a
  quotient below `2 ^ 1023` never leads to infinity
  (`Binary64.nearestMagnitude_lt`), since a number is read as the rounded
  quotient of a finite number and a power of ten.
-/

namespace TaskTracking

/-! ### Finite numbers -/

theorem roundDiv_le {num den bound : Nat} (h : num < den * bound) : roundDiv num den ≤ bound := by
  have hdiv : num / den < bound := Nat.div_lt_of_lt_mul h
  unfold roundDiv
  dsimp only
  split
  · omega
  · split
    · omega
    · omega

namespace Binary64

theorem mul_two_pow_lt {m n : Nat} (k : Nat) (h : m < n) : m * 2 ^ k < n * 2 ^ k :=
  Nat.mul_lt_mul_of_pos_right h (Nat.two_pow_pos k)

theorem two_pow_mul_le {a b c d : Nat} (h : a + b ≤ c + d) : 2 ^ a * 2 ^ b ≤ 2 ^ c * 2 ^ d := by
  rw [← Nat.pow_add, ← Nat.pow_add]
  exact Nat.pow_le_pow_right (by decide) h

theorem unit_eq {k : Nat} (h : k + 53 = 1075) : unit = 2 ^ k * 2 ^ 53 := by
  rw [← Nat.pow_add, h, unit, Nat.one_shiftLeft]

section Nearest

variable {num den a b p place : Nat}

/-- A place that is high enough by the leading digits keeps a quotient within its bits. -/
theorem fits_of_le (hnum : num < 2 ^ (a + 1)) (hden : 2 ^ b ≤ den) (h : a + 1 + p ≤ b + place) :
    num * 2 ^ p < den * 2 ^ place := by
  calc num * 2 ^ p < 2 ^ (a + 1) * 2 ^ p := mul_two_pow_lt p hnum
    _ = 2 ^ (a + 1 + p) := (Nat.pow_add 2 (a + 1) p).symm
    _ ≤ 2 ^ (b + place) := Nat.pow_le_pow_right (by decide) h
    _ = 2 ^ b * 2 ^ place := Nat.pow_add 2 b place
    _ ≤ den * 2 ^ place := Nat.mul_le_mul_right _ hden

/-- One place less is enough if the leading digits of the quotient are below one. -/
theorem fits_of_less (hless : num * 2 ^ b < den * 2 ^ a) (h : a + p ≤ b + place) :
    num * 2 ^ p < den * 2 ^ place := by
  apply Nat.lt_of_mul_lt_mul_right (a := 2 ^ b)
  calc num * 2 ^ p * 2 ^ b = num * 2 ^ b * 2 ^ p := Nat.mul_right_comm _ _ _
    _ < den * 2 ^ a * 2 ^ p := mul_two_pow_lt p hless
    _ = den * 2 ^ (a + p) := by rw [Nat.mul_assoc, ← Nat.pow_add]
    _ ≤ den * 2 ^ (b + place) := Nat.mul_le_mul_left _ (Nat.pow_le_pow_right (by decide) h)
    _ = den * 2 ^ place * 2 ^ b := by rw [Nat.add_comm, Nat.pow_add, Nat.mul_assoc]

/-- A quotient below `2 ^ p` has no leading digit from there on. -/
theorem lead_lt (h : num < den * 2 ^ p) (hnum : 2 ^ a ≤ num) (hden : den < 2 ^ (b + 1)) :
    a < b + 1 + p := by
  apply (Nat.pow_lt_pow_iff_right (a := 2) (by decide)).mp
  calc 2 ^ a ≤ num := hnum
    _ < den * 2 ^ p := h
    _ < 2 ^ (b + 1) * 2 ^ p := mul_two_pow_lt p hden
    _ = 2 ^ (b + 1 + p) := (Nat.pow_add 2 (b + 1) p).symm

theorem lead_lt_of_not_less (h : num < den * 2 ^ p) (hle : den * 2 ^ a ≤ num * 2 ^ b) :
    a < p + b := by
  apply (Nat.pow_lt_pow_iff_right (a := 2) (by decide)).mp
  apply Nat.lt_of_mul_lt_mul_left (a := den)
  calc den * 2 ^ a ≤ num * 2 ^ b := hle
    _ < den * 2 ^ p * 2 ^ b := mul_two_pow_lt b h
    _ = den * 2 ^ (p + b) := by rw [Nat.mul_assoc, ← Nat.pow_add]

/-- A quotient below `2 ^ 1023` is rounded to a finite number. -/
theorem nearestMagnitude_lt (hpos : 0 < den) (h : num < den * 2 ^ 1023) :
    nearestMagnitude num den < infinite := by
  have hinfinite : infinite = 2047 * 4503599627370496 := rfl
  unfold nearestMagnitude
  split
  · omega
  · next hne =>
    have hnum := Nat.log2_self_le hne
    have hnum' := Nat.lt_log2_self (n := num)
    have hden := Nat.log2_self_le (Nat.pos_iff_ne_zero.mp hpos)
    have hden' := Nat.lt_log2_self (n := den)
    generalize num.log2 = a at *
    generalize den.log2 = b at *
    -- At its place the quotient has 53 bits at most, and the place is below that of infinity.
    obtain ⟨place, hplace, hfits, hhigh⟩ : ∃ place,
        max 1 (if num <<< b < den <<< a then a + 1023 - b - 1 else a + 1023 - b) = place ∧
          num * 2 ^ 1022 < den * 2 ^ place ∧ place ≤ 2045 := by
      refine ⟨_, rfl, ?_⟩
      rw [Nat.shiftLeft_eq, Nat.shiftLeft_eq]
      split
      · next hless =>
        have hlead := lead_lt h hnum hden'
        exact ⟨fits_of_less (p := 1022) hless (by omega), by omega⟩
      · next hless =>
        have hlead := lead_lt_of_not_less h (Nat.le_of_not_lt hless)
        exact ⟨fits_of_le (p := 1022) hnum' hden (by omega), by omega⟩
    dsimp only
    rw [hplace]
    have hround : roundDiv (num * unit) (den <<< place) ≤ 2 ^ 53 := by
      apply roundDiv_le
      rw [Nat.shiftLeft_eq, unit_eq (k := 1022) rfl, ← Nat.mul_assoc]
      exact mul_two_pow_lt 53 hfits
    -- Rounding up to `2 ^ 53` raises the exponent by one, and that is still finite.
    have hexponent : (place - 1) <<< 52 = (place - 1) * 4503599627370496 := Nat.shiftLeft_eq _ _
    omega

theorem ofRatio_isFinite (hpos : 0 < den) (h : num < den * 2 ^ 1023) :
    (ofRatio num den).isFinite = true := by
  have hlt := nearestMagnitude_lt hpos h
  refine decide_eq_true ?_
  show min _ infinite < infinite
  omega

theorem ofRatio_isFinite_of_le (hden : 2 ^ p ≤ den) (h : num < 2 ^ p * 2 ^ 1023) :
    (ofRatio num den).isFinite = true := by
  apply ofRatio_isFinite
  · exact Nat.lt_of_lt_of_le (Nat.two_pow_pos p) hden
  · exact Nat.lt_of_lt_of_le h (Nat.mul_le_mul_right _ hden)

end Nearest

theorem ofNat_isFinite {n : Nat} (h : n < 1 <<< 64) : (ofNat n).isFinite = true := by
  have hlt : n < 2 ^ 64 := h
  refine ofRatio_isFinite (by decide) ?_
  calc n < 2 ^ 64 := hlt
    _ ≤ 1 * 2 ^ 1023 := by decide +kernel

theorem numerator_lt {x : Binary64} (h : x.isFinite = true) :
    x.numerator < 2 ^ 1076 * 2 ^ 1023 := by
  have hinfinite : infinite = 2047 * 4503599627370496 := rfl
  have hmagnitude : x.magnitude < infinite := of_decide_eq_true h
  have hshift : x.magnitude >>> 52 = x.magnitude / 4503599627370496 := Nat.shiftRight_eq_div_pow _ _
  have hscale : x.scale ≤ 2046 := by
    unfold scale
    omega
  have hsignificand : x.significand < 2 ^ 53 := by
    unfold significand
    split
    · next hsmall => exact Nat.lt_trans hsmall (by decide)
    · -- A normal number has its leading bit besides the 52 of the magnitude.
      have hrest : x.magnitude % (1 <<< 52) < 1 <<< 52 := Nat.mod_lt _ (by decide)
      exact Nat.add_lt_add_left hrest (1 <<< 52)
  calc x.numerator = x.significand * 2 ^ x.scale := Nat.shiftLeft_eq _ _
    _ < 2 ^ 53 * 2 ^ x.scale := mul_two_pow_lt _ hsignificand
    _ ≤ 2 ^ 1076 * 2 ^ 1023 := two_pow_mul_le (by omega)

end Binary64

namespace Json.Numeral

/-- The powers of ten that numbers are scaled by are finite, and all but the first well
    above one. -/
theorem powerOfTen_large : ∀ k ≤ 308, 0 < k → 2 ^ 1076 ≤ (powerOfTen k).numerator := by
  decide +kernel

theorem dividedBy_isFinite {x : Binary64} {k : Nat} (h : x.isFinite = true) (hpos : 0 < k)
    (hk : k ≤ 308) : (x.dividedBy (powerOfTen k)).isFinite = true := by
  have hlarge := powerOfTen_large k hk hpos
  exact Binary64.ofRatio_isFinite_of_le hlarge (Binary64.numerator_lt h)

theorem scaled_isFinite {fuel : Nat} {x y : Binary64} {e : Int} (hx : x.isFinite = true)
    (h : scaled fuel x e = some y) : y.isFinite = true := by
  induction fuel generalizing x e with
  | zero => exact Option.some.inj h ▸ hx
  | succ fuel ih =>
    rw [scaled] at h
    split at h
    · next hsmall =>
      split at h
      · -- A product is only taken if it is finite.
        dsimp only at h
        split at h
        · next hfinite => exact Option.some.inj h ▸ hfinite
        · cases h
      · next hneg => exact Option.some.inj h ▸ dividedBy_isFinite hx (by omega) hsmall
    · split at h
      · exact Option.some.inj h ▸ hx
      · split at h
        · cases h
        · exact ih (dividedBy_isFinite hx (by decide) (by decide)) h

end Json.Numeral

end TaskTracking

namespace TaskTracking.Json

theorem integer_inRange {negative : Bool} {n : Nat} (h : n < Numeral.significandLimit) :
    (Numeral.integer negative n).InRange := by
  have hlimit : Numeral.significandLimit = 18446744073709551616 := rfl
  have hhalf : (1 <<< 63 : Nat) = 9223372036854775808 := rfl
  unfold Numeral.integer
  split_ifs with hpos hzero
  · exact Number.inRange_integer_iff.mpr ⟨by omega, by omega⟩
  · -- A negative zero, or too much for a negative integer, is a float.
    exact Binary64.ofNat_isFinite h
  · exact Number.inRange_integer_iff.mpr ⟨by omega, by omega⟩

theorem float_inRange {negative : Bool} {n : Nat} {e : Int} {m : Number}
    (hn : n < Numeral.significandLimit) (h : Numeral.float negative n e = some m) : m.InRange := by
  obtain ⟨x, hscaled, rfl⟩ := Option.map_eq_some_iff.mp h
  have hfinite := Numeral.scaled_isFinite (Binary64.ofNat_isFinite hn) hscaled
  split_ifs
  · exact hfinite
  · exact hfinite

/-- Every number that is read is in range. -/
theorem Numeral.number?_inRange {n : Numeral} {m : Number} (h : n.number? = some m) :
    m.InRange := by
  have hhead := Numeral.accumulate_lt n.whole (s := 0) (by decide)
  unfold Numeral.number? at h
  obtain ⟨head, dropped, hacc⟩ : ∃ head dropped, accumulate 0 n.whole = (head, dropped) :=
    ⟨_, _, rfl⟩
  rw [hacc] at h hhead
  have hall := Numeral.accumulate_lt (n.fraction.getD []) hhead
  dsimp only at h
  split at h
  · cases h
    exact integer_inRange hhead
  · split at h
    · exact float_inRange hall h
    · split at h
      · exact float_inRange hall h
      · split at h
        · cases h
        · cases h
          split
          · rfl
          · rfl
end TaskTracking.Json
