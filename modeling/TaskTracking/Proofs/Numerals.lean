import Mathlib.Tactic.SplitIfs
import TaskTracking.Json.Draft
import TaskTracking.Json.Printer

/-! # Numerals read back

  What is printed for a number is one numeral, and it is read as that number:

  - A numeral ends before a character that no number goes on with, so it is
    read alike whatever follows (`Draft.numeral_append`).
  - The text of an integer is the numeral of its decimal digits
    (`Draft.numeral_integerText`), and an integer in range is made of it again
    (`number?_decimals`).
-/

namespace TaskTracking.Json

/-! ### What a reading takes -/

theorem bind_eq_ok_iff {ε α β : Type} {x : Except ε α} {f : α → Except ε β} {b : β} :
    (x >>= f) = .ok b ↔ ∃ a, x = .ok a ∧ f a = .ok b := by
  cases x with
  | error e =>
    constructor
    · intro h
      cases h
    · rintro ⟨a, h, -⟩
      cases h
  | ok a =>
    constructor
    · intro h
      exact ⟨a, rfl, h⟩
    · rintro ⟨a', h, hf⟩
      cases h
      exact hf

namespace Draft

/-- No number goes on with what the text begins with. -/
def Ends (rest : List Item) : Prop :=
  ∀ c ∈ rest.head?, digit? c = none ∧ c ≠ some '.' ∧ c ≠ some 'e' ∧ c ≠ some 'E'

section Append

variable {text rest more : List Item} {ds : List Nat}

theorem digits_append (hends : Ends rest)
    (h : digits text = (ds, more)) : digits (text ++ rest) = (ds, more ++ rest) := by
  induction text generalizing ds with
  | nil =>
    -- The digits end with the text, and the rest has none to begin with.
    cases h
    cases rest with
    | nil => rfl
    | cons c rest =>
      have hc := (hends c rfl).1
      simp [digits, hc]
  | cons c text ih =>
    rw [List.cons_append, digits]
    rw [digits] at h
    split
    · next d hd =>
      simp only [hd] at h
      obtain ⟨ds', more', htail⟩ : ∃ ds' more', digits text = (ds', more') := ⟨_, _, rfl⟩
      rw [htail] at h
      cases h
      rw [ih htail]
    · next hd =>
      simp only [hd] at h
      cases h
      rfl

theorem someDigits_eq_ok_iff :
    someDigits text = .ok (ds, more) ↔ digits text = (ds, more) ∧ ds ≠ [] := by
  unfold someDigits
  obtain ⟨found, left, hfound⟩ : ∃ found left, digits text = (found, left) := ⟨_, _, rfl⟩
  rw [hfound]
  cases found with
  | nil =>
    cases left with
    | nil => grind
    | cons => grind
  | cons d found => grind

theorem wholePart_eq_ok_iff :
    wholePart text = .ok (ds, more) ↔
      digits text = (ds, more) ∧ ds ≠ [] ∧ ¬ (ds.head? = some 0 ∧ 1 < ds.length) := by
  unfold wholePart
  rw [bind_eq_ok_iff]
  constructor
  · rintro ⟨⟨found, left⟩, hdigits, hok⟩
    dsimp only at hok
    split_ifs at hok with hhead
    cases hok
    obtain ⟨h, hne⟩ := someDigits_eq_ok_iff.mp hdigits
    exact ⟨h, hne, hhead⟩
  · rintro ⟨h, hne, hhead⟩
    exact ⟨_, someDigits_eq_ok_iff.mpr ⟨h, hne⟩, if_neg hhead⟩

theorem someDigits_append (hends : Ends rest)
    (h : someDigits text = .ok (ds, more)) :
    someDigits (text ++ rest) = .ok (ds, more ++ rest) := by
  rw [someDigits_eq_ok_iff] at h ⊢
  exact ⟨digits_append hends h.1, h.2⟩

theorem wholePart_append (hends : Ends rest)
    (h : wholePart text = .ok (ds, more)) : wholePart (text ++ rest) = .ok (ds, more ++ rest) := by
  rw [wholePart_eq_ok_iff] at h ⊢
  exact ⟨digits_append hends h.1, h.2⟩

theorem fractionPart_append {fraction : Option (List Nat)} (hends : Ends rest)
    (h : fractionPart text = .ok (fraction, more)) :
    fractionPart (text ++ rest) = .ok (fraction, more ++ rest) := by
  unfold fractionPart at h
  split at h
  · next text =>
    obtain ⟨⟨ds', more'⟩, hdigits, hok⟩ := bind_eq_ok_iff.mp h
    cases hok
    exact bind_eq_ok_iff.mpr ⟨_, someDigits_append hends hdigits, rfl⟩
  · next hdot =>
    -- Neither the text nor the rest begins with a dot.
    cases h
    unfold fractionPart
    split
    · next tail heq =>
      cases text with
      | nil => exact absurd rfl (hends (some '.') (by simp_all)).2.1
      | cons c text =>
        cases heq
        exact absurd rfl (hdot text)
    · rfl

/-- The sign of an exponent, whether it is negative, and what follows it. -/
def exponentSign (text : List Item) : Bool × List Item :=
  match text with
  | some '-' :: rest => (true, rest)
  | some '+' :: rest => (false, rest)
  | _ => (false, text)

theorem exponentPart_cons_eq {c : Char} (hc : c = 'e' ∨ c = 'E') :
    exponentPart (some c :: text) = (do
      let (ds, rest) ← someDigits (exponentSign text).2
      .ok (some ((exponentSign text).1, ds), rest)) := by
  unfold exponentPart
  dsimp only
  rw [if_pos hc]
  rfl

/-- The sign does not depend on what follows the digits. -/
theorem exponentSign_append (hne : text ≠ []) :
    exponentSign (text ++ rest) = ((exponentSign text).1, (exponentSign text).2 ++ rest) := by
  obtain ⟨c, text, rfl⟩ := List.exists_cons_of_ne_nil hne
  rw [exponentSign.eq_def, exponentSign.eq_def, List.cons_append]
  split
  · next heq =>
    cases heq
    rfl
  · next heq =>
    cases heq
    rfl
  · next hminus hplus =>
    split
    · next heq =>
      cases heq
      exact absurd rfl (hminus _)
    · next heq =>
      cases heq
      exact absurd rfl (hplus _)
    · rfl

theorem exponentPart_append {exponent : Option (Bool × List Nat)} (hends : Ends rest)
    (h : exponentPart text = .ok (exponent, more)) :
    exponentPart (text ++ rest) = .ok (exponent, more ++ rest) := by
  cases text with
  | nil =>
    -- What follows a number cannot begin an exponent.
    cases h
    unfold exponentPart
    split
    · next c tail heq =>
      have hc := hends (some c) (by simp_all)
      have hne : ¬ (c = 'e' ∨ c = 'E') := by
        rintro (rfl | rfl)
        · exact hc.2.2.1 rfl
        · exact hc.2.2.2 rfl
      rw [if_neg hne]
    · rfl
  | cons c text =>
    cases c with
    | none =>
      cases h
      rfl
    | some c =>
      by_cases hc : c = 'e' ∨ c = 'E'
      · rw [exponentPart_cons_eq hc] at h
        obtain ⟨⟨ds', more'⟩, hdigits, hok⟩ := bind_eq_ok_iff.mp h
        cases hok
        have hne : text ≠ [] := by
          rintro rfl
          cases hdigits
        rw [List.cons_append, exponentPart_cons_eq hc, exponentSign_append hne]
        exact bind_eq_ok_iff.mpr ⟨_, someDigits_append hends hdigits, rfl⟩
      · -- Another character begins no exponent, whatever comes after it.
        unfold exponentPart at h ⊢
        dsimp only [List.cons_append] at h ⊢
        rw [if_neg hc] at h ⊢
        cases h
        rfl

/-- The sign of a numeral and what follows it. -/
def sign (text : List Item) : Bool × List Item :=
  match text with
  | some '-' :: rest => (true, rest)
  | _ => (false, text)

theorem numeral_eq {negative : Bool} {tail : List Item} (h : sign text = (negative, tail)) :
    numeral text = (do
      let (whole, text) ← wholePart tail
      let (fraction, text) ← fractionPart text
      let (exponent, text) ← exponentPart text
      .ok ({ negative, whole, fraction, exponent }, text)) := by
  have hparts : numeral text = (do
      let (whole, tail) ← wholePart (sign text).2
      let (fraction, tail) ← fractionPart tail
      let (exponent, tail) ← exponentPart tail
      .ok ({ negative := (sign text).1, whole, fraction, exponent }, tail)) := rfl
  rw [hparts, h]

theorem numeral_eq_ok_iff {n : Numeral} :
    numeral text = .ok (n, more) ↔ ∃ t₁ t₂ t₃, sign text = (n.negative, t₁) ∧
      wholePart t₁ = .ok (n.whole, t₂) ∧ fractionPart t₂ = .ok (n.fraction, t₃) ∧
      exponentPart t₃ = .ok (n.exponent, more) := by
  obtain ⟨negative, tail, hsign⟩ : ∃ negative tail, sign text = (negative, tail) := ⟨_, _, rfl⟩
  rw [numeral_eq hsign]
  simp only [bind_eq_ok_iff]
  constructor
  · rintro ⟨⟨whole, t₂⟩, hwhole, ⟨fraction, t₃⟩, hfraction, ⟨exponent, t₄⟩, hexponent, hok⟩
    cases hok
    exact ⟨tail, t₂, t₃, hsign, hwhole, hfraction, hexponent⟩
  · rintro ⟨t₁, t₂, t₃, hsign', hwhole, hfraction, hexponent⟩
    obtain ⟨rfl, rfl⟩ := Prod.mk.inj (hsign.symm.trans hsign')
    exact ⟨_, hwhole, _, hfraction, _, hexponent, rfl⟩

theorem sign_append {negative : Bool} {tail : List Item} (hne : tail ≠ [])
    (h : sign text = (negative, tail)) : sign (text ++ rest) = (negative, tail ++ rest) := by
  unfold sign at h
  split at h
  · cases h
    rfl
  · next hminus =>
    cases h
    obtain ⟨c, text, rfl⟩ := List.exists_cons_of_ne_nil hne
    unfold sign
    split
    · next heq =>
      cases heq
      exact absurd rfl (hminus text)
    · rfl

theorem numeral_append {n : Numeral} (hends : Ends rest)
    (h : numeral text = .ok (n, more)) : numeral (text ++ rest) = .ok (n, more ++ rest) := by
  rw [numeral_eq_ok_iff] at h ⊢
  obtain ⟨t₁, t₂, t₃, hsign, hwhole, hfraction, hexponent⟩ := h
  have hne : t₁ ≠ [] := by
    rintro rfl
    cases hwhole
  exact ⟨_, _, _, sign_append hne hsign, wholePart_append hends hwhole,
    fractionPart_append hends hfraction, exponentPart_append hends hexponent⟩

end Append

end Draft
end TaskTracking.Json

namespace TaskTracking

/-! ### Decimal digits -/

/-- The values of the decimal digits of a natural, the first one first. -/
def decimals (n : Nat) : List Nat :=
  if n < 10 then [n] else decimals (n / 10) ++ [n % 10]

theorem decimalDigits_eq (n : Nat) : decimalDigits n = (decimals n).map Nat.digitChar := by
  unfold decimalDigits
  induction n using Nat.strongRecOn with
  | ind n ih =>
    rw [Nat.toDigits_eq_if (by decide), decimals]
    split
    · rfl
    · rw [ih (n / 10) (by omega)]
      simp

theorem decimals_lt (n : Nat) : ∀ d ∈ decimals n, d < 10 := by
  induction n using Nat.strongRecOn with
  | ind n ih =>
    rw [decimals]
    split
    · simpa
    · intro d hd
      rw [List.mem_append, List.mem_singleton] at hd
      rcases hd with hd | hd
      · exact ih (n / 10) (by omega) d hd
      · omega

theorem decimals_ne_nil (n : Nat) : decimals n ≠ [] := by
  rw [decimals]
  split <;> simp

/-- Only zero begins with a zero. -/
theorem head?_decimals {n : Nat} (h : (decimals n).head? = some 0) : n = 0 := by
  induction n using Nat.strongRecOn with
  | ind n ih =>
    rw [decimals] at h
    split at h
    · simpa using h
    · obtain ⟨d, ds, hds⟩ := List.exists_cons_of_ne_nil (decimals_ne_nil (n / 10))
      rw [hds] at h
      have hfront := ih (n / 10) (by omega) (by rw [hds]; exact h)
      omega

namespace Json

namespace Numeral

theorem accumulate_append {s t : Nat} {ds more : List Nat} (h : accumulate s ds = (t, [])) :
    accumulate s (ds ++ more) = accumulate t more := by
  induction ds generalizing s with
  | nil =>
    cases h
    rfl
  | cons d ds ih =>
    rw [List.cons_append, accumulate]
    rw [accumulate] at h
    split at h
    · next hlt =>
      rw [if_pos hlt, ih h]
    · cases h

/-- Digits that fit are taken in whole. -/
theorem accumulate_decimals {n : Nat} (h : n < significandLimit) :
    accumulate 0 (decimals n) = (n, []) := by
  induction n using Nat.strongRecOn with
  | ind n ih =>
    rw [decimals]
    split
    · simp [accumulate, h]
    · -- The digits but the last one are those of `n / 10`, which fits as `n` does.
      have hfront := ih (n / 10) (by omega) (by omega)
      have hvalue : n / 10 * 10 + n % 10 = n := by omega
      rw [accumulate_append hfront, accumulate, hvalue, if_pos h, accumulate]

theorem accumulate_lt {s : Nat} (ds : List Nat) (h : s < significandLimit) :
    (accumulate s ds).1 < significandLimit := by
  induction ds generalizing s with
  | nil => exact h
  | cons d ds ih =>
    rw [accumulate]
    split
    · next hlt => exact ih hlt
    · exact h

end Numeral

namespace Draft

theorem digit?_digitChar {d : Nat} (h : d < 10) : digit? (some (Nat.digitChar d)) = some d := by
  revert d
  decide

theorem digits_of_lt (ds : List Nat) (h : ∀ d ∈ ds, d < 10) :
    digits ((ds.map Nat.digitChar).map some) = (ds, []) := by
  induction ds with
  | nil => rfl
  | cons d ds ih =>
    have hd := digit?_digitChar (h d (by simp))
    have htail := ih fun e he => h e (by simp [he])
    rw [List.map_cons, List.map_cons, digits, hd, htail]

theorem wholePart_decimalDigits (n : Nat) :
    wholePart ((decimalDigits n).map some) = .ok (decimals n, []) := by
  rw [wholePart_eq_ok_iff, decimalDigits_eq]
  refine ⟨digits_of_lt _ (decimals_lt n), decimals_ne_nil n, ?_⟩
  rintro ⟨hzero, hlong⟩
  -- A leading zero is the only digit of its number.
  rw [head?_decimals hzero] at hlong
  exact absurd hlong (by simp [decimals])

theorem digitChar_ne_minus {d : Nat} (h : d < 10) : Nat.digitChar d ≠ '-' := by
  revert d
  decide

theorem sign_decimalDigits (n : Nat) :
    sign ((decimalDigits n).map some) = (false, (decimalDigits n).map some) := by
  obtain ⟨d, ds, hds⟩ := List.exists_cons_of_ne_nil (decimals_ne_nil n)
  have hminus := digitChar_ne_minus (decimals_lt n d (by simp [hds]))
  rw [decimalDigits_eq, hds]
  unfold sign
  split
  · next heq =>
    exact absurd (Option.some.inj (List.cons.inj heq).1) hminus
  · rfl

/-- The text of an integer is the numeral of its digits. -/
theorem numeral_integerText (i : Int) :
    numeral ((integerText i).map some) =
      .ok ({ negative := i < 0, whole := decimals i.natAbs, fraction := none, exponent := none },
        []) := by
  have hwhole := wholePart_decimalDigits i.natAbs
  rw [numeral_eq_ok_iff]
  unfold integerText
  split
  · next hneg =>
    exact ⟨_, [], [], by simp [sign, hneg], hwhole, rfl, rfl⟩
  · next hneg =>
    exact ⟨_, [], [], by simp [hneg, sign_decimalDigits], hwhole, rfl, rfl⟩

end Draft

/-! ### Ranges -/

/-- The numbers that a text can hold: integers of 64 bits, signed or not, and finite floats. -/
def Number.InRange : Number → Prop
  | .integer i => -(1 <<< 63) ≤ i ∧ i < 1 <<< 64
  | .float x => x.isFinite = true

instance (n : Number) : Decidable n.InRange :=
  match n with
  | .integer i => inferInstanceAs (Decidable (-(1 <<< 63) ≤ i ∧ i < 1 <<< 64))
  | .float x => inferInstanceAs (Decidable (x.isFinite = true))

theorem Number.inRange_integer_iff {i : Int} :
    (Number.integer i).InRange ↔ -9223372036854775808 ≤ i ∧ i < 18446744073709551616 := Iff.rfl

/-- An integer is read back. -/
theorem number?_decimals {i : Int} (h : (Number.integer i).InRange) :
    Numeral.number?
        { negative := i < 0, whole := decimals i.natAbs, fraction := none, exponent := none } =
      some (.integer i) := by
  obtain ⟨hlow, hhigh⟩ := Number.inRange_integer_iff.mp h
  have hlimit : Numeral.significandLimit = 18446744073709551616 := rfl
  have hacc : Numeral.accumulate 0 (decimals i.natAbs) = (i.natAbs, []) :=
    Numeral.accumulate_decimals (by omega)
  unfold Numeral.number?
  rw [hacc]
  simp only [and_self, ↓reduceIte, Option.some.injEq]
  unfold Numeral.integer
  by_cases hneg : i < 0
  · -- A negative integer stays one, as it is not zero and has 63 bits at most.
    have hfits : ¬ (i.natAbs = 0 ∨ 1 <<< 63 < i.natAbs) := by
      have : (1 <<< 63 : Nat) = 9223372036854775808 := rfl
      omega
    simp only [hneg, decide_true, Bool.not_true, Bool.false_eq_true, ↓reduceIte, hfits]
    congr 1
    omega
  · simp [hneg]
    omega

end Json
end TaskTracking
