import TaskTracking.Text.Utf8

/-! # UTF-8 read back

  Whatever is encoded is decoded again (`Utf8.decode_encode`). The argument
  follows the length of a character's form: its first byte says how many bytes
  are owed and bounds the second one, and within these bounds all bytes are
  the expected ones.
-/

namespace TaskTracking.Utf8

theorem decodeFrom_ofNat {stage next : Stage} {n : Nat} {items : List (Option Char)}
    (rest : List UInt8) (hn : n < 256) (hstep : step stage n = (items, next)) :
    decodeFrom stage (UInt8.ofNat n :: rest) = items ++ decodeFrom next rest := by
  have hbyte : (UInt8.ofNat n).toNat = n := by simp [hn]
  cases stage with
  | start =>
    rw [decodeFrom, hbyte, hstep]
  | inside owed low high value =>
    rw [decodeFrom, hbyte, hstep]

/-! ### Single bytes -/

section Owed

variable {low high value d : Nat} (rest : List UInt8)

/-- An owed byte that is not the last one adds its six bits. -/
theorem decodeFrom_owed (owed : Nat) (hd : d < 64) (hlow : low ≤ d + 128) (hhigh : d + 128 ≤ high) :
    decodeFrom (.inside (owed + 2) low high value) (UInt8.ofNat (d + 128) :: rest) =
      decodeFrom (.inside (owed + 1) 0x80 0xBF (value * 64 + d)) rest := by
  have hstep : step (.inside (owed + 2) low high value) (d + 128) =
      ([], .inside (owed + 1) 0x80 0xBF (value * 64 + d)) := by
    unfold step
    dsimp only
    rw [if_pos ⟨hlow, hhigh⟩, if_neg (by omega), Nat.add_sub_cancel]
    rfl
  rw [decodeFrom_ofNat rest (by omega) hstep, List.nil_append]

/-- The last owed byte completes the character. -/
theorem decodeFrom_last (hd : d < 64) (hlow : low ≤ d + 128) (hhigh : d + 128 ≤ high) :
    decodeFrom (.inside 1 low high value) (UInt8.ofNat (d + 128) :: rest) =
      some (Char.ofNat (value * 64 + d)) :: decodeFrom .start rest := by
  have hstep : step (.inside 1 low high value) (d + 128) =
      ([some (Char.ofNat (value * 64 + d))], .start) := by
    unfold step
    dsimp only
    rw [if_pos ⟨hlow, hhigh⟩, if_pos rfl, Nat.add_sub_cancel]
  rw [decodeFrom_ofNat rest (by omega) hstep, List.singleton_append]

end Owed

theorem step_one {v : Nat} (h : v < 128) : step .start v = ([some (Char.ofNat v)], .start) :=
  if_pos h

theorem step_two {a : Nat} (hlow : 2 ≤ a) (hhigh : a < 32) :
    step .start (a + 192) = ([], .inside 1 0x80 0xBF a) := by
  unfold step begin
  rw [if_neg (by omega), if_neg (by omega), if_pos (by omega), Nat.add_sub_cancel]

/-- The first of three bytes, with bounds for the second one that leave out what is shorter
    and the halves of longer characters. -/
theorem step_three {v : Nat} (hlow : 0x800 ≤ v) (hhigh : v ≤ 0xFFFF)
    (hhalf : v < 0xD800 ∨ 0xDFFF < v) :
    ∃ low high, step .start (v / 4096 + 224) = ([], .inside 2 low high (v / 4096)) ∧
      low ≤ v / 64 % 64 + 128 ∧ v / 64 % 64 + 128 ≤ high := by
  unfold step begin
  rw [if_neg (by omega), if_neg (by omega), if_neg (by omega)]
  -- Behind a lead of zero the second byte is bounded from below, behind thirteen from above.
  by_cases hzero : v / 4096 = 0
  · rw [if_pos (by omega), hzero]
    exact ⟨_, _, rfl, by omega, by omega⟩
  · rw [if_neg (by omega)]
    by_cases hthirteen : v / 4096 = 13
    · rw [if_pos (by omega), hthirteen]
      exact ⟨_, _, rfl, by omega, by omega⟩
    · rw [if_neg (by omega), if_pos (by omega), Nat.add_sub_cancel]
      exact ⟨_, _, rfl, by omega, by omega⟩

/-- The first of four bytes, with bounds that leave out what is shorter or no character. -/
theorem step_four {v : Nat} (hlow : 0x10000 ≤ v) (hhigh : v < 0x110000) :
    ∃ low high, step .start (v / 262144 + 240) = ([], .inside 3 low high (v / 262144)) ∧
      low ≤ v / 4096 % 64 + 128 ∧ v / 4096 % 64 + 128 ≤ high := by
  unfold step begin
  rw [if_neg (by omega), if_neg (by omega), if_neg (by omega), if_neg (by omega),
    if_neg (by omega), if_neg (by omega)]
  -- Behind a lead of zero the second byte is bounded from below, behind four from above.
  by_cases hzero : v / 262144 = 0
  · rw [if_pos (by omega), hzero]
    exact ⟨_, _, rfl, by omega, by omega⟩
  · rw [if_neg (by omega)]
    by_cases hfour : v / 262144 = 4
    · rw [if_neg (by omega), if_pos (by omega), hfour]
      exact ⟨_, _, rfl, by omega, by omega⟩
    · rw [if_pos (by omega), Nat.add_sub_cancel]
      exact ⟨_, _, rfl, by omega, by omega⟩

/-! ### Characters -/

section Forms

variable {v : Nat} (rest : List UInt8)

theorem decodeFrom_one (h : v < 128) :
    decodeFrom .start (UInt8.ofNat v :: rest) = some (Char.ofNat v) :: decodeFrom .start rest := by
  rw [decodeFrom_ofNat rest (by omega) (step_one h), List.singleton_append]

theorem decodeFrom_two (hlow : 0x80 ≤ v) (hhigh : v < 0x800) :
    decodeFrom .start (UInt8.ofNat (v / 64 + 192) :: UInt8.ofNat (v % 64 + 128) :: rest) =
      some (Char.ofNat v) :: decodeFrom .start rest := by
  have hfirst := step_two (a := v / 64) (by omega) (by omega)
  have hvalue : v / 64 * 64 + v % 64 = v := by omega
  rw [decodeFrom_ofNat _ (by omega) hfirst, List.nil_append,
    decodeFrom_last _ (by omega) (by omega) (by omega), hvalue]

theorem decodeFrom_three (hlow : 0x800 ≤ v) (hhigh : v ≤ 0xFFFF)
    (hhalf : v < 0xD800 ∨ 0xDFFF < v) :
    decodeFrom .start (UInt8.ofNat (v / 4096 + 224) :: UInt8.ofNat (v / 64 % 64 + 128) ::
        UInt8.ofNat (v % 64 + 128) :: rest) =
      some (Char.ofNat v) :: decodeFrom .start rest := by
  obtain ⟨low, high, hfirst, hsecond, hsecond'⟩ := step_three hlow hhigh hhalf
  have hvalue : (v / 4096 * 64 + v / 64 % 64) * 64 + v % 64 = v := by omega
  rw [decodeFrom_ofNat _ (by omega) hfirst, List.nil_append,
    decodeFrom_owed _ 0 (by omega) hsecond hsecond',
    decodeFrom_last _ (by omega) (by omega) (by omega), hvalue]

theorem decodeFrom_four (hlow : 0x10000 ≤ v) (hhigh : v < 0x110000) :
    decodeFrom .start (UInt8.ofNat (v / 262144 + 240) :: UInt8.ofNat (v / 4096 % 64 + 128) ::
        UInt8.ofNat (v / 64 % 64 + 128) :: UInt8.ofNat (v % 64 + 128) :: rest) =
      some (Char.ofNat v) :: decodeFrom .start rest := by
  obtain ⟨low, high, hfirst, hsecond, hsecond'⟩ := step_four hlow hhigh
  have hvalue : ((v / 262144 * 64 + v / 4096 % 64) * 64 + v / 64 % 64) * 64 + v % 64 = v := by
    omega
  rw [decodeFrom_ofNat _ (by omega) hfirst, List.nil_append,
    decodeFrom_owed _ 1 (by omega) hsecond hsecond',
    decodeFrom_owed _ 0 (by omega) (by omega) (by omega),
    decodeFrom_last _ (by omega) (by omega) (by omega), hvalue]

end Forms

theorem decodeFrom_utf8EncodeChar (c : Char) (rest : List UInt8) :
    decodeFrom .start (String.utf8EncodeChar c ++ rest) = some c :: decodeFrom .start rest := by
  have hvalid : c.val.toNat < 0xD800 ∨ 0xDFFF < c.val.toNat ∧ c.val.toNat < 0x110000 := c.valid
  have hchar : Char.ofNat c.val.toNat = c := Char.ofNat_toNat c
  unfold String.utf8EncodeChar
  dsimp only
  generalize c.val.toNat = v at *
  -- The mask on each lead takes nothing away, as the form is long enough for the value.
  by_cases hone : v ≤ 127
  · rw [if_pos hone, ← hchar]
    exact decodeFrom_one rest (by omega)
  · by_cases htwo : v ≤ 2047
    · have hlead : v / 64 % 32 = v / 64 := by omega
      rw [if_neg hone, if_pos htwo, hlead, ← hchar]
      exact decodeFrom_two rest (by omega) (by omega)
    · by_cases hthree : v ≤ 65535
      · have hlead : v / 4096 % 16 = v / 4096 := by omega
        rw [if_neg hone, if_neg htwo, if_pos hthree, hlead, ← hchar]
        exact decodeFrom_three rest (by omega) hthree (by omega)
      · have hlead : v / 262144 % 8 = v / 262144 := by omega
        rw [if_neg hone, if_neg htwo, if_neg hthree, hlead, ← hchar]
        exact decodeFrom_four rest (by omega) (by omega)

/-- What is encoded is decoded again. -/
theorem decode_encode (text : List Char) : decode (encode text) = text.map some := by
  unfold decode encode
  induction text with
  | nil => rfl
  | cons c text ih => rw [List.flatMap_cons, decodeFrom_utf8EncodeChar, ih, List.map_cons]

end TaskTracking.Utf8
