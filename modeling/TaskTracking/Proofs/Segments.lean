import TaskTracking.Proofs.Utf8
import TaskTracking.Url.Parser

/-! # Encoded segments

  A text encoded as one segment is read back byte by byte
  (`Percent.decode_encode`), so different texts have different forms. None of
  its characters divides a path, nothing in it is encoded a second time, and it
  stands for a place above or for the place itself only if the text is `..` or
  `.` (`Percent.isAbove_encode`, `Percent.isHere_encode`).

  A path keeps all segments it is given, one after the other, as long as none
  of them is special (`Url.resolve_of_named`).
-/

namespace TaskTracking

/-! ### Bytes below 128 -/

theorem Utf8.encode_singleton {c : Char} (h : c.toNat < 0x80) :
    Utf8.encode [c] = [UInt8.ofNat c.toNat] := by
  have hshort : c.val.toNat ≤ 127 := Nat.le_of_lt_succ h
  unfold Utf8.encode
  rw [List.flatMap_singleton]
  unfold String.utf8EncodeChar
  exact if_pos hshort

/-- A byte below 128 is a character of the text, never a part of a longer one. -/
theorem Utf8.mem_of_mem_encode {b : UInt8} {text : List Char} (hb : b ∈ Utf8.encode text)
    (hlow : b.toNat < 0x80) : Char.ofNat b.toNat ∈ text := by
  obtain ⟨c, hc, hmem⟩ := List.mem_flatMap.mp hb
  have hvalid : c.val.toNat < 0xD800 ∨ 0xDFFF < c.val.toNat ∧ c.val.toNat < 0x110000 := c.valid
  have hchar : Char.ofNat c.val.toNat = c := Char.ofNat_toNat c
  unfold String.utf8EncodeChar at hmem
  dsimp only at hmem
  by_cases hshort : c.val.toNat ≤ 127
  · rw [if_pos hshort] at hmem
    have hbyte : b.toNat = c.val.toNat := by
      rw [List.mem_singleton.mp hmem, UInt8.toNat_ofNat']
      omega
    rwa [hbyte, hchar]
  · -- Every byte of a longer form is 128 or more.
    exfalso
    have hhigh : ∀ n, 0x80 ≤ n → n < 256 → b = UInt8.ofNat n → False := by
      intro n hn hn' heq
      rw [heq, UInt8.toNat_ofNat'] at hlow
      omega
    rw [if_neg hshort] at hmem
    split at hmem
    · simp only [List.mem_cons, List.not_mem_nil, or_false] at hmem
      rcases hmem with h | h
      · exact hhigh _ (by omega) (by omega) h
      · exact hhigh _ (by omega) (by omega) h
    · split at hmem
      · simp only [List.mem_cons, List.not_mem_nil, or_false] at hmem
        rcases hmem with h | h | h
        · exact hhigh _ (by omega) (by omega) h
        · exact hhigh _ (by omega) (by omega) h
        · exact hhigh _ (by omega) (by omega) h
      · simp only [List.mem_cons, List.not_mem_nil, or_false] at hmem
        rcases hmem with h | h | h | h
        · exact hhigh _ (by omega) (by omega) h
        · exact hhigh _ (by omega) (by omega) h
        · exact hhigh _ (by omega) (by omega) h
        · exact hhigh _ (by omega) (by omega) h

namespace Percent

variable {set : Char → Bool}

/-! ### Hexadecimal digits -/

theorem hexValue?_hexDigit {n : Nat} (h : n < 16) : hexValue? (hexDigit n) = some n := by
  have hall : ∀ n : Fin 16, hexValue? (hexDigit n) = some n.val := by decide
  exact hall ⟨n, h⟩

/-- A digit is one of the characters that no segment encodes. -/
theorem segment_hexDigit {n : Nat} (h : n < 16) : segment (hexDigit n) = false := by
  have hall : ∀ n : Fin 16, segment (hexDigit n) = false := by decide
  exact hall ⟨n, h⟩

theorem hexDigit_ne_percent {n : Nat} (h : n < 16) : hexDigit n ≠ '%' := by
  intro heq
  have hplain := segment_hexDigit h
  rw [heq] at hplain
  exact absurd hplain (by decide)

/-! ### One byte

  A byte is either kept, as its own character, or escaped. -/

/-- The byte stands for itself. -/
def Kept (set : Char → Bool) (b : UInt8) : Prop :=
  b.toNat < 0x80 ∧ set (Char.ofNat b.toNat) = false

theorem encodeByte_of_kept {b : UInt8} (h : Kept set b) :
    encodeByte set b = [Char.ofNat b.toNat] := by
  have hcond : b.toNat < 0x80 ∧ (!set (Char.ofNat b.toNat)) = true := ⟨h.1, by rw [h.2]; rfl⟩
  unfold encodeByte
  exact if_pos hcond

theorem encodeByte_of_not_kept {b : UInt8} (h : ¬ Kept set b) : encodeByte set b = escape b := by
  unfold encodeByte
  refine if_neg ?_
  intro hcond
  exact h ⟨hcond.1, by simpa using hcond.2⟩

/-- Where the mark `%` is encoded, no kept byte is one. -/
theorem Kept.ne_percent {b : UInt8} (h : Kept set b) (hmark : set '%' = true) :
    Char.ofNat b.toNat ≠ '%' := by
  intro heq
  have hplain := h.2
  rw [heq, hmark] at hplain
  exact absurd hplain (by decide)

theorem Kept.toNat {b : UInt8} (h : Kept set b) : (Char.ofNat b.toNat).toNat = b.toNat := by
  have hall : ∀ n : Fin 128, (Char.ofNat n.val).toNat = n.val := by decide
  exact hall ⟨b.toNat, h.1⟩

theorem Kept.toNat_lt {b : UInt8} (h : Kept set b) : (Char.ofNat b.toNat).toNat < 0x80 := by
  rw [h.toNat]
  exact h.1

/-! ### The characters of an encoded text -/

theorem mem_encode {c : Char} {text : List Char} (h : c ∈ encode set text) :
    c ∈ text ∧ c.toNat < 0x80 ∧ set c = false ∨ c = '%' ∨ segment c = false := by
  obtain ⟨b, hb, hc⟩ := List.mem_flatMap.mp h
  by_cases hkept : Kept set b
  · left
    rw [encodeByte_of_kept hkept] at hc
    rw [List.mem_singleton.mp hc]
    exact ⟨Utf8.mem_of_mem_encode hb hkept.1, hkept.toNat_lt, hkept.2⟩
  · right
    have hbyte : b.toNat < 256 := b.toNat_lt
    rw [encodeByte_of_not_kept hkept] at hc
    simp only [escape, List.mem_cons, List.not_mem_nil, or_false] at hc
    rcases hc with hc | hc | hc
    · exact .inl hc
    · exact .inr (hc ▸ segment_hexDigit (by omega))
    · exact .inr (hc ▸ segment_hexDigit (by omega))

/-- A text encoded as one segment holds letters, digits, four marks and `%`. -/
theorem mem_encode_segment {c : Char} {text : List Char} (h : c ∈ encode segment text) :
    c = '%' ∨ segment c = false := by
  rcases mem_encode h with ⟨-, -, hplain⟩ | hmark | hplain
  · exact .inr hplain
  · exact .inl hmark
  · exact .inr hplain

theorem toNat_of_isAlphanum {c : Char} (h : c.isAlphanum = true) : c.toNat < 0x80 := by
  have hbound : ∀ m : Char, m.toNat < 0x80 → c.val ≤ m.val → c.toNat < 0x80 := by
    intro m hm hle
    exact Nat.lt_of_le_of_lt (UInt32.le_iff_toNat_le.mp hle) hm
  rcases (Bool.or_eq_true ..).mp h with h | h
  · rcases (Bool.or_eq_true ..).mp h with h | h
    · exact hbound 'Z' (by decide) (of_decide_eq_true h).2
    · exact hbound 'z' (by decide) (of_decide_eq_true ((Bool.and_eq_true ..).mp h).2)
  · exact hbound '9' (by decide) (of_decide_eq_true ((Bool.and_eq_true ..).mp h).2)

theorem toNat_of_segment {c : Char} (h : segment c = false) : c.toNat < 0x80 := by
  unfold segment at h
  rw [Bool.not_eq_false', Bool.or_eq_true] at h
  rcases h with h | h
  · exact toNat_of_isAlphanum h
  · have hall : ∀ m ∈ ['*', '-', '.', '_'], m.toNat < 0x80 := by simp
    exact hall c (List.contains_iff_mem.mp h)

/-- What is kept of a segment is kept of a path. -/
theorem path_of_segment {c : Char} (h : segment c = false) : path c = false := by
  have hall : ∀ n : Fin 128,
      segment (Char.ofNat n.val) = false → path (Char.ofNat n.val) = false := by decide
  have hc := hall ⟨c.toNat, toNat_of_segment h⟩
  simp only [Char.ofNat_toNat] at hc
  exact hc h

/-! ### Encoding twice -/

/-- A text without characters of the set is its own encoded form. -/
theorem encode_of_plain {text : List Char} (h : ∀ c ∈ text, c.toNat < 0x80 ∧ set c = false) :
    encode set text = text := by
  induction text with
  | nil => rfl
  | cons c text ih =>
    obtain ⟨⟨hlow, hplain⟩, htext⟩ := List.forall_mem_cons.mp h
    have hbyte : (UInt8.ofNat c.toNat).toNat = c.toNat := by
      rw [UInt8.toNat_ofNat']
      omega
    have hkept : Kept set (UInt8.ofNat c.toNat) := by
      unfold Kept
      rw [hbyte, Char.ofNat_toNat]
      exact ⟨hlow, hplain⟩
    have hfirst : encode set [c] = [c] := by
      unfold encode
      rw [Utf8.encode_singleton hlow, List.flatMap_singleton, encodeByte_of_kept hkept, hbyte,
        Char.ofNat_toNat]
    calc encode set (c :: text)
        = encode set [c] ++ encode set text := by
          unfold encode Utf8.encode
          rw [← List.flatMap_append, ← List.flatMap_append, List.singleton_append]
      _ = c :: text := by rw [hfirst, ih htext, List.singleton_append]

/-- A path takes an encoded segment as it is. -/
theorem encode_path_segment (text : List Char) :
    encode path (encode segment text) = encode segment text := by
  refine encode_of_plain ?_
  intro c hc
  rcases mem_encode_segment hc with rfl | hplain
  · decide
  · exact ⟨toNat_of_segment hplain, path_of_segment hplain⟩

/-! ### Decoding -/

theorem decode_cons {c : Char} (h : c ≠ '%') (rest : List Char) :
    decode (c :: rest) = Utf8.encode [c] ++ decode rest := by
  rw [decode]
  intro high low tail hc
  exact absurd hc h

theorem decode_escape (b : UInt8) (rest : List Char) :
    decode (escape b ++ rest) = b :: decode rest := by
  have hbyte : b.toNat < 256 := b.toNat_lt
  have hvalue : b.toNat / 16 * 16 + b.toNat % 16 = b.toNat := by omega
  unfold escape
  rw [List.cons_append, List.cons_append, List.singleton_append, decode,
    hexValue?_hexDigit (by omega), hexValue?_hexDigit (by omega)]
  simp only [hvalue, UInt8.ofNat_toNat]

theorem decode_encodeByte (hmark : set '%' = true) (b : UInt8) (rest : List Char) :
    decode (encodeByte set b ++ rest) = b :: decode rest := by
  by_cases hkept : Kept set b
  · rw [encodeByte_of_kept hkept, List.singleton_append, decode_cons (hkept.ne_percent hmark),
      Utf8.encode_singleton hkept.toNat_lt, hkept.toNat, UInt8.ofNat_toNat, List.singleton_append]
  · rw [encodeByte_of_not_kept hkept, decode_escape]

/-- What is encoded is decoded again, if the mark itself is encoded. -/
theorem decode_encode (hmark : set '%' = true) (text : List Char) :
    decode (encode set text) = Utf8.encode text := by
  unfold encode
  generalize Utf8.encode text = bytes
  induction bytes with
  | nil => rfl
  | cons b bytes ih => rw [List.flatMap_cons, decode_encodeByte hmark, ih]

theorem encode_injective (hmark : set '%' = true) {text text' : List Char}
    (h : encode set text = encode set text') : text = text' := by
  have hbytes : Utf8.encode text = Utf8.encode text' := by
    rw [← decode_encode hmark text, h, decode_encode hmark text']
  have hchars : text.map some = text'.map some := by
    rw [← Utf8.decode_encode text, hbytes, Utf8.decode_encode text']
  exact List.map_inj_right (fun _ _ => Option.some.inj) |>.mp hchars

/-! ### Special segments -/

theorem dotForm_cons {c : Char} (h : c ≠ '%') (rest : List Char) :
    Url.dotForm (c :: rest) = c :: Url.dotForm rest := by
  rw [Url.dotForm]
  · intro tail hc
    exact absurd hc h
  · intro tail hc
    exact absurd hc h

/-- An escaped byte other than a dot is no dot. -/
theorem dotForm_escape {b : UInt8} (hb : b.toNat ≠ 0x2E) (rest : List Char) :
    Url.dotForm (escape b ++ rest) = escape b ++ Url.dotForm rest := by
  have hbyte : b.toNat < 256 := b.toNat_lt
  have hhigh : b.toNat / 16 < 16 := by omega
  have hlow : b.toNat % 16 < 16 := by omega
  have hdot : ∀ h l : Fin 16, hexDigit h = '2' → (hexDigit l = 'e' ∨ hexDigit l = 'E') →
      h.val * 16 + l.val = 0x2E := by decide
  have hpair : ¬ (hexDigit (b.toNat / 16) = '2' ∧
      (hexDigit (b.toNat % 16) = 'e' ∨ hexDigit (b.toNat % 16) = 'E')) := by
    rintro ⟨hh, hl⟩
    have hvalue := hdot ⟨_, hhigh⟩ ⟨_, hlow⟩ hh hl
    simp only at hvalue
    omega
  unfold escape
  simp only [List.cons_append, List.nil_append]
  rw [Url.dotForm, dotForm_cons (hexDigit_ne_percent hhigh),
    dotForm_cons (hexDigit_ne_percent hlow)]
  · intro tail _ htail
    obtain ⟨hh, htail⟩ := List.cons.inj htail
    exact hpair ⟨hh, .inl (List.cons.inj htail).1⟩
  · intro tail _ htail
    obtain ⟨hh, htail⟩ := List.cons.inj htail
    exact hpair ⟨hh, .inr (List.cons.inj htail).1⟩

/-- No dot is encoded, so an encoded text shows its dots as they are. -/
theorem dotForm_encode (hmark : set '%' = true) (hdot : set '.' = false) (text : List Char) :
    Url.dotForm (encode set text) = encode set text := by
  unfold encode
  generalize Utf8.encode text = bytes
  induction bytes with
  | nil => rfl
  | cons b bytes ih =>
    rw [List.flatMap_cons]
    by_cases hkept : Kept set b
    · rw [encodeByte_of_kept hkept, List.singleton_append, dotForm_cons (hkept.ne_percent hmark),
        ih]
    · -- The byte of a dot is kept, so this is another one.
      have hb : b.toNat ≠ 0x2E := by
        intro heq
        refine hkept ⟨by omega, ?_⟩
        rw [heq]
        exact hdot
      rw [encodeByte_of_not_kept hkept, dotForm_escape hb, ih]

/-- An encoded text passes for a special segment only if it is the encoded form of that. -/
theorem dotForm_segment_iff {special : List Char} (hform : encode segment special = special)
    (text : List Char) : Url.dotForm (encode segment text) = special ↔ text = special := by
  rw [dotForm_encode (by decide) (by decide)]
  constructor
  · intro h
    exact encode_injective (by decide) (h.trans hform.symm)
  · intro h
    rw [h, hform]

theorem isHere_encode (text : List Char) :
    Url.isHere (encode segment text) = true ↔ text = ['.'] := by
  unfold Url.isHere
  rw [decide_eq_true_iff]
  exact dotForm_segment_iff (by decide) text

theorem isAbove_encode (text : List Char) :
    Url.isAbove (encode segment text) = true ↔ text = ['.', '.'] := by
  unfold Url.isAbove
  rw [decide_eq_true_iff]
  exact dotForm_segment_iff (by decide) text

end Percent

/-! ### Divided texts -/

namespace Url

variable {isSeparator : Char → Bool}

variable (isSeparator) in
theorem splitAll_ne_nil (text : List Char) : splitAll isSeparator text ≠ [] := by
  cases text with
  | nil => exact List.cons_ne_nil _ _
  | cons c text =>
    unfold splitAll
    split
    · exact List.cons_ne_nil _ _
    · split
      · exact List.cons_ne_nil _ _
      · exact List.cons_ne_nil _ _

theorem splitAll_cons {c : Char} (h : isSeparator c = false) {text part : List Char}
    {parts : List (List Char)} (htext : splitAll isSeparator text = part :: parts) :
    splitAll isSeparator (c :: text) = (c :: part) :: parts := by
  rw [splitAll, h, htext]
  rfl

theorem splitAll_of_plain {text : List Char} (h : ∀ c ∈ text, isSeparator c = false) :
    splitAll isSeparator text = [text] := by
  induction text with
  | nil => rfl
  | cons c text ih =>
    obtain ⟨hc, htext⟩ := List.forall_mem_cons.mp h
    exact splitAll_cons hc (ih htext)

/-- The part before a separator is split off, the rest is divided on its own. -/
theorem splitAll_append {part : List Char} (h : ∀ c ∈ part, isSeparator c = false) {c : Char}
    (hc : isSeparator c = true) (rest : List Char) :
    splitAll isSeparator (part ++ c :: rest) = part :: splitAll isSeparator rest := by
  induction part with
  | nil => rw [List.nil_append, splitAll, if_pos hc]
  | cons d part ih =>
    obtain ⟨hd, hpart⟩ := List.forall_mem_cons.mp h
    exact splitAll_cons hd (ih hpart)

theorem not_separator_of_mem_splitAll {text part : List Char}
    (hpart : part ∈ splitAll isSeparator text) {c : Char} (hc : c ∈ part) :
    isSeparator c = false := by
  induction text generalizing part with
  | nil =>
    rw [List.mem_singleton.mp hpart] at hc
    exact absurd hc List.not_mem_nil
  | cons d text ih =>
    obtain ⟨first, parts, htext⟩ := List.exists_cons_of_ne_nil (splitAll_ne_nil isSeparator text)
    rw [htext] at ih
    by_cases hd : isSeparator d = true
    · rw [splitAll, if_pos hd, htext] at hpart
      rcases List.mem_cons.mp hpart with rfl | hpart
      · exact absurd hc List.not_mem_nil
      · exact ih hpart hc
    · have hd : isSeparator d = false := by simpa using hd
      rw [splitAll_cons hd htext] at hpart
      rcases List.mem_cons.mp hpart with rfl | hpart
      · rcases List.mem_cons.mp hc with rfl | hc
        · exact hd
        · exact ih List.mem_cons_self hc
      · exact ih (List.mem_cons_of_mem _ hpart) hc

/-! ### Walking -/

/-- A segment that names what lies below, neither the place itself nor the one above. -/
def Named (segment : List Char) : Prop := isAbove segment = false ∧ isHere segment = false

instance : DecidablePred Named := fun _ => inferInstanceAs (Decidable (_ ∧ _))

theorem walk_of_named {segment : List Char} (h : Named segment) (passed rest : List (List Char)) :
    walk false passed (segment :: rest) = walk false (segment :: passed) rest := by
  rw [walk, h.1, h.2]
  rfl

theorem walk_of_above {segment : List Char} (h : isAbove segment = true) (last : List Char)
    (passed rest : List (List Char)) :
    walk false (last :: passed) (segment :: rest) =
      walk false (if rest.isEmpty then [] :: passed else passed) rest := by
  have hascend : ascend false (last :: passed) = passed := by
    cases passed with
    | nil => rfl
    | cons => rfl
  rw [walk, if_pos h, hascend]

theorem walk_of_here {segment : List Char} (habove : isAbove segment = false)
    (h : isHere segment = true) (passed rest : List (List Char)) :
    walk false passed (segment :: rest) =
      walk false (if rest.isEmpty then [] :: passed else passed) rest := by
  rw [walk, habove, if_pos h]
  rfl

theorem walk_of_all_named {segments : List (List Char)} (h : ∀ s ∈ segments, Named s)
    (passed : List (List Char)) : walk false passed segments = passed.reverse ++ segments := by
  induction segments generalizing passed with
  | nil => rw [walk, List.append_nil]
  | cons s segments ih =>
    obtain ⟨hs, hsegments⟩ := List.forall_mem_cons.mp h
    rw [walk_of_named hs, ih hsegments, List.reverse_cons, List.append_assoc,
      List.singleton_append]

/-- What a walk leaves behind was there before, was on the way or is empty. -/
theorem mem_walk {segment : List Char} {passed rest : List (List Char)}
    (h : segment ∈ walk false passed rest) : segment ∈ passed ∨ segment ∈ rest ∨ segment = [] := by
  induction rest generalizing passed with
  | nil => exact .inl (List.mem_reverse.mp h)
  | cons s rest ih =>
    -- A special segment only takes from what was passed, or adds an empty segment.
    have hclose : ∀ kept : List (List Char), kept ⊆ passed →
        segment ∈ walk false (if rest.isEmpty then [] :: kept else kept) rest →
        segment ∈ passed ∨ segment ∈ s :: rest ∨ segment = [] := by
      intro kept hkept hwalk
      rcases ih hwalk with hmem | hmem | hmem
      · split at hmem
        · rcases List.mem_cons.mp hmem with hmem | hmem
          · exact .inr (.inr hmem)
          · exact .inl (hkept hmem)
        · exact .inl (hkept hmem)
      · exact .inr (.inl (List.mem_cons_of_mem _ hmem))
      · exact .inr (.inr hmem)
    rw [walk] at h
    split at h
    · refine hclose _ ?_ h
      unfold ascend
      split
      · exact List.Subset.refl _
      · exact List.nil_subset _
      · exact List.subset_cons_self _ _
    · split at h
      · exact hclose _ (List.Subset.refl _) h
      · rcases ih h with hmem | hmem | hmem
        · rcases List.mem_cons.mp hmem with hmem | hmem
          · exact .inr (.inl (hmem ▸ List.mem_cons_self))
          · exact .inl hmem
        · exact .inr (.inl (List.mem_cons_of_mem _ hmem))
        · exact .inr (.inr hmem)

/-- Segments that need no encoding are followed as they are written. -/
theorem resolve_of_walk {directory written below : List String}
    (hplain : ∀ s ∈ written, Percent.encode Percent.path s.toList = s.toList)
    (hwalk : walk false (directory.map String.toList).reverse (written.map String.toList) =
      (directory ++ below).map String.toList) :
    resolve false directory (written.map String.toList) = directory ++ below := by
  have hsame : (written.map String.toList).map (Percent.encode Percent.path) =
      written.map String.toList := by
    rw [List.map_map]
    exact List.map_congr_left hplain
  show (walk false _ ((written.map String.toList).map _)).map String.ofList = _
  rw [hsame, hwalk, List.map_map]
  simp

end Url

end TaskTracking
