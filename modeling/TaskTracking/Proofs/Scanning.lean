import TaskTracking.Proofs.Values

/-! # Printed text read back

  Whatever is printed is scanned as the draft of what was printed:

  - A string is read back from its escapes (`Draft.stringScan_quotedTail`).
  - A value is read off every text that begins with what is printed for it
    (`Draft.scans`), if its numbers are; those that are integers always are.
    The induction is on the value; the fuel that a scan needs is twice the
    length of the text, as every step takes a character or ends the scan.
-/

namespace TaskTracking.Json

namespace Draft

/-! ### Strings -/

/-- A control character has two digits, and they are read as its code. -/
theorem hexValue4?_control {n : Nat} (h : n < 32) :
    hexValue4? (some '0') (some '0') (some (Nat.digitChar (n / 16)))
      (some (Nat.digitChar (n % 16))) = some n := by
  revert n
  decide

/-- A control character is no half of another one. -/
theorem joinUnit_control {c : Char} (h : c.toNat < 32) :
    joinUnit none c.toNat = ([c], false, none) := by
  have htrail : ¬ (0xDC00 ≤ c.toNat ∧ c.toNat ≤ 0xDFFF) := by omega
  have hlead : ¬ (0xD800 ≤ c.toNat ∧ c.toNat ≤ 0xDBFF) := by omega
  simp only [joinUnit, htrail, hlead, ↓reduceIte, Char.ofNat_toNat]

/-- A character that is no quote, no backslash and no control character stands for itself. -/
theorem stringBody_plain {c : Char} (read : List Char) (rest : List Item) (hquote : c ≠ '"')
    (hslash : c ≠ '\\') (hcontrol : ¬ c < ' ') :
    stringBody .legible none read (some c :: rest) = stringBody .legible none (c :: read) rest := by
  -- One step of the recursion, taken by its definition.
  delta stringBody
  show (if c = '"' then _ else if c = '\\' then _ else if c < ' ' then _ else _) = _
  rw [if_neg hquote, if_neg hslash, if_neg hcontrol]
  rfl

theorem stringBody_shortEscape {e c : Char} (read : List Char) (rest : List Item)
    (he : shortEscape e = some c) (hu : e ≠ 'u') :
    stringBody .legible none read (some '\\' :: some e :: rest) =
      stringBody .legible none (c :: read) rest := by
  delta stringBody
  show (if e = 'u' then _ else _) = _
  rw [if_neg hu, he]
  rfl

/-- Four digits behind `u` are read together. -/
theorem stringBody_unit_eq {h₁ h₂ h₃ h₄ : Item} (read : List Char) (rest : List Item) :
    stringBody .legible none read (some '\\' :: some 'u' :: h₁ :: h₂ :: h₃ :: h₄ :: rest) =
      match hexValue4? h₁ h₂ h₃ h₄ with
      | none => .torn (.plain .syntactic)
      | some unit => stringBody (if (joinUnit none unit).2.1 then .broken else .legible)
          (joinUnit none unit).2.2 ((joinUnit none unit).1 ++ read) rest := by
  delta stringBody
  rfl

/-- An escape of four digits stands for the character that they make up. -/
theorem stringBody_unit {h₁ h₂ h₃ h₄ : Item} {c : Char} {unit : Nat} (read : List Char)
    (rest : List Item) (hunit : hexValue4? h₁ h₂ h₃ h₄ = some unit)
    (hjoin : joinUnit none unit = ([c], false, none)) :
    stringBody .legible none read (some '\\' :: some 'u' :: h₁ :: h₂ :: h₃ :: h₄ :: rest) =
      stringBody .legible none (c :: read) rest := by
  rw [stringBody_unit_eq, hunit]
  dsimp only
  rw [hjoin]
  rfl

/-- A character is read back from what is written for it. -/
theorem stringBody_escapedChar (c : Char) (read : List Char) (rest : List Item) :
    stringBody .legible none read ((escapedChar c).map some ++ rest) =
      stringBody .legible none (c :: read) rest := by
  unfold escapedChar
  split_ifs with hquote hslash hback hfeed hline hreturn htab hcontrol
  · subst hquote
    exact stringBody_shortEscape read rest rfl (by decide)
  · subst hslash
    exact stringBody_shortEscape read rest rfl (by decide)
  · subst hback
    exact stringBody_shortEscape read rest rfl (by decide)
  · subst hfeed
    exact stringBody_shortEscape read rest rfl (by decide)
  · subst hline
    exact stringBody_shortEscape read rest rfl (by decide)
  · subst hreturn
    exact stringBody_shortEscape read rest rfl (by decide)
  · subst htab
    exact stringBody_shortEscape read rest rfl (by decide)
  · have hlt : c.toNat < 32 := hcontrol
    exact stringBody_unit read rest (hexValue4?_control hlt) (joinUnit_control hlt)
  · exact stringBody_plain read rest hquote hslash hcontrol

theorem stringBody_escaped (cs read : List Char) (rest : List Item) :
    stringBody .legible none read ((cs.flatMap escapedChar).map some ++ some '"' :: rest) =
      .whole (some (String.ofList (read.reverse ++ cs))) rest := by
  induction cs generalizing read with
  | nil =>
    rw [List.append_nil]
    delta stringBody
    rfl
  | cons c cs ih =>
    rw [List.flatMap_cons, List.map_append, List.append_assoc, stringBody_escapedChar, ih]
    simp

/-- What is written behind the opening quote of a string. -/
def quotedTail (s : String) : List Item := (s.toList.flatMap escapedChar).map some ++ [some '"']

theorem map_stringText (s : String) : (stringText s).map some = some '"' :: quotedTail s := by
  simp [stringText, quotedTail]

/-- A string is read back from its text. -/
theorem stringScan_quotedTail (s : String) (rest : List Item) :
    stringScan (quotedTail s ++ rest) = .whole (some s) rest := by
  unfold stringScan quotedTail
  rw [List.append_assoc, List.singleton_append, stringBody_escaped]
  simp

/-! ### Blanks -/

theorem skipSpace_cons {c : Item} (rest : List Item) (h : isSpace c = false) :
    skipSpace (c :: rest) = c :: rest := by
  unfold skipSpace
  rw [List.dropWhile_cons, h]
  rfl

theorem digit?_of_isSpace {c : Item} (h : isSpace c = true) : digit? c = none := by
  cases c with
  | none => rfl
  | some c =>
    unfold isSpace at h
    simp only [Bool.or_eq_true, decide_eq_true_eq] at h
    rcases h with ((rfl | rfl) | rfl) | rfl
    · decide
    · decide
    · decide
    · decide

/-! ### Single steps of a scan -/

/-- A character that a number begins with. -/
def Leads (c : Char) : Prop := c = '-' ∨ (digit? (some c)).isSome = true

instance (c : Char) : Decidable (Leads c) := inferInstanceAs (Decidable (_ ∨ _))

theorem Leads.ne {c d : Char} (h : Leads c) (hd : ¬ Leads d) : c ≠ d := by
  rintro rfl
  exact hd h

theorem Leads.not_isSpace {c : Char} (h : Leads c) : isSpace (some c) = false := by
  rcases h with rfl | h
  · rfl
  · rw [Bool.eq_false_iff]
    intro hspace
    rw [digit?_of_isSpace hspace] at h
    cases h

theorem leads_of_numeral {text more : List Item} {n : Numeral}
    (h : numeral text = .ok (n, more)) : ∃ c tail, text = some c :: tail ∧ Leads c := by
  obtain ⟨t₁, t₂, t₃, hsign, hwhole, -, -⟩ := numeral_eq_ok_iff.mp h
  unfold sign at hsign
  split at hsign
  · exact ⟨'-', _, rfl, .inl rfl⟩
  · obtain ⟨-, rfl⟩ := Prod.mk.inj hsign
    obtain ⟨hdigits, hne, -⟩ := wholePart_eq_ok_iff.mp hwhole
    cases text with
    | nil => exact absurd (congrArg Prod.fst hdigits).symm hne
    | cons c text =>
      rw [digits] at hdigits
      split at hdigits
      · next d hd =>
        cases c with
        | none => cases hd
        | some c => exact ⟨c, text, rfl, .inr (by rw [hd]; rfl)⟩
      · exact absurd (congrArg Prod.fst hdigits).symm hne

section Steps

variable {fuel : Nat} {first : Bool} {text rest : List Item}

theorem scanValue_string (h : skipSpace text = some '"' :: rest) :
    scanValue (fuel + 1) text = scanString rest := by
  rw [scanValue, h]
  rfl

theorem scanValue_array (h : skipSpace text = some '[' :: rest) :
    scanValue (fuel + 1) text =
      (.array (scanItems fuel true rest).1 (scanItems fuel true rest).2.1,
        (scanItems fuel true rest).2.2) := by
  rw [scanValue, h]
  rfl

theorem scanValue_object {d : Char} {more : List Item} (h : skipSpace text = some '\x7b' :: rest)
    (hrest : skipSpace rest = some d :: more) (hd : d = '"' ∨ d = '\x7d') :
    scanValue (fuel + 1) text =
      (.object (scanFields fuel true rest).1 (scanFields fuel true rest).2.1,
        (scanFields fuel true rest).2.2) := by
  rw [scanValue, h]
  simp [hrest, hd]

theorem scanValue_number {c : Char} (h : Leads c) :
    scanValue (fuel + 1) (some c :: rest) = scanNumber (some c :: rest) := by
  have hspace := skipSpace_cons rest h.not_isSpace
  rw [scanValue, hspace]
  have hlead : c = '-' ∨ (digit? (some c)).isSome = true := h
  simp [h.ne (d := '"') (by decide), h.ne (d := '[') (by decide), h.ne (d := '\x7b') (by decide),
    h.ne (d := 'n') (by decide), h.ne (d := 't') (by decide), h.ne (d := 'f') (by decide), hlead]

theorem scanItems_close (h : skipSpace text = some ']' :: rest) :
    scanItems (fuel + 1) first text = ([], none, some rest) := by
  rw [scanItems, h]
  rfl

/-- The first item, which must be no closing bracket. -/
theorem scanItems_first {c : Item} {more after : List Item} {item : Draft}
    (h : skipSpace text = c :: more) (hc : c ≠ some ']')
    (hitem : scanValue fuel (c :: more) = (item, some after)) :
    scanItems (fuel + 1) true text =
      (item :: (scanItems fuel false after).1, (scanItems fuel false after).2) := by
  rw [scanItems, h]
  simp [hc, hitem]

theorem scanItems_next {more after : List Item} {item : Draft}
    (h : skipSpace text = some ',' :: more)
    (hitem : scanValue fuel more = (item, some after)) :
    scanItems (fuel + 1) false text =
      (item :: (scanItems fuel false after).1, (scanItems fuel false after).2) := by
  rw [scanItems, h]
  simp [hitem]

theorem scanFields_close (h : skipSpace text = some '\x7d' :: rest) :
    scanFields (fuel + 1) first text = ([], none, some rest) := by
  rw [scanFields, h]
  rfl

theorem scanFields_first {body more value after : List Item} {key : Option String} {item : Draft}
    (h : skipSpace text = some '"' :: body) (hkey : stringScan body = .whole key more)
    (hcolon : skipSpace more = some ':' :: value)
    (hitem : scanValue fuel value = (item, some after)) :
    scanFields (fuel + 1) true text =
      ((key, item) :: (scanFields fuel false after).1, (scanFields fuel false after).2) := by
  have hquote : skipSpace (some '"' :: body) = some '"' :: body := skipSpace_cons body rfl
  rw [scanFields, h]
  simp [hquote, hkey, hcolon, hitem]

theorem scanFields_next {entry body more value after : List Item} {key : Option String}
    {item : Draft} (h : skipSpace text = some ',' :: entry)
    (hentry : skipSpace entry = some '"' :: body) (hkey : stringScan body = .whole key more)
    (hcolon : skipSpace more = some ':' :: value)
    (hitem : scanValue fuel value = (item, some after)) :
    scanFields (fuel + 1) false text =
      ((key, item) :: (scanFields fuel false after).1, (scanFields fuel false after).2) := by
  rw [scanFields, h]
  simp [hentry, hkey, hcolon, hitem]

end Steps

end Draft

/-! ### Printed values -/

/-- The text of the number is one numeral, which stands for the number. -/
def Number.Readable (n : Number) : Prop :=
  ∃ m, Draft.numeral (n.text.map some) = .ok (m, []) ∧ m.number? = some n

theorem Number.readable_integer {i : Int} (h : (Number.integer i).InRange) :
    (Number.integer i).Readable :=
  ⟨_, Draft.numeral_integerText i, number?_decimals h⟩

namespace Value

/-- The items behind the first one, each behind its comma. -/
def itemTail (items : List Value) : List Char := items.flatMap fun v => ',' :: v.chars

/-- The entries behind the first one, each behind its comma. -/
def fieldTail (fields : List (String × Value)) : List Char :=
  fields.flatMap fun f => ',' :: (stringText f.1 ++ ':' :: f.2.chars)

theorem itemChars_cons (v : Value) (rest : List Value) :
    itemChars (v :: rest) = v.chars ++ itemTail rest := by
  induction rest generalizing v with
  | nil => simp [itemChars, itemTail]
  | cons w rest ih =>
    rw [itemChars, ih w]
    · simp [itemTail]
    · simp

theorem fieldChars_cons (f : String × Value) (rest : List (String × Value)) :
    fieldChars (f :: rest) = stringText f.1 ++ ':' :: f.2.chars ++ fieldTail rest := by
  induction rest generalizing f with
  | nil => simp [fieldChars, fieldTail]
  | cons g rest ih =>
    rw [fieldChars, ih g]
    · simp [fieldTail]
    · simp

/-- No value begins with a blank or a closing bracket. -/
theorem exists_chars_eq_cons {v : Value} (h : ∀ n ∈ v.numbers, n.Readable) :
    ∃ c cs, v.chars = c :: cs ∧ Draft.isSpace (some c) = false ∧ c ≠ ']' := by
  cases v with
  | null => exact ⟨'n', _, rfl, rfl, by decide⟩
  | bool b =>
    cases b with
    | false => exact ⟨'f', _, rfl, rfl, by decide⟩
    | true => exact ⟨'t', _, rfl, rfl, by decide⟩
  | number n =>
    obtain ⟨m, hnumeral, -⟩ := h n List.mem_cons_self
    obtain ⟨c, tail, htext, hlead⟩ := Draft.leads_of_numeral hnumeral
    obtain ⟨c', cs, hchars, hc, -⟩ := List.map_eq_cons_iff.mp htext
    cases hc
    exact ⟨c, cs, hchars, hlead.not_isSpace, hlead.ne (by decide)⟩
  | string s => exact ⟨'"', _, rfl, rfl, by decide⟩
  | array items => exact ⟨'[', _, rfl, rfl, by decide⟩
  | object fields => exact ⟨'\x7b', _, rfl, rfl, by decide⟩

end Value

namespace Draft

theorem ends_nil : Ends [] := by
  intro c hc
  cases hc

theorem ends_cons {c : Char} (rest : List Item)
    (h : digit? (some c) = none ∧ c ≠ '.' ∧ c ≠ 'e' ∧ c ≠ 'E') : Ends (some c :: rest) := by
  intro d hd
  cases hd
  simpa using h

theorem ends_itemTail (items : List Value) (rest : List Item) :
    Ends ((Value.itemTail items).map some ++ some ']' :: rest) := by
  cases items with
  | nil => exact ends_cons rest (by decide)
  | cons v items => exact ends_cons _ (by decide)

theorem ends_fieldTail (fields : List (String × Value)) (rest : List Item) :
    Ends ((Value.fieldTail fields).map some ++ some '\x7d' :: rest) := by
  cases fields with
  | nil => exact ends_cons rest (by decide)
  | cons f fields => exact ends_cons _ (by decide)

/-- The value is read off every text that begins with it. -/
def Scans (v : Value) : Prop :=
  ∀ fuel rest, Ends rest → 2 * v.chars.length ≤ fuel →
    scanValue fuel (v.chars.map some ++ rest) = (v.draft, some rest)

theorem scanItems_tail (items : List Value) (h : ∀ v ∈ items, Scans v) (fuel : Nat)
    (rest : List Item) (hfuel : 2 * (Value.itemTail items).length + 1 ≤ fuel) :
    scanItems fuel false ((Value.itemTail items).map some ++ some ']' :: rest) =
      (items.map Value.draft, none, some rest) := by
  induction items generalizing fuel with
  | nil =>
    obtain ⟨fuel, rfl⟩ := Nat.exists_eq_succ_of_ne_zero (Nat.ne_of_gt hfuel)
    exact scanItems_close rfl
  | cons v items ih =>
    have htail : Value.itemTail (v :: items) = ',' :: (v.chars ++ Value.itemTail items) := by
      simp [Value.itemTail]
    rw [htail, List.length_cons, List.length_append] at hfuel
    obtain ⟨fuel, rfl⟩ := Nat.exists_eq_succ_of_ne_zero (n := fuel) (by omega)
    have hitem := h v List.mem_cons_self fuel _ (ends_itemTail items rest) (by omega)
    have hrest := ih (fun w hw => h w (List.mem_cons_of_mem v hw)) fuel (by omega)
    rw [htail, List.map_cons, List.map_append, List.cons_append, List.append_assoc,
      scanItems_next rfl hitem, hrest, List.map_cons]

theorem scanItems_items (items : List Value) (hread : ∀ v ∈ items, ∀ n ∈ v.numbers, n.Readable)
    (h : ∀ v ∈ items, Scans v) (fuel : Nat) (rest : List Item)
    (hfuel : 2 * (Value.itemChars items).length + 2 ≤ fuel) :
    scanItems fuel true ((Value.itemChars items).map some ++ some ']' :: rest) =
      (items.map Value.draft, none, some rest) := by
  obtain ⟨fuel, rfl⟩ := Nat.exists_eq_succ_of_ne_zero (n := fuel) (by omega)
  cases items with
  | nil => exact scanItems_close rfl
  | cons v items =>
    rw [Value.itemChars_cons, List.length_append] at hfuel
    have hitem := h v List.mem_cons_self fuel _ (ends_itemTail items rest) (by omega)
    have hrest := scanItems_tail items (fun w hw => h w (List.mem_cons_of_mem v hw)) fuel
      rest (by omega)
    obtain ⟨c, cs, hchars, hspace, hc⟩ :=
      Value.exists_chars_eq_cons (hread v List.mem_cons_self)
    rw [hchars, List.map_cons, List.cons_append] at hitem
    rw [Value.itemChars_cons, List.map_append, List.append_assoc, hchars, List.map_cons,
      List.cons_append, scanItems_first (skipSpace_cons _ hspace) (by simpa using hc) hitem, hrest,
      List.map_cons]

theorem scanFields_tail (fields : List (String × Value)) (h : ∀ f ∈ fields, Scans f.2) (fuel : Nat)
    (rest : List Item) (hfuel : 2 * (Value.fieldTail fields).length + 1 ≤ fuel) :
    scanFields fuel false ((Value.fieldTail fields).map some ++ some '\x7d' :: rest) =
      (fields.map fun f => (some f.1, f.2.draft), none, some rest) := by
  induction fields generalizing fuel with
  | nil =>
    obtain ⟨fuel, rfl⟩ := Nat.exists_eq_succ_of_ne_zero (Nat.ne_of_gt hfuel)
    exact scanFields_close rfl
  | cons f fields ih =>
    have htail : Value.fieldTail (f :: fields) =
        ',' :: (stringText f.1 ++ ':' :: (f.2.chars ++ Value.fieldTail fields)) := by
      simp [Value.fieldTail]
    rw [htail, List.length_cons, List.length_append, List.length_cons, List.length_append] at hfuel
    obtain ⟨fuel, rfl⟩ := Nat.exists_eq_succ_of_ne_zero (n := fuel) (by omega)
    have hitem := h f List.mem_cons_self fuel _ (ends_fieldTail fields rest) (by omega)
    have hrest := ih (fun g hg => h g (List.mem_cons_of_mem f hg)) fuel (by omega)
    simp only [htail, List.map_cons, List.map_append, map_stringText, List.cons_append,
      List.append_assoc]
    rw [scanFields_next rfl (skipSpace_cons _ rfl) (stringScan_quotedTail f.1 _)
        (skipSpace_cons _ rfl) hitem, hrest]

theorem scanFields_fields (fields : List (String × Value)) (h : ∀ f ∈ fields, Scans f.2)
    (fuel : Nat) (rest : List Item) (hfuel : 2 * (Value.fieldChars fields).length + 2 ≤ fuel) :
    scanFields fuel true ((Value.fieldChars fields).map some ++ some '\x7d' :: rest) =
      (fields.map fun f => (some f.1, f.2.draft), none, some rest) := by
  obtain ⟨fuel, rfl⟩ := Nat.exists_eq_succ_of_ne_zero (n := fuel) (by omega)
  cases fields with
  | nil => exact scanFields_close rfl
  | cons f fields =>
    rw [Value.fieldChars_cons, List.length_append, List.length_append, List.length_cons] at hfuel
    have hitem := h f List.mem_cons_self fuel _ (ends_fieldTail fields rest) (by omega)
    have hrest := scanFields_tail fields (fun g hg => h g (List.mem_cons_of_mem f hg))
      fuel rest (by omega)
    rw [Value.fieldChars_cons, List.map_append, List.map_append, map_stringText, List.map_cons,
      List.append_assoc, List.append_assoc, List.cons_append, List.cons_append,
      scanFields_first (skipSpace_cons _ rfl) (stringScan_quotedTail f.1 _)
        (skipSpace_cons _ rfl) hitem, hrest, List.map_cons]

/-- There is fuel for a first step, as no value is printed as nothing. -/
theorem Scans.of_succ {v : Value} (hread : ∀ n ∈ v.numbers, n.Readable)
    (h : ∀ fuel rest, Ends rest → 2 * v.chars.length ≤ fuel + 1 →
      scanValue (fuel + 1) (v.chars.map some ++ rest) = (v.draft, some rest)) : Scans v := by
  intro fuel rest hends hfuel
  obtain ⟨c, cs, hchars, -⟩ := Value.exists_chars_eq_cons hread
  have hlong : 0 < v.chars.length := by
    rw [hchars]
    exact Nat.succ_pos _
  obtain ⟨fuel, rfl⟩ := Nat.exists_eq_succ_of_ne_zero (n := fuel) (by omega)
  exact h fuel rest hends hfuel

/-- A printed value is read back, whatever follows it. -/
theorem scans (v : Value) (h : ∀ n ∈ v.numbers, n.Readable) : Scans v := by
  induction v with
  | null =>
    apply Scans.of_succ h
    intro fuel rest hends hfuel
    rfl
  | bool b =>
    apply Scans.of_succ h
    intro fuel rest hends hfuel
    cases b with
    | false => rfl
    | true => rfl
  | number n =>
    obtain ⟨m, hnumeral, hvalue⟩ := h n List.mem_cons_self
    obtain ⟨c, tail, htext, hlead⟩ := leads_of_numeral hnumeral
    apply Scans.of_succ h
    intro fuel rest hends hfuel
    -- What follows the number cannot prolong its numeral.
    have hnumeral := numeral_append hends hnumeral
    rw [Value.chars]
    rw [htext] at hnumeral ⊢
    rw [List.cons_append, scanValue_number hlead, scanNumber, ← List.cons_append, hnumeral]
    simp only [hvalue, Value.draft, List.nil_append]
  | string s =>
    apply Scans.of_succ h
    intro fuel rest hends hfuel
    rw [Value.chars, map_stringText, List.cons_append, scanValue_string (skipSpace_cons _ rfl),
      scanString, stringScan_quotedTail]
    rfl
  | array items ih =>
    have hread : ∀ v ∈ items, ∀ n ∈ v.numbers, n.Readable := by
      rw [Value.numbers, Value.itemNumbers_eq] at h
      intro v hv n hn
      exact h n (List.mem_flatMap.mpr ⟨v, hv, hn⟩)
    apply Scans.of_succ h
    intro fuel rest hends hfuel
    rw [Value.chars, List.length_append, List.length_cons, List.length_singleton] at hfuel
    have hitems := scanItems_items items hread (fun v hv => ih v hv (hread v hv)) fuel
      rest (by omega)
    rw [Value.chars, Value.draft, Value.itemDrafts_eq]
    simp only [List.map_cons, List.map_append, List.map_nil, List.cons_append, List.append_assoc,
      List.nil_append]
    rw [scanValue_array (skipSpace_cons _ rfl), hitems]
  | object fields ih =>
    have hread : ∀ f ∈ fields, ∀ n ∈ f.2.numbers, n.Readable := by
      rw [Value.numbers, Value.fieldNumbers_eq] at h
      intro f hf n hn
      exact h n (List.mem_flatMap.mpr ⟨f, hf, hn⟩)
    apply Scans.of_succ h
    intro fuel rest hends hfuel
    rw [Value.chars, List.length_append, List.length_cons, List.length_singleton] at hfuel
    have hfields := scanFields_fields fields (fun f hf => ih f hf (hread f hf)) fuel
      rest (by omega)
    -- An object is only begun if a key or its end comes next.
    obtain ⟨d, more, hinner, hd⟩ : ∃ d more,
        skipSpace ((Value.fieldChars fields).map some ++ some '\x7d' :: rest) = some d :: more ∧
          (d = '"' ∨ d = '\x7d') := by
      cases fields with
      | nil => exact ⟨'\x7d', rest, rfl, .inr rfl⟩
      | cons f fields =>
        rw [Value.fieldChars_cons, List.map_append, List.map_append, map_stringText]
        exact ⟨'"', _, skipSpace_cons _ rfl, .inl rfl⟩
    rw [Value.chars, Value.draft, Value.fieldDrafts_eq]
    simp only [List.map_cons, List.map_append, List.map_nil, List.cons_append, List.append_assoc,
      List.nil_append]
    rw [scanValue_object (skipSpace_cons _ rfl) hinner hd, hfields]

end Draft

/-- The text is well-formed and holds the value, and nothing else but blanks. -/
def Reads (text : String) (v : Value) : Prop :=
  Draft.ofString text = { draft := v.draft, trailing := false }

/-- A printed value is read back from its text. -/
theorem reads_compact {v : Value} (h : ∀ n ∈ v.numbers, n.Readable) : Reads v.compact v := by
  have hscan := Draft.scans v h (2 * v.chars.length + 2) [] Draft.ends_nil (by omega)
  unfold Reads Draft.ofString Draft.document Value.compact
  rw [String.toList_ofList, List.length_map]
  rw [List.append_nil] at hscan
  rw [hscan]
  rfl

end TaskTracking.Json
