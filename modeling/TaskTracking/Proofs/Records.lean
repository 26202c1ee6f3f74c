import TaskTracking.Json.Record
import TaskTracking.Proofs.Contents

/-! # Records

  Two facts about the reading of records, whatever their fields are:

  - What every field keeps holds of the record that is read
    (`Shape.Keeps.ofDraft`).
  - A record reads the same from a text and from a kept value, if every field
    does (`Shape.agree_ofDraft`). A field whose two ways of reading differ is let in
    by a change to its kept value that makes up for the difference.

  Both are inductions on the entries of an object, or on the fields and the
  items of an array side by side.
-/

namespace TaskTracking.Json

/-! ### What a decoder reads -/

namespace Decoder

variable {α β : Type}

theorem map_eq_ok_iff {ε : Type} {x : Except ε α} {f : α → β} {b : β} :
    x.map f = .ok b ↔ ∃ a, x = .ok a ∧ f a = b := by
  cases x with
  | error e =>
    constructor
    · intro h
      cases h
    · rintro ⟨a, h, -⟩
      cases h
  | ok a =>
    constructor
    · intro h
      exact ⟨a, rfl, Except.ok.inj h⟩
    · rintro ⟨a', h, hf⟩
      cases h
      exact congrArg Except.ok hf

theorem ofDraft_map_of {d : Decoder α} {depth : Nat} {draft : Draft} {a : α}
    (h : d.ofDraft depth draft = .ok a) (f : α → β) :
    (d.map f).ofDraft depth draft = .ok (f a) :=
  map_eq_ok_iff.mpr ⟨a, h, rfl⟩

theorem optional_of_ne_null (d : Decoder α) (depth : Nat) {draft : Draft} (h : draft ≠ .null) :
    d.optional.ofDraft depth draft = (d.ofDraft depth draft).map some := by
  cases draft with
  | null => exact absurd rfl h
  | _ => rfl

theorem of_optional {d : Decoder α} {depth : Nat} {draft : Draft} {a : α}
    (h : d.optional.ofDraft depth draft = .ok (some a)) :
    draft ≠ .null ∧ d.ofDraft depth draft = .ok a := by
  by_cases hnull : draft = .null
  · rw [hnull] at h
    cases h
  · rw [optional_of_ne_null d depth hnull] at h
    obtain ⟨b, hb, hsome⟩ := map_eq_ok_iff.mp h
    cases hsome
    exact ⟨hnull, hb⟩

/-- What is read is the default or was there. -/
theorem of_orDefault {d : Decoder α} {default a : α} {depth : Nat} {draft : Draft}
    (h : (d.orDefault default).ofDraft depth draft = .ok a) :
    a = default ∨ d.ofDraft depth draft = .ok a := by
  obtain ⟨found, hfound, rfl⟩ := map_eq_ok_iff.mp h
  cases found with
  | none => exact .inl rfl
  | some b => exact .inr (of_optional hfound).2

theorem of_natural {depth : Nat} {draft : Draft} {n : Nat}
    (h : natural.ofDraft depth draft = .ok n) : n < 1 <<< 64 := by
  unfold natural naturalOfBits at h
  dsimp only at h
  split at h
  · next number =>
    cases number with
    | float x => cases h
    | integer i =>
      unfold naturalOf at h
      dsimp only at h
      split at h
      · next hrange =>
        cases h
        exact hrange.2
      · cases h
  · cases h

/-- A binary64 number that is read from what a text shows is finite. -/
theorem of_binary64 {depth : Nat} {draft : Draft} {x : Binary64} (hsound : draft.Sound)
    (h : binary64.ofDraft depth draft = .ok x) : x.isFinite = true := by
  unfold binary64 at h
  dsimp only at h
  split at h
  · next number =>
    cases h
    have hrange : number.InRange := hsound number List.mem_cons_self
    cases number with
    | float x => exact hrange
    | integer i =>
      obtain ⟨hlow, hhigh⟩ := Number.inRange_integer_iff.mp hrange
      have hfinite : (Binary64.ofNat i.natAbs).isFinite = true := by
        apply Binary64.ofNat_isFinite
        show i.natAbs < 18446744073709551616
        omega
      unfold binary64Of Binary64.ofInt
      dsimp only
      split
      · exact hfinite
      · exact hfinite
  · cases h

theorem ofDraft_any_eq_ok_iff {depth : Nat} {draft : Draft} {v : Value} :
    any.ofDraft depth draft = .ok v ↔
      ∃ w : Value, draft = w.draft ∧ w.nesting ≤ depth ∧ w.merged = v := by
  unfold any
  dsimp only
  constructor
  · intro h
    cases hkeep : draft.keep depth with
    | error fault =>
      rw [hkeep] at h
      cases h
    | ok w =>
      rw [hkeep] at h
      cases h
      obtain ⟨hdraft, hnesting⟩ := Draft.keep_eq_ok_iff.mp hkeep
      exact ⟨w, hdraft, hnesting, rfl⟩
  · rintro ⟨w, rfl, hnesting, rfl⟩
    rw [Draft.keep_draft w hnesting]
    rfl

/-! ### Whole texts -/

theorem ofDraft_of_runText {d : Decoder α} {text : String} {a : α} (h : d.runText text = .ok a) :
    d.ofDraft Draft.depthLimit (Draft.ofString text).draft = .ok a := by
  obtain ⟨b, hread, hb⟩ := bind_eq_ok_iff.mp h
  split at hb
  · cases hb
  · cases hb
    exact hread

theorem runText_of_reads {d : Decoder α} {text : String} {a : α} {v : Value}
    (htext : Reads text v) (h : d.ofDraft Draft.depthLimit v.draft = .ok a) :
    d.runText text = .ok a := by
  unfold runText run
  rw [htext]
  exact bind_eq_ok_iff.mpr ⟨a, h, rfl⟩

/-- A text that holds a value is read as the draft of the value is. -/
theorem runText_eq_ok_iff {d : Decoder α} {text : String} {a : α} {v : Value}
    (htext : Reads text v) :
    d.runText text = .ok a ↔ d.ofDraft Draft.depthLimit v.draft = .ok a := by
  constructor
  · intro h
    have hread := ofDraft_of_runText h
    rw [htext] at hread
    exact hread
  · exact runText_of_reads htext

end Decoder

namespace Shape

variable {σ : Type} {shape : Shape σ} {depth : Nat}

theorem mem_fields_of_find {key : String} {f : RecordField σ} (h : shape.find key = some f) :
    f ∈ shape.fields ∧ (f.name = key ∨ key ∈ f.aliases) := by
  unfold find at h
  refine ⟨List.mem_of_find?_eq_some h, ?_⟩
  have hname := List.find?_some h
  simpa using hname

/-- Nothing is left to be done for fields that are filled or need no default. -/
theorem complete_eq_ok {fields : List (RecordField σ)} {s : σ}
    (h : ∀ f ∈ fields, f.filled s = true ∨ f.absent = RecordField.mayBeAbsent) :
    complete fields s = .ok s := by
  induction fields with
  | nil => rfl
  | cons f rest ih =>
    have hrest := ih fun g hg => h g (List.mem_cons_of_mem f hg)
    rw [complete]
    rcases h f List.mem_cons_self with hfilled | habsent
    · rw [if_pos hfilled, hrest]
    · split
      · exact hrest
      · rw [habsent]
        exact hrest

section Entries

variable {key : String} {f : RecordField σ} {s : σ}

/-- An entry that is read comes into the partial record. -/
theorem entriesOfDraft_cons {d : Draft} {fill : σ → σ} (rest : List (Option String × Draft))
    (hfind : shape.find key = some f) (hnew : f.filled s = false)
    (hread : f.decoder.ofDraft depth d = .ok fill) :
    shape.entriesOfDraft depth s ((some key, d) :: rest) =
      shape.entriesOfDraft depth (fill s) rest := by
  rw [entriesOfDraft]
  simp [hfind, hnew, hread]

/-- Keys that are no field are passed over. -/
theorem entriesOfValue_append {fields : List (String × Value)} (rest : List (String × Value))
    (h : ∀ e ∈ fields, shape.find e.1 = none) :
    shape.entriesOfValue s (fields ++ rest) = shape.entriesOfValue s rest := by
  induction fields with
  | nil => rfl
  | cons e fields ih =>
    rw [List.cons_append, entriesOfValue.eq_def]
    dsimp only
    rw [h e List.mem_cons_self]
    exact ih fun e he => h e (List.mem_cons_of_mem _ he)

/-- An entry of a kept object is read, and what it fills goes into the partial record. -/
theorem entriesOfValue_cons (v : Value) (rest : List (String × Value))
    (hfind : shape.find key = some f) (hnew : f.filled s = false) :
    shape.entriesOfValue s ((key, v) :: rest) =
      (f.decoder.ofValue v).bind fun fill => shape.entriesOfValue (fill s) rest := by
  rw [entriesOfValue.eq_def]
  simp only [hfind, hnew, Bool.false_eq_true, ↓reduceIte]
  cases f.decoder.ofValue v with
  | error e => rfl
  | ok fill => rfl

end Entries

/-! ### What every field keeps -/

/-- Every field that is read at that depth keeps the property of a partial record, and so do
    the defaults. -/
structure Keeps (shape : Shape σ) (depth : Nat) (P : σ → Prop) : Prop where
  empty : P shape.empty
  fill : ∀ f ∈ shape.fields, ∀ d : Draft, d.Sound → ∀ fill,
    f.decoder.ofDraft depth d = .ok fill → ∀ s, P s → P (fill s)
  absent : ∀ f ∈ shape.fields, ∀ default, f.absent = some default → ∀ s, P s → P (default s)

namespace Keeps

variable {P : σ → Prop}

theorem entriesOfDraft (hkeeps : shape.Keeps depth P)
    {entries : List (Option String × Draft)} {s s' : σ} (hsound : ∀ e ∈ entries, e.2.Sound)
    (hs : P s) (h : shape.entriesOfDraft depth s entries = .ok s') : P s' := by
  induction entries generalizing s with
  | nil =>
    cases h
    exact hs
  | cons entry rest ih =>
    obtain ⟨key, d⟩ := entry
    have hrest : ∀ e ∈ rest, e.2.Sound := fun e he => hsound e (List.mem_cons_of_mem _ he)
    cases key with
    | none => cases h
    | some key =>
      rw [Shape.entriesOfDraft] at h
      split at h
      · -- The value of a key that is no field is skipped.
        split at h
        · cases h
        · exact ih hrest hs h
      · next f hfind =>
        -- A field is read at its first entry, and a second one is refused.
        split at h
        · cases h
        · split at h
          · cases h
          · next fill hread =>
            have hd : d.Sound := hsound (some key, d) List.mem_cons_self
            have hfill := hkeeps.fill f (mem_fields_of_find hfind).1 d hd fill hread s hs
            exact ih hrest hfill h

theorem itemsOfDraft (hkeeps : shape.Keeps depth P) {ending : Option Break} {position : Nat}
    {fields : List (RecordField σ)} {items : List Draft} {s s' : σ}
    (hfields : ∀ f ∈ fields, f ∈ shape.fields) (hsound : ∀ d ∈ items, d.Sound) (hs : P s)
    (h : shape.itemsOfDraft depth ending position s fields items = .ok s') : P s' := by
  induction fields generalizing position s items with
  | nil =>
    cases items with
    | nil =>
      rw [Shape.itemsOfDraft.eq_def] at h
      dsimp only at h
      split at h
      · cases h
      · cases h
        exact hs
    | cons d items => cases h
  | cons f fields ih =>
    -- A field is filled from its item, or from its default once the items are used up.
    have hf := hfields f List.mem_cons_self
    have hrest : ∀ g ∈ fields, g ∈ shape.fields := fun g hg => hfields g (List.mem_cons_of_mem f hg)
    cases items with
    | nil =>
      rw [Shape.itemsOfDraft.eq_def] at h
      dsimp only at h
      split at h
      · cases h
      · split at h
        · next default habsent =>
          exact ih hrest hsound (hkeeps.absent f hf default habsent s hs) h
        · cases h
    | cons d items =>
      rw [Shape.itemsOfDraft] at h
      split at h
      · cases h
      · next fill hread =>
        have hd := hsound d List.mem_cons_self
        have hitems : ∀ e ∈ items, e.Sound := fun e he => hsound e (List.mem_cons_of_mem d he)
        exact ih hrest hitems (hkeeps.fill f hf d hd fill hread s hs) h

theorem complete (hkeeps : shape.Keeps depth P) {fields : List (RecordField σ)} {s s' : σ}
    (hfields : ∀ f ∈ fields, f ∈ shape.fields) (hs : P s) (h : Shape.complete fields s = .ok s') :
    P s' := by
  induction fields generalizing s with
  | nil =>
    cases h
    exact hs
  | cons f fields ih =>
    have hrest : ∀ g ∈ fields, g ∈ shape.fields := fun g hg => hfields g (List.mem_cons_of_mem f hg)
    rw [Shape.complete] at h
    split at h
    · exact ih hrest hs h
    · split at h
      · next default habsent =>
        exact ih hrest (hkeeps.absent f (hfields f List.mem_cons_self) default habsent s hs) h
      · cases h

/-- A record that is read from a text has what its fields keep. -/
theorem ofDraft (hkeeps : shape.Keeps depth P) {draft : Draft} {s : σ} (hsound : draft.Sound)
    (h : shape.ofDraft (depth + 1) draft = .ok s) : P s := by
  unfold Shape.ofDraft at h
  split at h
  · next entries ending =>
    obtain ⟨s₁, hentries, h⟩ := bind_eq_ok_iff.mp h
    obtain ⟨⟨⟩, hclose, h⟩ := bind_eq_ok_iff.mp h
    have hs₁ := hkeeps.entriesOfDraft (Draft.sound_object_iff.mp hsound) hkeeps.empty hentries
    exact hkeeps.complete (fun f hf => hf) hs₁ h
  · cases h
  · next items ending =>
    exact hkeeps.itemsOfDraft (fun f hf => hf) (Draft.sound_array_iff.mp hsound) hkeeps.empty h
  · cases h

end Keeps

end Shape

/-! ### Two ways of reading -/

/-- Both refuse, or both read the same. -/
def Agree {α : Type} (x y : Outcome α) : Prop := x.toOption = y.toOption

namespace Agree

variable {α β : Type} {x y : Outcome α}

theorem refl (x : Outcome α) : Agree x x := rfl

theorem errors (e e' : Refusal) : Agree (.error e : Outcome α) (.error e') := rfl

theorem eq_ok_iff (h : Agree x y) {a : α} : x = .ok a ↔ y = .ok a := by
  unfold Agree at h
  cases x with
  | error e =>
    cases y with
    | error e' => simp
    | ok b => cases h
  | ok b =>
    cases y with
    | error e' => cases h
    | ok c =>
      cases h
      rfl

theorem cases_on (h : Agree x y) :
    (∃ a, x = .ok a ∧ y = .ok a) ∨ (∃ e, x = .error e) ∧ ∃ e, y = .error e := by
  cases x with
  | ok a => exact .inl ⟨a, rfl, h.eq_ok_iff.mp rfl⟩
  | error e =>
    cases y with
    | ok b => cases h
    | error e' => exact .inr ⟨⟨e, rfl⟩, e', rfl⟩

/-- What is done with the result agrees if it agrees on every result. -/
theorem bind (h : Agree x y) {f g : α → Outcome β} (hfg : ∀ a, Agree (f a) (g a)) :
    Agree (x >>= f) (y >>= g) := by
  rcases h.cases_on with ⟨a, rfl, rfl⟩ | ⟨⟨e, rfl⟩, e', rfl⟩
  · exact hfg a
  · exact errors e e'

theorem map (h : Agree x y) (f : α → β) : Agree (x.map f) (y.map f) := by
  rcases h.cases_on with ⟨a, rfl, rfl⟩ | ⟨⟨e, rfl⟩, e', rfl⟩
  · rfl
  · rfl

end Agree

namespace Decoder

variable {α β : Type}

/-- The decoder reads from a text that holds the changed value what it reads from the kept value. -/
def AgreesVia (d : Decoder α) (change : Value → Value) : Prop :=
  ∀ depth v, v.nesting ≤ depth → Agree (d.ofDraft depth (change v).draft) (d.ofValue v)

theorem agrees_textAs (expected : String) : (textAs expected).AgreesVia id := by
  intro depth v h
  cases v with
  | string s => exact .refl _
  | _ => exact .errors _ _

theorem agrees_naturalOfBits (bits : Nat) : (naturalOfBits bits).AgreesVia id := by
  intro depth v h
  cases v with
  | number n => exact .refl _
  | _ => exact .errors _ _

theorem agrees_binary64 : binary64.AgreesVia id := by
  intro depth v h
  cases v with
  | number n => exact .refl _
  | _ => exact .errors _ _

theorem agrees_any : any.AgreesVia id := by
  intro depth v h
  unfold any
  dsimp only [id]
  rw [Draft.keep_draft v h]
  rfl

theorem agrees_map {d : Decoder α} {change : Value → Value} (h : d.AgreesVia change) (f : α → β) :
    (d.map f).AgreesVia change :=
  fun depth v hv => (h depth v hv).map f

theorem agrees_optional {d : Decoder α} (h : d.AgreesVia id) : d.optional.AgreesVia id := by
  intro depth v hv
  cases v with
  | null => exact .refl _
  | bool b => exact (h depth (.bool b) hv).map some
  | number n => exact (h depth (.number n) hv).map some
  | string s => exact (h depth (.string s) hv).map some
  | array items => exact (h depth (.array items) hv).map some
  | object fields => exact (h depth (.object fields) hv).map some

theorem agrees_orDefault {d : Decoder α} (h : d.AgreesVia id) (default : α) :
    (d.orDefault default).AgreesVia id :=
  agrees_map (agrees_optional h) _

end Decoder

namespace Shape

variable {σ : Type} {shape : Shape σ} {change : String → Value → Value}

/-- The items of a record given as an array, each changed as its field says. -/
def changeItems (change : String → Value → Value) : List (RecordField σ) → List Value → List Value
  | f :: fields, v :: items => change f.name v :: changeItems change fields items
  | _, items => items

theorem changeItems_nil (change : String → Value → Value) (fields : List (RecordField σ)) :
    changeItems change fields [] = [] := by
  cases fields with
  | nil => rfl
  | cons f fields => rfl

/-- A record with the value of every field changed as the field says. -/
def changed (shape : Shape σ) (change : String → Value → Value) : Value → Value
  | .object fields => .object (fields.map fun f => (f.1, change f.1 f.2))
  | .array items => .array (changeItems change shape.fields items)
  | v => v

/-- Every field reads from a text that holds its changed value what it reads from the kept one. -/
def FieldsAgree (shape : Shape σ) (change : String → Value → Value) : Prop :=
  ∀ f ∈ shape.fields, ∀ key, f.name = key ∨ key ∈ f.aliases → f.decoder.AgreesVia (change key)

theorem agree_entries (h : shape.FieldsAgree change) {depth : Nat}
    {fields : List (String × Value)} (hnesting : ∀ f ∈ fields, f.2.nesting ≤ depth) (s : σ) :
    Agree (shape.entriesOfDraft depth s (fields.map fun f => (some f.1, (change f.1 f.2).draft)))
      (shape.entriesOfValue s fields) := by
  induction fields generalizing s with
  | nil => exact .refl _
  | cons entry rest ih =>
    have hrest := ih fun f hf => hnesting f (List.mem_cons_of_mem entry hf)
    rw [List.map_cons, entriesOfDraft, entriesOfValue.eq_def]
    dsimp only
    split
    · rw [Draft.skip_draft]
      exact hrest s
    · next f hfind =>
      split
      · exact .refl _
      · obtain ⟨hmem, hkey⟩ := mem_fields_of_find hfind
        have hread := h f hmem entry.1 hkey depth entry.2 (hnesting entry List.mem_cons_self)
        rcases hread.cases_on with ⟨fill, hdraft, hvalue⟩ | ⟨⟨e, hdraft⟩, e', hvalue⟩
        · rw [hdraft, hvalue]
          exact hrest (fill s)
        · rw [hdraft, hvalue]
          exact .errors e e'

theorem agree_items (h : shape.FieldsAgree change) {depth position : Nat}
    {fields : List (RecordField σ)} {items : List Value} (hfields : ∀ f ∈ fields, f ∈ shape.fields)
    (hnesting : ∀ v ∈ items, v.nesting ≤ depth) (s : σ) :
    Agree (shape.itemsOfDraft depth none position s fields
        ((changeItems change fields items).map Value.draft))
      (shape.itemsOfValue position s fields items) := by
  induction fields generalizing position s items with
  | nil =>
    cases items with
    | nil => exact .refl _
    | cons v items => exact .errors _ _
  | cons f fields ih =>
    have hrest : ∀ g ∈ fields, g ∈ shape.fields := fun g hg => hfields g (List.mem_cons_of_mem f hg)
    cases items with
    | nil =>
      -- Both go on with the defaults of the fields that are left.
      rw [changeItems, List.map_nil, itemsOfDraft.eq_def, itemsOfValue.eq_def]
      · dsimp only
        split
        · next default habsent =>
          have hnone := @ih (position + 1) [] hrest hnesting (default s)
          rw [changeItems_nil] at hnone
          exact hnone
        · exact .refl _
      · simp
    | cons v items =>
      have hitems : ∀ w ∈ items, w.nesting ≤ depth :=
        fun w hw => hnesting w (List.mem_cons_of_mem v hw)
      have hread := h f (hfields f List.mem_cons_self) f.name (.inl rfl) depth v
        (hnesting v List.mem_cons_self)
      rw [changeItems, List.map_cons, itemsOfDraft, itemsOfValue]
      rcases hread.cases_on with ⟨fill, hdraft, hvalue⟩ | ⟨⟨e, hdraft⟩, e', hvalue⟩
      · rw [hdraft, hvalue]
        exact ih hrest hitems (fill s)
      · rw [hdraft, hvalue]
        exact .errors e e'

/-- A record reads the same from a text and from a kept value. -/
theorem agree_ofDraft (h : shape.FieldsAgree change) {depth : Nat} {v : Value}
    (hnesting : v.nesting ≤ depth) :
    Agree (shape.ofDraft depth (shape.changed change v).draft) (shape.ofValue v) := by
  cases v with
  | object fields =>
    rw [Value.nesting] at hnesting
    have hfields := Value.fieldNesting_le_iff.mp (Nat.le_sub_of_add_le hnesting)
    rw [changed, Value.draft, Value.fieldDrafts_eq, List.map_map, ofDraft, ofValue,
      if_neg (by omega)]
    exact (agree_entries h hfields shape.empty).bind fun s => .refl _
  | array items =>
    rw [Value.nesting] at hnesting
    have hitems := Value.itemNesting_le_iff.mp (Nat.le_sub_of_add_le hnesting)
    rw [changed, Value.draft, Value.itemDrafts_eq, ofDraft, ofValue, if_neg (by omega)]
    exact agree_items h (fun f hf => hf) hitems shape.empty
  | _ => exact .errors _ _

theorem agrees_decoder (h : shape.FieldsAgree change) {α : Type} (finish : σ → α) :
    (shape.decoder finish).AgreesVia (shape.changed change) :=
  fun _ _ hnesting => (agree_ofDraft h hnesting).map finish

/-! ### What a change leaves alone -/

/-- A change leaves alone every value that is read from a text, and everything that is no field. -/
structure Spares (shape : Shape σ) (change : String → Value → Value) : Prop where
  field : ∀ f ∈ shape.fields, ∀ key, f.name = key ∨ key ∈ f.aliases → ∀ depth v fill,
    f.decoder.ofDraft depth v.draft = .ok fill → change key v = v
  other : ∀ key, shape.find key = none → ∀ v, change key v = v

namespace Spares

theorem of_entriesOfDraft (hspares : shape.Spares change) {depth : Nat}
    {fields : List (String × Value)} {s s' : σ}
    (h : shape.entriesOfDraft depth s (fields.map fun f => (some f.1, f.2.draft)) = .ok s') :
    fields.map (fun f => (f.1, change f.1 f.2)) = fields := by
  induction fields generalizing s with
  | nil => rfl
  | cons e rest ih =>
    rw [List.map_cons, entriesOfDraft] at h
    split at h
    · next hfind =>
      rw [Draft.skip_draft] at h
      rw [List.map_cons, hspares.other e.1 hfind, ih h]
    · next f hfind =>
      split at h
      · cases h
      · split at h
        · cases h
        · next fill hread =>
          obtain ⟨hmem, hkey⟩ := mem_fields_of_find hfind
          rw [List.map_cons, hspares.field f hmem e.1 hkey _ _ _ hread, ih h]

theorem of_itemsOfDraft (hspares : shape.Spares change) {depth position : Nat}
    {ending : Option Break} {fields : List (RecordField σ)} {items : List Value} {s s' : σ}
    (hfields : ∀ f ∈ fields, f ∈ shape.fields)
    (h : shape.itemsOfDraft depth ending position s fields (items.map Value.draft) = .ok s') :
    changeItems change fields items = items := by
  induction fields generalizing position s items with
  | nil => rfl
  | cons f fields ih =>
    cases items with
    | nil => rfl
    | cons v items =>
      rw [List.map_cons, itemsOfDraft] at h
      split at h
      · cases h
      · next fill hread =>
        have hv := hspares.field f (hfields f List.mem_cons_self) f.name (.inl rfl) _ _ _ hread
        have hrest := ih (fun g hg => hfields g (List.mem_cons_of_mem f hg)) h
        rw [changeItems, hv, hrest]

/-- A record that is read from a text is left alone. -/
theorem of_ofDraft (hspares : shape.Spares change) {depth : Nat} {v : Value} {s : σ}
    (h : shape.ofDraft depth v.draft = .ok s) : shape.changed change v = v := by
  cases v with
  | object fields =>
    rw [Value.draft, Value.fieldDrafts_eq, ofDraft] at h
    split at h
    · cases h
    · obtain ⟨s', hentries, -⟩ := bind_eq_ok_iff.mp h
      exact congrArg Value.object (hspares.of_entriesOfDraft hentries)
  | array items =>
    rw [Value.draft, Value.itemDrafts_eq, ofDraft] at h
    split at h
    · cases h
    · exact congrArg Value.array (hspares.of_itemsOfDraft (fun f hf => hf) h)
  | _ => rfl

end Spares

end Shape

end TaskTracking.Json
