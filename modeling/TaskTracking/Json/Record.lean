import TaskTracking.Json.Decoder

/-! # Records

  Records are read from objects, their fields in any order, or from arrays, their fields
  in the order of the record. Reading fills a partial record of type `σ` field by field.

  A key that is no field is skipped; a field given twice is refused; a field that is not
  given has its default, or is missing. An array may be short by fields that have
  defaults. In a text one item too many is malformed; in a kept array it is a mismatch
  of length.
-/

namespace TaskTracking.Json

/-- A field of a record whose partial form is `σ`. -/
structure RecordField (σ : Type) where
  name : String
  /-- Other keys it is known by. -/
  aliases : List String := []
  /-- Whether the partial record has it. -/
  filled : σ → Bool
  /-- Reads its value into the partial record. -/
  decoder : Decoder (σ → σ)
  /-- What it means that the field is not given, if that is allowed. -/
  absent : Option (σ → σ) := none

/-- A missing field leaves the partial record as it is. -/
def RecordField.mayBeAbsent {σ : Type} : Option (σ → σ) := some fun s => s

/-- The shape of a record. -/
structure Shape (σ : Type) where
  /-- What the record is called in a refusal. -/
  expected : String
  fields : List (RecordField σ)
  empty : σ

namespace Shape

variable {σ : Type}

/-- The field known by the key. -/
def find (shape : Shape σ) (key : String) : Option (RecordField σ) :=
  shape.fields.find? fun f => f.name == key || f.aliases.contains key

/-- So many elements, as a refusal puts it. -/
def elements (n : Nat) : String :=
  String.ofList (decimalDigits n) ++ (if n = 1 then " element" else " elements")

/-- Gives every field that was not read its default. -/
def complete : List (RecordField σ) → σ → Outcome σ
  | [], s => .ok s
  | f :: rest, s =>
    if f.filled s then complete rest s
    else
      match f.absent with
      | some default => complete rest (default s)
      | none => .error (.mismatch (.missingField f.name))

/-! ### From a text -/

def entriesOfDraft (shape : Shape σ) (depth : Nat) (s : σ) :
    List (Option String × Draft) → Outcome σ
  | [] => .ok s
  | (none, _) :: _ => .error (.fault .syntactic)
  | (some key, d) :: rest =>
    match shape.find key with
    | none =>
      match d.skip with
      | some fault => .error (.fault fault)
      | none => entriesOfDraft shape depth s rest
    | some f =>
      if f.filled s then .error (.mismatch (.duplicateField f.name))
      else
        match f.decoder.ofDraft depth d with
        | .error e => .error e
        | .ok fill => entriesOfDraft shape depth (fill s) rest

/-- Reads the fields from `position` on from the items of an array. -/
def itemsOfDraft (shape : Shape σ) (depth : Nat) (ending : Option Break) (position : Nat) (s : σ) :
    List (RecordField σ) → List Draft → Outcome σ
  | [], [] =>
    match ending with
    | some place => .error (.fault place.read)
    | none => .ok s
  | [], _ :: _ => .error (.fault .syntactic)
  | f :: fields, d :: items =>
    match f.decoder.ofDraft depth d with
    | .error e => .error e
    | .ok fill => itemsOfDraft shape depth ending (position + 1) (fill s) fields items
  | f :: fields, [] =>
    match ending with
    | some place => .error (.fault place.read)
    | none =>
      match f.absent with
      | some default => itemsOfDraft shape depth ending (position + 1) (default s) fields []
      | none =>
        .error (.mismatch (.wrongLength position
          (shape.expected ++ " with " ++ elements shape.fields.length)))

def ofDraft (shape : Shape σ) (depth : Nat) (draft : Draft) : Outcome σ :=
  match draft with
  | .object fields ending => do
    if depth = 0 then .error (.fault .syntactic)
    let s ← shape.entriesOfDraft (depth - 1) shape.empty fields
    orFault (Draft.close ending)
    complete shape.fields s
  | .nameless first =>
    .error (.fault (if depth ≠ 0 ∧ first matches .missing then .unfinished else .syntactic))
  | .array items ending =>
    if depth = 0 then .error (.fault .syntactic)
    else shape.itemsOfDraft (depth - 1) ending 0 shape.empty shape.fields items
  | other => .error (other.refuse shape.expected)

/-! ### From a kept value -/

def entriesOfValue (shape : Shape σ) (s : σ) : List (String × Value) → Outcome σ
  | [] => .ok s
  | (key, v) :: rest =>
    match shape.find key with
    | none => entriesOfValue shape s rest
    | some f =>
      if f.filled s then .error (.mismatch (.duplicateField f.name))
      else
        match f.decoder.ofValue v with
        | .error e => .error e
        | .ok fill => entriesOfValue shape (fill s) rest

def itemsOfValue (shape : Shape σ) (position : Nat) (s : σ) :
    List (RecordField σ) → List Value → Outcome σ
  | [], [] => .ok s
  | [], extra =>
    .error (.mismatch (.wrongLength (position + extra.length)
      (elements position ++ " in sequence")))
  | f :: fields, v :: items =>
    match f.decoder.ofValue v with
    | .error e => .error e
    | .ok fill => itemsOfValue shape (position + 1) (fill s) fields items
  | f :: fields, [] =>
    match f.absent with
    | some default => itemsOfValue shape (position + 1) (default s) fields []
    | none =>
      .error (.mismatch (.wrongLength position
        (shape.expected ++ " with " ++ elements shape.fields.length)))

def ofValue (shape : Shape σ) (value : Value) : Outcome σ :=
  match value with
  | .object fields => do
    let s ← shape.entriesOfValue shape.empty fields
    complete shape.fields s
  | .array items => shape.itemsOfValue 0 shape.empty shape.fields items
  | other => .error (other.refuse shape.expected)

/-- The decoder of the record that `finish` makes of a completed partial one. -/
def decoder {α : Type} (shape : Shape σ) (finish : σ → α) : Decoder α where
  ofDraft depth draft := (shape.ofDraft depth draft).map finish
  ofValue value := (shape.ofValue value).map finish

end Shape

/-! ### Objects with any keys -/

/-- An object of texts: the last entry of a key counts. -/
def textEntries (depth : Nat) (draft : Draft) : Outcome (List (String × String)) :=
  match draft with
  | .object fields ending => do
    if depth = 0 then .error (.fault .syntactic)
    let entries ← fields.mapM fun (key, d) =>
      match key with
      | none => .error (.fault .syntactic)
      | some key => (Decoder.text.ofDraft (depth - 1) d).map (key, ·)
    orFault (Draft.close ending)
    .ok entries
  | .nameless first =>
    .error (.fault (if depth ≠ 0 ∧ first matches .missing then .unfinished else .syntactic))
  | other => .error (other.refuse "a map")

/-! ### Tagged messages -/

/-- A message kept until its tag is known: the tag, and everything else of it. -/
structure Tagged (τ : Type) where
  tag : τ
  content : Value

namespace Tagged

variable {τ : Type}

/-- The tag in its place, by name. -/
def tagOfDraft (tags : String → Outcome τ) (draft : Draft) : Outcome τ :=
  match draft with
  | .string (some name) => tags name
  | other => .error (other.refuse "variant identifier")

/-- The tag and the other entries of an object. -/
def entries (key : String) (tags : String → Outcome τ) (depth : Nat) (tag : Option τ)
    (kept : List (String × Value)) :
    List (Option String × Draft) → Outcome (Option τ × List (String × Value))
  | [] => .ok (tag, kept.reverse)
  | (none, _) :: _ => .error (.fault .syntactic)
  | (some k, d) :: rest =>
    if k = key then
      match tag with
      | some _ => .error (.mismatch (.duplicateField key))
      | none =>
        match tagOfDraft tags d with
        | .error e => .error e
        | .ok t => entries key tags depth (some t) kept rest
    else
      match d.keep depth with
      | .error fault => .error (.fault fault)
      | .ok v => entries key tags depth tag ((k, v) :: kept) rest

/-- Reads a tagged message: an object with the tag under `key`, or an array that begins with it. -/
def ofDraft (expected key : String) (tags : String → Outcome τ) (depth : Nat) (draft : Draft) :
    Outcome (Tagged τ) :=
  match draft with
  | .object fields ending => do
    if depth = 0 then .error (.fault .syntactic)
    let (tag, kept) ← entries key tags (depth - 1) none [] fields
    orFault (Draft.close ending)
    match tag with
    | some tag => .ok { tag, content := .object kept }
    | none => .error (.mismatch (.missingField key))
  | .array [] ending => do
    if depth = 0 then .error (.fault .syntactic)
    orFault (Draft.close ending)
    .error (.mismatch (.missingField key))
  | .array (first :: items) ending => do
    if depth = 0 then .error (.fault .syntactic)
    let tag ← tagOfDraft tags first
    let kept ← orFault (Draft.keepItems (depth - 1) items)
    orFault (Draft.close ending)
    .ok { tag, content := .array kept }
  | .nameless first =>
    .error (.fault (if depth ≠ 0 ∧ first matches .missing then .unfinished else .syntactic))
  | other => .error (other.refuse expected)

end Tagged

end TaskTracking.Json
