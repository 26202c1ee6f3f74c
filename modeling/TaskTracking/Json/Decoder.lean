import TaskTracking.Json.Refusal

/-! # Decoders

  A decoder reads one kind of thing in two ways: from a draft, while the text is being
  read, and from a value kept aside until something else in its text was known. The two
  ways agree on what they accept up to the few differences written out at
  `Decoder.choice` and in `Json.Record`.
-/

namespace TaskTracking.Json

/-- How one kind of thing is read. -/
structure Decoder (α : Type) where
  /-- Reads from a draft; `depth` is how many more containers may be entered. -/
  ofDraft (depth : Nat) (draft : Draft) : Outcome α
  /-- Reads from a kept value. -/
  ofValue (value : Value) : Outcome α

namespace Decoder

variable {α β : Type}

/-- Decodes and changes the result. -/
def map (f : α → β) (d : Decoder α) : Decoder β where
  ofDraft depth draft := (d.ofDraft depth draft).map f
  ofValue value := (d.ofValue value).map f

/-- Decodes and looks at the result. -/
def refine (f : α → Outcome β) (d : Decoder α) : Decoder β where
  ofDraft depth draft := (d.ofDraft depth draft).bind f
  ofValue value := (d.ofValue value).bind f

/-- A string, under the name that a refusal gives it. -/
def textAs (expected : String) : Decoder String where
  ofDraft _ draft :=
    match draft with
    | .string (some s) => .ok s
    | other => .error (other.refuse expected)
  ofValue value :=
    match value with
    | .string s => .ok s
    | other => .error (other.refuse expected)

/-- A string. -/
def text : Decoder String := textAs "a string"

/-- The natural of a number, if it is one of so many bits. -/
def naturalOf (bits : Nat) (n : Number) : Outcome Nat :=
  let expected := "u" ++ String.ofList (decimalDigits bits)
  match n with
  | .integer i =>
    if 0 ≤ i ∧ i.toNat < 1 <<< bits then .ok i.toNat
    else .error (.mismatch (.wrongValue (.number n) expected))
  | .float _ => .error (.mismatch (.wrongType (.number n) expected))

/-- A natural number of so many bits. -/
def naturalOfBits (bits : Nat) : Decoder Nat where
  ofDraft _ draft :=
    match draft with
    | .number (some n) => naturalOf bits n
    | other => .error (other.refuse ("u" ++ String.ofList (decimalDigits bits)))
  ofValue value :=
    match value with
    | .number n => naturalOf bits n
    | other => .error (other.refuse ("u" ++ String.ofList (decimalDigits bits)))

/-- A natural number of 64 bits. -/
def natural : Decoder Nat := naturalOfBits 64

/-- A number as binary64, integers rounded. -/
def binary64Of : Number → Binary64
  | .integer i => .ofInt i
  | .float x => x

/-- A binary64 number. -/
def binary64 : Decoder Binary64 where
  ofDraft _ draft :=
    match draft with
    | .number (some n) => .ok (binary64Of n)
    | other => .error (other.refuse "f64")
  ofValue value :=
    match value with
    | .number n => .ok (binary64Of n)
    | other => .error (other.refuse "f64")

/-- A truth value. -/
def boolean : Decoder Bool where
  ofDraft _ draft :=
    match draft with
    | .bool b => .ok b
    | other => .error (other.refuse "a boolean")
  ofValue value :=
    match value with
    | .bool b => .ok b
    | other => .error (other.refuse "a boolean")

/-- Any value, with one entry for each key. -/
def any : Decoder Value where
  ofDraft depth draft := orFault ((draft.keep depth).map Value.merged)
  ofValue value := .ok value.merged

/-- `null`, or what the decoder reads. -/
def optional (d : Decoder α) : Decoder (Option α) where
  ofDraft depth draft :=
    match draft with
    | .null => .ok none
    | other => (d.ofDraft depth other).map some
  ofValue value :=
    match value with
    | .null => .ok none
    | other => (d.ofValue other).map some

/-- What the decoder reads, `null` being the default. -/
def orDefault (default : α) (d : Decoder α) : Decoder α := d.optional.map (·.getD default)

/-! ### Choices -/

/-- The choice of that name. -/
def pick (choices : List (String × α)) (name : String) : Outcome α :=
  match choices.lookup name with
  | some a => .ok a
  | none => .error (.mismatch (.unknownVariant name (choices.map Prod.fst)))

/-- Nothing must follow a choice in its object but the closing brace. -/
def closeChoice (more : List (Option String × Draft)) (ending : Option Break) : Except Fault Unit :=
  match more, ending with
  | [], none => .ok ()
  | [], some place => .error (if place.afterComma then .syntactic else place.read)
  | _ :: _, _ => .error .syntactic

/-- A name out of a list, or an object with the name as its only key and `null` as its
    value.

    A kept value of another type is a mismatch, and an empty object passes for `null`; in a
    text both are malformed, as nothing but a string or a brace may begin a choice. -/
def choice (choices : List (String × α)) : Decoder α where
  ofDraft depth draft :=
    match draft with
    | .string (some name) => pick choices name
    | .missing => .error (.fault .unfinished)
    | .tornString place => .error (.fault place.read)
    | .object fields ending =>
      if depth = 0 then .error (.fault .syntactic)
      else
        match fields with
        | [] => .error (.fault ((ending.map Break.read).getD .syntactic))
        | (none, _) :: _ => .error (.fault .syntactic)
        | (some name, content) :: more => do
          let a ← pick choices name
          match content with
          | .null => orFault ((closeChoice more ending).map fun _ => a)
          | other => .error (other.refuse "unit")
    | .nameless first =>
      if depth = 0 then .error (.fault .syntactic)
      else .error (first.refuse "variant identifier")
    | _ => .error (.fault .syntactic)
  ofValue value :=
    match value with
    | .string name => pick choices name
    | .object [(name, content)] => do
      let a ← pick choices name
      match content with
      | .null => .ok a
      | .object [] => .ok a
      | other => .error (other.refuse "unit")
    | .object _ => .error (.mismatch (.wrongValue .map "map with a single key"))
    | other => .error (other.refuse "string or map")

/-! ### Whole texts -/

/-- Reads a whole text. -/
def run (d : Decoder α) (document : Document) : Outcome α := do
  let a ← d.ofDraft Draft.depthLimit document.draft
  if document.trailing then .error (.fault .syntactic) else .ok a

/-- Reads a text. -/
def runText (d : Decoder α) (text : String) : Outcome α := d.run (Draft.ofString text)

end Decoder

end TaskTracking.Json
