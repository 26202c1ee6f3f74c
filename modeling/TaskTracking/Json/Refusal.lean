import TaskTracking.Json.Draft
import TaskTracking.Text.Quoted

/-! # Refusals

  Why a text is not read: it is no JSON, or it holds a value of the wrong shape. The
  wording of a mismatch is `Mismatch.message`.
-/

namespace TaskTracking.Json

/-- What stands where something else was expected. -/
inductive Found where
  | null
  | bool (value : Bool)
  | number (value : Number)
  | string (value : String)
  | sequence
  | map

/-- A well-formed value of the wrong shape. -/
inductive Mismatch where
  | wrongType (found : Found) (expected : String)
  | wrongValue (found : Found) (expected : String)
  | wrongLength (length : Nat) (expected : String)
  | missingField (name : String)
  | duplicateField (name : String)
  | unknownVariant (name : String) (known : List String)
  /-- The text denotes no such thing, for the reason given. -/
  | unreadable (text reason : String)

/-- Why nothing could be read. -/
inductive Refusal where
  | mismatch (cause : Mismatch)
  | fault (cause : Fault)

/-! ### Wording -/

/-- A word between backquotes. -/
def backquoted (s : String) : String := "`" ++ s ++ "`"

/-- What was found, with floats as the format at hand writes them. -/
def Found.text (ofFloat : Binary64 → List Char) : Found → String
  | .null => "null"
  | .bool b => "boolean " ++ backquoted (if b then "true" else "false")
  | .number (.integer i) => "integer " ++ backquoted (String.ofList (integerText i))
  | .number (.float x) => "floating point " ++ backquoted (String.ofList (ofFloat x))
  | .string s => "string " ++ Text.quoted s
  | .sequence => "sequence"
  | .map => "map"

/-- The list of allowed names: alone, as a pair, or as a longer list. -/
def knownText : List String → String
  | [] => "there are no variants"
  | [a] => "expected " ++ backquoted a
  | [a, b] => "expected " ++ backquoted a ++ " or " ++ backquoted b
  | names => "expected one of " ++ String.intercalate ", " (names.map backquoted)

/-- The text of a mismatch, with floats as the format at hand writes them. -/
def Mismatch.messageWith (ofFloat : Binary64 → List Char) : Mismatch → String
  | .wrongType found expected =>
    "invalid type: " ++ found.text ofFloat ++ ", expected " ++ expected
  | .wrongValue found expected =>
    "invalid value: " ++ found.text ofFloat ++ ", expected " ++ expected
  | .wrongLength n expected =>
    "invalid length " ++ String.ofList (decimalDigits n) ++ ", expected " ++ expected
  | .missingField name => "missing field " ++ backquoted name
  | .duplicateField name => "duplicate field " ++ backquoted name
  | .unknownVariant name known =>
    "unknown variant " ++ backquoted name ++ ", " ++ knownText known
  | .unreadable text reason => reason ++ ": " ++ Text.quoted text

/-- The text of a mismatch in JSON. -/
def Mismatch.message (m : Mismatch) : String := m.messageWith floatText

def Refusal.text : Refusal → String
  | .mismatch cause => cause.message
  | .fault .syntactic => "malformed text"
  | .fault .unfinished => "unfinished text"

/-! ### What is found -/

def Value.found : Value → Found
  | .null => .null
  | .bool b => .bool b
  | .number n => .number n
  | .string s => .string s
  | .array _ => .sequence
  | .object _ => .map

/-- What a draft shows of its value, containers without a look inside. -/
def Draft.found : Draft → Except Fault Found
  | .missing => .error .unfinished
  | .stray => .error .syntactic
  | .torn fault => .error fault
  | .tornString place => .error place.read
  | .null => .ok .null
  | .bool b => .ok (.bool b)
  | .number (some n) => .ok (.number n)
  | .number none => .error .syntactic
  | .string (some s) => .ok (.string s)
  | .string none => .error .syntactic
  | .array .. => .ok .sequence
  | .object .. => .ok .map
  | .nameless _ => .ok .map

/-- The refusal of a draft that is not what was expected. -/
def Draft.refuse (draft : Draft) (expected : String) : Refusal :=
  match draft.found with
  | .ok found => .mismatch (.wrongType found expected)
  | .error fault => .fault fault

/-- The refusal of a value that is not what was expected. -/
def Value.refuse (value : Value) (expected : String) : Refusal :=
  .mismatch (.wrongType value.found expected)

/-- The outcome of reading. -/
abbrev Outcome (α : Type) := Except Refusal α

/-- A fault as a refusal. -/
def orFault {α : Type} (result : Except Fault α) : Outcome α := result.mapError .fault

end TaskTracking.Json
