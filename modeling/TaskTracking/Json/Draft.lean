import TaskTracking.Json.Numeral

/-! # Drafts

  A draft is what can be made out of a JSON text before anyone asks what it should hold.
  A text that is cut short or malformed still has a draft: it shows everything up to the
  fault, and the fault. So a reader that walks a draft in text order meets the first
  fault where the text has it, and may object to a value standing before the fault.

  The text is given as characters, `none` standing for bytes that are no character. What
  is read strictly and what is merely skipped differ: a skipped string may hold any
  escape and any bytes, a skipped number may have any size. Drafts keep both verdicts.
-/

namespace TaskTracking.Json

/-- Why a text is no JSON: it is malformed, or it ends too early. -/
inductive Fault where
  | syntactic
  | unfinished
deriving DecidableEq

/-- A place where a text breaks off, as its reader and as one who skips it sees it. -/
structure Break where
  read : Fault
  skipped : Fault
  /-- Whether a comma stands before the place. -/
  afterComma : Bool := false
deriving DecidableEq

/-- The same fault for every reader. -/
def Break.plain (fault : Fault) : Break := { read := fault, skipped := fault }

/-- What a text holds at the place of a value. -/
inductive Draft where
  /-- The text ends here. -/
  | missing
  /-- No value begins with the character here. -/
  | stray
  /-- A word or a number that is misspelt or breaks off. -/
  | torn (fault : Fault)
  /-- A string that is malformed or breaks off. -/
  | tornString (place : Break)
  | null
  | bool (value : Bool)
  /-- A number, `none` if it is out of range. -/
  | number (value : Option Number)
  /-- A string, `none` if it is no text. -/
  | string (value : Option String)
  /-- The items up to the closing bracket or the break. -/
  | array (items : List Draft) (ending : Option Break)
  /-- The entries up to the closing brace or the break. -/
  | object (fields : List (Option String × Draft)) (ending : Option Break)
  /-- A brace followed by something that is no name. -/
  | nameless (first : Draft)

instance : Inhabited Draft := ⟨.missing⟩

/-- A whole text: the draft of its value, and whether more than blanks follow it. -/
structure Document where
  draft : Draft
  trailing : Bool

namespace Draft

/-- A character of the text, `none` for bytes that are no character. -/
abbrev Item := Option Char

/-! ### Words and numbers -/

def isSpace : Item → Bool
  | some c => c = ' ' || c = '\n' || c = '\t' || c = '\r'
  | none => false

def skipSpace (text : List Item) : List Item := text.dropWhile isSpace

/-- The rest of the text after the given letters. -/
def expect : List Char → List Item → Except Fault (List Item)
  | [], text => .ok text
  | _ :: _, [] => .error .unfinished
  | c :: word, d :: text => if d = some c then expect word text else .error .syntactic

def digit? : Item → Option Nat
  | some c => if '0' ≤ c ∧ c ≤ '9' then some (c.toNat - '0'.toNat) else none
  | none => none

/-- The digits at the start of the text and what follows them. -/
def digits : List Item → List Nat × List Item
  | [] => ([], [])
  | c :: text =>
    match digit? c with
    | some d => let (ds, rest) := digits text; (d :: ds, rest)
    | none => ([], c :: text)

/-- One digit or more. -/
def someDigits (text : List Item) : Except Fault (List Nat × List Item) :=
  match digits text with
  | ([], []) => .error .unfinished
  | ([], _ :: _) => .error .syntactic
  | found => .ok found

/-- The digits before the point: a leading zero stands alone. -/
def wholePart (text : List Item) : Except Fault (List Nat × List Item) := do
  let (ds, rest) ← someDigits text
  if ds.head? = some 0 ∧ 1 < ds.length then .error .syntactic else .ok (ds, rest)

def fractionPart (text : List Item) : Except Fault (Option (List Nat) × List Item) :=
  match text with
  | some '.' :: rest => do
    let (ds, rest) ← someDigits rest
    .ok (some ds, rest)
  | _ => .ok (none, text)

def exponentPart (text : List Item) : Except Fault (Option (Bool × List Nat) × List Item) :=
  match text with
  | some c :: rest =>
    if c = 'e' ∨ c = 'E' then do
      let (down, rest) :=
        match rest with
        | some '-' :: rest => (true, rest)
        | some '+' :: rest => (false, rest)
        | _ => (false, rest)
      let (ds, rest) ← someDigits rest
      .ok (some (down, ds), rest)
    else .ok (none, text)
  | _ => .ok (none, text)

/-- The numeral at the start of the text. -/
def numeral (text : List Item) : Except Fault (Numeral × List Item) := do
  let (negative, text) :=
    match text with
    | some '-' :: rest => (true, rest)
    | _ => (false, text)
  let (whole, text) ← wholePart text
  let (fraction, text) ← fractionPart text
  let (exponent, text) ← exponentPart text
  .ok ({ negative, whole, fraction, exponent }, text)

/-! ### Strings -/

/-- How far a string is still the text it seems to be. -/
inductive Legibility where
  | legible
  /-- It holds bytes that are no character, which its end will show. -/
  | garbled
  /-- An escape stands for half a character. -/
  | broken
deriving DecidableEq

/-- What follows an opening quote: a whole string, or one that breaks off. -/
inductive StringScan where
  | whole (value : Option String) (rest : List Item)
  | torn (place : Break)

/-- The character of a short escape. -/
def shortEscape (c : Char) : Option Char :=
  if c = '"' then some '"'
  else if c = '\\' then some '\\'
  else if c = '/' then some '/'
  else if c = 'b' then some '\x08'
  else if c = 'f' then some '\x0c'
  else if c = 'n' then some '\n'
  else if c = 'r' then some '\r'
  else if c = 't' then some '\t'
  else none

def hexValue? : Item → Option Nat
  | some c =>
    if '0' ≤ c ∧ c ≤ '9' then some (c.toNat - '0'.toNat)
    else if 'a' ≤ c ∧ c ≤ 'f' then some (c.toNat - 'a'.toNat + 10)
    else if 'A' ≤ c ∧ c ≤ 'F' then some (c.toNat - 'A'.toNat + 10)
    else none
  | none => none

/-- The value of four hexadecimal digits. -/
def hexValue4? (a b c d : Item) : Option Nat := do
  let a ← hexValue? a
  let b ← hexValue? b
  let c ← hexValue? c
  let d ← hexValue? d
  some (((a * 16 + b) * 16 + c) * 16 + d)

/-- The bytes an item takes. -/
def width : Item → Nat
  | some c => c.utf8Size
  | none => 1

/-- A string broken off by the end of the text. -/
def cutString (legibility : Legibility) : StringScan :=
  .torn {
    read := if legibility = .broken then .syntactic else .unfinished
    skipped := .unfinished }

/-- What a code unit adds after an open leading half: the characters, whether half a
    character got lost, and the leading half now open. -/
def joinUnit (lead : Option Nat) (unit : Nat) : List Char × Bool × Option Nat :=
  let isTrail := 0xDC00 ≤ unit ∧ unit ≤ 0xDFFF
  match lead with
  | some high =>
    if isTrail then
      ([Char.ofNat (0x10000 + (high - 0xD800) * 0x400 + (unit - 0xDC00))], false, none)
    else ([], true, none)
  | none =>
    if isTrail then ([], true, none)
    else if 0xD800 ≤ unit ∧ unit ≤ 0xDBFF then ([], false, some unit)
    else ([Char.ofNat unit], false, none)

/-- Reads a string from behind its opening quote. `lead` is a leading half of a character
    whose trailing half must come next; `read` holds the characters so far, the last one
    first. -/
def stringBody (legibility : Legibility) (lead : Option Nat) (read : List Char) :
    List Item → StringScan
  | [] => cutString legibility
  | none :: text =>
    let next := if lead.isSome ∨ legibility = .broken then Legibility.broken else .garbled
    stringBody next none read text
  | some c :: text =>
    let after := if lead.isSome then Legibility.broken else legibility
    if c = '"' then
      .whole (if after = .legible then some (String.ofList read.reverse) else none) text
    else if c = '\\' then
      match text with
      | [] => cutString legibility
      | none :: _ => .torn (.plain .syntactic)
      | some e :: text =>
        if e = 'u' then
          match text with
          | h₁ :: h₂ :: h₃ :: h₄ :: text =>
            match hexValue4? h₁ h₂ h₃ h₄ with
            | none => .torn (.plain .syntactic)
            | some unit =>
              let (chars, lost, half) := joinUnit lead unit
              stringBody (if lost then .broken else legibility) half (chars ++ read) text
          | short =>
            if (short.map width).sum < 4 then cutString legibility
            else .torn (.plain .syntactic)
        else
          match shortEscape e with
          | some c => stringBody after none (c :: read) text
          | none => .torn (.plain .syntactic)
    else if c < ' ' then .torn (.plain .syntactic)
    else stringBody after none (c :: read) text

/-- Reads a string from behind its opening quote. -/
def stringScan (text : List Item) : StringScan := stringBody .legible none [] text

/-! ### Values -/

/-- A draft and the text behind it, `none` when the text breaks off inside. -/
abbrev Scan := Draft × Option (List Item)

def scanWord (letters : List Char) (found : Draft) (text : List Item) : Scan :=
  match expect letters text with
  | .ok rest => (found, some rest)
  | .error fault => (.torn fault, none)

def scanNumber (text : List Item) : Scan :=
  match numeral text with
  | .ok (n, rest) => (.number n.number?, some rest)
  | .error fault => (.torn fault, none)

def scanString (text : List Item) : Scan :=
  match stringScan text with
  | .whole value rest => (.string value, some rest)
  | .torn place => (.tornString place, none)

mutual

/-- The value at the start of the text, leading blanks skipped. -/
def scanValue : Nat → List Item → Scan
  | 0, _ => (.stray, none)
  | fuel + 1, text =>
    match skipSpace text with
    | [] => (.missing, none)
    | none :: _ => (.stray, none)
    | some c :: rest =>
      if c = '"' then scanString rest
      else if c = '[' then
        let (items, ending, after) := scanItems fuel true rest
        (.array items ending, after)
      else if c = '{' then
        match skipSpace rest with
        | some d :: _ =>
          if d = '"' ∨ d = '}' then
            let (fields, ending, after) := scanFields fuel true rest
            (.object fields ending, after)
          else (.nameless (scanValue fuel rest).1, none)
        | _ => (.nameless (scanValue fuel rest).1, none)
      else if c = 'n' then scanWord ['u', 'l', 'l'] .null rest
      else if c = 't' then scanWord ['r', 'u', 'e'] (.bool true) rest
      else if c = 'f' then scanWord ['a', 'l', 's', 'e'] (.bool false) rest
      else if c = '-' ∨ (digit? (some c)).isSome then scanNumber (some c :: rest)
      else (.stray, none)

/-- The items of an array, from behind the bracket or the last item. What follows a comma is
    an item even if it is none. -/
def scanItems : Nat → Bool → List Item → List Draft × Option Break × Option (List Item)
  | 0, _, _ => ([], some (.plain .syntactic), none)
  | fuel + 1, first, text =>
    match skipSpace text with
    | [] => ([], some (.plain .unfinished), none)
    | c :: rest =>
      if c = some ']' then ([], none, some rest)
      else if first ∨ c = some ',' then
        match scanValue fuel (if first then c :: rest else rest) with
        | (item, some after) =>
          let (more, ending, after) := scanItems fuel false after
          (item :: more, ending, after)
        | (item, none) => ([item], some (.plain .syntactic), none)
      else ([], some (.plain .syntactic), none)

/-- The entries of an object, from behind the brace or the last entry. -/
def scanFields : Nat → Bool → List Item →
    List (Option String × Draft) × Option Break × Option (List Item)
  | 0, _, _ => ([], some (.plain .syntactic), none)
  | fuel + 1, first, text =>
    match skipSpace text with
    | [] => ([], some (.plain .unfinished), none)
    | c :: rest =>
      if c = some '}' then ([], none, some rest)
      else if first ∨ c = some ',' then
        match skipSpace (if first then c :: rest else rest) with
        | [] => ([], some { Break.plain .unfinished with afterComma := !first }, none)
        | d :: rest =>
          if d = some '"' then
            match stringScan rest with
            | .torn place => ([], some { place with afterComma := !first }, none)
            | .whole key rest =>
              match skipSpace rest with
              | [] => ([(key, .missing)], some (.plain .unfinished), none)
              | colon :: rest =>
                if colon = some ':' then
                  match scanValue fuel rest with
                  | (item, some after) =>
                    let (more, ending, after) := scanFields fuel false after
                    ((key, item) :: more, ending, after)
                  | (item, none) => ([(key, item)], some (.plain .syntactic), none)
                else ([(key, .stray)], some (.plain .syntactic), none)
          else ([], some { Break.plain .syntactic with afterComma := !first }, none)
      else ([], some (.plain .syntactic), none)

end

/-- The draft of a whole text. Every step of a scan takes a character or ends it, so twice
    the length bounds their number. -/
def document (text : List Item) : Document :=
  match scanValue (2 * text.length + 2) text with
  | (draft, some rest) => { draft, trailing := !(skipSpace rest).isEmpty }
  | (draft, none) => { draft, trailing := false }

/-- The draft of a text without stray bytes. -/
def ofString (text : String) : Document := document (text.toList.map some)

/-! ### Skipping and keeping -/

mutual

/-- The fault met by one who skips the value. -/
def skip : Draft → Option Fault
  | .missing => some .unfinished
  | .stray => some .syntactic
  | .torn fault => some fault
  | .tornString place => some place.skipped
  | .null | .bool _ | .number _ | .string _ => none
  | .array items ending => (skipItems items).or (ending.map Break.skipped)
  | .object fields ending => (skipFields fields).or (ending.map Break.skipped)
  | .nameless .missing => some .unfinished
  | .nameless _ => some .syntactic

def skipItems : List Draft → Option Fault
  | [] => none
  | d :: rest => (skip d).or (skipItems rest)

def skipFields : List (Option String × Draft) → Option Fault
  | [] => none
  | (_, d) :: rest => (skip d).or (skipFields rest)

end

/-- Ends a walk over a container: its break, if it has one. -/
def close (ending : Option Break) : Except Fault Unit :=
  match ending with
  | none => .ok ()
  | some place => .error place.read

/-- Arrays and objects may stand in one another to this depth, the outermost counted. -/
def depthLimit : Nat := 127

mutual

/-- The value, read strictly with every entry of its objects kept. `depth` is how many more
    containers may be entered. -/
def keep (depth : Nat) : Draft → Except Fault Value
  | .missing => .error .unfinished
  | .stray => .error .syntactic
  | .torn fault => .error fault
  | .tornString place => .error place.read
  | .null => .ok .null
  | .bool b => .ok (.bool b)
  | .number (some n) => .ok (.number n)
  | .number none => .error .syntactic
  | .string (some s) => .ok (.string s)
  | .string none => .error .syntactic
  | .array items ending => do
    if depth = 0 then .error .syntactic
    let values ← keepItems (depth - 1) items
    close ending
    .ok (.array values)
  | .object fields ending => do
    if depth = 0 then .error .syntactic
    let entries ← keepFields (depth - 1) fields
    close ending
    .ok (.object entries)
  | .nameless .missing => .error (if depth = 0 then .syntactic else .unfinished)
  | .nameless _ => .error .syntactic

def keepItems (depth : Nat) : List Draft → Except Fault (List Value)
  | [] => .ok []
  | d :: rest => do
    let v ← keep depth d
    let vs ← keepItems depth rest
    .ok (v :: vs)

def keepFields (depth : Nat) : List (Option String × Draft) → Except Fault (List (String × Value))
  | [] => .ok []
  | (none, _) :: _ => .error .syntactic
  | (some k, d) :: rest => do
    let v ← keep depth d
    let vs ← keepFields depth rest
    .ok ((k, v) :: vs)

end

end Draft

end TaskTracking.Json
