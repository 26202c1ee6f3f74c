import TaskTracking.Toml.Scalar
import TaskTracking.Toml.Table
import TaskTracking.Toml.Text

/-! # TOML documents

  A document is read into one value. Whatever is no document is none; nothing says where
  it fails.
-/

namespace TaskTracking.Toml

open Json (Value)

/-! ### Between the values -/

def skipBlanks (text : List Char) : List Char := text.dropWhile fun c => c = ' ' || c = '\t'

/-- Skips blanks, line ends and comments. -/
def skipLines (inComment : Bool) : List Char → Option (List Char)
  | [] => some []
  | '\n' :: rest => skipLines false rest
  | '\r' :: '\n' :: rest => skipLines false rest
  | c :: rest =>
    if inComment then if isPlain c then skipLines true rest else none
    else if c = ' ' || c = '\t' then skipLines false rest
    else if c = '#' then skipLines true rest
    else some (c :: rest)

/-- Skips what may follow on a line: blanks, a comment, and the line end. -/
def endLine (inComment : Bool) : List Char → Option (List Char)
  | [] => some []
  | '\n' :: rest => some rest
  | '\r' :: '\n' :: rest => some rest
  | c :: rest =>
    if inComment then if isPlain c then endLine true rest else none
    else if c = ' ' || c = '\t' then endLine false rest
    else if c = '#' then endLine true rest
    else none

/-! ### Keys -/

def isBareKeyChar (c : Char) : Bool := c.isAlphanum || c = '_' || c = '-'

def asText (q : Quoted) : Option (String × List Char) :=
  q.map fun (text, rest) => (String.ofList text, rest)

/-- One key. -/
def key (text : List Char) : Option (String × List Char) :=
  match text with
  | '"' :: rest => asText (basic rest)
  | '\'' :: rest => asText (literal rest)
  | _ =>
    let name := text.takeWhile isBareKeyChar
    if name.isEmpty then none else some (String.ofList name, text.dropWhile isBareKeyChar)

/-- Keys divided by dots, at most as many as there is fuel. -/
def keyPath : Nat → List Char → Option (List String × List Char)
  | 0, _ => none
  | fuel + 1, text => do
    let (first, rest) ← key text
    match skipBlanks rest with
    | '.' :: rest =>
      let (path, rest) ← keyPath fuel (skipBlanks rest)
      return (first :: path, rest)
    | _ => return ([first], rest)

/-! ### Values -/

/-- How deep arrays and inline tables may be nested. -/
def depthLimit : Nat := 80

/-- Whether the character ends a value without quotes. -/
def endsScalar (c : Char) : Bool := " \t\r\n,]\x7d[\x7b#=\"'".toList.contains c

/-- A value without quotes. A date goes on after one space if a digit follows it. -/
def bare (text : List Char) : Option (Value × List Char) := do
  let token := text.takeWhile fun c => !endsScalar c
  let rest := text.dropWhile fun c => !endsScalar c
  match date? token, rest with
  | some [], ' ' :: c :: more =>
    if c.isDigit then
      let time := (c :: more).takeWhile fun c => !endsScalar c
      let value ← scalar? (token ++ ' ' :: time)
      return (value, (c :: more).dropWhile fun c => !endsScalar c)
    else return (moment token, rest)
  | _, _ => return (← scalar? token, rest)

mutual

/-- A value; containers may be nested as deep as `depth` says. -/
def value : Nat → Nat → List Char → Option (Value × List Char)
  | 0, _, _ => none
  | fuel + 1, depth, text =>
    let ofText (q : Quoted) : Option (Value × List Char) :=
      (asText q).map fun (s, rest) => (.string s, rest)
    match text with
    | '"' :: '"' :: '"' :: rest => ofText (multiBasic false (trimLineEnd rest))
    | '"' :: rest => ofText (basic rest)
    | '\'' :: '\'' :: '\'' :: rest => ofText (multiLiteral (trimLineEnd rest))
    | '\'' :: rest => ofText (literal rest)
    | '[' :: rest =>
      match depth with
      | 0 => none
      | depth + 1 => (items fuel depth [] rest).map fun (items, rest) => (.array items, rest)
    | '\x7b' :: rest =>
      match depth with
      | 0 => none
      | depth + 1 =>
        (fields fuel depth [] rest).map fun (entries, rest) => (.object (fieldsOf entries), rest)
    | _ => bare text

/-- The items of an array up to its end, after those read. -/
def items : Nat → Nat → List Value → List Char → Option (List Value × List Char)
  | 0, _, _, _ => none
  | fuel + 1, depth, read, text => do
    match ← skipLines false text with
    | ']' :: rest => return (read.reverse, rest)
    | text =>
      let (item, rest) ← value fuel depth text
      match ← skipLines false rest with
      | ',' :: rest => items fuel depth (item :: read) rest
      | ']' :: rest => return ((item :: read).reverse, rest)
      | _ => none

/-- The entries of an inline table up to its end, after those read. -/
def fields : Nat → Nat → Entries → List Char → Option (Entries × List Char)
  | 0, _, _, _ => none
  | fuel + 1, depth, read, text => do
    match ← skipLines false text with
    | '\x7d' :: rest => return (read, rest)
    | text =>
      let (path, rest) ← keyPath fuel text
      match skipBlanks rest with
      | '=' :: rest =>
        let (value, rest) ← value fuel depth (skipBlanks rest)
        let read ← add path value read
        match ← skipLines false rest with
        | ',' :: rest => fields fuel depth read rest
        | '\x7d' :: rest => return (read, rest)
        | _ => none
      | _ => none

end

/-! ### Lines -/

/-- A document that is being read: all its tables, and the path of the one that stands open. -/
structure State where
  root : Entries := []
  path : List String := []

/-- The path between brackets; `close` are the closing ones. -/
def header (fuel : Nat) (close text : List Char) : Option (List String × List Char) := do
  let (path, rest) ← keyPath fuel (skipBlanks text)
  let rest := skipBlanks rest
  if rest.take close.length = close then return (path, rest.drop close.length) else none

/-- Opens the table that a header names. -/
def openHeader (opening : String → Entries → Option Entries) (s : State) (path : List String) :
    Option State := do
  let last ← path.getLast?
  let root ← change (opening last) path.dropLast s.root
  return { root, path }

/-- One line that is not empty. -/
def line (fuel : Nat) (s : State) (text : List Char) : Option (State × List Char) :=
  match text with
  | '[' :: '[' :: rest => do
    let (path, rest) ← header fuel [']', ']'] rest
    return (← openHeader openTables s path, rest)
  | '[' :: rest => do
    let (path, rest) ← header fuel [']'] rest
    return (← openHeader openTable s path, rest)
  | _ => do
    let (path, rest) ← keyPath fuel text
    match skipBlanks rest with
    | '=' :: rest =>
      let (value, rest) ← value fuel depthLimit (skipBlanks rest)
      let root ← change (add path value) s.path s.root
      return ({ s with root }, rest)
    | _ => none

/-- The lines of a document. -/
def lines : Nat → State → List Char → Option State
  | 0, _, _ => none
  | fuel + 1, s, text => do
    match ← skipLines false text with
    | [] => return s
    | text =>
      let (s, rest) ← line fuel s text
      lines fuel s (← endLine false rest)

/-- Reads a document; a byte order mark in front of it is skipped. -/
def parse (text : String) : Option Value :=
  let chars := match text.toList with
    | '\uFEFF' :: rest => rest
    | chars => chars
  (lines (chars.length + 2) {} chars).map fun s => .object (fieldsOf s.root)

/-! ### Portability -/

mutual

/-- Whether every reader of the format must take all the integers of the value. -/
def hasPortableIntegers : Value → Bool
  | .number (.integer i) => isPortable i
  | .array items => itemsHavePortableIntegers items
  | .object fields => fieldsHavePortableIntegers fields
  | _ => true

def itemsHavePortableIntegers : List Value → Bool
  | [] => true
  | item :: rest => hasPortableIntegers item && itemsHavePortableIntegers rest

def fieldsHavePortableIntegers : List (String × Value) → Bool
  | [] => true
  | (_, field) :: rest => hasPortableIntegers field && fieldsHavePortableIntegers rest

end

end TaskTracking.Toml
