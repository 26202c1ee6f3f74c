import TaskTracking.Url.Percent

/-! # Texts in TOML

  Texts between quotes: on one line or on several, with escapes or literal. Each reader
  begins after the opening quotes and gives the text and what follows the closing ones.
-/

namespace TaskTracking.Toml

/-- A text and what follows it. -/
abbrev Quoted := Option (List Char × List Char)

/-- Whether the character may stand in a text or a comment as it is. -/
def isPlain (c : Char) : Bool := c = '\t' || (0x20 ≤ c.toNat && c.toNat ≠ 0x7F)

/-- The character with the code point of the hexadecimal digits. -/
def charOfHex? (digits : List Char) : Option Char := do
  let n ← digits.foldlM (fun n c => (Percent.hexValue? c).map (n * 16 + ·)) 0
  if n.isValidChar then some (Char.ofNat n) else none

/-- The character that a letter after a backslash stands for. -/
def escaped? : Char → Option Char
  | 'b' => some '\x08'
  | 't' => some '\t'
  | 'n' => some '\n'
  | 'f' => some '\x0c'
  | 'r' => some '\r'
  | 'e' => some '\x1b'
  | '"' => some '"'
  | '\\' => some '\\'
  | _ => none

/-- Puts a character in front of a text. -/
def Quoted.push (c : Char) (q : Quoted) : Quoted := q.map fun (text, rest) => (c :: text, rest)

/-- A text on one line with escapes. -/
def basic : List Char → Quoted
  | '"' :: rest => some ([], rest)
  | '\\' :: 'x' :: a :: b :: rest => do Quoted.push (← charOfHex? [a, b]) (basic rest)
  | '\\' :: 'u' :: a :: b :: c :: d :: rest => do
    Quoted.push (← charOfHex? [a, b, c, d]) (basic rest)
  | '\\' :: 'U' :: a :: b :: c :: d :: e :: f :: g :: h :: rest => do
    Quoted.push (← charOfHex? [a, b, c, d, e, f, g, h]) (basic rest)
  | '\\' :: letter :: rest => do Quoted.push (← escaped? letter) (basic rest)
  | c :: rest => if isPlain c && c ≠ '\\' then (basic rest).push c else none
  | [] => none

/-- A literal text on one line. -/
def literal : List Char → Quoted
  | '\'' :: rest => some ([], rest)
  | c :: rest => if isPlain c then (literal rest).push c else none
  | [] => none

/-- After the closing quotes: up to two more quotes before them belong to the text. -/
def closing (quote : Char) : List Char → Quoted
  | a :: b :: rest =>
    if a = quote then
      if b = quote then some ([quote, quote], rest) else some ([quote], b :: rest)
    else some ([], a :: b :: rest)
  | [a] => if a = quote then some ([quote], []) else some ([], [a])
  | [] => some ([], [])

/-- Whether only blanks are left on the line. -/
def isLineRest : List Char → Bool
  | ' ' :: rest | '\t' :: rest => isLineRest rest
  | '\n' :: _ | '\r' :: '\n' :: _ => true
  | _ => false

/-- A text on several lines with escapes. A backslash at the end of a line joins it to the
    next text, wherever that begins; `joining` says that this text is still looked for. -/
def multiBasic (joining : Bool) : List Char → Quoted
  | '"' :: '"' :: '"' :: rest => closing '"' rest
  | '\\' :: 'x' :: a :: b :: rest => do Quoted.push (← charOfHex? [a, b]) (multiBasic false rest)
  | '\\' :: 'u' :: a :: b :: c :: d :: rest => do
    Quoted.push (← charOfHex? [a, b, c, d]) (multiBasic false rest)
  | '\\' :: 'U' :: a :: b :: c :: d :: e :: f :: g :: h :: rest => do
    Quoted.push (← charOfHex? [a, b, c, d, e, f, g, h]) (multiBasic false rest)
  | '\\' :: c :: rest =>
    if isLineRest (c :: rest) then multiBasic true (c :: rest)
    else do Quoted.push (← escaped? c) (multiBasic false rest)
  | '\r' :: '\n' :: rest =>
    if joining then multiBasic true rest
    else ((multiBasic false rest).push '\n').push '\r'
  | c :: rest =>
    if joining && (c = ' ' || c = '\t' || c = '\n') then multiBasic true rest
    else if c ≠ '\\' && (isPlain c || c = '\n') then (multiBasic false rest).push c
    else none
  | [] => none

/-- A literal text on several lines. -/
def multiLiteral : List Char → Quoted
  | '\'' :: '\'' :: '\'' :: rest => closing '\'' rest
  | '\r' :: '\n' :: rest => ((multiLiteral rest).push '\n').push '\r'
  | c :: rest => if isPlain c || c = '\n' then (multiLiteral rest).push c else none
  | [] => none

/-- The text without a line end in front. -/
def trimLineEnd : List Char → List Char
  | '\n' :: rest | '\r' :: '\n' :: rest => rest
  | text => text

end TaskTracking.Toml
