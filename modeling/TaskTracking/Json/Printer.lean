import TaskTracking.Json.Numeral

/-! # Writing JSON

  Compact text, and the indented text of an object of strings. Quotes, backslashes and
  controls are escaped, everything else is written as it is.
-/

namespace TaskTracking.Json

/-- One character inside a string. -/
def escapedChar (c : Char) : List Char :=
  if c = '"' then ['\\', '"']
  else if c = '\\' then ['\\', '\\']
  else if c = '\x08' then ['\\', 'b']
  else if c = '\x0c' then ['\\', 'f']
  else if c = '\n' then ['\\', 'n']
  else if c = '\r' then ['\\', 'r']
  else if c = '\t' then ['\\', 't']
  else if c < ' ' then
    ['\\', 'u', '0', '0', Nat.digitChar (c.toNat / 16), Nat.digitChar (c.toNat % 16)]
  else [c]

/-- A string in its quotes. -/
def stringText (s : String) : List Char := '"' :: s.toList.flatMap escapedChar ++ ['"']

namespace Value

mutual

/-- The text of a value, without blanks. -/
def chars : Value → List Char
  | .null => "null".toList
  | .bool b => (if b then "true" else "false").toList
  | .number n => n.text
  | .string s => stringText s
  | .array items => '[' :: itemChars items ++ [']']
  | .object fields => '\x7b' :: fieldChars fields ++ ['\x7d']

def itemChars : List Value → List Char
  | [] => []
  | [v] => chars v
  | v :: rest => chars v ++ ',' :: itemChars rest

def fieldChars : List (String × Value) → List Char
  | [] => []
  | [(k, v)] => stringText k ++ ':' :: chars v
  | (k, v) :: rest => stringText k ++ ':' :: chars v ++ ',' :: fieldChars rest

end

/-- The text of a value, without blanks. -/
def compact (v : Value) : String := String.ofList v.chars

end Value

/-- The lines of an object of strings, one entry a line, indented by two blanks. -/
def entryLines : List (String × String) → List Char
  | [] => []
  | [(k, v)] => ' ' :: ' ' :: stringText k ++ ':' :: ' ' :: stringText v ++ ['\n']
  | (k, v) :: rest =>
    ' ' :: ' ' :: stringText k ++ ':' :: ' ' :: stringText v ++ ',' :: '\n' :: entryLines rest

/-- The indented text of an object of strings. -/
def indentedEntries (entries : List (String × String)) : List Char :=
  if entries.isEmpty then ['\x7b', '\x7d']
  else '\x7b' :: '\n' :: entryLines entries ++ ['\x7d']

end TaskTracking.Json
