import TaskTracking.Json.Value

/-! # Tables of a TOML document

  A table can be written in several places: under its header, as part of a longer
  header, by dotted keys. How it came to be decides what may be added to it, so the
  tables of a document that is being read remember that.
-/

namespace TaskTracking.Toml

open Json (Value)

/-- How a table came to be. -/
inductive Origin where
  /-- By its own header. -/
  | header
  /-- As part of a longer header. -/
  | passed
  /-- By a dotted key. -/
  | dotted
deriving DecidableEq

/-- What stands under a key of a document that is being read. -/
inductive Node where
  /-- A value to which nothing can be added. -/
  | value (value : Value)
  | table (origin : Origin) (entries : List (String × Node))
  /-- Tables under headers with double brackets. -/
  | tables (list : List (List (String × Node)))

abbrev Entries := List (String × Node)

/-- The entries with a node put under the key, in place of any other. -/
def put (key : String) (node : Node) : Entries → Entries
  | [] => [(key, node)]
  | (k, n) :: rest => if k = key then (k, node) :: rest else (k, n) :: put key node rest

/-- Changes the last of several tables. -/
def changeLast (f : Entries → Option Entries) : List Entries → Option (List Entries)
  | [] => none
  | [last] => (f last).map ([·])
  | table :: rest => (changeLast f rest).map (table :: ·)

/-- Changes the table that the path leads to; tables that are passed come to be on the way. -/
def change (f : Entries → Option Entries) : List String → Entries → Option Entries
  | [], entries => f entries
  | key :: path, entries =>
    match entries.lookup key with
    | none => (change f path []).map fun inner => put key (.table .passed inner) entries
    | some (.table origin inner) =>
      (change f path inner).map fun inner => put key (.table origin inner) entries
    | some (.tables list) =>
      (changeLast (change f path) list).map fun list => put key (.tables list) entries
    | some (.value _) => none

/-- The header of a table: a table has one at most. -/
def openTable (key : String) (entries : Entries) : Option Entries :=
  match entries.lookup key with
  | none => some (put key (.table .header []) entries)
  | some (.table .passed inner) => some (put key (.table .header inner) entries)
  | some _ => none

/-- The header of one of several tables. -/
def openTables (key : String) (entries : Entries) : Option Entries :=
  match entries.lookup key with
  | none => some (put key (.tables [[]]) entries)
  | some (.tables list) => some (put key (.tables (list ++ [[]])) entries)
  | some _ => none

/-- A key with its value, in a table that came to be by dotted keys or not. Dotted keys add
    to no table that came to be in another way. -/
def addEntry (inDotted : Bool) (value : Value) (dotted : Bool) :
    List String → Entries → Option Entries
  | [], _ => none
  | [key], entries =>
    if inDotted = dotted ∧ (entries.lookup key).isNone then
      some (entries ++ [(key, .value value)])
    else none
  | key :: path, entries =>
    match entries.lookup key with
    | none =>
      (addEntry true value true path []).map fun inner => put key (.table .dotted inner) entries
    | some (.table .header _) => none
    | some (.table origin inner) =>
      (addEntry (origin = .dotted) value true path inner).map fun inner =>
        put key (.table origin inner) entries
    | some (.tables list) =>
      (changeLast (addEntry false value true path) list).map fun list =>
        put key (.tables list) entries
    | some (.value _) => none

/-- A key with its value, in a table that stands open. -/
def add (path : List String) (value : Value) (entries : Entries) : Option Entries :=
  addEntry false value false path entries

/-! ### Values -/

/-- Places a field by its key. -/
def placeField (field : String × Value) : List (String × Value) → List (String × Value)
  | [] => [field]
  | other :: rest =>
    if field.1 < other.1 then field :: other :: rest else other :: placeField field rest

mutual

/-- The value of what stands under a key. Fields are in the order of their keys. -/
def Node.toValue : Node → Value
  | .value v => v
  | .table _ entries => .object (fieldsOf entries)
  | .tables list => .array (itemsOf list)

def fieldsOf : List (String × Node) → List (String × Value)
  | [] => []
  | (key, node) :: rest => placeField (key, node.toValue) (fieldsOf rest)

def itemsOf : List (List (String × Node)) → List Value
  | [] => []
  | entries :: rest => .object (fieldsOf entries) :: itemsOf rest

end

end TaskTracking.Toml
