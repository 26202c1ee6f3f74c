/-! # Stored entries

  Texts under keys, and what can be asked of whatever keeps them. `Entries.answer` says
  what each request means; every backend is to answer as it does.
-/

namespace TaskTracking.Store

/-- Stored texts, in the order of their keys, each key once. -/
structure Entries where
  toList : List (String × String) := []
deriving DecidableEq

namespace Entries

/-- The text under a key. -/
def get? (e : Entries) (key : String) : Option String := e.toList.lookup key

def contains (e : Entries) (key : String) : Bool := (e.get? key).isSome

def size (e : Entries) : Nat := e.toList.length

def isEmpty (e : Entries) : Bool := e.toList.isEmpty

/-- Puts a text under a key, at the key's place in the order. -/
def place (key value : String) : List (String × String) → List (String × String)
  | [] => [(key, value)]
  | (k, v) :: rest =>
    if key = k then (key, value) :: rest
    else if key < k then (key, value) :: (k, v) :: rest
    else (k, v) :: place key value rest

/-- The entries with a text put under a key, in place of any other. -/
def put (e : Entries) (key value : String) : Entries := ⟨place key value e.toList⟩

/-- The entries without a key. -/
def erase (e : Entries) (key : String) : Entries := ⟨e.toList.filter (·.1 ≠ key)⟩

/-- The entries of a list; of two with one key the later holds. -/
def ofList (l : List (String × String)) : Entries := l.foldl (fun e (k, v) => e.put k v) {}

end Entries

/-- What a backend is asked for. -/
inductive Request where
  | get (key : String)
  | put (key value : String)
  | delete (key : String)
deriving DecidableEq

/-- What a backend answers. -/
inductive Answer where
  | value (found : Option String)
  | written
  /-- Whether there was something to remove. -/
  | removed (found : Bool)
deriving DecidableEq

/-- The meaning of a request. -/
def Entries.answer (e : Entries) : Request → Entries × Answer
  | .get key => (e, .value (e.get? key))
  | .put key value => (e.put key value, .written)
  | .delete key => (e.erase key, .removed (e.contains key))

end TaskTracking.Store
