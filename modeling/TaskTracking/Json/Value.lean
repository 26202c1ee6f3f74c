import TaskTracking.Binary64.Decimal

/-! # JSON values

  Values with numbers as they are read, an integer or a binary64 number, and objects
  that keep the order of their keys. An object may hold a key more than once while it is
  being taken apart; `Value.merged` leaves one entry for each key.
-/

namespace TaskTracking.Json

/-- A number: an integer of at most 64 bits, or a binary64 number. -/
inductive Number where
  | integer (value : Int)
  | float (value : Binary64)
deriving DecidableEq

/-- A value. -/
inductive Value where
  | null
  | bool (value : Bool)
  | number (value : Number)
  | string (value : String)
  | array (items : List Value)
  | object (fields : List (String × Value))

instance : Inhabited Value := ⟨.null⟩

namespace Value

/-- An object's entries with `key` set to `value`: the first entry of that key keeps its place. -/
def setField (key : String) (value : Value) : List (String × Value) → List (String × Value)
  | [] => [(key, value)]
  | (k, v) :: rest => if k = key then (k, value) :: rest else (k, v) :: setField key value rest

mutual

/-- The value with one entry for each key of its objects: the first place, the last value. -/
def merged : Value → Value
  | .null => .null
  | .bool b => .bool b
  | .number n => .number n
  | .string s => .string s
  | .array items => .array (mergedItems items)
  | .object fields => .object (mergedFields [] fields)

def mergedItems : List Value → List Value
  | [] => []
  | v :: rest => merged v :: mergedItems rest

def mergedFields (seen : List (String × Value)) : List (String × Value) → List (String × Value)
  | [] => seen
  | (k, v) :: rest => mergedFields (setField k (merged v) seen) rest

end

end Value

end TaskTracking.Json
