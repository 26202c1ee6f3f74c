import TaskTracking.Snapshot
import TaskTracking.Json.Record
import TaskTracking.Json.Printer

/-! # Snapshots as JSON

  Reading is lenient: every field but the status may be missing, `null` mostly counts as
  missing, the id may be called `task_id`, timestamps may be numbers. Writing has every
  field in its order, the optional ones only when present.
-/

namespace TaskTracking

open Json

/-- A status by its name. -/
def Status.decoder : Decoder Status := Decoder.choice Status.table

namespace Progress

/-- A progress object of which some fields are read. -/
structure Partial where
  current : Option Nat := none
  total : Option Nat := none
  percentage : Option Binary64 := none
  message : Option String := none

def shape : Shape Partial where
  expected := "struct TaskProgress"
  empty := {}
  fields := [
    { name := "current", filled := (·.current.isSome), absent := RecordField.mayBeAbsent
      decoder := (Decoder.natural.orDefault 0).map fun v p => { p with current := some v } },
    { name := "total", filled := (·.total.isSome), absent := RecordField.mayBeAbsent
      decoder := (Decoder.natural.orDefault 0).map fun v p => { p with total := some v } },
    { name := "percentage", filled := (·.percentage.isSome), absent := RecordField.mayBeAbsent
      decoder :=
        (Decoder.binary64.orDefault .zero).map fun v p => { p with percentage := some v } },
    { name := "message", filled := (·.message.isSome), absent := RecordField.mayBeAbsent
      decoder := (Decoder.text.orDefault "").map fun v p => { p with message := some v } }]

def Partial.finish (p : Partial) : Progress where
  current := p.current.getD 0
  total := p.total.getD 0
  percentage := p.percentage.getD .zero
  message := p.message.getD ""

def decoder : Decoder Progress := shape.decoder Partial.finish

/-- The value of a float; one that is not finite has none. -/
def floatValue (x : Binary64) : Value :=
  if x.isFinite then .number (.float x) else .null

def toJson (p : Progress) : Value :=
  .object [
    ("current", .number (.integer p.current)),
    ("total", .number (.integer p.total)),
    ("percentage", floatValue p.percentage),
    ("message", .string p.message)]

end Progress

/-- A timestamp as text: a string, or a number in its own spelling; anything else is none. -/
def timestampText : Value → Option String
  | .string s => some s
  | .number n => some (String.ofList n.text)
  | _ => none

namespace Snapshot

/-- A snapshot of which some fields are read. -/
structure Partial where
  id : Option String := none
  status : Option Status := none
  progress : Option Progress := none
  result : Option (Option Value) := none
  error : Option (Option String) := none
  createdAt : Option (Option String) := none
  updatedAt : Option (Option String) := none

def shape : Shape Partial where
  expected := "struct Task"
  empty := {}
  fields := [
    { name := "id", aliases := ["task_id"]
      filled := (·.id.isSome), absent := RecordField.mayBeAbsent
      decoder := Decoder.text.map fun v p => { p with id := some v } },
    { name := "status", filled := (·.status.isSome)
      decoder := Status.decoder.map fun v p => { p with status := some v } },
    { name := "progress", filled := (·.progress.isSome), absent := RecordField.mayBeAbsent
      decoder := (Progress.decoder.orDefault {}).map fun v p => { p with progress := some v } },
    { name := "result", filled := (·.result.isSome), absent := RecordField.mayBeAbsent
      decoder := Decoder.any.optional.map fun v p => { p with result := some v } },
    { name := "error", filled := (·.error.isSome), absent := RecordField.mayBeAbsent
      decoder := Decoder.text.optional.map fun v p => { p with error := some v } },
    { name := "created_at", filled := (·.createdAt.isSome), absent := RecordField.mayBeAbsent
      decoder := Decoder.any.map fun v p => { p with createdAt := some (timestampText v) } },
    { name := "updated_at", filled := (·.updatedAt.isSome), absent := RecordField.mayBeAbsent
      decoder := Decoder.any.map fun v p => { p with updatedAt := some (timestampText v) } }]

/-- The snapshot of a completed reading; its status is always there. -/
def Partial.finish (p : Partial) : Snapshot where
  id := p.id.getD ""
  status := p.status.getD .pending
  progress := p.progress.getD {}
  result := p.result.join
  error := p.error.join
  createdAt := p.createdAt.join
  updatedAt := p.updatedAt.join

def decoder : Decoder Snapshot := shape.decoder Partial.finish

/-- An entry that is written only when it has a value. -/
def optionalEntry (key : String) : Option Value → List (String × Value)
  | none => []
  | some v => [(key, v)]

def toJson (s : Snapshot) : Value :=
  .object ([
    ("id", .string s.id),
    ("status", .string s.status.name),
    ("progress", s.progress.toJson)] ++
    optionalEntry "result" s.result ++
    optionalEntry "error" (s.error.map .string) ++
    optionalEntry "created_at" (s.createdAt.map .string) ++
    optionalEntry "updated_at" (s.updatedAt.map .string))

end Snapshot

/-! ### Answers of the task server -/

/-- The decoder of a record with a single required field. -/
def singleField {α : Type} (expected name : String) (field : Decoder α) :
    Decoder (Option α) :=
  Shape.decoder (σ := Option α)
    { expected, empty := none
      fields := [{ name, filled := (·.isSome), decoder := field.map fun v _ => some v }] }
    id

/-- The answer to a create request: the id of the new task. -/
structure Created where
  taskId : String

def Created.decoder : Decoder Created :=
  (singleField "struct CreateTaskResponse" "task_id" Decoder.text).map fun v => ⟨v.getD ""⟩

def Created.toJson (c : Created) : Value := .object [("task_id", .string c.taskId)]

/-- The answer to a cancel request: whether the server accepts it. -/
structure CancelAnswer where
  success : Bool

def CancelAnswer.decoder : Decoder CancelAnswer :=
  (singleField "struct CancelTaskResponse" "success" Decoder.boolean).map fun v => ⟨v.getD false⟩

def CancelAnswer.toJson (c : CancelAnswer) : Value := .object [("success", .bool c.success)]

end TaskTracking
