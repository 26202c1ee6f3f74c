import TaskTracking.Snapshot.Format

/-! # Push messages

  The frames of a push connection. A frame names its kind under `type`; of the server's
  kinds only `task_update` matters, every other is `other`.
-/

namespace TaskTracking

open Json

/-- A frame from the server. -/
inductive ServerMessage where
  /-- A change of one task; the envelope's id and the snapshot. -/
  | taskUpdate (taskId : String) (data : Snapshot)
  | other

/-- A frame to the server: a request for the updates of a task. -/
inductive ClientMessage where
  | subscribe (taskId : String)
deriving DecidableEq

namespace ServerMessage

inductive Kind where
  | taskUpdate
  | other

/-- The kind of that name; names of no interest are `other`. -/
def kindNamed (name : String) : Outcome Kind :=
  .ok (if name = "task_update" then .taskUpdate else .other)

/-- A task update of which some fields are read. -/
structure Partial where
  taskId : Option String := none
  data : Option Snapshot := none

def updateShape : Shape Partial where
  expected := "struct variant ServerMessage::TaskUpdate"
  empty := {}
  fields := [
    { name := "task_id", filled := (·.taskId.isSome)
      decoder := Decoder.text.map fun v p => { p with taskId := some v } },
    { name := "data", filled := (·.data.isSome)
      decoder := Snapshot.decoder.map fun v p => { p with data := some v } }]

/-- The message of a completed reading; both fields are always there. -/
def Partial.finish (p : Partial) : ServerMessage :=
  match p.taskId, p.data with
  | some taskId, some data => .taskUpdate taskId data
  | _, _ => .other

/-- Reads a frame from its draft. -/
def ofDraft (depth : Nat) (draft : Draft) : Outcome ServerMessage := do
  let message ← Tagged.ofDraft "internally tagged enum ServerMessage" "type" kindNamed depth draft
  match message.tag with
  | .taskUpdate => (updateShape.ofValue message.content).map Partial.finish
  | .other => .ok .other

/-- Reads a frame. -/
def decode (text : String) : Outcome ServerMessage := do
  let document := Draft.ofString text
  let message ← ofDraft Draft.depthLimit document.draft
  if document.trailing then .error (.fault .syntactic) else .ok message

/-- The task and its snapshot, which goes by the envelope's id. -/
def taskUpdate? : ServerMessage → Option (String × Snapshot)
  | .taskUpdate taskId data => some (taskId, data.withId taskId)
  | .other => none

end ServerMessage

namespace ClientMessage

def toJson : ClientMessage → Value
  | .subscribe taskId => .object [("type", .string "subscribe"), ("task_id", .string taskId)]

/-- The text of a frame. -/
def encode (m : ClientMessage) : String := m.toJson.compact

def kindNamed (name : String) : Outcome Unit := Decoder.pick [("subscribe", ())] name

def subscribeShape : Shape (Option String) where
  expected := "struct variant ClientMessage::Subscribe"
  empty := none
  fields := [
    { name := "task_id", filled := (·.isSome)
      decoder := Decoder.text.map fun v _ => some v }]

/-- Reads a frame. -/
def decode (text : String) : Outcome ClientMessage := do
  let document := Draft.ofString text
  let message ← Tagged.ofDraft "internally tagged enum ClientMessage" "type" kindNamed
    Draft.depthLimit document.draft
  let taskId ← subscribeShape.ofValue message.content
  if document.trailing then .error (.fault .syntactic)
  else .ok (.subscribe (taskId.getD ""))

end ClientMessage

end TaskTracking
