import TaskTracking.Tracker.State

/-! # Scripted surroundings

  Stand-ins for what surrounds a page: a task server and a push endpoint that answer
  from scripts, and a storage whose operations can be made to fail.
-/

namespace TaskTracking.Scenario

/-- A scripted answer, given after a delay. -/
structure Scripted (α : Type) where
  delay : Nat := 0
  result : Except TransportFailure α

/-- The answers to successive requests. -/
abbrev Script (α : Type) := List (Scripted α)

/-- The answer to the next request. The last answer of a script is repeated; nothing answers
    where there is no script. -/
def Script.next : Script α → Scripted α × Script α
  | [] => ({ result := .error .timeout }, [])
  | [last] => (last, [last])
  | answer :: rest => (answer, rest)

/-- The task server. -/
structure Server where
  statuses : Script Snapshot := []
  creations : Script String := []
  cancellations : Script Bool := []

/-- The push endpoint. -/
structure Endpoint where
  /-- How the coming attempts end; all after them are refused. -/
  script : Script Unit := []
  /-- The attempts so far. -/
  attempts : Nat := 0
  /-- The connections accepted so far. -/
  accepted : Nat := 0

/-- Begins an attempt. -/
def Endpoint.next (e : Endpoint) : Scripted Unit × Endpoint :=
  let e := { e with attempts := e.attempts + 1 }
  match e.script with
  | [] => ({ result := .error (.connection "connection refused") }, e)
  | answer :: rest => (answer, { e with script := rest })

/-- Numbers a connection that is accepted now. -/
def Endpoint.accept (e : Endpoint) : Nat × Endpoint :=
  (e.accepted, { e with accepted := e.accepted + 1 })

/-- The messages with which storage operations fail, where they do. -/
structure Faults where
  get : Option String := none
  put : Option String := none
  delete : Option String := none

def Faults.of (f : Faults) : Store.Request → Option String
  | .get _ => f.get
  | .put .. => f.put
  | .delete _ => f.delete

/-- The storage. -/
structure Storage where
  entries : Store.Entries := {}
  faults : Faults := {}

/-- Performs a request, or fails and changes nothing. -/
def Storage.answer (s : Storage) (request : Store.Request) :
    Except StorageFailure Store.Answer × Storage :=
  match s.faults.of request with
  | some message => (.error (.backend message), s)
  | none =>
    let (entries, answer) := s.entries.answer request
    (.ok answer, { s with entries })

end TaskTracking.Scenario
