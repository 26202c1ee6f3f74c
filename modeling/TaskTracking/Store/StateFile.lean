import TaskTracking.Failure
import TaskTracking.Json.Printer
import TaskTracking.Json.Record
import TaskTracking.Store.Entries
import TaskTracking.Store.Files
import TaskTracking.Text.Utf8

/-! # The state file

  Entries kept in one file, as a JSON object. An operation reads the whole file; if it
  changes the entries it writes all of them to a second file and moves that over the
  first. The state file holds the old entries until then and the new ones from then on.

  An operation is a sequence of stages, each of which touches the file system once.
-/

namespace TaskTracking.Store

namespace Entries

/-- The text of the state file. -/
def fileBytes (e : Entries) : List UInt8 := Utf8.encode (Json.indentedEntries e.toList)

/-- Reads the text of a state file; an empty file has no entries. -/
def ofFileBytes (bytes : List UInt8) : Json.Outcome Entries := do
  if bytes.isEmpty then return {}
  let document := Json.Draft.document (Utf8.decode bytes)
  let entries ← Json.textEntries Json.Draft.depthLimit document.draft
  if document.trailing then .error (.fault .syntactic)
  return .ofList entries

end Entries

/-- How far an operation on the state file is. -/
inductive Stage where
  | reading (request : Request)
  /-- The entries have changed; the directories of the file are made next. -/
  | preparing (entries : Entries) (answer : Answer)
  /-- The second file is written next. -/
  | writing (entries : Entries) (answer : Answer)
  /-- The second file is moved over the first next. -/
  | moving (answer : Answer)
  | finished (result : Except StorageFailure Answer)

namespace StateFile

/-- The path of the second file. -/
def besides (path : String) : String := path ++ ".tmp"

/-- The entries in the file; without a file there are none. -/
def load (path : String) (files : Files) : Except StorageFailure Entries :=
  match files.read path with
  | .ok bytes => (Entries.ofFileBytes bytes).mapError .serialization
  | .error e => if e = .notFound then .ok {} else .error (.io path e.text)

/-- What follows once the entries are known; a request that changes none is finished. -/
def decide (request : Request) (entries : Entries) : Stage :=
  let (next, answer) := entries.answer request
  match request, answer with
  | .get _, _ => .finished (.ok answer)
  | .delete _, .removed false => .finished (.ok answer)
  | _, _ => .preparing next answer

/-- The stage after a part of the work on the file system. -/
def proceed (path : String) (files : Files) (next : Stage) :
    Except SystemError Files → Files × Stage
  | .ok files => (files, next)
  | .error e => (files, .finished (.error (.io path e.text)))

/-- One stage of an operation. -/
def step (path : String) (files : Files) : Stage → Files × Stage
  | .reading request =>
    match load path files with
    | .ok entries => (files, decide request entries)
    | .error failure => (files, .finished (.error failure))
  | .preparing entries answer =>
    proceed path files (.writing entries answer) (files.makeParents path)
  | .writing entries answer =>
    proceed path files (.moving answer) (files.write (besides path) entries.fileBytes)
  | .moving answer =>
    proceed path files (.finished (.ok answer)) (files.rename (besides path) path)
  | .finished result => (files, .finished result)

/-- Runs an operation through its four stages. -/
def answer (path : String) (files : Files) (request : Request) :
    Files × Except StorageFailure Answer :=
  let run (s : Files × Stage) := step path s.1 s.2
  match run (run (run (run (files, .reading request)))) with
  | (files, .finished result) => (files, result)
  | (files, _) => (files, .error (.backend "unfinished"))

end StateFile

end TaskTracking.Store
