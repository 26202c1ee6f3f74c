import TaskTracking.SystemError

/-! # Files

  A tree of directories and files with the operations of a file system that the state
  file needs, and the errors they end with. Paths are resolved step by step, so `.` and
  `..` need the directory that they are used in.
-/

namespace TaskTracking

/-- What a path can lead to. -/
inductive FileNode where
  | file (bytes : List UInt8)
  | directory
deriving DecidableEq

/-- A file tree: what there is below the top, by the names on the way. -/
structure Files where
  nodes : List (List String × FileNode) := []
deriving DecidableEq

namespace Files

/-- Where a path without a leading slash begins. -/
def workingDirectory : List String := ["work"]

/-- What is at a place. -/
def at? (f : Files) (place : List String) : Option FileNode :=
  if place = [] ∨ place = workingDirectory then some .directory else f.nodes.lookup place

/-- The tree with something put at a place. -/
def set (f : Files) (place : List String) (node : FileNode) : Files :=
  ⟨(place, node) :: f.nodes.filter (·.1 ≠ place)⟩

/-- The tree without what was at a place. -/
def clear (f : Files) (place : List String) : Files := ⟨f.nodes.filter (·.1 ≠ place)⟩

/-! ### Paths -/

/-- The names of a path; a slash at its end asks for a directory, like a dot. -/
def names (path : String) : List String :=
  let parts := path.toList.splitOn '/' |>.map String.ofList
  let steps := parts.filter (· ≠ "")
  if !steps.isEmpty ∧ parts.getLast? = some "" then steps ++ ["."] else steps

/-- Where a path begins. -/
def origin (path : String) : List String :=
  if path.toList.head? = some '/' then [] else workingDirectory

/-- Follows names from a place. What the last name leads to need not exist. -/
def follow (f : Files) (place : List String) : List String → Except SystemError (List String)
  | [] => .ok place
  | name :: rest =>
    match f.at? place with
    | none => .error .notFound
    | some (.file _) => .error .notDirectory
    | some .directory =>
      if 255 < name.utf8ByteSize then .error .nameTooLong
      else if name = "." then f.follow place rest
      else if name = ".." then f.follow place.dropLast rest
      else f.follow (place ++ [name]) rest

/-- The place that a path leads to. -/
def resolve (f : Files) (path : String) : Except SystemError (List String) :=
  if path = "" then .error .notFound else f.follow (origin path) (names path)

/-! ### Operations -/

/-- The bytes of a file. -/
def read (f : Files) (path : String) : Except SystemError (List UInt8) := do
  match f.at? (← f.resolve path) with
  | none => .error .notFound
  | some .directory => .error .isDirectory
  | some (.file bytes) => .ok bytes

/-- Whether a path leads to something. -/
def exists? (f : Files) (path : String) : Bool :=
  match f.resolve path with
  | .ok place => (f.at? place).isSome
  | .error _ => false

/-- Writes a file, in place of another one. -/
def write (f : Files) (path : String) (bytes : List UInt8) : Except SystemError Files := do
  let place ← f.resolve path
  match f.at? place with
  | some .directory => .error .isDirectory
  | _ => .ok (f.set place (.file bytes))

/-- Moves a file, in place of another one. -/
def rename (f : Files) (source target : String) : Except SystemError Files := do
  let start ← f.resolve source
  let goal ← f.resolve target
  match f.at? start, f.at? goal with
  | some (.file _), some .directory => .error .isDirectory
  | some (.file bytes), _ => .ok ((f.clear start).set goal (.file bytes))
  | _, _ => .error .notFound

/-- Removes a file. -/
def remove (f : Files) (path : String) : Except SystemError Files := do
  let place ← f.resolve path
  match f.at? place with
  | none => .error .notFound
  | some .directory => .error .isDirectory
  | some (.file _) => .ok (f.clear place)

/-- Makes the directories that lie on the way. -/
def makeWay (f : Files) (place : List String) : List String → Except SystemError Files
  | [] => .ok f
  | name :: rest =>
    if 255 < name.utf8ByteSize then .error .nameTooLong
    else if name = "." then f.makeWay place rest
    else if name = ".." then f.makeWay place.dropLast rest
    else
      let next := place ++ [name]
      match f.at? next with
      | none => (f.set next .directory).makeWay next rest
      | some .directory => f.makeWay next rest
      | some (.file _) => .error (if rest.isEmpty then .alreadyExists else .notDirectory)

/-- Makes a directory and all those above it. -/
def makeDirectory (f : Files) (path : String) : Except SystemError Files :=
  f.makeWay (origin path) (names path)

/-- Makes the directories above the last name of a path. -/
def makeParents (f : Files) (path : String) : Except SystemError Files :=
  f.makeWay (origin path) ((names path).filter (· ≠ ".")).dropLast

end Files

end TaskTracking
