import TaskTracking.Url.Percent

/-! # Paths

  A path is a list of segments. The segments `.` and `..` are resolved while it is read,
  so none is left in it; both may be written with encoded dots.
-/

namespace TaskTracking.Url

/-- A path: segments, or a text without structure. -/
inductive Path where
  | plain (text : String)
  | segments (list : List String)
deriving DecidableEq

/-- The segment's text in lower case with encoded dots decoded, to find the special segments. -/
def dotForm (segment : List Char) : List Char :=
  match segment with
  | '%' :: '2' :: 'e' :: rest | '%' :: '2' :: 'E' :: rest => '.' :: dotForm rest
  | c :: rest => c :: dotForm rest
  | [] => []

/-- Whether the segment stands for the place itself. -/
def isHere (segment : List Char) : Bool := dotForm segment = ['.']

/-- Whether the segment stands for the place above. -/
def isAbove (segment : List Char) : Bool := dotForm segment = ['.', '.']

/-- Whether the segment names a drive, by a letter and a colon or bar. -/
def isDrive : List Char → Bool
  | [letter, mark] => letter.isAlpha && (mark = ':' || mark = '|')
  | _ => false

/-- The segments passed so far, the last one first, without the last one. A drive stays. -/
def ascend (isFile : Bool) : List (List Char) → List (List Char)
  | [] => []
  | [segment] => if isFile && isDrive segment then [segment] else []
  | _ :: passed => passed

/-- One segment that is not special, after those passed. -/
def enter (isFile : Bool) (passed : List (List Char)) (segment : List Char) : List (List Char) :=
  match isFile && passed.isEmpty && isDrive segment, segment with
  | true, letter :: _ => [[letter, ':']]
  | _, _ => segment :: passed

/-- Walks along segments. A special segment at the end leaves an empty one, as the path then
    names a directory. -/
def walk (isFile : Bool) (passed : List (List Char)) : List (List Char) → List (List Char)
  | [] => passed.reverse
  | segment :: rest =>
    let close (passed : List (List Char)) := if rest.isEmpty then [] :: passed else passed
    if isAbove segment then walk isFile (close (ascend isFile passed)) rest
    else if isHere segment then walk isFile (close passed) rest
    else walk isFile (enter isFile passed segment) rest

/-- The path of a file has no empty segments at its beginning. -/
def trimEmpty : List (List Char) → List (List Char)
  | [] :: segment :: rest => trimEmpty (segment :: rest)
  | segments => segments

/-- Follows written segments from a directory given by its segments. -/
def resolve (isFile : Bool) (directory : List String) (written : List (List Char)) : List String :=
  let passed := (directory.map String.toList).reverse
  let walked := walk isFile passed (written.map (Percent.encode Percent.path))
  (if isFile then trimEmpty walked else walked).map String.ofList

namespace Path

/-- The written form of a path. -/
def text : Path → String
  | .plain text => text
  | .segments list => String.join (list.map ("/" ++ ·))

/-- Whether the path names a directory, by ending in a slash. -/
def isDirectory : Path → Bool
  | .plain text => text.toList.getLast? = some '/'
  | .segments list => list.getLast? = some ""

/-- The path as a directory. -/
def asDirectory (p : Path) : Path :=
  if p.isDirectory then p
  else
    match p with
    | .plain text => .plain (text ++ "/")
    | .segments list => .segments (list ++ [""])

end Path

end TaskTracking.Url
