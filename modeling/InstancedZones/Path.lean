/-!
# File paths

A path is a text; two texts may still name the same file. What a text names
is given by its `parts`: whether it starts at the root, and the steps it takes
from there. Empty steps, and steps that stay where they are, do not count,
except that a relative path which begins by staying keeps that first step. A
step upwards is kept, for where it leads depends on the files.
-/

namespace InstancedZones

namespace Path

/-- The pieces between slashes, one more than there are slashes. -/
def segments : List Char → List (List Char)
  | [] => [[]]
  | c :: rest =>
    if c = '/' then [] :: segments rest
    else
      match segments rest with
      | [] => [[c]]
      | piece :: pieces => (c :: piece) :: pieces

/-- Whether a path starts at the root. -/
def isAbsolute (path : String) : Bool := path.toList.head? == some '/'

/-- Whether a piece leads anywhere. -/
def isStep (piece : List Char) : Bool := piece ≠ [] && piece ≠ ['.']

/-- What a path names. -/
structure Parts where
  /-- Whether it starts at the root. -/
  absolute : Bool
  /-- The steps from there. -/
  steps : List (List Char)
deriving DecidableEq

/-- What a path names: its start and its steps. -/
def parts (path : String) : Parts :=
  let pieces := segments path.toList
  let steps := pieces.filter isStep
  { absolute := isAbsolute path
    steps := if pieces.head? = some ['.'] then ['.'] :: steps else steps }

/-- Whether two texts name the same path. -/
def same (p q : String) : Bool := parts p = parts q

/-- Whether a path is short enough to be followed: with the character that ends
it, it has at most 4096 bytes. -/
def fits (path : String) : Bool := path.utf8ByteSize < 4096

/-- A path seen from a directory: an absolute path stands as it is, any other
is put behind the directory and a slash. -/
def join (dir path : String) : String :=
  if isAbsolute path then path
  else if dir.isEmpty || dir.toList.getLast? == some '/' then dir ++ path
  else dir ++ "/" ++ path

/-- The last step, if it names a file: a step that stays or goes up does not. -/
def fileName? (path : String) : Option (List Char) :=
  match (parts path).steps.getLast? with
  | none => none
  | some name => if name = ['.'] || name = ['.', '.'] then none else some name

/-- What follows the last point of the file name, if the point is not its
first character. -/
def extension? (path : String) : Option (List Char) :=
  match fileName? path with
  | none => none
  | some name =>
    let after := (name.reverse.takeWhile (· ≠ '.')).reverse
    if after.length + 1 < name.length then some after else none

/-- Whether two texts differ in the case of ASCII letters at most. -/
def sameIgnoringCase (a b : List Char) : Bool := a.map Char.toLower == b.map Char.toLower

end Path

end InstancedZones
