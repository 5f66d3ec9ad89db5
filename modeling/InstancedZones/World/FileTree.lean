import InstancedZones.World.Basic
import InstancedZones.Path

/-!
# Templates in a directory

A source of map templates that is a directory of files. A path leads through
the tree piece by piece; only a directory can be left by a further piece, so a
file with a slash behind it is not a file. Nothing is known above the
directory, so a path that leaves it finds nothing.
-/

namespace InstancedZones

/-- A directory, and what was merged from it. -/
structure FileTree where
  /-- Where the files are, each as the names that lead to it. -/
  files : List (List (List Char))
  /-- Where the directories are. -/
  dirs : List (List (List Char))
  /-- The paths that cannot be read, each with the reason. -/
  unreadable : List (String × String)
  /-- The paths merged so far, oldest first. -/
  merged : List String

namespace FileTree

/-- A directory with nothing in it. -/
def empty : FileTree := ⟨[], [[]], [], []⟩

instance : Inhabited FileTree := ⟨empty⟩

/-- The location a new path is made at. -/
def location (path : String) : List (List Char) :=
  (Path.segments path.toList).foldl
    (fun here piece =>
      if Path.isStep piece then
        if piece = ['.', '.'] then here.dropLast else here ++ [piece]
      else here)
    []

/-- A location, preceded by all that lie above it. -/
def withAncestors (place : List (List Char)) : List (List (List Char)) :=
  (List.range (place.length + 1)).map place.take

/-- Adds a directory, and the directories above it. -/
def addDir (t : FileTree) (path : String) : FileTree :=
  { t with dirs := withAncestors (location path) ++ t.dirs }

/-- Adds a file, and the directories above it. -/
def addFile (t : FileTree) (path : String) : FileTree :=
  let place := location path
  { t with
    files := place :: t.files
    dirs := withAncestors place.dropLast ++ t.dirs }

/-- Follows the pieces of a path from a location, and tells whether they lead
to a file. -/
def leadsToFile (t : FileTree) : List (List Char) → List (List Char) → Bool
  | [], here => t.files.contains here
  | piece :: pieces, here =>
    if !t.dirs.contains here then false
    else if !Path.isStep piece then t.leadsToFile pieces here
    else if piece = ['.', '.'] then
      !here.isEmpty && t.leadsToFile pieces here.dropLast
    else t.leadsToFile pieces (here ++ [piece])

/-- Whether a path names a file of the tree. -/
def isFile (t : FileTree) (path : String) : Bool :=
  !Path.isAbsolute path && Path.fits path && t.leadsToFile (Path.segments path.toList) []

instance : TemplateSource FileTree where
  templateExists path := do return (← get).isFile path
  mergeTemplate path := do
    match (← get).unreadable.find? fun entry => Path.same path entry.1 with
    | some (_, reason) => return .error (.unreadable path reason)
    | none =>
      modify fun t => { t with merged := t.merged ++ [path] }
      return .ok ()

end FileTree

end InstancedZones
