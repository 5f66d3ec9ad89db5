import InstancedZones.Path

/-!
# Files that cannot be read

Why no text comes from a file. Where there are no files at all, the path alone
decides it: a path that names nothing below the directory it starts from leads
to a directory, and any other stops at its first name, which may be too long
to be looked for.
-/

namespace InstancedZones

/-- Why a file cannot be read. -/
inductive FileFault
  /-- There is no such file. -/
  | missing
  /-- The path leads to a directory. -/
  | directory
  /-- The path, or a name in it, is longer than any can be. -/
  | nameTooLong
  /-- The path holds the character that ends a path. -/
  | nulInPath
  /-- The file does not hold a text. -/
  | notText
deriving DecidableEq, Repr

namespace FileFault

/-- The wording of the fault. -/
def message : FileFault → String
  | .missing => "No such file or directory (os error 2)"
  | .directory => "Is a directory (os error 21)"
  | .nameTooLong => "File name too long (os error 36)"
  | .nulInPath => "file name contained an unexpected NUL byte"
  | .notText => "stream did not contain valid UTF-8"

/-- The length in bytes up to which a name in a path is looked for. -/
def maxNameLength : Nat := 255

/-- What comes of reading at a path where there are no files. -/
def ofPath (path : String) : FileFault :=
  if path.toList.contains '\x00' then .nulInPath
  else if path.isEmpty then .missing
  else if !Path.fits path then .nameTooLong
  else
    match (Path.segments path.toList).find? fun piece => Path.isStep piece && piece ≠ ['.', '.'] with
    | none => .directory
    | some name =>
      if maxNameLength < (String.ofList name).utf8ByteSize then .nameTooLong else .missing

end FileFault

end InstancedZones
