import InstancedZones.Text.Alphanumeric
import InstancedZones.Text.Pattern.Depth
import InstancedZones.Text.Pattern.Part

/-!
# Groups in a pattern

A group stands in parentheses. It may have a name of its own, or flags that
hold within it; flags alone in parentheses hold up to the end of the group
around them.
-/

namespace InstancedZones.Text.Pattern

/-- Where a reader stands in a pattern. -/
structure Reader where
  /-- How what follows is to be taken. -/
  flags : Flags
  /-- What has been read of the innermost group that is open. -/
  level : Level
  /-- The same of those around it. -/
  outer : List (Flags × Level)
  /-- The names of groups so far. -/
  names : List (List Char)

/-- The reader in a group that has just been opened. -/
def Reader.opened (r : Reader) : Reader :=
  { r with level := .empty, outer := (r.flags, r.level) :: r.outer }

/-- The reader with the level changed. -/
def Reader.atLevel (r : Reader) (level : Level) : Reader := { r with level }

/-- Whether a character can be in the name of a group, or start it. -/
def isNameChar (first : Bool) (c : Char) : Bool :=
  if first then c == '_' || isAlphabetic c
  else c == '_' || c == '.' || c == '[' || c == ']' || isAlphanumeric c

/-- Opens a group with a name, which must be new. -/
def namedGroup (r : Reader) (s : List Char) : Option (Reader × List Char) :=
  let name := s.takeWhile (· ≠ '>')
  match name, s.drop name.length with
  | c :: rest, _ :: s =>
    if isNameChar true c && rest.all (isNameChar false) && name ∉ r.names then
      some ({ r.opened with names := name :: r.names }, s)
    else none
  | _, _ => none

/-- Turns flags on, and off those after a hyphen: for a group that opens here,
or up to the end of the group that is open. -/
def flagGroup (r : Reader) (s : List Char) : Option (Reader × List Char) :=
  let letters := s.takeWhile fun c => c ≠ ':' && c ≠ ')'
  let on := letters.takeWhile (· ≠ '-')
  let flags := r.flags.turned on (letters.drop on.length)
  if letters.all (· ∈ ['i', 'm', 's', 'U', 'u', 'R', 'x', '-']) && decide letters.Nodup &&
      letters.getLast? ≠ some '-' then
    match s.drop letters.length with
    | ':' :: s => some ({ r.opened with flags }, s)
    | ')' :: s => if letters.isEmpty then none else some ({ r with flags, level := r.level.addFlags }, s)
    | _ => none
  else none

/-- Opens a group, or turns flags on and off, after an opening parenthesis. -/
def group (r : Reader) (s : List Char) : Option (Reader × List Char) :=
  match r.flags.skip s with
  | '?' :: 'P' :: '<' :: s => namedGroup r s
  | '?' :: '<' :: s => namedGroup r s
  | '?' :: s => flagGroup r s
  | s => some (r.opened, s)

/-- Closes the group that is open. -/
def Reader.closed? (r : Reader) : Option Reader :=
  match r.outer with
  | [] => none
  | (flags, level) :: outer => some { r with flags, level := level.add (r.level.depth + 1), outer }

end InstancedZones.Text.Pattern
