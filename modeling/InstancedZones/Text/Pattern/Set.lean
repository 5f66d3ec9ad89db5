import InstancedZones.Text.Pattern.Depth
import InstancedZones.Text.Pattern.Part

/-!
# Sets in a pattern

A set stands in brackets: characters, all from one to another, classes, sets
that have names, sets within it, and operators between all of these. A negated
set of bytes would match parts of characters, so there is none.
-/

namespace InstancedZones.Text.Pattern

/-- A part of a set. -/
def setPart (f : Flags) : List Char → Option (Part × List Char)
  | [] => none
  | '\\' :: s => escape f s
  | c :: s => some (.char c false, s)

/-- A part of a set, or all characters from one to another. A hyphen before
another one, or before the end of the set, stands for itself. -/
def setRange (f : Flags) (s : List Char) : Option (List Char) := do
  let (first, s) ← setPart f s
  let alone := if f.allowsInSet first then some (f.skip s) else none
  match f.skip s with
  | '-' :: after =>
    if f.peek after = some '-' || f.peek after = some ']' then alone
    else
      let (last, after) ← setPart f (f.skip after)
      match first, last with
      | .char a _, .char b _ =>
        if f.allowsInSet first && f.allowsInSet last && a ≤ b then some after else none
      | _, _ => none
  | _ => alone

/-- The sets that have names. -/
def setNames : List String :=
  ["alnum", "alpha", "ascii", "blank", "cntrl", "digit", "graph", "lower", "print", "punct",
   "space", "upper", "word", "xdigit"]

/-- A set given by its name, after the bracket: whether it is negated. -/
def namedSet (s : List Char) : Option (Bool × List Char) :=
  match s with
  | ':' :: s =>
    let negated := s.head? = some '^'
    let s := if negated then s.drop 1 else s
    let name := s.takeWhile (· ≠ ':')
    match s.drop name.length with
    | ':' :: ']' :: rest => if String.ofList name ∈ setNames then some (negated, rest) else none
    | _ => none
  | _ => none

/-- Whether a set given by its name can be searched for. -/
def Flags.allowsNamed (f : Flags) (negated : Bool) : Bool :=
  if f.characters then !f.ignoreCase else !negated

/-- The hyphens at the start of a set, and what follows them; `fuel` bounds
their number. -/
def hyphens (f : Flags) : Nat → List Char → Nat × List Char
  | 0, s => (0, s)
  | fuel + 1, s =>
    match f.skip s with
    | '-' :: s =>
      let (count, s) := hyphens f fuel s
      (count + 1, s)
    | s => (0, s)

/-- Opens a set, after its bracket. Hyphens at the start stand for themselves,
and so does a closing bracket that comes first. -/
def openSet (f : Flags) (s : List Char) : Option (OpenSet × List Char) :=
  let s := f.skip s
  let negated := s.head? = some '^'
  let s := f.skip (if negated then s.drop 1 else s)
  let (members, s) :=
    match s with
    | ']' :: s => (1, s)
    | s => hyphens f s.length s
  if negated && !f.characters then none
  else if members ≠ 0 && !f.allowsInSet (.char '-' false) then none
  else some (⟨none, List.replicate members 0⟩, s)

/-- The depth of a set, and what follows it. `current` is the innermost set that
is open, `outer` those around it; `fuel` bounds the number of parts. -/
def closeSet (f : Flags) :
    Nat → OpenSet → List OpenSet → List Char → Option (Nat × List Char)
  | 0, _, _, _ => none
  | fuel + 1, current, outer, s =>
    match f.skip s with
    | [] => none
    | ']' :: s =>
      match outer with
      | [] => some (current.depth + 1, s)
      | next :: outer => closeSet f fuel (next.add (current.depth + 1)) outer s
    | '[' :: s =>
      match namedSet s with
      | some (negated, s) =>
        if f.allowsNamed negated then closeSet f fuel (current.add 0) outer s else none
      | none =>
        match openSet f s with
        | some (inner, s) => closeSet f fuel inner (current :: outer) s
        | none => none
    | '&' :: '&' :: s => closeSet f fuel current.operated outer s
    | '-' :: '-' :: s => closeSet f fuel current.operated outer s
    | '~' :: '~' :: s => closeSet f fuel current.operated outer s
    | s =>
      match setRange f s with
      | some s => closeSet f fuel (current.add 0) outer s
      | none => none

/-- The depth of a set, and what follows it, after its opening bracket. -/
def set (f : Flags) (s : List Char) : Option (Nat × List Char) := do
  let (opened, s) ← openSet f s
  closeSet f (s.length + 1) opened [] s

end InstancedZones.Text.Pattern
