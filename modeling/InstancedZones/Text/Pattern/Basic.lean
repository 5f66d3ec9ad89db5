import InstancedZones.Text.Pattern.Group
import InstancedZones.Text.Pattern.Set

/-!
# Search patterns

A pattern describes texts. Most characters stand for themselves, a point for
any character within a line, a set in brackets for each of its members; groups,
alternatives and repetitions put them together. Nothing is searched for here:
it is only decided whether a text is a pattern that can be searched for, and
one that is nested too deeply cannot.

Numbers in braces, be it of repetitions or of characters, are left out: where
patterns are used here, a closing brace ends the pattern.
-/

namespace InstancedZones.Text.Pattern

/-- Skips the question mark that makes a repetition as short as can be; it
stands right behind the sign of the repetition. -/
def skipLazy : List Char → List Char
  | '?' :: s => s
  | s => s

/-- Takes what comes next in a pattern, `c` and perhaps some of `s`. -/
def step (r : Reader) (c : Char) (s : List Char) : Option (Reader × List Char) :=
  let single (s : List Char) : Reader × List Char := (r.atLevel (r.level.add 0), s)
  match c with
  | '(' => group r s
  | ')' => r.closed?.map (·, s)
  | '|' => some (r.atLevel r.level.branched, s)
  | '[' => (set r.flags s).map fun (depth, s) => (r.atLevel (r.level.add depth), s)
  | '{' => none
  | '?' | '*' | '+' => r.level.repeated?.map fun level => (r.atLevel level, skipLazy s)
  | '.' => if r.flags.characters then some (single s) else none
  | '^' | '$' => some (single s)
  | '\\' =>
    match escape r.flags s with
    | some (part, s) => if r.flags.allows part then some (single s) else none
    | none => none
  | c => if r.flags.allows (.char c false) then some (single s) else none

/-- The depth of a pattern whose rest can be read. `fuel` bounds the number of steps. -/
def reads : Nat → Reader → List Char → Option Nat
  | 0, _, _ => none
  | fuel + 1, r, s =>
    match r.flags.skip s with
    | [] => if r.outer.isEmpty then some r.level.depth else none
    | c :: s =>
      match step r c s with
      | some (r, s) => reads fuel r s
      | none => none

/-- How deep a pattern may be nested. -/
def maxDepth : Nat := 250

/-- Whether a text is a pattern that can be searched for. -/
def isPattern (text : List Char) : Bool :=
  (reads (text.length + 1) ⟨.initial, .empty, [], []⟩ text).any (· ≤ maxDepth)

end InstancedZones.Text.Pattern
