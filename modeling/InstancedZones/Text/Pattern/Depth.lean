/-!
# The depth of a pattern

A set, a group and a repetition are one level deeper than what is in them, and
so are parts side by side, alternatives, and the sides of an operator in a set.
What is open while a pattern is read keeps the depths of what it holds so far.
-/

namespace InstancedZones.Text.Pattern

/-- The depth of parts side by side, given those of the parts. -/
def chainDepth : List Nat → Nat
  | [] => 0
  | [depth] => depth
  | depths => depths.foldl max 0 + 1

/-- A set that is open. -/
structure OpenSet where
  /-- The depth of all before the last operator, if there is one. -/
  before? : Option Nat
  /-- The depths of the parts since. -/
  parts : List Nat

namespace OpenSet

/-- The depth of what has been read. -/
def depth (o : OpenSet) : Nat :=
  match o.before? with
  | none => chainDepth o.parts
  | some before => max before (chainDepth o.parts) + 1

/-- The set with a further part. -/
def add (o : OpenSet) (depth : Nat) : OpenSet := { o with parts := depth :: o.parts }

/-- The set after an operator. -/
def operated (o : OpenSet) : OpenSet := ⟨some o.depth, []⟩

end OpenSet

/-- What has been read of a group, or of the whole pattern. -/
structure Level where
  /-- The depths of the alternatives before this one. -/
  branches : List Nat
  /-- The depths of the parts of this one, the last first. -/
  parts : List Nat
  /-- Whether the last part can be repeated. -/
  repeatable : Bool

namespace Level

/-- Nothing has been read. -/
def empty : Level := ⟨[], [], false⟩

/-- The depth of what has been read. -/
def depth (l : Level) : Nat := chainDepth (chainDepth l.parts :: l.branches)

/-- The level with a further part. -/
def add (l : Level) (depth : Nat) : Level :=
  { l with parts := depth :: l.parts, repeatable := true }

/-- The level with flags turned on or off in it. -/
def addFlags (l : Level) : Level := { l with parts := 0 :: l.parts, repeatable := false }

/-- The level at a new alternative. -/
def branched (l : Level) : Level := ⟨chainDepth l.parts :: l.branches, [], false⟩

/-- The level with its last part repeated, if it can be. -/
def repeated? (l : Level) : Option Level :=
  match l.parts with
  | [] => none
  | depth :: parts => if l.repeatable then some { l with parts := (depth + 1) :: parts } else none

end Level

end InstancedZones.Text.Pattern
