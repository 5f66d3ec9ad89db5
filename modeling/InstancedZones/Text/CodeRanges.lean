/-!
# Sets of characters

A property of characters is a list of closed ranges of code points, ascending
and apart from each other. Looking a character up is one walk along the list.
-/

namespace InstancedZones.Text

/-- Closed ranges of code points. -/
abbrev CodeRanges := List (Nat × Nat)

namespace CodeRanges

/-- Whether a character lies in one of the ranges. -/
def covers (ranges : CodeRanges) (c : Char) : Bool :=
  ranges.any fun r => r.1 ≤ c.toNat && c.toNat ≤ r.2

end CodeRanges

end InstancedZones.Text
