/-!
# Digits

A natural number can be written in decimal digits, with any number of zeros in
front.
-/

namespace InstancedZones.Text

/-- The number that decimal digits say, if there is at least one and nothing else. -/
def natOfDigits? (text : List Char) : Option Nat :=
  if !text.isEmpty && text.all Char.isDigit then
    some (text.foldl (fun n c => n * 10 + (c.toNat - '0'.toNat)) 0)
  else none

end InstancedZones.Text
