import InstancedZones.Text.CodeRanges

/-!
# Blanks

The characters that only keep others apart: in the terms of Unicode, those
with the property White_Space.
-/

namespace InstancedZones.Text

/-- The blanks. -/
def blankRanges : CodeRanges := [
  (0x9, 0xd), (0x20, 0x20), (0x85, 0x85), (0xa0, 0xa0), (0x1680, 0x1680), (0x2000, 0x200a),
  (0x2028, 0x2029), (0x202f, 0x202f), (0x205f, 0x205f), (0x3000, 0x3000)]

/-- Whether a character is a blank. -/
def isBlank (c : Char) : Bool := blankRanges.covers c

/-- A text without the blanks at both its ends. -/
def trimmed (text : List Char) : List Char :=
  ((text.dropWhile isBlank).reverse.dropWhile isBlank).reverse

end InstancedZones.Text
