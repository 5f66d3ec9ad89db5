import InstancedZones.Text.Hidden

/-!
# Text that shows what is in it

A name can hold characters that a reader would not see, or would see as part
of the character before them. In quotation marks such characters are written
by their numbers, so that two different names never look alike.
-/

namespace InstancedZones.Text

/-- A character as it is shown between quotation marks. -/
def shownChar (c : Char) : List Char :=
  if c = '"' || c = '\\' then ['\\', c]
  else if c = '\n' then ['\\', 'n']
  else if c = '\r' then ['\\', 'r']
  else if c = '\t' then ['\\', 't']
  else if c = '\x00' then ['\\', '0']
  else if isHidden c then ['\\', 'u', '\x7b'] ++ Nat.toDigits 16 c.toNat ++ ['\x7d']
  else [c]

/-- A text in quotation marks. -/
def shown (text : String) : String :=
  "\"" ++ String.ofList (text.toList.flatMap shownChar) ++ "\""

end InstancedZones.Text
