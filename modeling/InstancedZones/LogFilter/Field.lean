import InstancedZones.Decimal.Shortest
import InstancedZones.LogFilter.Threshold
import InstancedZones.Text.Pattern.Basic

/-!
# Fields of spans

A filter can ask for spans that have a field, whatever its value, or with a
given value: a truth value, a number, or any text that a pattern describes.
-/

namespace InstancedZones

/-- What the value of a field is compared with. -/
inductive FieldValue
  /-- A truth value. -/
  | truth (value : Bool)
  /-- A whole number. -/
  | whole (value : Int)
  /-- Another number. -/
  | real (value : Binary64)
  /-- A pattern. -/
  | pattern (text : String)
deriving DecidableEq, Repr

namespace FieldValue

/-- The sign before a number, and what follows it. -/
def splitSign : List Char → Bool × List Char
  | '+' :: text => (false, text)
  | '-' :: text => (true, text)
  | text => (false, text)

/-- A whole number in decimal digits that fits 64 bits, with a sign if it has one. -/
def whole? (text : List Char) : Option Int :=
  let (negative, digits) := splitSign text
  match Text.natOfDigits? digits with
  | none => none
  | some n =>
    if negative then if n ≤ 9223372036854775808 then some (-(n : Int)) else none
    else if n < 18446744073709551616 then some n
    else none

/-- The exponent after a number: nothing, or the letter e and a whole number. -/
def exponent? : List Char → Option Int
  | [] => some 0
  | e :: text =>
    let (negative, digits) := splitSign text
    if e.toLower = 'e' then
      (Text.natOfDigits? digits).map fun n => if negative then -(n : Int) else n
    else none

/-- A number with or without a point and an exponent, infinity, or what is not
a number; letters may be of any case. -/
def real? (text : List Char) : Option Binary64 :=
  let (negative, text) := splitSign text
  let word := String.ofList (text.map Char.toLower)
  if word = "inf" || word = "infinity" then some (.infinity negative)
  else if word = "nan" then some .nan
  else
    let whole := text.takeWhile Char.isDigit
    let rest := text.drop whole.length
    let pointed := rest.head? = some '.'
    let fraction := if pointed then (rest.drop 1).takeWhile Char.isDigit else []
    let rest := if pointed then rest.drop (fraction.length + 1) else rest
    match Text.natOfDigits? (whole ++ fraction), exponent? rest with
    | some digits, some exponent =>
      some (.ofDecimal negative ⟨digits, exponent - fraction.length⟩)
    | _, _ => none

/-- The value that a text says, if it says one. -/
def ofText? (text : List Char) : Option FieldValue :=
  if text = "true".toList then some (.truth true)
  else if text = "false".toList then some (.truth false)
  else
    (whole? text).map .whole <|> (real? text).map .real <|>
      if Text.Pattern.isPattern text then some (.pattern (String.ofList text)) else none

/-- The value as text. -/
def text : FieldValue → String
  | .truth value => s!"{value}"
  | .whole value => s!"{value}"
  | .real value => if value.isNaN then "NaN" else String.ofList value.brief
  | .pattern text => text

end FieldValue

/-- A field that a span must have. -/
structure Field where
  /-- Its name. -/
  name : String
  /-- Its value, if only that will do. -/
  value? : Option FieldValue
deriving DecidableEq, Repr

namespace Field

/-- A field by its name, and its value after an equals sign. Nothing counts from
a second equals sign on. -/
def ofText? (text : List Char) : Option Field :=
  let name := text.takeWhile (· ≠ '=')
  match text.drop name.length with
  | [] => some ⟨String.ofList name, none⟩
  | _ :: rest =>
    (FieldValue.ofText? (rest.takeWhile (· ≠ '='))).map fun value => ⟨String.ofList name, some value⟩

/-- The field as text. -/
def text (f : Field) : String := f.name ++ f.value?.elim "" fun value => "=" ++ value.text

end Field

end InstancedZones
