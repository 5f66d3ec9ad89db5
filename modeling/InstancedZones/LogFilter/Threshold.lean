import InstancedZones.Text.Digits

/-!
# Thresholds

The least level of the events that are shown. A threshold is given by its name
or by its number.
-/

namespace InstancedZones

/-- The least level that is shown. -/
inductive Threshold
  | off
  | error
  | warn
  | info
  | debug
  | trace
deriving DecidableEq, Repr

namespace Threshold

/-- The thresholds, from nothing to everything. -/
def all : List Threshold := [off, error, warn, info, debug, trace]

/-- The name of a threshold. -/
def keyword : Threshold → String
  | .off => "off"
  | .error => "error"
  | .warn => "warn"
  | .info => "info"
  | .debug => "debug"
  | .trace => "trace"

/-- A threshold by its number, perhaps after a plus sign, or by its name in letters of any case. -/
def ofText? (text : List Char) : Option Threshold :=
  let digits := if text.head? = some '+' then text.drop 1 else text
  ((Text.natOfDigits? digits).bind fun n => all[n]?) <|>
    all.find? fun t => t.keyword.toList == text.map Char.toLower

end Threshold

end InstancedZones
