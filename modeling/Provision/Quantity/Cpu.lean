import Provision.Number.Binary
import Provision.Number.Numeral
import Provision.Quantity.Reason
import Provision.Text.Blank

/-!
# Quantities of processor time

A number of cores, or of a thousandth (`m`), a millionth (`u`) or a billionth (`n`) of one.
-/

namespace Provision.Quantity

/-- A number of cores that can be reserved. -/
def isCoreCount (cores : Float) : Bool := cores.isFinite && decide (0 ≤ cores)

/-- The text without a unit, and how many of the unit make one core. -/
def splitCoreUnit (s : List Char) : List Char × Float :=
  match s.getLast? with
  | some 'm' => (s.dropLast, 1e3)
  | some 'u' => (s.dropLast, 1e6)
  | some 'n' => (s.dropLast, 1e9)
  | _ => (s, 1)

/-- The cores that a text means. -/
def readCpu (s : List Char) : Except Reason Float :=
  let s := Text.trim s
  if s.isEmpty then .error .empty
  else
    let (number, perCore) := splitCoreUnit s
    match Number.readFloat? (Text.trim number) with
    | none => .error .notANumber
    | some x => if isCoreCount x then .ok (x / perCore) else .error .negative

/-- Cores to two places, half a hundredth away from zero. -/
def roundCpu (cores : Float) : Float := Number.roundAway (cores * 100) / 100

end Provision.Quantity
