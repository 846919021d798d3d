import Provision.Number.Digits
import Provision.Quantity.Cpu
import Provision.Report.Terminal

/-!
# Amounts on a terminal
-/

namespace Provision.Amount

/-- Megabytes, from a thousand on as gigabytes to two places. -/
def megabytes (n : UInt64) : String :=
  if 1000 ≤ n then Number.fixedText 2 (n.toFloat / 1000) ++ " GB" else toString n.toNat ++ " MB"

/-- Cores to two places, below one core as thousandths. -/
def cores (x : Float) : String :=
  if decide (1 ≤ x) || x == 0 then Number.fixedText 2 (Quantity.roundCpu x)
  else Number.plainText (Number.roundAway (x * 1000)) ++ "m"

def percent (x : Float) : String := Number.fixedText 1 x ++ "%"

/-- An answer, in green if it is the good one. -/
def flag (colour : Bool) (value good : Bool) : String :=
  (Ink.inHue (if value = good then .green else .red)).paint colour (if value then "yes" else "no")

/-- How full a resource is: red from ninety percent on, yellow from seventy. -/
def usage (colour : Bool) (x : Float) : String :=
  let hue := if 90 ≤ x then Hue.red else if 70 ≤ x then .yellow else .green
  (Ink.inHue hue).paint colour (percent x)

end Provision.Amount
