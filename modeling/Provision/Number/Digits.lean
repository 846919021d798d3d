import Provision.Number.Binary
import Provision.Number.Natural

/-!
# Decimal digits of doubles

The fewest digits that read back as the same double, and a fixed number of places.
-/

namespace Provision.Number

/-- `significand * 10 ^ exponent`. -/
structure Decimal where
  significand : Nat
  exponent : Int
  deriving DecidableEq, Repr

/-- The reals that round to a double, on the grid of the multiples of a power of ten. All four are
in one unit: the double is `value`, the interval goes from `low` to `high`, grid points are the
multiples of `step`. -/
structure Grid where
  low : Nat
  value : Nat
  high : Nat
  step : Nat
  /-- The ends round to the double as well. -/
  closed : Bool

namespace Grid

/-- The double `mantissa * 2 ^ exponent` against the multiples of `10 ^ power`. The gap below a
double is half of the gap above it where the exponent changes. -/
def ofBinary (mantissa : Nat) (exponent power : Int) : Grid :=
  let unit := Nat.pow 10 (-power).toNat <<< (exponent - 2).toNat
  let below := if mantissa = fullMantissa ∧ exponent ≠ leastExponent then 1 else 2
  { low := (4 * mantissa - below) * unit
    value := 4 * mantissa * unit
    high := (4 * mantissa + 2) * unit
    step := Nat.pow 10 power.toNat <<< (2 - exponent).toNat
    closed := mantissa % 2 = 0 }

def Mem (g : Grid) (n : Nat) : Prop :=
  if g.closed then g.low ≤ n * g.step ∧ n * g.step ≤ g.high
  else g.low < n * g.step ∧ n * g.step < g.high

instance (g : Grid) (n : Nat) : Decidable (g.Mem n) := by unfold Mem; infer_instance

/-- The grid point in the interval that is nearest to the double, if the grid meets it. -/
def nearest? (tie : Tie) (g : Grid) : Option Nat :=
  let floor := g.value / g.step
  if g.Mem floor then
    if g.Mem (floor + 1) then some (roundQuotient tie g.value g.step) else some floor
  else if g.Mem (floor + 1) then some (floor + 1) else none

end Grid

/-- The coarsest of at most `fuel` grids from `10 ^ power` down that meets the interval. -/
def coarsest (tie : Tie) (mantissa : Nat) (exponent : Int) : Nat → Int → Decimal
  | 0, power =>
    let g := Grid.ofBinary mantissa exponent power
    ⟨roundQuotient tie g.value g.step, power⟩
  | fuel + 1, power =>
    match (Grid.ofBinary mantissa exponent power).nearest? tie with
    | some n => ⟨n, power⟩
    | none => coarsest tie mantissa exponent fuel (power - 1)

/-- The fewest digits that read back as `mantissa * 2 ^ exponent`, and of those the nearest. The
first grid is coarser than the number; seventeen digits are always enough. -/
def shortest (tie : Tie) (mantissa : Nat) (exponent : Int) : Decimal :=
  let magnitude := (mantissa.log2 + exponent + 1) * 30103
  coarsest tie mantissa exponent 20 (magnitude.fdiv 100000 + 1)

/-- Digits before and after the point, without an exponent; there may be none on either side. -/
def Decimal.split (d : Decimal) : List Char × List Char :=
  let digits := Nat.toDigits 10 d.significand ++ List.replicate d.exponent.toNat '0'
  let places := (-d.exponent).toNat
  let filled := List.replicate (places - digits.length) '0' ++ digits
  (filled.take (filled.length - places), filled.drop (filled.length - places))

/-- A text for the digits before the point, where there are none. -/
def wholePart (digits : List Char) : List Char := if digits.isEmpty then ['0'] else digits

def signed (negative : Bool) (s : List Char) : String :=
  String.ofList (if negative then '-' :: s else s)

def infinityText (negative : Bool) : String := if negative then "-inf" else "inf"

/-- The fewest digits that read back, never with an exponent; ties go up. -/
def plainText (x : Float) : String :=
  match Binary.ofFloat x with
  | .notANumber => "NaN"
  | .infinite negative => infinityText negative
  | .finite negative 0 _ => signed negative ['0']
  | .finite negative mantissa exponent =>
    let (whole, fraction) := (shortest .up mantissa exponent).split
    signed negative (wholePart whole ++ if fraction.isEmpty then [] else '.' :: fraction)

/-- The exact value rounded to `places` digits after the point, ties to even. -/
def fixedText (places : Nat) (x : Float) : String :=
  match Binary.ofFloat x with
  | .notANumber => "NaN"
  | .infinite negative => infinityText negative
  | .finite negative mantissa exponent =>
    let scaled := (mantissa <<< exponent.toNat) * Nat.pow 10 places
    let units := roundQuotient .toEven scaled (1 <<< (-exponent).toNat)
    let (whole, fraction) := Decimal.split ⟨units, -places⟩
    signed negative (wholePart whole ++ if fraction.isEmpty then [] else '.' :: fraction)

end Provision.Number
