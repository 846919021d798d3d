import Provision.Number.Numeral

/-!
# Units of memory

Decimal units are powers of 1000, binary ones powers of 1024, each with an optional `B` behind it;
`m` is a thousandth of a byte and `e3`, `E-2` are powers of ten. Case counts: `E` is exa, `m` is
milli, `M` is mega.

- `Scale.whole_power_large`: a power of ten beyond the range of a count takes no whole number.
-/

namespace Provision.Quantity

/-- What one unit counts. -/
inductive Scale where
  | bytes (factor : Nat)
  | milli
  | power (exponent : Int)
  deriving DecidableEq, Repr

/-- Bytes in a decimal or binary unit. -/
def unitFactor? : List Char → Option Nat
  | [] => some 1
  | ['k'] => some 1000
  | ['K'] => some 1000
  | ['M'] => some (Nat.pow 1000 2)
  | ['G'] => some (Nat.pow 1000 3)
  | ['T'] => some (Nat.pow 1000 4)
  | ['P'] => some (Nat.pow 1000 5)
  | ['E'] => some (Nat.pow 1000 6)
  | ['K', 'i'] => some 1024
  | ['M', 'i'] => some (Nat.pow 1024 2)
  | ['G', 'i'] => some (Nat.pow 1024 3)
  | ['T', 'i'] => some (Nat.pow 1024 4)
  | ['P', 'i'] => some (Nat.pow 1024 5)
  | ['E', 'i'] => some (Nat.pow 1024 6)
  | _ => none

/-- `e` or `E` and a signed exponent of 32 bits. -/
def unitExponent? : List Char → Option Int
  | c :: r =>
    if c = 'e' ∨ c = 'E' then
      (Number.readInteger? r).filter fun e => Int32.minValue.toInt ≤ e ∧ e ≤ Int32.maxValue.toInt
    else none
  | [] => none

/-- The unit without one `B` behind it. -/
def withoutByteMark (unit : List Char) : List Char :=
  if unit.getLast? = some 'B' then unit.dropLast else unit

namespace Scale

def ofUnit? (unit : List Char) : Option Scale :=
  if unit = ['m'] then some .milli
  else match unitExponent? unit with
    | some e => some (.power e)
    | none => (unitFactor? (withoutByteMark unit)).map .bytes

/-- A count of 64 bits, if `n` is one. -/
def count? (n : Nat) : Option UInt64 := if n < UInt64.size then some (UInt64.ofNat n) else none

/-- `n` units in whole bytes, exactly: a scale below one drops the fraction, a power of ten that is
no count itself takes nothing, and below one it leaves nothing. -/
def whole : Scale → Nat → Option UInt64
  | .bytes factor, n => count? (n * factor)
  | .milli, n => count? (n / 1000)
  | .power e, n =>
    if 0 ≤ e then if e ≤ 19 then count? (n * Nat.pow 10 e.toNat) else none
    else if -19 ≤ e then count? (n / Nat.pow 10 (-e).toNat) else some 0

/-- Ten to the `n` by repeated squaring; `power` and `square` start as one and ten. -/
def squaring (power square : Float) (n : Nat) : Float :=
  if h : n = 0 then power
  else squaring (if n % 2 = 1 then power * square else power) (square * square) (n / 2)
termination_by n
decreasing_by omega

/-- The scale as a double. -/
def toFloat : Scale → Float
  | .bytes factor => Float.ofNat factor
  | .milli => 1e-3
  | .power e =>
    let power := squaring 1 10 e.natAbs
    if e < 0 then 1 / power else power

theorem whole_power_large {e : Int} (h : 20 ≤ e) (n : Nat) : (power e).whole n = none := by
  have : ¬ e ≤ 19 := by omega
  have : 0 ≤ e := by omega
  simp [whole, *]

end Scale

end Provision.Quantity
