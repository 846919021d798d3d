import Provision.Json.Value
import Provision.Number.Digits
import Provision.Number.Numeral

/-!
# Numbers in JSON

A number is read through a significand of 64 bits: the digits that do not fit into it any more only
count, or are dropped. The significand is rounded to a double, which is multiplied or divided by a
power of ten; so what is read need not be the double nearest to the number. It is written by the
fewest digits whose nearest double it is.
-/

namespace Provision.Json

/-! ## Reading -/

/-- Digits after a point, if there is one, and the rest. -/
def splitFraction? : List Char → Option (List Char × List Char)
  | '.' :: r =>
    let digits := r.takeWhile Char.isDigit
    if digits.isEmpty then none else some (digits, r.dropWhile Char.isDigit)
  | s => some ([], s)

/-- An exponent, if there is one, and the rest. -/
def splitExponent? : List Char → Option (Option Int × List Char)
  | c :: r =>
    if c = 'e' ∨ c = 'E' then
      let (negative, r) := Number.Numeral.splitSign r
      let digits := r.takeWhile Char.isDigit
      (Number.readNatural? digits).map fun n =>
        (some (if negative then -Int.ofNat n else Int.ofNat n), r.dropWhile Char.isDigit)
    else some (none, c :: r)
  | [] => some (none, [])

/-- No zero stands in front of other digits. -/
def isWholePart : List Char → Bool
  | [] => false
  | ['0'] => true
  | '0' :: _ => false
  | _ => true

/-- The significand with the digits behind it that a word has room for, and those it has not. -/
def lengthen (significand : Nat) : List Char → Nat × List Char
  | [] => (significand, [])
  | c :: r =>
    let longer := significand * 10 + (c.toNat - '0'.toNat)
    if longer < UInt64.size then lengthen longer r else (significand, c :: r)

/-- The largest power of ten that is a double. -/
def mostDigits : Nat := 308

def power (digits : Nat) : Float := Float.ofScientific 1 false digits

/-- A double divided by a power of ten, by the largest one as often as it takes. -/
def divide (x : Float) (digits : Nat) : Float :=
  if digits ≤ mostDigits then x / power digits
  else if x == 0 then x
  else divide (x / power mostDigits) (digits - mostDigits)
termination_by digits
decreasing_by simp only [mostDigits] at *; omega

/-- A significand times a power of ten; what is out of range is infinite. -/
def scaled (significand : Nat) (exponent : Int) : Float :=
  let x := Float.ofNat significand
  if exponent < 0 then divide x exponent.natAbs
  else if exponent ≤ mostDigits then x * power exponent.natAbs
  else if significand = 0 then x
  else Number.infinity

/-- The number that a sign and digits without a point and an exponent make. -/
def wholeNumber (negative : Bool) (n : Nat) : Number :=
  if negative then if 0 < n ∧ n ≤ 1 <<< 63 then .negative n else .real (-Float.ofNat n)
  else .natural n

/-- The number that the parts of a numeral make. -/
def numberOf (negative : Bool) (whole fraction : List Char) (exponent : Option Int) : Number :=
  let (n, uncounted) := lengthen 0 whole
  if uncounted.isEmpty && fraction.isEmpty && exponent.isNone then wholeNumber negative n
  else
    let (significand, dropped) := lengthen n fraction
    let places := fraction.length - dropped.length
    let x := scaled significand (exponent.getD 0 + uncounted.length - places)
    .real (if negative then -x else x)

/-- A number behind its sign. -/
def unsigned? (negative : Bool) (s : List Char) : Option (Number × List Char) :=
  let whole := s.takeWhile Char.isDigit
  if isWholePart whole then do
    let (fraction, s) ← splitFraction? (s.dropWhile Char.isDigit)
    let (exponent, s) ← splitExponent? s
    some (numberOf negative whole fraction exponent, s)
  else none

def number? : List Char → Option (Number × List Char)
  | '-' :: r => unsigned? true r
  | s => unsigned? false s

/-! ## Writing -/

/-- Decimal exponents of the first digit from which to which a number is written without an
exponent. -/
def positionalFrom : Int := -5

def positionalBelow : Int := 16

/-- The digits with a point in their place, and at least one after it; or the first digit, the
others after a point, and a signed exponent. -/
def decimalText (d : Number.Decimal) : List Char :=
  let digits := Nat.toDigits 10 d.significand
  let first := d.exponent + digits.length - 1
  if positionalFrom ≤ first ∧ first < positionalBelow then
    let (whole, fraction) := d.split
    Number.wholePart whole ++ '.' :: Number.wholePart fraction
  else
    let mantissa := match digits with
      | [] | [_] => digits
      | c :: rest => c :: '.' :: rest
    let sign := if first < 0 then '-' else '+'
    mantissa ++ 'e' :: sign :: Nat.toDigits 10 first.natAbs

/-- There is no text for a value that is not finite. -/
def realText (x : Float) : String :=
  match Number.Binary.ofFloat x with
  | .finite negative 0 _ => Number.signed negative ['0', '.', '0']
  | .finite negative mantissa exponent =>
    Number.signed negative (decimalText (Number.shortest .toEven mantissa exponent))
  | _ => "null"

def Number.text : Number → String
  | .natural n => toString n
  | .negative n => "-" ++ toString n
  | .real x => realText x

end Provision.Json
