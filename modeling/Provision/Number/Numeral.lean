import Provision.Number.Natural

/-!
# Decimal numerals

A numeral is an optional sign, digits with at most one point and at least one digit, and an
optional exponent. Its value is the double nearest to the decimal it writes.
-/

namespace Provision.Number

structure Numeral where
  negative : Bool
  /-- Digits before the point. -/
  whole : List Char
  /-- Digits after the point. -/
  fraction : List Char
  exponent : Int
  deriving DecidableEq, Repr

namespace Numeral

/-- The numeral is `significand * 10 ^ scale`, its sign apart. -/
def significand (n : Numeral) : Nat := Nat.ofDigitChars 10 (n.whole ++ n.fraction) 0

def scale (n : Numeral) : Int := n.exponent - n.fraction.length

/-- The nearest double, ties to even, beyond the largest one infinite. -/
def toFloat (n : Numeral) : Float :=
  let magnitude := Float.ofScientific n.significand (n.scale < 0) n.scale.natAbs
  if n.negative then -magnitude else magnitude

/-- A sign in front, and the rest. -/
def splitSign : List Char → Bool × List Char
  | '-' :: r => (true, r)
  | '+' :: r => (false, r)
  | s => (false, s)

/-- The digits after a point, if one stands in front, and the rest. -/
def splitFraction : List Char → List Char × List Char
  | '.' :: r => (r.takeWhile Char.isDigit, r.dropWhile Char.isDigit)
  | s => ([], s)

/-- What may follow the digits: nothing, or an exponent. -/
def readExponent? : List Char → Option Int
  | [] => some 0
  | c :: r => if c = 'e' ∨ c = 'E' then readInteger? r else none

/-- A numeral that is the whole text. -/
def read? (s : List Char) : Option Numeral :=
  let (negative, s) := splitSign s
  let whole := s.takeWhile Char.isDigit
  let (fraction, s) := splitFraction (s.dropWhile Char.isDigit)
  if whole.isEmpty && fraction.isEmpty then none
  else (readExponent? s).map fun exponent => { negative, whole, fraction, exponent }

end Numeral

def infinity : Float := Float.ofBits 0x7ff0000000000000

def notANumber : Float := Float.ofBits 0x7ff8000000000000

/-- `inf`, `infinity` and `nan` in any case. -/
def readWord? (s : List Char) : Option Float :=
  let word := s.map Char.toLower
  if word = ['i', 'n', 'f'] ∨ word = ['i', 'n', 'f', 'i', 'n', 'i', 't', 'y'] then some infinity
  else if word = ['n', 'a', 'n'] then some notANumber
  else none

/-- A double: a numeral, or one of the words for the values no numeral has. -/
def readFloat? (s : List Char) : Option Float :=
  match Numeral.read? s with
  | some n => some n.toFloat
  | none =>
    let (negative, word) := Numeral.splitSign s
    (readWord? word).map fun x => if negative then -x else x

end Provision.Number
