import Provision.Number.Numeral
import Provision.Toml.Moment

/-!
# Numbers, words and dates of a settings file

Each is a run of letters, digits and marks without white space, apart from the one blank that may
stand between a date and a time of day.
-/

namespace Provision.Toml

open Number (readNatural? readBase?)

/-! ## Numbers -/

/-- Digits without the underscores, of which each stands between two digits. -/
def digits? (isDigit : Char → Bool) : List Char → Option (List Char)
  | [] => none
  | [c] => if isDigit c then some [c] else none
  | c :: '_' :: r => if isDigit c then (digits? isDigit r).map (c :: ·) else none
  | c :: r => if isDigit c then (digits? isDigit r).map (c :: ·) else none

/-- Decimal digits that do not start with a zero, or a zero alone. -/
def wholeDigits? (s : List Char) : Option (List Char) :=
  (digits? Char.isDigit s).filter fun digits => digits.length = 1 || digits.head? != some '0'

/-- A whole number of 64 bits with a sign. -/
def inRange (n : Int) : Bool := decide (Int64.minValue.toInt ≤ n) && decide (n ≤ Int64.maxValue.toInt)

def decimal? (s : List Char) : Option Int :=
  let (negative, s) := Number.Numeral.splitSign s
  let n := (wholeDigits? s).bind readNatural?
  n.map fun n => if negative then -Int.ofNat n else Int.ofNat n

/-- A number in hexadecimal, octal or binary digits. -/
def based? : List Char → Option Int
  | '0' :: 'x' :: r => read 16 r
  | '0' :: 'o' :: r => read 8 r
  | '0' :: 'b' :: r => read 2 r
  | _ => none
where
  read (base : Nat) (s : List Char) : Option Int :=
    let digits := digits? (fun c => (Number.digitValue? base c).isSome) s
    (digits.bind (readBase? base)).map Int.ofNat

def integer? (s : List Char) : Option Int :=
  ((based? s).or (decimal? s)).filter inRange

/-- An exponent behind its letter, if there is one. -/
def exponent? : List Char → Option Int
  | [] => some 0
  | _ :: r =>
    let (negative, r) := Number.Numeral.splitSign r
    ((digits? Char.isDigit r).bind readNatural?).map fun n =>
      if negative then -Int.ofNat n else Int.ofNat n

/-- Digits behind a point, if there is one. -/
def fraction? : List Char → Option (List Char)
  | [] => some []
  | _ :: r => digits? Char.isDigit r

def isExponentMark (c : Char) : Bool := c = 'e' || c = 'E'

/-- A double with a point, an exponent or both; one that is too large is refused. -/
def numeral? (s : List Char) : Option Float := do
  if !s.any (fun c => c = '.' || isExponentMark c) then none
  let (negative, s) := Number.Numeral.splitSign s
  let mantissa := s.takeWhile (!isExponentMark ·)
  let whole ← wholeDigits? (mantissa.takeWhile (· != '.'))
  let fraction ← fraction? (mantissa.dropWhile (· != '.'))
  let exponent ← exponent? (s.dropWhile (!isExponentMark ·))
  let x := Number.Numeral.toFloat { negative, whole, fraction, exponent }
  if x == Number.infinity then none else some x

/-- The values that no numeral has. -/
def word? (s : List Char) : Option Float :=
  let (negative, word) := Number.Numeral.splitSign s
  let value :=
    if word = ['i', 'n', 'f'] then some Number.infinity
    else if word = ['n', 'a', 'n'] then some Number.notANumber
    else none
  value.map fun x => if negative then -x else x

/-! ## Tokens -/

def isTokenChar (c : Char) : Bool :=
  c.isAlphanum || c = '_' || c = '+' || c = '-' || c = '.' || c = ':'

/-- A run of token characters, and the rest. A blank between a date and a digit belongs to it. -/
def token (s : List Char) : List Char × List Char :=
  let run := s.takeWhile isTokenChar
  match (date? run).map Prod.snd, s.dropWhile isTokenChar with
  | some [], ' ' :: c :: r =>
    if c.isDigit then (run ++ ' ' :: (c :: r).takeWhile isTokenChar, (c :: r).dropWhile isTokenChar)
    else (run, ' ' :: c :: r)
  | _, rest => (run, rest)

/-- The value that a token writes. -/
def scalar? (s : List Char) : Option Value :=
  if s = ['t', 'r', 'u', 'e'] then some (.bool true)
  else if s = ['f', 'a', 'l', 's', 'e'] then some (.bool false)
  else
    let number := ((integer? s).map Value.integer).or (((word? s).or (numeral? s)).map .float)
    number.or ((Clock.plain.moment? s).map (.moment ∘ String.ofList))

end Provision.Toml
