/-!
# Whole numbers in decimal digits

- `readNatural?_toDigits`: a number written in decimal reads back.
-/

namespace Provision.Number

/-- The number that a run of one or more decimal digits writes, leading zeros included. -/
def readNatural? (s : List Char) : Option Nat :=
  if !s.isEmpty && s.all Char.isDigit then some (Nat.ofDigitChars 10 s 0) else none

/-- A number below `bound`; a plus sign may stand in front. -/
def readBelow? (bound : Nat) (s : List Char) : Option Nat :=
  let digits := match s with
    | '+' :: r => r
    | _ => s
  (readNatural? digits).filter (· < bound)

/-- A whole number with an optional sign. -/
def readInteger? : List Char → Option Int
  | '+' :: r => (readNatural? r).map Int.ofNat
  | '-' :: r => (readNatural? r).map fun n => -Int.ofNat n
  | s => (readNatural? s).map Int.ofNat

/-- The value of a digit or letter, if it is one of a base of at most 36. -/
def digitValue? (base : Nat) (c : Char) : Option Nat :=
  let value :=
    if c.isDigit then c.toNat - '0'.toNat
    else if c.isAlpha then c.toLower.toNat - 'a'.toNat + 10
    else base
  if value < base then some value else none

/-- The number that one or more digits of a base write. -/
def readBase? (base : Nat) (s : List Char) : Option Nat :=
  if s.isEmpty then none
  else s.foldlM (fun n c => (digitValue? base c).map (n * base + ·)) 0

/-- `toDigits` pads nothing, so fields of fixed width are filled with zeros in front. -/
def padded (width n : Nat) : List Char :=
  let digits := Nat.toDigits 10 n
  List.replicate (width - digits.length) '0' ++ digits

theorem readNatural?_toDigits (n : Nat) : readNatural? (Nat.toDigits 10 n) = some n := by
  have digits : (Nat.toDigits 10 n).all Char.isDigit = true :=
    List.all_eq_true.mpr fun c hc => Nat.isDigit_of_mem_toDigits (by decide) (by decide) hc
  simp [readNatural?, digits]

end Provision.Number
