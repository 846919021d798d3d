/-!
# Doubles as signed dyadic numbers

A finite double is a sign and `mantissa * 2 ^ exponent`; everything that is exact about a double
(its digits, its nearest whole number) is computed on that form with whole numbers.

- `roundQuotient_le`, `le_roundQuotient`: rounding a quotient stays within half a unit of it.
-/

namespace Provision.Number

inductive Binary where
  | notANumber
  | infinite (negative : Bool)
  | finite (negative : Bool) (mantissa : Nat) (exponent : Int)
  deriving DecidableEq, Repr

/-- Least exponent of a double; below `2 ^ 52` the mantissa of a double has this exponent. -/
def leastExponent : Int := -1074

/-- Mantissas from here on have every bit of a double. -/
def fullMantissa : Nat := 1 <<< 52

def Binary.ofFloat (x : Float) : Binary :=
  let bits := x.toBits.toNat
  let negative : Bool := 1 <<< 63 ≤ bits
  let biased : Nat := (bits >>> 52) % 2048
  let fraction := bits % fullMantissa
  if biased = 2047 then
    if fraction = 0 then .infinite negative else .notANumber
  else if biased = 0 then .finite negative fraction leastExponent
  else .finite negative (fullMantissa + fraction) (Int.ofNat biased - 1075)

/-- Where a quotient half way between two whole numbers goes. -/
inductive Tie where
  | up
  | toEven
  deriving DecidableEq, Repr

/-- The whole number nearest to `num / den`. -/
def roundQuotient (tie : Tie) (num den : Nat) : Nat :=
  let floor := num / den
  let twice := 2 * (num % den)
  if den < twice then floor + 1
  else if twice < den then floor
  else match tie with
    | .up => floor + 1
    | .toEven => floor + floor % 2

theorem roundQuotient_cases (tie : Tie) (num den : Nat) (h : 0 < den) :
    (roundQuotient tie num den = num / den ∧ 2 * (num % den) ≤ den) ∨
      (roundQuotient tie num den = num / den + 1 ∧ den ≤ 2 * (num % den)) := by
  simp only [roundQuotient]
  have := Nat.mod_lt num h
  split
  · omega
  · split
    · omega
    · cases tie <;> dsimp only <;> omega

theorem roundQuotient_le (tie : Tie) (num den : Nat) (h : 0 < den) :
    2 * (roundQuotient tie num den * den) ≤ 2 * num + den := by
  have hd := Nat.div_add_mod num den
  have hm : den * (num / den) = num / den * den := Nat.mul_comm ..
  rcases roundQuotient_cases tie num den h with ⟨hr, hb⟩ | ⟨hr, hb⟩ <;> rw [hr]
  · omega
  · rw [Nat.add_mul]
    omega

theorem le_roundQuotient (tie : Tie) (num den : Nat) (h : 0 < den) :
    2 * num ≤ 2 * (roundQuotient tie num den * den) + den := by
  have hd := Nat.div_add_mod num den
  have hm : den * (num / den) = num / den * den := Nat.mul_comm ..
  have hl := Nat.mod_lt num h
  rcases roundQuotient_cases tie num den h with ⟨hr, hb⟩ | ⟨hr, hb⟩ <;> rw [hr]
  · omega
  · rw [Nat.add_mul]
    omega

/-- The whole double nearest to `x`, ties away from zero; a double without fraction bits, an
infinity and a value that is no number stay as they are. -/
def roundAway (x : Float) : Float :=
  match Binary.ofFloat x with
  | .finite negative mantissa exponent =>
    if 0 ≤ exponent then x
    else
      let whole := Float.ofNat (roundQuotient .up mantissa (1 <<< exponent.natAbs))
      if negative then -whole else whole
  | _ => x

end Provision.Number
