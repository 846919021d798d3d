import Provision.Proofs.MemoryGrammar

/-!
# Whole numbers of a unit of memory

Whole numbers are scaled exactly: the bytes are the floor over the rationals, and there are none
where the floor is beyond the counts of 64 bits.

- `whole_eq_count`: the scaling of a whole number is that of the rationals, up to the largest power
  of ten that is a count.
- `parseMemory_whole_exact`: so is the reading of every text whose number is whole.
-/

namespace Provision.Quantity

open Number (IsDigits digitsValue)

namespace Scale

/-- The bytes in one unit. -/
def value : Scale → ℚ
  | .bytes factor => factor
  | .milli => 1 / 1000
  | .power e => 10 ^ e

/-- The whole bytes in `n` units. -/
def floorBytes (scale : Scale) (n : Nat) : Nat := ⌊(n : ℚ) * scale.value⌋₊

/-- A power of ten that is no count itself. -/
def IsHuge (scale : Scale) : Prop := ∃ e ≥ 20, scale = .power e

/-! ## The floors -/

theorem floorBytes_bytes (factor n : Nat) : (bytes factor).floorBytes n = n * factor := by
  rw [floorBytes, value, ← Nat.cast_mul, Nat.floor_natCast]

theorem floorBytes_milli (n : Nat) : milli.floorBytes n = n / 1000 := by
  rw [floorBytes, value, mul_one_div]
  exact Nat.floor_div_eq_div n 1000

theorem floorBytes_power_nonneg {e : Int} (h : 0 ≤ e) (n : Nat) :
    (power e).floorBytes n = n * 10 ^ e.toNat := by
  obtain ⟨k, rfl⟩ := Int.eq_ofNat_of_zero_le h
  have cast : (n : ℚ) * 10 ^ k = ((n * 10 ^ k : Nat) : ℚ) := by push_cast; rfl
  rw [floorBytes, value, zpow_natCast, cast, Nat.floor_natCast, Int.toNat_natCast]

theorem floorBytes_power_neg {e : Int} (h : e < 0) (n : Nat) :
    (power e).floorBytes n = n / 10 ^ e.natAbs := by
  have negated : e = -(e.natAbs : Int) := by omega
  have cast : (n : ℚ) * (10 ^ e.natAbs)⁻¹ = (n : ℚ) / ((10 ^ e.natAbs : Nat) : ℚ) := by
    push_cast
    rw [div_eq_mul_inv]
  rw [floorBytes, value, negated, zpow_neg, zpow_natCast, Int.natAbs_neg, Int.natAbs_natCast, cast]
  exact Nat.floor_div_eq_div n _

/-! ## Counts -/

theorem count?_of_lt {n : Nat} (h : n < UInt64.size) :
    ∃ bytes, count? n = some bytes ∧ bytes.toNat = n :=
  ⟨UInt64.ofNat n, if_pos h, UInt64.toNat_ofNat_of_lt' h⟩

theorem count?_of_le {n : Nat} (h : UInt64.size ≤ n) : count? n = none := if_neg (by omega)

theorem size_le_pow {e : Nat} (h : 20 ≤ e) : UInt64.size ≤ 10 ^ e :=
  le_trans (by decide : UInt64.size ≤ 10 ^ 20) (Nat.pow_le_pow_right (by decide) h)

/-- Below the twentieth power of ten a whole number is scaled as over the rationals. -/
theorem whole_eq_count {scale : Scale} {n : Nat} (h : ¬ scale.IsHuge) (hn : n < UInt64.size) :
    scale.whole n = count? (scale.floorBytes n) := by
  match scale, h with
  | .bytes factor, _ => rw [floorBytes_bytes, whole]
  | .milli, _ => rw [floorBytes_milli, whole]
  | .power e, h =>
    have small : e ≤ 19 := by
      by_contra large
      exact h ⟨e, by omega, rfl⟩
    by_cases nonneg : 0 ≤ e
    · rw [floorBytes_power_nonneg nonneg, whole, if_pos nonneg, if_pos small]
      rfl
    · rw [floorBytes_power_neg (by omega), whole, if_neg nonneg]
      split
      · rw [show (-e).toNat = e.natAbs by omega]
        rfl
      · -- The divisor is no count, and leaves nothing of a number that is one.
        rw [Nat.div_eq_of_lt (Nat.lt_of_lt_of_le hn (size_le_pow (by omega)))]
        rfl

theorem whole_of_huge {scale : Scale} (h : scale.IsHuge) (n : Nat) : scale.whole n = none := by
  obtain ⟨e, large, rfl⟩ := h
  exact whole_power_large large n

end Scale

/-! ## Texts -/

theorem scaleNumber_whole {digits : List Char} (hd : IsDigits digits)
    (fits : digitsValue digits < UInt64.size) (scale : Scale) :
    scaleNumber digits scale = match scale.whole (digitsValue digits) with
      | some bytes => .ok bytes
      | none => .error .overflow := by
  have read : Number.readBelow? (UInt64.size) digits = some (digitsValue digits) :=
    (Number.readBelow?_of_digits hd _).trans (if_pos fits)
  cases whole : scale.whole (digitsValue digits) <;> simp only [scaleNumber, read, whole]

end Provision.Quantity

namespace Provision

open Number (IsDigits digitsValue)
open Quantity

theorem parseMemory_of_digits {text : String} {digits : List Char} {scale : Scale}
    (form : IsQuantity (Text.trim text.toList) digits scale) (hd : IsDigits digits)
    (fits : digitsValue digits < UInt64.size) :
    parseMemory text = match scale.whole (digitsValue digits) with
      | some bytes => .ok bytes
      | none => .error (.quantity text .overflow) := by
  rw [parseMemory, form.readMemory, scaleNumber_whole hd fits]
  cases scale.whole (digitsValue digits) <;> rfl

section
variable {text : String} {digits : List Char} {scale : Scale}
  (form : IsQuantity (Text.trim text.toList) digits scale) (hd : IsDigits digits)
  (fits : digitsValue digits < UInt64.size)
include form hd fits

theorem parseMemory_whole_ok (small : scale.floorBytes (digitsValue digits) < UInt64.size)
    (h : ¬ scale.IsHuge) : ∃ bytes, parseMemory text = .ok bytes ∧
      bytes.toNat = scale.floorBytes (digitsValue digits) := by
  obtain ⟨bytes, count, exact⟩ := Scale.count?_of_lt small
  refine ⟨bytes, ?_, exact⟩
  rw [parseMemory_of_digits form hd fits, Scale.whole_eq_count h fits, count]

theorem parseMemory_whole_refused
    (large : UInt64.size ≤ scale.floorBytes (digitsValue digits) ∨ scale.IsHuge) :
    parseMemory text = .error (.quantity text .overflow) := by
  have none : scale.whole (digitsValue digits) = none := by
    by_cases huge : scale.IsHuge
    · exact Scale.whole_of_huge huge _
    · rw [Scale.whole_eq_count huge fits, Scale.count?_of_le (large.resolve_right huge)]
  rw [parseMemory_of_digits form hd fits, none]

end

/-- **Whole numbers of a unit are exact.** The bytes are the floor over the rationals if it can be
counted, and else there is a fault. Only the powers of ten that are no counts are a fault even of
zero. A negative power always has bytes, and none of a number that is below the divisor. -/
theorem parseMemory_whole_exact {text : String} {digits : List Char} {scale : Scale}
    (form : IsQuantity (Text.trim text.toList) digits scale) (hd : IsDigits digits)
    (fits : digitsValue digits < UInt64.size) :
    (scale.floorBytes (digitsValue digits) < UInt64.size → ¬ scale.IsHuge →
      ∃ bytes, parseMemory text = .ok bytes ∧
        bytes.toNat = scale.floorBytes (digitsValue digits)) ∧
    (UInt64.size ≤ scale.floorBytes (digitsValue digits) ∨ scale.IsHuge →
      parseMemory text = .error (.quantity text .overflow)) ∧
    ∀ e < 0, scale = .power e →
      ∃ bytes, parseMemory text = .ok bytes ∧
        bytes.toNat = scale.floorBytes (digitsValue digits) ∧
        (digitsValue digits < 10 ^ e.natAbs → bytes = 0) := by
  refine ⟨parseMemory_whole_ok form hd fits, parseMemory_whole_refused form hd fits, ?_⟩
  rintro e negative rfl
  have floor := Scale.floorBytes_power_neg negative (digitsValue digits)
  have below : digitsValue digits / 10 ^ e.natAbs ≤ digitsValue digits := Nat.div_le_self ..
  have small : ¬ (Scale.power e).IsHuge := by
    rintro ⟨e', large, same⟩
    cases same
    omega
  obtain ⟨bytes, read, exact⟩ := parseMemory_whole_ok form hd fits (by omega) small
  refine ⟨bytes, read, exact, fun under => ?_⟩
  apply UInt64.toNat_inj.mp
  rw [exact, floor, Nat.div_eq_of_lt under]
  rfl

/-- The least exponent leaves nothing of the largest count, and the first that is no count is a
fault even of zero. -/
theorem parseMemory_extreme_exponents : parseMemory "18446744073709551615 e-2147483648" = .ok 0 ∧
    parseMemory "00E20" = .error (.quantity "00E20" .overflow) := by
  have digits {s : List Char} (h : s ≠ [] ∧ s.all Char.isDigit = true) : IsDigits s :=
    ⟨h.1, List.all_eq_true.mp h.2⟩
  constructor
  · have hd := digits (s := "18446744073709551615".toList) (by decide)
    have parts : Text.trim "18446744073709551615 e-2147483648".toList =
      "18446744073709551615".toList ++ " e-2147483648".toList := rfl
    have fits : digitsValue "18446744073709551615".toList < UInt64.size := by decide
    obtain ⟨bytes, read, -, zero⟩ := (parseMemory_whole_exact
      (isQuantity_of_parts parts (.whole hd) rfl) hd fits).2.2 (-2147483648) (by decide) rfl
    rw [read, zero (Nat.lt_of_lt_of_le fits (Scale.size_le_pow (by decide)))]
  · have hd := digits (s := ['0', '0']) (by decide)
    have parts : Text.trim "00E20".toList = ['0', '0'] ++ ['E', '2', '0'] := rfl
    exact (parseMemory_whole_exact (isQuantity_of_parts parts (.whole hd) rfl) hd
      (by decide)).2.1 (Or.inr ⟨20, by decide, rfl⟩)

end Provision
