import Mathlib
import Provision.Number.Binary

/-!
# Rounding to the nearest double

Arithmetic on doubles is done on mantissas with two more bits: one for the half, and one for
anything behind it. Both say together where a number lies between two mantissas.

- `Represents.shiftTo`: the bits still tell where the number lies when the mantissa is shortened.
- `roundWithAccuracy_eq`: rounding gives the double that the number rounds to.
- `mul_roundedFrom`, `div_roundedFrom`: products and quotients are rounded once.
-/

namespace Provision.Number

open Float.Model (Format UnpackedFloat totalExponent)
open Float.Model.UnpackedFloat (Accuracy ExtendedMantissa Sign accuracyOfFraction
  shiftToTargetExponent shiftToExponent)

/-! ## Powers with whole exponents -/

/-- What an integer power has above and below the line. -/
theorem zpow_eq_div {b : Nat} (pos : 0 < b) (E : Int) :
    (b : ℚ) ^ E = (b ^ E.toNat : Nat) / (b ^ (-E).toNat : Nat) := by
  have some : (b : ℚ) ≠ 0 := by exact_mod_cast pos.ne'
  have split : E = (E.toNat : Int) - ((-E).toNat : Int) := by omega
  rw [Nat.cast_pow, Nat.cast_pow, ← zpow_natCast, ← zpow_natCast, ← zpow_sub₀ some, ← split]

theorem zpow_of_nonneg (b : Nat) {E : Int} (h : 0 ≤ E) : (b : ℚ) ^ E = (b ^ E.toNat : Nat) := by
  rw [Nat.cast_pow, ← zpow_natCast, Int.toNat_of_nonneg h]

theorem zpow_of_nonpos (b : Nat) {E : Int} (h : E ≤ 0) :
    (b : ℚ) ^ E = ((b ^ (-E).toNat : Nat) : ℚ)⁻¹ := by
  rw [← zpow_of_nonneg b (by omega), zpow_neg, inv_inv]

/-! ## Mantissas with residual bits -/

/-- What a mantissa and its residual bits say about a number. -/
def Represents (em : ExtendedMantissa) (x : ℚ) : Prop :=
  match em.roundBit, em.stickyBit with
  | false, false => x = em.mantissa
  | false, true => em.mantissa < x ∧ x < em.mantissa + 1 / 2
  | true, false => x = em.mantissa + 1 / 2
  | true, true => em.mantissa + 1 / 2 < x ∧ x < em.mantissa + 1

/-- The whole number nearest to `x`, and the even one of two. -/
structure NearestWhole (n : Nat) (x : ℚ) : Prop where
  low : (n : ℚ) - 1 / 2 ≤ x
  high : x ≤ n + 1 / 2
  even : n % 2 = 1 → (n : ℚ) - 1 / 2 < x ∧ x < n + 1 / 2

theorem NearestWhole.le {n m : Nat} {x : ℚ} (h : NearestWhole n x) (h' : NearestWhole m x) :
    n ≤ m := by
  obtain ⟨low, high, even⟩ := h
  obtain ⟨low', high', even'⟩ := h'
  by_contra more
  rcases Nat.lt_or_ge n (m + 2) with next | far
  · -- Of two neighbours one is odd, and nothing lies half way for it.
    have next : n = m + 1 := by omega
    subst next
    push_cast at *
    rcases Nat.mod_two_eq_zero_or_one m with whole | odd
    · linarith [(even (by omega)).1]
    · linarith [(even' odd).2]
  · have far : (m : ℚ) + 2 ≤ n := by exact_mod_cast far
    linarith

theorem Represents.nearestWhole {em : ExtendedMantissa} {x : ℚ} (h : Represents em x) :
    NearestWhole em.roundedMantissa x := by
  obtain ⟨m, r, s⟩ := em
  cases r <;> cases s <;> simp only [Represents] at h <;>
    simp only [ExtendedMantissa.roundedMantissa, ExtendedMantissa.accuracy,
      Accuracy.roundToNearestEven]
  · exact ⟨by linarith, by linarith, fun _ => ⟨by linarith, by linarith⟩⟩
  · exact ⟨by linarith, by linarith, fun _ => ⟨by linarith, by linarith⟩⟩
  · -- Half way: the mantissa stays if it is even, and else the next one is.
    rcases Nat.mod_two_eq_zero_or_one m with even | odd
    · rw [even, Nat.add_zero]
      exact ⟨by linarith, by linarith, fun odd => by omega⟩
    · rw [odd]
      exact ⟨by push_cast; linarith, by push_cast; linarith, fun even => by omega⟩
  · refine ⟨?_, ?_, fun _ => ⟨?_, ?_⟩⟩ <;> push_cast <;> linarith

theorem Represents.rounded {em : ExtendedMantissa} {x : ℚ} {n : Nat} (h : Represents em x)
    (near : NearestWhole n x) : em.roundedMantissa = n :=
  Nat.le_antisymm (h.nearestWhole.le near) (near.le h.nearestWhole)

theorem Represents.shiftRightOne {em : ExtendedMantissa} {x : ℚ} (h : Represents em x) :
    Represents em.shiftRightOne (x / 2) := by
  obtain ⟨m, r, s⟩ := em
  have split : (m : ℚ) = 2 * (m / 2 : Nat) + (m % 2 : Nat) := by
    exact_mod_cast (Nat.div_add_mod m 2).symm
  rcases Nat.mod_two_eq_zero_or_one m with bit | bit
  · have dropped : (m % 2 != 0) = false := by rw [bit]; rfl
    rw [bit, Nat.cast_zero] at split
    cases r <;> cases s <;>
      simp only [Represents, ExtendedMantissa.shiftRightOne, dropped, Bool.or_false,
        Bool.or_true] at h ⊢
    · linarith
    all_goals constructor <;> linarith
  · have dropped : (m % 2 != 0) = true := by rw [bit]; rfl
    rw [bit, Nat.cast_one] at split
    cases r <;> cases s <;>
      simp only [Represents, ExtendedMantissa.shiftRightOne, dropped, Bool.or_false,
        Bool.or_true] at h ⊢
    · linarith
    all_goals constructor <;> linarith

theorem Represents.shiftRight {em : ExtendedMantissa} {x : ℚ} (h : Represents em x) (n : Nat) :
    Represents (em >>> n) (x / 2 ^ n) := by
  change Represents (n.repeat ExtendedMantissa.shiftRightOne em) _
  induction n with
  | zero => simpa [Nat.repeat] using h
  | succ n ih =>
    have half := ih.shiftRightOne
    rw [div_div, ← pow_succ] at half
    exact half

/-- What a mantissa represents in units of its place, it represents in units of a higher one. -/
theorem Represents.shiftTo {em : ExtendedMantissa} {y : ℚ} (h : Represents em y) {X t : Int}
    (fine : X ≤ t) : Represents (em >>> (t - X).toNat) (y * 2 ^ X / 2 ^ t) := by
  have shifted := h.shiftRight (t - X).toNat
  have value : y / 2 ^ (t - X).toNat = y * 2 ^ X / 2 ^ t := by
    have distance : ((t - X).toNat : Int) = t - X := by omega
    rw [← zpow_natCast, distance, zpow_sub₀ two_ne_zero]
    field_simp
  rw [value] at shifted
  exact shifted

theorem represents_quotient (num : Nat) {den : Nat} (pos : 0 < den) :
    Represents (.ofMantissaAndAccuracy (num / den) (accuracyOfFraction (num % den) den))
      (num / den : ℚ) := by
  have whole : (0 : ℚ) < den := by exact_mod_cast pos
  have split : (num : ℚ) = den * (num / den : Nat) + (num % den : Nat) := by
    exact_mod_cast (Nat.div_add_mod num den).symm
  have value : (num / den : ℚ) = (num / den : Nat) + (num % den : Nat) / den := by
    rw [split]
    field_simp
  have small : ((num % den : Nat) : ℚ) < den := by exact_mod_cast Nat.mod_lt num pos
  rw [value]
  generalize num / den = floor
  generalize num % den = rest at small ⊢
  unfold accuracyOfFraction
  split
  · rename_i none
    subst none
    simp [ExtendedMantissa.ofMantissaAndAccuracy, Represents]
  · rename_i some
    have positive : (0 : ℚ) < rest / den := by
      have : (0 : ℚ) < rest := by exact_mod_cast Nat.pos_of_ne_zero some
      positivity
    cases half : compare (2 * rest) den with
    | lt =>
      have : (rest : ℚ) / den < 1 / 2 := by
        have : 2 * (rest : ℚ) < den := by exact_mod_cast Nat.compare_eq_lt.mp half
        rw [div_lt_div_iff₀ whole two_pos]
        linarith
      simp only [ExtendedMantissa.ofMantissaAndAccuracy, Represents]
      constructor <;> linarith
    | eq =>
      have : (rest : ℚ) / den = 1 / 2 := by
        have : 2 * (rest : ℚ) = den := by exact_mod_cast Nat.compare_eq_eq.mp half
        rw [← this]
        field_simp
      simp only [ExtendedMantissa.ofMantissaAndAccuracy, Represents]
      linarith
    | gt =>
      have : 1 / 2 < (rest : ℚ) / den := by
        have : (den : ℚ) < 2 * rest := by exact_mod_cast Nat.compare_eq_gt.mp half
        rw [div_lt_div_iff₀ two_pos whole]
        linarith
      have : (rest : ℚ) / den < 1 := (div_lt_one whole).mpr small
      simp only [ExtendedMantissa.ofMantissaAndAccuracy, Represents]
      constructor <;> linarith

theorem Represents.floor {em : ExtendedMantissa} {x : ℚ} (h : Represents em x) :
    (em.mantissa : ℚ) ≤ x ∧ x < em.mantissa + 1 := by
  obtain ⟨m, r, s⟩ := em
  cases r <;> cases s <;> simp only [Represents] at h <;> constructor <;> linarith

/-! ## Doubles and the numbers around them -/

/-- A positive double's mantissa and exponent. -/
structure Canonical (m : Nat) (e : Int) : Prop where
  pos : 0 < m
  small : m < 2 ^ 53
  least : -1074 ≤ e
  most : e ≤ 971
  full : 2 ^ 52 ≤ m ∨ e = -1074

/-- What is left below a double, in units of its last place, until the one before it is nearer. -/
def roomBelow (m : Nat) (e : Int) : ℚ := if m = 2 ^ 52 ∧ e ≠ -1074 then 1 / 4 else 1 / 2

/-- A number to which no double is nearer than this one. -/
structure RoundsTo (m : Nat) (e : Int) (q : ℚ) : Prop where
  low : (m - roomBelow m e) * 2 ^ e ≤ q
  high : q ≤ (m + 1 / 2) * 2 ^ e
  even : m % 2 = 1 → (m - roomBelow m e) * 2 ^ e < q ∧ q < (m + 1 / 2) * 2 ^ e

section
variable {M : Nat} {X : Int} {accuracy : Accuracy} {y : ℚ}
  (h : Represents (.ofMantissaAndAccuracy M accuracy) y)
  (fine : X ≤ Format.binary64.targetExponent (totalExponent M X))
include h fine

theorem target_bounds :
    y * 2 ^ X < 2 ^ (Format.binary64.targetExponent (totalExponent M X) + 53) ∧
      (Format.binary64.targetExponent (totalExponent M X) = -1074 ∨
        2 ^ (Format.binary64.targetExponent (totalExponent M X) + 52) ≤ y * 2 ^ X) := by
  have mantissa : (ExtendedMantissa.ofMantissaAndAccuracy M accuracy).mantissa = M := by
    unfold ExtendedMantissa.ofMantissaAndAccuracy
    split <;> rfl
  obtain ⟨floor, ceil⟩ := h.floor
  rw [mantissa] at floor ceil
  have unit : (0 : ℚ) < 2 ^ X := by positivity
  have target : Format.binary64.targetExponent (totalExponent M X) =
      max (M.log2 + 1 + X - 53) (-1074) := rfl
  rw [target] at fine ⊢
  constructor
  · have top : (M : ℚ) + 1 ≤ 2 ^ (M.log2 + 1 : Int) := by
      exact_mod_cast Nat.lt_log2_self
    calc y * 2 ^ X < 2 ^ (M.log2 + 1 : Int) * 2 ^ X := by
          apply mul_lt_mul_of_pos_right _ unit
          linarith
      _ = 2 ^ (M.log2 + 1 + X : Int) := (zpow_add₀ two_ne_zero ..).symm
      _ ≤ 2 ^ (max (M.log2 + 1 + X - 53 : Int) (-1074) + 53) := by
          apply zpow_le_zpow_right₀ one_le_two
          omega
  · by_cases least : max (M.log2 + 1 + X - 53 : Int) (-1074) = -1074
    · exact Or.inl least
    · right
      have full : M ≠ 0 := by
        rintro rfl
        simp at fine least
        omega
      have bottom : (2 : ℚ) ^ (M.log2 : Int) ≤ M := by
        exact_mod_cast Nat.log2_self_le full
      calc (2 : ℚ) ^ (max (M.log2 + 1 + X - 53 : Int) (-1074) + 52)
          = 2 ^ (M.log2 + X : Int) := by
            congr 1
            omega
        _ = 2 ^ (M.log2 : Int) * 2 ^ X := zpow_add₀ two_ne_zero ..
        _ ≤ y * 2 ^ X := by
            apply mul_le_mul_of_nonneg_right _ unit.le
            linarith

end

theorem roomBelow_le (m : Nat) (e : Int) : roomBelow m e ≤ 1 / 2 := by
  unfold roomBelow
  split <;> norm_num

theorem roomBelow_pos (m : Nat) (e : Int) : 0 < roomBelow m e := by
  unfold roomBelow
  split <;> norm_num

/-- The place of the last digit is the double's own, or one less just below a power of two. -/
theorem exponent_cases {m : Nat} {e t : Int} {q : ℚ} (canonical : Canonical m e)
    (rounds : RoundsTo m e q) (least : -1074 ≤ t) (upper : q < 2 ^ (t + 53))
    (lower : t = -1074 ∨ 2 ^ (t + 52) ≤ q) : e = t ∨ e = t + 1 ∧ m = 2 ^ 52 := by
  have unit : (0 : ℚ) < 2 ^ e := by positivity
  rcases lt_trichotomy e t with below | same | above
  · exfalso
    have reached : (2 : ℚ) ^ (t + 52) ≤ q := by
      rcases lower with lowest | reached
      · have := canonical.least
        omega
      · exact reached
    have small : (m : ℚ) + 1 ≤ 2 ^ (53 : Int) := by exact_mod_cast canonical.small
    have short : (2 : ℚ) ^ (53 : Int) * 2 ^ e ≤ 2 ^ (t + 52) := by
      rw [← zpow_add₀ two_ne_zero]
      apply zpow_le_zpow_right₀ one_le_two
      omega
    have high := rounds.high
    nlinarith
  · exact Or.inl same
  · right
    have full : 2 ^ 52 ≤ m := by
      rcases canonical.full with full | lowest
      · exact full
      · omega
    by_cases power : m = 2 ^ 52
    · refine ⟨?_, power⟩
      by_contra far
      have room : roomBelow m e ≤ 1 / 2 := roomBelow_le m e
      have long : (2 : ℚ) ^ (t + 53) ≤ 2 ^ (51 : Int) * 2 ^ e := by
        rw [← zpow_add₀ two_ne_zero]
        apply zpow_le_zpow_right₀ one_le_two
        omega
      have low := rounds.low
      have value : (m : ℚ) = 2 ^ 52 := by exact_mod_cast power
      rw [value] at low
      norm_num at long low
      nlinarith
    · exfalso
      have room : roomBelow m e ≤ 1 / 2 := roomBelow_le m e
      have next : (2 : ℚ) ^ (52 : Int) + 1 ≤ m := by
        exact_mod_cast Nat.lt_of_le_of_ne full (Ne.symm power)
      have long : (2 : ℚ) ^ (t + 53) ≤ 2 ^ (52 : Int) * 2 ^ e := by
        rw [← zpow_add₀ two_ne_zero]
        apply zpow_le_zpow_right₀ one_le_two
        omega
      have low := rounds.low
      nlinarith

theorem nearestWhole_own {m : Nat} {e : Int} {q : ℚ} (rounds : RoundsTo m e q) :
    NearestWhole m (q / 2 ^ e) := by
  have unit : (0 : ℚ) < 2 ^ e := by positivity
  have room := roomBelow_le m e
  refine ⟨?_, ?_, fun odd => ?_⟩
  · rw [le_div_iff₀ unit]
    have low := rounds.low
    nlinarith
  · rw [div_le_iff₀ unit]
    exact rounds.high
  · obtain ⟨low, high⟩ := rounds.even odd
    rw [lt_div_iff₀ unit, div_lt_iff₀ unit]
    refine ⟨?_, high⟩
    nlinarith

theorem nearestWhole_below {t : Int} {q : ℚ} (rounds : RoundsTo (2 ^ 52) (t + 1) q)
    (least : -1074 ≤ t) (upper : q < 2 ^ (t + 53)) : NearestWhole (2 ^ 53) (q / 2 ^ t) := by
  have unit : (0 : ℚ) < 2 ^ t := by positivity
  have room : roomBelow (2 ^ 52) (t + 1) = 1 / 4 := if_pos ⟨rfl, by omega⟩
  have low := rounds.low
  rw [room, zpow_add₀ two_ne_zero] at low
  rw [zpow_add₀ two_ne_zero] at upper
  norm_num at low upper
  refine ⟨?_, ?_, fun odd => ?_⟩
  · rw [le_div_iff₀ unit]
    norm_num
    linarith
  · rw [div_le_iff₀ unit]
    norm_num
    linarith
  · norm_num at odd

section
variable {m : Nat} {e : Int} (pos : 0 < m) (small : m < 2 ^ 53) (least : -1074 ≤ e)
  (full : 2 ^ 52 ≤ m ∨ e = -1074)
include pos small least full

theorem targetExponent_own : Format.binary64.targetExponent (totalExponent m e) = e := by
  have target : Format.binary64.targetExponent (totalExponent m e) =
      max (m.log2 + 1 + e - 53) (-1074) := rfl
  have short : m.log2 < 53 := (Nat.log2_lt pos.ne').mpr small
  rw [target]
  rcases full with full | lowest
  · have long : 52 ≤ m.log2 := (Nat.le_log2 pos.ne').mpr full
    omega
  · omega

theorem shift_own :
    shiftToTargetExponent Format.binary64 m e .exact = (⟨m, false, false⟩, e) := by
  rw [shiftToTargetExponent, targetExponent_own pos small least full, shiftToExponent, Int.sub_self]
  simp only [Int.toNat_zero, Nat.cast_zero, Int.add_zero]
  rfl

end

/-- A mantissa that was rounded up to the next power of two has a digit too many. -/
theorem shift_overflow {t : Int} (least : -1074 ≤ t) :
    shiftToTargetExponent Format.binary64 (2 ^ 53) t .exact =
      (⟨2 ^ 52, false, false⟩, t + 1) := by
  have target : Format.binary64.targetExponent (totalExponent (2 ^ 53) t) = t + 1 := by
    have log : (2 ^ 53 : Nat).log2 = 53 := Nat.log2_two_pow
    have target : Format.binary64.targetExponent (totalExponent (2 ^ 53) t) =
        max ((2 ^ 53 : Nat).log2 + 1 + t - 53) (-1074) := rfl
    rw [target, log]
    omega
  have one : (t + 1 - t).toNat = 1 := by omega
  rw [shiftToTargetExponent, target, shiftToExponent, one]
  rfl

/-- **Rounding.** Whatever rounds to a double is rounded to it, if no place of it was cut off. -/
theorem roundWithAccuracy_eq {M : Nat} {X : Int} {accuracy : Accuracy} {y : ℚ}
    (h : Represents (.ofMantissaAndAccuracy M accuracy) y)
    (fine : X ≤ Format.binary64.targetExponent (totalExponent M X)) {m : Nat} {e : Int}
    (canonical : Canonical m e) (rounds : RoundsTo m e (y * 2 ^ X)) (sign : Sign) :
    UnpackedFloat.roundWithAccuracy Format.binary64 sign M X accuracy =
      .finite sign m e canonical.pos := by
  obtain ⟨upper, lower⟩ := target_bounds h fine
  have least : -1074 ≤ Format.binary64.targetExponent (totalExponent M X) := le_max_right _ _
  have cases := exponent_cases canonical rounds least upper lower
  unfold UnpackedFloat.roundWithAccuracy
  rw [shiftToTargetExponent]
  generalize Format.binary64.targetExponent (totalExponent M X) = t at *
  have shifted := h.shiftTo fine
  have exponent : X + ((t - X).toNat : Int) = t := by omega
  simp only [shiftToExponent, exponent]
  rcases cases with rfl | ⟨rfl, rfl⟩
  · have rounded := shifted.rounded (nearestWhole_own rounds)
    have own := shift_own canonical.pos canonical.small canonical.least canonical.full
    simp only [rounded, own, canonical.pos.ne', dif_neg, not_false_eq_true]
  · have rounded := shifted.rounded (nearestWhole_below rounds least upper)
    simp only [rounded, shift_overflow least]
    rfl

/-- The result of rounding bits that represent `q`, no place of it cut off before. -/
inductive RoundedFrom (q : ℚ) : UnpackedFloat → Prop where
  | intro {M : Nat} {X : Int} {accuracy : Accuracy} {y : ℚ}
    (h : Represents (.ofMantissaAndAccuracy M accuracy) y)
    (fine : X ≤ Format.binary64.targetExponent (totalExponent M X)) (value : y * 2 ^ X = q) :
    RoundedFrom q (.roundWithAccuracy Format.binary64 .positive M X accuracy)

theorem RoundedFrom.eq {q : ℚ} {u : UnpackedFloat} (h : RoundedFrom q u) {m : Nat} {e : Int}
    (canonical : Canonical m e) (rounds : RoundsTo m e q) :
    u = .finite .positive m e canonical.pos := by
  cases h with
  | intro h fine value =>
    rw [← value] at rounds
    exact roundWithAccuracy_eq h fine canonical rounds .positive

/-! ## Products and quotients -/

section
variable {m₁ m₂ : Nat} {e₁ e₂ : Int} {pos₁ : 0 < m₁} {pos₂ : 0 < m₂}

theorem mul_roundedFrom (enough : 52 ≤ (m₁ * m₂).log2 ∨ e₁ + e₂ ≤ -1074) :
    RoundedFrom (m₁ * 2 ^ e₁ * (m₂ * 2 ^ e₂)) (UnpackedFloat.mul Format.binary64
      (.finite .positive m₁ e₁ pos₁) (.finite .positive m₂ e₂ pos₂)) := by
  have exact : Represents (.ofMantissaAndAccuracy (m₁ * m₂) .exact) (m₁ * m₂ : Nat) := rfl
  have fine : e₁ + e₂ ≤ Format.binary64.targetExponent (totalExponent (m₁ * m₂) (e₁ + e₂)) := by
    have target : Format.binary64.targetExponent (totalExponent (m₁ * m₂) (e₁ + e₂)) =
        max ((m₁ * m₂).log2 + 1 + (e₁ + e₂) - 53) (-1074) := rfl
    rw [target]
    omega
  apply RoundedFrom.intro exact fine
  rw [zpow_add₀ two_ne_zero, Nat.cast_mul]
  ring

theorem log2_shiftLeft {a : Nat} (pos : 0 < a) (n : Nat) : (a <<< n).log2 = a.log2 + n := by
  have some : a <<< n ≠ 0 := by
    rw [Nat.shiftLeft_eq]
    positivity
  rw [Nat.log2_eq_iff some, Nat.shiftLeft_eq, Nat.pow_add, Nat.add_right_comm, Nat.pow_add]
  constructor
  · exact Nat.mul_le_mul_right _ (Nat.log2_self_le pos.ne')
  · exact Nat.mul_lt_mul_of_pos_right Nat.lt_log2_self (by positivity)

theorem log2_div (a : Nat) {b : Nat} (pos : 0 < b) : a.log2 ≤ (a / b).log2 + b.log2 + 1 := by
  rcases Nat.eq_zero_or_pos a with rfl | some
  · simp
  · have quotient : a / b < 2 ^ ((a / b).log2 + 1) := Nat.lt_log2_self
    have divisor : b < 2 ^ (b.log2 + 1) := Nat.lt_log2_self
    have product : a < 2 ^ ((a / b).log2 + b.log2 + 2) := by
      calc a < (a / b + 1) * b := by
            rw [Nat.mul_comm]
            exact Nat.lt_mul_div_succ a pos
        _ ≤ 2 ^ ((a / b).log2 + 1) * 2 ^ (b.log2 + 1) := Nat.mul_le_mul quotient divisor.le
        _ = 2 ^ ((a / b).log2 + b.log2 + 2) := by
            rw [← Nat.pow_add]
            congr 1
            omega
    have := (Nat.log2_lt some.ne').mpr product
    omega

theorem div_roundedFrom :
    RoundedFrom (m₁ * 2 ^ e₁ / (m₂ * 2 ^ e₂)) (UnpackedFloat.div Format.binary64
      (.finite .positive m₁ e₁ pos₁) (.finite .positive m₂ e₂ pos₂)) := by
  simp only [UnpackedFloat.div, UnpackedFloat.divCore]
  generalize target : Format.binary64.targetExponent
    (totalExponent m₁ e₁ - totalExponent m₂ e₂) = t
  have lower : t = max (m₁.log2 + 1 + e₁ - (m₂.log2 + 1 + e₂) - 53) (-1074) := target.symm
  generalize shift : (e₁ - e₂ - min (e₁ - e₂) t).toNat = n
  have shifted : (n : Int) = e₁ - e₂ - min (e₁ - e₂) t := by omega
  have log : (m₁ <<< n).log2 = m₁.log2 + n := log2_shiftLeft pos₁ n
  have digits := log2_div (m₁ <<< n) pos₂
  have fine : min (e₁ - e₂) t ≤
      Format.binary64.targetExponent (totalExponent (m₁ <<< n / m₂) (min (e₁ - e₂) t)) := by
    have target : Format.binary64.targetExponent
        (totalExponent (m₁ <<< n / m₂) (min (e₁ - e₂) t)) =
          max ((m₁ <<< n / m₂).log2 + 1 + min (e₁ - e₂) t - 53) (-1074) := rfl
    rw [target]
    omega
  apply RoundedFrom.intro (represents_quotient (m₁ <<< n) pos₂) fine
  have power : (2 : ℚ) ^ n * 2 ^ min (e₁ - e₂) t = 2 ^ e₁ / 2 ^ e₂ := by
    rw [← zpow_natCast, shifted, ← zpow_add₀ two_ne_zero, ← zpow_sub₀ two_ne_zero]
    congr 1
    omega
  rw [Nat.shiftLeft_eq, Nat.cast_mul, Nat.cast_pow, Nat.cast_ofNat]
  calc (m₁ * 2 ^ n : ℚ) / m₂ * 2 ^ min (e₁ - e₂) t
      = m₁ / m₂ * (2 ^ n * 2 ^ min (e₁ - e₂) t) := by ring
    _ = m₁ / m₂ * (2 ^ e₁ / 2 ^ e₂) := by rw [power]
    _ = m₁ * 2 ^ e₁ / (m₂ * 2 ^ e₂) := div_mul_div_comm ..

end

end Provision.Number
