import Provision.Number.Numeral
import Provision.Proofs.DoubleBits

/-!
# Decimals that are read as doubles

- `ofScientific_eq`: a decimal is read as the double that it rounds to, be it through a table of
  powers of ten, where that is exact, or by one division.
- `isFinite_neg`: the opposite of a finite double is finite.
-/

namespace Provision.Number

open Float.Model (Format UnpackedFloat totalExponent)
open Float.Model.UnpackedFloat (Accuracy ExtendedMantissa Sign packComponents)

/-! ## Decimals that are computed -/

theorem half_least : (2 : ℚ) ^ (-1075 : Int) = 1 / 2 * 2 ^ (-1074 : Int) := by
  rw [show (-1075 : Int) = -1 + -1074 from rfl, zpow_add₀ two_ne_zero]
  norm_num

theorem Canonical.least_le {m : Nat} {e : Int} (canonical : Canonical m e) :
    (2 : ℚ) ^ (-1075 : Int) ≤ 1 / 2 * 2 ^ e := by
  have least : (2 : ℚ) ^ (-1074 : Int) ≤ 2 ^ e := zpow_le_zpow_right₀ one_le_two canonical.least
  rw [half_least]
  linarith

theorem Canonical.most_le {m : Nat} {e : Int} (canonical : Canonical m e) :
    (2 : ℚ) ^ e ≤ 2 ^ (971 : Int) := zpow_le_zpow_right₀ one_le_two canonical.most

section
variable {m : Nat} {e : Int} {q : ℚ} (canonical : Canonical m e) (rounds : RoundsTo m e q)
include canonical rounds

theorem RoundsTo.above : (2 : ℚ) ^ (-1075 : Int) < q := by
  have unit : (0 : ℚ) < 2 ^ e := by positivity
  have some : (1 : ℚ) ≤ m := by exact_mod_cast canonical.pos
  have room := roomBelow_le m e
  have least := canonical.least_le
  by_cases odd : m % 2 = 1
  · have strict := (rounds.even odd).1
    nlinarith
  · have more : (2 : ℚ) ≤ m := by
      have := canonical.pos
      exact_mod_cast (by omega : 2 ≤ m)
    have low := rounds.low
    nlinarith

theorem RoundsTo.below : q < 2 ^ (1024 : Int) := by
  have unit : (0 : ℚ) < 2 ^ e := by positivity
  have small : (m : ℚ) + 1 ≤ 2 ^ (53 : Int) := by exact_mod_cast canonical.small
  have most := canonical.most_le
  have split : (2 : ℚ) ^ (1024 : Int) = 2 ^ (53 : Int) * 2 ^ (971 : Int) := by
    rw [← zpow_add₀ two_ne_zero]
    rfl
  have high := rounds.high
  rw [split]
  calc q ≤ (m + 1 / 2) * 2 ^ e := high
    _ < 2 ^ (53 : Int) * 2 ^ e := mul_lt_mul_of_pos_right (by linarith) unit
    _ ≤ 2 ^ (53 : Int) * 2 ^ (971 : Int) := mul_le_mul_of_nonneg_left most (by positivity)

end

section
variable {S m : Nat} {E e : Int}

theorem decimal_huge (pos : 0 < S) (large : 2048 ≤ E) : (2 : ℚ) ^ (1024 : Int) ≤ S * 10 ^ E := by
  have one : (1 : ℚ) ≤ S := by exact_mod_cast pos
  calc (2 : ℚ) ^ (1024 : Int) ≤ 2 ^ E := zpow_le_zpow_right₀ one_le_two (by omega)
    _ ≤ 10 ^ E := zpow_le_zpow_left₀ (by omega) (by norm_num) (by norm_num)
    _ ≤ S * 10 ^ E := le_mul_of_one_le_left (by positivity) one

theorem decimal_tiny (small : E < -(2048 + S.log2 : Int)) :
    (S : ℚ) * 10 ^ E < 2 ^ (-1075 : Int) := by
  have digits : (S : ℚ) ≤ 2 ^ (S.log2 + 1 : Int) := by
    exact_mod_cast (@Nat.lt_log2_self S).le
  have power : (10 : ℚ) ^ E ≤ 2 ^ E := by
    have ten := @zpow_of_nonpos 10 E (by omega)
    have two := @zpow_of_nonpos 2 E (by omega)
    push_cast at ten two
    rw [ten, two]
    apply inv_anti₀ (by positivity)
    exact pow_le_pow_left₀ (by norm_num) (by norm_num) _
  calc (S : ℚ) * 10 ^ E ≤ 2 ^ (S.log2 + 1 : Int) * 2 ^ E :=
        mul_le_mul digits power (by positivity) (by positivity)
    _ = 2 ^ (S.log2 + 1 + E : Int) := (zpow_add₀ two_ne_zero ..).symm
    _ < 2 ^ (-1075 : Int) := zpow_lt_zpow_right₀ one_lt_two (by omega)

/-- Where the powers of ten are computed, a decimal is the result of one rounding. -/
theorem ofScientific_roundedFrom (pos : 0 < S) (large : E ≤ 2048)
    (small : -(2048 + S.log2 : Int) ≤ E) :
    RoundedFrom (S * 10 ^ E) (UnpackedFloat.ofScientific Format.binary64 S E) := by
  have bits : (2 : Int) ^ Format.binary64.exponentBits = 2048 := rfl
  unfold UnpackedFloat.ofScientific
  rw [dif_neg pos.ne', if_neg (by omega), if_neg (by omega)]
  split
  · rename_i whole
    have power := zpow_of_nonneg 10 whole
    have enough : 52 ≤ (S <<< Format.binary64.mantissaBits * 10 ^ E.toNat).log2 := by
      have ten : 1 ≤ 10 ^ E.toNat := Nat.pow_pos (by decide)
      have product := Nat.mul_le_mul (Nat.mul_le_mul_right (2 ^ 53) pos) ten
      have shifted : S <<< Format.binary64.mantissaBits = S * 2 ^ 53 := Nat.shiftLeft_eq ..
      rw [shifted, Nat.le_log2 (by omega)]
      omega
    have shifted : ((S <<< Format.binary64.mantissaBits : Nat) : ℚ) *
        2 ^ (-(Format.binary64.mantissaBits : Int)) = S := by
      have bits : Format.binary64.mantissaBits = 53 := rfl
      rw [bits, Nat.shiftLeft_eq]
      push_cast
      rw [zpow_neg, zpow_ofNat]
      field_simp
      norm_num
    have some : 0 < S <<< Format.binary64.mantissaBits := by
      simpa [Nat.pos_iff_ne_zero] using pos.ne'
    have product := @mul_roundedFrom (S <<< Format.binary64.mantissaBits) (10 ^ E.toNat)
      (-Format.binary64.mantissaBits) 0 some (Nat.pow_pos (by decide)) (Or.inl enough)
    rw [shifted, zpow_zero, mul_one, ← power] at product
    exact product
  · have power := @zpow_of_nonpos 10 E (by omega)
    have quotient := @div_roundedFrom S (10 ^ (-E).toNat) 0 0 pos (Nat.pow_pos (by decide))
    rw [zpow_zero, mul_one, mul_one, div_eq_mul_inv, ← power] at quotient
    exact quotient

variable (canonical : Canonical m e) (rounds : RoundsTo m e (S * 10 ^ E))
include canonical rounds

theorem significand_pos : 0 < S := by
  rcases Nat.eq_zero_or_pos S with rfl | pos
  · have above := rounds.above canonical
    rw [Nat.cast_zero, zero_mul] at above
    exact absurd above (not_lt.mpr (by positivity))
  · exact pos

/-- What rounds to a double has an exponent that is computed. -/
theorem scale_bounds : E ≤ 2048 ∧ -(2048 + S.log2 : Int) ≤ E := by
  have pos := significand_pos canonical rounds
  constructor
  · by_contra beyond
    exact absurd (rounds.below canonical) (not_lt.mpr (decimal_huge pos (by omega)))
  · by_contra beyond
    exact absurd (rounds.above canonical) (decimal_tiny (by omega)).not_gt

end

/-! ## Whole numbers and powers of ten that are doubles -/

theorem RoundsTo.self (m : Nat) (e : Int) : RoundsTo m e (m * 2 ^ e) := by
  have unit : (0 : ℚ) < 2 ^ e := by positivity
  have room := roomBelow_pos m e
  refine ⟨?_, ?_, fun _ => ⟨?_, ?_⟩⟩ <;> nlinarith

/-- A whole number that is a double is converted to it. -/
theorem ofNat_eq {S m : Nat} {e : Int} (canonical : Canonical m e) (value : (m : ℚ) * 2 ^ e = S) :
    UnpackedFloat.ofNat Format.binary64 S = .finite .positive m e canonical.pos := by
  have unit : (0 : ℚ) < 2 ^ e := by positivity
  have pos : 0 < S := by
    have : (0 : ℚ) < m := by exact_mod_cast canonical.pos
    have : (0 : ℚ) < S := by
      rw [← value]
      positivity
    exact_mod_cast this
  have above : compare (S : Int) 0 = .gt := Int.compare_eq_gt.mpr (by omega)
  simp only [UnpackedFloat.ofNat, UnpackedFloat.ofInt, UnpackedFloat.normalize, above,
    Int.toNat_natCast, UnpackedFloat.round, UnpackedFloat.decreaseExponent]
  have target : Format.binary64.targetExponent (totalExponent S 0) =
      max (S.log2 + 1 + (0 : Int) - 53) (-1074) := rfl
  rw [target]
  generalize shift : (0 - max (S.log2 + 1 + (0 : Int) - 53) (-1074)).toNat = n
  have log := log2_shiftLeft pos n
  have exact : Represents (.ofMantissaAndAccuracy (S <<< n) .exact) (S <<< n : Nat) := rfl
  have fine : 0 - (n : Int) ≤
      Format.binary64.targetExponent (totalExponent (S <<< n) (0 - n)) := by
    have target : Format.binary64.targetExponent (totalExponent (S <<< n) (0 - n)) =
        max ((S <<< n).log2 + 1 + (0 - (n : Int)) - 53) (-1074) := rfl
    rw [target]
    omega
  apply roundWithAccuracy_eq exact fine canonical _ .positive
  have back : ((S <<< n : Nat) : ℚ) * 2 ^ (0 - (n : Int)) = S := by
    rw [Nat.shiftLeft_eq, Nat.cast_mul, Nat.cast_pow, Nat.cast_ofNat, Int.zero_sub, zpow_neg,
      zpow_natCast]
    field_simp
  rw [back, ← value]
  exact .self m e

theorem full_of_small {S : Nat} (pos : 0 < S) (small : S < 2 ^ 53) :
    2 ^ 52 ≤ S <<< (52 - S.log2) ∧ S <<< (52 - S.log2) < 2 ^ 53 := by
  have short : S.log2 < 53 := (Nat.log2_lt pos.ne').mpr small
  have log := log2_shiftLeft pos (52 - S.log2)
  have some : S <<< (52 - S.log2) ≠ 0 := by
    rw [Nat.shiftLeft_eq]
    positivity
  have full : (S <<< (52 - S.log2)).log2 = 52 := by omega
  exact (Nat.log2_eq_iff some).mp full

theorem canonical_of_small {S : Nat} (pos : 0 < S) (small : S < 2 ^ 53) :
    Canonical (S <<< (52 - S.log2)) (S.log2 - 52) := by
  have short : S.log2 < 53 := (Nat.log2_lt pos.ne').mpr small
  obtain ⟨full, fits⟩ := full_of_small pos small
  exact ⟨by omega, fits, by omega, by omega, Or.inl full⟩

theorem value_of_small {S : Nat} (pos : 0 < S) (small : S < 2 ^ 53) :
    ((S <<< (52 - S.log2) : Nat) : ℚ) * 2 ^ (S.log2 - 52 : Int) = S := by
  have short : S.log2 < 53 := (Nat.log2_lt pos.ne').mpr small
  have exponent : (S.log2 - 52 : Int) = -((52 - S.log2 : Nat) : Int) := by omega
  rw [exponent, Nat.shiftLeft_eq, Nat.cast_mul, Nat.cast_pow, Nat.cast_ofNat, zpow_neg,
    zpow_natCast]
  field_simp

theorem unpack_ofModel_pack {m : Nat} {e : Int} (canonical : Canonical m e) (s : Sign) :
    (Float.ofModel (.pack (.finite s m e canonical.pos))).toModel.unpack =
      .finite s m e canonical.pos := unpack_pack canonical s

/-- The power of ten is a double, and in full. -/
def isPowerOfTen (k : Nat) : UnpackedFloat → Bool
  | .finite .positive m e _ =>
    Nat.pow 2 52 ≤ m && m * Nat.pow 2 e.toNat == Nat.pow 10 k * Nat.pow 2 (-e).toNat
  | _ => false

theorem isPowerOfTen_powersOfTen : ∀ k, ∀ h : k < Float.exactlyRepresentablePowersOfTen.size,
    isPowerOfTen k Float.exactlyRepresentablePowersOfTen[k].toModel.unpack = true := by
  decide +kernel

theorem isPowerOfTen_elim {k : Nat} {u : UnpackedFloat} (h : isPowerOfTen k u = true) :
    ∃ m e pos, u = .finite .positive m e pos ∧ 2 ^ 52 ≤ m ∧ (m : ℚ) * 2 ^ e = 10 ^ k := by
  match u, h with
  | .finite .positive m e pos, h =>
    simp only [isPowerOfTen, Bool.and_eq_true, decide_eq_true_eq, beq_iff_eq] at h
    refine ⟨m, e, pos, rfl, h.1, ?_⟩
    have value : (m : ℚ) * 2 ^ e.toNat = 10 ^ k * 2 ^ (-e).toNat := by exact_mod_cast h.2
    have exponent : e = (e.toNat : Int) - ((-e).toNat : Int) := by omega
    rw [exponent, zpow_sub₀ two_ne_zero, zpow_natCast, zpow_natCast, ← mul_div_assoc, value]
    field_simp

theorem toFloat_eq {S m : Nat} {e : Int} (small : S < 2 ^ 53) (canonical : Canonical m e)
    (value : (m : ℚ) * 2 ^ e = S) :
    S.toUInt64.toFloat = .ofModel (.pack (.finite .positive m e canonical.pos)) := by
  have same : S.toUInt64.toNat = S := UInt64.toNat_ofNat_of_lt' (by
    have : UInt64.size = 2 ^ 64 := rfl
    omega)
  have converted : S.toUInt64.toFloat =
      .ofModel (.pack (UnpackedFloat.ofNat Format.binary64 S.toUInt64.toNat)) := rfl
  rw [converted, same, ofNat_eq canonical value]

theorem unpack_toFloat {S : Nat} (pos : 0 < S) (small : S < 2 ^ 53) :
    S.toUInt64.toFloat.toModel.unpack =
      .finite .positive (S <<< (52 - S.log2)) (S.log2 - 52) (canonical_of_small pos small).pos := by
  rw [toFloat_eq small (canonical_of_small pos small) (value_of_small pos small)]
  exact unpack_ofModel_pack (canonical_of_small pos small) .positive

section
variable {S k : Nat} (pos : 0 < S) (small : S < 2 ^ 53)
  (bound : k < Float.exactlyRepresentablePowersOfTen.size)
include pos small

/-- A whole number and a power of ten that are doubles have a product that is rounded once. -/
theorem toFloat_mul_powerOfTen : ∃ u, RoundedFrom (S * 10 ^ (k : Int)) u ∧
    S.toUInt64.toFloat * Float.exactlyRepresentablePowersOfTen[k] = .ofModel (.pack u) := by
  obtain ⟨m, e, some, ten, full₂, power⟩ := isPowerOfTen_elim (isPowerOfTen_powersOfTen k bound)
  have full₁ := (full_of_small pos small).1
  have large : 2 ^ 52 * 2 ^ 52 ≤ S <<< (52 - S.log2) * m := Nat.mul_le_mul full₁ full₂
  have enough : 52 ≤ (S <<< (52 - S.log2) * m).log2 := by
    rw [Nat.le_log2 (by omega)]
    omega
  have whole := (canonical_of_small pos small).pos
  have product := @mul_roundedFrom _ _ (S.log2 - 52) e whole some (Or.inl enough)
  rw [value_of_small pos small, power, ← zpow_natCast] at product
  refine ⟨_, product, ?_⟩
  have multiplied : S.toUInt64.toFloat * Float.exactlyRepresentablePowersOfTen[k] =
      .ofModel (.pack (UnpackedFloat.mul Format.binary64 S.toUInt64.toFloat.toModel.unpack
        Float.exactlyRepresentablePowersOfTen[k].toModel.unpack)) := rfl
  rw [multiplied, unpack_toFloat pos small, ten]

theorem toFloat_div_powerOfTen : ∃ u, RoundedFrom (S * 10 ^ (-k : Int)) u ∧
    S.toUInt64.toFloat / Float.exactlyRepresentablePowersOfTen[k] = .ofModel (.pack u) := by
  obtain ⟨m, e, some, ten, -, power⟩ := isPowerOfTen_elim (isPowerOfTen_powersOfTen k bound)
  have quotient := @div_roundedFrom _ _ (S.log2 - 52) e (canonical_of_small pos small).pos some
  rw [value_of_small pos small, power, div_eq_mul_inv, ← zpow_natCast, ← zpow_neg] at quotient
  refine ⟨_, quotient, ?_⟩
  have divided : S.toUInt64.toFloat / Float.exactlyRepresentablePowersOfTen[k] =
      .ofModel (.pack (UnpackedFloat.div Format.binary64 S.toUInt64.toFloat.toModel.unpack
        Float.exactlyRepresentablePowersOfTen[k].toModel.unpack)) := rfl
  rw [divided, unpack_toFloat pos small, ten]

end

/-- The exponent that a magnitude and its sign stand for. -/
def signedExponent (negative : Bool) (k : Nat) : Int := if negative then -(k : Int) else k

/-- The number that a numeral writes, its sign apart. -/
def Numeral.value (n : Numeral) : ℚ := n.significand * 10 ^ n.scale

theorem Numeral.signedExponent_scale (n : Numeral) :
    signedExponent (n.scale < 0) n.scale.natAbs = n.scale := by
  unfold signedExponent
  by_cases below : n.scale < 0
  · rw [decide_eq_true below, if_pos rfl]
    omega
  · rw [decide_eq_false below, if_neg Bool.false_ne_true]
    omega

/-- A decimal is the result of one rounding, be it looked up or computed. -/
theorem exists_roundedFrom {S k : Nat} {s : Bool} (pos : 0 < S) (large : signedExponent s k ≤ 2048)
    (small : -(2048 + S.log2 : Int) ≤ signedExponent s k) :
    ∃ u, RoundedFrom (S * 10 ^ signedExponent s k) u ∧
      Float.ofScientific S s k = .ofModel (.pack u) := by
  unfold Float.ofScientific
  split
  · rename_i exact
    have bound : k < Float.exactlyRepresentablePowersOfTen.size := by
      have : Float.exactlyRepresentablePowersOfTen.size = 23 := rfl
      omega
    cases s
    · exact toFloat_mul_powerOfTen pos exact.1 bound
    · exact toFloat_div_powerOfTen pos exact.1 bound
  · refine ⟨_, ofScientific_roundedFrom pos large small, ?_⟩
    cases s <;> rfl

/-- **Decimals.** A decimal is read as the double that it rounds to. -/
theorem ofScientific_eq {S k m : Nat} {s : Bool} {e : Int} (canonical : Canonical m e)
    (rounds : RoundsTo m e (S * 10 ^ signedExponent s k)) :
    Float.ofScientific S s k = .ofModel (.pack (.finite .positive m e canonical.pos)) := by
  obtain ⟨large, small⟩ := scale_bounds canonical rounds
  obtain ⟨u, rounded, read⟩ := exists_roundedFrom (significand_pos canonical rounds) large small
  rw [read, rounded.eq canonical rounds]

/-! ## Finite doubles -/

section
variable {u : UnpackedFloat}

/-- Zero, or a number with an exponent of a finite double. -/
def Bounded : UnpackedFloat → Prop
  | .zero _ => True
  | .finite _ _ e _ => e ≤ 971
  | _ => False

theorem isFinite_of_bounded (h : Bounded u) : (Float.ofModel (.pack u)).isFinite = true := by
  have finite : ∀ (s : Sign) (e : BitVec 11) (m : BitVec 52), e ≠ -1#11 →
      (UnpackedFloat.unpack Format.binary64
        (packComponents Format.binary64 s e m)).isFinite = true := by
    intro s e m bounded
    simp only [UnpackedFloat.unpack, UnpackedFloat.unpackMantissa_packComponents,
      UnpackedFloat.unpackExponent_packComponents, if_neg bounded]
    split
    · split <;> rfl
    · rfl
  change (UnpackedFloat.unpack Format.binary64
    (UnpackedFloat.pack Format.binary64 u)).isFinite = true
  match u, h with
  | .zero s, _ => exact finite s 0#11 0#52 (by decide)
  | .finite s m e pos, h =>
    have bias : (e + Format.binary64.exponentBias +
        Format.binary64.mantissaBitsWithoutImplicit).toNat + 1 < 2 ^ 11 := by
      have : Format.binary64.exponentBias = 1023 := rfl
      have : Format.binary64.mantissaBitsWithoutImplicit = 52 := rfl
      have : e ≤ 971 := h
      omega
    simp only [UnpackedFloat.pack]
    rw [if_neg (Nat.not_le.mpr bias)]
    split
    · exact finite s _ _ (ofNat_ne_largest bias)
    · exact finite s _ _ (by decide)

end

theorem Canonical.bounded {m : Nat} {e : Int} (canonical : Canonical m e) (s : Sign) :
    Bounded (.finite s m e canonical.pos) := canonical.most

theorem neg_eq {m : Nat} {e : Int} (canonical : Canonical m e) (s : Sign) :
    -(Float.ofModel (.pack (.finite s m e canonical.pos))) =
      .ofModel (.pack (.finite (-s) m e canonical.pos)) := by
  have negated : -(Float.ofModel (.pack (.finite s m e canonical.pos))) = .ofModel (.pack
      (Float.ofModel (.pack (.finite s m e canonical.pos))).toModel.unpack.neg) := rfl
  rw [negated, unpack_ofModel_pack canonical s]
  rfl

theorem isFinite_neg {x : Float} (h : x.isFinite = true) : (-x).isFinite = true := by
  obtain ⟨negative, m, e, decoded⟩ := ofFloat_of_isFinite h
  rcases eq_pack_of_ofFloat decoded with ⟨rfl, rfl⟩ | ⟨canonical, rfl⟩
  · cases negative <;> decide
  · rw [neg_eq canonical]
    exact isFinite_of_bounded (canonical.bounded _)

end Provision.Number
