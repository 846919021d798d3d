import Provision.Proofs.DecimalDoubles

/-!
# The nearest double

Every number that is not below zero has a double to which none is nearer: zero for what is too small
and infinity for what is too large. Products, quotients and decimals are that double of the exact
result, so that facts about them are facts about rounding a number once.

- `RoundedFrom.nearest`: what is rounded is the nearest double.
- `isNearest_product`, `isNearest_div`, `isNearest_ofScientific`: so are the results of the
  operations.
- `IsNearest.drift`: the nearest double is off by at most one more bit than it has.
- `Drift.error_le`: so are several roundings, each by little more.
-/

namespace Provision.Number

open Float.Model (Format UnpackedFloat totalExponent)
open Float.Model.UnpackedFloat (Accuracy ExtendedMantissa Sign shiftToTargetExponent
  shiftToExponent)

/-- The double that a number is rounded to, ties to even. -/
inductive Nearest (q : ℚ) : UnpackedFloat → Prop where
  | zero (tiny : q ≤ 2 ^ (-1075 : Int)) : Nearest q (.zero .positive)
  | finite {m : Nat} {e : Int} (canonical : Canonical m e) (rounds : RoundsTo m e q) :
    Nearest q (.finite .positive m e canonical.pos)
  | infinite (large : (2 ^ 53 - 1 / 2) * 2 ^ (971 : Int) ≤ q) : Nearest q (.infinity .positive)

/-! ## Rounding the mantissa -/

/-- In units of the last place `t` a number rounds to the whole number that is nearest. -/
theorem roundsTo_of_nearestWhole {n : Nat} {t : Int} {q : ℚ} (near : NearestWhole n (q / 2 ^ t))
    (lower : t = -1074 ∨ 2 ^ (t + 52) ≤ q) : RoundsTo n t q := by
  have unit : (0 : ℚ) < 2 ^ t := by positivity
  obtain ⟨low, high, even⟩ := near
  rw [le_div_iff₀ unit] at low
  rw [div_le_iff₀ unit] at high
  rw [lt_div_iff₀ unit, div_lt_iff₀ unit] at even
  -- A power of two has less room below, but the number does not lie below it.
  by_cases edge : n = 2 ^ 52 ∧ t ≠ -1074
  · have reached : (n : ℚ) * 2 ^ t ≤ q := by
      have power := lower.resolve_left edge.2
      rw [Int.add_comm, zpow_add₀ two_ne_zero] at power
      rw [edge.1]
      exact_mod_cast power
    have room : roomBelow n t = 1 / 4 := if_pos edge
    refine ⟨?_, high, fun odd => ?_⟩
    · rw [room]
      nlinarith
    · rw [edge.1] at odd
      norm_num at odd
  · have room : roomBelow n t = 1 / 2 := if_neg edge
    exact ⟨by rw [room]; exact low, high, by rw [room]; exact even⟩

/-! ## Carrying and packing -/

/-- The last step of rounding: a mantissa that was rounded up to a power of two is carried. -/
def carried (n : Nat) (t : Int) : UnpackedFloat :=
  let (em, e) := shiftToTargetExponent Format.binary64 n t .exact
  if h : em.mantissa = 0 then .zero .positive
  else .finite .positive em.mantissa e (Nat.pos_of_ne_zero h)

theorem carried_zero : carried 0 (-1074) = .zero .positive := rfl

theorem carried_own {n : Nat} {t : Int} (pos : 0 < n) (small : n < 2 ^ 53) (least : -1074 ≤ t)
    (full : 2 ^ 52 ≤ n ∨ t = -1074) : carried n t = .finite .positive n t pos := by
  simp only [carried, shift_own pos small least full, dif_neg pos.ne']

theorem carried_overflow {t : Int} (least : -1074 ≤ t) :
    carried (2 ^ 53) t = .finite .positive (2 ^ 52) (t + 1) (by decide) := by
  simp only [carried, shift_overflow least]
  rfl

/-- What is read back of a double that is packed into its bits. -/
def packed (u : UnpackedFloat) : UnpackedFloat :=
  UnpackedFloat.unpack Format.binary64 (UnpackedFloat.pack Format.binary64 u)

theorem packed_large {m : Nat} {e : Int} (pos : 0 < m) (large : 972 ≤ e) :
    packed (.finite .positive m e pos) = .infinity .positive := by
  have bias : 2 ^ Format.binary64.exponentBits ≤ (e + Format.binary64.exponentBias +
      Format.binary64.mantissaBitsWithoutImplicit).toNat + 1 := by
    have : 2 ^ Format.binary64.exponentBits = 2048 := rfl
    have : Format.binary64.exponentBias = 1023 := rfl
    have : Format.binary64.mantissaBitsWithoutImplicit = 52 := rfl
    omega
  simp only [packed, UnpackedFloat.pack, if_pos bias]
  rfl

section
variable {n : Nat} {t : Int} {q : ℚ} (near : NearestWhole n (q / 2 ^ t))
include near

theorem mantissa_bounds (upper : q < 2 ^ (t + 53)) (lower : t = -1074 ∨ 2 ^ (t + 52) ≤ q) :
    n ≤ 2 ^ 53 ∧ (2 ^ 52 ≤ n ∨ t = -1074) := by
  have unit : (0 : ℚ) < 2 ^ t := by positivity
  constructor
  · have top : q / 2 ^ t < 2 ^ 53 := by
      rw [div_lt_iff₀ unit]
      rw [Int.add_comm, zpow_add₀ two_ne_zero] at upper
      exact_mod_cast upper
    have below : (n : ℚ) < 2 ^ 53 + 1 := by linarith [near.low]
    exact Nat.lt_succ_iff.mp (by exact_mod_cast below)
  · refine lower.symm.imp (fun reached => ?_) id
    have bottom : (2 : ℚ) ^ 52 ≤ q / 2 ^ t := by
      rw [le_div_iff₀ unit]
      rw [Int.add_comm, zpow_add₀ two_ne_zero] at reached
      exact_mod_cast reached
    have above : (2 : ℚ) ^ 52 < n + 1 := by linarith [near.high]
    exact Nat.lt_succ_iff.mp (by exact_mod_cast above)

/-- A mantissa that keeps its place. -/
theorem nearest_own (least : -1074 ≤ t) (lower : t = -1074 ∨ 2 ^ (t + 52) ≤ q) (pos : 0 < n)
    (small : n < 2 ^ 53) (full : 2 ^ 52 ≤ n ∨ t = -1074) :
    Nearest q (packed (.finite .positive n t pos)) := by
  by_cases most : t ≤ 971
  · have canonical : Canonical n t := ⟨pos, small, least, most, full⟩
    rw [packed, unpack_pack canonical .positive]
    exact .finite canonical (roundsTo_of_nearestWhole near lower)
  · rw [packed_large pos (by omega)]
    have above : (2 : ℚ) ^ (971 : Int) ≤ 2 ^ (t - 1) := zpow_le_zpow_right₀ one_le_two (by omega)
    have last : (2 : ℚ) ^ (t + 52) = 2 ^ 53 * 2 ^ (t - 1) := by
      rw [← zpow_natCast, ← zpow_add₀ two_ne_zero]
      congr 1
      omega
    apply Nearest.infinite
    calc (2 ^ 53 - 1 / 2) * 2 ^ (971 : Int) ≤ (2 : ℚ) ^ 53 * 2 ^ (t - 1) := by
          apply mul_le_mul _ above (by positivity) (by positivity)
          norm_num
      _ = 2 ^ (t + 52) := last.symm
      _ ≤ q := lower.resolve_left (by omega)

/-- A mantissa that was rounded up to the next power of two moves one place up. -/
theorem nearest_moved (least : -1074 ≤ t) (upper : q < 2 ^ (t + 53)) (top : n = 2 ^ 53) :
    Nearest q (packed (.finite .positive (2 ^ 52) (t + 1) (by decide))) := by
  have unit : (0 : ℚ) < 2 ^ t := by positivity
  have low := near.low
  rw [top, le_div_iff₀ unit] at low
  push_cast at low
  rw [Int.add_comm, zpow_add₀ two_ne_zero] at upper
  norm_num at upper
  by_cases most : t ≤ 970
  · have canonical : Canonical (2 ^ 52) (t + 1) :=
      ⟨by decide, by decide, by omega, by omega, Or.inl le_rfl⟩
    have room : roomBelow (2 ^ 52) (t + 1) = 1 / 4 := if_pos ⟨rfl, by omega⟩
    rw [packed, unpack_pack canonical .positive]
    refine .finite canonical ⟨?_, ?_, fun odd => by norm_num at odd⟩
    · rw [room, zpow_add₀ two_ne_zero]
      push_cast
      linarith
    · rw [zpow_add₀ two_ne_zero]
      push_cast
      linarith
  · rw [packed_large (by decide) (by omega)]
    have above : (2 : ℚ) ^ (971 : Int) ≤ 2 ^ t := zpow_le_zpow_right₀ one_le_two (by omega)
    exact .infinite (le_trans (mul_le_mul_of_nonneg_left above (by norm_num)) low)

theorem nearest_carried (least : -1074 ≤ t) (upper : q < 2 ^ (t + 53))
    (lower : t = -1074 ∨ 2 ^ (t + 52) ≤ q) : Nearest q (packed (carried n t)) := by
  obtain ⟨bound, full⟩ := mantissa_bounds near upper lower
  rcases Nat.eq_zero_or_pos n with rfl | pos
  · have lowest : t = -1074 := full.resolve_left (by decide)
    have high := (roundsTo_of_nearestWhole near lower).high
    subst lowest
    rw [Nat.cast_zero, zero_add, ← half_least] at high
    rw [carried_zero]
    exact .zero high
  rcases Nat.lt_or_eq_of_le bound with small | top
  · rw [carried_own pos small least full]
    exact nearest_own near least lower pos small full
  · rw [top, carried_overflow least]
    exact nearest_moved near least upper top

end

/-- **Rounding.** What is rounded from a number is its nearest double. -/
theorem RoundedFrom.nearest {q : ℚ} {u : UnpackedFloat} (h : RoundedFrom q u) :
    Nearest q (packed u) := by
  cases h with
  | @intro M X accuracy y h fine value =>
    rw [← value]
    obtain ⟨upper, lower⟩ := target_bounds h fine
    have least : -1074 ≤ Format.binary64.targetExponent (totalExponent M X) := le_max_right _ _
    have near := (h.shiftTo fine).nearestWhole
    have stages : UnpackedFloat.roundWithAccuracy Format.binary64 .positive M X accuracy =
        carried (ExtendedMantissa.ofMantissaAndAccuracy M accuracy >>>
          (Format.binary64.targetExponent (totalExponent M X) - X).toNat).roundedMantissa
          (X + (Format.binary64.targetExponent (totalExponent M X) - X).toNat) := rfl
    rw [stages]
    generalize Format.binary64.targetExponent (totalExponent M X) = t at *
    have exponent : X + ((t - X).toNat : Int) = t := by omega
    rw [exponent]
    exact nearest_carried near least upper lower

/-! ## Doubles without a sign -/

/-- Zero, a positive number or positive infinity. -/
def isUnsigned : UnpackedFloat → Bool
  | .infinity .positive => true
  | .zero .positive => true
  | .finite .positive .. => true
  | _ => false

/-- Zero, a positive number or positive infinity. -/
def Unsigned (x : Float) : Prop := isUnsigned x.toModel.unpack = true

namespace Unsigned

theorem not_neg {x : Float} (h : Unsigned x) : ¬ x < 0 := by
  have below : x < 0 ↔ x.toModel.unpack.lt (.zero .positive) = true := by
    have zero : (0 : Float).toModel.unpack = .zero .positive := rfl
    rw [← zero]
    exact decide_eq_true_iff
  rw [below]
  unfold Unsigned at h
  match x.toModel.unpack, h with
  | .infinity .positive, _ => decide
  | .zero .positive, _ => decide
  | .finite .positive .., _ => simp [UnpackedFloat.lt, UnpackedFloat.compare]

theorem unpack_of_infinite {x : Float} (h : Unsigned x) (unbounded : x.isFinite = false) :
    x.toModel.unpack = .infinity .positive := by
  change x.toModel.unpack.isFinite = false at unbounded
  unfold Unsigned at h
  revert unbounded
  match x.toModel.unpack, h with
  | .infinity .positive, _ => exact fun _ => rfl
  | .zero .positive, _ => exact fun finite => nomatch finite
  | .finite .positive .., _ => exact fun finite => nomatch finite

end Unsigned

/-! ## Operations -/

/-- The number that a double is; infinities and what is no number count as zero. -/
def valueOf (x : Float) : ℚ :=
  match x.toModel.unpack with
  | .finite .positive m e _ => m * 2 ^ e
  | .finite .negative m e _ => -(m * 2 ^ e)
  | _ => 0

/-- The double is the nearest one to `q`. -/
def IsNearest (x : Float) (q : ℚ) : Prop := Nearest q x.toModel.unpack

/-- A positive double with all the bits of its mantissa, that is `c`. -/
def IsFull (x : Float) (c : ℚ) : Prop :=
  ∃ m e pos, x.toModel.unpack = .finite .positive m e pos ∧ 2 ^ 52 ≤ m ∧ (m : ℚ) * 2 ^ e = c

theorem IsNearest.unsigned {x : Float} {q : ℚ} (h : IsNearest x q) : Unsigned x := by
  unfold IsNearest at h
  unfold Unsigned
  generalize x.toModel.unpack = u at *
  cases h <;> rfl

theorem IsFull.valueOf_eq {x : Float} {c : ℚ} (h : IsFull x c) : valueOf x = c := by
  obtain ⟨m, e, pos, decoded, -, rfl⟩ := h
  rw [valueOf, decoded]

theorem IsFull.isFinite {x : Float} {c : ℚ} (h : IsFull x c) : x.isFinite = true := by
  obtain ⟨m, e, pos, decoded, -, -⟩ := h
  change x.toModel.unpack.isFinite = true
  rw [decoded]
  rfl

theorem IsFull.unsigned {x : Float} {c : ℚ} (h : IsFull x c) : Unsigned x := by
  obtain ⟨m, e, pos, decoded, -, -⟩ := h
  unfold Unsigned
  rw [decoded]
  rfl

/-- A number of 53 bits, doubled some times, is a double. -/
theorem isFull_ofNat {k j : Nat} (pos : 0 < k) (small : k < 2 ^ 53) (bound : j ≤ 971) :
    IsFull (Float.ofNat (k * 2 ^ j)) ((k * 2 ^ j : Nat) : ℚ) := by
  have short : k.log2 < 53 := (Nat.log2_lt pos.ne').mpr small
  obtain ⟨full, fits⟩ := full_of_small pos small
  have canonical : Canonical (k <<< (52 - k.log2)) (k.log2 - 52 + j) :=
    ⟨by omega, fits, by omega, by omega, Or.inl full⟩
  have value : ((k <<< (52 - k.log2) : Nat) : ℚ) * 2 ^ (k.log2 - 52 + j : Int) =
      (k * 2 ^ j : Nat) := by
    rw [zpow_add₀ two_ne_zero, ← mul_assoc, value_of_small pos small, zpow_natCast]
    push_cast
    rfl
  have read : Float.ofNat (k * 2 ^ j) = .ofModel (.pack
      (.finite .positive (k <<< (52 - k.log2)) (k.log2 - 52 + j) canonical.pos)) := by
    apply ofScientific_eq canonical
    rw [signedExponent, if_neg Bool.false_ne_true, Nat.cast_zero, zpow_zero, mul_one, ← value]
    exact .self ..
  refine ⟨_, _, canonical.pos, ?_, full, value⟩
  rw [read, unpack_ofModel_pack canonical]

/-- A finite double is a zero, or made up of a mantissa and an exponent that are in range. -/
theorem unpack_of_isFinite {x : Float} (finite : x.isFinite = true) :
    (∃ s, x.toModel.unpack = .zero s) ∨
      ∃ s m e, ∃ canonical : Canonical m e, x.toModel.unpack = .finite s m e canonical.pos := by
  obtain ⟨negative, m, e, decoded⟩ := ofFloat_of_isFinite finite
  rcases eq_pack_of_ofFloat decoded with ⟨-, rfl⟩ | ⟨canonical, rfl⟩
  · left
    refine ⟨signOf negative, ?_⟩
    cases negative <;> rfl
  · exact Or.inr ⟨_, m, e, canonical, unpack_ofModel_pack canonical _⟩

theorem nearest_zero : Nearest 0 (.zero .positive) := .zero (by positivity)

theorem packed_infinity : packed (.infinity .positive) = .infinity .positive := rfl

section
variable {x y : Float} {u v : UnpackedFloat} (hx : x.toModel.unpack = u)
  (hy : y.toModel.unpack = v)
include hx hy

theorem unpack_mul : (x * y).toModel.unpack = packed (.mul Format.binary64 u v) := by
  rw [← hx, ← hy]
  rfl

theorem unpack_div : (x / y).toModel.unpack = packed (.div Format.binary64 u v) := by
  rw [← hx, ← hy]
  rfl

end

/-- Infinity absorbs all numbers in full. -/
theorem IsFull.infinite_ops {x y : Float} {c : ℚ} (hx : x.toModel.unpack = .infinity .positive)
    (hy : IsFull y c) : (x * y).toModel.unpack = .infinity .positive ∧
      (y * x).toModel.unpack = .infinity .positive ∧
      (x / y).toModel.unpack = .infinity .positive := by
  obtain ⟨m, e, pos, decoded, -, -⟩ := hy
  refine ⟨?_, ?_, ?_⟩
  · rw [unpack_mul hx decoded]
    exact packed_infinity
  · rw [unpack_mul decoded hx]
    exact packed_infinity
  · rw [unpack_div hx decoded]
    exact packed_infinity

theorem Unsigned.unpack_cases {x : Float} (hx : Unsigned x) (finite : x.isFinite = true) :
    x.toModel.unpack = .zero .positive ∨ ∃ m e, ∃ canonical : Canonical m e,
      x.toModel.unpack = .finite .positive m e canonical.pos := by
  unfold Unsigned at hx
  rcases unpack_of_isFinite finite with ⟨s, zero⟩ | ⟨s, m, e, canonical, decoded⟩
  · rw [zero] at hx ⊢
    cases s with
    | positive => exact Or.inl rfl
    | negative => cases hx
  · rw [decoded] at hx ⊢
    cases s with
    | positive => exact Or.inr ⟨m, e, canonical, rfl⟩
    | negative => cases hx

/-- A product is rounded once: either a factor has all its bits, or there is no lower place than
theirs to be cut off. -/
theorem isNearest_product {x y : Float} (hx : Unsigned x) (hy : Unsigned y)
    (finite : x.isFinite = true) (finite' : y.isFinite = true) :
    IsNearest (x * y) (valueOf x * valueOf y) := by
  unfold IsNearest valueOf
  rcases hx.unpack_cases finite with zero | ⟨m, e, canonical, decoded⟩ <;>
    rcases hy.unpack_cases finite' with zero' | ⟨m', e', canonical', decoded'⟩
  · rw [unpack_mul zero zero', zero, zero_mul]
    exact nearest_zero
  · have none : UnpackedFloat.mul Format.binary64 (.zero .positive)
      (.finite .positive m' e' canonical'.pos) = .zero .positive := rfl
    rw [unpack_mul zero decoded', none, zero, zero_mul]
    exact nearest_zero
  · have none : UnpackedFloat.mul Format.binary64 (.finite .positive m e canonical.pos)
      (.zero .positive) = .zero .positive := rfl
    rw [unpack_mul decoded zero', none, zero', mul_zero]
    exact nearest_zero
  · rw [unpack_mul decoded decoded', decoded, decoded']
    refine (mul_roundedFrom ?_).nearest
    have some := Nat.mul_pos canonical.pos canonical'.pos
    rw [Nat.le_log2 some.ne']
    rcases canonical.full with full | lowest
    · exact Or.inl (Nat.le_trans full (Nat.le_mul_of_pos_right m canonical'.pos))
    rcases canonical'.full with full' | lowest'
    · exact Or.inl (Nat.le_trans full' (Nat.le_mul_of_pos_left m' canonical.pos))
    · omega

section
variable {x y : Float} {c : ℚ} (hx : Unsigned x) (finite : x.isFinite = true) (hy : IsFull y c)
include hx finite hy

theorem isNearest_mul : IsNearest (x * y) (valueOf x * c) := by
  rw [← hy.valueOf_eq]
  exact isNearest_product hx hy.unsigned finite hy.isFinite

theorem isNearest_div : IsNearest (x / y) (valueOf x / c) := by
  obtain ⟨m, e, pos, decoded, -, rfl⟩ := hy
  change x.toModel.unpack.isFinite = true at finite
  unfold Unsigned at hx
  unfold IsNearest valueOf
  rw [unpack_div rfl decoded]
  match x.toModel.unpack, hx, finite with
  | .zero .positive, _, _ =>
    have zero : UnpackedFloat.div Format.binary64 (.zero .positive) (.finite .positive m e pos) =
      .zero .positive := rfl
    rw [zero, zero_div]
    exact nearest_zero
  | .finite .positive m₁ e₁ pos₁, _, _ => exact div_roundedFrom.nearest

end

theorem infinite_of_large {q : ℚ} (large : 2 ^ (1024 : Int) ≤ q) :
    Nearest q (.infinity .positive) := by
  have split : (2 : ℚ) ^ (1024 : Int) = 2 ^ 53 * 2 ^ (971 : Int) := by
    rw [← zpow_natCast, ← zpow_add₀ two_ne_zero]
    rfl
  refine .infinite (le_trans ?_ large)
  rw [split]
  exact mul_le_mul_of_nonneg_right (by norm_num) (by positivity)

theorem ofScientific_slow {S k : Nat} (s : Bool) (h : 22 < k) :
    (Float.ofScientific S s k).toModel.unpack =
      packed (.ofScientific Format.binary64 S (signedExponent s k)) := by
  have slow : Float.ofScientific S s k =
      .ofModel (Float.Model.ofScientific S (if s then Int.negOfNat k else Int.ofNat k)) :=
    dif_neg (by omega)
  have signed : (if s then Int.negOfNat k else Int.ofNat k) = signedExponent s k := by
    cases s with
    | false => rfl
    | true => exact Int.negOfNat_eq
  rw [slow, signed]
  rfl

theorem ofScientific_zero (s : Bool) (k : Nat) :
    (Float.ofScientific 0 s k).toModel.unpack = .zero .positive := by
  have table : ∀ s, ∀ k : Fin 23, Float.ofScientific 0 s k = 0 := by decide +kernel
  by_cases fast : k < 23
  · rw [table s ⟨k, fast⟩]
    rfl
  · have zero : UnpackedFloat.ofScientific Format.binary64 0 (signedExponent s k) =
      .zero .positive := rfl
    rw [ofScientific_slow s (by omega), zero]
    rfl

/-- **Decimals.** Every decimal is read as its nearest double. -/
theorem isNearest_ofScientific (S : Nat) (s : Bool) (k : Nat) :
    IsNearest (Float.ofScientific S s k) (S * 10 ^ signedExponent s k) := by
  unfold IsNearest
  have bits : (2 : Int) ^ Format.binary64.exponentBits = 2048 := rfl
  have size : signedExponent s k = k ∨ signedExponent s k = -(k : Int) := by
    cases s
    · exact Or.inl rfl
    · exact Or.inr rfl
  rcases Nat.eq_zero_or_pos S with rfl | pos
  · rw [ofScientific_zero, Nat.cast_zero, zero_mul]
    exact nearest_zero
  rcases lt_or_ge 2048 (signedExponent s k) with large | large
  · rw [ofScientific_slow s (by omega), UnpackedFloat.ofScientific, dif_neg pos.ne',
      if_pos (by omega)]
    exact infinite_of_large (decimal_huge pos (by omega))
  rcases lt_or_ge (signedExponent s k) (-(2048 + S.log2 : Int)) with small | small
  · rw [ofScientific_slow s (by omega), UnpackedFloat.ofScientific, dif_neg pos.ne',
      if_neg (by omega), if_pos (by omega)]
    exact .zero (decimal_tiny small).le
  · obtain ⟨u, rounded, read⟩ := exists_roundedFrom pos large small
    rw [read]
    exact rounded.nearest

/-- A numeral without a sign is read as its nearest double. -/
theorem Numeral.isNearest_toFloat {n : Numeral} (unsigned : n.negative = false) :
    IsNearest n.toFloat n.value := by
  have magnitude := isNearest_ofScientific n.significand (n.scale < 0) n.scale.natAbs
  rw [n.signedExponent_scale] at magnitude
  rw [Numeral.toFloat, unsigned]
  exact magnitude

/-! ## How far the nearest double is off -/

section
variable {m : Nat} {e : Int} {q : ℚ} (rounds : RoundsTo m e q)
include rounds

theorem RoundsTo.error_le_half : |m * 2 ^ e - q| ≤ 1 / 2 * 2 ^ e := by
  have unit : (0 : ℚ) < 2 ^ e := by positivity
  have room := roomBelow_le m e
  have low := rounds.low
  have high := rounds.high
  rw [abs_le]
  constructor <;> nlinarith

/-- A mantissa with all its bits is off by at most one more bit. -/
theorem RoundsTo.error_le_relative (full : 2 ^ 52 ≤ m) (above : e ≠ -1074) :
    |m * 2 ^ e - q| ≤ q / 2 ^ 53 := by
  have unit : (0 : ℚ) < 2 ^ e := by positivity
  have half := rounds.error_le_half
  have low := rounds.low
  rcases Nat.lt_or_eq_of_le full with more | power
  · have digits : (2 : ℚ) ^ 52 + 1 ≤ m := by exact_mod_cast more
    have room := roomBelow_le m e
    have reached : 2 ^ 52 * 2 ^ e ≤ q := by nlinarith
    linarith
  · -- A power of two is nearest to less below it than above it.
    have room : roomBelow m e = 1 / 4 := if_pos ⟨power.symm, above⟩
    have high := rounds.high
    rw [room, ← power] at low
    rw [← power] at high ⊢
    push_cast at low high ⊢
    rw [abs_le]
    constructor <;> linarith

end

/-- What may become of a number in `j` roundings, each of which is off by at most one more bit. -/
structure Drift (j : Nat) (q a : ℚ) : Prop where
  low : q * (1 - 1 / 2 ^ 53) ^ j ≤ a
  high : a ≤ q * (1 + 1 / 2 ^ 53) ^ j

section
variable {x : Float} {q : ℚ} (h : IsNearest x q) (finite : x.isFinite = true)
include h finite

theorem IsNearest.lt_of_isFinite : q < 2 ^ (1024 : Int) := by
  change x.toModel.unpack.isFinite = true at finite
  unfold IsNearest at h
  revert finite
  generalize x.toModel.unpack = u at *
  intro finite
  cases h with
  | zero tiny => exact lt_of_le_of_lt tiny (zpow_lt_zpow_right₀ one_lt_two (by decide))
  | finite canonical rounds => exact rounds.below canonical
  | infinite => exact nomatch finite

variable (normal : 2 ^ (-1021 : Int) ≤ q)
include normal

/-- Above the numbers with less bits the nearest double has all of them. -/
theorem IsNearest.exists_full : ∃ m e pos, x.toModel.unpack = .finite .positive m e pos ∧
    2 ^ 52 ≤ m ∧ e ≠ -1074 ∧ RoundsTo m e q := by
  have least : (2 : ℚ) ^ (-1021 : Int) = 2 ^ 53 * 2 ^ (-1074 : Int) := by
    rw [← zpow_natCast, ← zpow_add₀ two_ne_zero]
    rfl
  have unit : (0 : ℚ) < 2 ^ (-1074 : Int) := by positivity
  change x.toModel.unpack.isFinite = true at finite
  unfold IsNearest at h
  revert finite
  generalize x.toModel.unpack = u at *
  intro finite
  cases h with
  | zero tiny =>
    rw [half_least] at tiny
    linarith
  | @finite m e canonical rounds =>
    have above : e ≠ -1074 := by
      rintro rfl
      have small : (m : ℚ) + 1 ≤ 2 ^ 53 := by exact_mod_cast canonical.small
      have high := rounds.high
      nlinarith
    exact ⟨m, e, canonical.pos, rfl, canonical.full.resolve_right above, above, rounds⟩
  | infinite => exact nomatch finite

theorem IsNearest.isFull : IsFull x (valueOf x) := by
  obtain ⟨m, e, pos, decoded, full, -, -⟩ := h.exists_full finite normal
  refine ⟨m, e, pos, decoded, full, ?_⟩
  rw [valueOf, decoded]

theorem IsNearest.drift : Drift 1 q (valueOf x) := by
  obtain ⟨m, e, pos, decoded, full, above, rounds⟩ := h.exists_full finite normal
  have value : valueOf x = m * 2 ^ e := by rw [valueOf, decoded]
  obtain ⟨low, high⟩ := abs_le.mp (rounds.error_le_relative full above)
  rw [value]
  constructor <;> rw [pow_one] <;> linarith

end

namespace Drift

variable {j k : Nat} {q r a b : ℚ}

theorem refl (q : ℚ) : Drift 0 q q := ⟨by simp, by simp⟩

theorem mono (h : Drift j q a) (nonneg : 0 ≤ q) (more : j ≤ k) : Drift k q a := by
  have low : (1 - 1 / 2 ^ 53 : ℚ) ^ k ≤ (1 - 1 / 2 ^ 53) ^ j :=
    pow_le_pow_of_le_one (by norm_num) (by norm_num) more
  have high : (1 + 1 / 2 ^ 53 : ℚ) ^ j ≤ (1 + 1 / 2 ^ 53) ^ k :=
    pow_le_pow_right₀ (by norm_num) more
  exact ⟨(mul_le_mul_of_nonneg_left low nonneg).trans h.low,
    h.high.trans (mul_le_mul_of_nonneg_left high nonneg)⟩

theorem trans (h : Drift j q a) (h' : Drift k a b) : Drift (j + k) q b := by
  have low : (0 : ℚ) ≤ (1 - 1 / 2 ^ 53) ^ k := by norm_num
  constructor
  · rw [pow_add, ← mul_assoc]
    exact (mul_le_mul_of_nonneg_right h.low low).trans h'.low
  · rw [pow_add, ← mul_assoc]
    exact h'.high.trans (mul_le_mul_of_nonneg_right h.high (by positivity))

theorem mul (h : Drift j q a) (h' : Drift k r b) (nonneg : 0 ≤ q) (nonneg' : 0 ≤ r) :
    Drift (j + k) (q * r) (a * b) := by
  have left : (0 : ℚ) ≤ q * (1 - 1 / 2 ^ 53) ^ j := mul_nonneg nonneg (by norm_num)
  have right : (0 : ℚ) ≤ r * (1 - 1 / 2 ^ 53) ^ k := mul_nonneg nonneg' (by norm_num)
  constructor
  · rw [pow_add, mul_mul_mul_comm]
    exact mul_le_mul h.low h'.low right (left.trans h.low)
  · rw [pow_add, mul_mul_mul_comm]
    exact mul_le_mul h.high h'.high (right.trans h'.low) (by positivity)

/-- The inverse is off by twice as much at most. -/
theorem inv (h : Drift j q a) (pos : 0 < q) : Drift (2 * j) q⁻¹ a⁻¹ := by
  have down : (0 : ℚ) < (1 - 1 / 2 ^ 53) ^ j := by norm_num
  have up : (0 : ℚ) < (1 + 1 / 2 ^ 53) ^ j := by positivity
  have positive : 0 < a := lt_of_lt_of_le (mul_pos pos down) h.low
  have least : (1 - 1 / 2 ^ 53 : ℚ) ^ (2 * j) * (1 + 1 / 2 ^ 53) ^ j ≤ 1 := by
    rw [pow_mul, ← mul_pow]
    exact pow_le_one₀ (by norm_num) (by norm_num)
  have most : 1 ≤ (1 + 1 / 2 ^ 53 : ℚ) ^ (2 * j) * (1 - 1 / 2 ^ 53) ^ j := by
    rw [pow_mul, ← mul_pow]
    exact one_le_pow₀ (by norm_num)
  rw [inv_eq_one_div a, inv_eq_one_div q]
  constructor
  · rw [le_div_iff₀ positive, one_div, inv_mul_eq_div, div_mul_eq_mul_div, div_le_one pos]
    calc (1 - 1 / 2 ^ 53) ^ (2 * j) * a
        ≤ (1 - 1 / 2 ^ 53) ^ (2 * j) * (q * (1 + 1 / 2 ^ 53) ^ j) := by
          apply mul_le_mul_of_nonneg_left h.high
          norm_num
      _ = (1 - 1 / 2 ^ 53) ^ (2 * j) * (1 + 1 / 2 ^ 53) ^ j * q := by ring
      _ ≤ q := mul_le_of_le_one_left pos.le least
  · rw [div_le_iff₀ positive, one_div, inv_mul_eq_div, div_mul_eq_mul_div, one_le_div pos]
    calc q ≤ (1 + 1 / 2 ^ 53) ^ (2 * j) * (1 - 1 / 2 ^ 53) ^ j * q :=
          le_mul_of_one_le_left pos.le most
      _ = (1 + 1 / 2 ^ 53) ^ (2 * j) * (q * (1 - 1 / 2 ^ 53) ^ j) := by ring
      _ ≤ (1 + 1 / 2 ^ 53) ^ (2 * j) * a := mul_le_mul_of_nonneg_left h.low (by positivity)

theorem le_one_sub_pow (j : Nat) : 1 - j / 2 ^ 53 ≤ (1 - 1 / 2 ^ 53 : ℚ) ^ j := by
  have bernoulli := one_add_mul_le_pow (by norm_num : (-2 : ℚ) ≤ -(1 / 2 ^ 53)) j
  linarith

theorem le_low (h : Drift j q a) (nonneg : 0 ≤ q) : q * (1 - j / 2 ^ 53) ≤ a :=
  (mul_le_mul_of_nonneg_left (le_one_sub_pow j) nonneg).trans h.low

section
variable (few : j * (j + 1) ≤ 2 ^ 53)
include few

/-- Up to a number of roundings that is no word they add up to little more than one bit each. -/
theorem one_add_pow_le : (1 + 1 / 2 ^ 53 : ℚ) ^ j ≤ 1 + (j + 1) / 2 ^ 53 := by
  have few : (j : ℚ) * (j + 1) ≤ 2 ^ 53 := by exact_mod_cast few
  have low := le_one_sub_pow j
  have both : (1 + 1 / 2 ^ 53 : ℚ) ^ j * (1 - 1 / 2 ^ 53) ^ j ≤ 1 := by
    rw [← mul_pow]
    exact pow_le_one₀ (by norm_num) (by norm_num)
  have up : (0 : ℚ) < (1 + 1 / 2 ^ 53) ^ j := by positivity
  have inverse : (1 : ℚ) ≤ (1 - j / 2 ^ 53) * (1 + (j + 1) / 2 ^ 53) := by
    have expanded : (1 - j / 2 ^ 53 : ℚ) * (1 + (j + 1) / 2 ^ 53) =
        1 + (2 ^ 53 - j * (j + 1)) / 2 ^ 106 := by ring
    have rest : (0 : ℚ) ≤ (2 ^ 53 - j * (j + 1)) / 2 ^ 106 :=
      div_nonneg (by linarith) (by positivity)
    linarith
  calc (1 + 1 / 2 ^ 53 : ℚ) ^ j
      ≤ (1 + 1 / 2 ^ 53) ^ j * ((1 - j / 2 ^ 53) * (1 + (j + 1) / 2 ^ 53)) :=
        le_mul_of_one_le_right up.le inverse
    _ ≤ (1 + 1 / 2 ^ 53) ^ j * ((1 - 1 / 2 ^ 53) ^ j * (1 + (j + 1) / 2 ^ 53)) := by gcongr
    _ ≤ 1 + (j + 1) / 2 ^ 53 := by
        rw [← mul_assoc]
        exact mul_le_of_le_one_left (by positivity) both

theorem error_le (h : Drift j q a) (nonneg : 0 ≤ q) : |a - q| ≤ q * ((j + 1) / 2 ^ 53) := by
  have below := h.le_low nonneg
  have above := h.high.trans (mul_le_mul_of_nonneg_left (one_add_pow_le few) nonneg)
  have last : q * ((j + 1) / 2 ^ 53) = q * (j / 2 ^ 53) + q / 2 ^ 53 := by ring
  have one : 0 ≤ q / 2 ^ 53 := by positivity
  rw [abs_le]
  constructor <;> linarith

end

end Drift

end Provision.Number
