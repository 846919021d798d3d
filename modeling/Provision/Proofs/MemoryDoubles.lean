import Provision.Proofs.DoubleOrder
import Provision.Proofs.WholeMemory

/-!
# Memory by way of doubles

A number that is no count of 64 bits is read as its nearest double, multiplied by the unit as a
double and rounded once more.

- `readFloat?_of_isDecimal`: a decimal is read as the double nearest to the number that it writes.
- `scaleFloat_overflow`, `scaleFloat_ok`: the product is refused exactly beyond the middle between
  the limit and the double behind it, and else converted with its fraction dropped.
- `Scale.Spelling.isFull_toFloat`: the units that are no powers of ten, as doubles.
-/

namespace Provision.Number

/-! ## Decimals -/

/-- The number that a decimal writes: its digits, over ten for each that is behind the point. -/
def decimalValue (s : List Char) : ℚ :=
  digitsValue (s.filter (· != '.')) / 10 ^ (s.dropWhile (· != '.')).tail.length

theorem ne_point_of_isDigit {c : Char} (h : c.isDigit = true) : (c != '.') = true := by
  rw [bne_iff_ne]
  rintro rfl
  cases h

theorem decimalValue_digits {s : List Char} (h : IsDigits s) :
    decimalValue s = digitsValue s := by
  have points : ∀ c ∈ s, (c != '.') = true := fun c hc => ne_point_of_isDigit (h.2 c hc)
  have digits : s.filter (· != '.') = s := List.filter_eq_self.mpr points
  have rest : s.dropWhile (· != '.') = [] := List.dropWhile_eq_nil_iff.mpr points
  rw [decimalValue, digits, rest]
  simp

theorem decimalValue_pointed {whole fraction : List Char} (h : IsDigits (whole ++ fraction)) :
    decimalValue (whole ++ '.' :: fraction) =
      digitsValue (whole ++ fraction) / 10 ^ fraction.length := by
  have points : ∀ c ∈ whole ++ fraction, (c != '.') = true :=
    fun c hc => ne_point_of_isDigit (h.2 c hc)
  have before : ∀ c ∈ whole, (c != '.') = true :=
    fun c hc => points c (List.mem_append_left _ hc)
  have digits : (whole ++ '.' :: fraction).filter (· != '.') = whole ++ fraction := by
    rw [List.filter_append, List.filter_cons_of_neg (by decide), ← List.filter_append]
    exact List.filter_eq_self.mpr points
  have rest : (whole ++ '.' :: fraction).dropWhile (· != '.') = '.' :: fraction := by
    rw [List.dropWhile_append_of_pos before, List.dropWhile_cons_of_neg (by decide)]
  rw [decimalValue, digits, rest, List.tail_cons]

theorem decimalValue_nonneg (s : List Char) : 0 ≤ decimalValue s := by
  unfold decimalValue
  positivity

/-- The double that is read is the nearest one to the number that the decimal writes. -/
theorem readFloat?_of_isDecimal {s : List Char} (h : IsDecimal s) :
    ∃ x, readFloat? s = some x ∧ IsNearest x (decimalValue s) := by
  cases h with
  | whole digits =>
    refine ⟨Numeral.toFloat ⟨false, s, [], 0⟩, by rw [readFloat?, read?_digits digits], ?_⟩
    have nearest := @Numeral.isNearest_toFloat ⟨false, s, [], 0⟩ rfl
    have value : Numeral.value ⟨false, s, [], 0⟩ = decimalValue s := by
      rw [decimalValue_digits digits]
      simp [Numeral.value, Numeral.significand, Numeral.scale, digitsValue]
    rwa [value] at nearest
  | @pointed whole fraction digits =>
    refine ⟨Numeral.toFloat ⟨false, whole, fraction, 0⟩,
      by rw [readFloat?, read?_pointed digits], ?_⟩
    have nearest := @Numeral.isNearest_toFloat ⟨false, whole, fraction, 0⟩ rfl
    have value : Numeral.value ⟨false, whole, fraction, 0⟩ =
        decimalValue (whole ++ '.' :: fraction) := by
      rw [decimalValue_pointed digits]
      simp [Numeral.value, Numeral.significand, Numeral.scale, digitsValue, div_eq_mul_inv]
    rwa [value] at nearest

end Provision.Number

namespace Provision.Quantity

open Number

/-- The bytes in a number of units, exactly. -/
def exactBytes (number : List Char) (scale : Scale) : ℚ := decimalValue number * scale.value

/-- A whole number of 64 bits; it is scaled without a double. -/
def IsCount (number : List Char) : Prop :=
  IsDigits number ∧ digitsValue number < UInt64.size

/-! ## The product -/

/-- The first number of bytes that cannot be counted, as a double. -/
theorem limit_eq : (18446744073709551616.0 : Float) =
    .ofModel (.pack (.finite .positive (2 ^ 52) 12 (by decide))) := by decide +kernel

theorem canonical_limit : Canonical (2 ^ 52) 12 :=
  ⟨by decide, by decide, by decide, by decide, Or.inl le_rfl⟩

theorem isFinite_limit : (18446744073709551616.0 : Float).isFinite = true := by decide +kernel

theorem valueOf_limit : valueOf 18446744073709551616.0 = 2 ^ 64 := by
  rw [valueOf, limit_eq, unpack_ofModel_pack canonical_limit]
  norm_num

theorem exceeds_iff {p : Float} : p.isFinite = false ∨ 18446744073709551616.0 < p ↔
    p.isFinite = false ∨ 2 ^ 64 < valueOf p := by
  by_cases finite : p.isFinite = true
  · rw [lt_iff_valueOf isFinite_limit finite, valueOf_limit]
  · simp only [finite, true_or]

/-- What is refused as a double lies beyond the middle between the limit and the next double. -/
theorem exceeds_limit_iff {p : Float} {q : ℚ} (h : IsNearest p q) :
    p.isFinite = false ∨ 18446744073709551616.0 < p ↔ 2 ^ 64 + 2 ^ 11 < q := by
  have limit : ((2 ^ 52 : Nat) : ℚ) * 2 ^ (12 : Int) = 2 ^ 64 := by norm_num
  have middle : (2 : ℚ) ^ 64 + 2 ^ 11 = ((2 ^ 52 : Nat) + 1 / 2) * 2 ^ (12 : Int) := by norm_num
  rw [exceeds_iff, middle, ← h.above_iff canonical_limit (by decide), limit]

theorem scaleNumber_eq_scaleFloat {number : List Char} (decimal : IsDecimal number)
    (h : ¬ IsCount number) (scale : Scale) :
    scaleNumber number scale = scaleFloat number scale := by
  have read : readBelow? UInt64.size number = none := by
    cases whole : readBelow? UInt64.size number with
    | none => rfl
    | some n =>
      have digits := readBelow?_pointed decimal.isPointed whole
      rw [readBelow?_of_digits digits] at whole
      by_cases fits : digitsValue number < UInt64.size
      · exact absurd ⟨digits, fits⟩ h
      · rw [if_neg fits] at whole
        cases whole
  rw [scaleNumber, read]

section
variable {number : List Char} {scale : Scale} {x : Float} (read : readFloat? number = some x)
include read

theorem scaleFloat_infinite (infinite : x.isFinite = false) :
    scaleFloat number scale = .error .negative := by
  rw [scaleFloat, read]
  simp only [infinite, Bool.not_false, Bool.true_or, if_true]

variable (unsigned : Unsigned x)
include unsigned

section
variable (finite : x.isFinite = true)
include finite

theorem scaleFloat_eq : scaleFloat number scale =
    if (x * scale.toFloat).isFinite = false ∨
      18446744073709551616.0 < x * scale.toFloat then .error .overflow
    else .ok (x * scale.toFloat).toUInt64 := by
  rw [scaleFloat, read]
  simp only [finite, unsigned.not_neg, Bool.not_true, decide_false, Bool.or_self,
    Bool.false_eq_true, if_false, Bool.or_eq_true, Bool.not_eq_true', decide_eq_true_eq]

/-- A finite number is refused exactly if its product is infinite or beyond the limit. -/
theorem scaleFloat_error_iff : (∃ reason, scaleFloat number scale = .error reason) ↔
    (x * scale.toFloat).isFinite = false ∨ 2 ^ 64 < valueOf (x * scale.toFloat) := by
  rw [scaleFloat_eq read unsigned finite, ← exceeds_iff]
  split
  · rename_i exceeds
    exact iff_of_true ⟨_, rfl⟩ exceeds
  · rename_i counted
    refine iff_of_false ?_ counted
    rintro ⟨reason, refused⟩
    cases refused

end

/-- Only a number that is infinite as a double is refused as no number of units. -/
theorem scaleFloat_negative_iff : scaleFloat number scale = .error .negative ↔
    x.isFinite = false := by
  by_cases finite : x.isFinite = true
  · rw [scaleFloat_eq read unsigned finite, finite]
    split <;> simp
  · have infinite : x.isFinite = false := by simpa using finite
    exact iff_of_true (scaleFloat_infinite read infinite) infinite

variable (finite : x.isFinite = true) {c : ℚ} (full : IsFull scale.toFloat c)
include finite full

theorem scaleFloat_overflow (beyond : 2 ^ 64 + 2 ^ 11 < valueOf x * c) :
    scaleFloat number scale = .error .overflow := by
  have nearest := isNearest_mul unsigned finite full
  rw [scaleFloat_eq read unsigned finite, if_pos ((exceeds_limit_iff nearest).mpr beyond)]

/-- The whole part of the product, and the largest count where that is the limit. -/
theorem scaleFloat_ok (most : valueOf x * c ≤ 2 ^ 64 + 2 ^ 11) :
    ∃ bytes, scaleFloat number scale = .ok bytes ∧ (x * scale.toFloat).isFinite = true ∧
      bytes.toNat = min ⌊valueOf (x * scale.toFloat)⌋₊ (2 ^ 64 - 1) := by
  have nearest := isNearest_mul unsigned finite full
  have counted := mt (exceeds_limit_iff nearest).mp most.not_gt
  rw [not_or, Bool.not_eq_false] at counted
  refine ⟨(x * scale.toFloat).toUInt64, ?_, counted.1,
    toNat_toUInt64 nearest.unsigned counted.1⟩
  rw [scaleFloat_eq read unsigned finite, if_neg]
  exact fun exceeds => exceeds.elim (by simp [counted.1]) counted.2

end

/-! ## Units as doubles -/

/-- Multiples of the byte have few odd bits. -/
theorem IsMultiple.isFull {s : List Char} {n : Nat} (h : IsMultiple s n) :
    IsFull (Float.ofNat n) n := by
  cases h with
  | kilo => exact @isFull_ofNat 125 3 (by decide) (by decide) (by decide)
  | decimal i =>
    have factors : 1000 ^ (i.val + 1) = 125 ^ (i.val + 1) * 2 ^ (3 * (i.val + 1)) := by
      rw [pow_mul, ← mul_pow]
      norm_num
    have bound : i.val + 1 ≤ 6 := i.isLt
    have small : 125 ^ (i.val + 1) < 2 ^ 53 :=
      lt_of_le_of_lt (Nat.pow_le_pow_right (by decide) bound) (by decide)
    rw [factors]
    exact isFull_ofNat (by positivity) small (by omega)
  | binary i =>
    have factors : 1024 ^ (i.val + 1) = 1 * 2 ^ (10 * (i.val + 1)) := by
      rw [pow_mul, one_mul]
      norm_num
    have bound : i.val + 1 ≤ 6 := i.isLt
    rw [factors]
    exact isFull_ofNat (by decide) (by decide) (by omega)

theorem milli_eq : (1e-3 : Float) =
    .ofModel (.pack (.finite .positive 4611686018427388 (-62) (by decide))) := by decide +kernel

theorem isFull_milli : IsFull 1e-3 ((4611686018427388 : Nat) * 2 ^ (-62 : Int)) := by
  have canonical : Canonical 4611686018427388 (-62) :=
    ⟨by decide, by decide, by decide, by decide, Or.inl (by decide)⟩
  refine ⟨4611686018427388, -62, canonical.pos, ?_, by decide, rfl⟩
  rw [milli_eq, unpack_ofModel_pack canonical]

theorem Scale.Spelling.isFull_bytes {unit : List Char} {n : Nat}
    (h : (Scale.bytes n).Spelling unit) : IsFull (Scale.toFloat (.bytes n)) n := by
  cases h with
  | none | byte => exact @isFull_ofNat 1 0 (by decide) (by decide) (by decide)
  | multiple h | marked h => exact h.isFull

/-- The double that stands for a unit that is no power of ten: a multiple of the byte itself, and a
thousandth up to the last bits. -/
theorem Scale.Spelling.isFull_toFloat {unit : List Char} {scale : Scale} (h : scale.Spelling unit)
    (unpowered : ∀ e, scale ≠ .power e) : IsFull scale.toFloat (valueOf scale.toFloat) ∧
      |valueOf scale.toFloat - scale.value| ≤ scale.value / 2 ^ 55 := by
  cases scale with
  | bytes n =>
    have full := h.isFull_bytes
    rw [full.valueOf_eq, Scale.value, sub_self, abs_zero]
    exact ⟨full, by positivity⟩
  | milli =>
    have full : IsFull (Scale.toFloat .milli) _ := isFull_milli
    rw [full.valueOf_eq]
    exact ⟨full, by norm_num [Scale.value, abs_le]⟩
  | power e => exact absurd rfl (unpowered e)

theorem IsMultiple.le {s : List Char} {n : Nat} (h : IsMultiple s n) : 1 ≤ n ∧ n ≤ 1024 ^ 6 := by
  cases h with
  | kilo => decide
  | decimal i | binary i =>
    revert i
    decide

theorem Scale.Spelling.value_bounds {unit : List Char} {scale : Scale} (h : scale.Spelling unit)
    (unpowered : ∀ e, scale ≠ .power e) : 1 / 1000 ≤ scale.value ∧ scale.value ≤ 2 ^ 60 := by
  have bounds {n : Nat} (h : 1 ≤ n ∧ n ≤ 1024 ^ 6) :
      1 / 1000 ≤ (Scale.bytes n).value ∧ (Scale.bytes n).value ≤ 2 ^ 60 := by
    have least : (1 : ℚ) ≤ n := by exact_mod_cast h.1
    have most : (n : ℚ) ≤ 1024 ^ 6 := by exact_mod_cast h.2
    exact ⟨le_trans (by norm_num) least, le_trans most (by norm_num)⟩
  cases h with
  | none | byte => exact bounds (by decide)
  | multiple h | marked h => exact bounds h.le
  | milli => exact ⟨le_rfl, by norm_num [Scale.value]⟩
  | @power _ _ e => exact absurd rfl (unpowered e)

/-- The unit is rounded as a decimal is. -/
theorem isNearest_unit {scale : Scale} (unpowered : ∀ e, scale ≠ .power e) :
    IsNearest scale.toFloat scale.value := by
  cases scale with
  | bytes factor =>
    have nearest := isNearest_ofScientific factor false 0
    rw [signedExponent, if_neg Bool.false_ne_true, Nat.cast_zero, zpow_zero, mul_one] at nearest
    exact nearest
  | milli =>
    have nearest := isNearest_ofScientific 1 true 3
    rw [signedExponent, if_pos rfl, Nat.cast_one, one_mul] at nearest
    have value : (10 : ℚ) ^ (-(3 : Nat) : Int) = Scale.milli.value := by
      rw [Scale.value]
      norm_num
    rw [value] at nearest
    exact nearest
  | power e => exact absurd rfl (unpowered e)

theorem least_normal_le : (2 : ℚ) ^ (-1021 : Int) ≤ 1 / 2 ^ 63 := by
  have power : (1 : ℚ) / 2 ^ 63 = 2 ^ (-63 : Int) := by norm_num
  rw [power]
  exact zpow_le_zpow_right₀ one_le_two (by decide)

section
variable {d s c : ℚ} {x : Float} (near : IsNearest x d) (nonneg : 0 ≤ d)
  (least : 1 / 1000 ≤ s) (most : s ≤ 2 ^ 60) (unit : |c - s| ≤ s / 2 ^ 55)
include near nonneg least most unit

/-- The number and its unit are one rounding each. -/
theorem product_drift (some : 1 / 4 ≤ d * s) (finite : x.isFinite = true) :
    Drift 2 (d * s) (valueOf x * c) := by
  have scale : Drift 1 s c := by
    obtain ⟨low, high⟩ := abs_le.mp unit
    constructor <;> rw [pow_one] <;> linarith
  have normal : 2 ^ (-1021 : Int) ≤ d := by
    have tiny := least_normal_le
    nlinarith
  exact (near.drift finite normal).mul scale nonneg (by linarith)

end

/-! ## Whole counts -/

theorem floorBytes_digits {digits : List Char} (h : IsDigits digits) (scale : Scale) :
    scale.floorBytes (digitsValue digits) = ⌊exactBytes digits scale⌋₊ := by
  rw [exactBytes, decimalValue_digits h, Scale.floorBytes]

end Provision.Quantity

namespace Provision

open Quantity

section
variable {text : String} {digits : List Char} {scale : Scale}
  (form : IsQuantity (Text.trim text.toList) digits scale) (count : IsCount digits)
include form count

theorem parseMemory_count (counted : ¬ scale.IsHuge) (small : exactBytes digits scale < 2 ^ 64) :
    ∃ bytes, parseMemory text = .ok bytes ∧ bytes.toNat = ⌊exactBytes digits scale⌋₊ := by
  rw [← floorBytes_digits count.1 scale]
  refine parseMemory_whole_ok form count.1 count.2 ?_ counted
  rw [floorBytes_digits count.1]
  exact (Nat.floor_lt' (by decide)).mpr (by exact_mod_cast small)

theorem parseMemory_uncounted (large : 2 ^ 64 ≤ exactBytes digits scale) :
    parseMemory text = .error (.quantity text .overflow) := by
  refine parseMemory_whole_refused form count.1 count.2 (Or.inl ?_)
  rw [floorBytes_digits count.1]
  exact Nat.le_floor (by exact_mod_cast large)

end

end Provision
