import Provision.Proofs.MemoryRefusals

/-!
# Memory that cannot be counted

Numbers of 64 bits are refused as soon as their bytes cannot be counted. Other numbers are doubles
by then, and doubles are compared with the limit after they were rounded: what is at the limit, or
so close above it that it is rounded to it, is taken for the largest count.

- `exists_product`: how many roundings there are for each unit.
- `scaleFloat_accepted`: what is accepted in spite of the limit is close to it.
- `parseMemory_past_limit`: what becomes of bytes that cannot be counted.
- `parseMemory_limit_counted`: sixteen exbibytes are refused, and accepted with a point.
-/

namespace Provision.Quantity

open Number

/-! ## Roundings -/

section
variable {number : List Char} {scale : Scale} {x : Float}
  (near : IsNearest x (decimalValue number)) (finite : x.isFinite = true)
  (large : 2 ^ 64 ≤ exactBytes number scale)
include near finite large

theorem power_product {e : Int} (power : scale = .power e) :
    (x * scale.toFloat).isFinite = false ∨ ∃ c, IsFull scale.toFloat c ∧
      Drift 700 (exactBytes number scale) (valueOf x * c) := by
  have nonneg : 0 ≤ exactBytes number scale := le_trans (by norm_num) large
  subst power
  by_cases negative : e < 0
  · have unit : (Scale.power e).toFloat = 1 / Scale.squaring 1 10 e.natAbs := if_pos negative
    have bytes : exactBytes number (.power e) = decimalValue number * (10 ^ e.natAbs)⁻¹ := by
      rw [exactBytes, Scale.value, ← zpow_natCast, ← zpow_neg]
      congr 2
      omega
    rw [bytes] at large nonneg ⊢
    obtain ⟨c, full, drift, few⟩ := small_units near finite large
    rw [unit]
    exact Or.inr ⟨c, full, drift.mono nonneg (by omega)⟩
  · have unit : (Scale.power e).toFloat = Scale.squaring 1 10 e.natAbs := if_neg negative
    have bytes : exactBytes number (.power e) = decimalValue number * 10 ^ e.natAbs := by
      rw [exactBytes, Scale.value, ← zpow_natCast]
      congr 2
      omega
    rw [bytes] at large nonneg ⊢
    rw [unit]
    rcases large_units near finite large with infinite | ⟨c, full, drift, few⟩
    · exact Or.inl infinite
    · exact Or.inr ⟨c, full, drift.mono nonneg (by omega)⟩

theorem exists_product {unit : List Char} (spelling : scale.Spelling unit) :
    (x * scale.toFloat).isFinite = false ∨ ∃ c, IsFull scale.toFloat c ∧
      Drift scale.roundings (exactBytes number scale) (valueOf x * c) := by
  have unpowered (h : ∀ e, scale ≠ .power e) : ∃ c, IsFull scale.toFloat c ∧
      Drift 2 (exactBytes number scale) (valueOf x * c) := by
    obtain ⟨full, close⟩ := spelling.isFull_toFloat h
    obtain ⟨least, most⟩ := spelling.value_bounds h
    exact ⟨_, full, product_drift near (decimalValue_nonneg number) least most close
      (le_trans (by norm_num) large) finite⟩
  cases scale with
  | bytes factor => exact Or.inr (unpowered fun _ power => by cases power)
  | milli => exact Or.inr (unpowered fun _ power => by cases power)
  | power e => exact power_product near finite large rfl

end

/-- Few roundings do not lead back from far beyond the limit. -/
theorem beyond_of_far {v r a : ℚ} (some : 0 ≤ r) (few : r ≤ 700)
    (far : 2 ^ 64 + (r + 2) * 2 ^ 11 ≤ v) (low : v * (1 - r / 2 ^ 53) ≤ a) :
    2 ^ 64 + 2 ^ 11 < a := by
  have share : 0 ≤ 1 - r / 2 ^ 53 := by linarith
  have scaled := mul_le_mul_of_nonneg_right far share
  nlinarith

/-- What is counted in spite of the limit was rounded to it or below. -/
theorem scaleFloat_accepted {number unit : List Char} {scale : Scale} {bytes : UInt64}
    (decimal : IsDecimal number) (spelling : scale.Spelling unit)
    (large : 2 ^ 64 ≤ exactBytes number scale) (accepted : scaleFloat number scale = .ok bytes) :
    exactBytes number scale < 2 ^ 64 + (scale.roundings + 2) * 2 ^ 11 ∧
      2 ^ 64 ≤ bytes.toNat + (scale.roundings + 2) * 2 ^ 11 := by
  have nonneg : 0 ≤ exactBytes number scale := le_trans (by norm_num) large
  obtain ⟨x, read, near⟩ := readFloat?_of_isDecimal decimal
  by_cases finite : x.isFinite = true
  · rcases exists_product near finite large spelling with infinite | ⟨c, full, drift⟩
    · rw [scaleFloat_eq read near.unsigned finite, if_pos (Or.inl infinite)] at accepted
      cases accepted
    · have few : (scale.roundings : ℚ) ≤ 700 := by cases scale <;> norm_num [Scale.roundings]
      have least := drift.le_low nonneg
      have most : valueOf x * c ≤ 2 ^ 64 + 2 ^ 11 := by
        by_contra beyond
        rw [scaleFloat_overflow read near.unsigned finite full (not_le.mp beyond)] at accepted
        cases accepted
      obtain ⟨bytes', scaled, finite', exact⟩ := scaleFloat_ok read near.unsigned finite full most
      rw [scaled] at accepted
      cases accepted
      have product := isNearest_mul near.unsigned finite full
      have some : (0 : ℚ) ≤ scale.roundings := Nat.cast_nonneg _
      have normal : 2 ^ (-1021 : Int) ≤ valueOf x * c := by
        have one : (2 : ℚ) ^ (-1021 : Int) ≤ 1 := zpow_le_one_of_nonpos₀ one_le_two (by decide)
        refine one.trans (le_trans ?_ least)
        nlinarith
      have low := (drift.trans (product.drift finite' normal)).le_low nonneg
      push_cast at low
      constructor
      · by_contra far
        exact absurd most (not_le.mpr (beyond_of_far some few (not_lt.mp far) least))
      · have whole := Nat.lt_floor_add_one (valueOf (x * scale.toFloat))
        have near : (2 : ℚ) ^ 64 <
            ⌊valueOf (x * scale.toFloat)⌋₊ + (scale.roundings + 2) * 2 ^ 11 := by nlinarith
        have near : 2 ^ 64 < ⌊valueOf (x * scale.toFloat)⌋₊ + (scale.roundings + 2) * 2 ^ 11 := by
          exact_mod_cast near
        omega
  · rw [scaleFloat_infinite read (by simpa using finite)] at accepted
    cases accepted

/-- From the limit to the middle behind it all numbers are rounded to the limit. -/
theorem valueOf_of_limit {p : Float} {q : ℚ} (h : IsNearest p q) (least : 2 ^ 64 ≤ q)
    (most : q ≤ 2 ^ 64 + 2 ^ 11) : valueOf p = 2 ^ 64 := by
  have limit : ((2 ^ 52 : Nat) : ℚ) * 2 ^ (12 : Int) = 2 ^ 64 := by norm_num
  have unit : (0 : ℚ) < 2 ^ (12 : Int) := by positivity
  have room := mul_pos (roomBelow_pos (2 ^ 52) 12) unit
  have above := (h.above_iff canonical_limit (by decide)).not.mpr (by
    rw [add_mul, limit]
    norm_num
    linarith)
  have below := (h.below_iff canonical_limit (by decide)).not.mpr (by
    rw [sub_mul, limit]
    linarith)
  rw [limit, not_or, Bool.not_eq_false, not_lt] at above
  rw [limit] at below
  exact le_antisymm above.2 (not_lt.mp fun less => below ⟨above.1, less⟩)

/-- A number of multiples of the byte that is a double is rounded only once. -/
theorem scaleFloat_of_isDouble {number unit : List Char} {n : Nat} (decimal : IsDecimal number)
    (spelling : (Scale.bytes n).Spelling unit) (input : IsDouble (decimalValue number))
    (large : 2 ^ 64 ≤ exactBytes number (.bytes n)) : scaleFloat number (.bytes n) =
      if exactBytes number (.bytes n) ≤ 2 ^ 64 + 2 ^ 11 then .ok (UInt64.ofNat (2 ^ 64 - 1))
      else .error .overflow := by
  obtain ⟨x, read, near⟩ := readFloat?_of_isDecimal decimal
  have digits := decimalValue_nonneg number
  obtain ⟨finite, same⟩ := near.valueOf_of_isDouble input digits (by
    rw [sub_self, abs_zero]
    positivity)
  have full := spelling.isFull_bytes
  have product := isNearest_mul near.unsigned finite full
  have exact : valueOf x * n = exactBytes number (.bytes n) := by
    rw [same, exactBytes, Scale.value]
  rw [exact] at product
  split
  · rename_i most
    obtain ⟨bytes, scaled, -, count⟩ :=
      scaleFloat_ok read near.unsigned finite full (by rwa [exact])
    have floor : ⌊((2 : ℚ) ^ 64)⌋₊ = 2 ^ 64 := by
      exact_mod_cast Nat.floor_natCast (R := ℚ) (2 ^ 64)
    rw [valueOf_of_limit product large most, floor] at count
    rw [scaled, Except.ok.injEq, ← UInt64.toNat_inj, count]
    rfl
  · rename_i beyond
    exact scaleFloat_overflow read near.unsigned finite full (by
      rw [exact]
      exact not_le.mp beyond)

end Provision.Quantity

namespace Provision

open Number (IsDouble IsNearest decimalValue valueOf)
open Quantity

/-- What becomes of a quantity whose bytes cannot be counted. -/
structure PastLimit (text : String) (number : List Char) (scale : Scale) : Prop where
  count_refused (count : IsCount number) : parseMemory text = .error (.quantity text .overflow)
  /-- Other numbers are refused as soon as the double of their bytes is behind the limit, and as no
  such number where it is infinite itself. -/
  refused_iff (fraction : ¬ IsCount number) : ∃ x, IsNearest x (decimalValue number) ∧
    (parseMemory text = .error (.quantity text .negative) ↔ x.isFinite = false) ∧
    ((∃ reason, parseMemory text = .error (.quantity text reason)) ↔ x.isFinite = false ∨
      (x * scale.toFloat).isFinite = false ∨ 2 ^ 64 < valueOf (x * scale.toFloat))
  /-- A few roundings behind the limit all are refused. -/
  far_refused (far : 2 ^ 64 + (scale.roundings + 2) * 2 ^ 11 ≤ exactBytes number scale) :
    ∃ reason, parseMemory text = .error (.quantity text reason) ∧ IsTooLarge number scale reason
  /-- As few before the limit is what is read at the least. -/
  accepted {bytes : UInt64} (read : parseMemory text = .ok bytes) :
    ¬ IsCount number ∧ 2 ^ 64 ≤ bytes.toNat + (scale.roundings + 2) * 2 ^ 11
  /-- Multiples of a double are taken for the largest count, as far as they are rounded down to the
  limit. -/
  double_counted {factor : Nat} (multiple : scale = .bytes factor) (fraction : ¬ IsCount number)
    (input : IsDouble (decimalValue number)) : parseMemory text =
      if exactBytes number scale ≤ 2 ^ 64 + 2 ^ 11 then .ok (UInt64.ofNat (2 ^ 64 - 1))
      else .error (.quantity text .overflow)

theorem refused_of_not_ok {text : String} {number : List Char} {scale : Scale}
    (form : IsQuantity (Text.trim text.toList) number scale)
    (h : ∀ bytes, parseMemory text ≠ .ok bytes) :
    ∃ reason, parseMemory text = .error (.quantity text reason) ∧
      IsTooLarge number scale reason := by
  cases failed : parseMemory text with
  | ok bytes => exact absurd failed (h bytes)
  | error fault =>
    obtain ⟨reason, rfl, -⟩ := parseMemory_error_iff.mp failed
    exact ⟨reason, rfl, tooLarge_of_refused form failed⟩

/-- **Memory past the limit.** -/
theorem parseMemory_past_limit {text : String} {number : List Char} {scale : Scale}
    (form : IsQuantity (Text.trim text.toList) number scale)
    (large : 2 ^ 64 ≤ exactBytes number scale) : PastLimit text number scale := by
  obtain ⟨blanks, unit, parts, decimal, hb, spelling⟩ := id form
  have scaled (fraction : ¬ IsCount number) :
      parseMemory text = (scaleFloat number scale).mapError (.quantity text) := by
    rw [parseMemory, form.readMemory, scaleNumber_eq_scaleFloat decimal fraction]
  have accepted {bytes : UInt64} (read : parseMemory text = .ok bytes) : ¬ IsCount number ∧
      exactBytes number scale < 2 ^ 64 + (scale.roundings + 2) * 2 ^ 11 ∧
        2 ^ 64 ≤ bytes.toNat + (scale.roundings + 2) * 2 ^ 11 := by
    have fraction : ¬ IsCount number := by
      intro count
      rw [parseMemory_uncounted form count large] at read
      cases read
    rw [scaled fraction, Traversal.mapError_eq_ok_iff] at read
    exact ⟨fraction, scaleFloat_accepted decimal spelling large read⟩
  refine ⟨fun count => parseMemory_uncounted form count large, ?_, ?_, ?_, ?_⟩
  · intro fraction
    obtain ⟨x, read, near⟩ := Number.readFloat?_of_isDecimal decimal
    refine ⟨x, near, ?_, ?_⟩
    · rw [scaled fraction, ← scaleFloat_negative_iff read near.unsigned]
      cases scaleFloat number scale <;> simp [Except.mapError]
    have same : (∃ reason, parseMemory text = .error (.quantity text reason)) ↔
        ∃ reason, scaleFloat number scale = .error reason := by
      rw [scaled fraction]
      cases scaleFloat number scale <;> simp [Except.mapError]
    rw [same]
    by_cases finite : x.isFinite = true
    · rw [scaleFloat_error_iff read near.unsigned finite, finite]
      simp only [Bool.true_eq_false, false_or]
    · rw [scaleFloat_infinite read (by simpa using finite)]
      exact iff_of_true ⟨_, rfl⟩ (Or.inl (by simpa using finite))
  · intro far
    exact refused_of_not_ok form fun bytes read => absurd far (not_le.mpr (accepted read).2.1)
  · intro bytes read
    exact ⟨(accepted read).1, (accepted read).2.2⟩
  · rintro factor rfl fraction input
    rw [scaled fraction, scaleFloat_of_isDouble decimal spelling input large]
    split <;> rfl

/-- One exbibyte beyond the limit is refused in any spelling. -/
theorem parseMemory_seventeen : IsQuantity (Text.trim "17.0Ei".toList) "17.0".toList
      (.bytes (1024 ^ 6)) ∧ 2 ^ 64 ≤ exactBytes "17.0".toList (.bytes (1024 ^ 6)) ∧
    ∃ reason, parseMemory "17.0Ei" = .error (.quantity "17.0Ei" reason) ∧
      IsTooLarge "17.0".toList (.bytes (1024 ^ 6)) reason := by
  have digits : Number.IsDigits (['1', '7'] ++ ['0']) := by decide
  have parts : Text.trim "17.0Ei".toList = (['1', '7'] ++ '.' :: ['0']) ++ ['E', 'i'] := rfl
  have form : IsQuantity (Text.trim "17.0Ei".toList) (['1', '7'] ++ '.' :: ['0'])
      (.bytes (1024 ^ 6)) := isQuantity_of_parts parts (.pointed digits) rfl
  have value : exactBytes (['1', '7'] ++ '.' :: ['0']) (.bytes (1024 ^ 6)) = 17 * 2 ^ 60 := by
    have value : Number.digitsValue (['1', '7'] ++ ['0']) = 170 := rfl
    rw [exactBytes, Number.decimalValue_pointed digits, value, Scale.value]
    norm_num
  have large : 2 ^ 64 ≤ exactBytes (['1', '7'] ++ '.' :: ['0']) (.bytes (1024 ^ 6)) := by
    rw [value]
    norm_num
  refine ⟨form, large, (parseMemory_past_limit form large).far_refused ?_⟩
  rw [value]
  norm_num [Scale.roundings]

/-- Sixteen exbibytes are no count, but with a point they are read as the largest one. -/
theorem parseMemory_limit_counted :
    IsQuantity (Text.trim "16.0Ei".toList) "16.0".toList (.bytes (1024 ^ 6)) ∧
    exactBytes "16.0".toList (.bytes (1024 ^ 6)) = 2 ^ 64 ∧
    parseMemory "16Ei" = .error (.quantity "16Ei" .overflow) ∧
    parseMemory "16.0Ei" = .ok 18446744073709551615 := by
  have digits : Number.IsDigits (['1', '6'] ++ ['0']) := by decide
  have parts : Text.trim "16.0Ei".toList = (['1', '6'] ++ '.' :: ['0']) ++ ['E', 'i'] := rfl
  refine ⟨isQuantity_of_parts parts (.pointed digits) rfl, ?_, by decide +kernel, by decide +kernel⟩
  have value : exactBytes (['1', '6'] ++ '.' :: ['0']) (.bytes (1024 ^ 6)) = 2 ^ 64 := by
    have value : Number.digitsValue (['1', '6'] ++ ['0']) = 160 := rfl
    rw [exactBytes, Number.decimalValue_pointed digits, value, Scale.value]
    norm_num
  exact value

end Provision
