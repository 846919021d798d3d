import Provision.Proofs.MemoryDoubles

/-!
# Memory with a point

A number with a point is not scaled exactly: the number, its unit and their product are each rounded
to a double before the fraction of a byte is dropped. The bytes are therefore the whole part of a
number beside the exact one, and a quantity just above a whole byte may lose that byte.

- `product_close`: three roundings lie between the exact bytes and the double that is cut.
- `parseMemory_pointed`: what is read, how far it is off, and when it is exact all the same.
- `parseMemory_loses_byte`: a thousand and one bytes are read as a thousand.
-/

namespace Provision.Quantity

open Number

/-! ## Three roundings -/

section
variable {d s c : ℚ} {x : Float} (near : IsNearest x d) (nonneg : 0 ≤ d)
  (least : 1 / 1000 ≤ s) (most : s ≤ 2 ^ 60) (unit : |c - s| ≤ s / 2 ^ 55)
include near nonneg least most unit

/-- The product is the third rounding. -/
theorem product_close (some : 1 / 4 ≤ d * s) (finite : x.isFinite = true) {p : Float}
    (product : IsNearest p (valueOf x * c)) (finite' : p.isFinite = true) :
    |valueOf p - d * s| ≤ d * s / 2 ^ 51 := by
  have first := product_drift near nonneg least most unit some finite
  have positive : 0 ≤ d * s := by linarith
  have normal : 2 ^ (-1021 : Int) ≤ valueOf x * c := by
    have tiny := least_normal_le
    obtain ⟨low, -⟩ := abs_le.mp (first.error_le (by decide) positive)
    push_cast at low
    linarith
  have error := (first.trans (product.drift finite' normal)).error_le (by decide) positive
  norm_num at error ⊢
  linarith

/-- A number of units below the fourth part of a byte stays below a byte. -/
theorem product_small (few : d * s < 1 / 4) : x.isFinite = true ∧ valueOf x * c ≤ 1 / 2 := by
  have bound : d ≤ 2 ^ (8 : Int) := by
    norm_num
    nlinarith
  have finite := (near.le_zpow (by decide) (by decide) bound).1
  refine ⟨finite, ?_⟩
  obtain ⟨low, high⟩ := abs_le.mp unit
  rcases le_or_gt d (2 ^ (-1021 : Int)) with tiny | normal
  · have small := (near.le_zpow (by decide) (by decide) tiny).2
    have least := near.unsigned.valueOf_nonneg
    have less := least_normal_le
    have factor : c ≤ 2 ^ 61 := by linarith
    nlinarith
  · have first := near.drift finite normal.le
    have above := first.high
    have factor : c ≤ 3 / 2 * s := by linarith
    nlinarith
end

/-- The doubles on the way to the bytes: the number, its unit and the product of the two. -/
structure Rounded (number : List Char) (scale : Scale) (x p : Float) : Prop where
  number : IsNearest x (decimalValue number)
  unit : IsNearest scale.toFloat scale.value
  product : IsNearest p (valueOf x * valueOf scale.toFloat)

/-- The bytes next to `v` that are cut from a product by it: off by four bits of the last place and
the fraction. -/
structure Beside (v : ℚ) (bytes : Nat) : Prop where
  low : v - v / 2 ^ 51 - 1 < bytes
  high : bytes ≤ v + v / 2 ^ 51

theorem beside_of_close {v p : ℚ} (nonneg : 0 ≤ p) (close : |p - v| ≤ v / 2 ^ 51) :
    Beside v ⌊p⌋₊ := by
  obtain ⟨low, high⟩ := abs_le.mp close
  have below := Nat.floor_le nonneg
  have above := Nat.lt_floor_add_one p
  constructor <;> linarith

theorem beside_zero {v : ℚ} (nonneg : 0 ≤ v) (small : v < 1 / 4) : Beside v 0 := by
  have share : 0 ≤ v / 2 ^ 51 := by positivity
  constructor <;> push_cast <;> linarith

/-- Where no whole number lies as near, the bytes are those of the exact number. -/
theorem Beside.eq_floor {v : ℚ} {bytes : Nat} (h : Beside v bytes)
    (low : ⌊v⌋₊ + v / 2 ^ 51 ≤ v) (high : v + v / 2 ^ 51 < ⌊v⌋₊ + 1) : bytes = ⌊v⌋₊ := by
  have least : (⌊v⌋₊ : ℚ) < bytes + 1 := by linarith [h.low]
  have most : (bytes : ℚ) < ⌊v⌋₊ + 1 := by linarith [h.high]
  have least : ⌊v⌋₊ < bytes + 1 := by exact_mod_cast least
  have most : bytes < ⌊v⌋₊ + 1 := by exact_mod_cast most
  omega

section
variable {number unit : List Char} {scale : Scale} (decimal : IsDecimal number)
  (spelling : scale.Spelling unit) (unpowered : ∀ e, scale ≠ .power e)
include spelling unpowered

theorem exactBytes_nonneg : 0 ≤ exactBytes number scale :=
  mul_nonneg (decimalValue_nonneg number)
    (le_trans (by norm_num) (spelling.value_bounds unpowered).1)

/-- A number and bytes that are doubles are not rounded, and what the unit is off by is lost. -/
theorem Rounded.exact {x p : Float} (h : Rounded number scale x p)
    (input : IsDouble (decimalValue number)) (output : IsDouble (exactBytes number scale)) :
    valueOf p = exactBytes number scale := by
  have digits := decimalValue_nonneg number
  have nonneg := @exactBytes_nonneg number _ _ spelling unpowered
  obtain ⟨-, close⟩ := spelling.isFull_toFloat unpowered
  have same : valueOf x = decimalValue number := by
    refine (h.number.valueOf_of_isDouble input digits ?_).2
    rw [sub_self, abs_zero]
    positivity
  refine (h.product.valueOf_of_isDouble output nonneg ?_).2
  rw [same, exactBytes, ← mul_sub, abs_mul, abs_of_nonneg digits, mul_div_assoc]
  exact mul_le_mul_of_nonneg_left close digits

include decimal
variable (small : exactBytes number scale < 2 ^ 53)
include small

/-- Below the limit a product is always cut to bytes. -/
theorem exists_rounded : ∃ x p bytes, Rounded number scale x p ∧
    scaleFloat number scale = .ok bytes ∧ bytes.toNat = ⌊valueOf p⌋₊ ∧
    Beside (exactBytes number scale) bytes.toNat := by
  obtain ⟨x, read, near⟩ := readFloat?_of_isDecimal decimal
  obtain ⟨full, close⟩ := spelling.isFull_toFloat unpowered
  obtain ⟨least, most⟩ := spelling.value_bounds unpowered
  have digits := decimalValue_nonneg number
  have nonneg : 0 ≤ exactBytes number scale := exactBytes_nonneg spelling unpowered
  have bound : decimalValue number ≤ 2 ^ (63 : Int) := by
    unfold exactBytes at small
    norm_num
    nlinarith
  have finite := (near.le_zpow (by decide) (by decide) bound).1
  have product := isNearest_mul near.unsigned finite full
  have rounded : Rounded number scale x (x * scale.toFloat) :=
    ⟨near, isNearest_unit unpowered, product⟩
  rcases lt_or_ge (exactBytes number scale) (1 / 4) with few | some
  · have half := (product_small near digits least most close few).2
    obtain ⟨bytes, scaled, -, exact⟩ :=
      scaleFloat_ok read near.unsigned finite full (by linarith)
    have half : valueOf x * valueOf scale.toFloat ≤ 2 ^ (-1 : Int) := half.trans (by norm_num)
    have below := (product.le_zpow (by decide) (by decide) half).2
    have none : ⌊valueOf (x * scale.toFloat)⌋₊ = 0 :=
      Nat.floor_eq_zero.mpr (lt_of_le_of_lt below (by norm_num))
    rw [none, Nat.zero_min] at exact
    refine ⟨_, _, bytes, rounded, scaled, exact.trans none.symm, ?_⟩
    rw [exact]
    exact beside_zero nonneg few
  · have first := product_drift near digits least most close some finite
    obtain ⟨-, high⟩ := abs_le.mp (first.error_le (by decide) nonneg)
    have counted : valueOf x * valueOf scale.toFloat ≤ 2 ^ 64 + 2 ^ 11 := by
      unfold exactBytes at small
      push_cast at high
      linarith
    obtain ⟨bytes, scaled, finite', exact⟩ :=
      scaleFloat_ok read near.unsigned finite full counted
    have error := product_close near digits least most close some finite product finite'
    have positive := product.unsigned.valueOf_nonneg
    have fits : ⌊valueOf (x * scale.toFloat)⌋₊ ≤ 2 ^ 64 - 1 := by
      have below : valueOf (x * scale.toFloat) < (2 ^ 64 : Nat) := by
        have := (abs_le.mp error).2
        unfold exactBytes at small
        push_cast
        linarith
      have := (Nat.floor_lt positive).mpr below
      omega
    rw [Nat.min_eq_left fits] at exact
    refine ⟨_, _, bytes, rounded, scaled, exact, ?_⟩
    rw [exact]
    exact beside_of_close positive error

end

end Provision.Quantity

namespace Provision

open Number (IsDouble)
open Quantity

/-- What is read from a number with a point. -/
structure PointedBytes (text : String) (number : List Char) (scale : Scale) (bytes : UInt64) :
    Prop where
  read : parseMemory text = .ok bytes
  /-- The bytes are cut from a product of doubles. -/
  cut : ∃ x p, Rounded number scale x p ∧ bytes.toNat = ⌊Number.valueOf p⌋₊
  beside : Beside (exactBytes number scale) bytes.toNat
  /-- Where no whole number is as near, they are exact. -/
  exact_of_clear
    (low : ⌊exactBytes number scale⌋₊ + exactBytes number scale / 2 ^ 51 ≤ exactBytes number scale)
    (high : exactBytes number scale + exactBytes number scale / 2 ^ 51 <
      ⌊exactBytes number scale⌋₊ + 1) :
    bytes.toNat = ⌊exactBytes number scale⌋₊
  /-- So are they where nothing has to be rounded. -/
  exact_of_doubles (input : IsDouble (Number.decimalValue number))
    (output : IsDouble (exactBytes number scale)) : bytes.toNat = ⌊exactBytes number scale⌋₊
  /-- As many bytes as a whole number of a unit are the same exactly if they are exact. -/
  same_iff {text' : String} {digits : List Char} {scale' : Scale}
    (form : IsQuantity (Text.trim text'.toList) digits scale') (count : IsCount digits)
    (counted : ¬ scale'.IsHuge) (same : exactBytes digits scale' = exactBytes number scale) :
    parseMemory text' = parseMemory text ↔ bytes.toNat = ⌊exactBytes number scale⌋₊

/-- **Memory with a point.** -/
theorem parseMemory_pointed {text : String} {number : List Char} {scale : Scale}
    (form : IsQuantity (Text.trim text.toList) number scale) (point : '.' ∈ number)
    (unpowered : ∀ e, scale ≠ .power e) (small : exactBytes number scale < 2 ^ 53) :
    ∃ bytes, PointedBytes text number scale bytes := by
  obtain ⟨blanks, unit, parts, decimal, hb, spelling⟩ := id form
  have fraction : ¬ IsCount number := fun count => absurd (count.1.2 '.' point) (by decide)
  obtain ⟨x, p, bytes, rounded, scaled, cut, beside⟩ :=
    exists_rounded decimal spelling unpowered small
  have read : parseMemory text = .ok bytes := by
    rw [parseMemory, form.readMemory, scaleNumber_eq_scaleFloat decimal fraction, scaled]
    rfl
  refine ⟨bytes, read, ⟨x, p, rounded, cut⟩, beside, beside.eq_floor, ?_, ?_⟩
  · intro input output
    rw [cut, rounded.exact spelling unpowered input output]
  · intro text' digits scale' form' count counted same
    have fits : exactBytes digits scale' < 2 ^ 64 := by
      rw [same]
      exact lt_trans small (by norm_num)
    obtain ⟨bytes', read', exact⟩ := parseMemory_count form' count counted fits
    rw [read', read, Except.ok.injEq, ← UInt64.toNat_inj, exact, same]
    exact eq_comm

/-- Half a byte above a thousand no whole number is near. -/
theorem parseMemory_clear : IsQuantity (Text.trim "1.0005k".toList) "1.0005".toList (.bytes 1000) ∧
    '.' ∈ "1.0005".toList ∧ exactBytes "1.0005".toList (.bytes 1000) < 2 ^ 53 ∧
    ∃ bytes, PointedBytes "1.0005k" "1.0005".toList (.bytes 1000) bytes ∧ bytes = 1000 := by
  have digits : Number.IsDigits (['1'] ++ ['0', '0', '0', '5']) := by decide
  have parts : Text.trim "1.0005k".toList = (['1'] ++ '.' :: ['0', '0', '0', '5']) ++ ['k'] := rfl
  have form : IsQuantity (Text.trim "1.0005k".toList) (['1'] ++ '.' :: ['0', '0', '0', '5'])
      (.bytes 1000) := isQuantity_of_parts parts (.pointed digits) rfl
  have value : exactBytes (['1'] ++ '.' :: ['0', '0', '0', '5']) (.bytes 1000) = 2001 / 2 := by
    have value : Number.digitsValue (['1'] ++ ['0', '0', '0', '5']) = 10005 := rfl
    rw [exactBytes, Number.decimalValue_pointed digits, value, Scale.value]
    norm_num
  have small : exactBytes (['1'] ++ '.' :: ['0', '0', '0', '5']) (.bytes 1000) < 2 ^ 53 := by
    rw [value]
    norm_num
  have floor : ⌊exactBytes (['1'] ++ '.' :: ['0', '0', '0', '5']) (.bytes 1000)⌋₊ = 1000 := by
    rw [value]
    norm_num
  obtain ⟨bytes, pointed⟩ :=
    parseMemory_pointed form (by decide) (fun _ power => by cases power) small
  have exact := pointed.exact_of_clear (by rw [floor, value]; norm_num)
    (by rw [floor, value]; norm_num)
  refine ⟨form, by decide, small, bytes, pointed, ?_⟩
  rw [floor] at exact
  exact UInt64.toNat_inj.mp exact

/-- A thousand and one bytes are just below the last of them as a double. -/
theorem parseMemory_loses_byte :
    IsQuantity (Text.trim "1.001k".toList) "1.001".toList (.bytes 1000) ∧
    exactBytes "1.001".toList (.bytes 1000) = 1001 ∧
    parseMemory "1.001k" = .ok 1000 ∧ parseMemory "1001" = .ok 1001 := by
  have digits : Number.IsDigits (['1'] ++ ['0', '0', '1']) := by decide
  have parts : Text.trim "1.001k".toList = (['1'] ++ '.' :: ['0', '0', '1']) ++ ['k'] := rfl
  refine ⟨isQuantity_of_parts parts (.pointed digits) rfl, ?_, by decide +kernel, by decide +kernel⟩
  have value : exactBytes (['1'] ++ '.' :: ['0', '0', '1']) (.bytes 1000) = 1001 := by
    have value : Number.digitsValue (['1'] ++ ['0', '0', '1']) = 1001 := rfl
    rw [exactBytes, Number.decimalValue_pointed digits, value, Scale.value]
    norm_num
  exact value

end Provision
