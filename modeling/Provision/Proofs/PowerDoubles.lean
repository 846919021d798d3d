import Provision.Proofs.DoubleOrder
import Provision.Quantity.Scale

/-!
# Powers of ten by repeated squaring

A power of ten is multiplied together from squares, each of them rounded. What comes out is the
power after as many roundings as it has zeros, or infinity if the power is beyond the doubles.

- `Reached.mul`: a product of two such numbers is one more rounding away.
- `reached_squaring`: so every power is reached.
- `large_units`, `small_units`: products with powers and with their inverses, where they are too
  large for a word.
-/

namespace Provision.Quantity

open Number
open Float.Model (Format UnpackedFloat)

/-! ## Products of numbers that are at least one -/

/-- What `j` roundings may make of a number that is at least one. -/
inductive Reached (q : ℚ) (j : Nat) (x : Float) : Prop where
  | full {a : ℚ} (full : IsFull x a) (least : 1 ≤ a) (drift : Drift j q a)
  | infinite (infinite : x.toModel.unpack = .infinity .positive)
    (beyond : (2 ^ 53 - 1 / 2) * 2 ^ (971 : Int) ≤ q * (1 + 1 / 2 ^ 53) ^ j)

theorem canonical_one : Canonical (2 ^ 52) (-52) :=
  ⟨by decide, by decide, by decide, by decide, Or.inl le_rfl⟩

/-- What is at least one is not rounded below it. -/
theorem one_le_of_nearest {x : Float} {q : ℚ} (h : IsNearest x q) (least : 1 ≤ q)
    (finite : x.isFinite = true) : 1 ≤ valueOf x := by
  have value : ((2 ^ 52 : Nat) : ℚ) * 2 ^ (-52 : Int) = 1 := by norm_num
  have room := mul_pos (roomBelow_pos (2 ^ 52) (-52)) (by positivity : (0 : ℚ) < 2 ^ (-52 : Int))
  have reached : ¬ q < (((2 ^ 52 : Nat) : ℚ) - roomBelow (2 ^ 52) (-52)) * 2 ^ (-52 : Int) := by
    rw [sub_mul, value]
    linarith
  have below := (h.below_iff canonical_one (by decide)).not.mpr reached
  rw [value] at below
  exact not_lt.mp fun less => below ⟨finite, less⟩

/-- What is rounded to infinity is beyond the middle behind the largest double. -/
theorem infinity_of_nearest {x : Float} {q : ℚ} (h : IsNearest x q)
    (infinite : x.isFinite = false) :
    x.toModel.unpack = .infinity .positive ∧ (2 ^ 53 - 1 / 2) * 2 ^ (971 : Int) ≤ q := by
  change x.toModel.unpack.isFinite = false at infinite
  unfold IsNearest at h
  generalize x.toModel.unpack = u at *
  cases h with
  | zero | finite => exact nomatch infinite
  | infinite large => exact ⟨rfl, large⟩

namespace Reached

variable {q r : ℚ} {j k : Nat} {x y : Float}

theorem high_mul (least : 1 ≤ q) (least' : 1 ≤ r) :
    q * (1 + 1 / 2 ^ 53) ^ j ≤ q * r * (1 + 1 / 2 ^ 53) ^ (j + k) := by
  have up : (1 : ℚ) ≤ (1 + 1 / 2 ^ 53) ^ k := one_le_pow₀ (by norm_num)
  have some : (0 : ℚ) ≤ q * (1 + 1 / 2 ^ 53) ^ j := by positivity
  calc q * (1 + 1 / 2 ^ 53) ^ j ≤ q * (1 + 1 / 2 ^ 53) ^ j * (r * (1 + 1 / 2 ^ 53) ^ k) :=
        le_mul_of_one_le_right some (one_le_mul_of_one_le_of_one_le least' up)
    _ = q * r * (1 + 1 / 2 ^ 53) ^ (j + k) := by ring

theorem mono (h : Reached q j x) (nonneg : 0 ≤ q) (more : j ≤ k) : Reached q k x := by
  cases h with
  | full full least drift => exact .full full least (drift.mono nonneg more)
  | infinite infinite beyond =>
    refine .infinite infinite (beyond.trans ?_)
    exact mul_le_mul_of_nonneg_left (pow_le_pow_right₀ (by norm_num) more) nonneg

section
variable (hq : 1 ≤ q) (hr : 1 ≤ r)
include hq hr

/-- Infinity absorbs what is at least one. -/
theorem mul_infinite (hx : Reached q j x) (infinite : y.toModel.unpack = .infinity .positive)
    (beyond : (2 ^ 53 - 1 / 2) * 2 ^ (971 : Int) ≤ r * (1 + 1 / 2 ^ 53) ^ k) :
    Reached (q * r) (j + k) (x * y) := by
  have beyond : (2 ^ 53 - 1 / 2) * 2 ^ (971 : Int) ≤ q * r * (1 + 1 / 2 ^ 53) ^ (j + k) := by
    rw [mul_comm q, Nat.add_comm]
    exact beyond.trans (high_mul hr hq)
  refine .infinite ?_ beyond
  cases hx with
  | full full => exact (full.infinite_ops infinite).2.1
  | infinite infinite' =>
    rw [unpack_mul infinite' infinite]
    exact packed_infinity

theorem infinite_mul (infinite : x.toModel.unpack = .infinity .positive)
    (beyond : (2 ^ 53 - 1 / 2) * 2 ^ (971 : Int) ≤ q * (1 + 1 / 2 ^ 53) ^ j)
    (hy : Reached r k y) : Reached (q * r) (j + k) (x * y) := by
  refine .infinite ?_ (beyond.trans (high_mul hq hr))
  cases hy with
  | full full => exact (full.infinite_ops infinite).1
  | infinite infinite' =>
    rw [unpack_mul infinite infinite']
    exact packed_infinity

/-- A product is one rounding more than both of its factors. -/
theorem mul (hx : Reached q j x) (hy : Reached r k y) : Reached (q * r) (j + k + 1) (x * y) := by
  have nonneg : 0 ≤ q * r := by positivity
  cases hx with
  | infinite infinite beyond =>
    exact (infinite_mul hq hr infinite beyond hy).mono nonneg (Nat.le_succ _)
  | @full a full least drift =>
    cases hy with
    | infinite infinite beyond =>
      have hx : Reached q j x := .full full least drift
      exact (mul_infinite hq hr hx infinite beyond).mono nonneg (Nat.le_succ _)
    | @full b full' least' drift' =>
      have both := drift.mul drift' (by linarith) (by linarith)
      have nearest := isNearest_mul full.unsigned full.isFinite full'
      rw [full.valueOf_eq] at nearest
      have one : 1 ≤ a * b := one_le_mul_of_one_le_of_one_le least least'
      by_cases finite : (x * y).isFinite = true
      · have normal : 2 ^ (-1021 : Int) ≤ a * b :=
          le_trans (zpow_le_one_of_nonpos₀ one_le_two (by decide)) one
        exact .full (nearest.isFull finite normal) (one_le_of_nearest nearest one finite)
          (both.trans (nearest.drift finite normal))
      · obtain ⟨infinite, beyond⟩ := infinity_of_nearest nearest (by simpa using finite)
        have reached : Reached (q * r) (j + k) (x * y) :=
          .infinite infinite (beyond.trans both.high)
        exact reached.mono nonneg (Nat.le_succ _)

end

end Reached

/-! ## Squaring -/

/-- **Repeated squaring.** As many roundings as there are factors. -/
theorem reached_squaring (n : Nat) {q r : ℚ} {j k : Nat} {power square : Float} (hq : 1 ≤ q)
    (hr : 1 ≤ r) (hp : Reached q j power) (hs : Reached r k square) :
    Reached (q * r ^ n) (j + (k + 1) * n) (Scale.squaring power square n) := by
  induction n using Nat.strong_induction_on generalizing q r j k power square with
  | h n ih =>
    rw [Scale.squaring]
    split
    · rename_i zero
      rw [zero, pow_zero, mul_one, Nat.mul_zero, Nat.add_zero]
      exact hp
    · rename_i some
      have half : n / 2 < n := by omega
      have hr' : 1 ≤ r * r := one_le_mul_of_one_le_of_one_le hr hr
      have twice := hs.mul hr hr hs
      split
      · rename_i odd
        have exponent : n = 1 + 2 * (n / 2) := by omega
        have next := ih (n / 2) half (one_le_mul_of_one_le_of_one_le hq hr) hr'
          (hp.mul hq hr hs) twice
        generalize n / 2 = m at next exponent ⊢
        subst exponent
        have value : q * r ^ (1 + 2 * m) = q * r * (r * r) ^ m := by ring
        have roundings : j + (k + 1) * (1 + 2 * m) = j + k + 1 + (k + k + 1 + 1) * m := by ring
        rw [value, roundings]
        exact next
      · rename_i even
        have exponent : n = 2 * (n / 2) := by omega
        have next := ih (n / 2) half hq hr' hp twice
        generalize n / 2 = m at next exponent ⊢
        subst exponent
        have value : q * r ^ (2 * m) = q * (r * r) ^ m := by ring
        have roundings : j + (k + 1) * (2 * m) = j + (k + k + 1 + 1) * m := by ring
        rw [value, roundings]
        exact next

theorem one_eq : (1 : Float) =
    .ofModel (.pack (.finite .positive (2 ^ 52) (-52) (by decide))) := by decide +kernel

theorem ten_eq : (10 : Float) =
    .ofModel (.pack (.finite .positive (5 * 2 ^ 50) (-49) (by decide))) := by decide +kernel

theorem isFull_one : IsFull 1 1 := by
  refine ⟨2 ^ 52, -52, by decide, ?_, le_rfl, by norm_num⟩
  rw [one_eq, unpack_ofModel_pack canonical_one]

theorem isFull_ten : IsFull 10 10 := by
  have canonical : Canonical (5 * 2 ^ 50) (-49) :=
    ⟨by decide, by decide, by decide, by decide, Or.inl (by decide)⟩
  refine ⟨5 * 2 ^ 50, -49, canonical.pos, ?_, by decide, by norm_num⟩
  rw [ten_eq, unpack_ofModel_pack canonical]

theorem reached_powerOfTen (n : Nat) : Reached (10 ^ n) n (Scale.squaring 1 10 n) := by
  have one : Reached 1 0 1 := .full isFull_one le_rfl (.refl 1)
  have ten : Reached 10 0 10 := .full isFull_ten (by norm_num) (.refl 10)
  have reached := reached_squaring n le_rfl (by norm_num) one ten
  rwa [one_mul, Nat.zero_add, Nat.zero_add, Nat.one_mul] at reached

/-! ## Products that are beyond counting -/

/-- A power of ten with a double of its size has few zeros. -/
theorem zeros_le {n : Nat} (small : (8 : ℚ) ^ n < 2 ^ (1024 : Int)) : n ≤ 341 := by
  have power : (8 : ℚ) ^ n = 2 ^ (3 * n : Int) := by
    have eight : (8 : ℚ) = 2 ^ (3 : Int) := by norm_num
    rw [eight, ← zpow_natCast, ← zpow_mul]
  rw [power] at small
  have := (zpow_lt_zpow_iff_right₀ one_lt_two).mp small
  omega

theorem few_roundings {n : Nat} (few : n ≤ 341) : n * (n + 1) ≤ 2 ^ 53 := by
  have := Nat.mul_le_mul few (Nat.add_le_add_right few 1)
  omega

/-- No double has more zeros than its exponent has room for. -/
theorem zeros_of_full {n : Nat} {a : ℚ} (full : IsFull (Scale.squaring 1 10 n) a)
    (drift : Drift n (10 ^ n) a) : n ≤ 341 := by
  have below : a < 2 ^ (1024 : Int) := by
    rw [← full.valueOf_eq]
    exact valueOf_lt full.isFinite
  refine zeros_le (lt_of_le_of_lt ?_ below)
  refine le_trans ?_ drift.low
  rw [← mul_pow]
  exact pow_le_pow_left₀ (by norm_num) (by norm_num) n

/-- The last power of ten that is a double has 308 zeros. -/
theorem zeros_of_infinite {n : Nat}
    (infinite : (Scale.squaring 1 10 n).toModel.unpack = .infinity .positive) : 309 ≤ n := by
  rcases reached_powerOfTen n with @⟨a, full, -, -⟩ | ⟨-, beyond⟩
  · have finite : (Scale.squaring 1 10 n).toModel.unpack.isFinite = true := full.isFinite
    rw [infinite] at finite
    cases finite
  · by_contra few
    have few : n ≤ 308 := by omega
    have power : (10 : ℚ) ^ n ≤ 10 ^ 308 := pow_le_pow_right₀ (by norm_num) few
    have drifted : (1 + 1 / 2 ^ 53 : ℚ) ^ n ≤ 1 + 309 / 2 ^ 53 := by
      refine (Drift.one_add_pow_le (few_roundings (by omega))).trans ?_
      have zeros : (n : ℚ) ≤ 308 := by exact_mod_cast few
      linarith
    have last : (10 : ℚ) ^ 308 * (1 + 309 / 2 ^ 53) < (2 ^ 53 - 1 / 2) * 2 ^ (971 : Int) := by
      have tens : (10 : ℚ) ^ 308 = 10 ^ 154 * 10 ^ 154 := pow_add 10 154 154
      have twos : (2 : ℚ) ^ (971 : Int) = 2 ^ 243 * 2 ^ 243 * (2 ^ 243 * 2 ^ 242) := by
        rw [← pow_add, ← pow_add, ← pow_add, zpow_ofNat]
      rw [tens, twos]
      norm_num
    have reached : 10 ^ n * (1 + 1 / 2 ^ 53 : ℚ) ^ n ≤ 10 ^ 308 * (1 + 309 / 2 ^ 53) :=
      mul_le_mul power drifted (by positivity) (by positivity)
    exact absurd (beyond.trans reached) (not_le.mpr last)

section
variable {d : ℚ} {x : Float} {n : Nat} (near : IsNearest x d) (finite : x.isFinite = true)
include near finite

/-- Nothing is counted in units that are infinite, not even none of them. -/
theorem isFinite_mul_infinite {y : Float} (infinite : y.toModel.unpack = .infinity .positive) :
    (x * y).isFinite = false := by
  have unsigned := near.unsigned
  change x.toModel.unpack.isFinite = true at finite
  change (x * y).toModel.unpack.isFinite = false
  unfold Unsigned at unsigned
  rw [unpack_mul rfl infinite]
  match x.toModel.unpack, unsigned, finite with
  | .zero .positive, _, _ => rfl
  | .finite .positive .., _, _ =>
    have product : packed (.infinity .positive) = .infinity .positive := rfl
    exact congrArg UnpackedFloat.isFinite product

/-- Units of ten times ten. -/
theorem large_units (large : 2 ^ 64 ≤ d * 10 ^ n) :
    (x * Scale.squaring 1 10 n).isFinite = false ∨ ∃ c, IsFull (Scale.squaring 1 10 n) c ∧
      Drift (n + 1) (d * 10 ^ n) (valueOf x * c) ∧ n ≤ 341 := by
  rcases reached_powerOfTen n with @⟨a, full, least, drift⟩ | ⟨infinite, -⟩
  · right
    have few := zeros_of_full full drift
    have below : a < 2 ^ (1024 : Int) := by
      rw [← full.valueOf_eq]
      exact valueOf_lt full.isFinite
    have ten : (0 : ℚ) < 10 ^ n := by positivity
    have close : (10 : ℚ) ^ n ≤ 2 * a := by
      obtain ⟨low, -⟩ := abs_le.mp (drift.error_le (few_roundings few) ten.le)
      have zeros : (n : ℚ) ≤ 341 := by exact_mod_cast few
      nlinarith
    have normal : 2 ^ (-1021 : Int) ≤ d := by
      by_contra tiny
      have product : (2 : ℚ) ^ (-1021 : Int) * 2 ^ (1024 : Int) = 8 := by
        rw [← zpow_add₀ two_ne_zero]
        norm_num
      have power : (10 : ℚ) ^ n ≤ 2 * 2 ^ (1024 : Int) := by linarith
      have some : (0 : ℚ) < 2 ^ (-1021 : Int) := by positivity
      have less : d * 10 ^ n ≤ 2 ^ (-1021 : Int) * (2 * 2 ^ (1024 : Int)) :=
        mul_le_mul (not_le.mp tiny).le power ten.le some.le
      rw [mul_left_comm, product] at less
      linarith
    have nonneg : 0 ≤ d := by
      have : (0 : ℚ) < 2 ^ (-1021 : Int) := by positivity
      linarith
    refine ⟨a, full, ?_, few⟩
    rw [Nat.add_comm]
    exact (near.drift finite normal).mul drift nonneg ten.le
  · exact Or.inl (isFinite_mul_infinite near finite infinite)

/-- Units of a tenth of a tenth. -/
theorem small_units (large : 2 ^ 64 ≤ d * (10 ^ n)⁻¹) :
    ∃ c, IsFull (1 / Scale.squaring 1 10 n) c ∧
      Drift (2 * n + 2) (d * (10 ^ n)⁻¹) (valueOf x * c) ∧ n ≤ 341 := by
  have ten : (0 : ℚ) < 10 ^ n := by positivity
  have limit := near.lt_of_isFinite finite
  have most : 2 ^ 64 * 10 ^ n ≤ d := by
    rwa [← div_eq_mul_inv, le_div_iff₀ ten] at large
  have few : n ≤ 341 := by
    refine zeros_le (lt_of_le_of_lt ?_ limit)
    have eight : (8 : ℚ) ^ n ≤ 10 ^ n := pow_le_pow_left₀ (by norm_num) (by norm_num) n
    linarith
  have drifted : 10 ^ n * (1 + 1 / 2 ^ 53) ^ n ≤ 2 * (10 : ℚ) ^ n := by
    have roundings := Drift.one_add_pow_le (few_roundings few)
    have zeros : (n : ℚ) ≤ 341 := by exact_mod_cast few
    rw [mul_comm]
    exact mul_le_mul_of_nonneg_right (by linarith) ten.le
  have split : (2 : ℚ) ^ (1024 : Int) = 2 ^ 63 * 2 ^ (961 : Int) := by
    rw [← zpow_natCast, ← zpow_add₀ two_ne_zero]
    rfl
  have bound : 10 ^ n * (1 + 1 / 2 ^ 53) ^ n < (2 : ℚ) ^ (961 : Int) := by
    rw [split] at limit
    linarith
  rcases reached_powerOfTen n with @⟨a, full, least, drift⟩ | ⟨-, beyond⟩
  · have nearest := isNearest_div isFull_one.unsigned isFull_one.isFinite full
    rw [isFull_one.valueOf_eq, one_div] at nearest
    have positive : 0 < a := by linarith
    have tiny : (2 : ℚ) ^ (-1021 : Int) ≤ 1 := zpow_le_one_of_nonpos₀ one_le_two (by decide)
    have atMost : a⁻¹ ≤ 2 ^ (0 : Int) := inv_le_one_of_one_le₀ least
    have normal : 2 ^ (-1021 : Int) ≤ a⁻¹ := by
      rw [le_inv_comm₀ (by positivity) positive, ← zpow_neg]
      have higher : (2 : ℚ) ^ (961 : Int) ≤ 2 ^ (1021 : Int) :=
        zpow_le_zpow_right₀ one_le_two (by decide)
      exact (drift.high.trans bound.le).trans higher
    have input : 2 ^ (-1021 : Int) ≤ d := by
      have one : (1 : ℚ) ≤ 10 ^ n := one_le_pow₀ (by norm_num)
      linarith
    have finite' := (nearest.le_zpow (by decide) (by decide) atMost).1
    have inverse := (drift.inv ten).trans (nearest.drift finite' normal)
    have product := (near.drift finite input).mul inverse (by linarith) (by positivity)
    refine ⟨_, nearest.isFull finite' normal, ?_, few⟩
    rwa [show 1 + (2 * n + 1) = 2 * n + 2 by omega] at product
  · -- The power would be beyond the number that it divides.
    have higher : (2 : ℚ) ^ (961 : Int) ≤ 1 * 2 ^ (971 : Int) := by
      rw [one_mul]
      exact zpow_le_zpow_right₀ one_le_two (by decide)
    have top : (1 : ℚ) * 2 ^ (971 : Int) ≤ (2 ^ 53 - 1 / 2) * 2 ^ (971 : Int) :=
      mul_le_mul_of_nonneg_right (by norm_num) (by positivity)
    exact absurd (beyond.trans_lt bound) (not_lt.mpr (higher.trans top))

end

end Provision.Quantity
