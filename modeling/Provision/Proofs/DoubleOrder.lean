import Provision.Proofs.NearestDoubles
import Provision.Saturating

/-!
# The order of doubles

Doubles are compared as the numbers that they are. A number is rounded to a double beyond an even
one exactly when it lies beyond the middle between that one and its neighbour.

- `compare_eq_valueOf`: comparison, with zeros of either sign equal.
- `lt_iff_extended`, `le_iff_extended`: infinities lie at the ends, and what is no number nowhere.
- `IsNearest.above_iff`, `IsNearest.below_iff`: what is rounded beyond a double.
- `IsNearest.valueOf_of_close`, `IsNearest.valueOf_of_isDouble`: what is close to a double is
  rounded to it.
- `toNat_toUInt64`: converting to a word drops the fraction.
-/

namespace Provision.Number

open Float.Model (Format UnpackedFloat)
open Float.Model.UnpackedFloat (ExtendedMantissa Sign)

/-! ## Places -/

theorem twice_zpow_le {e e' : Int} (higher : e < e') : 2 * (2 : ℚ) ^ e ≤ 2 ^ e' := by
  have one : (2 : ℚ) * 2 ^ e = 2 ^ (e + 1) := by rw [zpow_add_one₀ two_ne_zero, mul_comm]
  rw [one]
  exact zpow_le_zpow_right₀ one_le_two (by omega)

namespace Canonical

variable {m m' : Nat} {e e' : Int} (h : Canonical m e)
include h

theorem cast_full {t : Int} (least : -1074 ≤ t) (higher : t < e) : (2 : ℚ) ^ 52 ≤ m := by
  have full := h.full.resolve_right (by omega)
  exact_mod_cast full

theorem cast_small : (m : ℚ) + 1 ≤ 2 ^ 53 := by exact_mod_cast h.small

theorem value_pos : (0 : ℚ) < m * 2 ^ e := by
  have : (0 : ℚ) < m := by exact_mod_cast h.pos
  positivity

/-- The double with the higher place is the larger one. -/
theorem lt_of_place_lt (h' : Canonical m' e') (higher : e < e') :
    (m : ℚ) * 2 ^ e < m' * 2 ^ e' := by
  have unit : (0 : ℚ) < 2 ^ e := by positivity
  have twice := twice_zpow_le higher
  have full := h'.cast_full h.least higher
  have small := h.cast_small
  nlinarith

/-- Below a double lies the one whose last place is one less, unless that has one more place. -/
theorem le_pred_of_lt (h' : Canonical m' e') (some : 2 ^ 52 < m')
    (less : (m : ℚ) * 2 ^ e < m' * 2 ^ e') : (m : ℚ) * 2 ^ e ≤ (m' - 1) * 2 ^ e' := by
  have unit : (0 : ℚ) < 2 ^ e := by positivity
  have unit' : (0 : ℚ) < 2 ^ e' := by positivity
  have digits : (2 : ℚ) ^ 52 + 1 ≤ m' := by exact_mod_cast some
  rcases lt_trichotomy e e' with lower | rfl | higher
  · have twice := twice_zpow_le lower
    have small := h.cast_small
    nlinarith
  · have fewer : m < m' := by exact_mod_cast lt_of_mul_lt_mul_right less unit.le
    have fewer : (m : ℚ) + 1 ≤ m' := by exact_mod_cast fewer
    nlinarith
  · exact absurd less (h'.lt_of_place_lt h higher).not_gt

theorem compare_eq (h' : Canonical m' e') : (compare e e').then (compare m m') =
    compare ((m : ℚ) * 2 ^ e) (m' * 2 ^ e') := by
  rcases lt_trichotomy e e' with lower | rfl | higher
  · rw [compare_lt_iff_lt.mpr lower, compare_lt_iff_lt.mpr (h.lt_of_place_lt h' lower)]
    rfl
  · have unit : (0 : ℚ) < 2 ^ e := by positivity
    rw [compare_eq_iff_eq.mpr rfl, Ordering.then]
    rcases lt_trichotomy m m' with less | rfl | more
    · have below : (m : ℚ) < m' := by exact_mod_cast less
      rw [compare_lt_iff_lt.mpr less, compare_lt_iff_lt.mpr (mul_lt_mul_of_pos_right below unit)]
    · rw [compare_eq_iff_eq.mpr rfl, compare_eq_iff_eq.mpr rfl]
    · have above : (m' : ℚ) < m := by exact_mod_cast more
      rw [compare_gt_iff_gt.mpr more, compare_gt_iff_gt.mpr (mul_lt_mul_of_pos_right above unit)]
  · rw [compare_gt_iff_gt.mpr higher, compare_gt_iff_gt.mpr (h'.lt_of_place_lt h higher)]
    rfl

end Canonical

/-! ## Comparison -/

theorem lt_iff_compare {x y : Float} :
    x < y ↔ (x.toModel.unpack.compare y.toModel.unpack == some .lt) = true := decide_eq_true_iff

theorem le_iff_compare {x y : Float} :
    x ≤ y ↔ (x.toModel.unpack.compare y.toModel.unpack).any (·.isLE) = true := decide_eq_true_iff

theorem beq_iff_compare {x y : Float} :
    (x == y) = true ↔ (x.toModel.unpack.compare y.toModel.unpack == some .eq) = true := Iff.rfl

theorem valueOf_lt {x : Float} (finite : x.isFinite = true) : valueOf x < 2 ^ (1024 : Int) := by
  have top : (0 : ℚ) < 2 ^ (1024 : Int) := by positivity
  unfold valueOf
  rcases unpack_of_isFinite finite with ⟨s, zero⟩ | ⟨s, m, e, canonical, decoded⟩
  · rw [zero]
    exact top
  · rw [decoded]
    cases s with
    | positive => exact (RoundsTo.self m e).below canonical
    | negative =>
      have pos := canonical.value_pos
      exact lt_trans (neg_neg_of_pos pos) top

theorem compare_neg (a b : ℚ) : compare (-a) (-b) = (compare a b).swap := by
  rcases lt_trichotomy a b with less | rfl | more
  · rw [compare_lt_iff_lt.mpr less, compare_gt_iff_gt.mpr (neg_lt_neg less)]
    rfl
  · rw [compare_eq_iff_eq.mpr rfl, compare_eq_iff_eq.mpr rfl]
    rfl
  · rw [compare_gt_iff_gt.mpr more, compare_lt_iff_lt.mpr (neg_lt_neg more)]
    rfl

/-- **Comparison.** Finite doubles are in the order of the numbers that they are. -/
theorem compare_eq_valueOf {x y : Float} (hx : x.isFinite = true) (hy : y.isFinite = true) :
    x.toModel.unpack.compare y.toModel.unpack = some (compare (valueOf x) (valueOf y)) := by
  have less {a b : ℚ} (h : a < b) : compare a b = .lt := compare_lt_iff_lt.mpr h
  have more {a b : ℚ} (h : b < a) : compare a b = .gt := compare_gt_iff_gt.mpr h
  have same (a : ℚ) : compare a a = .eq := compare_eq_iff_eq.mpr rfl
  unfold valueOf
  rcases unpack_of_isFinite hx with ⟨s, hx⟩ | ⟨s, m, e, h, hx⟩ <;>
    rcases unpack_of_isFinite hy with ⟨s', hy⟩ | ⟨s', m', e', h', hy⟩ <;> rw [hx, hy]
  · cases s <;> cases s' <;> simp only [UnpackedFloat.compare, same]
  · have pos := h'.value_pos
    cases s <;> cases s' <;> simp only [UnpackedFloat.compare, less pos, more (neg_neg_of_pos pos)]
  · have pos := h.value_pos
    cases s <;> cases s' <;> simp only [UnpackedFloat.compare, more pos, less (neg_neg_of_pos pos)]
  · have pos := h.value_pos
    have pos' := h'.value_pos
    have negative : -((m : ℚ) * 2 ^ e) < m' * 2 ^ e' := by linarith
    have positive : -((m' : ℚ) * 2 ^ e') < m * 2 ^ e := by linarith
    cases s <;> cases s' <;>
      simp only [UnpackedFloat.compare, h.compare_eq h', compare_neg, less negative, more positive]

section
variable {x y : Float} (hx : x.isFinite = true) (hy : y.isFinite = true)
include hx hy

theorem lt_iff_valueOf : x < y ↔ valueOf x < valueOf y := by
  rw [lt_iff_compare, compare_eq_valueOf hx hy, beq_iff_eq, Option.some_inj, compare_lt_iff_lt]

theorem le_iff_valueOf : x ≤ y ↔ valueOf x ≤ valueOf y := by
  rw [le_iff_compare, compare_eq_valueOf hx hy, Option.any_some, ← compare_le_iff_le,
    Ordering.isLE_iff_ne_gt]

end

/-! ## Infinities -/

/-- The number or the infinity that a double is, if it is one. -/
def extended? (x : Float) : Option (WithBot (WithTop ℚ)) :=
  match x.toModel.unpack with
  | .notANumber => none
  | .infinity .positive => some ⊤
  | .infinity .negative => some ⊥
  | _ => some (valueOf x : WithTop ℚ)

theorem extended?_eq_none_iff {x : Float} :
    extended? x = none ↔ x.toModel.unpack = .notANumber := by
  unfold extended?
  match x.toModel.unpack with
  | .notANumber => simp
  | .infinity .positive | .infinity .negative | .zero _ | .finite .. => simp

theorem extended?_cases {x : Float} {a : WithBot (WithTop ℚ)} (h : extended? x = some a) :
    x.toModel.unpack = .infinity .negative ∧ a = ⊥ ∨
      x.toModel.unpack = .infinity .positive ∧ a = ⊤ ∨
      x.isFinite = true ∧ a = (valueOf x : WithTop ℚ) := by
  change _ ∨ _ ∨ x.toModel.unpack.isFinite = true ∧ _
  unfold extended? at h
  cases decoded : x.toModel.unpack with
  | notANumber =>
    rw [decoded] at h
    cases h
  | infinity s =>
    cases s <;> rw [decoded] at h <;> cases h <;> simp
  | zero s =>
    rw [decoded] at h
    cases h
    exact Or.inr (Or.inr ⟨rfl, rfl⟩)
  | finite s m e pos =>
    rw [decoded] at h
    cases h
    exact Or.inr (Or.inr ⟨rfl, rfl⟩)

theorem compare_infinity {u : UnpackedFloat} (finite : u.isFinite = true) :
    UnpackedFloat.compare (.infinity .negative) u = some .lt ∧
      UnpackedFloat.compare (.infinity .positive) u = some .gt ∧
      UnpackedFloat.compare u (.infinity .negative) = some .gt ∧
      UnpackedFloat.compare u (.infinity .positive) = some .lt := by
  cases u with
  | notANumber => cases finite
  | infinity s => cases finite
  | zero s => exact ⟨rfl, rfl, rfl, rfl⟩
  | finite s m e pos => cases s <;> exact ⟨rfl, rfl, rfl, rfl⟩

theorem compare_eq_extended {x y : Float} {a b : WithBot (WithTop ℚ)}
    (hx : extended? x = some a) (hy : extended? y = some b) :
    x.toModel.unpack.compare y.toModel.unpack = some (compare a b) := by
  have embed : StrictMono fun q : ℚ => ((q : WithTop ℚ) : WithBot (WithTop ℚ)) :=
    WithBot.coe_strictMono.comp WithTop.coe_strictMono
  have bottom (q : ℚ) : (⊥ : WithBot (WithTop ℚ)) < (q : WithTop ℚ) := WithBot.bot_lt_coe _
  have top (q : ℚ) : ((q : WithTop ℚ) : WithBot (WithTop ℚ)) < ⊤ :=
    WithBot.coe_strictMono (WithTop.coe_lt_top q)
  rcases extended?_cases hx with ⟨ux, rfl⟩ | ⟨ux, rfl⟩ | ⟨fx, rfl⟩ <;>
    rcases extended?_cases hy with ⟨uy, rfl⟩ | ⟨uy, rfl⟩ | ⟨fy, rfl⟩
  · rw [ux, uy, compare_eq_iff_eq.mpr rfl]
    rfl
  · rw [ux, uy, compare_lt_iff_lt.mpr bot_lt_top]
    rfl
  · rw [ux, (compare_infinity fy).1, compare_lt_iff_lt.mpr (bottom _)]
  · rw [ux, uy, compare_gt_iff_gt.mpr bot_lt_top]
    rfl
  · rw [ux, uy, compare_eq_iff_eq.mpr rfl]
    rfl
  · rw [ux, (compare_infinity fy).2.1, compare_gt_iff_gt.mpr (top _)]
  · rw [uy, (compare_infinity fx).2.2.1, compare_gt_iff_gt.mpr (bottom _)]
  · rw [uy, (compare_infinity fx).2.2.2, compare_lt_iff_lt.mpr (top _)]
  · rw [compare_eq_valueOf fx fy, ← cmp_eq_compare, ← cmp_eq_compare, embed.cmp_map_eq]

theorem compare_notANumber (u : UnpackedFloat) :
    UnpackedFloat.compare u .notANumber = none ∧ UnpackedFloat.compare .notANumber u = none := by
  cases u <;> exact ⟨rfl, rfl⟩

/-- What is no number is neither below nor above anything. -/
theorem exists_extended {x y : Float} (h : x < y ∨ x ≤ y) :
    ∃ a b, extended? x = some a ∧ extended? y = some b := by
  rw [lt_iff_compare, le_iff_compare] at h
  cases hx : extended? x with
  | none =>
    rw [extended?_eq_none_iff.mp hx, (compare_notANumber _).2] at h
    simp at h
  | some a =>
    cases hy : extended? y with
    | none =>
      rw [extended?_eq_none_iff.mp hy, (compare_notANumber _).1] at h
      simp at h
    | some b => exact ⟨a, b, rfl, rfl⟩

section
variable {x y : Float} {a b : WithBot (WithTop ℚ)} (hx : extended? x = some a)
  (hy : extended? y = some b)
include hx hy

theorem lt_iff_extended : x < y ↔ a < b := by
  rw [lt_iff_compare, compare_eq_extended hx hy, beq_iff_eq, Option.some_inj, compare_lt_iff_lt]

theorem le_iff_extended : x ≤ y ↔ a ≤ b := by
  rw [le_iff_compare, compare_eq_extended hx hy, Option.any_some, ← compare_le_iff_le,
    Ordering.isLE_iff_ne_gt]

end

theorem le_refl_of_le {x y : Float} (h : x ≤ y) : x ≤ x := by
  obtain ⟨a, -, hx, -⟩ := exists_extended (Or.inr h)
  exact (le_iff_extended hx hx).mpr le_rfl

theorem not_le_of_lt_of_le {x y z : Float} (less : x < y) (below : y ≤ z) : ¬ z ≤ x := by
  intro above
  obtain ⟨a, b, hx, hy⟩ := exists_extended (Or.inl less)
  obtain ⟨-, c, -, hz⟩ := exists_extended (Or.inr below)
  rw [lt_iff_extended hx hy] at less
  rw [le_iff_extended hy hz] at below
  rw [le_iff_extended hz hx] at above
  exact absurd (less.trans_le below) (not_lt.mpr above)

/-! ## What is rounded beyond a double -/

/-- A double with all its bits leaves room for the lower numbers with one place more. -/
theorem Canonical.le_sub_room {m : Nat} {e t : Int} (h : Canonical m e) (least : -1074 ≤ t)
    (higher : t < e) : (2 : ℚ) ^ 52 - 1 / 4 ≤ m - roomBelow m e := by
  by_cases power : m = 2 ^ 52
  · have room : roomBelow m e = 1 / 4 := if_pos ⟨power, by omega⟩
    rw [room, power]
    norm_num
  · have room := roomBelow_le m e
    have bits := h.full.resolve_right (by omega)
    have more : (2 : ℚ) ^ 52 + 1 ≤ m := by exact_mod_cast (by omega : 2 ^ 52 + 1 ≤ m)
    linarith

section
variable {M m : Nat} {E e : Int} {q : ℚ} (own : Canonical M E) (even : M % 2 = 0)
  (h : Canonical m e) (rounds : RoundsTo m e q)
include own even h rounds

theorem RoundsTo.above_middle (larger : (M : ℚ) * 2 ^ E < m * 2 ^ e) :
    (M + 1 / 2) * 2 ^ E < q := by
  have unit : (0 : ℚ) < 2 ^ E := by positivity
  have unit' : (0 : ℚ) < 2 ^ e := by positivity
  have room := roomBelow_le m e
  have low := rounds.low
  rcases lt_trichotomy E e with higher | rfl | lower
  · have twice := twice_zpow_le higher
    have full := h.cast_full own.least higher
    -- An even mantissa is not the largest one.
    have small : (M : ℚ) + 2 ≤ 2 ^ 53 := by
      have := own.small
      exact_mod_cast (by omega : M + 2 ≤ 2 ^ 53)
    nlinarith
  · have more : M < m := by exact_mod_cast lt_of_mul_lt_mul_right larger unit.le
    by_cases next : m = M + 1
    · have strict := (rounds.even (by omega)).1
      rw [next] at strict room
      push_cast at strict
      nlinarith
    · have far : (M : ℚ) + 2 ≤ m := by exact_mod_cast (by omega : M + 2 ≤ m)
      nlinarith
  · exact absurd larger (h.lt_of_place_lt own lower).not_gt

theorem RoundsTo.below_middle (smaller : (m : ℚ) * 2 ^ e < M * 2 ^ E) :
    q < (M - roomBelow M E) * 2 ^ E := by
  have unit : (0 : ℚ) < 2 ^ E := by positivity
  have unit' : (0 : ℚ) < 2 ^ e := by positivity
  have high := rounds.high
  rcases lt_trichotomy e E with higher | rfl | lower
  · have twice := twice_zpow_le higher
    have full := own.cast_full h.least higher
    have strict : q < (2 ^ 53 - 1 / 2) * 2 ^ e := by
      by_cases odd : m % 2 = 1
      · have small := h.cast_small
        have below := (rounds.even odd).2
        nlinarith
      · have small : (m : ℚ) + 2 ≤ 2 ^ 53 := by
          have := h.small
          exact_mod_cast (by omega : m + 2 ≤ 2 ^ 53)
        nlinarith
    have left := own.le_sub_room h.least higher
    calc q < (2 ^ 53 - 1 / 2) * 2 ^ e := strict
      _ = (2 ^ 52 - 1 / 4) * (2 * 2 ^ e) := by ring
      _ ≤ (M - roomBelow M E) * 2 ^ E := mul_le_mul left twice (by positivity) (by linarith)
  · have room := roomBelow_le M e
    have less : m < M := by exact_mod_cast lt_of_mul_lt_mul_right smaller unit.le
    by_cases next : M = m + 1
    · have strict := (rounds.even (by omega)).2
      have value : (M : ℚ) = m + 1 := by exact_mod_cast next
      nlinarith
    · have far : (m : ℚ) + 2 ≤ M := by exact_mod_cast (by omega : m + 2 ≤ M)
      nlinarith
  · exact absurd smaller (own.lt_of_place_lt h lower).not_gt

end

section
variable {M m : Nat} {E e : Int} {q : ℚ} (own : Canonical M E) (h : Canonical m e)
  (rounds : RoundsTo m e q)
include own h rounds

theorem RoundsTo.le_middle (most : (m : ℚ) * 2 ^ e ≤ M * 2 ^ E) : q ≤ (M + 1 / 2) * 2 ^ E := by
  have unit : (0 : ℚ) < 2 ^ E := by positivity
  have unit' : (0 : ℚ) < 2 ^ e := by positivity
  have high := rounds.high
  rcases lt_trichotomy e E with higher | rfl | lower
  · have twice := twice_zpow_le higher
    have full := own.cast_full h.least higher
    have small := h.cast_small
    nlinarith
  · have digits := le_of_mul_le_mul_right most unit
    nlinarith
  · exact absurd (own.lt_of_place_lt h lower) most.not_gt

theorem RoundsTo.middle_le (least : (M : ℚ) * 2 ^ E ≤ m * 2 ^ e) :
    (M - roomBelow M E) * 2 ^ E ≤ q := by
  have unit : (0 : ℚ) < 2 ^ E := by positivity
  have unit' : (0 : ℚ) < 2 ^ e := by positivity
  have low := rounds.low
  have room := roomBelow_pos M E
  rcases lt_trichotomy E e with higher | rfl | lower
  · have twice := twice_zpow_le higher
    have full := h.cast_full own.least higher
    have small := own.cast_small
    have room' := roomBelow_le m e
    nlinarith
  · have digits := le_of_mul_le_mul_right least unit
    rcases eq_or_lt_of_le digits with same | more
    · rw [← same] at low
      have : M = m := by exact_mod_cast same
      rw [this]
      rwa [this] at low
    · have next : (M : ℚ) + 1 ≤ m := by
        have : M < m := by exact_mod_cast more
        exact_mod_cast this
      have room' := roomBelow_le m E
      nlinarith
  · exact absurd (h.lt_of_place_lt own lower) least.not_gt

end

/-- A number within a quarter of the last place of a double rounds to no other one. -/
theorem RoundsTo.eq_of_close {M m : Nat} {E e : Int} {q : ℚ} (own : Canonical M E)
    (h : Canonical m e) (rounds : RoundsTo m e q) (close : |q - M * 2 ^ E| < 1 / 4 * 2 ^ E) :
    m = M ∧ e = E := by
  have unit : (0 : ℚ) < 2 ^ E := by positivity
  have unit' : (0 : ℚ) < 2 ^ e := by positivity
  obtain ⟨below, above⟩ := abs_lt.mp close
  have low := rounds.low
  have high := rounds.high
  rcases lt_trichotomy e E with higher | rfl | lower
  · have twice := twice_zpow_le higher
    have full := own.cast_full h.least higher
    have small := h.cast_small
    nlinarith
  · have room := roomBelow_le m e
    have most : (m : ℚ) < M + 1 := lt_of_mul_lt_mul_right (by nlinarith) unit.le
    have least : (M : ℚ) < m + 1 := lt_of_mul_lt_mul_right (by nlinarith) unit.le
    have most : m < M + 1 := by exact_mod_cast most
    have least : M < m + 1 := by exact_mod_cast least
    exact ⟨by omega, rfl⟩
  · have twice := twice_zpow_le lower
    have full := h.cast_full own.least lower
    have small := own.cast_small
    have left := h.le_sub_room own.least lower
    nlinarith

section
variable {M : Nat} {E : Int} {q : ℚ} {x : Float} (own : Canonical M E) (h : IsNearest x q)
include own h

theorem IsNearest.above_iff (even : M % 2 = 0) :
    x.isFinite = false ∨ M * 2 ^ E < valueOf x ↔ (M + 1 / 2) * 2 ^ E < q := by
  have unit : (0 : ℚ) < 2 ^ E := by positivity
  have digits : (1 : ℚ) ≤ M := by exact_mod_cast own.pos
  have least := own.least_le
  unfold IsNearest at h
  unfold valueOf
  change x.toModel.unpack.isFinite = false ∨ _ ↔ _
  generalize x.toModel.unpack = u at *
  cases h with
  | zero tiny =>
    have positive := own.value_pos
    simp only [UnpackedFloat.isFinite, Bool.true_eq_false, false_or, not_lt.mpr positive.le,
      false_iff]
    nlinarith
  | @finite m e canonical rounds =>
    simp only [UnpackedFloat.isFinite, Bool.true_eq_false, false_or]
    constructor
    · exact rounds.above_middle own even canonical
    · intro beyond
      by_contra most
      exact absurd (rounds.le_middle own canonical (not_lt.mp most)) (not_le.mpr beyond)
  | infinite large =>
    have most := own.most_le
    have small : (M : ℚ) + 2 ≤ 2 ^ 53 := by
      have := own.small
      exact_mod_cast (by omega : M + 2 ≤ 2 ^ 53)
    have top : (0 : ℚ) < 2 ^ (971 : Int) := by positivity
    simp only [UnpackedFloat.isFinite, true_or, true_iff]
    generalize (2 : ℚ) ^ (971 : Int) = t at *
    nlinarith

theorem IsNearest.below_iff (even : M % 2 = 0) :
    x.isFinite = true ∧ valueOf x < M * 2 ^ E ↔ q < (M - roomBelow M E) * 2 ^ E := by
  have unit : (0 : ℚ) < 2 ^ E := by positivity
  have digits : (2 : ℚ) ≤ M := by
    have := own.pos
    exact_mod_cast (by omega : 2 ≤ M)
  have least := own.least_le
  have room := roomBelow_le M E
  unfold IsNearest at h
  unfold valueOf
  change x.toModel.unpack.isFinite = true ∧ _ ↔ _
  generalize x.toModel.unpack = u at *
  cases h with
  | zero tiny =>
    have positive := own.value_pos
    simp only [UnpackedFloat.isFinite, true_and, positive, true_iff]
    nlinarith
  | @finite m e canonical rounds =>
    simp only [UnpackedFloat.isFinite, true_and]
    constructor
    · exact rounds.below_middle own even canonical
    · intro beyond
      by_contra most
      exact absurd (rounds.middle_le own canonical (not_lt.mp most)) (not_le.mpr beyond)
  | infinite large =>
    have most := own.most_le
    have small := own.cast_small
    have some := roomBelow_pos M E
    have top : (0 : ℚ) < 2 ^ (971 : Int) := by positivity
    simp only [UnpackedFloat.isFinite, Bool.false_eq_true, false_and, false_iff]
    generalize (2 : ℚ) ^ (971 : Int) = t at *
    nlinarith

/-- A number close to a double is rounded to it. -/
theorem IsNearest.valueOf_of_close (close : |q - M * 2 ^ E| < 1 / 4 * 2 ^ E) :
    x.isFinite = true ∧ valueOf x = M * 2 ^ E := by
  have unit : (0 : ℚ) < 2 ^ E := by positivity
  have digits : (1 : ℚ) ≤ M := by exact_mod_cast own.pos
  obtain ⟨below, above⟩ := abs_lt.mp close
  unfold IsNearest at h
  unfold valueOf
  change x.toModel.unpack.isFinite = true ∧ _
  generalize x.toModel.unpack = u at *
  cases h with
  | zero tiny =>
    have least := own.least_le
    nlinarith
  | @finite m e canonical rounds =>
    obtain ⟨rfl, rfl⟩ := rounds.eq_of_close own canonical close
    exact ⟨rfl, rfl⟩
  | infinite large =>
    have most := own.most_le
    have small := own.cast_small
    have top : (0 : ℚ) < 2 ^ (971 : Int) := by positivity
    generalize (2 : ℚ) ^ (971 : Int) = t at *
    nlinarith

end

/-! ## Numbers that are doubles -/

theorem Unsigned.valueOf_nonneg {x : Float} (unsigned : Unsigned x) : 0 ≤ valueOf x := by
  unfold Unsigned at unsigned
  unfold valueOf
  match x.toModel.unpack, unsigned with
  | .infinity .positive, _ | .zero .positive, _ => exact le_rfl
  | .finite .positive m e _, _ =>
    change (0 : ℚ) ≤ m * 2 ^ e
    positivity

/-- A number that is a double. -/
def IsDouble (q : ℚ) : Prop := ∃ x : Float, x.isFinite = true ∧ valueOf x = q

theorem IsDouble.cases {q : ℚ} (h : IsDouble q) (nonneg : 0 ≤ q) :
    q = 0 ∨ ∃ m e, Canonical m e ∧ q = m * 2 ^ e := by
  obtain ⟨x, finite, rfl⟩ := h
  unfold valueOf at *
  rcases unpack_of_isFinite finite with ⟨s, zero⟩ | ⟨s, m, e, canonical, decoded⟩
  · rw [zero]
    exact Or.inl rfl
  · have pos := canonical.value_pos
    rw [decoded] at nonneg ⊢
    cases s with
    | positive => exact Or.inr ⟨m, e, canonical, rfl⟩
    | negative =>
      change (0 : ℚ) ≤ -(m * 2 ^ e) at nonneg
      linarith

section
variable {x : Float} {q : ℚ} (h : IsNearest x q)
include h

/-- Up to a power of two numbers are rounded up to it at most. -/
theorem IsNearest.le_zpow {t : Int} (least : -1022 ≤ t) (most : t ≤ 1023) (le : q ≤ 2 ^ t) :
    x.isFinite = true ∧ valueOf x ≤ 2 ^ t := by
  have own : Canonical (2 ^ 52) (t - 52) :=
    ⟨by decide, by decide, by omega, by omega, Or.inl le_rfl⟩
  have unit : (0 : ℚ) < 2 ^ (t - 52) := by positivity
  have power : ((2 ^ 52 : Nat) : ℚ) * 2 ^ (t - 52) = 2 ^ t := by
    rw [Nat.cast_pow, Nat.cast_ofNat, ← zpow_natCast, ← zpow_add₀ two_ne_zero]
    congr 1
    omega
  have above := (h.above_iff own (by decide)).not.mpr (by rw [add_mul, power]; linarith)
  rwa [not_or, Bool.not_eq_false, not_lt, power] at above

theorem IsNearest.normal (some : 2 ^ (-1021 : Int) < valueOf x) : 2 ^ (-1021 : Int) ≤ q := by
  by_contra tiny
  have most := (h.le_zpow (by decide) (by decide) (not_le.mp tiny).le).2
  exact absurd some (not_lt.mpr most)

theorem IsNearest.valueOf_zero (zero : q = 0) : x.isFinite = true ∧ valueOf x = 0 := by
  subst zero
  unfold IsNearest at h
  unfold valueOf
  change x.toModel.unpack.isFinite = true ∧ _
  generalize x.toModel.unpack = u at *
  cases h with
  | zero => exact ⟨rfl, rfl⟩
  | @finite m e canonical rounds =>
    have low := rounds.low
    have room := roomBelow_le m e
    have unit : (0 : ℚ) < 2 ^ e := by positivity
    have digits : (1 : ℚ) ≤ m := by exact_mod_cast canonical.pos
    nlinarith
  | infinite large =>
    have top : (0 : ℚ) < 2 ^ (971 : Int) := by positivity
    exact absurd large (not_le.mpr (mul_pos (by norm_num) top))

/-- What is within two bits of a double is rounded to it. -/
theorem IsNearest.valueOf_of_isDouble {r : ℚ} (own : IsDouble r) (nonneg : 0 ≤ r)
    (close : |q - r| ≤ r / 2 ^ 55) : x.isFinite = true ∧ valueOf x = r := by
  rcases own.cases nonneg with rfl | ⟨m, e, canonical, rfl⟩
  · rw [zero_div, sub_zero, abs_nonpos_iff] at close
    exact h.valueOf_zero close
  · refine h.valueOf_of_close canonical (lt_of_le_of_lt close ?_)
    have unit : (0 : ℚ) < 2 ^ e := by positivity
    have small := canonical.cast_small
    linarith [mul_le_mul_of_nonneg_right small unit.le]

end

/-- Doubles with all their bits are not rounded past. -/
theorem IsNearest.le_valueOf {x : Float} {q : ℚ} {M : Nat} {E : Int} (h : IsNearest x q)
    (own : Canonical M E) (some : 2 ^ 52 < M) (least : M * 2 ^ E ≤ q) :
    x.isFinite = false ∨ M * 2 ^ E ≤ valueOf x := by
  have unit : (0 : ℚ) < 2 ^ E := by positivity
  have before : Canonical (M - 1) E :=
    ⟨by omega, Nat.lt_of_le_of_lt (Nat.sub_le M 1) own.small, own.least, own.most,
      Or.inl (by omega)⟩
  have digits : ((M - 1 : Nat) : ℚ) = M - 1 := by rw [Nat.cast_sub (by omega), Nat.cast_one]
  unfold IsNearest at h
  unfold valueOf
  change x.toModel.unpack.isFinite = false ∨ _
  generalize x.toModel.unpack = u at *
  cases h with
  | zero tiny =>
    have first := own.least_le
    have large : (1 : ℚ) ≤ M := by exact_mod_cast own.pos
    nlinarith
  | @finite m e canonical rounds =>
    right
    by_contra less
    have below := canonical.le_pred_of_lt own some (not_le.mp less)
    rw [← digits] at below
    have most := rounds.le_middle before canonical below
    rw [digits] at most
    nlinarith
  | infinite => exact Or.inl rfl

/-! ## Words -/

theorem roundToInt_eq (m : Nat) (e : Int) :
    UnpackedFloat.roundToInt .positive m e = (⌊(m : ℚ) * 2 ^ e⌋₊ : Int) := by
  unfold UnpackedFloat.roundToInt UnpackedFloat.decreaseExponent
  simp only [UnpackedFloat.shiftToExponent]
  generalize shift : (e - 0).toNat = n
  have exact : Represents (.ofMantissaAndAccuracy (m <<< n) .exact) (m <<< n : Nat) := rfl
  have fine : e - (n : Int) ≤ 0 := by omega
  have shifted := (exact.shiftTo fine).floor
  have value : ((m <<< n : Nat) : ℚ) * 2 ^ (e - (n : Int)) / 2 ^ (0 : Int) = m * 2 ^ e := by
    rw [Nat.shiftLeft_eq, Nat.cast_mul, Nat.cast_pow, Nat.cast_ofNat, zpow_zero, div_one,
      zpow_sub₀ two_ne_zero, zpow_natCast]
    field_simp
  rw [value] at shifted
  have floor := (Nat.floor_eq_iff (by positivity)).mpr shifted
  rw [floor]
  rfl

/-- **Words.** A double without a sign is converted by dropping its fraction; what is too large
becomes the largest word. -/
theorem toNat_toUInt64 {x : Float} (unsigned : Unsigned x) (finite : x.isFinite = true) :
    x.toUInt64.toNat = min ⌊valueOf x⌋₊ (2 ^ 64 - 1) := by
  have clamped : x.toUInt64 =
      UInt64.ofNatClamp (x.toModel.unpack.toInt 0 (UInt64.size - 1)).toNat := rfl
  have size : UInt64.size - 1 = 2 ^ 64 - 1 := rfl
  change x.toModel.unpack.isFinite = true at finite
  unfold Unsigned at unsigned
  unfold valueOf
  rw [clamped, Saturating.toNat_ofNatClamp, size]
  match x.toModel.unpack, unsigned, finite with
  | .zero .positive, _, _ =>
    rw [Nat.floor_zero]
    rfl
  | .finite .positive m e _, _, _ =>
    rw [UnpackedFloat.toInt, roundToInt_eq, Int.toNat_natCast]

end Provision.Number
