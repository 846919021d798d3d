import Provision.Proofs.DoubleOrder
import Provision.Readiness

/-!
# Deploying where nothing is left

Exhausted capacity blocks no deployment by itself, it has to be exceeded. Memory is exceeded by any
amount, but cores are rounded to hundredths first, so that less than half a hundredth of a core in
all replicas together is deployed where there are none.

- `roundAway_pos_iff`: what is rounded away from zero is half at least.
- `roundCpu_pos_iff`: what is rounded to hundredths is half a hundredth at least.
- `exhausted_blocks`: what is blocked on exhausted capacity.
- `exhausted_admits`: four thousandths of a core are deployed where there are none.
-/

namespace Provision.Number

open Float.Model (Format UnpackedFloat)

/-! ## Rounding away from zero -/

theorem roundQuotient_pos_iff {num den : Nat} (pos : 0 < den) :
    0 < roundQuotient .up num den ↔ den ≤ 2 * num := by
  rcases Nat.lt_or_ge num den with less | more
  · rw [roundQuotient, Nat.mod_eq_of_lt less, Nat.div_eq_of_lt less]
    split
    · omega
    · split <;> omega
  · have floor : 0 < num / den := Nat.div_pos more pos
    refine iff_of_true ?_ (by omega)
    rcases roundQuotient_cases .up num den pos with ⟨rounded, -⟩ | ⟨rounded, -⟩ <;> rw [rounded]
    · exact floor
    · exact Nat.succ_pos _

theorem roundAway_of_infinite {z : Float} (infinite : z.isFinite = false) : roundAway z = z := by
  unfold roundAway
  cases decoded : Binary.ofFloat z with
  | notANumber => rfl
  | infinite => rfl
  | finite negative m e =>
    change z.toModel.unpack.isFinite = false at infinite
    rcases eq_pack_of_ofFloat decoded with ⟨-, rfl⟩ | ⟨canonical, rfl⟩
    · cases negative <;> cases infinite
    · rw [unpack_ofModel_pack canonical] at infinite
      cases infinite

theorem isFull_hundred : IsFull 100 (100 : Nat) :=
  @isFull_ofNat 100 0 (by decide) (by decide) (by decide)

section
variable {w : Float} (unsigned : Unsigned w)
include unsigned

/-- A hundredth of what is at least one is not lost. -/
theorem div_hundred_pos (finite : w.isFinite = true) (least : 1 ≤ valueOf w) : 0 < w / 100 := by
  have nearest := isNearest_div unsigned finite isFull_hundred
  have below := valueOf_lt finite
  have bound : valueOf w / (100 : Nat) ≤ 2 ^ (1023 : Int) := by
    rw [div_le_iff₀ (by norm_num)]
    have split : (2 : ℚ) ^ (1024 : Int) = 2 ^ (1023 : Int) * 2 := by
      rw [← zpow_add_one₀ two_ne_zero]
      rfl
    have top : (0 : ℚ) < 2 ^ (1023 : Int) := by positivity
    calc valueOf w ≤ 2 ^ (1023 : Int) * 2 := (below.trans_eq split).le
      _ ≤ 2 ^ (1023 : Int) * (100 : Nat) := mul_le_mul_of_nonneg_left (by norm_num) top.le
  have finite' := (nearest.le_zpow (by decide) (by decide) bound).1
  have some : (1 : ℚ) / 100 ≤ valueOf w / (100 : Nat) := by
    push_cast
    linarith
  have normal : 2 ^ (-1021 : Int) ≤ valueOf w / (100 : Nat) := by
    refine le_trans ?_ some
    have power : (2 : ℚ) ^ (-7 : Int) ≤ 1 / 100 := by norm_num
    exact le_trans (zpow_le_zpow_right₀ one_le_two (by decide)) power
  have zero : valueOf 0 = 0 := rfl
  rw [lt_iff_valueOf rfl finite', zero]
  have low := (nearest.drift finite' normal).low
  rw [pow_one] at low
  linarith

end

theorem not_div_zero_pos :
    ¬ (0 : Float) < roundAway 0 / 100 ∧ ¬ (0 : Float) < Float.ofNat 0 / 100 := by decide +kernel

theorem infinite_div_hundred_pos {z : Float} (infinite : z.toModel.unpack = .infinity .positive) :
    0 < z / 100 := by
  rw [lt_iff_compare, (isFull_hundred.infinite_ops infinite).2.2]
  rfl

/-- The nearest whole number has no more bits than the mantissa. -/
theorem roundQuotient_small {m k : Nat} (small : m < 2 ^ 53) :
    roundQuotient .up m (1 <<< k) < 2 ^ 53 := by
  have den : 0 < 1 <<< k := by
    rw [Nat.one_shiftLeft]
    positivity
  have near := roundQuotient_le .up m (1 <<< k) den
  generalize 1 <<< k = d at *
  generalize roundQuotient .up m d = n at *
  by_contra large
  nlinarith

theorem half_le_iff {m : Nat} {e : Int} (below : e < 0) :
    1 <<< e.natAbs ≤ 2 * m ↔ (1 : ℚ) / 2 ≤ m * 2 ^ e := by
  have exponent : e = -(e.natAbs : Int) := by omega
  rw [Nat.one_shiftLeft, exponent, zpow_neg, zpow_natCast, Int.natAbs_neg, Int.natAbs_natCast,
    ← div_eq_mul_inv, div_le_div_iff₀ two_pos (by positivity), one_mul, mul_comm (m : ℚ)]
  exact_mod_cast Iff.rfl

/-- What is rounded from a positive number. -/
theorem roundAway_finite_pos_iff {z : Float} {m : Nat} {e : Int} (canonical : Canonical m e)
    (decoded : Binary.ofFloat z = .finite false m e)
    (unpacked : z.toModel.unpack = .finite .positive m e canonical.pos) :
    0 < roundAway z / 100 ↔ 1 / 2 ≤ valueOf z := by
  have value : valueOf z = m * 2 ^ e := by rw [valueOf, unpacked]
  have digits : (1 : ℚ) ≤ m := by exact_mod_cast canonical.pos
  by_cases whole : 0 ≤ e
  · have one : (1 : ℚ) ≤ 2 ^ e := one_le_zpow₀ one_le_two whole
    have least : 1 ≤ valueOf z := by
      rw [value]
      exact one_le_mul_of_one_le_of_one_le digits one
    have unsigned : Unsigned z := by
      unfold Unsigned
      rw [unpacked]
      rfl
    have finite : z.isFinite = true := by
      change z.toModel.unpack.isFinite = true
      rw [unpacked]
      rfl
    have same : roundAway z = z := by
      simp only [roundAway, decoded, if_pos whole]
    rw [same]
    exact iff_of_true (div_hundred_pos unsigned finite least) (by linarith)
  · have rounded : roundAway z = Float.ofNat (roundQuotient .up m (1 <<< e.natAbs)) := by
      simp only [roundAway, decoded, if_neg whole, Bool.false_eq_true, if_false]
    have den : 0 < 1 <<< e.natAbs := by
      rw [Nat.one_shiftLeft]
      positivity
    rw [rounded, value, ← half_le_iff (by omega), ← roundQuotient_pos_iff den]
    have small := roundQuotient_small (k := e.natAbs) canonical.small
    generalize roundQuotient .up m (1 <<< e.natAbs) = n at *
    rcases Nat.eq_zero_or_pos n with rfl | pos
    · exact iff_of_false not_div_zero_pos.2 (Nat.lt_irrefl 0)
    · have full := @isFull_ofNat n 0 pos small (by decide)
      rw [pow_zero, Nat.mul_one] at full
      refine iff_of_true (div_hundred_pos full.unsigned full.isFinite ?_) pos
      rw [full.valueOf_eq]
      exact_mod_cast pos

/-- A double without a sign is rounded to zero exactly below one half. -/
theorem roundAway_pos_iff {z : Float} (unsigned : Unsigned z) :
    0 < roundAway z / 100 ↔ z.isFinite = false ∨ 1 / 2 ≤ valueOf z := by
  by_cases finite : z.isFinite = true
  · rw [finite]
    simp only [Bool.true_eq_false, false_or]
    obtain ⟨negative, m, e, decoded⟩ := ofFloat_of_isFinite finite
    rcases eq_pack_of_ofFloat decoded with ⟨-, zero⟩ | ⟨canonical, packed⟩
    · cases negative with
      | true =>
        rw [zero] at unsigned
        cases unsigned
      | false =>
        rw [zero]
        refine iff_of_false not_div_zero_pos.1 (not_le.mpr ?_)
        change (0 : ℚ) < 1 / 2
        norm_num
    · have unpacked := unpack_ofModel_pack canonical (signOf negative)
      rw [← packed] at unpacked
      cases negative with
      | true =>
        unfold Unsigned at unsigned
        rw [unpacked] at unsigned
        cases unsigned
      | false => exact roundAway_finite_pos_iff canonical decoded unpacked
  · have infinite : z.isFinite = false := by simpa using finite
    rw [roundAway_of_infinite infinite]
    exact iff_of_true (infinite_div_hundred_pos (unsigned.unpack_of_infinite infinite))
      (Or.inl infinite)

/-! ## Hundredths -/

theorem half_hundredth_eq : (0.005 : Float) =
    .ofModel (.pack (.finite .positive 5764607523034235 (-60) (by decide))) := by decide +kernel

theorem canonical_half_hundredth : Canonical 5764607523034235 (-60) :=
  ⟨by decide, by decide, by decide, by decide, Or.inl (by decide)⟩

theorem valueOf_half_hundredth : valueOf 0.005 = (5764607523034235 : Nat) * 2 ^ (-60 : Int) := by
  rw [valueOf, half_hundredth_eq, unpack_ofModel_pack canonical_half_hundredth]

theorem canonical_half : Canonical (2 ^ 52) (-53) :=
  ⟨by decide, by decide, by decide, by decide, Or.inl le_rfl⟩

/-- Half a hundredth is the first double of which a hundred make a half, rounded. -/
theorem half_hundredth_le_iff {y : Float} (finite : y.isFinite = true) :
    valueOf 0.005 ≤ valueOf y ↔
      (((2 ^ 52 : Nat) : ℚ) - roomBelow (2 ^ 52) (-53)) * 2 ^ (-53 : Int) ≤
        valueOf y * (100 : Nat) := by
  have room : roomBelow (2 ^ 52) (-53) = 1 / 4 := if_pos ⟨rfl, by decide⟩
  rw [room, valueOf_half_hundredth]
  constructor
  · intro least
    norm_num at least ⊢
    linarith
  · intro half
    by_contra less
    rw [not_le] at less
    have before : valueOf y ≤ ((5764607523034235 : Nat) - 1) * 2 ^ (-60 : Int) := by
      unfold valueOf at *
      rcases unpack_of_isFinite finite with ⟨s, zero⟩ | ⟨s, m, e, canonical, decoded⟩
      · rw [zero]
        norm_num
      · have pos := canonical.value_pos
        rw [decoded] at less ⊢
        cases s with
        | positive => exact canonical.le_pred_of_lt canonical_half_hundredth (by decide) less
        | negative =>
          refine le_trans (neg_neg_of_pos pos).le ?_
          norm_num
    norm_num at half before
    linarith

theorem half_hundredth_le_infinite {y : Float}
    (infinite : y.toModel.unpack = .infinity .positive) : 0.005 ≤ y := by
  rw [le_iff_compare, infinite, half_hundredth_eq, unpack_ofModel_pack canonical_half_hundredth]
  rfl

theorem isFinite_half_hundredth : (0.005 : Float).isFinite = true := by decide +kernel

/-- What is rounded to hundredths is something from half a hundredth on. -/
theorem roundCpu_pos_iff {y : Float} (unsigned : Unsigned y) :
    0 < Quantity.roundCpu y ↔ 0.005 ≤ y := by
  by_cases finite : y.isFinite = true
  · have nearest := isNearest_mul unsigned finite isFull_hundred
    have half : ((2 ^ 52 : Nat) : ℚ) * 2 ^ (-53 : Int) = 1 / 2 := by norm_num
    have least := not_congr (nearest.below_iff canonical_half (by decide))
    rw [not_and_or, Bool.not_eq_true, not_lt, not_lt, half] at least
    rw [Quantity.roundCpu, roundAway_pos_iff nearest.unsigned, least,
      le_iff_valueOf isFinite_half_hundredth finite, half_hundredth_le_iff finite]
  · have infinite := unsigned.unpack_of_infinite (by simpa using finite)
    have product := (isFull_hundred.infinite_ops infinite).1
    have unbounded : (y * 100).isFinite = false := congrArg UnpackedFloat.isFinite product
    have unsigned' : Unsigned (y * 100) := congrArg isUnsigned product
    refine iff_of_true ?_ (half_hundredth_le_infinite infinite)
    rw [Quantity.roundCpu, roundAway_pos_iff unsigned']
    exact Or.inl unbounded

theorem le_of_beq {x y : Float} (same : (x == y) = true) : x ≤ y := by
  have compared := eq_of_beq (beq_iff_compare.mp same)
  rw [le_iff_compare, compared]
  rfl

/-! ## Cores of all replicas -/

theorem unsigned_of_pos {x : Float} (pos : 0 < x) : Unsigned x := by
  have compared := lt_iff_compare.mp pos
  have zero : (0 : Float).toModel.unpack = .zero .positive := rfl
  rw [zero] at compared
  unfold Unsigned
  match x.toModel.unpack, compared with
  | .infinity .positive, _ => rfl
  | .finite .positive .., _ => rfl

theorem isFull_toFloat {n : UInt32} (some : n ≠ 0) : IsFull n.toFloat n.toNat := by
  have pos : 0 < n.toNat := Nat.pos_of_ne_zero fun zero => some (UInt32.toNat_inj.mp zero)
  have small : n.toNat < 2 ^ 53 := lt_trans n.toNat_lt (by decide)
  have canonical := canonical_of_small pos small
  have value := value_of_small pos small
  have converted : n.toFloat.toModel.unpack =
      packed (UnpackedFloat.ofNat Format.binary64 n.toNat) := rfl
  refine ⟨_, _, canonical.pos, ?_, (full_of_small pos small).1, value⟩
  rw [converted, ofNat_eq canonical value]
  exact unpack_pack canonical .positive

theorem compare_zero (s : UnpackedFloat.Sign) (u : UnpackedFloat) :
    (UnpackedFloat.zero s).compare u = (UnpackedFloat.zero .positive).compare u := by
  cases u with
  | notANumber | zero => rfl
  | infinity sign | finite sign => cases sign <;> rfl

/-- Zeros of either sign are below the same doubles. -/
theorem lt_iff_of_zero {x y : Float} (zero : (x == 0) = true) : x < y ↔ 0 < y := by
  have compared := beq_iff_compare.mp zero
  have positive : (0 : Float).toModel.unpack = .zero .positive := rfl
  rw [lt_iff_compare, lt_iff_compare, positive]
  rw [positive] at compared
  match x.toModel.unpack, compared with
  | .zero s, _ => rw [compare_zero s]

end Provision.Number

namespace Provision

open Number

/-- Any memory is more than none. -/
theorem totalMemory_pos {r : Request} (valid : r.Valid) (asked : r.memory ≠ 0) :
    0 < Headroom.totalMemory r := by
  have replicas : 0 < r.replicas.toNat :=
    Nat.pos_of_ne_zero fun zero => valid.1 (UInt32.toNat_inj.mp zero)
  have memory : 0 < r.memory.toNat :=
    Nat.pos_of_ne_zero fun zero => asked (UInt64.toNat_inj.mp zero)
  have product := Nat.mul_pos memory replicas
  have small := r.replicas.toNat_lt
  rw [UInt64.lt_iff_toNat_lt, Headroom.totalMemory, Saturating.toNat_mul, UInt64.toNat_ofNat',
    Nat.mod_eq_of_lt (by omega)]
  exact Nat.lt_min.mpr ⟨product, by decide⟩

section
variable {r : Request} (valid : r.Valid)
include valid

theorem nearest_cores (asked : 0 < r.cores) :
    IsNearest (r.cores * r.replicas.toFloat) (valueOf r.cores * r.replicas.toNat) := by
  have finite : r.cores.isFinite = true := (Bool.and_eq_true_iff.mp valid.2).1
  exact isNearest_mul (unsigned_of_pos asked) finite (isFull_toFloat valid.1)

/-- Half a hundredth for each replica is half a hundredth for all of them. -/
theorem half_hundredth_le_cores (asked : 0.005 ≤ r.cores) :
    0 < r.cores ∧ 0.005 ≤ r.cores * r.replicas.toFloat := by
  have finite : r.cores.isFinite = true := (Bool.and_eq_true_iff.mp valid.2).1
  have zero : valueOf 0 = 0 := rfl
  have least := (le_iff_valueOf isFinite_half_hundredth finite).mp asked
  rw [valueOf_half_hundredth] at least
  have some := canonical_half_hundredth.value_pos
  have pos : 0 < r.cores := by
    rw [lt_iff_valueOf rfl finite, zero]
    linarith
  have replicas : (1 : ℚ) ≤ r.replicas.toNat := by
    exact_mod_cast Nat.pos_of_ne_zero fun none => valid.1 (UInt32.toNat_inj.mp none)
  have nearest := nearest_cores valid pos
  have reached : ((5764607523034235 : Nat) : ℚ) * 2 ^ (-60 : Int) ≤
      valueOf r.cores * r.replicas.toNat :=
    least.trans (le_mul_of_one_le_right (some.le.trans least) replicas)
  refine ⟨pos, ?_⟩
  by_cases bounded : (r.cores * r.replicas.toFloat).isFinite = true
  · rw [le_iff_valueOf isFinite_half_hundredth bounded, valueOf_half_hundredth]
    refine (nearest.le_valueOf canonical_half_hundredth (by decide) reached).resolve_left ?_
    rw [bounded]
    exact Bool.true_eq_false.mp
  · exact half_hundredth_le_infinite (nearest.unsigned.unpack_of_infinite (by simpa using bounded))

end

/-! ## Blocking -/

/-- The deployment is blocked for its size. -/
structure IsOverflow (ctx : DeployContext) : Prop where
  overflow : (Readiness.evaluate ctx).overflow = true
  listed : .reservationOverflow ∈ (Readiness.evaluate ctx).reasons
  disabled : (Readiness.evaluate ctx).isDisabled = true

theorem isOverflow_iff {ctx : DeployContext} :
    IsOverflow ctx ↔ ctx.headroom.isExceededBy ctx.form.deployment = true := by
  constructor
  · exact fun blocked => blocked.overflow
  · intro exceeded
    have blocks : (Readiness.evaluate ctx).blocks .reservationOverflow = true := exceeded
    exact ⟨exceeded, (Readiness.mem_reasons_iff _ _).mpr blocks,
      (Readiness.isDisabled_iff _).mpr ⟨_, blocks⟩⟩

/-- What is blocked where nothing is left. -/
structure ExhaustedRules (ctx : DeployContext) : Prop where
  /-- There is a warning for either resource. -/
  warned (none : (ctx.headroom.cpu.max == 0) = true ∨ ctx.headroom.memory.max = 0) :
    (Readiness.evaluate ctx).exhausted = true
  /-- The least memory is too much where there is none. -/
  memory (none : ctx.headroom.memory.max = 0) (asked : ctx.form.deployment.memory ≠ 0) :
    IsOverflow ctx
  /-- Cores are too much where there are none if all replicas make half a hundredth. -/
  cores (none : (ctx.headroom.cpu.max == 0) = true) (asked : 0 < ctx.form.deployment.cores) :
    IsOverflow ctx ↔
      0.005 ≤ ctx.form.deployment.cores * ctx.form.deployment.replicas.toFloat ∨
        ctx.headroom.memory.max < Headroom.totalMemory ctx.form.deployment
  /-- Half a hundredth for each of them is enough. -/
  each (none : (ctx.headroom.cpu.max == 0) = true) (asked : 0.005 ≤ ctx.form.deployment.cores) :
    IsOverflow ctx

/-- **Exhausted capacity.** Memory that is asked for is blocked where there is none, and cores are
blocked exactly from half a hundredth on. -/
theorem exhausted_blocks {ctx : DeployContext} (valid : ctx.form.deployment.Valid) :
    ExhaustedRules ctx := by
  have exceeded_iff : IsOverflow ctx ↔
      ctx.headroom.cpu.max < Headroom.totalCores ctx.form.deployment ∨
        ctx.headroom.memory.max < Headroom.totalMemory ctx.form.deployment := by
    rw [isOverflow_iff, Headroom.isExceededBy, Bool.or_eq_true, decide_eq_true_iff,
      decide_eq_true_iff]
  have cores (none : (ctx.headroom.cpu.max == 0) = true)
      (asked : 0 < ctx.form.deployment.cores) : IsOverflow ctx ↔
        0.005 ≤ ctx.form.deployment.cores * ctx.form.deployment.replicas.toFloat ∨
          ctx.headroom.memory.max < Headroom.totalMemory ctx.form.deployment := by
    rw [exceeded_iff, lt_iff_of_zero none, Headroom.totalCores,
      roundCpu_pos_iff (nearest_cores valid asked).unsigned]
  refine ⟨?_, ?_, cores, ?_⟩
  · intro none
    change (decide (ctx.headroom.cpu.max ≤ 0) || decide (ctx.headroom.memory.max = 0)) = true
    rw [Bool.or_eq_true, decide_eq_true_iff, decide_eq_true_iff]
    exact none.imp_left le_of_beq
  · intro none asked
    rw [exceeded_iff, none]
    exact Or.inr (totalMemory_pos valid asked)
  · intro none asked
    obtain ⟨pos, all⟩ := half_hundredth_le_cores valid asked
    exact (cores none pos).mpr (Or.inl all)

/-- A form for an application where no cores are left, but memory is. -/
def coreless (replicas : UInt32) (cores : Float) : DeployContext where
  form := { Form.initial with deployment := ⟨.replicated, .shared, replicas, cores, 64⟩ }
  saved := none
  headroom := ⟨⟨0, 0⟩, ⟨0, 1000⟩, false⟩
  existing := []
  editing := none

/-- Three times two thousandths are more than half a hundredth. -/
theorem coreless_blocked :
    (coreless 3 0.002).form.deployment.Valid ∧ IsOverflow (coreless 3 0.002) := by
  have valid : (coreless 3 0.002).form.deployment.Valid := ⟨by decide, by decide +kernel⟩
  have all : 0.005 ≤ (coreless 3 0.002).form.deployment.cores *
      (coreless 3 0.002).form.deployment.replicas.toFloat := by decide +kernel
  exact ⟨valid, ((exhausted_blocks valid).cores (by decide +kernel) (by decide +kernel)).mpr
    (Or.inl all)⟩

/-- Four thousandths of a core are deployed where there are none. -/
theorem exhausted_admits : (coreless 1 0.004).form.deployment.Valid ∧
    (coreless 1 0.004).headroom.cpu.max = 0 ∧ 0 < (coreless 1 0.004).form.deployment.cores ∧
    (Readiness.evaluate (coreless 1 0.004)).exhausted = true ∧
    (Readiness.evaluate (coreless 1 0.004)).overflow = false ∧
    (Readiness.evaluate (coreless 1 0.004)).reasons = [] ∧
    (Readiness.evaluate (coreless 1 0.004)).isDisabled = false := by
  have valid : (coreless 1 0.004).form.deployment.Valid := ⟨by decide, by decide +kernel⟩
  exact ⟨valid, rfl, by decide +kernel, by decide +kernel, by decide +kernel, by decide +kernel,
    by decide +kernel⟩

end Provision
