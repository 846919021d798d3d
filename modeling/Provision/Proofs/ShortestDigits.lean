import Provision.Number.Digits
import Provision.Proofs.DoubleRounding

/-!
# The fewest digits of doubles

- `Grid.roundsTo_of_mem`: the points of a decimal grid that lie in the interval of a double are the
  ones that round to it.
- `shortest_roundsTo`: the fewest digits do, since the last of the grids is fine enough.
-/

namespace Provision.Number

/-- The number that the digits and the exponent write. -/
def Decimal.value (d : Decimal) : ℚ := d.significand * 10 ^ d.exponent

namespace Grid

/-! ## Points of a grid -/

/-- A quarter of the last place of a double, in the unit of the grid. -/
def quarter (e p : Int) : Nat := Nat.pow 10 (-p).toNat <<< (e - 2).toNat

theorem quarter_pos (e p : Int) : 0 < quarter e p := by
  have ten : 0 < Nat.pow 10 (-p).toNat := Nat.pow_pos (by decide)
  rw [quarter, Nat.shiftLeft_eq]
  positivity

section
variable {m : Nat} {e p : Int}

theorem step_pos : 0 < (ofBinary m e p).step := by
  have ten : 0 < Nat.pow 10 p.toNat := Nat.pow_pos (by decide)
  have step : (ofBinary m e p).step = Nat.pow 10 p.toNat * 2 ^ (2 - e).toNat := Nat.shiftLeft_eq ..
  rw [step]
  positivity

theorem step_mul : ((ofBinary m e p).step : ℚ) * 2 ^ (e - 2) = quarter e p * 10 ^ p := by
  have step : (ofBinary m e p).step = 10 ^ p.toNat * 2 ^ (2 - e).toNat := Nat.shiftLeft_eq ..
  have unit : quarter e p = 10 ^ (-p).toNat * 2 ^ (e - 2).toNat := Nat.shiftLeft_eq ..
  have two := zpow_eq_div (b := 2) (by decide) (e - 2)
  have ten := zpow_eq_div (b := 10) (by decide) p
  have opposite : -(e - 2) = 2 - e := by omega
  rw [opposite] at two
  push_cast at two ten
  rw [step, unit, two, ten]
  push_cast
  field_simp

/-- A point of the grid is compared with quarters of the last place as the number that it is. -/
theorem cmp_point (n c : Nat) :
    cmp (n * (ofBinary m e p).step) (c * quarter e p) =
      cmp (n * 10 ^ p : ℚ) (c * 2 ^ (e - 2)) := by
  have unit : (0 : ℚ) < quarter e p / 2 ^ (e - 2) := by
    have := quarter_pos e p
    positivity
  have point : ((n * (ofBinary m e p).step : Nat) : ℚ) =
      n * 10 ^ p * (quarter e p / 2 ^ (e - 2)) := by
    rw [Nat.cast_mul, mul_assoc, ← mul_div_assoc, mul_comm (10 ^ p : ℚ), ← step_mul]
    field_simp
  have quarters : ((c * quarter e p : Nat) : ℚ) =
      c * 2 ^ (e - 2) * (quarter e p / 2 ^ (e - 2)) := by
    rw [Nat.cast_mul]
    field_simp
  rw [← Nat.strictMono_cast.cmp_map_eq (β := ℚ), point, quarters, cmp_mul_pos_right unit]

end

/-- The interval begins one or two quarters below the double. -/
theorem exists_low {m : Nat} (some : 0 < m) (e p : Int) :
    ∃ below : Nat, (ofBinary m e p).low = (4 * m - below) * quarter e p ∧
      ((4 * m - below : Nat) : ℚ) = 4 * (m - roomBelow m e) := by
  by_cases edge : m = fullMantissa ∧ e ≠ leastExponent
  · refine ⟨1, by simp only [ofBinary, if_pos edge]; rfl, ?_⟩
    have room : roomBelow m e = 1 / 4 := if_pos edge
    rw [room, Nat.cast_sub (by omega)]
    push_cast
    ring
  · refine ⟨2, by simp only [ofBinary, if_neg edge]; rfl, ?_⟩
    have room : roomBelow m e = 1 / 2 := if_neg edge
    rw [room, Nat.cast_sub (by omega)]
    push_cast
    ring

/-- A point of the interval rounds to the double. -/
theorem roundsTo_of_mem {m n : Nat} {e p : Int} (canonical : Canonical m e)
    (h : (ofBinary m e p).Mem n) : RoundsTo m e (n * 10 ^ p) := by
  obtain ⟨below, low, room⟩ := exists_low canonical.pos e p
  have high : (ofBinary m e p).high = (4 * m + 2) * quarter e p := rfl
  have last : (2 : ℚ) ^ e = 4 * 2 ^ (e - 2) := by
    rw [zpow_sub₀ two_ne_zero]
    norm_num
    ring
  have lower := cmp_point (m := m) (e := e) (p := p) n (4 * m - below)
  have upper := cmp_point (m := m) (e := e) (p := p) n (4 * m + 2)
  have start : ((4 * m - below : Nat) : ℚ) * 2 ^ (e - 2) = (m - roomBelow m e) * 2 ^ e := by
    rw [room, last]
    ring
  have stop : ((4 * m + 2 : Nat) : ℚ) * 2 ^ (e - 2) = (m + 1 / 2) * 2 ^ e := by
    rw [last]
    push_cast
    ring
  rw [← low, start] at lower
  rw [← high, stop] at upper
  have closed : (ofBinary m e p).closed = decide (m % 2 = 0) := rfl
  unfold Mem at h
  by_cases even : m % 2 = 0
  · rw [closed, decide_eq_true even, if_pos rfl] at h
    refine ⟨(le_iff_le_of_cmp_eq_cmp (cmp_eq_cmp_symm.mp lower)).mp h.1,
      (le_iff_le_of_cmp_eq_cmp upper).mp h.2, fun odd => ?_⟩
    omega
  · rw [closed, decide_eq_false even, if_neg Bool.false_ne_true] at h
    have above := (lt_iff_lt_of_cmp_eq_cmp (cmp_eq_cmp_symm.mp lower)).mp h.1
    have below := (lt_iff_lt_of_cmp_eq_cmp upper).mp h.2
    exact ⟨above.le, below.le, fun _ => ⟨above, below⟩⟩

/-! ## The coarsest grid -/

theorem mem_of_nearest? {g : Grid} {tie : Tie} {n : Nat} (pos : 0 < g.step)
    (h : g.nearest? tie = some n) : g.Mem n := by
  unfold nearest? at h
  simp only at h
  split at h
  · rename_i floor
    split at h
    · rename_i ceil
      cases h
      rcases roundQuotient_cases tie g.value g.step pos with ⟨same, -⟩ | ⟨same, -⟩
      · rw [same]
        exact floor
      · rw [same]
        exact ceil
    · cases h
      exact floor
  · split at h
    · rename_i ceil
      cases h
      exact ceil
    · cases h

/-- A grid with steps of less than half of the last place meets the interval. -/
theorem mem_of_fine {m : Nat} {e p : Int} (tie : Tie) (some : 0 < m)
    (fine : (10 : ℚ) ^ p < 2 ^ (e - 1)) :
    (ofBinary m e p).Mem
      (roundQuotient tie (ofBinary m e p).value (ofBinary m e p).step) := by
  have short : (ofBinary m e p).step < 2 * quarter e p := by
    have half : (2 : ℚ) ^ (e - 1) = 2 * 2 ^ (e - 2) := by
      rw [zpow_sub₀ two_ne_zero, zpow_sub₀ two_ne_zero]
      norm_num
      ring
    have scaled := cmp_point (m := m) (e := e) (p := p) 1 2
    push_cast at scaled
    rw [one_mul, one_mul, ← half] at scaled
    exact (lt_iff_lt_of_cmp_eq_cmp scaled).mpr fine
  have floor := roundQuotient_le tie (ofBinary m e p).value (ofBinary m e p).step step_pos
  have ceil := le_roundQuotient tie (ofBinary m e p).value (ofBinary m e p).step step_pos
  have value : (ofBinary m e p).value = 4 * m * quarter e p := rfl
  have high : (ofBinary m e p).high = 4 * m * quarter e p + 2 * quarter e p := Nat.add_mul ..
  have low : (ofBinary m e p).low + quarter e p ≤ 4 * m * quarter e p := by
    have low : (ofBinary m e p).low ≤ (4 * m - 1) * quarter e p := by
      apply Nat.mul_le_mul_right
      apply Nat.sub_le_sub_left
      split <;> omega
    have split : (4 * m - 1) * quarter e p + quarter e p = 4 * m * quarter e p := by
      rw [← Nat.succ_mul]
      congr 1
      omega
    omega
  unfold Mem
  split <;> omega

end Grid

theorem coarsest_roundsTo {m : Nat} {e : Int} (tie : Tie) (canonical : Canonical m e) (fuel : Nat)
    (p : Int) (fine : (10 : ℚ) ^ (p - fuel) < 2 ^ (e - 1)) :
    RoundsTo m e (coarsest tie m e fuel p).value := by
  induction fuel generalizing p with
  | zero =>
    rw [Nat.cast_zero, Int.sub_zero] at fine
    exact Grid.roundsTo_of_mem canonical (Grid.mem_of_fine tie canonical.pos fine)
  | succ fuel ih =>
    unfold coarsest
    split
    · rename_i n nearest
      exact Grid.roundsTo_of_mem canonical (Grid.mem_of_nearest? Grid.step_pos nearest)
    · apply ih
      have next : p - 1 - (fuel : Int) = p - ((fuel + 1 : Nat) : Int) := by omega
      rw [next]
      exact fine

/-- A power of ten against a power of two, if the exponents are far enough from each other. -/
theorem ten_zpow_lt {k e : Int} (least : -1074 ≤ e) (most : e ≤ 971)
    (h : (k + 19) * 100000 ≤ (e + 53) * 30103) : (10 : ℚ) ^ k < 2 ^ (e - 1) := by
  -- Ten is nearly a power of two when it is raised to 3 or to 28, from above and from below.
  rcases le_or_gt 0 k with large | small
  · have cubes : ((10 : ℚ) ^ k) ^ 3 < (2 ^ (e - 1)) ^ 3 := by
      calc ((10 : ℚ) ^ k) ^ 3 = (10 ^ 3) ^ k := by
            rw [← zpow_natCast, ← zpow_natCast, zpow_comm]
        _ ≤ (2 ^ 10) ^ k := zpow_le_zpow_left₀ large (by norm_num) (by norm_num)
        _ = 2 ^ (10 * k) := by rw [zpow_mul, zpow_ofNat]
        _ < 2 ^ ((e - 1) * 3) := zpow_lt_zpow_right₀ one_lt_two (by omega)
        _ = (2 ^ (e - 1)) ^ 3 := by rw [zpow_mul, zpow_ofNat]
    exact lt_of_pow_lt_pow_left₀ 3 (by positivity) cubes
  · have powers : ((10 : ℚ) ^ k) ^ 28 < (2 ^ (e - 1)) ^ 28 := by
      calc ((10 : ℚ) ^ k) ^ 28 = (10 ^ 28) ^ k := by
            rw [← zpow_natCast, ← zpow_natCast, zpow_comm]
        _ ≤ (2 ^ 93) ^ k := by
            have opposite : k = -((-k).toNat : Int) := by omega
            rw [opposite, zpow_neg, zpow_neg, zpow_natCast, zpow_natCast]
            apply inv_anti₀ (by positivity)
            exact pow_le_pow_left₀ (by norm_num) (by norm_num) _
        _ = 2 ^ (93 * k) := by rw [zpow_mul, zpow_ofNat]
        _ < 2 ^ ((e - 1) * 28) := zpow_lt_zpow_right₀ one_lt_two (by omega)
        _ = (2 ^ (e - 1)) ^ 28 := by rw [zpow_mul, zpow_ofNat]
    exact lt_of_pow_lt_pow_left₀ 28 (by positivity) powers

/-- **Shortest digits.** The fewest digits of a double round to it. -/
theorem shortest_roundsTo {m : Nat} {e : Int} (tie : Tie) (canonical : Canonical m e) :
    RoundsTo m e (shortest tie m e).value := by
  apply coarsest_roundsTo tie canonical
  have short : m.log2 < 53 := (Nat.log2_lt canonical.pos.ne').mpr canonical.small
  apply ten_zpow_lt canonical.least canonical.most
  rw [Int.fdiv_eq_ediv_of_nonneg _ (by decide)]
  omega

end Provision.Number
