import Provision.Number.Numeral
import Provision.Proofs.DoubleRounding

/-!
# Doubles and their bits

- `unpack_pack`: the mantissa and the exponent are read back from the bits.
- `eq_pack_of_ofFloat`: a double that is finite is a zero with a sign, or made up of the mantissa
  and the exponent that its bits are read to.
-/

namespace Provision.Number

open Float.Model (Format UnpackedFloat totalExponent)
open Float.Model.UnpackedFloat (Accuracy Sign packComponents unpackSign)

/-! ## Packing and unpacking -/

theorem unpackSign_packComponents {spec : Format} (s : Sign) (e : BitVec spec.exponentBits)
    (m : BitVec spec.mantissaBitsWithoutImplicit) :
    unpackSign (packComponents spec s e m) = s.toBitVec := by
  have width : spec.mantissaBitsWithoutImplicit + spec.exponentBits -
      spec.mantissaBitsWithoutImplicit = spec.exponentBits := by omega
  ext i hi
  have first : i = 0 := by omega
  subst first
  simp [unpackSign, packComponents, BitVec.getLsbD_append, BitVec.getElem_append, width]

theorem ofNat_ne_largest {width b : Nat} (h : b + 1 < 2 ^ width) :
    BitVec.ofNat width b ≠ -1#_ := by
  intro same
  have values := congrArg BitVec.toNat same
  simp only [BitVec.toNat_ofNat, BitVec.neg_one_eq_allOnes, BitVec.toNat_allOnes] at values
  rw [Nat.mod_eq_of_lt (by omega)] at values
  omega

section
variable {m : Nat} {e : Int} (canonical : Canonical m e) (s : Sign)
include canonical

theorem pack_full (full : 2 ^ 52 ≤ m) :
    UnpackedFloat.pack Format.binary64 (.finite s m e canonical.pos) =
      packComponents Format.binary64 s (BitVec.ofNat 11 (e + 1075).toNat) (BitVec.ofNat 52 m) := by
  have bias : (e + Format.binary64.exponentBias +
      Format.binary64.mantissaBitsWithoutImplicit).toNat = (e + 1075).toNat := by
    have : Format.binary64.exponentBias = 1023 := rfl
    have : Format.binary64.mantissaBitsWithoutImplicit = 52 := rfl
    omega
  have least := canonical.least
  have most := canonical.most
  have short : m.log2 < 53 := (Nat.log2_lt canonical.pos.ne').mpr canonical.small
  have long : 52 ≤ m.log2 := (Nat.le_log2 canonical.pos.ne').mpr full
  have bits : m.log2 + 1 = Format.binary64.mantissaBits := by
    have : Format.binary64.mantissaBits = 53 := rfl
    omega
  have finite : ¬2 ^ Format.binary64.exponentBits ≤ (e + 1075).toNat + 1 := by
    have : 2 ^ Format.binary64.exponentBits = 2048 := rfl
    omega
  simp only [UnpackedFloat.pack, bias, if_neg finite, if_pos bits]

theorem pack_small (small : m < 2 ^ 52) :
    UnpackedFloat.pack Format.binary64 (.finite s m e canonical.pos) =
      packComponents Format.binary64 s 0#11 (BitVec.ofNat 52 m) := by
  have lowest : e = -1074 := by
    rcases canonical.full with full | lowest
    · omega
    · exact lowest
  subst lowest
  have short : m.log2 < 52 := (Nat.log2_lt canonical.pos.ne').mpr small
  have bits : ¬m.log2 + 1 = Format.binary64.mantissaBits := by
    have : Format.binary64.mantissaBits = 53 := rfl
    omega
  simp only [UnpackedFloat.pack, if_neg bits]
  rfl

theorem unpack_pack :
    UnpackedFloat.unpack Format.binary64
      (UnpackedFloat.pack Format.binary64 (.finite s m e canonical.pos)) =
        .finite s m e canonical.pos := by
  have sign : Sign.ofBitVec s.toBitVec = s := by cases s <;> rfl
  have least := canonical.least
  have most := canonical.most
  by_cases full : 2 ^ 52 ≤ m
  · have biased : (BitVec.ofNat 11 (e + 1075).toNat).toNat = (e + 1075).toNat := by
      rw [BitVec.toNat_ofNat, Nat.mod_eq_of_lt (by omega)]
    have normal : BitVec.ofNat 11 (e + 1075).toNat ≠ 0#11 := by
      intro zero
      rw [zero] at biased
      simp at biased
      omega
    have mantissa : (1#1 ++ BitVec.ofNat 52 m).toNat = m := by
      have := canonical.small
      rw [BitVec.toNat_append, ← Nat.shiftLeft_add_eq_or_of_lt (BitVec.isLt _)]
      simp only [BitVec.toNat_ofNat, Nat.shiftLeft_eq]
      omega
    have exponent : ((BitVec.ofNat 11 (e + 1075).toNat).toNat : Int) -
        (Format.binary64.exponentBias + Format.binary64.mantissaBitsWithoutImplicit) = e := by
      have : Format.binary64.exponentBias = 1023 := rfl
      have : Format.binary64.mantissaBitsWithoutImplicit = 52 := rfl
      omega
    rw [pack_full canonical s full]
    simp only [UnpackedFloat.unpack, UnpackedFloat.unpackMantissa_packComponents,
      UnpackedFloat.unpackExponent_packComponents, unpackSign_packComponents, sign, exponent]
    rw [if_neg (ofNat_ne_largest (by omega)), if_neg normal]
    simp only [mantissa]
  · rw [pack_small canonical s (by omega)]
    have lowest : e = -1074 := by
      rcases canonical.full with full | lowest
      · omega
      · exact lowest
    subst lowest
    have mantissa : (BitVec.ofNat 52 m).toNat = m := by
      rw [BitVec.toNat_ofNat, Nat.mod_eq_of_lt (by omega)]
    have some : BitVec.ofNat 52 m ≠ 0#52 := by
      intro zero
      rw [zero] at mantissa
      have := canonical.pos
      simp at mantissa
      omega
    simp only [UnpackedFloat.unpack, UnpackedFloat.unpackMantissa_packComponents,
      UnpackedFloat.unpackExponent_packComponents, unpackSign_packComponents, sign]
    rw [if_neg (by decide), if_pos trivial, dif_neg some]
    simp only [mantissa]
    rfl

end

/-! ## The bits of a double as a number -/

theorem toNat_packComponents (s : Sign) (e : BitVec 11) (m : BitVec 52) :
    (packComponents Format.binary64 s e m).toNat =
      s.toBitVec.toNat * 2 ^ 63 + e.toNat * 2 ^ 52 + m.toNat := by
  have outer : (packComponents Format.binary64 s e m).toNat =
      ((s.toBitVec ++ e).toNat <<< 52 ||| m.toNat) := BitVec.toNat_append ..
  rw [outer, ← Nat.shiftLeft_add_eq_or_of_lt m.isLt, BitVec.toNat_append,
    ← Nat.shiftLeft_add_eq_or_of_lt e.isLt, Nat.shiftLeft_eq, Nat.shiftLeft_eq]
  ring

/-- The sign that a minus stands for. -/
def signOf (negative : Bool) : Sign := if negative then .negative else .positive

theorem toNat_signOf (negative : Bool) :
    (signOf negative).toBitVec.toNat = negative.toNat := by cases negative <;> rfl

/-- The first bit is the sign. -/
theorem toNat_signOf_le {b : Nat} (h : b < 2 ^ 64) :
    (signOf (decide (9223372036854775808 ≤ b))).toBitVec.toNat = b / 2 ^ 63 := by
  rw [toNat_signOf]
  by_cases large : 9223372036854775808 ≤ b
  · rw [decide_eq_true large]
    simp only [Bool.toNat_true]
    omega
  · rw [decide_eq_false large]
    simp only [Bool.toNat_false]
    omega

theorem eq_ofModel_of_bits {x : Float} {u : UnpackedFloat}
    (h : x.toBits.toNat = (UnpackedFloat.pack Format.binary64 u).toNat) :
    x = .ofModel (.pack u) := by
  obtain ⟨⟨bits, valid⟩⟩ := x
  have same : bits = UInt64.ofBitVec (UnpackedFloat.pack Format.binary64 u) :=
    UInt64.toNat_inj.mp h
  subst same
  rfl

/-- **Bits of doubles.** A double that is not zero is what its mantissa and exponent pack to. -/
theorem eq_pack_of_ofFloat {x : Float} {negative : Bool} {m : Nat} {e : Int}
    (h : Binary.ofFloat x = .finite negative m e) :
    m = 0 ∧ x = .ofModel (.pack (.zero (signOf negative))) ∨
      ∃ canonical : Canonical m e,
        x = .ofModel (.pack (.finite (signOf negative) m e canonical.pos)) := by
  have size : x.toBits.toNat < 2 ^ 64 := x.toBits.toNat_lt
  unfold Binary.ofFloat at h
  simp only [Nat.shiftRight_eq_div_pow, Nat.reduceShiftLeft] at h
  have full : fullMantissa = 4503599627370496 := rfl
  generalize hb : x.toBits.toNat = b at h size
  have sign := toNat_signOf_le size
  by_cases largest : b / 2 ^ 52 % 2048 = 2047
  · rw [if_pos largest] at h
    split at h <;> cases h
  · rw [if_neg largest] at h
    by_cases subnormal : b / 2 ^ 52 % 2048 = 0
    · rw [if_pos subnormal] at h
      cases h
      rw [full]
      by_cases zero : b % 4503599627370496 = 0
      · refine Or.inl ⟨zero, eq_ofModel_of_bits ?_⟩
        have packed := toNat_packComponents
          (signOf (decide (9223372036854775808 ≤ b))) 0#11 0#52
        refine Eq.trans ?_ packed.symm
        rw [sign, hb]
        simp only [BitVec.toNat_ofNat]
        omega
      · have canonical : Canonical (b % 4503599627370496) leastExponent :=
          ⟨by omega, by omega, by decide, by decide, Or.inr rfl⟩
        refine Or.inr ⟨canonical, eq_ofModel_of_bits ?_⟩
        rw [pack_small canonical _ (by omega), toNat_packComponents, sign, hb]
        simp only [BitVec.toNat_ofNat]
        omega
    · rw [if_neg subnormal, full] at h
      cases h
      have biased : Int.ofNat (b / 2 ^ 52 % 2048) - 1075 + 1075 = (b / 2 ^ 52 % 2048 : Nat) := by
        rw [Int.ofNat_eq_natCast]
        omega
      have canonical : Canonical (4503599627370496 + b % 4503599627370496)
          (Int.ofNat (b / 2 ^ 52 % 2048) - 1075) := by
        rw [Int.ofNat_eq_natCast]
        exact ⟨by omega, by omega, by omega, by omega, Or.inl (by omega)⟩
      refine Or.inr ⟨canonical, eq_ofModel_of_bits ?_⟩
      rw [pack_full canonical _ (by omega), toNat_packComponents, sign, hb, biased]
      simp only [BitVec.toNat_ofNat, Int.toNat_natCast]
      omega

theorem ofFloat_of_isFinite {x : Float} (h : x.isFinite = true) :
    ∃ negative m e, Binary.ofFloat x = .finite negative m e := by
  have exponent : (@UnpackedFloat.unpackExponent Format.binary64 x.toBits.toBitVec).toNat =
      (x.toBits.toNat >>> 52) % 2048 := BitVec.extractLsb_toNat ..
  have bounded : ¬(x.toBits.toNat >>> 52) % 2048 = 2047 := by
    intro largest
    have ones : @UnpackedFloat.unpackExponent Format.binary64 x.toBits.toBitVec = -1#11 := by
      apply BitVec.eq_of_toNat_eq
      rw [exponent, largest]
      rfl
    change x.toModel.unpack.isFinite = true at h
    have unpacked : x.toModel.unpack = UnpackedFloat.unpack Format.binary64 x.toBits.toBitVec := rfl
    rw [unpacked, UnpackedFloat.unpack] at h
    simp only [ones] at h
    rw [if_pos trivial] at h
    split at h <;> cases h
  unfold Binary.ofFloat
  simp only [if_neg bounded]
  split
  · exact ⟨_, _, _, rfl⟩
  · exact ⟨_, _, _, rfl⟩

end Provision.Number
