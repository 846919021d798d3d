/-!
# Counts that stop at the largest word

- `toNat_add`, `toNat_mul`: the exact sum or product, or the largest count.
-/

namespace Provision.Saturating

def add (a b : UInt64) : UInt64 := UInt64.ofNatClamp (a.toNat + b.toNat)

def mul (a b : UInt64) : UInt64 := UInt64.ofNatClamp (a.toNat * b.toNat)

/-- The whole number as a count: none below zero, and none above the largest. -/
def ofInt (n : Int) : UInt64 := UInt64.ofNatClamp n.toNat

theorem toNat_ofNatClamp (n : Nat) : (UInt64.ofNatClamp n).toNat = min n (UInt64.size - 1) := by
  unfold UInt64.ofNatClamp
  split <;> rename_i h <;> simp only [UInt64.toNat_ofNatLT] <;> omega

theorem toNat_add (a b : UInt64) : (add a b).toNat = min (a.toNat + b.toNat) (UInt64.size - 1) :=
  toNat_ofNatClamp _

theorem toNat_mul (a b : UInt64) : (mul a b).toNat = min (a.toNat * b.toNat) (UInt64.size - 1) :=
  toNat_ofNatClamp _

theorem toNat_ofInt (n : Int) : (ofInt n).toNat = min n.toNat (UInt64.size - 1) :=
  toNat_ofNatClamp _

def sum (counts : List UInt64) : UInt64 := counts.foldl add 0

end Provision.Saturating
