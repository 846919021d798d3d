import Mathlib
import Provision.Headroom

/-!
# Headroom of memory, to the byte

Limits are given in whole megabytes, quotas and nodes in bytes. A request is admitted in megabytes:
the largest limit is rounded down, counts stop at the largest word, and what is left of a quota is a
signed number that is cut off at zero.

- `Saturating.toNat_sum`: the bytes of many nodes are summed exactly, or to the largest count.
- `openBytes_bounds`, `bytesLeft_fits`: what is open fits a word, and what is left of a quota fits
  a signed number of 128 bits.
- `toNat_memory_max`: the largest limit is what is open, rounded down to megabytes.
- `exceeds_iff_bytes`: none of this matters; a request is refused for its memory exactly when its
  replicas ask for more bytes than are open.
-/

/-! ## Sums of counts -/

namespace Provision.Saturating

theorem toNat_foldl_add (counts : List UInt64) (start : UInt64) :
    (counts.foldl add start).toNat =
      min (start.toNat + (counts.map UInt64.toNat).sum) (UInt64.size - 1) := by
  induction counts generalizing start with
  | nil =>
    have := start.toNat_lt
    simp
    omega
  | cons c cs ih =>
    rw [List.foldl_cons, ih, toNat_add, List.map_cons, List.sum_cons]
    omega

theorem toNat_sum (counts : List UInt64) :
    (sum counts).toNat = min (counts.map UInt64.toNat).sum (UInt64.size - 1) := by
  rw [sum, toNat_foldl_add]
  simp

/-- A sum that stops at the largest count does so in any order. -/
theorem sum_perm {counts others : List UInt64} (perm : others.Perm counts) :
    sum others = sum counts := by
  rw [← UInt64.toNat_inj, toNat_sum, toNat_sum, (perm.map UInt64.toNat).sum_eq]

end Provision.Saturating

namespace Provision.Headroom

/-! ## What is open, in whole numbers -/

/-- Bytes that the replicas of an edited application hold. A replica holds at most a word of them,
and none if it has no limit on memory. -/
def heldBytes : Option SavedReservation → Nat
  | some s =>
    if 0 < s.memory.toNat then min (s.memory.toNat * 10 ^ 6) (2 ^ 64 - 1) * s.replicas.toNat else 0
  | none => 0

/-- The limit on memory that a quota sets, if it sets one, and what is used of it. -/
def memoryQuota? (quota : Option NamespaceQuota) : Option (UInt64 × UInt64) :=
  quota.bind fun q => q.memoryLimit.map (·, q.memoryUsed)

theorem memoryQuota?_limitless {quota : Option NamespaceQuota}
    (limitless : ∀ q, quota = some q → q.memoryLimit = none) : memoryQuota? quota = none := by
  rw [memoryQuota?, Option.bind_eq_none_iff]
  intro q given
  rw [limitless q given, Option.map_none]

def nodeBytes (nodes : List NodeCapacity) : Nat := (nodes.map (·.bytes.toNat)).sum

/-- Bytes that a request may ask for: what a quota leaves of its limit and what the application
holds already, or without a limit the bytes of all nodes. It is at most what a word can count. -/
def openBytes (nodes : List NodeCapacity) (quota : Option NamespaceQuota)
    (saved : Option SavedReservation) : Int :=
  match memoryQuota? quota with
  | some (limit, used) =>
    min (2 ^ 64 - 1) (max 0 ((limit.toNat : Int) - used.toNat + heldBytes saved))
  | none => min (2 ^ 64 - 1) (nodeBytes nodes)

theorem openBytes_bounds (nodes : List NodeCapacity) (quota : Option NamespaceQuota)
    (saved : Option SavedReservation) :
    0 ≤ openBytes nodes quota saved ∧ openBytes nodes quota saved < 2 ^ 64 := by
  unfold openBytes
  split <;> omega

/-! ## What is left of a quota -/

theorem heldBytes_some (s : SavedReservation) :
    heldBytes (some s) = (Quantity.bytesOfMegabytes s.memory).toNat * s.replicas.toNat := by
  rw [Quantity.toNat_bytesOfMegabytes]
  by_cases h : 0 < s.memory.toNat
  · simp only [heldBytes, h, if_true]
    rfl
  · have zero : s.memory.toNat = 0 := by omega
    simp [heldBytes, zero]

theorem heldBytes_le (saved : Option SavedReservation) :
    heldBytes saved ≤ (2 ^ 64 - 1) * (2 ^ 32 - 1) := by
  cases saved with
  | none => exact Nat.zero_le _
  | some s =>
    have bytes := (Quantity.bytesOfMegabytes s.memory).toNat_lt
    have replicas := s.replicas.toNat_lt
    rw [heldBytes_some]
    exact Nat.mul_le_mul (by omega) (by omega)

theorem bytesLeft_eq (limit used : UInt64) (saved : Option SavedReservation) :
    bytesLeft limit used saved = (limit.toNat : Int) - used.toNat + heldBytes saved := by
  cases saved with
  | none => rfl
  | some s =>
    rw [heldBytes_some, Int.natCast_mul]
    rfl

/-- What is left fits a signed number of 128 bits, however far a quota is overused and however much
is held. -/
theorem bytesLeft_fits (limit used : UInt64) (saved : Option SavedReservation) :
    -2 ^ 127 ≤ bytesLeft limit used saved ∧ bytesLeft limit used saved < 2 ^ 127 := by
  have held := heldBytes_le saved
  have hl := limit.toNat_lt
  have hu := used.toNat_lt
  rw [bytesLeft_eq]
  omega

/-! ## The range of memory -/

theorem toNat_totals (nodes : List NodeCapacity) :
    (ClusterTotals.ofNodes nodes).bytes.toNat = min (nodeBytes nodes) (2 ^ 64 - 1) := by
  unfold ClusterTotals.ofNodes
  dsimp only
  rw [Saturating.toNat_sum, List.map_map]
  rfl

theorem compute_memory (policy : Policy) (nodes : List NodeCapacity)
    (quota : Option NamespaceQuota) (saved : Option SavedReservation) :
    (compute policy nodes quota saved).memory =
      match memoryQuota? quota with
      | some (limit, used) =>
        ⟨policy.memoryFloor, Quantity.megabytes (Saturating.ofInt (bytesLeft limit used saved))⟩
      | none => ⟨0, Quantity.megabytes (ClusterTotals.ofNodes nodes).bytes⟩ := by
  unfold compute memoryRange memoryQuota?
  dsimp only
  split <;> rename_i h <;> rw [h]

theorem toNat_memory_max (policy : Policy) (nodes : List NodeCapacity)
    (quota : Option NamespaceQuota) (saved : Option SavedReservation) :
    ((compute policy nodes quota saved).memory.max.toNat : Int) =
      openBytes nodes quota saved / 10 ^ 6 := by
  have megabyte : Quantity.bytesPerMegabyte = 10 ^ 6 := rfl
  rw [compute_memory, openBytes]
  cases memoryQuota? quota with
  | none =>
    have cluster := toNat_totals nodes
    dsimp only
    rw [Quantity.toNat_megabytes, megabyte]
    omega
  | some limited =>
    have size : UInt64.size = 2 ^ 64 := rfl
    dsimp only
    rw [Quantity.toNat_megabytes, Saturating.toNat_ofInt, bytesLeft_eq, megabyte]
    omega

theorem memory_min (policy : Policy) (nodes : List NodeCapacity) (quota : Option NamespaceQuota)
    (saved : Option SavedReservation) :
    (compute policy nodes quota saved).memory.min =
      if (memoryQuota? quota).isSome then policy.memoryFloor else 0 := by
  rw [compute_memory]
  cases memoryQuota? quota <;> rfl

/-! ## Admission -/

theorem toNat_totalMemory (r : Request) :
    (totalMemory r).toNat = min (r.memory.toNat * r.replicas.toNat) (2 ^ 64 - 1) := by
  have replicas := r.replicas.toNat_lt
  have word : (UInt64.ofNat r.replicas.toNat).toNat = r.replicas.toNat := by
    rw [UInt64.toNat_ofNat']
    exact Nat.mod_eq_of_lt (by omega)
  rw [totalMemory, Saturating.toNat_mul, word]
  rfl

/-- Rounding what is open down to megabytes refuses no whole number of megabytes that fits. -/
theorem megabytes_lt_iff {bytes : Nat} (fits : bytes < 2 ^ 64) (r : Request) :
    bytes / 10 ^ 6 < (totalMemory r).toNat ↔
      bytes < r.memory.toNat * r.replicas.toNat * 10 ^ 6 := by
  have below : bytes / 10 ^ 6 < 2 ^ 64 - 1 := by omega
  rw [toNat_totalMemory, ← Nat.div_lt_iff_lt_mul (by decide : 0 < 10 ^ 6)]
  omega

/-- **Memory is admitted to the byte.** The largest limit is what is open in whole megabytes, and a
request is refused for its memory exactly when its replicas ask for more bytes than are open. -/
theorem exceeds_iff_bytes (policy : Policy) (nodes : List NodeCapacity)
    (quota : Option NamespaceQuota) (saved : Option SavedReservation) (r : Request) :
    let h := compute policy nodes quota saved
    (h.memory.max.toNat : Int) = openBytes nodes quota saved / 10 ^ 6 ∧
      h.memory.min = (if (memoryQuota? quota).isSome then policy.memoryFloor else 0) ∧
      (h.isExceededBy r = true ↔
        h.cpu.max < totalCores r ∨
          openBytes nodes quota saved < r.memory.toNat * r.replicas.toNat * 10 ^ 6) ∧
      ∀ limit used : UInt64,
        -2 ^ 127 ≤ bytesLeft limit used saved ∧ bytesLeft limit used saved < 2 ^ 127 := by
  have max := toNat_memory_max policy nodes quota saved
  obtain ⟨lower, upper⟩ := openBytes_bounds nodes quota saved
  obtain ⟨bytes, whole⟩ := Int.eq_ofNat_of_zero_le lower
  have megabytes : (compute policy nodes quota saved).memory.max.toNat = bytes / 10 ^ 6 := by
    omega
  have memory : (compute policy nodes quota saved).memory.max < totalMemory r ↔
      openBytes nodes quota saved < r.memory.toNat * r.replicas.toNat * 10 ^ 6 := by
    rw [UInt64.lt_iff_toNat_lt, megabytes, megabytes_lt_iff (by omega), whole]
    exact Int.ofNat_lt.symm
  refine ⟨max, memory_min policy nodes quota saved, ?_, fun limit used =>
    bytesLeft_fits limit used saved⟩
  rw [isExceededBy, Bool.or_eq_true, decide_eq_true_eq, decide_eq_true_eq, memory]

end Provision.Headroom
