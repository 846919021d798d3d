import Provision.Proofs.MemoryHeadroom

/-!
# The credit of an edited application

An application that is edited gets back what it holds. In memory that leaves as much open as if the
application were deleted, so that its replicas were not counted as used any more, and created again.

- `heldBytes_of_fits`: replicas that were counted in a word are credited in full.
- `bytesLeft_released`: a credit and bytes that are not used are the same to a quota.
- `totalMemory_le_max`: replicas fit whose bytes are open.
- `edit_recreates`: so an application does not count against itself.
-/

namespace Provision

/-- Bytes of all replicas together. -/
def SavedReservation.bytes (s : SavedReservation) : Nat :=
  s.memory.toNat * 10 ^ 6 * s.replicas.toNat

namespace Headroom

/-- No replica is cut off at the largest word, and one without memory is none to credit. -/
theorem heldBytes_of_fits {s : SavedReservation} (fits : s.bytes < 2 ^ 64) :
    heldBytes (some s) = s.bytes := by
  unfold SavedReservation.bytes at *
  rcases Nat.eq_zero_or_pos s.memory.toNat with none | some
  · simp [heldBytes, none]
  rcases Nat.eq_zero_or_pos s.replicas.toNat with none | one
  · simp [heldBytes, none]
  · have replica := Nat.le_mul_of_pos_right (s.memory.toNat * 10 ^ 6) one
    rw [heldBytes, if_pos some, Nat.min_eq_left (by omega)]

/-- What is credited may as well not be used. -/
theorem bytesLeft_released (limit : UInt64) {used free : UInt64} {s : SavedReservation}
    (released : free.toNat + s.bytes = used.toNat) :
    bytesLeft limit used (some s) = bytesLeft limit free none := by
  have word := used.toNat_lt
  rw [bytesLeft_eq, bytesLeft_eq, heldBytes_of_fits (by omega)]
  change _ = (limit.toNat : Int) - free.toNat + 0
  omega

/-- Replicas fit if their bytes are open. -/
theorem totalMemory_le_max {policy : Policy} {nodes : List NodeCapacity}
    {quota : Option NamespaceQuota} {saved : Option SavedReservation} {r : Request}
    (fits : (r.memory.toNat * r.replicas.toNat * 10 ^ 6 : Int) ≤ openBytes nodes quota saved) :
    totalMemory r ≤ (compute policy nodes quota saved).memory.max := by
  have max := toNat_memory_max policy nodes quota saved
  rw [UInt64.le_iff_toNat_le, toNat_totalMemory]
  omega

theorem openBytes_limited (nodes : List NodeCapacity) {q : NamespaceQuota} {limit : UInt64}
    (limited : q.memoryLimit = some limit) (saved : Option SavedReservation) :
    openBytes nodes (some q) saved =
      min (2 ^ 64 - 1) (max 0 ((limit.toNat : Int) - q.memoryUsed.toNat + heldBytes saved)) := by
  rw [openBytes, memoryQuota?, Option.bind_some, limited]
  rfl

/-! ## Editing -/

/-- What holds of the memory of an application that is edited. -/
structure Recreates (policy : Policy) (nodes : List NodeCapacity) (saved : SavedReservation) :
    Prop where
  /-- Editing is deleting and creating again: the range is the one that a new application finds
  under a quota of which its bytes are not used. -/
  range {q released : NamespaceQuota} {limit : UInt64} (limited : q.memoryLimit = some limit)
    (held : saved.bytes ≤ q.memoryUsed.toNat) (again : released.memoryLimit = some limit)
    (free : released.memoryUsed.toNat = q.memoryUsed.toNat - saved.bytes) :
    (compute policy nodes (some q) (some saved)).memory =
      (compute policy nodes (some released) none).memory
  /-- Where no more is used than the limit allows, what is held fits. -/
  fits {q : NamespaceQuota} {limit : UInt64} (limited : q.memoryLimit = some limit)
    (held : saved.bytes ≤ q.memoryUsed.toNat) (within : q.memoryUsed ≤ limit) {r : Request}
    (memory : r.memory = saved.memory) (replicas : r.replicas = saved.replicas) :
    let h := compute policy nodes (some q) (some saved)
    totalMemory r ≤ h.memory.max ∧ (h.isExceededBy r = true ↔ h.cpu.max < totalCores r)
  /-- Nothing is credited where memory has no limit. -/
  unlimited {quota : Option NamespaceQuota}
    (limitless : ∀ q, quota = some q → q.memoryLimit = none) :
    (compute policy nodes quota (some saved)).memory = (compute policy nodes quota none).memory

/-- **An edited application does not count against itself.** -/
theorem edit_recreates (policy : Policy) (nodes : List NodeCapacity) (saved : SavedReservation) :
    Recreates policy nodes saved := by
  refine ⟨?_, ?_, ?_⟩
  · intro q released limit limited held again free
    have both : memoryQuota? (some q) = some (limit, q.memoryUsed) ∧
        memoryQuota? (some released) = some (limit, released.memoryUsed) := by
      simp [memoryQuota?, limited, again]
    have left : bytesLeft limit q.memoryUsed (some saved) =
        bytesLeft limit released.memoryUsed none := bytesLeft_released limit (by omega)
    rw [compute_memory, compute_memory, both.1, both.2]
    dsimp only
    rw [left]
  · intro q limit limited held within r memory replicas h
    have word := q.memoryUsed.toNat_lt
    have below := UInt64.le_iff_toNat_le.mp within
    have credited := openBytes_limited nodes limited (some saved)
    rw [heldBytes_of_fits (by omega)] at credited
    have own : r.memory.toNat * r.replicas.toNat * 10 ^ 6 = saved.bytes := by
      rw [memory, replicas, SavedReservation.bytes, Nat.mul_right_comm]
    have fit : totalMemory r ≤ h.memory.max := totalMemory_le_max (by
      rw [credited]
      omega)
    refine ⟨fit, ?_⟩
    rw [isExceededBy, Bool.or_eq_true, decide_eq_true_iff, decide_eq_true_iff,
      or_iff_left (UInt64.not_lt.mpr fit)]
  · intro quota limitless
    rw [compute_memory, compute_memory, memoryQuota?_limitless limitless]

/-- Eight gigabytes, with as much in use. -/
def eightGigabytes (used : UInt64) : NamespaceQuota where
  cpuLimit := none
  cpuUsed := 0
  memoryLimit := some 8000000000
  memoryUsed := used
  cpuLimit_pos _ h := nomatch h
  memoryLimit_pos limit h := by
    cases h
    decide

/-- One gigabyte too much is in use, and half as much again is credited; with two gigabytes to spare
three replicas of half a gigabyte fit. -/
theorem edit_recreates_overused :
    let saved : SavedReservation := ⟨0.5, 512, 3⟩
    let r : Request := ⟨.replicated, .shared, 3, 4, 512⟩
    let h := compute .standard [] (some (eightGigabytes 6000000000)) (some saved)
    saved.bytes = 1536000000 ∧
      (compute .standard [] (some (eightGigabytes 9000000000)) (some saved)).memory = ⟨64, 536⟩ ∧
      totalMemory r ≤ h.memory.max ∧ (h.isExceededBy r = true ↔ h.cpu.max < totalCores r) := by
  intro saved r h
  have recreates := edit_recreates .standard [] saved
  have range : (compute .standard [] (some (eightGigabytes 9000000000)) (some saved)).memory =
      (compute .standard [] (some (eightGigabytes 7464000000)) none).memory :=
    recreates.range rfl (by decide) rfl (by decide)
  have fits := recreates.fits (q := eightGigabytes 6000000000) (r := r) rfl (by decide) (by decide)
    rfl rfl
  exact ⟨by decide, range.trans (by decide +kernel), fits⟩

end Headroom

end Provision
