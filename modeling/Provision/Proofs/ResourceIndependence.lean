import Provision.Proofs.DoubleOrder
import Provision.Proofs.MemoryHeadroom

/-!
# Cores and memory do not mix

Nodes, quotas and reservations are records of both resources. A range is computed from what they say
about its own resource, and where they say nothing about it, it falls back for itself alone.

- `compute_cpu`: what the range of cores is made of, as `compute_memory` is for memory.
- `cpu_congr`, `memory_congr`: two inputs that agree on one resource have one range of it.
- `cpuQuota?_of_ok`, `memoryQuota?_of_ok`: a limit of zero is none.
- `coresLeft_uncredited`, `heldBytes_uncredited`: a reservation of nothing is no credit.
- `resources_independent`: so no range depends on the other resource.
-/

namespace Provision.Headroom

open Number (lt_iff_compare beq_iff_compare)

/-! ## Inputs and their halves -/

/-- What headroom is computed from. -/
structure Input where
  policy : Policy
  nodes : List NodeCapacity
  quota : Option NamespaceQuota
  saved : Option SavedReservation

def Input.headroom (i : Input) : Headroom := compute i.policy i.nodes i.quota i.saved

/-- The limit on cores that a quota sets, if it sets one, and what is used of it. -/
def cpuQuota? (quota : Option NamespaceQuota) : Option (Float × Float) :=
  quota.bind fun q => q.cpuLimit.map (·, q.cpuUsed)

/-- Two inputs say the same about memory, whatever they say about cores. -/
structure SameMemory (i j : Input) : Prop where
  nodes : i.nodes.map (·.bytes) = j.nodes.map (·.bytes)
  floor : i.policy.memoryFloor = j.policy.memoryFloor
  quota : memoryQuota? i.quota = memoryQuota? j.quota
  saved : (i.saved.map fun s => (s.memory, s.replicas)) =
    j.saved.map fun s => (s.memory, s.replicas)

/-- Two inputs say the same about cores, whatever they say about memory. -/
structure SameCpu (i j : Input) : Prop where
  nodes : i.nodes.map (·.cores) = j.nodes.map (·.cores)
  floor : i.policy.cpuFloor = j.policy.cpuFloor
  quota : cpuQuota? i.quota = cpuQuota? j.quota
  saved : (i.saved.map fun s => (s.cores, s.replicas)) =
    j.saved.map fun s => (s.cores, s.replicas)

/-- Two reservations that agree on something are both missing, or both there and agree on it. -/
theorem saved_cases {s t : Option SavedReservation} {f : SavedReservation → α}
    (same : s.map f = t.map f) :
    (s = none ∧ t = none) ∨ ∃ a b, s = some a ∧ t = some b ∧ f a = f b := by
  cases s with
  | none => exact .inl ⟨rfl, Option.map_eq_none_iff.mp same.symm⟩
  | some a =>
    obtain ⟨b, there, agree⟩ := Option.map_eq_some_iff.mp same.symm
    exact .inr ⟨a, b, rfl, there, agree.symm⟩

/-! ## Memory -/

theorem heldBytes_congr {s t : Option SavedReservation}
    (same : (s.map fun s => (s.memory, s.replicas)) = t.map fun s => (s.memory, s.replicas)) :
    heldBytes s = heldBytes t := by
  obtain ⟨rfl, rfl⟩ | ⟨a, b, rfl, rfl, agree⟩ := saved_cases same
  · rfl
  · obtain ⟨memory, replicas⟩ := Prod.mk.inj agree
    rw [heldBytes_some, heldBytes_some, memory, replicas]

theorem memory_congr {i j : Input} (same : SameMemory i j) :
    i.headroom.memory = j.headroom.memory := by
  have totals : (ClusterTotals.ofNodes i.nodes).bytes = (ClusterTotals.ofNodes j.nodes).bytes := by
    unfold ClusterTotals.ofNodes
    rw [same.nodes]
  unfold Input.headroom
  simp only [compute_memory, bytesLeft_eq, same.quota, same.floor, totals,
    heldBytes_congr same.saved]

/-- A quota that is built with a limit of zero on memory, or with none, sets no limit on it. -/
theorem memoryQuota?_of_ok {cpuLimit : Option Float} {cpuUsed : Float} {memoryLimit : Option UInt64}
    {memoryUsed : UInt64} {q : NamespaceQuota}
    (built : NamespaceQuota.of cpuLimit cpuUsed memoryLimit memoryUsed = .ok q)
    (unlimited : ∀ limit, memoryLimit = some limit → limit = 0) : memoryQuota? (some q) = none := by
  obtain ⟨-, -, limit, -⟩ := NamespaceQuota.of_ok built
  have none : memoryLimit.filter (0 < ·) = none := by
    rw [Option.filter_eq_none_iff]
    intro bytes given
    rw [unlimited bytes given]
    decide
  rw [memoryQuota?, Option.bind_some, limit, none, Option.map_none]

theorem heldBytes_uncredited {s : SavedReservation} (zero : s.memory = 0) :
    heldBytes (some s) = 0 := by
  rw [heldBytes, if_neg]
  rw [zero]
  decide

/-! ## Cores -/

theorem compute_cpu (policy : Policy) (nodes : List NodeCapacity) (quota : Option NamespaceQuota)
    (saved : Option SavedReservation) :
    (compute policy nodes quota saved).cpu =
      match cpuQuota? quota with
      | some (limit, used) =>
        let left := coresLeft limit used saved
        ⟨policy.cpuFloor, Quantity.roundCpu (if 0 < left then left else 0)⟩
      | none => ⟨0, Quantity.roundCpu (ClusterTotals.ofNodes nodes).cores⟩ := by
  unfold compute cpuRange cpuQuota?
  dsimp only
  split <;> rename_i h <;> rw [h]

theorem coresLeft_congr (limit used : Float) {s t : Option SavedReservation}
    (same : (s.map fun s => (s.cores, s.replicas)) = t.map fun s => (s.cores, s.replicas)) :
    coresLeft limit used s = coresLeft limit used t := by
  obtain ⟨rfl, rfl⟩ | ⟨a, b, rfl, rfl, agree⟩ := saved_cases same
  · rfl
  · obtain ⟨cores, replicas⟩ := Prod.mk.inj agree
    unfold coresLeft
    dsimp only
    rw [cores, replicas]

/-- The cores of the nodes are summed in the order of the nodes. -/
theorem totals_cores (nodes : List NodeCapacity) :
    (ClusterTotals.ofNodes nodes).cores = (nodes.map (·.cores)).foldl (· + ·) 0 := by
  rw [List.foldl_map]
  rfl

theorem cpu_congr {i j : Input} (same : SameCpu i j) : i.headroom.cpu = j.headroom.cpu := by
  have totals : (ClusterTotals.ofNodes i.nodes).cores = (ClusterTotals.ofNodes j.nodes).cores := by
    rw [totals_cores, totals_cores, same.nodes]
  unfold Input.headroom
  simp only [compute_cpu, same.quota, same.floor, totals, coresLeft_congr _ _ same.saved]

/-- What equals zero, of either sign, is not above it. -/
theorem not_pos_of_zero {x : Float} (zero : (0 == x) = true) : ¬ 0 < x := by
  have compared := eq_of_beq (beq_iff_compare.mp zero)
  rw [lt_iff_compare, compared]
  decide

theorem cpuQuota?_of_ok {cpuLimit : Option Float} {cpuUsed : Float} {memoryLimit : Option UInt64}
    {memoryUsed : UInt64} {q : NamespaceQuota}
    (built : NamespaceQuota.of cpuLimit cpuUsed memoryLimit memoryUsed = .ok q)
    (unlimited : ∀ limit, cpuLimit = some limit → (0 == limit) = true) :
    cpuQuota? (some q) = none := by
  obtain ⟨limit, -⟩ := NamespaceQuota.of_ok built
  have none : cpuLimit.filter (0 < ·) = none := by
    rw [Option.filter_eq_none_iff]
    intro cores given
    rw [decide_eq_true_iff]
    exact not_pos_of_zero (unlimited cores given)
  rw [cpuQuota?, Option.bind_some, limit, none, Option.map_none]

theorem coresLeft_uncredited (limit used : Float) {s : SavedReservation}
    (zero : (0 == s.cores) = true) : coresLeft limit used (some s) = coresLeft limit used none :=
  if_neg (not_pos_of_zero zero)

/-! ## Independence -/

/-- What holds of the ranges of one input. -/
structure Independent (i : Input) : Prop where
  /-- Any other input that says the same about memory has the same range of it. -/
  memory {j : Input} (same : SameMemory i j) : j.headroom.memory = i.headroom.memory
  cpu {j : Input} (same : SameCpu i j) : j.headroom.cpu = i.headroom.cpu
  /-- A quota without a limit on memory, or with one of zero, is to memory as none, whatever is used
  of it and whatever is held. -/
  memory_unlimited {cpuLimit : Option Float} {cpuUsed : Float} {memoryLimit : Option UInt64}
    {memoryUsed : UInt64} {q : NamespaceQuota}
    (built : NamespaceQuota.of cpuLimit cpuUsed memoryLimit memoryUsed = .ok q)
    (unlimited : ∀ limit, memoryLimit = some limit → limit = 0) (held : Option SavedReservation) :
    (compute i.policy i.nodes (some q) held).memory =
      (compute i.policy i.nodes none i.saved).memory
  cpu_unlimited {cpuLimit : Option Float} {cpuUsed : Float} {memoryLimit : Option UInt64}
    {memoryUsed : UInt64} {q : NamespaceQuota}
    (built : NamespaceQuota.of cpuLimit cpuUsed memoryLimit memoryUsed = .ok q)
    (unlimited : ∀ limit, cpuLimit = some limit → (0 == limit) = true)
    (held : Option SavedReservation) :
    (compute i.policy i.nodes (some q) held).cpu = (compute i.policy i.nodes none i.saved).cpu
  /-- A reservation without memory leaves the range of memory as it is without one. -/
  memory_uncredited {s : SavedReservation} (zero : s.memory = 0) :
    (compute i.policy i.nodes i.quota (some s)).memory =
      (compute i.policy i.nodes i.quota none).memory
  cpu_uncredited {s : SavedReservation} (zero : (0 == s.cores) = true) :
    (compute i.policy i.nodes i.quota (some s)).cpu = (compute i.policy i.nodes i.quota none).cpu
  quotaApplied_iff : i.headroom.quotaApplied = true ↔ ∃ q, i.quota = some q

/-- **Cores and memory do not mix.** Each range depends on what is said about its own resource, and
so does its way back to the cluster or to no credit. -/
theorem resources_independent (i : Input) : Independent i := by
  refine ⟨fun same => (memory_congr same).symm, fun same => (cpu_congr same).symm, ?_, ?_, ?_, ?_,
    Option.isSome_iff_exists⟩
  · intro _ _ _ _ q built unlimited held
    rw [compute_memory, compute_memory, memoryQuota?_of_ok built unlimited]
    rfl
  · intro _ _ _ _ q built unlimited held
    rw [compute_cpu, compute_cpu, cpuQuota?_of_ok built unlimited]
    rfl
  · intro s zero
    simp only [compute_memory, bytesLeft_eq, heldBytes_uncredited zero]
    rfl
  · intro s zero
    simp only [compute_cpu, coresLeft_uncredited _ _ zero]

theorem no_limit_pos : ∀ limit : UInt64, none = some limit → 0 < limit := nofun

/-- A quota on cores alone; more memory is used than there is. -/
def coresOnly : NamespaceQuota where
  cpuLimit := some 4
  cpuUsed := 1
  memoryLimit := none
  memoryUsed := 90000000000
  cpuLimit_pos limit h := by
    cases h
    decide +kernel
  memoryLimit_pos := no_limit_pos

/-- An application that holds memory only, under a quota on cores only. -/
def mixed : Input where
  policy := .standard
  nodes := [⟨"worker", 8, 16000000000, by decide +kernel⟩]
  quota := some coresOnly
  saved := some ⟨0, 512, 3⟩

/-- As much memory, and nothing else in common. -/
def unmixed : Input where
  policy := ⟨1, 64⟩
  nodes := [⟨"other", 2, 16000000000, by decide +kernel⟩]
  quota := none
  saved := some ⟨2, 512, 3⟩

/-- The quota bounds the cores without a credit; memory is as open as without the quota. -/
theorem resources_independent_mixed :
    SameMemory mixed unmixed ∧ unmixed.headroom.memory = mixed.headroom.memory ∧
      NamespaceQuota.of (some 4) 1 (some 0) 90000000000 = .ok coresOnly ∧
      mixed.headroom.memory = ⟨0, 16000⟩ ∧ mixed.headroom.cpu = ⟨0.1, 3⟩ := by
  have same : SameMemory mixed unmixed := ⟨rfl, rfl, rfl, rfl⟩
  have built : NamespaceQuota.of (some 4) 1 (some 0) 90000000000 = .ok coresOnly := by
    decide +kernel
  have independent := resources_independent mixed
  have memory := independent.memory_unlimited built (fun _ given => (Option.some.inj given).symm)
    mixed.saved
  have cpu := independent.cpu_uncredited (s := ⟨0, 512, 3⟩) (by decide +kernel)
  exact ⟨same, independent.memory same, built, memory.trans (by decide +kernel),
    cpu.trans (by decide +kernel)⟩

end Provision.Headroom
