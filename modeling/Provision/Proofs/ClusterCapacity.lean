import Provision.Proofs.ResourceIndependence
import Provision.Proofs.ScheduledPods

/-!
# The memory of a cluster, seen twice

A reservation of the cluster rounds the memory of each node down to megabytes and adds those up, by
plain additions. Headroom adds the bytes up, at most to the largest count, and rounds once. What is
cut off at the nodes makes whole megabytes when it is put together, so the first view may show less
than the second, but by less than one megabyte for each node.

- `Plain.sum?_eq_some_iff`: no addition on the way leaves the word exactly if the sum fits it.
- `nodeBytes_eq`: the bytes of the nodes are their megabytes, and what is cut off.
- `toNat_memoryCapacity`, `toNat_max_limitless`: either view in whole numbers.
- `capacity_views_near`: what lies between the two, in any order of the nodes.
-/

/-! ## Plain additions -/

namespace Provision.Plain

/-- The sum, if it fits a word. -/
def add? (a b : UInt64) : Option UInt64 :=
  if a.toNat + b.toNat < UInt64.size then some (a + b) else none

/-- The counts added up from the first to the last, if no addition leaves the word. -/
def sum? (counts : List UInt64) : Option UInt64 := counts.foldlM add? 0

theorem add?_eq_some_iff {a b total : UInt64} :
    add? a b = some total ↔ total.toNat = a.toNat + b.toNat := by
  have word := total.toNat_lt
  unfold add?
  split
  next fits =>
    rw [Option.some_inj, ← UInt64.toNat_inj, UInt64.toNat_add, Nat.mod_eq_of_lt fits]
    exact eq_comm
  next leaves =>
    refine iff_of_false (Option.some_ne_none total).symm fun exact => leaves ?_
    rw [← exact]
    exact word

theorem foldlM_add?_eq_some_iff {counts : List UInt64} {start total : UInt64} :
    counts.foldlM add? start = some total ↔
      total.toNat = start.toNat + (counts.map UInt64.toNat).sum := by
  induction counts generalizing start with
  | nil =>
    rw [List.foldlM_nil, List.map_nil, List.sum_nil, Nat.add_zero, UInt64.toNat_inj, eq_comm]
    exact Option.some_inj
  | cons count counts ih =>
    rw [List.foldlM_cons, List.map_cons, List.sum_cons]
    refine Option.bind_eq_some_iff.trans ?_
    constructor
    · rintro ⟨next, step, rest⟩
      rw [ih.mp rest, add?_eq_some_iff.mp step, Nat.add_assoc]
    · intro exact
      -- a partial sum is at most the whole, which is a word
      have word := total.toNat_lt
      have step : (start + count).toNat = start.toNat + count.toNat := by
        rw [UInt64.toNat_add, Nat.mod_eq_of_lt (by omega)]
      exact ⟨start + count, add?_eq_some_iff.mpr step, ih.mpr (by omega)⟩

theorem sum?_eq_some_iff {counts : List UInt64} {total : UInt64} :
    sum? counts = some total ↔ total.toNat = (counts.map UInt64.toNat).sum := by
  rw [sum?, foldlM_add?_eq_some_iff, UInt64.toNat_zero, Nat.zero_add]

/-- Unchecked, the sum is what remains of it in a word. -/
theorem toNat_foldl_add (counts : List UInt64) (start : UInt64) :
    (counts.foldl (· + ·) start).toNat =
      (start.toNat + (counts.map UInt64.toNat).sum) % 2 ^ 64 := by
  induction counts generalizing start with
  | nil => exact (Nat.mod_eq_of_lt start.toNat_lt).symm
  | cons count counts ih =>
    rw [List.foldl_cons, ih, UInt64.toNat_add, Nat.mod_add_mod, List.map_cons, List.sum_cons,
      Nat.add_assoc]

end Provision.Plain

namespace Provision

/-! ## Megabytes of the nodes -/

namespace Headroom

/-- Megabytes of the nodes, each rounded down for itself. -/
def nodeMegabytes (nodes : List NodeCapacity) : Nat := (nodes.map (·.bytes.toNat / 10 ^ 6)).sum

theorem nodeMegabytes_eq (nodes : List NodeCapacity) :
    nodeMegabytes nodes =
      ((nodes.map fun node => Quantity.megabytes node.bytes).map UInt64.toNat).sum := by
  rw [List.map_map]
  simp only [Function.comp_def, Quantity.toNat_megabytes]
  rfl

/-- Bytes that this rounding cuts off. -/
def cutBytes (nodes : List NodeCapacity) : Nat := (nodes.map (·.bytes.toNat % 10 ^ 6)).sum

theorem nodeBytes_eq (nodes : List NodeCapacity) :
    nodeBytes nodes = 10 ^ 6 * nodeMegabytes nodes + cutBytes nodes :=
  calc nodeBytes nodes
    _ = (nodes.map fun node =>
          10 ^ 6 * (node.bytes.toNat / 10 ^ 6) + node.bytes.toNat % 10 ^ 6).sum := by
      simp only [Nat.div_add_mod]
      rfl
    _ = 10 ^ 6 * nodeMegabytes nodes + cutBytes nodes := by
      rw [List.sum_map_add, List.sum_map_mul_left]
      rfl

theorem nodeBytes_div (nodes : List NodeCapacity) :
    nodeBytes nodes / 10 ^ 6 = nodeMegabytes nodes + cutBytes nodes / 10 ^ 6 := by
  rw [nodeBytes_eq, Nat.mul_add_div (by decide)]

theorem cutBytes_le (nodes : List NodeCapacity) : cutBytes nodes ≤ nodes.length * 999999 := by
  have each : ∀ cut ∈ nodes.map (·.bytes.toNat % 10 ^ 6), cut ≤ 999999 := by
    rw [List.forall_mem_map]
    intro node _
    omega
  have total := List.sum_le_card_nsmul _ _ each
  rwa [List.length_map] at total

/-- What is cut off makes fewer megabytes than there are nodes. -/
theorem cutBytes_div_lt {nodes : List NodeCapacity} (node : nodes ≠ []) :
    cutBytes nodes / 10 ^ 6 < nodes.length := by
  have cut := cutBytes_le nodes
  have positive := List.length_pos_iff.mpr node
  omega

theorem memory_perm (policy : Policy) {nodes others : List NodeCapacity}
    (perm : others.Perm nodes) (quota : Option NamespaceQuota) (saved : Option SavedReservation) :
    (compute policy others quota saved).memory = (compute policy nodes quota saved).memory := by
  have totals : (ClusterTotals.ofNodes others).bytes = (ClusterTotals.ofNodes nodes).bytes :=
    Saturating.sum_perm (perm.map _)
  rw [compute_memory, compute_memory, totals]

theorem toNat_max_limitless {policy : Policy} {nodes : List NodeCapacity}
    {quota : Option NamespaceQuota} {saved : Option SavedReservation}
    (limitless : ∀ q, quota = some q → q.memoryLimit = none) (fits : nodeBytes nodes < 2 ^ 64) :
    (compute policy nodes quota saved).memory.max.toNat = nodeBytes nodes / 10 ^ 6 := by
  have max := toNat_memory_max policy nodes quota saved
  rw [openBytes, memoryQuota?_limitless limitless] at max
  dsimp only at max
  omega

end Headroom

namespace ClusterReservation

open Kubernetes (Pod)
open Headroom (nodeBytes nodeMegabytes cutBytes)

theorem memoryCapacity_of_ok {nodes : List NodeCapacity} {pods : List Pod} {r : ClusterReservation}
    (ok : compute nodes pods = .ok r) :
    r.memoryCapacity = (nodes.map fun node => Quantity.megabytes node.bytes).foldl (· + ·) 0 := by
  obtain ⟨demand, -, built⟩ := Traversal.bind_eq_ok_iff.mp ok
  cases built
  rfl

theorem toNat_memoryCapacity {nodes : List NodeCapacity} {pods : List Pod} {r : ClusterReservation}
    (ok : compute nodes pods = .ok r) : r.memoryCapacity.toNat = nodeMegabytes nodes % 2 ^ 64 := by
  rw [memoryCapacity_of_ok ok, Plain.toNat_foldl_add, Headroom.nodeMegabytes_eq,
    UInt64.toNat_zero, Nat.zero_add]

/-- Megabytes are fewer than bytes. -/
theorem toNat_memoryCapacity_of_fits {nodes : List NodeCapacity} {pods : List Pod}
    {r : ClusterReservation} (ok : compute nodes pods = .ok r) (fits : nodeBytes nodes < 2 ^ 64) :
    r.memoryCapacity.toNat = nodeMegabytes nodes := by
  have bytes := Headroom.nodeBytes_eq nodes
  rw [toNat_memoryCapacity ok, Nat.mod_eq_of_lt (by omega)]

/-- Capacity of the nodes in megabytes, if the requests of their pods parse. -/
def capacity (nodes : List NodeCapacity) (pods : List Pod) : Except Fault UInt64 :=
  (compute nodes pods).map (·.memoryCapacity)

theorem capacity_perm {nodes others : List NodeCapacity} (perm : others.Perm nodes)
    (pods : List Pod) : capacity others pods = capacity nodes pods := by
  have named : isScheduled others = isScheduled nodes :=
    isScheduled_congr fun name => (perm.map (·.name)).mem_iff
  have summed : (others.map fun node => Quantity.megabytes node.bytes).foldl (· + ·) 0 =
      (nodes.map fun node => Quantity.megabytes node.bytes).foldl (· + ·) 0 := by
    rw [← UInt64.toNat_inj, Plain.toNat_foldl_add, Plain.toNat_foldl_add,
      ((perm.map _).map UInt64.toNat).sum_eq]
  rw [capacity, capacity, compute, compute, named, summed]
  cases Demand.ofPods (pods.filter (isScheduled nodes)) <;> rfl

theorem capacity_nil (pods : List Pod) : capacity [] pods = .ok 0 := by
  have unscheduled : pods.filter (isScheduled []) = [] := by
    rw [List.filter_eq_nil_iff]
    intro pod _ runs
    obtain ⟨name, -, listed⟩ := isScheduled_iff.mp runs
    exact List.not_mem_nil listed
  rw [capacity, compute, unscheduled]
  rfl

/-! ## Both views -/

/-- How the capacity of the cluster and the largest limit on memory relate. -/
structure ViewsNear (policy : Policy) (nodes : List NodeCapacity) (quota : Option NamespaceQuota)
    (saved : Option SavedReservation) : Prop where
  /-- Where a word counts the bytes of the nodes, no addition of their megabytes leaves it. -/
  counted {pods : List Pod} {r : ClusterReservation} (ok : compute nodes pods = .ok r)
    (fits : nodeBytes nodes < 2 ^ 64) :
    Plain.sum? (nodes.map fun node => Quantity.megabytes node.bytes) = some r.memoryCapacity
  /-- Between the views lies what is cut off at the nodes, in whole megabytes, -/
  apart {pods : List Pod} {r : ClusterReservation} (ok : compute nodes pods = .ok r)
    (fits : nodeBytes nodes < 2 ^ 64) :
    (Headroom.compute policy nodes quota saved).memory.max.toNat =
      r.memoryCapacity.toNat + cutBytes nodes / 10 ^ 6
  /-- which is less than one for each node. -/
  near {pods : List Pod} {r : ClusterReservation} (ok : compute nodes pods = .ok r)
    (fits : nodeBytes nodes < 2 ^ 64) (node : nodes ≠ []) :
    let largest := (Headroom.compute policy nodes quota saved).memory.max
    r.memoryCapacity ≤ largest ∧ largest.toNat ≤ r.memoryCapacity.toNat + nodes.length - 1
  /-- Without nodes there is nothing, whatever pods there are, -/
  nothing (empty : nodes = []) (pods : List Pod) :
    capacity nodes pods = .ok 0 ∧ (Headroom.compute policy nodes quota saved).memory.max = 0
  /-- and the order of the nodes is nothing to either view, nor to whether there is a result. -/
  unordered {others : List NodeCapacity} (perm : others.Perm nodes) (pods : List Pod) :
    capacity others pods = capacity nodes pods ∧
      (Headroom.compute policy others quota saved).memory =
        (Headroom.compute policy nodes quota saved).memory

/-- **The two views of a cluster's memory stay within rounding of each other,** wherever no limit on
memory stands between them. -/
theorem capacity_views_near (policy : Policy) (nodes : List NodeCapacity)
    (quota : Option NamespaceQuota) (saved : Option SavedReservation)
    (limitless : ∀ q, quota = some q → q.memoryLimit = none) :
    ViewsNear policy nodes quota saved := by
  have apart {pods : List Pod} {r : ClusterReservation} (ok : compute nodes pods = .ok r)
      (fits : nodeBytes nodes < 2 ^ 64) :
      (Headroom.compute policy nodes quota saved).memory.max.toNat =
        r.memoryCapacity.toNat + cutBytes nodes / 10 ^ 6 := by
    rw [Headroom.toNat_max_limitless limitless fits, Headroom.nodeBytes_div,
      toNat_memoryCapacity_of_fits ok fits]
  refine ⟨?_, apart, ?_, ?_, ?_⟩
  · intro pods r ok fits
    rw [Plain.sum?_eq_some_iff, toNat_memoryCapacity_of_fits ok fits, Headroom.nodeMegabytes_eq]
  · intro pods r ok fits node largest
    have lost : largest.toNat = r.memoryCapacity.toNat + cutBytes nodes / 10 ^ 6 := apart ok fits
    have few := Headroom.cutBytes_div_lt node
    rw [UInt64.le_iff_toNat_le]
    omega
  · rintro rfl pods
    refine ⟨capacity_nil pods, ?_⟩
    rw [← UInt64.toNat_inj, Headroom.toNat_max_limitless limitless (by decide)]
    rfl
  · intro others perm pods
    exact ⟨capacity_perm perm pods, Headroom.memory_perm policy perm quota saved⟩

/-- Each node is a byte short of two megabytes. -/
def short : List NodeCapacity :=
  [⟨"a", 16, 1999999, by decide +kernel⟩, ⟨"b", 16, 1999999, by decide +kernel⟩,
    ⟨"c", 16, 1999999, by decide +kernel⟩]

/-- Three nodes lose two megabytes, under a quota on cores alone; no three nodes lose more. -/
theorem capacity_views_near_short :
    let largest := (Headroom.compute .standard short (some Headroom.coresOnly) none).memory.max
    (∃ r, compute short [web] = .ok r ∧ nodeBytes short < 2 ^ 64 ∧ short ≠ [] ∧
        Plain.sum? [1, 1, 1] = some r.memoryCapacity ∧ r.memoryCapacity = 3 ∧
        largest.toNat = 3 + 2 ∧ largest.toNat ≤ r.memoryCapacity.toNat + short.length - 1) ∧
      capacity short.reverse [web] = .ok 3 := by
  intro largest
  have limitless : ∀ q, some Headroom.coresOnly = some q → q.memoryLimit = none := by
    rintro q ⟨⟩
    rfl
  have views := capacity_views_near .standard short (some Headroom.coresOnly) none limitless
  have ok : compute short [web] = .ok ⟨3, 48, 3, 0.5, 2⟩ := by decide +kernel
  have fits : nodeBytes short < 2 ^ 64 := by decide
  have node : short ≠ [] := List.cons_ne_nil _ _
  refine ⟨⟨_, ok, fits, node, views.counted ok fits, rfl, views.apart ok fits,
    (views.near ok fits node).2⟩, ?_⟩
  exact (views.unordered short.reverse_perm [web]).1.trans (by decide +kernel)

end ClusterReservation

end Provision
