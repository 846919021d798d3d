import Provision.Proofs.WholeMemory
import Provision.Snapshot.Document

/-!
# Kubernetes nodes by way of a listing

Where a snapshot has no listing, one is made of its Kubernetes nodes: the bytes of a node are
written in decimal, and the listing is read like any other, its cores checked for a second time.

- `parseMemory_toString`: bytes that are written in decimal read back, up to the largest count.
- `ofListing_listing`: so does the entry of a capacity, whose cores are valid already.
- `nodeCapacities_of_kubernetes`: the way through the listing does nothing to the nodes.
- `kubernetes_nodes_exact`: so they are all there as they were read, or the first one that is no
  capacity is the failure.
-/

namespace Provision

/-! ## Writing and reading back -/

open Quantity in
/-- A count in decimal is a quantity without a unit. -/
theorem parseMemory_toString (bytes : UInt64) : parseMemory (toString bytes.toNat) = .ok bytes := by
  have digits := Number.isDigits_toDigits bytes.toNat
  have value := Number.digitsValue_toDigits bytes.toNat
  have solid : Text.trim (toString bytes.toNat).toList = Nat.toDigits 10 bytes.toNat := by
    have written : (toString bytes.toNat).toList = Nat.toDigits 10 bytes.toNat :=
      String.toList_ofList
    rw [written]
    apply Text.trim_solid
    intro c hc
    exact Text.isBlank_of_digit (digits.2 c hc)
  have form : IsQuantity (Text.trim (toString bytes.toNat).toList)
      (Nat.toDigits 10 bytes.toNat) (.bytes 1) := by
    refine ⟨[], [], ?_, .whole digits, ?_, Scale.Spelling.none⟩
    · rw [solid, List.append_nil, List.append_nil]
    · intro c hc
      cases hc
  have small : bytes.toNat < UInt64.size := bytes.toNat_lt
  have whole : (Scale.bytes 1).whole bytes.toNat = some bytes := by
    rw [Scale.whole, Nat.mul_one, Scale.count?, if_pos small, UInt64.ofNat_toNat]
  rw [parseMemory_of_digits form digits (by rw [value]; exact small), value, whole]

namespace NodeCapacity

/-- An entry states its capacity in full. -/
theorem ofListing_listing (node : NodeCapacity) : ofListing node.listing = .ok node := by
  have memory : parseMemory node.listing.memory = .ok node.bytes := parseMemory_toString node.bytes
  have cores : of node.name node.cores node.bytes = .ok node := dif_pos node.cores_valid
  rw [ofListing, parse, memory]
  exact cores

theorem ofListings_listings (nodes : List NodeCapacity) :
    ofListings (nodes.map listing) = .ok nodes := by
  rw [ofListings_ok_iff, List.map_map]
  apply List.map_congr_left
  intro node _
  exact ofListing_listing node

end NodeCapacity

/-! ## The listing that is made -/

namespace Snapshot

variable {s : Snapshot}

theorem nodeListings_of_kubernetes (h : s.nodes = []) : s.nodeListings =
    (inPart .nodeCapacity (s.kubernetesNodes.mapM NodeCapacity.ofNode)).map
      (List.map NodeCapacity.listing) := by
  have none : s.nodes.isEmpty = true := by rw [h]; rfl
  rw [nodeListings, if_pos none]
  exact Traversal.mapM_mapError_map ..

theorem nodeCapacities_of_kubernetes (h : s.nodes = []) :
    s.nodeCapacities = inPart .nodeCapacity (s.kubernetesNodes.mapM NodeCapacity.ofNode) := by
  rw [nodeCapacities, nodeListings_of_kubernetes h]
  cases s.kubernetesNodes.mapM NodeCapacity.ofNode with
  | error fault => rfl
  | ok nodes =>
    change inPart .nodeListing (NodeCapacity.ofListings (nodes.map NodeCapacity.listing)) = _
    rw [NodeCapacity.ofListings_listings]
    rfl

/-- What becomes of the Kubernetes nodes of a snapshot. -/
structure NodesExact (s : Snapshot) : Prop where
  succeeds_iff : (∃ nodes, s.nodeCapacities = .ok nodes) ↔
    ∀ node ∈ s.kubernetesNodes, ∃ capacity, NodeCapacity.ofNode node = .ok capacity
  /-- The capacities are those of the nodes, one by one and in their order. -/
  ok_iff (nodes : List NodeCapacity) : s.nodeCapacities = .ok nodes ↔
    s.kubernetesNodes.map NodeCapacity.ofNode = nodes.map .ok
  /-- The fault is that of the first node that has one. -/
  error_iff (failure : Failure) : s.nodeCapacities = .error failure ↔
    ∃ good bad rest fault, s.kubernetesNodes = good ++ bad :: rest ∧
      (∀ node ∈ good, ∃ capacity, NodeCapacity.ofNode node = .ok capacity) ∧
      NodeCapacity.ofNode bad = .error fault ∧ failure = ⟨.nodeCapacity, fault⟩
  /-- Each node has passed through an entry of the listing. -/
  listed {nodes : List NodeCapacity} (done : s.nodeCapacities = .ok nodes) :
    s.nodeListings = .ok (nodes.map NodeCapacity.listing)
  /-- Whatever its bytes and cores, the entry of a capacity reads as the capacity again. -/
  reads_back (node : NodeCapacity) : NodeCapacity.ofListing node.listing = .ok node

/-- **Going through a listing loses nothing.** Where a snapshot has no listing, its capacities are
those of its Kubernetes nodes, every core count and every count of bytes as it was read. -/
theorem kubernetes_nodes_exact (h : s.nodes = []) : NodesExact s := by
  have same := nodeCapacities_of_kubernetes h
  have ok_iff (nodes : List NodeCapacity) : s.nodeCapacities = .ok nodes ↔
      s.kubernetesNodes.map NodeCapacity.ofNode = nodes.map .ok := by
    rw [same, inPart_ok_iff, Traversal.mapM_eq_ok_iff]
  refine ⟨?_, ok_iff, ?_, ?_, NodeCapacity.ofListing_listing⟩
  · simp only [ok_iff, Traversal.map_ok_iff]
  · intro failure
    rw [same, inPart_error_iff]
    constructor
    · rintro ⟨fault, rfl, failed⟩
      obtain ⟨good, bad, rest, parts, before, fails⟩ := Traversal.mapM_eq_error_iff.mp failed
      exact ⟨good, bad, rest, fault, parts, Traversal.map_ok_iff.mp before, fails, rfl⟩
    · rintro ⟨good, bad, rest, fault, parts, before, fails, rfl⟩
      refine ⟨fault, rfl, Traversal.mapM_eq_error_iff.mpr ?_⟩
      exact ⟨good, bad, rest, parts, Traversal.map_ok_iff.mpr before, fails⟩
  · intro nodes done
    rw [same, inPart_ok_iff] at done
    rw [nodeListings_of_kubernetes h, done]
    rfl

/-- Nodes without a listing: the first has the largest count of bytes. -/
def unlisted (nodes : List Kubernetes.Node) : Snapshot where
  capturedAt := none
  nodes := []
  kubernetesNodes :=
    ⟨some "full", some ⟨some [("cpu", "250m"), ("memory", "18446744073709551615")],
      none⟩⟩ :: nodes
  quota := none
  resourceQuota := none
  form := .empty
  saved := none
  editing := none
  existing := []
  pods := []
  configuration := none

/-- The largest count of bytes comes through, and the first node that is none is named. -/
theorem kubernetes_nodes_exact_full :
    (∃ full, (unlisted []).nodeCapacities = .ok [full] ∧ full.bytes = 18446744073709551615) ∧
    (unlisted [⟨some "bare", none⟩, ⟨none, none⟩]).nodeCapacities =
      .error ⟨.nodeCapacity, .input (.noNodeStatus "bare")⟩ := by
  have full : ∃ full, (unlisted []).kubernetesNodes.map NodeCapacity.ofNode = [.ok full] ∧
      full.bytes = 18446744073709551615 := by
    refine ⟨⟨"full", 0.25, 18446744073709551615, by decide +kernel⟩, ?_, rfl⟩
    decide +kernel
  obtain ⟨node, read, bytes⟩ := full
  constructor
  · exact ⟨node, ((kubernetes_nodes_exact rfl).ok_iff [node]).mpr read, bytes⟩
  · refine ((kubernetes_nodes_exact rfl).error_iff _).mpr ?_
    refine ⟨(unlisted []).kubernetesNodes, ⟨some "bare", none⟩, [⟨none, none⟩], _, rfl, ?_, rfl,
      rfl⟩
    intro first member
    cases List.mem_singleton.mp member
    exact ⟨node, List.head_eq_of_cons_eq read⟩

end Snapshot

end Provision
