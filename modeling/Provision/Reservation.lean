import Provision.Kubernetes.Object
import Provision.Node
import Provision.Saturating

/-!
# What the pods of a cluster reserve

Container requests of the pods that run on a known node, against the capacity of the nodes.

- `compute_scheduled`: pods that run on none of the nodes make no difference.
-/

namespace Provision

/-- Requested cores and bytes. -/
structure Demand where
  cores : Float
  bytes : UInt64
  deriving DecidableEq

namespace Demand

def none : Demand := ⟨0, 0⟩

/-- The requests that the containers of these pods state, in order. -/
def requests (pods : List Kubernetes.Pod) : List Kubernetes.Quantities :=
  ((pods.filterMap (·.spec)).flatMap (·.containers)).filterMap (·.requests)

/-- The demand with the cores of one request. -/
def addCores (total : Demand) (request : Kubernetes.Quantities) : Except Fault Demand :=
  match request.get? "cpu" with
  | some cpu => (parseCpu cpu).map fun cores => { total with cores := total.cores + cores }
  | Option.none => .ok total

/-- The demand with the memory of one request. -/
def addBytes (total : Demand) (request : Kubernetes.Quantities) : Except Fault Demand :=
  match request.get? "memory" with
  | some memory =>
    (parseMemory memory).map fun bytes =>
      { total with bytes := Saturating.add total.bytes bytes }
  | Option.none => .ok total

def add (total : Demand) (request : Kubernetes.Quantities) : Except Fault Demand := do
  addBytes (← addCores total request) request

/-- The requests of these pods together. -/
def ofPods (pods : List Kubernetes.Pod) : Except Fault Demand := (requests pods).foldlM add none

end Demand

/-- Capacity and reservation of a cluster; memory in megabytes. -/
structure ClusterReservation where
  nodes : Nat
  cpuCapacity : Float
  memoryCapacity : UInt64
  cpuReserved : Float
  memoryReserved : UInt64
  deriving DecidableEq

namespace ClusterReservation

/-- The pod runs on one of the nodes. -/
def isScheduled (nodes : List NodeCapacity) (pod : Kubernetes.Pod) : Bool :=
  match pod.spec.bind (·.nodeName) with
  | some name => nodes.any (·.name = name)
  | none => false

/-- Memory is floored to megabytes node by node. A sum of no cores is negative zero. -/
def compute (nodes : List NodeCapacity) (pods : List Kubernetes.Pod) :
    Except Fault ClusterReservation := do
  let demand ← Demand.ofPods (pods.filter (isScheduled nodes))
  return {
    nodes := nodes.length
    cpuCapacity := nodes.foldl (fun sum node => sum + node.cores) (-0.0)
    memoryCapacity := (nodes.map fun node => Quantity.megabytes node.bytes).foldl (· + ·) 0
    cpuReserved := demand.cores
    memoryReserved := Quantity.megabytes demand.bytes }

/-- A share of a whole in percent; of nothing, nothing. -/
def percentage (used total : Float) : Float := if total ≤ 0 then 0 else used / total * 100

def cpuPercent (r : ClusterReservation) : Float := percentage r.cpuReserved r.cpuCapacity

def memoryPercent (r : ClusterReservation) : Float :=
  percentage r.memoryReserved.toFloat r.memoryCapacity.toFloat

theorem compute_scheduled (nodes : List NodeCapacity) (pods : List Kubernetes.Pod) :
    compute nodes (pods.filter (isScheduled nodes)) = compute nodes pods := by
  simp [compute, List.filter_filter]

end ClusterReservation

end Provision
