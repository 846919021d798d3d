import Provision.Fault
import Provision.Kubernetes.Object
import Provision.Traversal

/-!
# Nodes and their capacity

A capacity is read from an entry of a node listing or from a Kubernetes node. Its core count is
finite and not negative, whichever way it was built.

- `ofListings_ok_iff`: a listing is read entry by entry, in order.
-/

namespace Provision

/-- Allocatable capacity of one node. -/
structure NodeCapacity where
  name : String
  cores : Float
  bytes : UInt64
  cores_valid : Quantity.isCoreCount cores = true
  deriving DecidableEq

/-- An entry of a node listing: memory is a quantity. -/
structure NodeListing where
  name : String
  cores : Float
  memory : String
  deriving DecidableEq

namespace NodeCapacity

def of (name : String) (cores : Float) (bytes : UInt64) : Except Fault NodeCapacity :=
  if h : Quantity.isCoreCount cores then .ok ⟨name, cores, bytes, h⟩
  else .error (.input (.cores .node cores))

/-- The memory is read before the cores are checked. -/
def parse (name : String) (cores : Float) (memory : String) : Except Fault NodeCapacity := do
  of name cores (← parseMemory memory)

def ofListing (entry : NodeListing) : Except Fault NodeCapacity :=
  parse entry.name entry.cores entry.memory

/-- One malformed entry fails the listing. -/
def ofListings (entries : List NodeListing) : Except Fault (List NodeCapacity) :=
  entries.mapM ofListing

/-- What a lookup yields, or the fault of its absence. -/
def required (found : Option α) (absent : Misfit) : Except Fault α :=
  match found with
  | some a => .ok a
  | none => .error (.input absent)

/-- Allocatable resources count before raw capacity. -/
def ofNode (node : Kubernetes.Node) : Except Fault NodeCapacity := do
  let name ← required node.name .noNodeName
  let status ← required node.status (.noNodeStatus name)
  let resources ← required (status.allocatable.or status.capacity) (.noNodeResources name)
  let cpu ← required (resources.get? "cpu") .noNodeCpu
  let memory ← required (resources.get? "memory") .noNodeMemory
  let cores ← parseCpu cpu
  of name cores (← parseMemory memory)

/-- The entry of a listing that states this capacity. -/
def listing (node : NodeCapacity) : NodeListing :=
  { name := node.name, cores := node.cores, memory := toString node.bytes.toNat }

theorem ofListings_ok_iff {entries : List NodeListing} {nodes : List NodeCapacity} :
    ofListings entries = .ok nodes ↔ entries.map ofListing = nodes.map .ok :=
  Traversal.mapM_eq_ok_iff

end NodeCapacity

end Provision
