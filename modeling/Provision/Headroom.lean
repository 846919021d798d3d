import Provision.Deployment
import Provision.Node
import Provision.Quota
import Provision.Saturating

/-!
# Headroom: the range that limits per replica may take

Headroom is bounded by the capacity of the nodes, or by what a quota leaves of its limit. An
application that is edited gets its own reservation back first.

- `Range.snap_snap`: snapping a value into a range twice is snapping it once.
-/

namespace Provision

/-- Least limits under a quota. -/
structure Policy where
  cpuFloor : Float
  memoryFloor : UInt64
  deriving DecidableEq

def Policy.standard : Policy := ⟨0.1, 64⟩

/-- A range, ends included. -/
structure Range (α : Type) where
  min : α
  max : α
  deriving DecidableEq

namespace Range

variable {α : Type} [LE α] [DecidableLE α]

def contains (r : Range α) (value : α) : Bool := decide (r.min ≤ value) && decide (value ≤ r.max)

/-- A value outside the range goes to its lower end, also where the range is empty. -/
def snap (r : Range α) (value : α) : α := if r.contains value then value else r.min

theorem snap_of_contains {r : Range α} {value : α} (h : r.contains value = true) :
    r.snap value = value := by simp [snap, h]

theorem snap_snap (r : Range α) (value : α) : r.snap (r.snap value) = r.snap value := by
  by_cases h : r.contains value = true
  · rw [snap_of_contains h, snap_of_contains h]
  · have : r.snap value = r.min := by simp [snap, h]
    rw [this]
    unfold snap
    split <;> rfl

end Range

/-- The range for each replica; processor time in cores, memory in megabytes. -/
structure Headroom where
  cpu : Range Float
  memory : Range UInt64
  /-- A quota took part in the computation. -/
  quotaApplied : Bool
  deriving DecidableEq

/-- What all nodes have together. -/
structure ClusterTotals where
  cores : Float
  bytes : UInt64
  deriving DecidableEq

def ClusterTotals.ofNodes (nodes : List NodeCapacity) : ClusterTotals :=
  { cores := nodes.foldl (fun sum node => sum + node.cores) 0
    bytes := Saturating.sum (nodes.map (·.bytes)) }

namespace Headroom

/-- Cores of all replicas together, to two places, so that three tenths are three times a tenth. -/
def totalCores (r : Request) : Float := Quantity.roundCpu (r.cores * r.replicas.toFloat)

/-- Megabytes of all replicas together, at most the largest count. -/
def totalMemory (r : Request) : UInt64 := Saturating.mul r.memory (UInt64.ofNat r.replicas.toNat)

/-- The replicas together ask for more than there is, of cores or of memory. -/
def isExceededBy (h : Headroom) (r : Request) : Bool :=
  decide (h.cpu.max < totalCores r) || decide (h.memory.max < totalMemory r)

/-- Nothing is left to reserve, of cores or of memory. -/
def isExhausted (h : Headroom) : Bool := decide (h.cpu.max ≤ 0) || h.memory.max = 0

/-- The request with both limits snapped into their ranges, unchecked. -/
def clamp (h : Headroom) (r : Request) : Request :=
  { r with cores := h.cpu.snap r.cores, memory := h.memory.snap r.memory }

/-- What is left of a limit on cores, and what the edited application holds of it. -/
def coresLeft (limit used : Float) (saved : Option SavedReservation) : Float :=
  match saved with
  | some s => if 0 < s.cores then limit - used + s.cores * s.replicas.toFloat else limit - used
  | none => limit - used

/-- What is left of a limit on memory in bytes, and what the edited application holds of it;
negative where more is used than the limit allows. -/
def bytesLeft (limit used : UInt64) (saved : Option SavedReservation) : Int :=
  (limit.toNat : Int) - used.toNat +
    match saved with
    | some s => (Quantity.bytesOfMegabytes s.memory).toNat * s.replicas.toNat
    | none => 0

/-- Without a limit the whole cluster is open. -/
def cpuRange (policy : Policy) (totals : ClusterTotals) (quota : Option NamespaceQuota)
    (saved : Option SavedReservation) : Range Float :=
  match quota.bind fun q => q.cpuLimit.map (·, q.cpuUsed) with
  | none => ⟨0, Quantity.roundCpu totals.cores⟩
  | some (limit, used) =>
    let left := coresLeft limit used saved
    ⟨policy.cpuFloor, Quantity.roundCpu (if 0 < left then left else 0)⟩

def memoryRange (policy : Policy) (totals : ClusterTotals) (quota : Option NamespaceQuota)
    (saved : Option SavedReservation) : Range UInt64 :=
  match quota.bind fun q => q.memoryLimit.map (·, q.memoryUsed) with
  | none => ⟨0, Quantity.megabytes totals.bytes⟩
  | some (limit, used) =>
    ⟨policy.memoryFloor, Quantity.megabytes (Saturating.ofInt (bytesLeft limit used saved))⟩

/-- The headroom on these nodes, under a quota if there is one, for a new application or for one
that holds `saved` already. -/
def compute (policy : Policy) (nodes : List NodeCapacity) (quota : Option NamespaceQuota)
    (saved : Option SavedReservation) : Headroom :=
  let totals := ClusterTotals.ofNodes nodes
  { cpu := cpuRange policy totals quota saved
    memory := memoryRange policy totals quota saved
    quotaApplied := quota.isSome }

theorem clamp_clamp (h : Headroom) (r : Request) : h.clamp (h.clamp r) = h.clamp r := by
  simp [clamp, Range.snap_snap]

end Headroom

end Provision
