import Provision.Fault

/-!
# Deployments: their shape and their limits per replica

A request is checked when it is built and when its replicas or limits are set. Only snapping limits
into a range of headroom writes them unchecked.

- `of_ok_iff`: a request is built exactly from at least one replica and a valid core count.
- `withReplicas_valid`, `withLimits_valid`: setting a part keeps a valid request valid.
-/

namespace Provision

inductive DeploymentType where
  | replicated
  | global
  | statefulSet
  deriving DecidableEq, Repr

/-- Whether replicas share their data or have volumes of their own. -/
inductive DataAccess where
  | shared
  | isolated
  deriving DecidableEq, Repr

/-- The Kubernetes workload that runs an application. -/
inductive Workload where
  | deployment
  | daemonSet
  | statefulSet
  deriving DecidableEq, Repr

namespace DeploymentType

def name : DeploymentType → String
  | .replicated => "REPLICATED"
  | .global => "GLOBAL"
  | .statefulSet => "STATEFULSET"

def ofName? : String → Option DeploymentType
  | "REPLICATED" => some .replicated
  | "GLOBAL" => some .global
  | "STATEFULSET" => some .statefulSet
  | "STATEFUL_SET" => some .statefulSet
  | _ => none

/-- Isolated data needs a stateful set; a global deployment runs on every node. -/
def workload : DeploymentType → DataAccess → Workload
  | .statefulSet, _ => .statefulSet
  | _, .isolated => .statefulSet
  | .global, .shared => .daemonSet
  | .replicated, .shared => .deployment

theorem ofName?_name (t : DeploymentType) : ofName? t.name = some t := by cases t <;> rfl

end DeploymentType

namespace DataAccess

def name : DataAccess → String
  | .shared => "SHARED"
  | .isolated => "ISOLATED"

def ofName? : String → Option DataAccess
  | "SHARED" => some .shared
  | "ISOLATED" => some .isolated
  | _ => none

theorem ofName?_name (a : DataAccess) : ofName? a.name = some a := by cases a <;> rfl

end DataAccess

def Workload.name : Workload → String
  | .deployment => "Deployment"
  | .daemonSet => "DaemonSet"
  | .statefulSet => "StatefulSet"

/-- A requested deployment; limits are per replica, memory in megabytes. Two requests are the same
if their core counts are equal numbers. -/
structure Request where
  type : DeploymentType
  access : DataAccess
  replicas : UInt32
  cores : Float
  memory : UInt64
  deriving BEq

/-- What an existing application holds, to be credited when it is edited. -/
structure SavedReservation where
  cores : Float
  memory : UInt64
  replicas : UInt32
  deriving DecidableEq

namespace Request

/-- What is checked when a request is built. -/
def Valid (r : Request) : Prop := r.replicas ≠ 0 ∧ Quantity.isCoreCount r.cores = true

def initial : Request := ⟨.replicated, .shared, 1, 0, 0⟩

/-- Replicas are checked before cores. -/
def of (type : DeploymentType) (access : DataAccess) (replicas : UInt32) (cores : Float)
    (memory : UInt64) : Except Fault Request := do
  if replicas = 0 then throw (.input .noReplica)
  checkCores .limit cores
  return ⟨type, access, replicas, cores, memory⟩

def withReplicas (r : Request) (replicas : UInt32) : Except Fault Request :=
  if replicas = 0 then .error (.input .noReplica) else .ok { r with replicas }

def withLimits (r : Request) (cores : Float) (memory : UInt64) : Except Fault Request := do
  checkCores .limit cores
  return { r with cores, memory }

def workload (r : Request) : Workload := r.type.workload r.access

def reservation (r : Request) : SavedReservation := ⟨r.cores, r.memory, r.replicas⟩

theorem of_ok_iff {type : DeploymentType} {access : DataAccess} {replicas : UInt32} {cores : Float}
    {memory : UInt64} {r : Request} :
    of type access replicas cores memory = .ok r ↔
      r = ⟨type, access, replicas, cores, memory⟩ ∧ r.Valid := by
  by_cases h0 : replicas = 0 <;> by_cases hc : Quantity.isCoreCount cores = true <;>
    simp [of, checkCores, Valid, h0, hc, bind, Except.bind, pure, Except.pure, throw, throwThe,
      MonadExceptOf.throw] <;> grind

theorem withReplicas_valid {r s : Request} {replicas : UInt32} (h : r.Valid)
    (hs : r.withReplicas replicas = .ok s) : s.Valid := by
  unfold withReplicas at hs
  split at hs
  · cases hs
  · rename_i h0
    cases hs
    exact ⟨h0, h.2⟩

theorem withLimits_valid {r s : Request} {cores : Float} {memory : UInt64} (h : r.Valid)
    (hs : r.withLimits cores memory = .ok s) : s.Valid := by
  by_cases hc : Quantity.isCoreCount cores = true <;>
    simp [withLimits, checkCores, hc, bind, Except.bind, pure, Except.pure] at hs
  subst hs
  exact ⟨h.1, hc⟩

end Request

namespace SavedReservation

/-- Cores are checked before replicas. -/
def of (cores : Float) (memory : UInt64) (replicas : UInt32) : Except Fault SavedReservation := do
  checkCores .savedLimit cores
  if replicas = 0 then throw (.input .noSavedReplica)
  return ⟨cores, memory, replicas⟩

end SavedReservation

end Provision
