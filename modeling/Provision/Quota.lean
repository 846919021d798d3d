import Provision.Fault
import Provision.Kubernetes.Object
import Provision.Traversal

/-!
# Quotas of a namespace

A quota may limit cores, memory, both or neither. A limit of zero is no limit, so a limit that is
there is positive.

- `of_ok`: what a quota keeps of the values it is built from.
- `isCoreCount_of_ok`: a limit on cores that is no core count is refused.
-/

namespace Provision

/-- Ceiling on what the applications of a namespace reserve together, and what they do reserve.
Memory is in bytes. -/
structure NamespaceQuota where
  cpuLimit : Option Float
  cpuUsed : Float
  memoryLimit : Option UInt64
  memoryUsed : UInt64
  cpuLimit_pos : ∀ limit, cpuLimit = some limit → 0 < limit
  memoryLimit_pos : ∀ limit, memoryLimit = some limit → 0 < limit
  deriving DecidableEq

namespace NamespaceQuota

/-- A limit on cores has to be a core count; zero is one. -/
def checkLimit : Option Float → Except Fault Unit
  | some limit => checkCores .quotaLimit limit
  | none => .ok ()

def of (cpuLimit : Option Float) (cpuUsed : Float) (memoryLimit : Option UInt64)
    (memoryUsed : UInt64) : Except Fault NamespaceQuota := do
  checkLimit cpuLimit
  checkCores .quotaUsed cpuUsed
  return {
    cpuLimit := cpuLimit.filter (0 < ·)
    cpuUsed
    memoryLimit := memoryLimit.filter (0 < ·)
    memoryUsed
    cpuLimit_pos := fun limit h => by simpa using (Option.filter_eq_some_iff.mp h).2
    memoryLimit_pos := fun limit h => by simpa using (Option.filter_eq_some_iff.mp h).2 }

/-- What is read of an optional quantity. -/
def optional (read : String → Except Fault α) : Option String → Except Fault (Option α)
  | none => .ok none
  | some text => (read text).map some

/-- The limits that a Kubernetes quota enforces, and what is used of them, by its status. -/
def ofResourceQuota (quota : Kubernetes.ResourceQuota) : Except Fault NamespaceQuota := do
  let hard := quota.status.bind (·.hard)
  let used := quota.status.bind (·.used)
  let cpuLimit ← optional parseCpu (hard.bind (·.get? "limits.cpu"))
  let memoryLimit ← optional parseMemory (hard.bind (·.get? "limits.memory"))
  let cpuUsed ← optional parseCpu (used.bind (·.get? "limits.cpu"))
  let memoryUsed ← optional parseMemory (used.bind (·.get? "limits.memory"))
  of cpuLimit (cpuUsed.getD 0) memoryLimit (memoryUsed.getD 0)

theorem of_ok {cpuLimit : Option Float} {cpuUsed : Float} {memoryLimit : Option UInt64}
    {memoryUsed : UInt64} {q : NamespaceQuota}
    (h : of cpuLimit cpuUsed memoryLimit memoryUsed = .ok q) :
    q.cpuLimit = cpuLimit.filter (0 < ·) ∧ q.cpuUsed = cpuUsed ∧
      q.memoryLimit = memoryLimit.filter (0 < ·) ∧ q.memoryUsed = memoryUsed := by
  obtain ⟨_, _, h⟩ := Traversal.bind_eq_ok_iff.mp h
  obtain ⟨_, _, h⟩ := Traversal.bind_eq_ok_iff.mp h
  cases h
  exact ⟨rfl, rfl, rfl, rfl⟩

/-- A limit on cores that is built into a quota is a core count. -/
theorem isCoreCount_of_ok {limit cpuUsed : Float} {memoryLimit : Option UInt64}
    {memoryUsed : UInt64} {q : NamespaceQuota}
    (h : of (some limit) cpuUsed memoryLimit memoryUsed = .ok q) :
    Quantity.isCoreCount limit = true := by
  obtain ⟨_, checked, -⟩ := Traversal.bind_eq_ok_iff.mp h
  by_cases valid : Quantity.isCoreCount limit = true
  · exact valid
  · simp [checkLimit, checkCores, valid] at checked

end NamespaceQuota

end Provision
