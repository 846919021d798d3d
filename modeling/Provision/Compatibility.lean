import Provision.Deployment
import Provision.Storage

/-!
# What persisted storage allows

A class that only allows read-write-once is mounted by one node. That rules out one replica on every
node, and sharing among replicas; with isolated data each replica has a volume of its own.

- `scalable_of_global`: where a global deployment is allowed, replicas scale.
- `nonScalableClasses_nil_iff`: there is no class to warn of exactly when shared data scales.
-/

namespace Provision.Compatibility

def hasReadWriteOnceOnly (folders : List Folder) : Bool :=
  folders.any (·.storage.isReadWriteOnceOnly)

/-- One replica on every node is allowed. -/
def supportsGlobal (folders : List Folder) (access : DataAccess) : Bool :=
  folders.isEmpty || (!hasReadWriteOnceOnly folders && access != .isolated)

/-- More than one replica is allowed. -/
def supportsScaling (folders : List Folder) (access : DataAccess) : Bool :=
  !hasReadWriteOnceOnly folders || access == .isolated

/-- Names of the classes that are mounted by one node, each at its first place. -/
def nonScalableClasses (folders : List Folder) : List String :=
  ((folders.filter (·.storage.isReadWriteOnceOnly)).map (·.storage.name)).eraseDups

/-- The choice of data access matters once a folder is persisted. -/
def showDataAccess (folders : List Folder) : Bool := !folders.isEmpty

/-- Isolated data makes a stateful set, whose access is fixed once it exists. -/
def lockedDataAccess (edit : Bool) (access : DataAccess) : Bool := edit && access == .isolated

/-- An existing application is scaled on storage that rules out a global deployment. -/
def isNonScalableEdit (edit : Bool) (folders : List Folder) (access : DataAccess)
    (replicas : UInt32) : Bool :=
  edit && !supportsGlobal folders access && decide (1 < replicas)

theorem scalable_of_global {folders : List Folder} {access : DataAccess}
    (h : supportsGlobal folders access = true) : supportsScaling folders access = true := by
  cases folders with
  | nil => rfl
  | cons f fs => simp_all [supportsGlobal, supportsScaling]

theorem eraseDups_nil_iff {names : List String} : names.eraseDups = [] ↔ names = [] := by
  cases names <;> simp [List.eraseDups_cons]

theorem nonScalableClasses_nil_iff (folders : List Folder) :
    nonScalableClasses folders = [] ↔ supportsScaling folders .shared = true := by
  simp [nonScalableClasses, eraseDups_nil_iff, supportsScaling, hasReadWriteOnceOnly]

end Provision.Compatibility
