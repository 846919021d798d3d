import Provision.Fault
import Provision.Traversal

/-!
# Persisted storage

- `AccessModes.mem_ofList`: a set of modes has exactly the modes that were listed, whatever their
  order and however often.
- `isReadWriteOnceOnly_iff`: a class is limited to one node exactly when all its listed modes are
  read-write-once.
-/

namespace Provision

inductive AccessMode where
  | readWriteOnce
  | readOnlyMany
  | readWriteMany
  deriving DecidableEq, Repr

namespace AccessMode

def name : AccessMode → String
  | .readWriteOnce => "RWO"
  | .readOnlyMany => "ROX"
  | .readWriteMany => "RWX"

/-- Short and long names. -/
def ofName? : String → Option AccessMode
  | "RWO" => some .readWriteOnce
  | "ReadWriteOnce" => some .readWriteOnce
  | "ROX" => some .readOnlyMany
  | "ReadOnlyMany" => some .readOnlyMany
  | "RWX" => some .readWriteMany
  | "ReadWriteMany" => some .readWriteMany
  | _ => none

def parse (text : String) : Except Fault AccessMode :=
  match ofName? text with
  | some mode => .ok mode
  | none => .error (.input (.unknownAccessMode text))

theorem ofName?_name (m : AccessMode) : ofName? m.name = some m := by cases m <;> rfl

end AccessMode

/-- A set of access modes. -/
structure AccessModes where
  readWriteOnce : Bool
  readOnlyMany : Bool
  readWriteMany : Bool
  deriving DecidableEq, Repr

namespace AccessModes

def has (s : AccessModes) : AccessMode → Bool
  | .readWriteOnce => s.readWriteOnce
  | .readOnlyMany => s.readOnlyMany
  | .readWriteMany => s.readWriteMany

def ofList (modes : List AccessMode) : AccessModes :=
  ⟨modes.contains .readWriteOnce, modes.contains .readOnlyMany, modes.contains .readWriteMany⟩

/-- The modes in the order of their declaration. -/
def toList (s : AccessModes) : List AccessMode :=
  [.readWriteOnce, .readOnlyMany, .readWriteMany].filter s.has

theorem has_ofList (modes : List AccessMode) (m : AccessMode) :
    (ofList modes).has m = modes.contains m := by cases m <;> rfl

theorem mem_ofList (modes : List AccessMode) (m : AccessMode) :
    (ofList modes).has m = true ↔ m ∈ modes := by simp [has_ofList]

theorem mem_toList (s : AccessModes) (m : AccessMode) : m ∈ s.toList ↔ s.has m = true := by
  cases m <;> simp [toList]

theorem ext_has {s t : AccessModes} (h : ∀ m, s.has m = t.has m) : s = t := by
  cases s
  cases t
  simp only [mk.injEq]
  exact ⟨h .readWriteOnce, h .readOnlyMany, h .readWriteMany⟩

end AccessModes

/-- A storage class; it has at least one access mode. -/
structure StorageClass where
  name : String
  modes : AccessModes
  nonempty : modes.toList ≠ []
  deriving DecidableEq

namespace StorageClass

def of (name : String) (modes : List AccessMode) : Except Fault StorageClass :=
  let modes := AccessModes.ofList modes
  if h : modes.toList ≠ [] then .ok ⟨name, modes, h⟩ else .error (.input (.noAccessMode name))

/-- The class can be mounted by a single node only. -/
def isReadWriteOnceOnly (c : StorageClass) : Bool := c.modes.toList = [.readWriteOnce]

theorem of_ok_iff {name : String} {modes : List AccessMode} {c : StorageClass} :
    of name modes = .ok c ↔ c.name = name ∧ c.modes = AccessModes.ofList modes := by
  unfold of
  dsimp only
  split
  · simp only [Except.ok.injEq]
    constructor
    · rintro rfl
      exact ⟨rfl, rfl⟩
    · rintro ⟨rfl, h⟩
      cases c
      simp_all
  · rename_i h
    simp only [reduceCtorEq, false_iff, not_and]
    intro _ hm
    exact absurd c.nonempty (by rw [hm]; exact h)

theorem isReadWriteOnceOnly_iff {name : String} {modes : List AccessMode} {c : StorageClass}
    (h : of name modes = .ok c) :
    c.isReadWriteOnceOnly = true ↔ ∀ m ∈ modes, m = .readWriteOnce := by
  have ⟨_, hm⟩ := of_ok_iff.mp h
  have some : ∃ m, m ∈ modes := by
    obtain ⟨m, h⟩ := List.exists_mem_of_ne_nil _ c.nonempty
    rw [hm] at h
    exact ⟨m, (AccessModes.mem_ofList ..).mp ((AccessModes.mem_toList ..).mp h)⟩
  obtain ⟨n, hn⟩ := some
  have key : c.isReadWriteOnceOnly = true ↔
      AccessMode.readWriteOnce ∈ modes ∧ AccessMode.readOnlyMany ∉ modes ∧
        AccessMode.readWriteMany ∉ modes := by
    simp only [isReadWriteOnceOnly, hm, decide_eq_true_eq, ← AccessModes.mem_ofList]
    cases AccessModes.ofList modes with
    | mk a b c => cases a <;> cases b <;> cases c <;> decide
  rw [key]
  constructor
  · rintro ⟨_, hr, hw⟩ m hmem
    cases m <;> simp_all
  · intro all
    have := all n hn
    subst this
    exact ⟨hn, fun h => (nomatch all _ h), fun h => (nomatch all _ h)⟩

end StorageClass

/-- A path in the container that is kept on a volume of a storage class. -/
structure Folder where
  path : String
  storage : StorageClass
  deriving DecidableEq

end Provision
