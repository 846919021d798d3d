import Provision.Form
import Provision.Kubernetes.Object
import Provision.Node
import Provision.Quota
import Provision.Timestamp
import Provision.Traversal

/-!
# Snapshots: what a cluster and a form look like at one point in time

A snapshot is what is read from a document, before any of it is checked. The node listing, the
quota and the forms are built from it when they are asked for; what does not build is a failure that
says which part of the document it is in.

- `nodeListings_eq_nodes`: a listing in the document is used as it is.
- `toForm_ok_iff`: a form is built exactly from a valid request and storage classes with modes.
-/

namespace Provision

/-- A quota as texts. -/
structure QuotaSummary where
  cpuLimit : Option String
  cpuUsed : Option String
  memoryLimit : Option String
  memoryUsed : Option String
  deriving DecidableEq, Repr

structure StorageClassDocument where
  name : String
  modes : List AccessMode
  deriving DecidableEq, Repr

structure FolderDocument where
  path : String
  storage : StorageClassDocument
  deriving DecidableEq, Repr

/-- A form as it was submitted, with limits in cores and megabytes. -/
structure FormDocument where
  name : String
  type : DeploymentType
  access : DataAccess
  replicas : UInt32
  cores : Float
  memory : UInt64
  environment : List Variable
  folders : List FolderDocument
  configurations : List String
  deriving DecidableEq

def FormDocument.empty : FormDocument := ⟨"", .replicated, .shared, 1, 0, 0, [], [], []⟩

structure Snapshot where
  capturedAt : Option Timestamp
  nodes : List NodeListing
  /-- Used where the listing is empty. -/
  kubernetesNodes : List Kubernetes.Node
  quota : Option QuotaSummary
  /-- Used where no quota is given as texts. -/
  resourceQuota : Option Kubernetes.ResourceQuota
  form : FormDocument
  /-- The form before it was edited; none for a new application. -/
  saved : Option FormDocument
  editing : Option String
  existing : List ExistingApplication
  pods : List Kubernetes.Pod
  configuration : Option ConfigurationData
  deriving DecidableEq

/-! ## Failures -/

/-- The part of a snapshot that does not build. -/
inductive Part where
  | cpuLimit
  | cpuUsed
  | memoryLimit
  | memoryUsed
  | quota
  | resourceQuota
  | nodeCapacity
  | nodeListing
  | deployment (form : String)
  | storageClass (path : String)
  | podRequest
  deriving DecidableEq, Repr

def Part.message : Part → String
  | .cpuLimit => "Invalid quota cpu_limit"
  | .cpuUsed => "Invalid quota cpu_used"
  | .memoryLimit => "Invalid quota memory_limit"
  | .memoryUsed => "Invalid quota memory_used"
  | .quota => "Invalid namespace quota"
  | .resourceQuota => "Invalid resource quota"
  | .nodeCapacity => "Invalid node capacity"
  | .nodeListing => "Invalid node listing"
  | .deployment form => "Invalid deployment settings for " ++ Text.quoted form
  | .storageClass path => "Invalid storage class for " ++ path
  | .podRequest => "Invalid pod resource request"

structure Failure where
  part : Part
  fault : Fault
  deriving DecidableEq

/-- The failure and its cause. -/
def Failure.chain (f : Failure) : List String := [f.part.message, f.fault.message]

/-- A fault, placed in a part of the snapshot. -/
def inPart (part : Part) (result : Except Fault α) : Except Failure α :=
  result.mapError (⟨part, ·⟩)

theorem inPart_ok_iff {part : Part} {result : Except Fault α} {a : α} :
    inPart part result = .ok a ↔ result = .ok a := by
  rw [inPart, Traversal.mapError_eq_ok_iff]

theorem inPart_error_iff {part : Part} {result : Except Fault α} {failure : Failure} :
    inPart part result = .error failure ↔
      ∃ fault, failure = ⟨part, fault⟩ ∧ result = .error fault := by
  rw [inPart, Traversal.mapError_eq_error_iff]

/-! ## Building what a snapshot describes -/

/-- Limits come before what is used of them. -/
def QuotaSummary.toQuota (s : QuotaSummary) : Except Failure NamespaceQuota := do
  let cpuLimit ← inPart .cpuLimit (NamespaceQuota.optional parseCpu s.cpuLimit)
  let cpuUsed ← inPart .cpuUsed (NamespaceQuota.optional parseCpu s.cpuUsed)
  let memoryLimit ← inPart .memoryLimit (NamespaceQuota.optional parseMemory s.memoryLimit)
  let memoryUsed ← inPart .memoryUsed (NamespaceQuota.optional parseMemory s.memoryUsed)
  inPart .quota (NamespaceQuota.of cpuLimit (cpuUsed.getD 0) memoryLimit (memoryUsed.getD 0))

def FolderDocument.toFolder (d : FolderDocument) : Except Failure Folder :=
  inPart (.storageClass d.path)
    ((StorageClass.of d.storage.name d.storage.modes).map fun storage => ⟨d.path, storage⟩)

def FormDocument.toForm (d : FormDocument) : Except Failure Form := do
  let deployment ← inPart (.deployment d.name)
    (Request.of d.type d.access d.replicas d.cores d.memory)
  let folders ← d.folders.mapM FolderDocument.toFolder
  return {
    name := d.name, deployment, environment := d.environment, folders
    configurations := d.configurations }

namespace Snapshot

/-- The listing, made from the Kubernetes nodes where the document has none. -/
def nodeListings (s : Snapshot) : Except Failure (List NodeListing) :=
  if s.nodes.isEmpty then
    s.kubernetesNodes.mapM fun node =>
      (inPart .nodeCapacity (NodeCapacity.ofNode node)).map NodeCapacity.listing
  else .ok s.nodes

def nodeCapacities (s : Snapshot) : Except Failure (List NodeCapacity) := do
  inPart .nodeListing (NodeCapacity.ofListings (← s.nodeListings))

def namespaceQuota (s : Snapshot) : Except Failure (Option NamespaceQuota) :=
  match s.quota, s.resourceQuota with
  | some summary, _ => summary.toQuota.map some
  | none, some quota => (inPart .resourceQuota (NamespaceQuota.ofResourceQuota quota)).map some
  | none, none => .ok none

def applicationForm (s : Snapshot) : Except Failure Form := s.form.toForm

def savedForm (s : Snapshot) : Except Failure (Option Form) :=
  match s.saved with
  | some saved => saved.toForm.map some
  | none => .ok none

/-- What is credited when the application is edited. -/
def savedReservation (s : Snapshot) : Except Failure (Option SavedReservation) :=
  s.savedForm.map fun saved => saved.map (·.deployment.reservation)

def isEdit (s : Snapshot) : Bool := s.saved.isSome

theorem nodeListings_eq_nodes {s : Snapshot} (h : s.nodes ≠ []) :
    s.nodeListings = .ok s.nodes := by
  have : s.nodes.isEmpty = false := by simpa using h
  simp [nodeListings, this]

end Snapshot

theorem FolderDocument.toFolder_ok_iff {d : FolderDocument} {f : Folder} :
    d.toFolder = .ok f ↔
      f.path = d.path ∧ StorageClass.of d.storage.name d.storage.modes = .ok f.storage := by
  unfold toFolder
  rw [inPart_ok_iff]
  cases StorageClass.of d.storage.name d.storage.modes with
  | error e => simp [Except.map]
  | ok c =>
    cases f
    simp only [Except.map, Except.ok.injEq, Folder.mk.injEq]
    constructor <;> rintro ⟨rfl, rfl⟩ <;> exact ⟨rfl, rfl⟩

theorem FormDocument.toForm_ok_iff {d : FormDocument} {f : Form} :
    d.toForm = .ok f ↔
      Request.of d.type d.access d.replicas d.cores d.memory = .ok f.deployment ∧
        d.folders.map FolderDocument.toFolder = f.folders.map .ok ∧ f.name = d.name ∧
        f.environment = d.environment ∧ f.configurations = d.configurations := by
  constructor
  · intro h
    obtain ⟨deployment, hd, h⟩ := Traversal.bind_eq_ok_iff.mp h
    obtain ⟨folders, hf, h⟩ := Traversal.bind_eq_ok_iff.mp h
    cases h
    exact ⟨inPart_ok_iff.mp hd, Traversal.mapM_eq_ok_iff.mp hf, rfl, rfl, rfl⟩
  · rintro ⟨hd, hf, hn, he, hc⟩
    refine Traversal.bind_eq_ok_iff.mpr ⟨f.deployment, inPart_ok_iff.mpr hd, ?_⟩
    refine Traversal.bind_eq_ok_iff.mpr ⟨f.folders, Traversal.mapM_eq_ok_iff.mpr hf, ?_⟩
    rw [← hn, ← he, ← hc]
    rfl

end Provision
