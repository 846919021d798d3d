import Provision.Json.Reader
import Provision.Json.Record
import Provision.Kubernetes.Decode
import Provision.Snapshot.Codec
import Provision.Snapshot.Document

/-!
# Snapshots read from JSON

What is not skipped of a snapshot nests only so deep. Kubernetes objects alone can nest freely; they
are given the levels that the snapshot itself, and a list in it, leave.
-/

namespace Provision

open Json (Field Value)

/-- A field that is read under its own name alone. -/
def plainField (name : String) : Field := ⟨name, []⟩

namespace NodeListing

def fields : List Field := [plainField "name", ⟨"cpu", ["CPU"]⟩, ⟨"memory", ["Memory"]⟩]

def ofJson? (v : Value) : Option NodeListing := do
  let r ← v.fields? fields
  return {
    name := ← r.required "name" Value.text?
    cores := ← r.required "cpu" Value.float?
    memory := ← r.required "memory" Value.text? }

end NodeListing

namespace QuotaSummary

def fields : List Field :=
  ["cpu_limit", "cpu_used", "memory_limit", "memory_used"].map plainField

def ofJson? (v : Value) : Option QuotaSummary := do
  let r ← v.fields? fields
  return {
    cpuLimit := ← r.optional "cpu_limit" Value.text?
    cpuUsed := ← r.optional "cpu_used" Value.text?
    memoryLimit := ← r.optional "memory_limit" Value.text?
    memoryUsed := ← r.optional "memory_used" Value.text? }

end QuotaSummary

namespace StorageClassDocument

def fields : List Field := ["name", "access_modes"].map plainField

def ofJson? (v : Value) : Option StorageClassDocument := do
  let r ← v.fields? fields
  return {
    name := ← r.required "name" Value.text?
    modes := ← r.required "access_modes" (Value.list? (Value.choice? AccessMode.ofName?)) }

end StorageClassDocument

namespace FolderDocument

def fields : List Field := ["container_path", "storage_class"].map plainField

def ofJson? (v : Value) : Option FolderDocument := do
  let r ← v.fields? fields
  return {
    path := ← r.required "container_path" Value.text?
    storage := ← r.required "storage_class" StorageClassDocument.ofJson? }

end FolderDocument

namespace Variable

def fields : List Field := ["name", "value"].map plainField

def ofJson? (v : Value) : Option Variable := do
  let r ← v.fields? fields
  return {
    name := ← r.required "name" Value.text?
    value := ← r.defaulted "value" Value.text? "" }

end Variable

namespace FormDocument

def fields : List Field :=
  ["name", "deployment_type", "data_access_policy", "replicas", "cpu_limit", "memory_limit_mb",
    "environment_variables", "persisted_folders", "configurations"].map plainField

def ofJson? (v : Value) : Option FormDocument := do
  let r ← v.fields? fields
  return {
    name := ← r.defaulted "name" Value.text? ""
    type := ← r.defaulted "deployment_type" (Value.choice? DeploymentType.ofName?) .replicated
    access := ← r.defaulted "data_access_policy" (Value.choice? DataAccess.ofName?) .shared
    replicas := ← r.defaulted "replicas" Value.smallCount? 1
    cores := ← r.defaulted "cpu_limit" Value.float? 0
    memory := ← r.defaulted "memory_limit_mb" Value.count? 0
    environment := ← r.defaulted "environment_variables" (Value.list? Variable.ofJson?) []
    folders := ← r.defaulted "persisted_folders" (Value.list? FolderDocument.ofJson?) []
    configurations := ← r.defaulted "configurations" (Value.list? Value.text?) [] }

end FormDocument

namespace ExistingApplication

def fields : List Field := ["id", "name"].map plainField

def ofJson? (v : Value) : Option ExistingApplication := do
  let r ← v.fields? fields
  return { id := ← r.required "id" Value.text?, name := ← r.required "name" Value.text? }

end ExistingApplication

namespace ConfigurationEntry

def fields : List Field := ["key", "value"].map plainField

def ofJson? (v : Value) : Option ConfigurationEntry := do
  let r ← v.fields? fields
  return { key := ← r.required "key" Value.text?, value := ← r.defaulted "value" Value.text? "" }

end ConfigurationEntry

namespace ConfigurationData

def fields : List Field := [plainField "entries"]

def ofJson? (v : Value) : Option ConfigurationData := do
  let r ← v.fields? fields
  return { entries := ← r.required "entries" (Value.list? ConfigurationEntry.ofJson?) }

end ConfigurationData

namespace Snapshot

/-- Levels of lists and objects that a snapshot has at most. -/
def nestingLimit : Nat := 127

/-- Levels left for an object in a field of the snapshot. -/
def fieldRoom : Nat := nestingLimit - 1

/-- Levels left for an object in a list of the snapshot. -/
def itemRoom : Nat := nestingLimit - 2

def fields : List Field :=
  ["captured_at", "nodes", "k8s_nodes", "quota", "resource_quota", "form", "saved", "editing_id",
    "existing_applications", "pods", "configuration"].map plainField

/-- The snapshot that a value is. -/
def Codec.ofJson? (codec : Codec) (v : Value) : Option Snapshot := do
  let r ← v.fields? fields
  return {
    capturedAt := ← r.optional "captured_at" fun v => v.text?.bind codec.moment?
    nodes := ← r.defaulted "nodes" (Value.list? NodeListing.ofJson?) []
    kubernetesNodes := ←
      r.defaulted "k8s_nodes" (Value.list? (Kubernetes.Node.ofJson? itemRoom)) []
    quota := ← r.optional "quota" QuotaSummary.ofJson?
    resourceQuota := ← r.optional "resource_quota" (Kubernetes.ResourceQuota.ofJson? fieldRoom)
    form := ← r.defaulted "form" FormDocument.ofJson? .empty
    saved := ← r.optional "saved" FormDocument.ofJson?
    editing := ← r.optional "editing_id" Value.text?
    existing := ← r.defaulted "existing_applications" (Value.list? ExistingApplication.ofJson?) []
    pods := ← r.defaulted "pods" (Value.list? (Kubernetes.Pod.ofJson? itemRoom)) []
    configuration := ← r.optional "configuration" ConfigurationData.ofJson? }

/-- The snapshot that a document writes. -/
def Codec.read? (codec : Codec) (document : String) : Option Snapshot :=
  (codec.toCodec.read? document).bind codec.ofJson?

def read? (document : String) : Option Snapshot := Codec.standard.read? document

end Snapshot

end Provision
