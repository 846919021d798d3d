import Provision.Json.Printer
import Provision.Snapshot.Codec
import Provision.Snapshot.Document

/-!
# Snapshots written as JSON

Fields stand in the order of their declaration, and what is not there is left out. Kubernetes
objects are not written: a snapshot keeps only a part of them.
-/

namespace Provision

open Json (Value)

/-- A field that is left out where there is no value. -/
def presentField (name : String) (write : α → Value) : Option α → List (String × Value)
  | some a => [(name, write a)]
  | none => []

def NodeListing.toJson (n : NodeListing) : Value :=
  .record [("name", .text n.name), ("cpu", .real n.cores), ("memory", .text n.memory)]

def QuotaSummary.toJson (q : QuotaSummary) : Value :=
  .record (presentField "cpu_limit" .text q.cpuLimit ++ presentField "cpu_used" .text q.cpuUsed ++
    presentField "memory_limit" .text q.memoryLimit ++
    presentField "memory_used" .text q.memoryUsed)

def StorageClassDocument.toJson (c : StorageClassDocument) : Value :=
  .record [
    ("name", .text c.name), ("access_modes", .list (fun mode => .text mode.name) c.modes)]

def FolderDocument.toJson (f : FolderDocument) : Value :=
  .record [("container_path", .text f.path), ("storage_class", f.storage.toJson)]

def Variable.toJson (v : Variable) : Value :=
  .record [("name", .text v.name), ("value", .text v.value)]

def FormDocument.toJson (f : FormDocument) : Value :=
  .record [
    ("name", .text f.name), ("deployment_type", .text f.type.name),
    ("data_access_policy", .text f.access.name), ("replicas", .natural f.replicas.toNat),
    ("cpu_limit", .real f.cores), ("memory_limit_mb", .natural f.memory.toNat),
    ("environment_variables", .list Variable.toJson f.environment),
    ("persisted_folders", .list FolderDocument.toJson f.folders),
    ("configurations", .list .text f.configurations)]

def ExistingApplication.toJson (a : ExistingApplication) : Value :=
  .record [("id", .text a.id), ("name", .text a.name)]

def ConfigurationEntry.toJson (e : ConfigurationEntry) : Value :=
  .record [("key", .text e.key), ("value", .text e.value)]

def ConfigurationData.toJson (d : ConfigurationData) : Value :=
  .record [("entries", .list ConfigurationEntry.toJson d.entries)]

namespace Snapshot

/-- A snapshot without its Kubernetes objects. -/
def Codec.toJson (codec : Codec) (s : Snapshot) : Value :=
  .record (presentField "captured_at" (fun t => .text (codec.momentText t)) s.capturedAt ++
    [("nodes", .list NodeListing.toJson s.nodes), ("k8s_nodes", .array [])] ++
    presentField "quota" QuotaSummary.toJson s.quota ++
    [("form", s.form.toJson)] ++
    presentField "saved" FormDocument.toJson s.saved ++
    presentField "editing_id" .text s.editing ++
    [("existing_applications", .list ExistingApplication.toJson s.existing),
      ("pods", .array [])] ++
    presentField "configuration" ConfigurationData.toJson s.configuration)

def toJson (s : Snapshot) : Value := Codec.standard.toJson s

end Snapshot

end Provision
