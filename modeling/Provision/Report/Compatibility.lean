import Provision.Json.Printer
import Provision.Report.Amount
import Provision.Report.Table
import Provision.Snapshot.Document

/-!
# The report on storage

What the persisted folders of the form allow. Nothing but the form and the presence of a saved one
takes part.
-/

namespace Provision

open Json (Value)

structure CompatibilityReport where
  access : DataAccess
  workload : Workload
  supportsGlobal : Bool
  supportsScaling : Bool
  showsDataAccess : Bool
  locksDataAccess : Bool
  nonScalableClasses : List String
  deriving DecidableEq, Repr

namespace CompatibilityReport

def ofForm (form : Form) (edit : Bool) : CompatibilityReport :=
  let access := form.deployment.access
  { access
    workload := form.deployment.workload
    supportsGlobal := Compatibility.supportsGlobal form.folders access
    supportsScaling := Compatibility.supportsScaling form.folders access
    showsDataAccess := Compatibility.showDataAccess form.folders
    locksDataAccess := Compatibility.lockedDataAccess edit access
    nonScalableClasses := Compatibility.nonScalableClasses form.folders }

def ofSnapshot (s : Snapshot) : Except Failure CompatibilityReport :=
  s.applicationForm.map (ofForm · s.isEdit)

def toJson (r : CompatibilityReport) : Value :=
  .record [
    ("data_access_policy", .text r.access.name), ("workload_kind", .text r.workload.name),
    ("supports_global_deployment", .bool r.supportsGlobal),
    ("supports_scalable_replicas", .bool r.supportsScaling),
    ("show_data_access_policy", .bool r.showsDataAccess),
    ("data_access_policy_locked", .bool r.locksDataAccess),
    ("non_scalable_storage_classes", .list .text r.nonScalableClasses)]

def table (r : CompatibilityReport) (colour : Bool) : Table :=
  { header := ["Check", "Answer"]
    rows := [
      ["Global deployment", Amount.flag colour r.supportsGlobal true],
      ["Scalable replicas", Amount.flag colour r.supportsScaling true],
      ["Data access policy shown", Amount.flag colour r.showsDataAccess true],
      ["Data access policy locked", Amount.flag colour r.locksDataAccess false]] }

def print (r : CompatibilityReport) (colour : Bool) : Printed :=
  .line (Ink.heading.paint colour "Storage Compatibility") ++
  .message colour .info ("Realized as a " ++ r.workload.name) ++
  (r.table colour).print colour ++
  .onlyIf (!r.nonScalableClasses.isEmpty)
    (.message colour .warning
      ("ReadWriteOnce-only storage classes: " ++ ", ".intercalate r.nonScalableClasses))

end CompatibilityReport

end Provision
