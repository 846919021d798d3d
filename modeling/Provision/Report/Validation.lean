import Provision.Json.Printer
import Provision.Readiness
import Provision.Report.Headroom
import Provision.Snapshot.Document

/-!
# The report on readiness

Whether the action is allowed, and which rows of the form collide. A configuration with duplicate
keys disables the action as well.

- `isDisabled_iff`: the action is disabled exactly by a reason or by a duplicate configuration key.
-/

namespace Provision

open Json (Value)

structure ValidationReport where
  form : Form
  configuration : ConfigurationData
  readiness : Readiness

namespace ValidationReport

/-- The headroom of a snapshot, with every part of it checked. -/
def headroom (policy : Policy) (s : Snapshot) : Except Failure Headroom := do
  let nodes ← s.nodeCapacities
  let quota ← s.namespaceQuota
  let saved ← s.savedReservation
  return Headroom.compute policy nodes quota saved

/-- Both forms are built before anything else. -/
def ofSnapshot (policy : Policy) (s : Snapshot) : Except Failure ValidationReport := do
  let form ← s.applicationForm
  let saved ← s.savedForm
  let headroom ← headroom policy s
  let context := { form, saved, headroom, existing := s.existing, editing := s.editing }
  return {
    form
    configuration := s.configuration.getD ⟨[]⟩
    readiness := Readiness.evaluate context }

def reasons (r : ValidationReport) : List BlockReason := r.readiness.reasons

def isDisabled (r : ValidationReport) : Bool := r.readiness.isDisabled || !r.configuration.isValid

/-- More than one replica, on storage that replicas cannot share. -/
def exceedsStorage (r : ValidationReport) : Bool :=
  decide (1 < r.form.deployment.replicas) &&
    !Compatibility.supportsScaling r.form.folders r.form.deployment.access

theorem isDisabled_iff (r : ValidationReport) :
    r.isDisabled = true ↔ r.reasons ≠ [] ∨ r.configuration.duplicates ≠ [] := by
  simp [isDisabled, Readiness.isDisabled, reasons, ConfigurationData.isValid]

/-! ## Writing -/

def countsJson (counts : List (String × Nat)) : Value :=
  .record (counts.map fun (key, count) => (key, .natural count))

def readinessJson (r : Readiness) : Value :=
  .record [
    ("reservation_overflow", .bool r.overflow), ("capacity_exhausted", .bool r.exhausted),
    ("duplicate_environment_variables", countsJson r.duplicateVariables),
    ("duplicate_persisted_folder_paths", countsJson r.duplicatePaths),
    ("name_conflict", .bool r.nameConflict), ("no_changes", .bool r.noChanges),
    ("edit_non_scalable", .bool r.nonScalableEdit)]

def toJson (r : ValidationReport) : Value :=
  .record [
    ("deploy_disabled", .bool r.isDisabled),
    ("blocking_reasons", .list (fun reason => .text reason.name) r.reasons),
    ("readiness", readinessJson r.readiness),
    ("replicas_exceed_storage", .bool r.exceedsStorage),
    ("duplicate_configuration_keys", countsJson r.configuration.duplicates)]

/-- The rows of a section whose keys collide, counted from one. -/
def sectionRows (name : String) (keys : List String) : List (List String) :=
  (Duplicates.positions keys).map fun (row, key) => [name, toString (row + 1), key]

def table (r : ValidationReport) : Table :=
  { header := ["Section", "Row", "Key"]
    rows := sectionRows "Environment" r.form.variableNames ++
      sectionRows "Persisted folders" r.form.folderPaths ++
      sectionRows "Configuration" r.configuration.keys }

def storageMessage : String :=
  "ReadWriteOnce-only storage cannot be shared by several replicas; " ++
    "use isolated data access or a single replica"

/-- The failures, one for each reason and one for the configuration. -/
def failures (r : ValidationReport) : List String :=
  r.reasons.map (·.message) ++
    if r.configuration.isValid then [] else ["configuration keys are duplicated"]

def print (r : ValidationReport) (colour : Bool) : Printed :=
  .line (Ink.heading.paint colour "Deploy Readiness") ++
  .onlyIf (!r.table.rows.isEmpty) (r.table.print colour) ++
  .onlyIf r.readiness.exhausted (.message colour .warning HeadroomReport.exhaustedMessage) ++
  .onlyIf r.exceedsStorage (.message colour .warning storageMessage) ++
  ⟨[], r.failures.map (Mark.failure.line colour)⟩ ++
  .onlyIf (!r.isDisabled) (.message colour .success "Ready to deploy")

end ValidationReport

end Provision
