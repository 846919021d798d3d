import Provision.Form
import Provision.Headroom

/-!
# Whether the form can be deployed

- `isDisabled_iff`: the action is disabled exactly when some rule blocks it.
- `mem_reasons_iff`: each reason is listed exactly when its rule blocks.
-/

namespace Provision

/-- Why the action is disabled, in the order in which reasons are listed. -/
inductive BlockReason where
  | reservationOverflow
  | duplicateVariables
  | duplicatePaths
  | nameConflict
  | noChanges
  | nonScalableEdit
  deriving DecidableEq, Repr

namespace BlockReason

def all : List BlockReason :=
  [.reservationOverflow, .duplicateVariables, .duplicatePaths, .nameConflict, .noChanges,
    .nonScalableEdit]

def name : BlockReason → String
  | .reservationOverflow => "reservation_overflow"
  | .duplicateVariables => "duplicate_environment_variables"
  | .duplicatePaths => "duplicate_persisted_folder_paths"
  | .nameConflict => "name_conflict"
  | .noChanges => "no_changes"
  | .nonScalableEdit => "edit_non_scalable"

def message : BlockReason → String
  | .reservationOverflow => "requested resources exceed the available headroom"
  | .duplicateVariables => "environment variable names are duplicated"
  | .duplicatePaths => "persisted folder paths are duplicated"
  | .nameConflict => "an application with this name already exists"
  | .noChanges => "no changes were made to the application"
  | .nonScalableEdit => "the application storage does not allow more than one replica"

end BlockReason

/-- What the decision depends on. A saved form is there when an application is edited. -/
structure DeployContext where
  form : Form
  saved : Option Form
  headroom : Headroom
  existing : List ExistingApplication
  editing : Option String

structure Readiness where
  overflow : Bool
  exhausted : Bool
  duplicateVariables : List (String × Nat)
  duplicatePaths : List (String × Nat)
  nameConflict : Bool
  noChanges : Bool
  nonScalableEdit : Bool
  deriving DecidableEq, Repr

namespace Readiness

def evaluate (ctx : DeployContext) : Readiness :=
  let form := ctx.form
  { overflow := ctx.headroom.isExceededBy form.deployment
    exhausted := ctx.headroom.isExhausted
    duplicateVariables := Duplicates.counts form.variableNames
    duplicatePaths := Duplicates.counts form.folderPaths
    nameConflict := nameConflicts ctx.existing form.name ctx.editing
    noChanges := ctx.saved.any (· == form)
    nonScalableEdit := Compatibility.isNonScalableEdit ctx.saved.isSome form.folders
      form.deployment.access form.deployment.replicas }

/-- Whether a rule blocks. Exhausted capacity is no rule: what does not fit is an overflow. -/
def blocks (r : Readiness) : BlockReason → Bool
  | .reservationOverflow => r.overflow
  | .duplicateVariables => !r.duplicateVariables.isEmpty
  | .duplicatePaths => !r.duplicatePaths.isEmpty
  | .nameConflict => r.nameConflict
  | .noChanges => r.noChanges
  | .nonScalableEdit => r.nonScalableEdit

def reasons (r : Readiness) : List BlockReason := BlockReason.all.filter r.blocks

def isDisabled (r : Readiness) : Bool := !r.reasons.isEmpty

theorem mem_reasons_iff (r : Readiness) (reason : BlockReason) :
    reason ∈ r.reasons ↔ r.blocks reason = true := by
  have : reason ∈ BlockReason.all := by cases reason <;> decide
  simp [reasons, this]

theorem isDisabled_iff (r : Readiness) :
    r.isDisabled = true ↔ ∃ reason, r.blocks reason = true := by
  simp only [isDisabled, Bool.not_eq_true', List.isEmpty_eq_false_iff_exists_mem,
    mem_reasons_iff]

end Readiness

end Provision
