import Provision.Proofs.DuplicateKeys
import Provision.Proofs.UnchangedForms
import Provision.Readiness

/-!
# The rules that block a deployment

Six facts about the form and what surrounds it can each block a deployment. They are computed one by
one; here each is a rule that is said without the way in which it is found.

- `blocks_iff`: a reason is found exactly if its rule is broken.
- `nameConflicts_of_perm`, `nameConflicts_of_own`: which applications a name can collide with.
- `deploy_rules`: the reasons as they are listed, and what does not change them.
-/

namespace Provision

/-! ## Rules -/

/-- Two rows that are filled in have one key. -/
def Duplicates.HasTwice (keys : List String) : Prop :=
  ∃ key, key ≠ "" ∧ ∃ i j : Nat, i ≠ j ∧ keys[i]? = some key ∧ keys[j]? = some key

/-- All values are the same; cores are compared as numbers. -/
structure Form.Same (f g : Form) : Prop where
  name : f.name = g.name
  type : f.deployment.type = g.deployment.type
  access : f.deployment.access = g.deployment.access
  replicas : f.deployment.replicas = g.deployment.replicas
  cores : (f.deployment.cores == g.deployment.cores) = true
  memory : f.deployment.memory = g.deployment.memory
  environment : f.environment = g.environment
  folders : f.folders = g.folders
  configurations : f.configurations = g.configurations

/-- The rule behind a reason is broken. -/
def BlockReason.IsBroken (ctx : DeployContext) : BlockReason → Prop
  | .reservationOverflow => ctx.headroom.isExceededBy ctx.form.deployment = true
  | .duplicateVariables => Duplicates.HasTwice (ctx.form.environment.map (·.name))
  | .duplicatePaths => Duplicates.HasTwice (ctx.form.folders.map (·.path))
  | .nameConflict => ∃ app ∈ ctx.existing, app.name = ctx.form.name ∧
      (ctx.editing = none ∨ ∃ id, ctx.editing = some id ∧ app.id ≠ id)
  | .noChanges => ∃ saved, ctx.saved = some saved ∧ saved.Same ctx.form
  | .nonScalableEdit => (∃ saved, ctx.saved = some saved) ∧ 1 < ctx.form.deployment.replicas ∧
      ctx.form.folders ≠ [] ∧
      ((∃ folder ∈ ctx.form.folders, folder.storage.modes.toList = [.readWriteOnce]) ∨
        ctx.form.deployment.access = .isolated)

/-! ## Facts and rules -/

theorem Duplicates.counts_iff_hasTwice {keys : List String} :
    (!(counts keys).isEmpty) = true ↔ HasTwice keys := by
  rw [Bool.not_eq_true', List.isEmpty_eq_false_iff, ne_eq, counts_eq_nil_iff_isDuplicate,
    not_forall]
  refine exists_congr fun key => ?_
  rw [not_not, isDuplicate_iff_rows]

theorem Form.same_iff {f g : Form} : (f == g) = true ↔ f.Same g := by
  rw [Form.beq_iff, Request.beq_iff]
  constructor
  · rintro ⟨name, ⟨type, access, replicas, cores, memory⟩, environment, folders, configurations⟩
    exact ⟨name, type, access, replicas, cores, memory, environment, folders, configurations⟩
  · rintro ⟨name, type, access, replicas, cores, memory, environment, folders, configurations⟩
    exact ⟨name, ⟨type, access, replicas, cores, memory⟩, environment, folders, configurations⟩

theorem nameConflicts_iff {existing : List ExistingApplication} {name : String}
    {editing : Option String} : nameConflicts existing name editing = true ↔
      ∃ app ∈ existing, app.name = name ∧
        (editing = none ∨ ∃ id, editing = some id ∧ app.id ≠ id) := by
  have other (app : ExistingApplication) : (editing != some app.id) = true ↔
      editing = none ∨ ∃ id, editing = some id ∧ app.id ≠ id := by
    cases editing with
    | none => exact iff_of_true rfl (Or.inl rfl)
    | some id =>
      rw [bne_iff_ne, ne_eq, Option.some_inj]
      constructor
      · exact fun differ => Or.inr ⟨id, rfl, fun same => differ same.symm⟩
      · rintro (none | ⟨_, ⟨⟩, differ⟩)
        · cases none
        · exact fun same => differ same.symm
  simp only [nameConflicts, List.any_eq_true, Bool.and_eq_true, decide_eq_true_iff, other]

theorem Compatibility.isNonScalableEdit_iff {edit : Bool} {folders : List Folder}
    {access : DataAccess} {replicas : UInt32} :
    isNonScalableEdit edit folders access replicas = true ↔ edit = true ∧ 1 < replicas ∧
      folders ≠ [] ∧ ((∃ folder ∈ folders, folder.storage.modes.toList = [.readWriteOnce]) ∨
        access = .isolated) := by
  have global : supportsGlobal folders access = false ↔ folders ≠ [] ∧
      ((∃ folder ∈ folders, folder.storage.modes.toList = [.readWriteOnce]) ∨
        access = .isolated) := by
    rw [supportsGlobal, Bool.or_eq_false_iff, List.isEmpty_eq_false_iff, Bool.and_eq_false_iff,
      Bool.not_eq_false', hasReadWriteOnceOnly, List.any_eq_true, bne_eq_false_iff_eq]
    simp only [StorageClass.isReadWriteOnceOnly, decide_eq_true_iff]
  rw [isNonScalableEdit, Bool.and_eq_true, Bool.and_eq_true, Bool.not_eq_true', global,
    decide_eq_true_iff, and_assoc]
  refine and_congr_right fun _ => ?_
  rw [and_comm]

/-- **Rules.** A reason is found exactly if its rule is broken. -/
theorem Readiness.blocks_iff (ctx : DeployContext) (reason : BlockReason) :
    (evaluate ctx).blocks reason = true ↔ reason.IsBroken ctx := by
  cases reason with
  | reservationOverflow => exact Iff.rfl
  | duplicateVariables => exact Duplicates.counts_iff_hasTwice
  | duplicatePaths => exact Duplicates.counts_iff_hasTwice
  | nameConflict => exact nameConflicts_iff
  | noChanges =>
    change ctx.saved.any (· == ctx.form) = true ↔ _
    rw [Option.any_eq_true]
    exact exists_congr fun saved => and_congr_right fun _ => Form.same_iff
  | nonScalableEdit =>
    change Compatibility.isNonScalableEdit ctx.saved.isSome _ _ _ = true ↔ _
    rw [Compatibility.isNonScalableEdit_iff, Option.isSome_iff_exists]
    exact Iff.rfl

/-! ## What surrounds the form -/

theorem nameConflicts_of_perm {existing others : List ExistingApplication}
    (order : others.Perm existing) (name : String) (editing : Option String) :
    nameConflicts others name editing = nameConflicts existing name editing := by
  rw [Bool.eq_iff_iff, nameConflicts_iff, nameConflicts_iff]
  exact exists_congr fun app => and_congr_left fun _ => order.mem_iff

/-- A name does not collide with the application that is edited. -/
theorem nameConflicts_of_own {before behind : List ExistingApplication} {own : ExistingApplication}
    (name : String) : nameConflicts (before ++ own :: behind) name (some own.id) =
      nameConflicts (before ++ behind) name (some own.id) := by
  have skipped : (decide (own.name = name) && (some own.id != some own.id)) = false := by
    rw [bne_self_eq_false, Bool.and_false]
  rw [nameConflicts, nameConflicts, List.any_append, List.any_append, List.any_cons, skipped,
    Bool.false_or]

/-- The existing applications count only for the conflict that they make. -/
theorem evaluate_of_conflicts {ctx : DeployContext} {existing : List ExistingApplication}
    (same : nameConflicts existing ctx.form.name ctx.editing =
      nameConflicts ctx.existing ctx.form.name ctx.editing) :
    Readiness.evaluate { ctx with existing } = Readiness.evaluate ctx :=
  congrArg (fun conflict => { Readiness.evaluate ctx with nameConflict := conflict }) same

/-- The reasons of one context, and what they do not depend on. -/
structure DeployRules (ctx : DeployContext) : Prop where
  listed (reason : BlockReason) :
    reason ∈ (Readiness.evaluate ctx).reasons ↔ reason.IsBroken ctx
  ordered : (Readiness.evaluate ctx).reasons.Sublist
    [.reservationOverflow, .duplicateVariables, .duplicatePaths, .nameConflict, .noChanges,
      .nonScalableEdit]
  distinct : (Readiness.evaluate ctx).reasons.Nodup
  disabled_iff :
    (Readiness.evaluate ctx).isDisabled = true ↔ (Readiness.evaluate ctx).reasons ≠ []
  /-- Exhausted capacity is no reason. -/
  exhausted_unread (exhausted : Bool) :
    { Readiness.evaluate ctx with exhausted }.reasons = (Readiness.evaluate ctx).reasons ∧
      { Readiness.evaluate ctx with exhausted }.isDisabled = (Readiness.evaluate ctx).isDisabled
  order_unread {existing : List ExistingApplication} (order : existing.Perm ctx.existing) :
    Readiness.evaluate { ctx with existing } = Readiness.evaluate ctx
  /-- The application that is edited may be among the existing ones or not. -/
  own_unread {before behind : List ExistingApplication} {own : ExistingApplication}
    (existing : ctx.existing = before ++ own :: behind) (edited : ctx.editing = some own.id) :
    Readiness.evaluate { ctx with existing := before ++ behind } = Readiness.evaluate ctx

/-- **What blocks a deployment.** -/
theorem deploy_rules (ctx : DeployContext) : DeployRules ctx := by
  have ordered : (Readiness.evaluate ctx).reasons.Sublist BlockReason.all := List.filter_sublist
  refine ⟨?_, ordered, ordered.nodup (by decide), ?_, fun exhausted => ⟨rfl, rfl⟩, ?_, ?_⟩
  · intro reason
    rw [Readiness.mem_reasons_iff, Readiness.blocks_iff]
  · rw [Readiness.isDisabled, Bool.not_eq_true', List.isEmpty_eq_false_iff]
  · exact fun order => evaluate_of_conflicts (nameConflicts_of_perm order _ _)
  · intro before behind own existing edited
    apply evaluate_of_conflicts
    rw [existing, edited, nameConflicts_of_own]

end Provision
