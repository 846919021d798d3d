import Provision.Proofs.DeployRules

/-!
# The rules of storage agree

Whether replicas scale, whether one runs on every node, which classes are warned of and whether an
edit is blocked are found in four passes over the folders. All of them come down to the folders on
storage for a single node.

- `FirstPlaces.unique`, `firstPlaces_eraseDups`: a list without its repetitions, said by the places
  of its values.
- `FolderDocument.singleNode_names`: the folders whose listed modes are all read-write-once are
  those whose built class is.
- `supportsScaling_iff`, `supportsGlobal_iff`: both answers by these folders.
- `storage_rules_agree`: so the passes agree with each other.
-/

namespace Provision

/-! ## Values at their first places -/

/-- The second list has the values of the first one in the order of their first places, and so none
of them twice. -/
structure FirstPlaces (xs ys : List String) : Prop where
  mem_iff (a : String) : a ∈ ys ↔ a ∈ xs
  ordered : ys.Pairwise fun a b => xs.idxOf a < xs.idxOf b

namespace FirstPlaces

variable {xs ys zs : List String}

theorem nodup (h : FirstPlaces xs ys) : ys.Nodup := by
  refine h.ordered.imp ?_
  rintro a _ before rfl
  exact Nat.lt_irrefl _ before

theorem unique (hy : FirstPlaces xs ys) (hz : FirstPlaces xs zs) : ys = zs := by
  have perm : ys.Perm zs := (List.perm_ext_iff_of_nodup hy.nodup hz.nodup).mpr fun a =>
    (hy.mem_iff a).trans (hz.mem_iff a).symm
  exact perm.eq_of_pairwise (fun a b _ _ before behind => absurd behind (Nat.lt_asymm before))
    hy.ordered hz.ordered

end FirstPlaces

/-- A value is kept where it has not been before. -/
theorem firstPlaces_eraseDups (xs : List String) : FirstPlaces xs xs.eraseDups := by
  refine ⟨fun _ => List.mem_eraseDups, ?_⟩
  induction xs using List.reverseRecOn with
  | nil => exact .nil
  | append_singleton xs x ih =>
    have places {a : String} (h : a ∈ xs) : (xs ++ [x]).idxOf a = xs.idxOf a := by
      rw [List.idxOf_append, if_pos h]
    have old : xs.eraseDups.Pairwise fun a b => (xs ++ [x]).idxOf a < (xs ++ [x]).idxOf b := by
      refine ih.imp_of_mem fun ha hb before => ?_
      rwa [places (List.mem_eraseDups.mp ha), places (List.mem_eraseDups.mp hb)]
    rw [List.eraseDups_append]
    by_cases known : x ∈ xs
    · have nothing : [x].removeAll xs = [] := by simp [List.removeAll, known]
      rw [nothing, List.eraseDups_nil, List.append_nil]
      exact old
    · have new : [x].removeAll xs = [x] := by simp [List.removeAll, known]
      rw [new, List.eraseDups_cons, List.filter_nil, List.eraseDups_nil, List.pairwise_append]
      refine ⟨old, List.pairwise_singleton _ _, ?_⟩
      intro a ha b hb
      rw [List.mem_singleton.mp hb, places (List.mem_eraseDups.mp ha), List.idxOf_append,
        if_neg known]
      have := List.idxOf_lt_length_iff.mpr (List.mem_eraseDups.mp ha)
      omega

/-! ## Folders on storage for a single node -/

namespace FolderDocument

/-- The folders all of whose listed modes are read-write-once. -/
def singleNode (docs : List FolderDocument) : List FolderDocument :=
  docs.filter fun d => d.storage.modes.all (· = .readWriteOnce)

theorem singleNode_names {docs : List FolderDocument} {folders : List Folder}
    (built : docs.map toFolder = folders.map .ok) :
    (singleNode docs).map (·.storage.name) =
      (folders.filter (·.storage.isReadWriteOnceOnly)).map (·.storage.name) := by
  rw [Traversal.map_eq_map_ok_iff] at built
  induction built with
  | nil => rfl
  | @cons d f docs folders head _ ih =>
    obtain ⟨-, built⟩ := toFolder_ok_iff.mp head
    have name := (StorageClass.of_ok_iff.mp built).1
    have single : d.storage.modes.all (· = .readWriteOnce) = f.storage.isReadWriteOnceOnly := by
      rw [Bool.eq_iff_iff, StorageClass.isReadWriteOnceOnly_iff built, List.all_eq_true]
      simp only [decide_eq_true_iff]
    unfold singleNode at *
    rw [List.filter_cons, List.filter_cons, single]
    split
    · rw [List.map_cons, List.map_cons, ih, name]
    · exact ih

theorem singleNode_nil_iff {docs : List FolderDocument} {folders : List Folder}
    (built : docs.map toFolder = folders.map .ok) :
    singleNode docs = [] ↔ Compatibility.hasReadWriteOnceOnly folders = false := by
  rw [← List.map_eq_nil_iff (f := (·.storage.name)), singleNode_names built, List.map_eq_nil_iff,
    List.filter_eq_nil_iff, Compatibility.hasReadWriteOnceOnly, List.any_eq_false]

end FolderDocument

namespace Compatibility

variable {folders : List Folder} {access : DataAccess}

theorem supportsScaling_iff : supportsScaling folders access = true ↔
    hasReadWriteOnceOnly folders = false ∨ access = .isolated := by
  rw [supportsScaling, Bool.or_eq_true, Bool.not_eq_true', beq_iff_eq]

theorem supportsGlobal_iff : supportsGlobal folders access = true ↔
    folders = [] ∨ hasReadWriteOnceOnly folders = false ∧ access = .shared := by
  have shared : access ≠ .isolated ↔ access = .shared := by cases access <;> decide
  rw [supportsGlobal, Bool.or_eq_true, List.isEmpty_iff, Bool.and_eq_true, Bool.not_eq_true',
    bne_iff_ne, shared]

/-- Storage for a single node is not made up for by another folder. -/
theorem hasReadWriteOnceOnly_of_insert {before behind : List Folder} {folder : Folder}
    (none : hasReadWriteOnceOnly (before ++ folder :: behind) = false) :
    hasReadWriteOnceOnly (before ++ behind) = false := by
  simp only [hasReadWriteOnceOnly, List.any_append, List.any_cons, Bool.or_eq_false_iff] at *
  exact ⟨none.1, none.2.2⟩

end Compatibility

/-! ## Agreement -/

/-- Replicas on storage that does not scale block an edit. -/
theorem ValidationReport.nonScalableEdit_of_exceedsStorage {policy : Policy} {s : Snapshot}
    {r : ValidationReport} (made : ofSnapshot policy s = .ok r) (edit : s.isEdit = true)
    (exceeds : r.exceedsStorage = true) : BlockReason.nonScalableEdit ∈ r.reasons := by
  obtain ⟨nodes, quota, saved, form, built, rfl⟩ := ofSnapshot_ok_iff.mp made
  have edited : saved.isSome = true := by
    rcases Snapshot.savedForm_ok_iff.mp built.saved with ⟨none, -⟩ | ⟨_, _, -, -, rfl⟩
    · rw [Snapshot.isEdit, none] at edit
      cases edit
    · rfl
  obtain ⟨many, apart⟩ := Bool.and_eq_true_iff.mp exceeds
  have global : Compatibility.supportsGlobal form.folders form.deployment.access = false := by
    rw [← Bool.not_eq_true]
    intro global
    rw [ofParts, Compatibility.scalable_of_global global] at apart
    cases apart
  rw [reasons, Readiness.mem_reasons_iff]
  change (saved.isSome && !Compatibility.supportsGlobal form.folders form.deployment.access &&
    decide (1 < form.deployment.replicas)) = true
  rw [edited, global]
  exact many

/-- What holds of folders that are built from these documents. -/
structure StorageRules (docs : List FolderDocument) (folders : List Folder) (access : DataAccess) :
    Prop where
  /-- Classes are warned of once, in the order of the folders that they come with. -/
  warned (names : List String) : Compatibility.nonScalableClasses folders = names ↔
    FirstPlaces ((FolderDocument.singleNode docs).map (·.storage.name)) names
  scaling_iff : Compatibility.supportsScaling folders access = true ↔
    FolderDocument.singleNode docs = [] ∨ access = .isolated
  global_iff : Compatibility.supportsGlobal folders access = true ↔
    docs = [] ∨ FolderDocument.singleNode docs = [] ∧ access = .shared
  scaling_of_global : Compatibility.supportsGlobal folders access = true →
    Compatibility.supportsScaling folders access = true
  /-- What is not supported is not supported with one more folder, wherever it is put. -/
  scaling_of_insert {before behind : List Folder} (parts : folders = before ++ behind)
    (folder : Folder) :
    Compatibility.supportsScaling (before ++ folder :: behind) access = true →
      Compatibility.supportsScaling folders access = true
  global_of_insert {before behind : List Folder} (parts : folders = before ++ behind)
    (folder : Folder) :
    Compatibility.supportsGlobal (before ++ folder :: behind) access = true →
      Compatibility.supportsGlobal folders access = true
  unwarned_iff : Compatibility.nonScalableClasses folders = [] ↔
    Compatibility.supportsScaling folders .shared = true

/-- **The rules of storage agree**, on folders that are built from any lists of modes, and in every
report on an edit. -/
theorem storage_rules_agree :
    (∀ (docs : List FolderDocument) (folders : List Folder) (access : DataAccess),
      docs.map FolderDocument.toFolder = folders.map .ok → StorageRules docs folders access) ∧
    ∀ (policy : Policy) (s : Snapshot) (r : ValidationReport),
      ValidationReport.ofSnapshot policy s = .ok r → s.isEdit = true → r.exceedsStorage = true →
        BlockReason.nonScalableEdit ∈ r.reasons := by
  refine ⟨?_, fun _ _ _ => ValidationReport.nonScalableEdit_of_exceedsStorage⟩
  intro docs folders access built
  have single := FolderDocument.singleNode_nil_iff built
  have none : docs = [] ↔ folders = [] := by
    rw [← List.length_eq_zero_iff, ← List.length_eq_zero_iff, ← List.length_map, built,
      List.length_map]
  refine ⟨?_, ?_, ?_, Compatibility.scalable_of_global, ?_, ?_,
    Compatibility.nonScalableClasses_nil_iff folders⟩
  · intro names
    have places := firstPlaces_eraseDups ((FolderDocument.singleNode docs).map (·.storage.name))
    rw [Compatibility.nonScalableClasses, ← FolderDocument.singleNode_names built]
    exact ⟨fun same => same ▸ places, places.unique⟩
  · rw [Compatibility.supportsScaling_iff, single]
  · rw [Compatibility.supportsGlobal_iff, single, none]
  · rintro before behind rfl folder
    rw [Compatibility.supportsScaling_iff, Compatibility.supportsScaling_iff]
    exact Or.imp_left Compatibility.hasReadWriteOnceOnly_of_insert
  · rintro before behind rfl folder
    rw [Compatibility.supportsGlobal_iff, Compatibility.supportsGlobal_iff]
    rintro (nothing | ⟨shareable, shared⟩)
    · simp at nothing
    · exact Or.inr ⟨Compatibility.hasReadWriteOnceOnly_of_insert shareable, shared⟩

/-- Folders of three classes; one of them is listed with other modes, and twice with one mode. -/
def relisted : List FolderDocument := [
  ⟨"/a", ⟨"local", [.readWriteOnce, .readWriteOnce]⟩⟩,
  ⟨"/b", ⟨"nfs", [.readWriteMany, .readWriteOnce]⟩⟩,
  ⟨"/c", ⟨"block", [.readWriteOnce]⟩⟩,
  ⟨"/d", ⟨"local", [.readOnlyMany]⟩⟩,
  ⟨"/e", ⟨"local", [.readWriteOnce]⟩⟩]

/-- An application without folders that gets them, and a second replica. -/
def scaledEdit : Snapshot where
  capturedAt := none
  nodes := [⟨"node", 4, "8Gi"⟩]
  kubernetesNodes := []
  quota := none
  resourceQuota := none
  form := { FormDocument.empty with replicas := 2, folders := relisted }
  saved := some FormDocument.empty
  editing := none
  existing := []
  pods := []
  configuration := none

theorem storage_rules_agree_relisted :
    (∃ folders, relisted.map FolderDocument.toFolder = folders.map .ok ∧
      Compatibility.nonScalableClasses folders = ["local", "block"] ∧
      Compatibility.supportsScaling folders .isolated = true) ∧
    ∃ r, ValidationReport.ofSnapshot .standard scaledEdit = .ok r ∧ scaledEdit.isEdit = true ∧
      r.exceedsStorage = true ∧ BlockReason.nonScalableEdit ∈ r.reasons := by
  constructor
  · obtain ⟨folders, built⟩ := (Traversal.map_ok_iff (f := FolderDocument.toFolder)).mpr
      fun d (listed : d ∈ relisted) => FolderDocument.converts_iff.mpr (by
        revert d
        decide)
    have rules := storage_rules_agree.1 relisted folders .isolated built
    have places : FirstPlaces ["local", "block", "local"] ["local", "block"] := by
      refine ⟨fun a => ?_, by decide⟩
      simp only [List.mem_cons, List.not_mem_nil, or_false]
      tauto
    exact ⟨folders, built, (rules.warned _).mpr places, rules.scaling_iff.mpr (Or.inr rfl)⟩
  · have exceeds : (ValidationReport.ofSnapshot .standard scaledEdit).toOption.any
        (·.exceedsStorage) = true := by decide +kernel
    cases made : ValidationReport.ofSnapshot .standard scaledEdit with
    | error failure =>
      rw [made] at exceeds
      cases exceeds
    | ok r =>
      rw [made] at exceeds
      exact ⟨r, rfl, rfl, exceeds, storage_rules_agree.2 .standard scaledEdit r made rfl exceeds⟩

end Provision
