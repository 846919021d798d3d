import Mathlib
import Provision.Proofs.ReportAgreement

/-!
# Edits without changes

A form and the one that was saved are compared after both have been built from their documents, so
the building must keep what differs and drop nothing but the order of access modes.

- `FormDocument.converts_iff`: what a document needs to be built.
- `AccessModes.ofList_eq_iff`: two lists of modes are one set exactly if they have the same members.
- `FormDocument.beq_toForm_iff`: two built forms are equal exactly if their documents are the same.
- `no_changes_exact`: so an edit without changes is found, and nothing else is taken for one.
-/

namespace Provision

/-! ## Documents that say the same -/

/-- One path on one storage class, with the same modes in whatever order and however often. -/
structure FolderDocument.Same (d e : FolderDocument) : Prop where
  path : d.path = e.path
  storageClass : d.storage.name = e.storage.name
  modes (m : AccessMode) : m ∈ d.storage.modes ↔ m ∈ e.storage.modes

/-- Cores are compared as numbers, and folders one by one. -/
structure FormDocument.Same (d e : FormDocument) : Prop where
  name : d.name = e.name
  type : d.type = e.type
  access : d.access = e.access
  replicas : d.replicas = e.replicas
  cores : (d.cores == e.cores) = true
  memory : d.memory = e.memory
  environment : d.environment = e.environment
  folders : List.Forall₂ FolderDocument.Same d.folders e.folders
  configurations : d.configurations = e.configurations

/-! ## Documents that are built -/

namespace AccessModes

theorem ofList_eq_iff {modes others : List AccessMode} :
    ofList modes = ofList others ↔ ∀ m, m ∈ modes ↔ m ∈ others := by
  constructor
  · intro same m
    rw [← mem_ofList, ← mem_ofList, same]
  · intro same
    apply ext_has
    intro m
    rw [Bool.eq_iff_iff, mem_ofList, mem_ofList]
    exact same m

theorem toList_ofList_ne_nil_iff {modes : List AccessMode} :
    (ofList modes).toList ≠ [] ↔ modes ≠ [] := by
  simp only [ne_eq, List.eq_nil_iff_forall_not_mem, mem_toList, mem_ofList]

end AccessModes

theorem StorageClass.of_converts_iff {name : String} {modes : List AccessMode} :
    (∃ c, of name modes = .ok c) ↔ modes ≠ [] := by
  rw [← AccessModes.toList_ofList_ne_nil_iff]
  unfold of
  dsimp only
  split <;> rename_i h <;> simp [h]

theorem FolderDocument.converts_iff {d : FolderDocument} :
    (∃ f, d.toFolder = .ok f) ↔ d.storage.modes ≠ [] := by
  have storage : (∃ c, StorageClass.of d.storage.name d.storage.modes = .ok c) ↔
      d.storage.modes ≠ [] := StorageClass.of_converts_iff
  rw [← storage]
  constructor
  · rintro ⟨f, built⟩
    exact ⟨f.storage, (toFolder_ok_iff.mp built).2⟩
  · rintro ⟨c, built⟩
    exact ⟨⟨d.path, c⟩, toFolder_ok_iff.mpr ⟨rfl, built⟩⟩

theorem Request.of_converts_iff {type : DeploymentType} {access : DataAccess} {replicas : UInt32}
    {cores : Float} {memory : UInt64} : (∃ r, of type access replicas cores memory = .ok r) ↔
      1 ≤ replicas ∧ cores.isFinite = true ∧ 0 ≤ cores := by
  have positive : replicas ≠ 0 ↔ 1 ≤ replicas := by
    rw [ne_eq, ← UInt32.toNat_inj, UInt32.le_iff_toNat_le]
    change ¬ replicas.toNat = 0 ↔ 1 ≤ replicas.toNat
    omega
  simp [of_ok_iff, Valid, positive, Quantity.isCoreCount]

namespace FormDocument

theorem converts_iff {d : FormDocument} : (∃ f, d.toForm = .ok f) ↔
    1 ≤ d.replicas ∧ (d.cores.isFinite = true ∧ 0 ≤ d.cores) ∧
      ∀ folder ∈ d.folders, folder.storage.modes ≠ [] := by
  have request : (∃ r, Request.of d.type d.access d.replicas d.cores d.memory = .ok r) ↔
      1 ≤ d.replicas ∧ d.cores.isFinite = true ∧ 0 ≤ d.cores := Request.of_converts_iff
  have folders : (∃ list : List Folder, d.folders.map FolderDocument.toFolder = list.map .ok) ↔
      ∀ folder ∈ d.folders, ∃ f, folder.toFolder = .ok f := Traversal.map_ok_iff
  simp only [FolderDocument.converts_iff] at folders
  rw [← and_assoc, ← request, ← folders]
  constructor
  · rintro ⟨f, built⟩
    obtain ⟨deployment, list, -⟩ := toForm_ok_iff.mp built
    exact ⟨⟨f.deployment, deployment⟩, f.folders, list⟩
  · rintro ⟨⟨deployment, hd⟩, folders, hf⟩
    refine ⟨⟨d.name, deployment, d.environment, folders, d.configurations⟩, ?_⟩
    exact toForm_ok_iff.mpr ⟨hd, hf, rfl, rfl, rfl⟩

end FormDocument

/-! ## Built forms that are equal -/

theorem Request.beq_iff {r t : Request} : (r == t) = true ↔
    r.type = t.type ∧ r.access = t.access ∧ r.replicas = t.replicas ∧
      (r.cores == t.cores) = true ∧ r.memory = t.memory := by
  cases r
  cases t
  change instBEqRequest.beq _ _ = true ↔ _
  simp [instBEqRequest.beq]

theorem Form.beq_iff {f g : Form} : (f == g) = true ↔
    f.name = g.name ∧ (f.deployment == g.deployment) = true ∧ f.environment = g.environment ∧
      f.folders = g.folders ∧ f.configurations = g.configurations := by
  cases f
  cases g
  change instBEqForm.beq _ _ = true ↔ _
  simp [instBEqForm.beq]

theorem FolderDocument.toFolder_eq_iff {d e : FolderDocument} {f g : Folder}
    (hd : d.toFolder = .ok f) (he : e.toFolder = .ok g) : f = g ↔ d.Same e := by
  obtain ⟨path, built⟩ := toFolder_ok_iff.mp hd
  obtain ⟨path', built'⟩ := toFolder_ok_iff.mp he
  obtain ⟨name, modes⟩ := StorageClass.of_ok_iff.mp built
  obtain ⟨name', modes'⟩ := StorageClass.of_ok_iff.mp built'
  have parts : f = g ↔ f.path = g.path ∧ f.storage.name = g.storage.name ∧
      f.storage.modes = g.storage.modes := by
    cases f with | mk p c => cases c; cases g with | mk q c' => cases c'; simp
  rw [parts, path, path', name, name', modes, modes', AccessModes.ofList_eq_iff]
  constructor
  · rintro ⟨hp, hn, hm⟩
    exact ⟨hp, hn, hm⟩
  · rintro ⟨hp, hn, hm⟩
    exact ⟨hp, hn, hm⟩

theorem Traversal.map_eq_map_ok_iff {α β ε : Type} {f : α → Except ε β} {xs : List α}
    {ys : List β} : xs.map f = ys.map .ok ↔ List.Forall₂ (fun x y => f x = .ok y) xs ys := by
  rw [← List.forall₂_eq_eq_eq, List.forall₂_map_left_iff, List.forall₂_map_right_iff]

/-- Lists of folders are equal exactly if their documents are the same one by one. -/
theorem FolderDocument.toFolders_eq_iff {ds es : List FolderDocument} {fs gs : List Folder}
    (hd : ds.map toFolder = fs.map .ok) (he : es.map toFolder = gs.map .ok) :
    fs = gs ↔ List.Forall₂ Same ds es := by
  rw [Traversal.map_eq_map_ok_iff] at hd he
  induction hd generalizing es gs with
  | nil => cases he <;> simp
  | cons head _ ih =>
    cases he with
    | nil => simp
    | cons head' tail' =>
      rw [List.cons.injEq, List.forall₂_cons, toFolder_eq_iff head head', ih tail']

namespace FormDocument

/-- The building loses nothing that a comparison is after. -/
theorem beq_toForm_iff {d e : FormDocument} {f g : Form} (hd : d.toForm = .ok f)
    (he : e.toForm = .ok g) : (f == g) = true ↔ d.Same e := by
  obtain ⟨request, folders, name, environment, configurations⟩ := toForm_ok_iff.mp hd
  obtain ⟨request', folders', name', environment', configurations'⟩ := toForm_ok_iff.mp he
  have deployment := (Request.of_ok_iff.mp request).1
  have deployment' := (Request.of_ok_iff.mp request').1
  rw [Form.beq_iff, Request.beq_iff, FolderDocument.toFolders_eq_iff folders folders', deployment,
    deployment', name, name', environment, environment', configurations, configurations']
  constructor
  · rintro ⟨hn, ⟨ht, ha, hr, hc, hm⟩, hv, hf, hg⟩
    exact ⟨hn, ht, ha, hr, hc, hm, hv, hf, hg⟩
  · rintro ⟨hn, ht, ha, hr, hc, hm, hv, hf, hg⟩
    exact ⟨hn, ⟨ht, ha, hr, hc, hm⟩, hv, hf, hg⟩

end FormDocument

/-! ## What is reported -/

/-- The application is edited, and its form says what the saved one says. -/
def Snapshot.IsUnchanged (s : Snapshot) : Prop := ∃ saved, s.saved = some saved ∧ saved.Same s.form

theorem Snapshot.savedForm_ok_iff {s : Snapshot} {saved : Option Form} :
    s.savedForm = .ok saved ↔
      (s.saved = none ∧ saved = none) ∨
        ∃ d f, s.saved = some d ∧ d.toForm = .ok f ∧ saved = some f := by
  unfold savedForm
  cases s.saved with
  | none => simp [eq_comm]
  | some d =>
    change d.toForm.map some = .ok saved ↔ _
    cases h : d.toForm with
    | error e => simp [h, Except.map]
    | ok f => simp [h, Except.map, eq_comm]

theorem Readiness.noChanges_iff {s : Snapshot} {form : Form} {saved : Option Form}
    (hf : s.applicationForm = .ok form) (hs : s.savedForm = .ok saved) (headroom : Headroom)
    (existing : List ExistingApplication) (editing : Option String) :
    (evaluate ⟨form, saved, headroom, existing, editing⟩).noChanges = true ↔ s.IsUnchanged := by
  change saved.any (· == form) = true ↔ _
  rcases Snapshot.savedForm_ok_iff.mp hs with ⟨none, rfl⟩ | ⟨d, f, some, built, rfl⟩
  · simp [Snapshot.IsUnchanged, none]
  · have same := FormDocument.beq_toForm_iff built hf
    simp [Snapshot.IsUnchanged, some, same]

/-- How an edit without changes is found. -/
structure ChangesFound (s : Snapshot) : Prop where
  /-- What a document needs to be built as a form. -/
  converts_iff (d : FormDocument) : (∃ f, d.toForm = .ok f) ↔
    1 ≤ d.replicas ∧ (d.cores.isFinite = true ∧ 0 ≤ d.cores) ∧
      ∀ folder ∈ d.folders, folder.storage.modes ≠ []
  /-- Both forms are built; the headroom and other applications make no difference. -/
  noChanges_iff {form : Form} {saved : Option Form} (hf : s.applicationForm = .ok form)
    (hs : s.savedForm = .ok saved) (headroom : Headroom) (existing : List ExistingApplication)
    (editing : Option String) :
    ((Readiness.evaluate ⟨form, saved, headroom, existing, editing⟩).noChanges = true ↔
      s.IsUnchanged) ∧
    (BlockReason.noChanges ∈
      (Readiness.evaluate ⟨form, saved, headroom, existing, editing⟩).reasons ↔ s.IsUnchanged)
  /-- So it is in a report. -/
  reported_iff {policy : Policy} {r : ValidationReport}
    (made : ValidationReport.ofSnapshot policy s = .ok r) :
    (r.readiness.noChanges = true ↔ s.IsUnchanged) ∧
      (BlockReason.noChanges ∈ r.reasons ↔ s.IsUnchanged)
  /-- A new application has nothing to be the same as. -/
  new (none : s.saved = none) : ¬ s.IsUnchanged

/-- **An edit without changes is found exactly.** It is reported where the form and the saved one
say the same, and nowhere else. -/
theorem no_changes_exact (s : Snapshot) : ChangesFound s := by
  have blocks (r : Readiness) : BlockReason.noChanges ∈ r.reasons ↔ r.noChanges = true :=
    r.mem_reasons_iff .noChanges
  refine ⟨fun _ => FormDocument.converts_iff, ?_, ?_, ?_⟩
  · intro form saved hf hs headroom existing editing
    rw [blocks]
    have found := Readiness.noChanges_iff hf hs headroom existing editing
    exact ⟨found, found⟩
  · intro policy r made
    obtain ⟨nodes, quota, saved, form, built, rfl⟩ := ValidationReport.ofSnapshot_ok_iff.mp made
    have found := Readiness.noChanges_iff built.form built.saved
      (Headroom.compute policy nodes quota (credited saved)) s.existing s.editing
    exact ⟨found, (blocks _).trans found⟩
  · rintro none ⟨saved, some, -⟩
    rw [none] at some
    cases some

end Provision
