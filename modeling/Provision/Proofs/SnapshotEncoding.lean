import Provision.Proofs.JsonText
import Provision.Proofs.RecordForms
import Provision.Snapshot.Decode
import Provision.Snapshot.Encode

/-!
# What is written of snapshots

Each kind of record in a snapshot, written and read again. That numbers, strings and points in time
are read back as they were written is for the codec to grant.

- `Snapshot.Codec.ofJson?_toJson`: what is written of a snapshot reads back, if its doubles are
  finite and the codec reads back its time.
- `Snapshot.Codec.toJson_keeps`: and it is kept whole by its own text, if the codec reads back its
  numbers.
-/

namespace Provision

open Json (Apart Record Value)

/-! ## Reading what is written -/

section
variable {α : Type} (key name : String) (write : α → Value) (a : Option α)

theorem get?_presentField :
    Record.get? (presentField key write a) name = if key = name then a.map write else none := by
  cases a with
  | none =>
    split <;> rfl
  | some a => exact Json.get?_cons name key (write a) []

theorem names_presentField : ((presentField key write a).map Prod.fst).Sublist [key] := by
  cases a with
  | none => exact List.nil_sublist _
  | some a => exact List.Sublist.refl _

end

theorem optional_present {α : Type} {r : Record} {name : String} {write : α → Value}
    {read : Value → Option α} {a : Option α} (given : r.get? name = a.map write)
    (back : ∀ x ∈ a, read (write x) = some x) (present : ∀ x, write x ≠ .null) :
    r.optional name read = some a := by
  rw [Record.optional, given]
  cases a with
  | none => rfl
  | some x =>
    rw [Option.map_some]
    split
    · rename_i null
      exact absurd (Option.some.inj null) (present x)
    · rename_i value found
      cases found
      rw [back x rfl, Option.map_some]
    · rename_i none
      cases none

theorem Json.Value.float?_real {x : Float} (h : x.isFinite) : (Value.real x).float? = some x :=
  if_pos h

theorem Json.Value.isFinite_of_float? {v : Value} {x : Float} (h : v.float? = some x) :
    x.isFinite = true := by
  unfold float? at h
  split at h
  · split at h
    · rename_i finite
      cases h
      exact finite
    · cases h
  · cases h

namespace NodeListing

theorem ofJson?_toJson {n : NodeListing} (h : n.cores.isFinite) : ofJson? n.toJson = some n := by
  have read : n.toJson.fields? fields =
      some [("name", .text n.name), ("cpu", .real n.cores), ("memory", .text n.memory)] :=
    Json.fields?_written (by decide) (List.Sublist.refl _)
  simp [ofJson?, read, Record.required, Json.get?_cons, Value.float?_real h]
  rfl

end NodeListing

theorem QuotaSummary.ofJson?_toJson (q : QuotaSummary) : ofJson? q.toJson = some q := by
  have read : q.toJson.fields? fields = some (presentField "cpu_limit" .text q.cpuLimit ++
      presentField "cpu_used" .text q.cpuUsed ++ presentField "memory_limit" .text q.memoryLimit ++
      presentField "memory_used" .text q.memoryUsed) := by
    apply Json.fields?_written (by decide)
    simp only [List.map_append]
    exact (((names_presentField ..).append (names_presentField ..)).append
      (names_presentField ..)).append (names_presentField ..)
  have back : ∀ (r : Record) (name : String) (a : Option String),
      r.get? name = a.map .text → r.optional name Value.text? = some a := by
    intro r name a given
    exact optional_present given (fun _ _ => rfl) (fun _ h => by cases h)
  simp only [ofJson?, read, Option.bind_eq_bind, Option.bind_some]
  rw [back _ "cpu_limit" q.cpuLimit, back _ "cpu_used" q.cpuUsed,
    back _ "memory_limit" q.memoryLimit, back _ "memory_used" q.memoryUsed]
  · rfl
  all_goals simp [Json.get?_append, get?_presentField]

theorem StorageClassDocument.ofJson?_toJson (c : StorageClassDocument) :
    ofJson? c.toJson = some c := by
  have modes : Value.list? (Value.choice? AccessMode.ofName?)
      (.list (fun mode => .text mode.name) c.modes) = some c.modes :=
    Json.list?_list fun mode _ => AccessMode.ofName?_name mode
  have read : c.toJson.fields? fields = some [("name", .text c.name),
      ("access_modes", .list (fun mode => .text mode.name) c.modes)] :=
    Json.fields?_written (by decide) (List.Sublist.refl _)
  simp [ofJson?, read, Record.required, Json.get?_cons, modes]
  rfl

theorem FolderDocument.ofJson?_toJson (f : FolderDocument) : ofJson? f.toJson = some f := by
  have read : f.toJson.fields? fields =
      some [("container_path", .text f.path), ("storage_class", f.storage.toJson)] :=
    Json.fields?_written (by decide) (List.Sublist.refl _)
  simp [ofJson?, read, Record.required, Json.get?_cons,
    StorageClassDocument.ofJson?_toJson]
  rfl

theorem Variable.ofJson?_toJson (v : Variable) : ofJson? v.toJson = some v := by
  have read : v.toJson.fields? fields =
      some [("name", .text v.name), ("value", .text v.value)] :=
    Json.fields?_written (by decide) (List.Sublist.refl _)
  simp [ofJson?, read, Record.required, Record.defaulted, Json.get?_cons]
  rfl

theorem ExistingApplication.ofJson?_toJson (a : ExistingApplication) :
    ofJson? a.toJson = some a := by
  have read : a.toJson.fields? fields =
      some [("id", .text a.id), ("name", .text a.name)] :=
    Json.fields?_written (by decide) (List.Sublist.refl _)
  simp [ofJson?, read, Record.required, Json.get?_cons]
  rfl

theorem ConfigurationEntry.ofJson?_toJson (e : ConfigurationEntry) :
    ofJson? e.toJson = some e := by
  have read : e.toJson.fields? fields =
      some [("key", .text e.key), ("value", .text e.value)] :=
    Json.fields?_written (by decide) (List.Sublist.refl _)
  simp [ofJson?, read, Record.required, Record.defaulted, Json.get?_cons]
  rfl

theorem ConfigurationData.ofJson?_toJson (d : ConfigurationData) : ofJson? d.toJson = some d := by
  have entries : Value.list? ConfigurationEntry.ofJson?
      (.list ConfigurationEntry.toJson d.entries) = some d.entries :=
    Json.list?_list fun entry _ => entry.ofJson?_toJson
  have read : d.toJson.fields? fields =
      some [("entries", .list ConfigurationEntry.toJson d.entries)] :=
    Json.fields?_written (by decide) (List.Sublist.refl _)
  simp [ofJson?, read, Record.required, Json.get?_cons, entries]

theorem smallCount?_natural (n : UInt32) : (Value.natural n.toNat).smallCount? = some n := by
  have small : n.toNat < UInt32.size := n.toNat_lt
  simp [Value.smallCount?, Value.natural, Value.natural?, small]

theorem count?_natural (n : UInt64) : (Value.natural n.toNat).count? = some n := by
  have small : n.toNat < UInt64.size := n.toNat_lt
  simp [Value.count?, Value.natural, Value.natural?, small]

theorem FormDocument.ofJson?_toJson {f : FormDocument} (h : f.cores.isFinite) :
    ofJson? f.toJson = some f := by
  have type : Value.choice? DeploymentType.ofName? (.text f.type.name) = some f.type :=
    DeploymentType.ofName?_name f.type
  have access : Value.choice? DataAccess.ofName? (.text f.access.name) = some f.access :=
    DataAccess.ofName?_name f.access
  have environment : Value.list? Variable.ofJson? (.list Variable.toJson f.environment) =
      some f.environment := Json.list?_list fun v _ => v.ofJson?_toJson
  have folders : Value.list? FolderDocument.ofJson? (.list FolderDocument.toJson f.folders) =
      some f.folders := Json.list?_list fun folder _ => folder.ofJson?_toJson
  have configurations : Value.list? Value.text? (.list .text f.configurations) =
      some f.configurations := Json.list?_list fun _ _ => rfl
  have read : f.toJson.fields? fields = some [
      ("name", .text f.name), ("deployment_type", .text f.type.name),
      ("data_access_policy", .text f.access.name), ("replicas", .natural f.replicas.toNat),
      ("cpu_limit", .real f.cores), ("memory_limit_mb", .natural f.memory.toNat),
      ("environment_variables", .list Variable.toJson f.environment),
      ("persisted_folders", .list FolderDocument.toJson f.folders),
      ("configurations", .list .text f.configurations)] :=
    Json.fields?_written (by decide) (List.Sublist.refl _)
  simp [ofJson?, read, Record.defaulted, Json.get?_cons, type, access, environment,
    folders, configurations, smallCount?_natural, count?_natural, Value.float?_real h]
  rfl

namespace Snapshot

/-- The part of a snapshot that is written. -/
def portable (s : Snapshot) : Snapshot :=
  { s with kubernetesNodes := [], resourceQuota := none, pods := [] }

/-- The doubles of a snapshot. -/
def doubles (s : Snapshot) : List Float :=
  s.nodes.map (·.cores) ++ s.form.cores :: (s.saved.map (·.cores)).toList

namespace Codec

variable (codec : Codec)

/-- The entries that are written. -/
def record (s : Snapshot) : Record :=
  presentField "captured_at" (fun t => .text (codec.momentText t)) s.capturedAt ++
    [("nodes", .list NodeListing.toJson s.nodes), ("k8s_nodes", .array [])] ++
    presentField "quota" QuotaSummary.toJson s.quota ++
    [("form", s.form.toJson)] ++
    presentField "saved" FormDocument.toJson s.saved ++
    presentField "editing_id" .text s.editing ++
    [("existing_applications", .list ExistingApplication.toJson s.existing),
      ("pods", .array [])] ++
    presentField "configuration" ConfigurationData.toJson s.configuration

theorem names_record (s : Snapshot) :
    ((codec.record s).map Prod.fst).Sublist (fields.map (·.name)) := by
  simp only [record, List.map_append]
  have nodes := (names_presentField "captured_at" (fun t => Value.text (codec.momentText t))
    s.capturedAt).append (List.Sublist.refl ["nodes", "k8s_nodes"])
  have form := ((nodes.append (names_presentField "quota" QuotaSummary.toJson s.quota)).append
    (List.nil_sublist ["resource_quota"])).append (List.Sublist.refl ["form"])
  have editing := (form.append (names_presentField "saved" FormDocument.toJson s.saved)).append
    (names_presentField "editing_id" .text s.editing)
  simpa [fields, plainField] using
    (editing.append (List.Sublist.refl ["existing_applications", "pods"])).append
      (names_presentField "configuration" ConfigurationData.toJson s.configuration)

/-- What stands under each name. -/
theorem get?_record (s : Snapshot) :
    (codec.record s).get? "captured_at" = s.capturedAt.map (fun t => .text (codec.momentText t)) ∧
      (codec.record s).get? "nodes" = some (.list NodeListing.toJson s.nodes) ∧
      (codec.record s).get? "k8s_nodes" = some (.array []) ∧
      (codec.record s).get? "quota" = s.quota.map QuotaSummary.toJson ∧
      (codec.record s).get? "resource_quota" = none ∧
      (codec.record s).get? "form" = some s.form.toJson ∧
      (codec.record s).get? "saved" = s.saved.map FormDocument.toJson ∧
      (codec.record s).get? "editing_id" = s.editing.map .text ∧
      (codec.record s).get? "existing_applications" =
        some (.list ExistingApplication.toJson s.existing) ∧
      (codec.record s).get? "pods" = some (.array []) ∧
      (codec.record s).get? "configuration" = s.configuration.map ConfigurationData.toJson := by
  simp [record, Json.get?_append, get?_presentField, Json.get?_cons]

variable {codec}

theorem ofJson?_toJson {s : Snapshot} (finite : ∀ x ∈ s.doubles, x.isFinite)
    (back : ∀ t ∈ s.capturedAt, codec.moment? (codec.momentText t) = some t) :
    codec.ofJson? (codec.toJson s) = some s.portable := by
  obtain ⟨captured, nodes, kubernetes, quota, removed, form, saved, editing, existing, pods,
    configuration⟩ := codec.get?_record s
  have read : (codec.toJson s).fields? fields = some (codec.record s) :=
    Json.fields?_written (by decide) (codec.names_record s)
  have nodesBack : Value.list? NodeListing.ofJson? (.list NodeListing.toJson s.nodes) =
      some s.nodes := by
    apply Json.list?_list
    intro n hn
    exact n.ofJson?_toJson (finite _ (by
      simp only [doubles, List.mem_append, List.mem_map]
      exact Or.inl ⟨n, hn, rfl⟩))
  have formBack : FormDocument.ofJson? s.form.toJson = some s.form :=
    FormDocument.ofJson?_toJson (finite _ (by simp [doubles]))
  have existingBack : Value.list? ExistingApplication.ofJson?
      (.list ExistingApplication.toJson s.existing) = some s.existing :=
    Json.list?_list fun a _ => a.ofJson?_toJson
  have capturedBack : (codec.record s).optional "captured_at"
      (fun v => v.text?.bind codec.moment?) = some s.capturedAt := by
    apply optional_present captured
    · intro t ht
      simp only [Value.text?, Value.text, Option.bind_some]
      exact back t ht
    · intro _ h
      cases h
  have quotaBack : (codec.record s).optional "quota" QuotaSummary.ofJson? = some s.quota :=
    optional_present quota (fun q _ => q.ofJson?_toJson) (fun _ h => by cases h)
  have savedBack : (codec.record s).optional "saved" FormDocument.ofJson? = some s.saved := by
    apply optional_present saved
    · intro f hf
      exact FormDocument.ofJson?_toJson (finite _ (by simp [doubles, Option.mem_def.mp hf]))
    · intro _ h
      cases h
  have editingBack : (codec.record s).optional "editing_id" Value.text? = some s.editing :=
    optional_present editing (fun _ _ => rfl) (fun _ h => by cases h)
  have configurationBack : (codec.record s).optional "configuration" ConfigurationData.ofJson? =
      some s.configuration :=
    optional_present configuration (fun d _ => d.ofJson?_toJson) (fun _ h => by cases h)
  have quotaRemoved : (codec.record s).optional "resource_quota"
      (Kubernetes.ResourceQuota.ofJson? fieldRoom) = some none := by
    rw [Record.optional, removed]
  simp only [ofJson?, read, Option.bind_eq_bind, Option.bind_some, capturedBack, quotaBack,
    savedBack, editingBack, configurationBack, quotaRemoved, Record.defaulted, nodes, kubernetes,
    form, existing, pods, nodesBack, formBack, existingBack]
  rfl

end Codec

end Snapshot

/-! ## The text of what is written -/

section
variable {codec : Json.Codec}

theorem keeps_list {α : Type} {write : α → Value} {items : List α}
    (keeps : ∀ item ∈ items, codec.Keeps (write item)) : codec.Keeps (.list write items) := by
  apply Json.Codec.Keeps.array
  intro v member
  obtain ⟨item, hi, rfl⟩ := List.mem_map.mp member
  exact keeps item hi

theorem keeps_presentField {α : Type} {key : String} {write : α → Value} {a : Option α}
    (keeps : ∀ x ∈ a, codec.Keeps (write x)) :
    ∀ field ∈ presentField key write a, codec.Keeps field.2 := by
  cases a with
  | none => nofun
  | some x =>
    intro field member
    rw [List.mem_singleton.mp member]
    exact keeps x rfl

theorem NodeListing.toJson_keeps {n : NodeListing} (h : codec.KeepsNumber (.real n.cores)) :
    codec.Keeps n.toJson := by
  apply Json.Codec.Keeps.record
  simp only [List.forall_mem_cons]
  exact ⟨.text _, .number h, .text _, List.forall_mem_nil _⟩

theorem QuotaSummary.toJson_keeps (q : QuotaSummary) : codec.Keeps q.toJson := by
  apply Json.Codec.Keeps.record
  simp only [List.forall_mem_append]
  exact ⟨⟨⟨keeps_presentField fun _ _ => .text _, keeps_presentField fun _ _ => .text _⟩,
    keeps_presentField fun _ _ => .text _⟩, keeps_presentField fun _ _ => .text _⟩

theorem StorageClassDocument.toJson_keeps (c : StorageClassDocument) : codec.Keeps c.toJson := by
  apply Json.Codec.Keeps.record
  simp only [List.forall_mem_cons]
  exact ⟨.text _, keeps_list fun _ _ => .text _, List.forall_mem_nil _⟩

theorem FolderDocument.toJson_keeps (f : FolderDocument) : codec.Keeps f.toJson := by
  apply Json.Codec.Keeps.record
  simp only [List.forall_mem_cons]
  exact ⟨.text _, f.storage.toJson_keeps, List.forall_mem_nil _⟩

theorem Variable.toJson_keeps (v : Variable) : codec.Keeps v.toJson := by
  apply Json.Codec.Keeps.record
  simp only [List.forall_mem_cons]
  exact ⟨.text _, .text _, List.forall_mem_nil _⟩

theorem ExistingApplication.toJson_keeps (a : ExistingApplication) : codec.Keeps a.toJson := by
  apply Json.Codec.Keeps.record
  simp only [List.forall_mem_cons]
  exact ⟨.text _, .text _, List.forall_mem_nil _⟩

theorem ConfigurationEntry.toJson_keeps (e : ConfigurationEntry) : codec.Keeps e.toJson := by
  apply Json.Codec.Keeps.record
  simp only [List.forall_mem_cons]
  exact ⟨.text _, .text _, List.forall_mem_nil _⟩

theorem ConfigurationData.toJson_keeps (d : ConfigurationData) : codec.Keeps d.toJson := by
  apply Json.Codec.Keeps.record
  simp only [List.forall_mem_cons]
  exact ⟨keeps_list fun entry _ => entry.toJson_keeps, List.forall_mem_nil _⟩

theorem FormDocument.toJson_keeps {f : FormDocument}
    (naturals : ∀ n < UInt64.size, codec.KeepsNumber (.natural n))
    (h : codec.KeepsNumber (.real f.cores)) : codec.Keeps f.toJson := by
  have replicas : f.replicas.toNat < UInt64.size := Nat.lt_trans f.replicas.toNat_lt (by decide)
  have memory : f.memory.toNat < UInt64.size := f.memory.toNat_lt
  apply Json.Codec.Keeps.record
  simp only [List.forall_mem_cons]
  exact ⟨.text _, .text _, .text _, .number (naturals _ replicas), .number h,
    .number (naturals _ memory), keeps_list fun v _ => v.toJson_keeps,
    keeps_list fun folder _ => folder.toJson_keeps, keeps_list fun _ _ => .text _,
    List.forall_mem_nil _⟩

end

theorem Snapshot.Codec.toJson_keeps {codec : Codec} {s : Snapshot}
    (naturals : ∀ n < UInt64.size, codec.KeepsNumber (.natural n))
    (reals : ∀ x ∈ s.doubles, codec.KeepsNumber (.real x)) : codec.Keeps (codec.toJson s) := by
  have nodes : ∀ n ∈ s.nodes, codec.Keeps n.toJson := by
    intro n hn
    apply NodeListing.toJson_keeps
    apply reals
    simp only [doubles, List.mem_append, List.mem_map]
    exact Or.inl ⟨n, hn, rfl⟩
  have form : codec.Keeps s.form.toJson :=
    FormDocument.toJson_keeps naturals (reals _ (by simp [doubles]))
  have saved : ∀ f ∈ s.saved, codec.Keeps f.toJson := by
    intro f hf
    exact FormDocument.toJson_keeps naturals (reals _ (by simp [doubles, Option.mem_def.mp hf]))
  have existing : codec.Keeps (.list ExistingApplication.toJson s.existing) :=
    keeps_list fun a _ => a.toJson_keeps
  have none : codec.Keeps (.array []) := .array (List.forall_mem_nil _)
  show codec.Keeps (.record (codec.record s))
  apply Json.Codec.Keeps.record
  simp only [record, List.forall_mem_append, List.forall_mem_cons]
  refine ⟨⟨⟨⟨⟨⟨⟨?captured, keeps_list nodes, none, ?_⟩, ?quota⟩, form, ?_⟩,
    keeps_presentField saved⟩, ?editing⟩, existing, none, ?_⟩, ?configuration⟩
  case captured => exact keeps_presentField fun _ _ => .text _
  case quota => exact keeps_presentField fun q _ => q.toJson_keeps
  case editing => exact keeps_presentField fun _ _ => .text _
  case configuration => exact keeps_presentField fun d _ => d.toJson_keeps
  all_goals exact List.forall_mem_nil _

end Provision
