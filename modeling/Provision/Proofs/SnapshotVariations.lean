import Provision.Proofs.SnapshotEncoding

/-!
# What else says the same as a snapshot

A double may be written as a whole number, and one of a few names under another spelling, or as the
only field of an object.

- `Snapshot.Codec.readAlike`: two values that say the same in every field are the same snapshot, but for
  the Kubernetes objects, which only have to be readable in both.
-/

namespace Provision

open Json (Apart Record Value Slot SameRecord SameList ReadAlike BothRead)

/-! ## Names and doubles -/

/-- Names that are read as a mode. -/
def AccessMode.spellings : AccessMode → List String
  | .readWriteOnce => ["RWO", "ReadWriteOnce"]
  | .readOnlyMany => ["ROX", "ReadOnlyMany"]
  | .readWriteMany => ["RWX", "ReadWriteMany"]

def DeploymentType.spellings : DeploymentType → List String
  | .replicated => ["REPLICATED"]
  | .global => ["GLOBAL"]
  | .statefulSet => ["STATEFULSET", "STATEFUL_SET"]

def DataAccess.spellings (a : DataAccess) : List String := [a.name]

/-- A name as a text, or as the only field of an object with nothing in it. -/
def Names (name : String) (v : Value) : Prop := v = .text name ∨ v = .record [(name, .null)]

/-- Two values name the same thing. -/
def SameName {α : Type} (spellings : α → List String) (v w : Value) : Prop :=
  ∃ a, ∃ name ∈ spellings a, ∃ name' ∈ spellings a, Names name v ∧ Names name' w

theorem AccessMode.ofName?_spellings (m : AccessMode) :
    ∀ name ∈ m.spellings, ofName? name = some m := by
  cases m <;> decide

theorem DeploymentType.ofName?_spellings (t : DeploymentType) :
    ∀ name ∈ t.spellings, ofName? name = some t := by
  cases t <;> decide

theorem DataAccess.ofName?_spellings (a : DataAccess) :
    ∀ name ∈ a.spellings, ofName? name = some a := by
  cases a <;> decide

/-- Two values write the same double. -/
def SameDouble (v w : Value) : Prop := v.float? = w.float?

theorem readAlike_choice? {α : Type} {spellings : α → List String} {ofName? : String → Option α}
    (read : ∀ a, ∀ name ∈ spellings a, ofName? name = some a) :
    ReadAlike (SameName spellings) (Value.choice? ofName?) := by
  rintro v w ⟨a, name, hn, name', hn', first, second⟩
  have named : ∀ name ∈ spellings a, ∀ v, Names name v → v.choice? ofName? = some a := by
    intro name hn v given
    rcases given with rfl | rfl
    · exact read a name hn
    · exact read a name hn
  rw [named name hn v first, named name' hn' w second]

/-! ## Records -/

namespace NodeListing

def slots : List Slot := [
  { field := plainField "name", presence := .required },
  { field := ⟨"cpu", ["CPU"]⟩, presence := .required, alike := SameDouble },
  { field := ⟨"memory", ["Memory"]⟩, presence := .required }]

theorem readAlike : ReadAlike (SameRecord slots) ofJson? := by
  intro v w same
  obtain ⟨r, r', (hr : v.fields? fields = some r), (hr' : w.fields? fields = some r'), alike⟩ :=
    same.fields? (by decide)
  simp only [slots, List.forall_mem_cons] at alike
  obtain ⟨name, cores, memory, -⟩ := alike
  have hn : r.required "name" Value.text? = r'.required "name" Value.text? :=
    Json.required_same name .equal rfl
  have hc : r.required "cpu" Value.float? = r'.required "cpu" Value.float? :=
    Json.required_same cores (fun _ _ => id) rfl
  have hm : r.required "memory" Value.text? = r'.required "memory" Value.text? :=
    Json.required_same memory .equal rfl
  simp only [ofJson?, hr, hr', Option.bind_eq_bind, Option.bind_some, hn, hc, hm]

end NodeListing

namespace QuotaSummary

def slots : List Slot := [
  { field := plainField "cpu_limit", presence := .optional },
  { field := plainField "cpu_used", presence := .optional },
  { field := plainField "memory_limit", presence := .optional },
  { field := plainField "memory_used", presence := .optional }]

theorem readAlike : ReadAlike (SameRecord slots) ofJson? := by
  intro v w same
  obtain ⟨r, r', (hr : v.fields? fields = some r), (hr' : w.fields? fields = some r'), alike⟩ :=
    same.fields? (by decide)
  have texts : ∀ slot ∈ slots,
      r.optional slot.field.name Value.text? = r'.optional slot.field.name Value.text? := by
    intro slot member
    have plain : slot.presence = .optional ∧ slot.alike = Eq := by
      simp only [slots, List.mem_cons, List.not_mem_nil, or_false] at member
      rcases member with rfl | rfl | rfl | rfl <;> exact ⟨rfl, rfl⟩
    apply Json.optional_same (alike slot member) _ plain.1
    rw [plain.2]
    exact .equal
  simp only [slots, List.forall_mem_cons] at texts
  obtain ⟨cpuLimit, cpuUsed, memoryLimit, memoryUsed, -⟩ := texts
  simp only [ofJson?, hr, hr', Option.bind_eq_bind, Option.bind_some]
  simp only [plainField] at cpuLimit cpuUsed memoryLimit memoryUsed
  rw [cpuLimit, cpuUsed, memoryLimit, memoryUsed]

end QuotaSummary

namespace StorageClassDocument

def slots : List Slot := [
  { field := plainField "name", presence := .required },
  { field := plainField "access_modes", presence := .required
    alike := SameList (SameName AccessMode.spellings) }]

theorem readAlike : ReadAlike (SameRecord slots) ofJson? := by
  intro v w same
  obtain ⟨r, r', (hr : v.fields? fields = some r), (hr' : w.fields? fields = some r'), alike⟩ :=
    same.fields? (by decide)
  simp only [slots, List.forall_mem_cons] at alike
  obtain ⟨name, modes, -⟩ := alike
  have hn : r.required "name" Value.text? = r'.required "name" Value.text? :=
    Json.required_same name .equal rfl
  have hm : r.required "access_modes" (Value.list? (Value.choice? AccessMode.ofName?)) =
      r'.required "access_modes" (Value.list? (Value.choice? AccessMode.ofName?)) :=
    Json.required_same modes (ReadAlike.list? (readAlike_choice? AccessMode.ofName?_spellings)) rfl
  simp only [ofJson?, hr, hr', Option.bind_eq_bind, Option.bind_some, hn, hm]

end StorageClassDocument

namespace FolderDocument

def slots : List Slot := [
  { field := plainField "container_path", presence := .required },
  { field := plainField "storage_class", presence := .required
    alike := SameRecord StorageClassDocument.slots }]

theorem readAlike : ReadAlike (SameRecord slots) ofJson? := by
  intro v w same
  obtain ⟨r, r', (hr : v.fields? fields = some r), (hr' : w.fields? fields = some r'), alike⟩ :=
    same.fields? (by decide)
  simp only [slots, List.forall_mem_cons] at alike
  obtain ⟨path, storage, -⟩ := alike
  have hp : r.required "container_path" Value.text? = r'.required "container_path" Value.text? :=
    Json.required_same path .equal rfl
  have hs : r.required "storage_class" StorageClassDocument.ofJson? =
      r'.required "storage_class" StorageClassDocument.ofJson? :=
    Json.required_same storage StorageClassDocument.readAlike rfl
  simp only [ofJson?, hr, hr', Option.bind_eq_bind, Option.bind_some, hp, hs]

end FolderDocument

namespace Variable

def slots : List Slot := [
  { field := plainField "name", presence := .required },
  { field := plainField "value", presence := .defaulted (.text "") }]

theorem readAlike : ReadAlike (SameRecord slots) ofJson? := by
  intro v w same
  obtain ⟨r, r', (hr : v.fields? fields = some r), (hr' : w.fields? fields = some r'), alike⟩ :=
    same.fields? (by decide)
  simp only [slots, List.forall_mem_cons] at alike
  obtain ⟨name, value, -⟩ := alike
  have hn : r.required "name" Value.text? = r'.required "name" Value.text? :=
    Json.required_same name .equal rfl
  have hv : r.defaulted "value" Value.text? "" = r'.defaulted "value" Value.text? "" :=
    Json.defaulted_same value .equal rfl rfl
  simp only [ofJson?, hr, hr', Option.bind_eq_bind, Option.bind_some, hn, hv]

end Variable

namespace FormDocument

def slots : List Slot := [
  { field := plainField "name", presence := .defaulted (.text "") },
  { field := plainField "deployment_type", presence := .defaulted (.text "REPLICATED")
    alike := SameName DeploymentType.spellings },
  { field := plainField "data_access_policy", presence := .defaulted (.text "SHARED")
    alike := SameName DataAccess.spellings },
  { field := plainField "replicas", presence := .defaulted (.natural 1) },
  { field := plainField "cpu_limit", presence := .defaulted (.real 0), alike := SameDouble },
  { field := plainField "memory_limit_mb", presence := .defaulted (.natural 0) },
  { field := plainField "environment_variables", presence := .defaulted (.array [])
    alike := SameList (SameRecord Variable.slots) },
  { field := plainField "persisted_folders", presence := .defaulted (.array [])
    alike := SameList (SameRecord FolderDocument.slots) },
  { field := plainField "configurations", presence := .defaulted (.array []) }]

theorem readAlike : ReadAlike (SameRecord slots) ofJson? := by
  intro v w same
  obtain ⟨r, r', (hr : v.fields? fields = some r), (hr' : w.fields? fields = some r'), alike⟩ :=
    same.fields? (by decide)
  simp only [slots, List.forall_mem_cons] at alike
  obtain ⟨name, type, access, replicas, cores, memory, environment, folders, configurations, -⟩ :=
    alike
  have hn : r.defaulted "name" Value.text? "" = r'.defaulted "name" Value.text? "" :=
    Json.defaulted_same name .equal rfl rfl
  have ht : r.defaulted "deployment_type" (Value.choice? DeploymentType.ofName?) .replicated =
      r'.defaulted "deployment_type" (Value.choice? DeploymentType.ofName?) .replicated :=
    Json.defaulted_same type (readAlike_choice? DeploymentType.ofName?_spellings) rfl rfl
  have ha : r.defaulted "data_access_policy" (Value.choice? DataAccess.ofName?) .shared =
      r'.defaulted "data_access_policy" (Value.choice? DataAccess.ofName?) .shared :=
    Json.defaulted_same access (readAlike_choice? DataAccess.ofName?_spellings) rfl rfl
  have hs : r.defaulted "replicas" Value.smallCount? 1 =
      r'.defaulted "replicas" Value.smallCount? 1 :=
    Json.defaulted_same replicas .equal rfl rfl
  have hc : r.defaulted "cpu_limit" Value.float? 0 = r'.defaulted "cpu_limit" Value.float? 0 :=
    Json.defaulted_same cores (fun _ _ => id) rfl (Value.float?_real (by decide))
  have hm : r.defaulted "memory_limit_mb" Value.count? 0 =
      r'.defaulted "memory_limit_mb" Value.count? 0 :=
    Json.defaulted_same memory .equal rfl rfl
  have he : r.defaulted "environment_variables" (Value.list? Variable.ofJson?) [] =
      r'.defaulted "environment_variables" (Value.list? Variable.ofJson?) [] :=
    Json.defaulted_same environment (ReadAlike.list? Variable.readAlike) rfl rfl
  have hf : r.defaulted "persisted_folders" (Value.list? FolderDocument.ofJson?) [] =
      r'.defaulted "persisted_folders" (Value.list? FolderDocument.ofJson?) [] :=
    Json.defaulted_same folders (ReadAlike.list? FolderDocument.readAlike) rfl rfl
  have hl : r.defaulted "configurations" (Value.list? Value.text?) [] =
      r'.defaulted "configurations" (Value.list? Value.text?) [] :=
    Json.defaulted_same configurations .equal rfl rfl
  simp only [ofJson?, hr, hr', Option.bind_eq_bind, Option.bind_some, hn, ht, ha, hs, hc, hm, he,
    hf, hl]

end FormDocument

namespace ExistingApplication

def slots : List Slot := [
  { field := plainField "id", presence := .required },
  { field := plainField "name", presence := .required }]

theorem readAlike : ReadAlike (SameRecord slots) ofJson? := by
  intro v w same
  obtain ⟨r, r', (hr : v.fields? fields = some r), (hr' : w.fields? fields = some r'), alike⟩ :=
    same.fields? (by decide)
  simp only [slots, List.forall_mem_cons] at alike
  obtain ⟨id, name, -⟩ := alike
  have hi : r.required "id" Value.text? = r'.required "id" Value.text? :=
    Json.required_same id .equal rfl
  have hn : r.required "name" Value.text? = r'.required "name" Value.text? :=
    Json.required_same name .equal rfl
  simp only [ofJson?, hr, hr', Option.bind_eq_bind, Option.bind_some, hi, hn]

end ExistingApplication

namespace ConfigurationEntry

def slots : List Slot := [
  { field := plainField "key", presence := .required },
  { field := plainField "value", presence := .defaulted (.text "") }]

theorem readAlike : ReadAlike (SameRecord slots) ofJson? := by
  intro v w same
  obtain ⟨r, r', (hr : v.fields? fields = some r), (hr' : w.fields? fields = some r'), alike⟩ :=
    same.fields? (by decide)
  simp only [slots, List.forall_mem_cons] at alike
  obtain ⟨key, value, -⟩ := alike
  have hk : r.required "key" Value.text? = r'.required "key" Value.text? :=
    Json.required_same key .equal rfl
  have hv : r.defaulted "value" Value.text? "" = r'.defaulted "value" Value.text? "" :=
    Json.defaulted_same value .equal rfl rfl
  simp only [ofJson?, hr, hr', Option.bind_eq_bind, Option.bind_some, hk, hv]

end ConfigurationEntry

namespace ConfigurationData

def slots : List Slot := [
  { field := plainField "entries", presence := .required
    alike := SameList (SameRecord ConfigurationEntry.slots) }]

theorem readAlike : ReadAlike (SameRecord slots) ofJson? := by
  intro v w same
  obtain ⟨r, r', (hr : v.fields? fields = some r), (hr' : w.fields? fields = some r'), alike⟩ :=
    same.fields? (by decide)
  simp only [slots, List.forall_mem_cons] at alike
  obtain ⟨entries, -⟩ := alike
  have he : r.required "entries" (Value.list? ConfigurationEntry.ofJson?) =
      r'.required "entries" (Value.list? ConfigurationEntry.ofJson?) :=
    Json.required_same entries (ReadAlike.list? ConfigurationEntry.readAlike) rfl
  simp only [ofJson?, hr, hr', Option.bind_eq_bind, Option.bind_some, he]

end ConfigurationData

namespace Snapshot

/-- The Kubernetes objects may be any, since none of them is written. -/
def slots : List Slot := [
  { field := plainField "captured_at", presence := .optional },
  { field := plainField "nodes", presence := .defaulted (.array [])
    alike := SameList (SameRecord NodeListing.slots) },
  { field := plainField "k8s_nodes", presence := .defaulted (.array [])
    alike := BothRead (Value.list? (Kubernetes.Node.ofJson? itemRoom)) },
  { field := plainField "quota", presence := .optional, alike := SameRecord QuotaSummary.slots },
  { field := plainField "resource_quota", presence := .optional
    alike := BothRead (Kubernetes.ResourceQuota.ofJson? fieldRoom) },
  { field := plainField "form", presence := .defaulted FormDocument.empty.toJson
    alike := SameRecord FormDocument.slots },
  { field := plainField "saved", presence := .optional, alike := SameRecord FormDocument.slots },
  { field := plainField "editing_id", presence := .optional },
  { field := plainField "existing_applications", presence := .defaulted (.array [])
    alike := SameList (SameRecord ExistingApplication.slots) },
  { field := plainField "pods", presence := .defaulted (.array [])
    alike := BothRead (Value.list? (Kubernetes.Pod.ofJson? itemRoom)) },
  { field := plainField "configuration", presence := .optional
    alike := SameRecord ConfigurationData.slots }]

section
variable {α β γ : Type} {write : β → γ} {x y : Option α} {f g : α → Option β}

theorem map_bind_given {a b : α} (hx : x = some a) (hy : y = some b)
    (same : (f a).map write = (g b).map write) : (x.bind f).map write = (y.bind g).map write := by
  rw [hx, hy]
  exact same

theorem map_bind_alike (equal : x = y) (same : ∀ a, (f a).map write = (g a).map write) :
    (x.bind f).map write = (y.bind g).map write := by
  subst equal
  cases x with
  | none => rfl
  | some a => exact same a

theorem map_bind_bothPresent (both : x.isSome = y.isSome)
    (same : ∀ a b, (f a).map write = (g b).map write) :
    (x.bind f).map write = (y.bind g).map write := by
  cases x with
  | none =>
    cases y with
    | none => rfl
    | some b => cases both
  | some a =>
    cases y with
    | none => cases both
    | some b => exact same a b

end

theorem Codec.readAlike (codec : Codec) :
    ReadAlike (SameRecord slots) fun v => (codec.ofJson? v).map portable := by
  intro v w same
  obtain ⟨r, r', (hr : v.fields? fields = some r), (hr' : w.fields? fields = some r'), alike⟩ :=
    same.fields? (by decide)
  simp only [slots, List.forall_mem_cons] at alike
  obtain ⟨captured, nodes, kubernetes, quota, resource, form, saved, editing, existing, pods,
    configuration, -⟩ := alike
  have hc : r.optional "captured_at" (fun v => v.text?.bind codec.moment?) =
      r'.optional "captured_at" (fun v => v.text?.bind codec.moment?) :=
    Json.optional_same captured .equal rfl
  have hn : r.defaulted "nodes" (Value.list? NodeListing.ofJson?) [] =
      r'.defaulted "nodes" (Value.list? NodeListing.ofJson?) [] :=
    Json.defaulted_same nodes (ReadAlike.list? NodeListing.readAlike) rfl rfl
  have hq : r.optional "quota" QuotaSummary.ofJson? = r'.optional "quota" QuotaSummary.ofJson? :=
    Json.optional_same quota QuotaSummary.readAlike rfl
  have hf : r.defaulted "form" FormDocument.ofJson? .empty =
      r'.defaulted "form" FormDocument.ofJson? .empty :=
    Json.defaulted_same form FormDocument.readAlike rfl
      (FormDocument.ofJson?_toJson (by decide))
  have hs : r.optional "saved" FormDocument.ofJson? = r'.optional "saved" FormDocument.ofJson? :=
    Json.optional_same saved FormDocument.readAlike rfl
  have he : r.optional "editing_id" Value.text? = r'.optional "editing_id" Value.text? :=
    Json.optional_same editing .equal rfl
  have ha : r.defaulted "existing_applications" (Value.list? ExistingApplication.ofJson?) [] =
      r'.defaulted "existing_applications" (Value.list? ExistingApplication.ofJson?) [] :=
    Json.defaulted_same existing (ReadAlike.list? ExistingApplication.readAlike) rfl rfl
  have hd : r.optional "configuration" ConfigurationData.ofJson? =
      r'.optional "configuration" ConfigurationData.ofJson? :=
    Json.optional_same configuration ConfigurationData.readAlike rfl
  have hk : (r.defaulted "k8s_nodes" (Value.list? (Kubernetes.Node.ofJson? itemRoom)) []).isSome =
      (r'.defaulted "k8s_nodes" (Value.list? (Kubernetes.Node.ofJson? itemRoom)) []).isSome :=
    Json.defaulted_bothRead kubernetes rfl rfl rfl
  have hl : (r.optional "resource_quota" (Kubernetes.ResourceQuota.ofJson? fieldRoom)).isSome =
      (r'.optional "resource_quota" (Kubernetes.ResourceQuota.ofJson? fieldRoom)).isSome :=
    Json.optional_bothRead resource rfl rfl
  have hp : (r.defaulted "pods" (Value.list? (Kubernetes.Pod.ofJson? itemRoom)) []).isSome =
      (r'.defaulted "pods" (Value.list? (Kubernetes.Pod.ofJson? itemRoom)) []).isSome :=
    Json.defaulted_bothRead pods rfl rfl rfl
  unfold Codec.ofJson?
  refine map_bind_given hr hr' ?_
  refine map_bind_alike hc fun capturedAt => ?_
  refine map_bind_alike hn fun nodes => ?_
  refine map_bind_bothPresent hk fun _ _ => ?_
  refine map_bind_alike hq fun quota => ?_
  refine map_bind_bothPresent hl fun _ _ => ?_
  refine map_bind_alike hf fun form => ?_
  refine map_bind_alike hs fun saved => ?_
  refine map_bind_alike he fun editing => ?_
  refine map_bind_alike ha fun existing => ?_
  refine map_bind_bothPresent hp fun _ _ => ?_
  exact map_bind_alike hd fun configuration => rfl

end Snapshot

end Provision
