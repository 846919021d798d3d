import Provision.Proofs.DoubleOrder
import Provision.Snapshot.Document

/-!
# The two ways to write a quota

A quota stands in a snapshot as texts of its own or as a Kubernetes quota. Either way up to four
texts are read, each format in an order of its own, and the quota is built from what they mean.

- `toQuota_eq`, `Carries.ofResourceQuota_eq`: a format fails with what is wrong with the first
  malformed text in its order; without one it builds the quota of what the texts mean.
- `firstProblem?_only`: one malformed text alone is the first one in every order.
- `quota_formats_agree`: so both fail or both give one quota, in which a limit of zero is none.
-/

namespace Provision

open Number (lt_iff_compare beq_iff_compare)
open Quantity (isCoreCount)

/-! ## Texts of a quota -/

/-- An amount that a quota may state. -/
inductive QuotaField where
  | cpuLimit
  | cpuUsed
  | memoryLimit
  | memoryUsed
  deriving DecidableEq

/-- What a reading fails with. -/
def fault? : Except Fault α → Option Fault
  | .ok _ => none
  | .error fault => some fault

theorem fault?_eq_some_iff {read : Except Fault α} {fault : Fault} :
    fault? read = some fault ↔ read = .error fault := by
  cases read <;> simp [fault?]

theorem fault?_eq_none_iff {read : Except Fault α} : fault? read = none ↔ ∃ a, read = .ok a := by
  cases read <;> simp [fault?]

namespace QuotaField

def part : QuotaField → Part
  | cpuLimit => .cpuLimit
  | cpuUsed => .cpuUsed
  | memoryLimit => .memoryLimit
  | memoryUsed => .memoryUsed

/-- What is wrong with a text that stands for the amount. -/
def problem? (text : String) : QuotaField → Option Fault
  | cpuLimit | cpuUsed => fault? (parseCpu text)
  | memoryLimit | memoryUsed => fault? (parseMemory text)

/-- The order in which a quota of texts is read. -/
def textOrder : List QuotaField := [cpuLimit, cpuUsed, memoryLimit, memoryUsed]

/-- The order in which a Kubernetes quota is read. -/
def resourceOrder : List QuotaField := [cpuLimit, memoryLimit, cpuUsed, memoryUsed]

theorem mem_textOrder (field : QuotaField) : field ∈ textOrder := by cases field <;> decide

theorem mem_resourceOrder (field : QuotaField) : field ∈ resourceOrder := by cases field <;> decide

/-- A malformed text is named as it was given. -/
theorem problem?_quantity {field : QuotaField} {text : String} {fault : Fault}
    (h : field.problem? text = some fault) : ∃ reason, fault = .quantity text reason := by
  cases field <;> rw [problem?, fault?_eq_some_iff] at h
  case cpuLimit | cpuUsed =>
    obtain ⟨reason, named, -⟩ := parseCpu_error_iff.mp h
    exact ⟨reason, named⟩
  case memoryLimit | memoryUsed =>
    obtain ⟨reason, named, -⟩ := parseMemory_error_iff.mp h
    exact ⟨reason, named⟩

end QuotaField

namespace QuotaSummary

def text? (s : QuotaSummary) : QuotaField → Option String
  | .cpuLimit => s.cpuLimit
  | .cpuUsed => s.cpuUsed
  | .memoryLimit => s.memoryLimit
  | .memoryUsed => s.memoryUsed

/-- What is wrong with the text of an amount, if one is given and malformed. -/
def problem? (s : QuotaSummary) (field : QuotaField) : Option Fault :=
  (s.text? field).bind field.problem?

/-- The first malformed text in an order, with what is wrong with it. -/
def firstProblem? (s : QuotaSummary) (order : List QuotaField) : Option (QuotaField × Fault) :=
  order.findSome? fun field => (s.problem? field).map (field, ·)

def cores? (text : Option String) : Option Float := text.bind fun text => (parseCpu text).toOption

def bytes? (text : Option String) : Option UInt64 :=
  text.bind fun text => (parseMemory text).toOption

/-- The quota that is built from the texts that read. -/
def built (s : QuotaSummary) : Except Fault NamespaceQuota :=
  NamespaceQuota.of (cores? s.cpuLimit) ((cores? s.cpuUsed).getD 0) (bytes? s.memoryLimit)
    ((bytes? s.memoryUsed).getD 0)

end QuotaSummary

/-! ## Reading the texts -/

/-- An amount, unless there is a problem with it. -/
def checked (problem : Option Fault) (amount : α) : Except Fault α :=
  match problem with
  | some fault => .error fault
  | none => .ok amount

theorem NamespaceQuota.optional_eq (read : String → Except Fault α) (text : Option String) :
    optional read text = checked (text.bind fun text => fault? (read text))
      (text.bind fun text => (read text).toOption) := by
  cases text with
  | none => rfl
  | some text =>
    rw [optional, Option.bind_some, Option.bind_some]
    cases read text <;> rfl

/-- A Kubernetes quota that gives the texts of a summary as its limits, whatever else it gives. -/
structure Carries (quota : Kubernetes.ResourceQuota) (s : QuotaSummary) : Prop where
  cpuLimit : (quota.status.bind (·.hard)).bind (·.get? "limits.cpu") = s.cpuLimit
  cpuUsed : (quota.status.bind (·.used)).bind (·.get? "limits.cpu") = s.cpuUsed
  memoryLimit : (quota.status.bind (·.hard)).bind (·.get? "limits.memory") = s.memoryLimit
  memoryUsed : (quota.status.bind (·.used)).bind (·.get? "limits.memory") = s.memoryUsed

open QuotaSummary (cores? bytes?)

theorem QuotaSummary.toQuota_eq (s : QuotaSummary) :
    s.toQuota = match s.firstProblem? QuotaField.textOrder with
      | some (field, fault) => .error ⟨field.part, fault⟩
      | none => inPart .quota s.built := by
  have reads : s.toQuota = (do
      let cpuLimit ← inPart .cpuLimit (checked (s.problem? .cpuLimit) (cores? s.cpuLimit))
      let cpuUsed ← inPart .cpuUsed (checked (s.problem? .cpuUsed) (cores? s.cpuUsed))
      let memoryLimit ←
        inPart .memoryLimit (checked (s.problem? .memoryLimit) (bytes? s.memoryLimit))
      let memoryUsed ← inPart .memoryUsed (checked (s.problem? .memoryUsed) (bytes? s.memoryUsed))
      inPart .quota (NamespaceQuota.of cpuLimit (cpuUsed.getD 0) memoryLimit
        (memoryUsed.getD 0))) := by
    simp only [toQuota, NamespaceQuota.optional_eq]
    rfl
  simp only [reads, firstProblem?, QuotaField.textOrder, List.findSome?_cons, List.findSome?_nil]
  cases s.problem? .cpuLimit with
  | some fault => rfl
  | none =>
    cases s.problem? .cpuUsed with
    | some fault => rfl
    | none =>
      cases s.problem? .memoryLimit with
      | some fault => rfl
      | none => cases s.problem? .memoryUsed <;> rfl

theorem Carries.ofResourceQuota_eq {quota : Kubernetes.ResourceQuota} {s : QuotaSummary}
    (h : Carries quota s) :
    NamespaceQuota.ofResourceQuota quota = match s.firstProblem? QuotaField.resourceOrder with
      | some (_, fault) => .error fault
      | none => s.built := by
  have reads : NamespaceQuota.ofResourceQuota quota = (do
      let cpuLimit ← checked (s.problem? .cpuLimit) (cores? s.cpuLimit)
      let memoryLimit ← checked (s.problem? .memoryLimit) (bytes? s.memoryLimit)
      let cpuUsed ← checked (s.problem? .cpuUsed) (cores? s.cpuUsed)
      let memoryUsed ← checked (s.problem? .memoryUsed) (bytes? s.memoryUsed)
      NamespaceQuota.of cpuLimit (cpuUsed.getD 0) memoryLimit (memoryUsed.getD 0)) := by
    simp only [NamespaceQuota.ofResourceQuota, h.cpuLimit, h.cpuUsed, h.memoryLimit, h.memoryUsed,
      NamespaceQuota.optional_eq]
    rfl
  simp only [reads, QuotaSummary.firstProblem?, QuotaField.resourceOrder, List.findSome?_cons,
    List.findSome?_nil]
  cases s.problem? .cpuLimit with
  | some fault => rfl
  | none =>
    cases s.problem? .memoryLimit with
    | some fault => rfl
    | none =>
      cases s.problem? .cpuUsed with
      | some fault => rfl
      | none => cases s.problem? .memoryUsed <;> rfl

/-! ## Zero is no limit -/

/-- A core count that is not above zero is a zero, of either sign. -/
theorem isCoreCount_not_pos_iff {cores : Float} (h : isCoreCount cores = true) :
    ¬ 0 < cores ↔ (0 == cores) = true := by
  have least : 0 ≤ cores := of_decide_eq_true (Bool.and_eq_true_iff.mp h).2
  have above : ((0 : Float).toModel.unpack.compare cores.toModel.unpack).any (·.isLE) = true :=
    of_decide_eq_true least
  rw [lt_iff_compare, beq_iff_compare]
  cases compared : (0 : Float).toModel.unpack.compare cores.toModel.unpack with
  | none => simp [compared] at above
  | some order =>
    rw [compared] at above
    cases order
    case lt | eq => decide
    case gt => cases above

/-! ## First problems -/

namespace QuotaSummary

variable {s : QuotaSummary} {order : List QuotaField}

theorem firstProblem?_some {field : QuotaField} {fault : Fault}
    (h : s.firstProblem? order = some (field, fault)) : s.problem? field = some fault := by
  obtain ⟨other, -, first⟩ := List.exists_of_findSome?_eq_some h
  obtain ⟨_, problem, same⟩ := Option.map_eq_some_iff.mp first
  cases same
  exact problem

theorem firstProblem?_none (complete : ∀ field, field ∈ order) :
    s.firstProblem? order = none ↔ ∀ field, s.problem? field = none := by
  simp only [firstProblem?, List.findSome?_eq_none_iff, Option.map_eq_none_iff]
  exact ⟨fun h field => h field (complete field), fun h field _ => h field⟩

/-- A problem that is the only one is the first one, in whatever order. -/
theorem firstProblem?_only (complete : ∀ field, field ∈ order) {field : QuotaField} {fault : Fault}
    (problem : s.problem? field = some fault)
    (only : ∀ other, s.problem? other ≠ none → other = field) :
    s.firstProblem? order = some (field, fault) := by
  cases h : s.firstProblem? order with
  | none => simp [(firstProblem?_none complete).mp h field] at problem
  | some first =>
    have found := firstProblem?_some h
    obtain rfl : first.1 = field := only first.1 (by simp [found])
    rw [found] at problem
    cases problem
    rfl

end QuotaSummary

/-! ## What is built -/

theorem QuotaSummary.toQuota_ok_iff {s : QuotaSummary} {q : NamespaceQuota} :
    s.toQuota = .ok q ↔ (∀ field, s.problem? field = none) ∧ s.built = .ok q := by
  rw [toQuota_eq, ← firstProblem?_none QuotaField.mem_textOrder]
  cases s.firstProblem? QuotaField.textOrder with
  | none => simp [inPart_ok_iff]
  | some first => simp

theorem Carries.ofResourceQuota_ok_iff {quota : Kubernetes.ResourceQuota} {s : QuotaSummary}
    (h : Carries quota s) {q : NamespaceQuota} :
    NamespaceQuota.ofResourceQuota quota = .ok q ↔
      (∀ field, s.problem? field = none) ∧ s.built = .ok q := by
  rw [h.ofResourceQuota_eq, ← QuotaSummary.firstProblem?_none QuotaField.mem_resourceOrder]
  cases s.firstProblem? QuotaField.resourceOrder with
  | none => simp
  | some first => simp

theorem QuotaSummary.no_cpuLimit_iff {s : QuotaSummary} {q : NamespaceQuota}
    (h : s.toQuota = .ok q) : q.cpuLimit = none ↔
      ∀ text, s.cpuLimit = some text → ∃ zero, parseCpu text = .ok zero ∧ (0 == zero) = true := by
  obtain ⟨sound, built⟩ := toQuota_ok_iff.mp h
  rw [(NamespaceQuota.of_ok built).1]
  cases given : s.cpuLimit with
  | none => simp [cores?]
  | some text =>
    have problem := sound .cpuLimit
    rw [problem?, text?, given] at problem
    obtain ⟨cores, read⟩ := fault?_eq_none_iff.mp problem
    have limit : cores? (some text) = some cores := by rw [cores?, Option.bind_some, read]; rfl
    rw [QuotaSummary.built, given, limit] at built
    have valid := NamespaceQuota.isCoreCount_of_ok built
    simp [limit, read, isCoreCount_not_pos_iff valid]

theorem QuotaSummary.no_memoryLimit_iff {s : QuotaSummary} {q : NamespaceQuota}
    (h : s.toQuota = .ok q) : q.memoryLimit = none ↔
      ∀ text, s.memoryLimit = some text → parseMemory text = .ok 0 := by
  obtain ⟨sound, built⟩ := toQuota_ok_iff.mp h
  rw [(NamespaceQuota.of_ok built).2.2.1]
  cases given : s.memoryLimit with
  | none => simp [bytes?]
  | some text =>
    have problem := sound .memoryLimit
    rw [problem?, text?, given] at problem
    obtain ⟨bytes, read⟩ := fault?_eq_none_iff.mp problem
    have limit : bytes? (some text) = some bytes := by rw [bytes?, Option.bind_some, read]; rfl
    simp [limit, read]

/-! ## Both formats -/

/-- What holds of a summary and of a Kubernetes quota that carries it. -/
structure FormatsAgree (quota : Kubernetes.ResourceQuota) (s : QuotaSummary) : Prop where
  /-- Both give one quota, or both fail. -/
  same : (∃ q, s.toQuota = .ok q ∧ NamespaceQuota.ofResourceQuota quota = .ok q) ∨
    ∃ failure fault, s.toQuota = .error failure ∧
      NamespaceQuota.ofResourceQuota quota = .error fault
  /-- A text is malformed, or the values of those that read are refused. -/
  fails_iff : (∃ failure, s.toQuota = .error failure) ↔
    (∃ field fault, s.problem? field = some fault) ∨ ∃ fault, s.built = .error fault
  /-- A malformed text that is the only one is the cause in both. -/
  cause {field : QuotaField} {fault : Fault} (problem : s.problem? field = some fault)
    (only : ∀ other, s.problem? other ≠ none → other = field) :
    (∃ text reason, s.text? field = some text ∧ fault = .quantity text reason) ∧
      s.toQuota = .error ⟨field.part, fault⟩ ∧
      NamespaceQuota.ofResourceQuota quota = .error fault
  /-- No limit on cores is one that is missing or zero. -/
  no_cpuLimit {q : NamespaceQuota} (done : s.toQuota = .ok q) : q.cpuLimit = none ↔
    ∀ text, s.cpuLimit = some text → ∃ zero, parseCpu text = .ok zero ∧ (0 == zero) = true
  no_memoryLimit {q : NamespaceQuota} (done : s.toQuota = .ok q) : q.memoryLimit = none ↔
    ∀ text, s.memoryLimit = some text → parseMemory text = .ok 0

/-- **The two formats mean the same.** They read four texts each in an order of its own, so they
differ at most in which of several malformed texts they name. -/
theorem quota_formats_agree {quota : Kubernetes.ResourceQuota} {s : QuotaSummary}
    (carries : Carries quota s) : FormatsAgree quota s := by
  have ok_iff (q : NamespaceQuota) :
      s.toQuota = .ok q ↔ NamespaceQuota.ofResourceQuota quota = .ok q :=
    QuotaSummary.toQuota_ok_iff.trans carries.ofResourceQuota_ok_iff.symm
  refine ⟨?_, ?_, ?_, QuotaSummary.no_cpuLimit_iff, QuotaSummary.no_memoryLimit_iff⟩
  · cases texts : s.toQuota with
    | ok q => exact Or.inl ⟨q, rfl, (ok_iff q).mp texts⟩
    | error failure =>
      cases resources : NamespaceQuota.ofResourceQuota quota with
      | ok q => simp [(ok_iff q).mpr resources] at texts
      | error fault => exact Or.inr ⟨failure, fault, rfl, rfl⟩
  · have refused : (∃ failure, s.toQuota = .error failure) ↔ ¬ ∃ q, s.toQuota = .ok q := by
      cases s.toQuota <;> simp
    have unbuilt : (∃ fault, s.built = .error fault) ↔ ¬ ∃ q, s.built = .ok q := by
      cases s.built <;> simp
    simp only [refused, unbuilt, QuotaSummary.toQuota_ok_iff, exists_and_left, not_and_or,
      not_forall, ← ne_eq, Option.ne_none_iff_exists']
  · intro field fault problem only
    obtain ⟨text, given, malformed⟩ := Option.bind_eq_some_iff.mp problem
    obtain ⟨reason, named⟩ := QuotaField.problem?_quantity malformed
    refine ⟨⟨text, reason, given, named⟩, ?_, ?_⟩
    · rw [QuotaSummary.toQuota_eq,
        QuotaSummary.firstProblem?_only QuotaField.mem_textOrder problem only]
    · rw [carries.ofResourceQuota_eq,
        QuotaSummary.firstProblem?_only QuotaField.mem_resourceOrder problem only]

/-- Zero limits in three spellings, next to entries of no concern. -/
theorem quota_formats_agree_zero :
    let s : QuotaSummary := ⟨some "0m", some "0.0", some "500m", none⟩
    let quota : Kubernetes.ResourceQuota := ⟨some ⟨
      some [("pods", "10"), ("limits.memory", "500m"), ("requests.cpu", "x"), ("limits.cpu", "0m")],
      some [("limits.cpu", "0.0")]⟩⟩
    FormatsAgree quota s ∧ ∃ q, s.toQuota = .ok q ∧ NamespaceQuota.ofResourceQuota quota = .ok q ∧
      q.cpuLimit = none ∧ q.memoryLimit = none := by
  intro s quota
  have agree : FormatsAgree quota s := quota_formats_agree ⟨rfl, rfl, rfl, rfl⟩
  rcases agree.same with ⟨q, texts, resources⟩ | ⟨failure, _, texts, _⟩
  · have cores : q.cpuLimit = none := by
      refine (agree.no_cpuLimit texts).mpr fun text given => ?_
      cases given
      exact ⟨0, by decide +kernel, by decide +kernel⟩
    have memory : q.memoryLimit = none := by
      refine (agree.no_memoryLimit texts).mpr fun text given => ?_
      cases given
      decide +kernel
    exact ⟨agree, q, texts, resources, cores, memory⟩
  · have done : s.toQuota.isOk = true := by decide +kernel
    rw [texts] at done
    cases done

end Provision
