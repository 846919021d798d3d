import Mathlib
import Provision.Command.Run

/-!
# What a report does not depend on

Each report reads a part of a snapshot. What it does not read may be anything, also what would be
refused, and neither its answer nor a line that is printed changes.

- `SameNodes`, `SameQuota`: a listing hides the Kubernetes nodes, and a quota of texts hides the
  Kubernetes quota.
- `Report.told_compatibility` and its kin: what each report is made of.
- `Command.Alike.of_told`: what is told of a snapshot decides how a run on it ends.
- `reports_ignore`: so each report ignores the rest of the snapshot.
-/

namespace Provision

/-! ## What is hidden -/

/-- The nodes that are used agree: those of the listing, and where there is none, those of the
cluster. -/
structure SameNodes (s t : Snapshot) : Prop where
  listing : s.nodes = t.nodes
  kubernetes : s.nodes = [] → s.kubernetesNodes = t.kubernetesNodes

/-- The quota that is used agrees: the one of texts, and where there is none, that of the
cluster. -/
structure SameQuota (s t : Snapshot) : Prop where
  texts : s.quota = t.quota
  kubernetes : s.quota = none → s.resourceQuota = t.resourceQuota

namespace Snapshot

variable {s t : Snapshot}

theorem nodeListings_congr (same : SameNodes s t) : s.nodeListings = t.nodeListings := by
  by_cases none : s.nodes = []
  · unfold nodeListings
    rw [same.kubernetes none, same.listing]
  · have listed : t.nodes ≠ [] := same.listing ▸ none
    rw [nodeListings_eq_nodes none, nodeListings_eq_nodes listed, same.listing]

theorem nodeCapacities_congr (same : SameNodes s t) : s.nodeCapacities = t.nodeCapacities := by
  unfold nodeCapacities
  rw [nodeListings_congr same]

theorem namespaceQuota_congr (same : SameQuota s t) : s.namespaceQuota = t.namespaceQuota := by
  unfold namespaceQuota
  rw [← same.texts]
  cases given : s.quota with
  | none => rw [same.kubernetes given]
  | some texts => rfl

theorem applicationForm_congr (form : s.form = t.form) : s.applicationForm = t.applicationForm := by
  unfold applicationForm
  rw [form]

theorem savedForm_congr (saved : s.saved = t.saved) : s.savedForm = t.savedForm := by
  unfold savedForm
  rw [saved]

theorem savedReservation_congr (saved : s.saved = t.saved) :
    s.savedReservation = t.savedReservation := by
  unfold savedReservation
  rw [savedForm_congr saved]

end Snapshot

/-! ## What is told of a snapshot -/

/-- A failure, or the answer of the report and what is printed. -/
def Report.told (policy : Policy) (layout : Layout) (colour : Bool) (topic : Topic) (s : Snapshot) :
    Except Failure (Option Bool × Printed) :=
  (ofSnapshot policy s topic).map fun report => (report.allowed?, report.print colour layout)

/-- The reservation of the cluster, without the time at which it was seen. -/
def ClusterReport.reserved (s : Snapshot) : Except Failure ClusterReservation := do
  let nodes ← s.nodeCapacities
  inPart .podRequest (ClusterReservation.compute nodes s.pods)

theorem ClusterReport.ofSnapshot_eq (s : Snapshot) :
    ofSnapshot s = (reserved s).map fun reservation => ⟨reservation, s.capturedAt⟩ := by
  unfold ofSnapshot reserved
  cases s.nodeCapacities with
  | error failure => rfl
  | ok nodes => rfl

namespace Report

variable {policy : Policy} {layout : Layout} {colour : Bool} {s t : Snapshot}

theorem told_of_ofSnapshot {topic : Topic}
    (same : ofSnapshot policy s topic = ofSnapshot policy t topic) :
    told policy layout colour topic s = told policy layout colour topic t := by
  unfold told
  rw [same]

theorem told_compatibility (form : s.form = t.form) (edit : s.isEdit = t.isEdit) :
    told policy layout colour .compatibility s = told policy layout colour .compatibility t := by
  apply told_of_ofSnapshot
  unfold ofSnapshot CompatibilityReport.ofSnapshot
  rw [Snapshot.applicationForm_congr form, edit]

/-- The time at which the cluster was seen stands in the table only. -/
theorem told_cluster (nodes : SameNodes s t) (pods : s.pods = t.pods)
    (seen : layout = .table → s.capturedAt = t.capturedAt) :
    told policy layout colour .cluster s = told policy layout colour .cluster t := by
  have reserved : ClusterReport.reserved s = ClusterReport.reserved t := by
    unfold ClusterReport.reserved
    rw [Snapshot.nodeCapacities_congr nodes, pods]
  unfold told ofSnapshot
  rw [ClusterReport.ofSnapshot_eq, ClusterReport.ofSnapshot_eq, reserved]
  cases ClusterReport.reserved t with
  | error failure => rfl
  | ok reservation =>
    cases layout with
    | json => rfl
    | table => rw [seen rfl]

theorem told_headroom (nodes : SameNodes s t) (quota : SameQuota s t) (form : s.form = t.form)
    (saved : s.saved = t.saved) :
    told policy layout colour .headroom s = told policy layout colour .headroom t := by
  apply told_of_ofSnapshot
  unfold ofSnapshot HeadroomReport.ofSnapshot HeadroomReport.observation
  rw [Snapshot.nodeListings_congr nodes, Snapshot.namespaceQuota_congr quota,
    Snapshot.savedReservation_congr saved, Snapshot.applicationForm_congr form]

theorem told_validation (nodes : SameNodes s t) (quota : SameQuota s t) (form : s.form = t.form)
    (saved : s.saved = t.saved) (existing : s.existing = t.existing)
    (editing : s.editing = t.editing) (configuration : s.configuration = t.configuration) :
    told policy layout colour .validation s = told policy layout colour .validation t := by
  apply told_of_ofSnapshot
  have headroom : ValidationReport.headroom policy s = ValidationReport.headroom policy t := by
    unfold ValidationReport.headroom
    rw [Snapshot.nodeCapacities_congr nodes, Snapshot.namespaceQuota_congr quota,
      Snapshot.savedReservation_congr saved]
  unfold ofSnapshot ValidationReport.ofSnapshot
  rw [Snapshot.applicationForm_congr form, Snapshot.savedForm_congr saved, headroom, existing,
    editing, configuration]

end Report

/-! ## Runs -/

namespace Command

/-- How a run ends by what is told of its snapshot. -/
def Outcome.ofTold : Except Failure (Option Bool × Printed) → Outcome
  | .ok (answer, printed) => { code := if answer = some false then 1 else 0, printed }
  | .error failure => .refused (.failure failure)

theorem reportOn_eq (topic : Topic) (options : Options) (settings : Settings) (colour : Bool)
    (s : Snapshot) : reportOn topic options settings colour (.ok s) = .ofTold
      (Report.told settings.policy (options.layout.getD .table) colour topic s) := by
  unfold reportOn Report.told
  simp only [bind, Except.bind]
  cases Report.ofSnapshot settings.policy s topic with
  | error failure => rfl
  | ok report => rfl

/-- Two snapshots are the same to a command: the answer or the failure, what is printed, and so the
end of a run that has loaded either, log records aside. -/
structure Alike (policy : Policy) (layout : Layout) (colour : Bool) (topic : Topic)
    (s t : Snapshot) : Prop where
  told : Report.told policy layout colour topic s = Report.told policy layout colour topic t
  ends (options : Options) (settings : Settings) (under : settings.policy = policy)
    (laidOut : options.layout.getD .table = layout) :
    reportOn topic options settings colour (.ok s) = reportOn topic options settings colour (.ok t)

theorem Alike.of_told {policy : Policy} {layout : Layout} {colour : Bool} {topic : Topic}
    {s t : Snapshot}
    (told : Report.told policy layout colour topic s = Report.told policy layout colour topic t) :
    Alike policy layout colour topic s t := by
  refine ⟨told, ?_⟩
  intro options settings under laidOut
  rw [reportOn_eq, reportOn_eq, under, laidOut, told]

end Command

open Command (Alike)

/-- What the commands ignore of a snapshot. -/
structure Ignores (policy : Policy) (layout : Layout) (colour : Bool) : Prop where
  kubernetesNodes (topic : Topic) (s : Snapshot) (listed : s.nodes ≠ [])
    (nodes : List Kubernetes.Node) :
    Alike policy layout colour topic s { s with kubernetesNodes := nodes }
  resourceQuota (topic : Topic) (s : Snapshot) (given : s.quota ≠ none)
    (quota : Option Kubernetes.ResourceQuota) :
    Alike policy layout colour topic s { s with resourceQuota := quota }
  compatibility {s t : Snapshot} (form : s.form = t.form)
    (saved : s.saved.isSome = t.saved.isSome) : Alike policy layout colour .compatibility s t
  cluster {s t : Snapshot} (nodes : s.nodes = t.nodes)
    (kubernetesNodes : s.kubernetesNodes = t.kubernetesNodes) (pods : s.pods = t.pods)
    (capturedAt : layout = .table → s.capturedAt = t.capturedAt) :
    Alike policy layout colour .cluster s t
  headroom (s : Snapshot) (editing : Option String) (existing : List ExistingApplication)
    (pods : List Kubernetes.Pod) (configuration : Option ConfigurationData)
    (capturedAt : Option Timestamp) : Alike policy layout colour .headroom s
      { s with editing, existing, pods, configuration, capturedAt }
  validation (s : Snapshot) (pods : List Kubernetes.Pod) (capturedAt : Option Timestamp) :
    Alike policy layout colour .validation s { s with pods, capturedAt }

/-- **A report ignores what it does not read**, whatever it is, in either layout, and whether there
is a report or a failure. -/
theorem reports_ignore (policy : Policy) (layout : Layout) (colour : Bool) :
    Ignores policy layout colour := by
  refine ⟨?_, ?_, ?_, ?_, ?_, ?_⟩
  · intro topic s listed nodes
    have same : SameNodes s { s with kubernetesNodes := nodes } :=
      ⟨rfl, fun none => absurd none listed⟩
    apply Alike.of_told
    cases topic with
    | headroom => exact Report.told_headroom same ⟨rfl, fun _ => rfl⟩ rfl rfl
    | compatibility => exact Report.told_compatibility rfl rfl
    | validation => exact Report.told_validation same ⟨rfl, fun _ => rfl⟩ rfl rfl rfl rfl rfl
    | cluster => exact Report.told_cluster same rfl fun _ => rfl
  · intro topic s given quota
    have same : SameQuota s { s with resourceQuota := quota } :=
      ⟨rfl, fun none => absurd none given⟩
    apply Alike.of_told
    cases topic with
    | headroom => exact Report.told_headroom ⟨rfl, fun _ => rfl⟩ same rfl rfl
    | compatibility => exact Report.told_compatibility rfl rfl
    | validation => exact Report.told_validation ⟨rfl, fun _ => rfl⟩ same rfl rfl rfl rfl rfl
    | cluster => exact Report.told_cluster ⟨rfl, fun _ => rfl⟩ rfl fun _ => rfl
  · intro s t form saved
    exact .of_told (Report.told_compatibility form saved)
  · intro s t nodes kubernetesNodes pods capturedAt
    have same : SameNodes s t := ⟨nodes, fun _ => kubernetesNodes⟩
    exact .of_told (Report.told_cluster same pods capturedAt)
  · intro s editing existing pods configuration capturedAt
    apply Alike.of_told
    exact Report.told_headroom ⟨rfl, fun _ => rfl⟩ ⟨rfl, fun _ => rfl⟩ rfl rfl
  · intro s pods capturedAt
    apply Alike.of_told
    exact Report.told_validation ⟨rfl, fun _ => rfl⟩ ⟨rfl, fun _ => rfl⟩ rfl rfl rfl rfl rfl

end Provision
