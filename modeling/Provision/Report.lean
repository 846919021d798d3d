import Provision.Report.Cluster
import Provision.Report.Compatibility
import Provision.Report.Validation

/-!
# Reports on a snapshot

- `print_json`: a document has no colour.
-/

namespace Provision

inductive Topic where
  | headroom
  | compatibility
  | validation
  | cluster
  deriving DecidableEq, Repr

namespace Topic

def name : Topic → String
  | .headroom => "headroom"
  | .compatibility => "compat"
  | .validation => "validate"
  | .cluster => "cluster"

def all : List Topic := [.headroom, .compatibility, .validation, .cluster]

def ofName? (name : String) : Option Topic := all.find? (·.name = name)

end Topic

inductive Layout where
  | table
  | json
  deriving DecidableEq, Repr

namespace Layout

def ofName? : String → Option Layout
  | "table" => some .table
  | "json" => some .json
  | _ => none

end Layout

inductive Report where
  | headroom (report : HeadroomReport)
  | compatibility (report : CompatibilityReport)
  | validation (report : ValidationReport)
  | cluster (report : ClusterReport)

namespace Report

def ofSnapshot (policy : Policy) (s : Snapshot) : Topic → Except Failure Report
  | .headroom => (HeadroomReport.ofSnapshot policy s).map .headroom
  | .compatibility => (CompatibilityReport.ofSnapshot s).map .compatibility
  | .validation => (ValidationReport.ofSnapshot policy s).map .validation
  | .cluster => (ClusterReport.ofSnapshot s).map .cluster

def toJson : Report → Json.Value
  | headroom r => r.toJson
  | compatibility r => r.toJson
  | validation r => r.toJson
  | cluster r => r.toJson

def printTable (colour : Bool) : Report → Printed
  | headroom r => r.print colour
  | compatibility r => r.print colour
  | validation r => r.print colour
  | cluster r => r.print colour

def print (r : Report) (colour : Bool) : Layout → Printed
  | .table => r.printTable colour
  | .json => .line r.toJson.pretty

/-- Whether the action is allowed, for the report that decides it. -/
def allowed? : Report → Option Bool
  | validation r => some !r.isDisabled
  | _ => none

end Report

end Provision
