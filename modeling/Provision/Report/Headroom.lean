import Provision.Json.Printer
import Provision.Report.Amount
import Provision.Report.Table
import Provision.Sliders
import Provision.Snapshot.Document

/-!
# The report on headroom

The range that limits may take, what the form requests and what it would be snapped to.
-/

namespace Provision

open Json (Value)

structure HeadroomReport where
  headroom : Headroom
  requested : Request
  /-- The request with its limits snapped into the range. -/
  suggested : Request
  deriving BEq

namespace HeadroomReport

/-- What the sliders are refreshed from. -/
def observation (policy : Policy) (s : Snapshot) : Except Failure Observation := do
  let nodes ← s.nodeListings
  let quota ← s.namespaceQuota
  let saved ← s.savedReservation
  return { policy, nodes, quota, saved }

/-- The form is built before the listing is parsed. -/
def ofSnapshot (policy : Policy) (s : Snapshot) : Except Failure HeadroomReport := do
  let observed ← observation policy s
  let form ← s.applicationForm
  let (result, _, snapped) := Sliders.initial.refreshForm observed form
  let headroom ← inPart .nodeListing result
  return { headroom, requested := form.deployment, suggested := snapped.deployment }

def totalCores (r : HeadroomReport) : Float := r.requested.cores * r.requested.replicas.toFloat

def exceeds (r : HeadroomReport) : Bool := r.headroom.isExceededBy r.requested

def rangeJson (write : α → Value) (r : Range α) : Value :=
  .record [("min", write r.min), ("max", write r.max)]

def headroomJson (h : Headroom) : Value :=
  .record [
    ("cpu", rangeJson .real h.cpu),
    ("memory_mb", rangeJson (fun mb => .natural mb.toNat) h.memory),
    ("quota_applied", .bool h.quotaApplied)]

def requestJson (r : Request) : Value :=
  .record [
    ("deployment_type", .text r.type.name), ("data_access_policy", .text r.access.name),
    ("replica_count", .natural r.replicas.toNat), ("cpu_limit_per_replica", .real r.cores),
    ("memory_limit_per_replica_mb", .natural r.memory.toNat)]

def toJson (r : HeadroomReport) : Value :=
  .record [
    ("headroom", headroomJson r.headroom), ("requested", requestJson r.requested),
    ("suggested", requestJson r.suggested), ("total_cpu", .real r.totalCores),
    ("total_memory_mb", .natural (Headroom.totalMemory r.requested).toNat),
    ("exceeds_headroom", .bool r.exceeds), ("capacity_exhausted", .bool r.headroom.isExhausted)]

def table (r : HeadroomReport) : Table :=
  { header := ["Resource", "Min", "Max", "Requested", "Suggested", "Total"]
    rows := [
      "CPU (cores)" :: [r.headroom.cpu.min, r.headroom.cpu.max, r.requested.cores,
        r.suggested.cores, r.totalCores].map Amount.cores,
      "Memory" :: [r.headroom.memory.min, r.headroom.memory.max, r.requested.memory,
        r.suggested.memory, Headroom.totalMemory r.requested].map Amount.megabytes] }

def exhaustedMessage : String := "No capacity left to reserve under the namespace quota"

def print (r : HeadroomReport) (colour : Bool) : Printed :=
  .line (Ink.heading.paint colour "Resource Headroom") ++
  .message colour .info (if r.headroom.quotaApplied then "Namespace quota applied"
    else "No namespace quota, bounded by cluster capacity") ++
  r.table.print colour ++
  .line ("Replicas: " ++ toString r.requested.replicas.toNat) ++
  .onlyIf r.headroom.isExhausted (.message colour .warning exhaustedMessage) ++
  if r.exceeds then .message colour .warning "Requested resources exceed the available headroom"
  else .message colour .success "Requested resources fit within the available headroom"

end HeadroomReport

end Provision
