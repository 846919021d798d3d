import Provision.Json.Printer
import Provision.Report.Amount
import Provision.Report.Table
import Provision.Reservation
import Provision.Snapshot.Document

/-!
# The report on the cluster

The capacity of the nodes, and what the pods on them request.
-/

namespace Provision

open Json (Value)

structure ClusterReport where
  reservation : ClusterReservation
  capturedAt : Option Timestamp
  deriving DecidableEq

namespace ClusterReport

def ofSnapshot (s : Snapshot) : Except Failure ClusterReport := do
  let nodes ← s.nodeCapacities
  let reservation ← inPart .podRequest (ClusterReservation.compute nodes s.pods)
  return { reservation, capturedAt := s.capturedAt }

def toJson (r : ClusterReport) : Value :=
  let c := r.reservation
  .record [
    ("node_count", .natural c.nodes), ("cpu_capacity", .real c.cpuCapacity),
    ("memory_capacity_mb", .natural c.memoryCapacity.toNat), ("cpu_reserved", .real c.cpuReserved),
    ("memory_reserved_mb", .natural c.memoryReserved.toNat),
    ("cpu_usage_percent", .real c.cpuPercent), ("memory_usage_percent", .real c.memoryPercent)]

def table (c : ClusterReservation) (colour : Bool) : Table :=
  { header := ["Resource", "Capacity", "Reserved", "Usage"]
    rows := [
      ["CPU (cores)", Amount.cores c.cpuCapacity, Amount.cores c.cpuReserved,
        Amount.usage colour c.cpuPercent],
      ["Memory", Amount.megabytes c.memoryCapacity, Amount.megabytes c.memoryReserved,
        Amount.usage colour c.memoryPercent]] }

def print (r : ClusterReport) (colour : Bool) : Printed :=
  let captured := r.capturedAt.toList.map fun t =>
    "Captured: " ++ Ink.faint.paint colour t.display
  .line (Ink.heading.paint colour "Cluster Capacity") ++
  .line ("Nodes: " ++ toString r.reservation.nodes) ++
  .lines captured ++
  (table r.reservation colour).print colour

end ClusterReport

end Provision
