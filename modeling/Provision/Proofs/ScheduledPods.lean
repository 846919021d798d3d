import Provision.Proofs.MemoryHeadroom
import Provision.Proofs.QuotaFormats
import Provision.Reservation

/-!
# What the scheduled pods reserve

The requests of a cluster lie in pods, containers and quantities, each of which may be missing. Pods
that run on none of the nodes are left out before anything is read; of the others every quantity is
read in its place, and the first one that does not parse is the answer.

- `Asked.ofPods`: the quantities of pods, in the order in which they are read.
- `Demand.ofPods_eq`: the demand of pods, or the problem of their first malformed quantity.
- `isScheduled_iff`: which pods count.
- `scheduled_pods_counted`: what a reservation depends on, when it fails and what it amounts to.
-/

namespace Provision

open Kubernetes (Container Pod Quantities)

/-! ## Quantities in their order -/

/-- A quantity that a container requests. -/
inductive Asked where
  | cpu (text : String)
  | memory (text : String)

namespace Asked

/-- What is wrong with the quantity. -/
def problem? : Asked → Option Fault
  | cpu text => fault? (parseCpu text)
  | memory text => fault? (parseMemory text)

def cores? : Asked → Option Float
  | cpu text => (parseCpu text).toOption
  | memory _ => none

def bytes? : Asked → Option UInt64
  | cpu _ => none
  | memory text => (parseMemory text).toOption

def ofRequest (request : Quantities) : List Asked :=
  ((request.get? "cpu").map cpu).toList ++ ((request.get? "memory").map memory).toList

def ofContainer (container : Container) : List Asked :=
  container.requests.toList.flatMap ofRequest

def ofPod (pod : Pod) : List Asked :=
  pod.spec.toList.flatMap fun spec => spec.containers.flatMap ofContainer

/-- Pod by pod and container by container, cores before memory. -/
def ofPods (pods : List Pod) : List Asked := pods.flatMap ofPod

theorem mem_ofRequest {request : Quantities} {q : Asked} :
    q ∈ ofRequest request ↔
      (∃ text, request.get? "cpu" = some text ∧ cpu text = q) ∨
        ∃ text, request.get? "memory" = some text ∧ memory text = q := by
  simp [ofRequest]

theorem mem_ofPods {pods : List Pod} {q : Asked} :
    q ∈ ofPods pods ↔ ∃ pod ∈ pods, ∃ spec, pod.spec = some spec ∧ ∃ container ∈ spec.containers,
      ∃ request, container.requests = some request ∧ q ∈ ofRequest request := by
  simp [ofPods, ofPod, ofContainer]

theorem ofRequests (pods : List Pod) : (Demand.requests pods).flatMap ofRequest = ofPods pods := by
  simp only [Demand.requests, List.filterMap_eq_flatMap_toList, List.flatMap_assoc]
  rfl

/-- The demand with one more quantity. -/
def add (total : Demand) : Asked → Except Fault Demand
  | cpu text => (parseCpu text).map fun cores => { total with cores := total.cores + cores }
  | memory text =>
    (parseMemory text).map fun bytes => { total with bytes := Saturating.add total.bytes bytes }

/-- Each quantity is read once, and stops the count or adds to it. -/
theorem foldlM_add (asked : List Asked) (total : Demand) :
    asked.foldlM add total = match asked.findSome? problem? with
      | some fault => .error fault
      | none => .ok {
          cores := (asked.filterMap cores?).foldl (· + ·) total.cores
          bytes := (asked.filterMap bytes?).foldl Saturating.add total.bytes } := by
  induction asked generalizing total with
  | nil => rfl
  | cons q asked ih =>
    rw [List.foldlM_cons, List.findSome?_cons]
    cases q with
    | cpu text =>
      rw [add, problem?]
      cases read : parseCpu text with
      | error fault => rfl
      | ok cores =>
        have here : cores? (cpu text) = some cores := by rw [cores?, read]; rfl
        rw [List.filterMap_cons_some here, List.filterMap_cons_none rfl]
        exact ih _
    | memory text =>
      rw [add, problem?]
      cases read : parseMemory text with
      | error fault => rfl
      | ok bytes =>
        have here : bytes? (memory text) = some bytes := by rw [bytes?, read]; rfl
        rw [List.filterMap_cons_none rfl, List.filterMap_cons_some here]
        exact ih _

end Asked

namespace Demand

theorem add_eq (total : Demand) (request : Quantities) :
    add total request = (Asked.ofRequest request).foldlM Asked.add total := by
  rw [add, Asked.ofRequest, List.foldlM_append]
  congr 1
  · rw [addCores]
    cases request.get? "cpu" with
    | none => rfl
    | some cpu => exact (bind_pure _).symm
  · funext total
    rw [addBytes]
    cases request.get? "memory" with
    | none => rfl
    | some memory => exact (bind_pure _).symm

/-- Request by request is quantity by quantity. -/
theorem foldlM_add (requests : List Quantities) (total : Demand) :
    requests.foldlM add total = (requests.flatMap Asked.ofRequest).foldlM Asked.add total := by
  induction requests generalizing total with
  | nil => rfl
  | cons request requests ih =>
    rw [List.foldlM_cons, List.flatMap_cons, List.foldlM_append, add_eq]
    exact congrArg _ (funext ih)

theorem ofPods_eq (pods : List Pod) :
    ofPods pods = match (Asked.ofPods pods).findSome? Asked.problem? with
      | some fault => .error fault
      | Option.none => .ok {
          cores := ((Asked.ofPods pods).filterMap Asked.cores?).foldl (· + ·) 0
          bytes := Saturating.sum ((Asked.ofPods pods).filterMap Asked.bytes?) } := by
  rw [ofPods, foldlM_add, Asked.ofRequests, Asked.foldlM_add]
  rfl

end Demand

namespace ClusterReservation

/-! ## Pods that count -/

/-- The pod runs on a node that is listed. -/
def OnNode (nodes : List NodeCapacity) (pod : Pod) : Prop :=
  ∃ name, pod.spec.bind (·.nodeName) = some name ∧ name ∈ nodes.map (·.name)

theorem isScheduled_iff {nodes : List NodeCapacity} {pod : Pod} :
    isScheduled nodes pod = true ↔ OnNode nodes pod := by
  unfold isScheduled OnNode
  cases pod.spec.bind (·.nodeName) <;> simp

theorem isScheduled_congr {nodes others : List NodeCapacity}
    (same : ∀ name, name ∈ others.map (·.name) ↔ name ∈ nodes.map (·.name)) :
    isScheduled others = isScheduled nodes := by
  funext pod
  rw [Bool.eq_iff_iff, isScheduled_iff, isScheduled_iff]
  simp only [OnNode, same]

/-- The quantities that count. -/
def asked (nodes : List NodeCapacity) (pods : List Pod) : List Asked :=
  Asked.ofPods (pods.filter (isScheduled nodes))

theorem compute_eq (nodes : List NodeCapacity) (pods : List Pod) :
    compute nodes pods = match (asked nodes pods).findSome? Asked.problem? with
      | some fault => .error fault
      | none => .ok {
          nodes := nodes.length
          cpuCapacity := nodes.foldl (fun sum node => sum + node.cores) (-0.0)
          memoryCapacity := (nodes.map fun node => Quantity.megabytes node.bytes).foldl (· + ·) 0
          cpuReserved := ((asked nodes pods).filterMap Asked.cores?).foldl (· + ·) 0
          memoryReserved :=
            Quantity.megabytes (Saturating.sum ((asked nodes pods).filterMap Asked.bytes?)) } := by
  rw [compute, Demand.ofPods_eq]
  unfold asked
  cases (Asked.ofPods (pods.filter (isScheduled nodes))).findSome? Asked.problem? <;> rfl

theorem compute_eq_error_iff {nodes : List NodeCapacity} {pods : List Pod} {fault : Fault} :
    compute nodes pods = .error fault ↔
      (asked nodes pods).findSome? Asked.problem? = some fault := by
  rw [compute_eq]
  cases (asked nodes pods).findSome? Asked.problem? <;> simp

/-- The memory that is reserved, if every quantity that counts is well-formed. -/
theorem memoryReserved_eq (nodes : List NodeCapacity) (pods : List Pod) :
    (compute nodes pods).toOption.map (·.memoryReserved) =
      if ∀ q ∈ asked nodes pods, q.problem? = none then
        some (Quantity.megabytes (Saturating.sum ((asked nodes pods).filterMap Asked.bytes?)))
      else none := by
  rw [compute_eq]
  split
  next fault found =>
    rw [if_neg]
    · rfl
    · rw [← List.findSome?_eq_none_iff, found]
      exact Option.some_ne_none fault
  next found =>
    rw [if_pos (List.findSome?_eq_none_iff.mp found)]
    rfl

theorem asked_perm {nodes : List NodeCapacity} {pods others : List Pod} (perm : others.Perm pods) :
    (asked nodes others).Perm (asked nodes pods) :=
  (perm.filter _).flatMap_right _

/-! ## The reservation -/

/-- A request of the container does not parse. -/
def Malformed (container : Container) : Prop :=
  ∃ request, container.requests = some request ∧
    ((∃ text fault, request.get? "cpu" = some text ∧ parseCpu text = .error fault) ∨
      ∃ text fault, request.get? "memory" = some text ∧ parseMemory text = .error fault)

theorem malformed_iff {container : Container} :
    Malformed container ↔ ∃ request, container.requests = some request ∧
      ∃ q ∈ Asked.ofRequest request, ∃ fault, q.problem? = some fault := by
  unfold Malformed
  refine exists_congr fun request => and_congr_right fun _ => ?_
  constructor
  · rintro (⟨text, fault, there, fails⟩ | ⟨text, fault, there, fails⟩)
    · exact ⟨_, Asked.mem_ofRequest.mpr (.inl ⟨text, there, rfl⟩), fault,
        fault?_eq_some_iff.mpr fails⟩
    · exact ⟨_, Asked.mem_ofRequest.mpr (.inr ⟨text, there, rfl⟩), fault,
        fault?_eq_some_iff.mpr fails⟩
  · rintro ⟨q, stated, fault, problem⟩
    obtain ⟨text, there, rfl⟩ | ⟨text, there, rfl⟩ := Asked.mem_ofRequest.mp stated
    · exact .inl ⟨text, fault, there, fault?_eq_some_iff.mp problem⟩
    · exact .inr ⟨text, fault, there, fault?_eq_some_iff.mp problem⟩

theorem exists_problem_iff {nodes : List NodeCapacity} {pods : List Pod} :
    (∃ q ∈ asked nodes pods, ∃ fault, q.problem? = some fault) ↔
      ∃ pod ∈ pods, OnNode nodes pod ∧
        ∃ spec, pod.spec = some spec ∧ ∃ container ∈ spec.containers, Malformed container := by
  constructor
  · rintro ⟨q, counts, problem⟩
    obtain ⟨pod, mem, spec, given, container, listed, request, requested, stated⟩ :=
      Asked.mem_ofPods.mp counts
    rw [List.mem_filter, isScheduled_iff] at mem
    exact ⟨pod, mem.1, mem.2, spec, given, container, listed,
      malformed_iff.mpr ⟨request, requested, q, stated, problem⟩⟩
  · rintro ⟨pod, mem, runs, spec, given, container, listed, malformed⟩
    obtain ⟨request, requested, q, stated, problem⟩ := malformed_iff.mp malformed
    have counted : pod ∈ pods.filter (isScheduled nodes) :=
      List.mem_filter.mpr ⟨mem, isScheduled_iff.mpr runs⟩
    exact ⟨q, Asked.mem_ofPods.mpr ⟨pod, counted, spec, given, container, listed, request,
      requested, stated⟩, problem⟩

/-- Cores and megabytes that are reserved. -/
def reserved (nodes : List NodeCapacity) (pods : List Pod) : Except Fault (Float × UInt64) :=
  (compute nodes pods).map fun r => (r.cpuReserved, r.memoryReserved)

/-- What the reservation on some nodes depends on, when it fails and what it amounts to. -/
structure CountsScheduled (nodes : List NodeCapacity) : Prop where
  counts_iff {pod : Pod} : isScheduled nodes pod = true ↔ OnNode nodes pod
  /-- Nothing is read but the pods that run on the nodes. -/
  counted {pods others : List Pod}
    (same : others.filter (isScheduled nodes) = pods.filter (isScheduled nodes)) :
    compute nodes others = compute nodes pods
  /-- Wherever other pods stand, and whatever they request, they make no difference. -/
  stray {before strays behind : List Pod} (elsewhere : ∀ pod ∈ strays, ¬ OnNode nodes pod) :
    compute nodes (before ++ strays ++ behind) = compute nodes (before ++ behind)
  /-- Of the nodes only the names matter, and not how often one is listed. -/
  names {others : List NodeCapacity}
    (same : ∀ name, name ∈ others.map (·.name) ↔ name ∈ nodes.map (·.name)) (pods : List Pod) :
    reserved others pods = reserved nodes pods
  /-- It fails where a container of a pod on the nodes has a request that does not parse, -/
  fails_iff {pods : List Pod} :
    (∃ fault, compute nodes pods = .error fault) ↔
      ∃ pod ∈ pods, OnNode nodes pod ∧
        ∃ spec, pod.spec = some spec ∧ ∃ container ∈ spec.containers, Malformed container
  /-- and the first one is named. -/
  fails_with_iff {pods : List Pod} {fault : Fault} :
    compute nodes pods = .error fault ↔
      ∃ before malformed behind, asked nodes pods = before ++ malformed :: behind ∧
        malformed.problem? = some fault ∧ ∀ q ∈ before, q.problem? = none
  /-- Otherwise the cores are summed in the order in which they are listed, and the bytes exactly,
  or to the largest count, before they are rounded down to megabytes, -/
  amounts {pods : List Pod} {r : ClusterReservation} (ok : compute nodes pods = .ok r) :
    r.cpuReserved = ((asked nodes pods).filterMap Asked.cores?).foldl (· + ·) 0 ∧
      r.memoryReserved.toNat =
        min (2 ^ 64 - 1) (((asked nodes pods).filterMap Asked.bytes?).map UInt64.toNat).sum / 10 ^ 6
  /-- so that the order of the pods is nothing to the memory, nor to whether there is a result. -/
  unordered {pods others : List Pod} (perm : others.Perm pods) :
    (compute nodes others).toOption.map (·.memoryReserved) =
      (compute nodes pods).toOption.map (·.memoryReserved)

/-- **The pods that run on the nodes are counted, once each, and no others.** -/
theorem scheduled_pods_counted (nodes : List NodeCapacity) : CountsScheduled nodes := by
  refine ⟨isScheduled_iff, ?_, ?_, ?_, ?_, ?_, ?_, ?_⟩
  · intro pods others same
    rw [← compute_scheduled nodes others, same, compute_scheduled]
  · intro before strays behind elsewhere
    have none : strays.filter (isScheduled nodes) = [] :=
      List.filter_eq_nil_iff.mpr fun pod mem runs => elsewhere pod mem (isScheduled_iff.mp runs)
    rw [← compute_scheduled, List.filter_append, List.filter_append, none, List.append_nil,
      ← List.filter_append, compute_scheduled]
  · intro others same pods
    rw [reserved, reserved, compute_eq, compute_eq, asked, asked, isScheduled_congr same]
    cases (Asked.ofPods (pods.filter (isScheduled nodes))).findSome? Asked.problem? <;> rfl
  · intro pods
    rw [← exists_problem_iff]
    simp only [compute_eq_error_iff]
    rw [← Option.isSome_iff_exists, List.findSome?_isSome_iff]
    simp only [Option.isSome_iff_exists]
  · intro pods fault
    rw [compute_eq_error_iff, List.findSome?_eq_some_iff]
  · intro pods r ok
    rw [compute_eq] at ok
    split at ok
    · cases ok
    · cases ok
      rw [Quantity.toNat_megabytes, Saturating.toNat_sum, Nat.min_comm]
      exact ⟨rfl, rfl⟩
  · intro pods others perm
    have moved : (asked nodes others).Perm (asked nodes pods) := asked_perm perm
    simp only [memoryReserved_eq, moved.mem_iff, Saturating.sum_perm (moved.filterMap Asked.bytes?)]

/-- A pod on a node, with the requests of its containers. -/
def podOn (node : String) (requests : List Quantities) : Pod :=
  ⟨some ⟨node, requests.map fun request => ⟨some request⟩⟩⟩

def web : Pod := podOn "a" [[("cpu", "500m"), ("memory", "1500k")], [("memory", "0.6M")]]

def broken (node : String) : Pod := podOn node [[("memory", "many"), ("cpu", "")]]

/-- Two entries for the one node. -/
def twice : List NodeCapacity :=
  [⟨"a", 1.5, 8000000, by decide +kernel⟩, ⟨"a", 2.5, 4000000, by decide +kernel⟩]

theorem scheduled_pods_counted_twice :
    reserved (twice.take 1) [web, web] = reserved twice [web, web] ∧
      compute twice [web, broken "b", web] = compute twice [web, web] ∧
      (∃ r, compute twice [web, web] = .ok r ∧ r.cpuReserved = 1 ∧ r.memoryReserved.toNat = 4) ∧
      compute twice [web, broken "a"] = .error (.quantity "" .empty) ∧
      (compute twice [broken "a", web]).toOption.map (·.memoryReserved) =
        (compute twice [web, broken "a"]).toOption.map (·.memoryReserved) := by
  have counts := scheduled_pods_counted twice
  have same : ∀ name, name ∈ (twice.take 1).map (·.name) ↔ name ∈ twice.map (·.name) := by
    simp [twice]
  have elsewhere : ∀ pod ∈ [broken "b"], ¬ OnNode twice pod := by
    simp [OnNode, broken, podOn, twice]
  have stray : compute twice ([web] ++ [broken "b"] ++ [web]) = compute twice ([web] ++ [web]) :=
    counts.stray elsewhere
  refine ⟨counts.names same _, stray, ?_, ?_, ?_⟩
  · have ok : compute twice [web, web] = .ok ⟨2, 4, 12, 1, 4⟩ := by decide +kernel
    refine ⟨_, ok, (counts.amounts ok).1.trans (by decide +kernel), ?_⟩
    rw [(counts.amounts ok).2]
    decide +kernel
  · exact counts.fails_with_iff.mpr ⟨asked twice [web], .cpu "", [.memory "many"], rfl,
      by decide +kernel, by decide +kernel⟩
  · exact counts.unordered (.swap _ _ _)

end ClusterReservation

end Provision
