import Provision.Json.Record
import Provision.Kubernetes.Object
import Provision.Kubernetes.Schema

/-!
# Kubernetes objects read from JSON

A document has to have the shape of its kind as a whole, in the levels of nesting that are left for
it; of it, what concerns resources is kept.
-/

namespace Provision.Kubernetes

/-- What an object writes last under a name; nothing where that is null. -/
def member? (v : Json.Value) (name : String) : Option Json.Value :=
  match v with
  | .object entries =>
    match entries.findRev? fun entry => entry.1 = some name with
    | some (_, .null) => none
    | some (_, value) => some value
    | none => none
  | _ => none

/-- Texts of an object by name. -/
def quantities (v : Json.Value) : Quantities :=
  match v with
  | .object entries => entries.filterMap fun (name, value) => do return (← name, ← value.text?)
  | _ => []

def items (v : Json.Value) : List Json.Value := v.items?.getD []

def NodeStatus.ofJson (v : Json.Value) : NodeStatus :=
  ⟨(member? v "allocatable").map quantities, (member? v "capacity").map quantities⟩

def Node.ofJson? (room : Nat) (v : Json.Value) : Option Node :=
  if Schema.node.accepts room v then
    some {
      name := ((member? v "metadata").bind (member? · "name")).bind Json.Value.text?
      status := (member? v "status").map NodeStatus.ofJson }
  else none

def Container.ofJson (v : Json.Value) : Container :=
  ⟨((member? v "resources").bind (member? · "requests")).map quantities⟩

def PodSpec.ofJson (v : Json.Value) : PodSpec :=
  { nodeName := (member? v "nodeName").bind Json.Value.text?
    containers := (((member? v "containers").map items).getD []).map Container.ofJson }

def Pod.ofJson? (room : Nat) (v : Json.Value) : Option Pod :=
  if Schema.pod.accepts room v then some ⟨(member? v "spec").map PodSpec.ofJson⟩ else none

def QuotaStatus.ofJson (v : Json.Value) : QuotaStatus :=
  ⟨(member? v "hard").map quantities, (member? v "used").map quantities⟩

def ResourceQuota.ofJson? (room : Nat) (v : Json.Value) : Option ResourceQuota :=
  if Schema.resourceQuota.accepts room v then some ⟨(member? v "status").map QuotaStatus.ofJson⟩
  else none

end Provision.Kubernetes
