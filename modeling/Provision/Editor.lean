import Provision.Sliders

/-!
# Editing a form

An editor holds the form, the sliders, the form as it was saved and the quota of the namespace. Each
edit gives a new editor, or a fault, after which the old one is kept. Copies of the form can be kept
beside the saved one, and a form can be refreshed on observations that the editor did not make.
-/

namespace Provision

structure Editor where
  form : Form
  sliders : Sliders
  saved : Option Form
  quota : Option NamespaceQuota
  copies : List Form

inductive Edit where
  | rename (name : String)
  | setType (type : DeploymentType)
  | setAccess (access : DataAccess)
  | setReplicas (replicas : UInt32)
  | setLimits (cores : Float) (memory : UInt64)
  | setEnvironment (environment : List Variable)
  | setConfigurations (names : List String)
  | addFolder (folder : Folder)
  | removeFolder (row : Nat)
  | save
  | forget
  | revert
  | keep
  | restore (copy : Nat)
  | setQuota (quota : Option NamespaceQuota)
  | resetSliders
  | refresh (nodes : List NodeListing)
  | refreshForm (nodes : List NodeListing)
  | refreshFormOn (o : Observation)

namespace Editor

def initial (form : Form) : Editor := ⟨form, .initial, none, none, []⟩

/-- A node listing, together with the quota and the reservation of the saved form. -/
def observe (e : Editor) (policy : Policy) (nodes : List NodeListing) : Observation :=
  { policy, nodes, quota := e.quota, saved := e.saved.map (·.deployment.reservation) }

/-- Some part of the form differs from the saved one; unknown without one. -/
def changed? (e : Editor) : Option Bool := e.saved.map fun saved => !(saved == e.form)

def withDeployment (e : Editor) (deployment : Request) : Editor :=
  { e with form := { e.form with deployment } }

def refreshOn (e : Editor) (o : Observation) : Except Fault Editor :=
  match e.sliders.refreshForm o e.form with
  | (.ok _, sliders, form) => .ok { e with sliders, form }
  | (.error fault, _, _) => .error fault

def apply (policy : Policy) (e : Editor) : Edit → Except Fault Editor
  | .rename name => .ok { e with form := { e.form with name } }
  | .setType type => .ok (e.withDeployment { e.form.deployment with type })
  | .setAccess access => .ok (e.withDeployment { e.form.deployment with access })
  | .setReplicas replicas => (e.form.deployment.withReplicas replicas).map e.withDeployment
  | .setLimits cores memory => (e.form.deployment.withLimits cores memory).map e.withDeployment
  | .setEnvironment environment => .ok { e with form := { e.form with environment } }
  | .setConfigurations configurations => .ok { e with form := { e.form with configurations } }
  | .addFolder folder => .ok { e with form := e.form.addFolder folder }
  | .removeFolder row => .ok { e with form := e.form.removeFolder row }
  | .save => .ok { e with saved := some e.form }
  | .forget => .ok { e with saved := none }
  | .revert => .ok { e with form := e.saved.getD e.form }
  | .keep => .ok { e with copies := e.copies ++ [e.form] }
  | .restore copy => .ok { e with form := e.copies[copy]?.getD e.form }
  | .setQuota quota => .ok { e with quota }
  | .resetSliders => .ok { e with sliders := .initial }
  | .refresh nodes => match e.sliders.refresh (e.observe policy nodes) with
    | (.ok _, sliders) => .ok { e with sliders }
    | (.error fault, _) => .error fault
  | .refreshForm nodes => e.refreshOn (e.observe policy nodes)
  | .refreshFormOn o => e.refreshOn o

/-- The editor after an edit, or as it was after a fault. -/
def step (policy : Policy) (e : Editor) (edit : Edit) : Editor :=
  match e.apply policy edit with
  | .ok edited => edited
  | .error _ => e

def run (policy : Policy) (e : Editor) (edits : List Edit) : Editor :=
  edits.foldl (step policy) e

end Editor

end Provision
