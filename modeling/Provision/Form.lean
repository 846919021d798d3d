import Provision.Compatibility
import Provision.Duplicates

/-!
# The application form

The form is a plain value; facts are derived from it.
-/

namespace Provision

structure Variable where
  name : String
  value : String
  deriving DecidableEq, Repr

/-- An application that is in the namespace already. -/
structure ExistingApplication where
  id : String
  name : String
  deriving DecidableEq, Repr

/-- Another application has this name; the one that is edited does not count. -/
def nameConflicts (existing : List ExistingApplication) (name : String)
    (editing : Option String) : Bool :=
  existing.any fun app => app.name = name && editing != some app.id

/-- Values of the form. Two forms are the same if all their parts are. -/
structure Form where
  name : String
  deployment : Request
  environment : List Variable
  folders : List Folder
  /-- Names of the configurations that are mounted. -/
  configurations : List String
  deriving BEq

namespace Form

def initial : Form := ⟨"", .initial, [], [], []⟩

/-- Storage can rule out a global deployment, so the type goes back to replicated. -/
def addFolder (form : Form) (folder : Folder) : Form :=
  { form with
    folders := form.folders ++ [folder]
    deployment := { form.deployment with type := .replicated } }

/-- Without the folder at this row, if there is one. -/
def removeFolder (form : Form) (row : Nat) : Form :=
  { form with folders := form.folders.eraseIdx row }

def variableNames (form : Form) : List String := form.environment.map (·.name)

def folderPaths (form : Form) : List String := form.folders.map (·.path)

end Form

/-- An entry of a configuration. -/
structure ConfigurationEntry where
  key : String
  value : String
  deriving DecidableEq, Repr

/-- The data of a configuration. -/
structure ConfigurationData where
  entries : List ConfigurationEntry
  deriving DecidableEq, Repr

namespace ConfigurationData

def keys (data : ConfigurationData) : List String := data.entries.map (·.key)

def duplicates (data : ConfigurationData) : List (String × Nat) := Duplicates.counts data.keys

def isValid (data : ConfigurationData) : Bool := data.duplicates.isEmpty

end ConfigurationData

end Provision
