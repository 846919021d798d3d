import Provision.Number.Digits
import Provision.Quantity.Cpu
import Provision.Quantity.Memory
import Provision.Traversal

/-!
# Faults of malformed input

A quantity that does not read, with the text as it was given, or a value that an entity does not
take. A quota or a limit that is not there is no fault.

- `parseCpu_ok_iff`: a text has a number of cores exactly when it reads as one.
- `parseMemory_error_iff`, `parseCpu_error_iff`: a text that does not read is named in the fault.
-/

namespace Provision

/-- The core counts that are checked where an entity is built. -/
inductive CoreField where
  | node
  | quotaLimit
  | quotaUsed
  | savedLimit
  | limit
  deriving DecidableEq, Repr

def CoreField.name : CoreField → String
  | .node => "node cpu"
  | .quotaLimit => "quota cpu limit"
  | .quotaUsed => "quota cpu used"
  | .savedLimit => "saved cpu limit"
  | .limit => "cpu limit"

/-- What keeps an entity from being built. -/
inductive Misfit where
  | cores (field : CoreField) (value : Float)
  | noReplica
  | noSavedReplica
  | noNodeName
  | noNodeStatus (node : String)
  | noNodeResources (node : String)
  | noNodeCpu
  | noNodeMemory
  | unknownAccessMode (text : String)
  | noAccessMode (storageClass : String)
  deriving DecidableEq

/-- The field that does not fit, and why. -/
def Misfit.describe : Misfit → String × String
  | .cores field value =>
    (field.name, Number.plainText value ++ " is not a non-negative core count")
  | .noReplica => ("replica count", "must be at least 1")
  | .noSavedReplica => ("saved replica count", "must be at least 1")
  | .noNodeName => ("node name", "missing")
  | .noNodeStatus node => ("node status", "missing on " ++ node)
  | .noNodeResources node => ("node allocatable", "missing on " ++ node)
  | .noNodeCpu => ("node cpu", "missing")
  | .noNodeMemory => ("node memory", "missing")
  | .unknownAccessMode text => ("access mode", "unknown access mode " ++ Text.quoted text)
  | .noAccessMode storageClass =>
    ("storage class access modes", storageClass ++ " declares no access mode")

inductive Fault where
  | quantity (text : String) (reason : Quantity.Reason)
  | input (misfit : Misfit)
  deriving DecidableEq

def Fault.message : Fault → String
  | .quantity text reason => "invalid quantity " ++ Text.quoted text ++ ": " ++ reason.message
  | .input misfit => "invalid " ++ misfit.describe.1 ++ ": " ++ misfit.describe.2

/-- Bytes of a quantity of memory. -/
def parseMemory (text : String) : Except Fault UInt64 :=
  (Quantity.readMemory text.toList).mapError (.quantity text)

/-- Cores of a quantity of processor time. -/
def parseCpu (text : String) : Except Fault Float :=
  (Quantity.readCpu text.toList).mapError (.quantity text)

theorem parseCpu_ok_iff {text : String} {cores : Float} :
    parseCpu text = .ok cores ↔ Quantity.readCpu text.toList = .ok cores := by
  rw [parseCpu, Traversal.mapError_eq_ok_iff]

theorem parseMemory_error_iff {text : String} {fault : Fault} :
    parseMemory text = .error fault ↔
      ∃ reason, fault = .quantity text reason ∧
        Quantity.readMemory text.toList = .error reason := by
  rw [parseMemory, Traversal.mapError_eq_error_iff]

theorem parseCpu_error_iff {text : String} {fault : Fault} :
    parseCpu text = .error fault ↔
      ∃ reason, fault = .quantity text reason ∧ Quantity.readCpu text.toList = .error reason := by
  rw [parseCpu, Traversal.mapError_eq_error_iff]

/-- A core count, if it is one that can be reserved. -/
def checkCores (field : CoreField) (cores : Float) : Except Fault Unit :=
  if Quantity.isCoreCount cores then .ok () else .error (.input (.cores field cores))

end Provision
