/-!
# Kubernetes objects, as far as resources go

Every part of an object may be missing.
-/

namespace Provision.Kubernetes

/-- Quantities by resource name, in the order in which they are written. -/
abbrev Quantities := List (String × String)

/-- The quantity that is written last for a name. -/
def Quantities.get? (q : Quantities) (name : String) : Option String :=
  (q.findRev? fun entry => entry.1 = name).map Prod.snd

structure NodeStatus where
  allocatable : Option Quantities
  capacity : Option Quantities
  deriving DecidableEq, Repr

structure Node where
  name : Option String
  status : Option NodeStatus
  deriving DecidableEq, Repr

/-- Resource requests of one container; none if it states no resources. -/
structure Container where
  requests : Option Quantities
  deriving DecidableEq, Repr

structure PodSpec where
  nodeName : Option String
  containers : List Container
  deriving DecidableEq, Repr

structure Pod where
  spec : Option PodSpec
  deriving DecidableEq, Repr

structure QuotaStatus where
  hard : Option Quantities
  used : Option Quantities
  deriving DecidableEq, Repr

structure ResourceQuota where
  status : Option QuotaStatus
  deriving DecidableEq, Repr

end Provision.Kubernetes
