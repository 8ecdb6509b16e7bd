import Rollout.Identifier
import Rollout.Workflow.Basic

/-!
# Services as authored

What an author writes: every setting that can be inherited is optional at every level.

* `Service`, `Group`, `Destination`: a service rolls out to groups of destinations, in order.
* `ControllerSettings`, `CiSettings`: the settings that each level may give.
-/

namespace Rollout

/-! ## Settings -/

/-- Automatic synchronisation. -/
structure AutomatedSync where
  prune : Bool := false
  selfHeal : Bool := false
  deriving DecidableEq, Inhabited

/-- How the controller synchronises an application. -/
structure SyncPolicy where
  automated : Option AutomatedSync := none
  syncOptions : List String := []
  deriving DecidableEq, Inhabited

/-- Settings of the GitOps controller. -/
structure ControllerSettings where
  hostname : Option String := none
  loginArgs : List String := []
  extraArgs : List String := []
  kubeContext : Option String := none
  syncTimeoutSeconds : Option UInt32 := none
  retryLimit : Option UInt32 := none
  syncPolicy : Option SyncPolicy := none
  deriving DecidableEq, Inhabited

/-- Settings of the CI workflows. -/
structure CiSettings where
  preDeploySteps : List Step := []
  postDeploySteps : List Step := []
  extraDeployJobs : Jobs := .empty
  env : Variables := .empty
  secrets : Option SecretsPolicy := none
  deriving DecidableEq, Inhabited

/-- Settings of the CI workflows and the triggers of the top workflow. -/
structure ServiceCi where
  settings : CiSettings := {}
  triggers : Option Triggers := none
  deriving DecidableEq, Inhabited

/-! ## The tree -/

/-- One deployment target: a cluster, by name or by address, and a namespace. -/
structure Destination where
  name : Option String := none
  server : Option String := none
  space : Option String := none
  controller : ControllerSettings := {}
  ci : CiSettings := {}
  deriving DecidableEq, Inhabited

namespace Destination

/-- A destination on a cluster known by name. -/
def named (cluster space : String) : Destination := { name := some cluster, space := some space }

/-- A destination on a cluster known by address. -/
def atServer (server space : String) : Destination := { server := some server, space := some space }

/-- The identity of the cluster. -/
def identity (d : Destination) : String := clusterIdentity d.name d.server

end Destination

/-- A stage of the rollout: destinations that are deployed together. -/
structure Group where
  name : String := ""
  destinations : List Destination := []
  space : Option String := none
  controller : ControllerSettings := {}
  ci : CiSettings := {}
  deriving DecidableEq, Inhabited

/-- Which parts make up the generated names. -/
structure NamingScheme where
  withNamespace : Bool := false
  withGroup : Bool := true
  deriving DecidableEq, Inhabited

/-- Where the deployed manifests are kept in the repository. -/
structure Source where
  path : Option String := none
  commitBranch : Option String := none
  included : Option String := none
  excluded : Option String := none
  deriving DecidableEq, Inhabited

/-- A service and its stages, in rollout order. -/
structure Service where
  name : String := ""
  groups : List Group := []
  space : Option String := none
  naming : NamingScheme := {}
  source : Source := {}
  controller : ControllerSettings := {}
  ci : ServiceCi := {}
  deriving DecidableEq, Inhabited

end Rollout
