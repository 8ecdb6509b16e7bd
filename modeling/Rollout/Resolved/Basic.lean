import Rollout.Service.Basic

/-!
# Services with every setting filled in

* `Origin`: the level a value was taken from.
* `Resolved`: a value and its origin.
* `ResolvedService`, `ResolvedGroup`, `ResolvedDestination`: the tree of resolved values.
* `ResolvedService.toSpec`: the authored tree that sets every value where it is used.
-/

namespace Rollout

/-! ## Values and their origins -/

/-- The level a value was taken from. -/
inductive Origin where
  | destination
  | group
  | service
  /-- No level set the value. -/
  | default
  deriving DecidableEq, Inhabited

/-- The name of a level. -/
def Origin.label : Origin → String
  | .destination => "destination"
  | .group => "group"
  | .service => "service"
  | .default => "default"

/-- A value and the level it was taken from. -/
structure Resolved (α : Type) where
  value : α
  origin : Origin
  deriving DecidableEq, Inhabited

namespace Resolved

/-- Changes the value and keeps the origin. -/
def map {α β : Type} (f : α → β) (r : Resolved α) : Resolved β := ⟨f r.value, r.origin⟩

/-- Whether no level set the value. -/
def isDefault {α : Type} (r : Resolved α) : Bool := r.origin = .default

end Resolved

/-! ## The tree -/

/-- The inheritable settings of a group or destination. -/
structure ResolvedSettings where
  hostname : Resolved String
  loginArgs : Resolved (List String)
  extraArgs : Resolved (List String)
  kubeContext : Resolved (Option String)
  syncTimeoutSeconds : Resolved UInt32
  retryLimit : Resolved UInt32
  syncPolicy : Resolved (Option SyncPolicy)
  preDeploySteps : Resolved (List Step)
  postDeploySteps : Resolved (List Step)
  extraDeployJobs : Resolved Jobs
  env : Resolved Variables
  secrets : Resolved SecretsPolicy
  deriving DecidableEq, Inhabited

/-- The source block with its defaults. -/
structure ResolvedSource where
  path : String
  commitBranch : String
  included : String
  excluded : Option String
  deriving DecidableEq, Inhabited

/-- A destination. -/
structure ResolvedDestination where
  /-- The cluster's name as authored. -/
  name : Option String
  /-- The cluster's address as authored. -/
  server : Option String
  space : Resolved String
  settings : ResolvedSettings
  deriving DecidableEq, Inhabited

namespace ResolvedDestination

/-- The identity of the cluster. -/
def identity (d : ResolvedDestination) : String := clusterIdentity d.name d.server

/-- What tells the destination from the others. -/
def key (d : ResolvedDestination) : DestinationKey := .of d.identity d.space.value

end ResolvedDestination

/-- A group. -/
structure ResolvedGroup where
  name : String
  space : Resolved String
  settings : ResolvedSettings
  destinations : List ResolvedDestination
  deriving DecidableEq, Inhabited

/-- The job key of the group's stage in the top workflow. -/
def ResolvedGroup.stageKey (g : ResolvedGroup) : String := sanitize g.name

/-- A service. -/
structure ResolvedService where
  name : String
  source : ResolvedSource
  naming : NamingScheme
  triggers : Triggers
  groups : List ResolvedGroup
  deriving DecidableEq, Inhabited

/-- Every destination with its group, in declared order. -/
def ResolvedService.destinations (s : ResolvedService) :
    List (ResolvedGroup × ResolvedDestination) :=
  s.groups.flatMap fun g => g.destinations.map fun d => (g, d)

/-! ## Back to an authored tree -/

/-- A text, unless it is empty. -/
def nonEmpty? (s : String) : Option String := if s.isEmpty then none else some s

namespace ResolvedSettings

/-- The controller settings that give every value. -/
def toController (s : ResolvedSettings) : ControllerSettings where
  hostname := nonEmpty? s.hostname.value
  loginArgs := s.loginArgs.value
  extraArgs := s.extraArgs.value
  kubeContext := s.kubeContext.value
  syncTimeoutSeconds := some s.syncTimeoutSeconds.value
  retryLimit := some s.retryLimit.value
  syncPolicy := s.syncPolicy.value

/-- The CI settings that give every value. -/
def toCi (s : ResolvedSettings) : CiSettings where
  preDeploySteps := s.preDeploySteps.value
  postDeploySteps := s.postDeploySteps.value
  extraDeployJobs := s.extraDeployJobs.value
  env := s.env.value
  secrets := some s.secrets.value

end ResolvedSettings

/-- The destination that gives every value itself. -/
def ResolvedDestination.toSpec (d : ResolvedDestination) : Destination where
  name := d.name
  server := d.server
  space := nonEmpty? d.space.value
  controller := d.settings.toController
  ci := d.settings.toCi

/-- The group that gives every value itself. -/
def ResolvedGroup.toSpec (g : ResolvedGroup) : Group where
  name := g.name
  destinations := g.destinations.map (·.toSpec)
  space := nonEmpty? g.space.value
  controller := g.settings.toController
  ci := g.settings.toCi

/-- The service whose groups and destinations give every value themselves. -/
def ResolvedService.toSpec (s : ResolvedService) : Service where
  name := s.name
  groups := s.groups.map (·.toSpec)
  space := none
  naming := s.naming
  source := ⟨some s.source.path, some s.source.commitBranch, some s.source.included,
    s.source.excluded⟩
  controller := {}
  ci := { triggers := some s.triggers }

end Rollout
