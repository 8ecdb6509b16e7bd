import Rollout.Resolved.Basic

/-!
# The cascade

Every inheritable value is taken from the nearest level that sets it: destination, group, service,
and otherwise a fixed default. Values of two levels are never merged.

* `Presence.isSet`: empty texts, lists and maps do not count as set.
* `nearest?`, `nearest`: the first set value of some levels.
* `Service.resolve`: the service with every value filled in.
-/

namespace Rollout

/-! ## The nearest value -/

/-- Kinds of values that may be given without being set. -/
class Presence (α : Type) where
  /-- Whether a given value counts as set. -/
  isSet : α → Bool

instance : Presence String := ⟨fun s => !s.isEmpty⟩

instance {α : Type} : Presence (List α) := ⟨fun xs => !xs.isEmpty⟩

instance {α : Type} : Presence (OrderedMap String α) := ⟨fun m => !m.isEmpty⟩

instance : Presence UInt32 := ⟨fun _ => true⟩

instance : Presence SyncPolicy := ⟨fun _ => true⟩

instance : Presence SecretsPolicy := ⟨fun _ => true⟩

/-- The first set value of the levels. -/
def nearest? {α : Type} [Presence α] : List (Origin × Option α) → Resolved (Option α)
  | [] => ⟨none, .default⟩
  | (origin, some x) :: rest => if Presence.isSet x then ⟨some x, origin⟩ else nearest? rest
  | (_, none) :: rest => nearest? rest

/-- The first set value of the levels, or else the default. -/
def nearest {α : Type} [Presence α] (levels : List (Origin × Option α)) (default : α) :
    Resolved α :=
  (nearest? levels).map (·.getD default)

/-! ## Levels -/

/-- What one level of the tree gives. -/
structure Level where
  space : Option String
  controller : ControllerSettings
  ci : CiSettings

/-- What a destination gives. -/
def Destination.level (d : Destination) : Level := ⟨d.space, d.controller, d.ci⟩

/-- What a group gives. -/
def Group.level (g : Group) : Level := ⟨g.space, g.controller, g.ci⟩

/-- What the service gives. -/
def Service.level (s : Service) : Level := ⟨s.space, s.controller, s.ci.settings⟩

/-- The levels that a part of the tree takes its values from, the nearest first. -/
abbrev Chain := List (Origin × Level)

/-- What each level of a chain gives for one value. -/
def Chain.give {α : Type} (chain : Chain) (field : Level → Option α) :
    List (Origin × Option α) :=
  chain.map fun (origin, level) => (origin, field level)

/-- The chain of a group. -/
def groupChain (s : Service) (g : Group) : Chain := [(.group, g.level), (.service, s.level)]

/-- The chain of a destination. -/
def destinationChain (s : Service) (g : Group) (d : Destination) : Chain :=
  (.destination, d.level) :: groupChain s g

/-! ## Resolution -/

/-- The namespace that a chain gives. -/
def Chain.space (chain : Chain) : Resolved String := nearest (chain.give (·.space)) ""

/-- The settings that a chain gives. -/
def Chain.settings (chain : Chain) : ResolvedSettings where
  hostname := nearest (chain.give (·.controller.hostname)) ""
  loginArgs := nearest (chain.give fun l => some l.controller.loginArgs) []
  extraArgs := nearest (chain.give fun l => some l.controller.extraArgs) []
  kubeContext := nearest? (chain.give (·.controller.kubeContext))
  syncTimeoutSeconds := nearest (chain.give (·.controller.syncTimeoutSeconds)) 300
  retryLimit := nearest (chain.give (·.controller.retryLimit)) 3
  syncPolicy := nearest? (chain.give (·.controller.syncPolicy))
  preDeploySteps := nearest (chain.give fun l => some l.ci.preDeploySteps) []
  postDeploySteps := nearest (chain.give fun l => some l.ci.postDeploySteps) []
  extraDeployJobs := nearest (chain.give fun l => some l.ci.extraDeployJobs) .empty
  env := nearest (chain.give fun l => some l.ci.env) .empty
  secrets := nearest (chain.give (·.ci.secrets)) .inherit

/-- A destination with its values. -/
def Destination.resolve (s : Service) (g : Group) (d : Destination) : ResolvedDestination where
  name := d.name
  server := d.server
  space := (destinationChain s g d).space
  settings := (destinationChain s g d).settings

/-- A group with its values. -/
def Group.resolve (s : Service) (g : Group) : ResolvedGroup where
  name := g.name
  space := (groupChain s g).space
  settings := (groupChain s g).settings
  destinations := g.destinations.map (·.resolve s g)

/-- The source block with its defaults. -/
def Source.resolve (s : Source) : ResolvedSource where
  path := (filled? s.path).getD "."
  commitBranch := (filled? s.commitBranch).getD "main"
  included := (filled? s.included).getD "\x7b*.yml,*.yaml\x7d"
  excluded := filled? s.excluded

/-- The triggers of the top workflow: those given, or else a start by hand. -/
def ServiceCi.topTriggers (ci : ServiceCi) : Triggers :=
  match ci.triggers with
  | some t => if t.isEmpty then .byHand else t
  | none => .byHand

/-- The service with every value filled in. -/
def Service.resolve (s : Service) : ResolvedService where
  name := s.name
  source := s.source.resolve
  naming := s.naming
  triggers := s.ci.topTriggers
  groups := s.groups.map (·.resolve s)

end Rollout
