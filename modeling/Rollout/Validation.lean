import Rollout.Problem
import Rollout.Resolved.Basic

/-!
# Validation

Collects everything that is wrong with a resolved service.

* `ResolvedDestination.problems`: the checks of one destination.
* `checkDestinations`, `checkGroups`: the checks across destinations and groups.
* `ResolvedService.problems`: all problems; a valid service has none.
-/

namespace Rollout

/-! ## Duplicates -/

/-- Values that were met, and those whose repetition was told. -/
structure Tracker (α : Type) where
  seen : List α := []
  reported : List α := []

/-- Meets a value: whether it now comes for the second time. -/
def Tracker.observe {α : Type} [DecidableEq α] (t : Tracker α) (a : α) : Bool × Tracker α :=
  if a ∉ t.seen then (false, { t with seen := a :: t.seen })
  else if a ∉ t.reported then (true, { t with reported := a :: t.reported })
  else (false, t)

/-! ## One destination -/

namespace ResolvedDestination

/-- Whether the cluster is given by name. -/
def hasName (d : ResolvedDestination) : Bool := (filled? d.name).isSome

/-- Whether the cluster is given by address. -/
def hasServer (d : ResolvedDestination) : Bool := (filled? d.server).isSome

/-- Whether the destination has a key: a namespace and exactly one way to find the cluster. -/
def hasKey (d : ResolvedDestination) : Bool :=
  !d.space.value.isEmpty && (d.hasName != d.hasServer)

/-- The problem with how the cluster is given, if any. -/
def identityProblems (d : ResolvedDestination) : List Problem :=
  match d.hasName, d.hasServer with
  | false, false => [.identityRequired]
  | true, true => [.identityConflict]
  | _, _ => []

/-- The problems of one destination. -/
def problems (d : ResolvedDestination) : List Problem :=
  (if d.space.value.isEmpty then [.namespaceRequired] else [])
    ++ d.identityProblems
    ++ (if d.settings.hostname.value.isEmpty then [.hostnameRequired] else [])

/-- How messages call the destination at a place of its group. -/
def label (d : ResolvedDestination) (index : Nat) : String :=
  if d.identity.isEmpty then "#" ++ toString index else d.identity

/-- The problems of one destination under its label. -/
def ownProblems (d : ResolvedDestination) (index : Nat) : List Problem :=
  if d.problems.isEmpty then [] else [.destination (d.label index) d.problems]

end ResolvedDestination

/-! ## The destinations of a group -/

/-- The problems of destinations from a place of their group on. A key that comes for the second
time is told once. -/
def checkDestinations (keys : Tracker DestinationKey) (index : Nat) :
    List ResolvedDestination → List Problem × Tracker DestinationKey
  | [] => ([], keys)
  | d :: rest =>
    let (again, keys) := if d.hasKey then keys.observe d.key else (false, keys)
    let repeated := if again then [.duplicateDestination d.key.text] else []
    let (others, keys) := checkDestinations keys (index + 1) rest
    (d.ownProblems index ++ repeated ++ others, keys)

/-- The problems of a group's name. -/
def ResolvedGroup.nameProblems (g : ResolvedGroup) : List Problem :=
  if g.name.isEmpty then [.groupNameRequired]
  else if g.stageKey.isEmpty then [.groupKeyEmpty]
  else []

/-- The problems of a group. -/
def checkGroup (keys : Tracker DestinationKey) (g : ResolvedGroup) :
    List Problem × Tracker DestinationKey :=
  let (found, keys) := checkDestinations keys 0 g.destinations
  let inside := (if g.destinations.isEmpty then [.noDestinations] else []) ++ found
  (g.nameProblems ++ (if inside.isEmpty then [] else [.destinations inside]), keys)

/-- How messages call a group. -/
def ResolvedGroup.label (g : ResolvedGroup) : String :=
  if g.name.isEmpty then "<empty>" else g.name

/-! ## The groups of a service -/

/-- The stage keys taken so far, each with the name of the group that took it, and those whose
repetition was told. -/
structure StageKeys where
  owners : List (String × String) := []
  reported : List String := []

/-- Takes the stage key of a group, or tells of the first other name that took it. -/
def StageKeys.observe (t : StageKeys) (g : ResolvedGroup) : List Problem × StageKeys :=
  match t.owners.lookup g.stageKey with
  | none => ([], { t with owners := (g.stageKey, g.name) :: t.owners })
  | some first =>
    if first = g.name ∨ g.stageKey ∈ t.reported then ([], t)
    else
      ([.duplicateGroupKey g.stageKey first g.name],
        { t with reported := g.stageKey :: t.reported })

/-- What the groups before have taken. -/
structure Trackers where
  names : Tracker String := {}
  stages : StageKeys := {}
  keys : Tracker DestinationKey := {}

/-- The problems of groups. A group with problems of its own takes neither its name nor its stage
key. -/
def checkGroups (t : Trackers) : List ResolvedGroup → List Problem
  | [] => []
  | g :: rest =>
    let (own, keys) := checkGroup t.keys g
    let t := { t with keys }
    if !own.isEmpty then .group g.label own :: checkGroups t rest
    else
      let (again, names) := t.names.observe g.name
      let t := { t with names }
      if again then .duplicateGroupName g.name :: checkGroups t rest
      else
        let (clash, stages) := t.stages.observe g
        clash ++ checkGroups { t with stages } rest

/-- All problems of a service. -/
def ResolvedService.problems (s : ResolvedService) : List Problem :=
  (if s.name.isEmpty then [.serviceNameRequired] else [])
    ++ (if s.groups.isEmpty then [.noGroups] else [])
    ++ checkGroups {} s.groups

end Rollout
