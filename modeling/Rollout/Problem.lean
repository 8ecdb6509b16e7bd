/-!
# Problems of a service

What is wrong with a service, each problem under the part of the tree in which it was found.

* `Problem`: one problem, or a part of the tree with the problems found in it.
* `Problem.text`, `Problem.textAll`: the message of a problem and of a list of them.
* `Problem.leaves`: one line for each problem, with the parts around it.
* `Problem.count`, `Problem.any`: search at every depth.
-/

namespace Rollout

/-- A problem of a service. -/
inductive Problem where
  /-- The document holds no service. -/
  | nilService
  | serviceNameRequired
  | noGroups
  /-- Problems inside one group. -/
  | group (name : String) (problems : List Problem)
  | groupNameRequired
  | duplicateGroupName (name : String)
  /-- A group name without letters and digits. -/
  | groupKeyEmpty
  /-- Two group names that make the same job key. -/
  | duplicateGroupKey (key first second : String)
  /-- Problems among the destinations of a group. -/
  | destinations (problems : List Problem)
  | noDestinations
  /-- Problems inside one destination. -/
  | destination (name : String) (problems : List Problem)
  | namespaceRequired
  | identityRequired
  | identityConflict
  | hostnameRequired
  | duplicateDestination (key : String)
  deriving Inhabited

namespace Problem

/-- The problems inside, if this is a part of the tree. -/
def children? : Problem → Option (List Problem)
  | .group _ ps | .destinations ps | .destination _ ps => some ps
  | _ => none

/-- The name of the part of the tree, if this is one. -/
def context? : Problem → Option String
  | .group g _ => some ("validating destination group: " ++ g)
  | .destinations _ => some "validating destinations"
  | .destination d _ => some ("validating destination: " ++ d)
  | _ => none

/-! ## Messages -/

/-- The message of a problem that holds no others. -/
def leafText : Problem → String
  | .nilService => "service is nil"
  | .serviceNameRequired => "service name is required"
  | .noGroups => "at least 1 destination group is required"
  | .groupNameRequired => "name is required"
  | .duplicateGroupName n => "duplicate destination group name: " ++ n
  | .groupKeyEmpty => "name must contain at least one letter or digit"
  | .duplicateGroupKey k a b =>
    "destination groups " ++ a ++ " and " ++ b ++ " both map to job key " ++ k
  | .noDestinations => "destinations is empty"
  | .namespaceRequired => "destination namespace is required"
  | .identityRequired => "one of clusterName or clusterUrl required"
  | .identityConflict =>
    "only one of clusterName or clusterUrl may be specified (mutually exclusive)"
  | .hostnameRequired => "argoCD.hostname is required"
  | .duplicateDestination k => "duplicate destination name: " ++ k
  | .group _ _ | .destinations _ | .destination _ _ => ""

mutual

/-- The message of a problem. -/
def text : Problem → String
  | .group g ps => "validating destination group: " ++ g ++ ": " ++ textAll ps
  | .destinations ps => "validating destinations: " ++ textAll ps
  | .destination d ps => "validating destination: " ++ d ++ ": " ++ textAll ps
  | p => leafText p

/-- The messages of some problems, one under the other. -/
def textAll : List Problem → String
  | [] => ""
  | [p] => p.text
  | p :: rest => p.text ++ "\n" ++ textAll rest

end

mutual

/-- One line for each problem inside, after a text that names the parts around it. -/
def leavesUnder (around : String) : Problem → List String
  | .group g ps => leavesAll (around ++ "validating destination group: " ++ g ++ ": ") ps
  | .destinations ps => leavesAll (around ++ "validating destinations" ++ ": ") ps
  | .destination d ps => leavesAll (around ++ "validating destination: " ++ d ++ ": ") ps
  | p => [around ++ leafText p]

/-- One line for each problem inside a list. -/
def leavesAll (around : String) : List Problem → List String
  | [] => []
  | p :: rest => leavesUnder around p ++ leavesAll around rest

end

/-- One line for each problem that is not a part of the tree, with the parts around it. -/
def leaves (ps : List Problem) : List String := leavesAll "" ps

/-! ## Search -/

mutual

/-- The number of problems at any depth that satisfy `p`, the problem itself included. -/
def countOne (p : Problem → Bool) : Problem → Nat
  | .group g ps => (p (.group g ps)).toNat + count p ps
  | .destinations ps => (p (.destinations ps)).toNat + count p ps
  | .destination d ps => (p (.destination d ps)).toNat + count p ps
  | q => (p q).toNat

/-- The number of problems at any depth of a list that satisfy `p`. -/
def count (p : Problem → Bool) : List Problem → Nat
  | [] => 0
  | q :: rest => countOne p q + count p rest

end

mutual

/-- Whether the problem, or one inside it, satisfies `p`. -/
def anyOne (p : Problem → Bool) : Problem → Bool
  | .group g ps => p (.group g ps) || any p ps
  | .destinations ps => p (.destinations ps) || any p ps
  | .destination d ps => p (.destination d ps) || any p ps
  | q => p q

/-- Whether a problem at any depth of a list satisfies `p`. -/
def any (p : Problem → Bool) : List Problem → Bool
  | [] => false
  | q :: rest => anyOne p q || any p rest

end

end Problem

end Rollout
