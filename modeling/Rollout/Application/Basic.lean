import Rollout.Service.Basic

/-!
# Applications

The record by which the GitOps controller knows a destination.

* `Application`: its name, its source in the repository and its target.
-/

namespace Rollout

/-- Name and labels of a document. -/
structure ObjectMeta where
  name : String := ""
  space : String := ""
  labels : Variables := .empty
  deriving DecidableEq, Inhabited

/-- Which files of a directory belong to the source. -/
structure SourceDirectory where
  recurse : Bool := false
  included : Option String := none
  excluded : Option String := none
  deriving DecidableEq, Inhabited

/-- Where the controller finds the manifests. -/
structure ApplicationSource where
  repoUrl : String := ""
  path : String := ""
  /-- The revision to deploy, which every deploy job sets anew. -/
  targetRevision : String := ""
  directory : Option SourceDirectory := none
  deriving DecidableEq, Inhabited

/-- The cluster, by name or by address, and the namespace. -/
structure ApplicationTarget where
  name : Option String := none
  server : Option String := none
  space : String := ""
  deriving DecidableEq, Inhabited

/-- What the controller deploys where. -/
structure ApplicationSpec where
  project : String := ""
  source : ApplicationSource := {}
  destination : ApplicationTarget := {}
  syncPolicy : Option SyncPolicy := none
  deriving DecidableEq, Inhabited

/-- A document of the GitOps controller. -/
structure Application where
  apiVersion : String := "argoproj.io/v1alpha1"
  kind : String := "Application"
  metadata : ObjectMeta := {}
  spec : ApplicationSpec := {}
  deriving DecidableEq, Inhabited

end Rollout
