import Rollout.Application.Basic
import Rollout.Naming

/-!
# Manifests

One application document per destination, and where each is written.

* `joinPath`: a file in a directory of the repository.
* `ResolvedDestination.application`: the document.
* `buildManifests`: all documents and the index from destinations to their paths.
-/

namespace Rollout

/-! ## What breaks a pipeline -/

/-- Why no pipeline can be built. -/
inductive SynthesisError where
  | missingManifest (key : DestinationKey)
  | missingName (key : DestinationKey)
  | duplicateJob (workflow job : String)
  | emptyJobName (workflow raw : String)
  | duplicatePath (path : String)
  deriving DecidableEq, Inhabited

/-! ## Paths -/

/-- Drops the slashes at the end of a path. -/
def dropEndSlashes (dir : String) : String :=
  String.ofList (dir.toList.reverse.dropWhile (· = '/')).reverse

/-- The path of a file in a directory of the repository. -/
def joinPath (dir file : String) : String :=
  let dir := dropEndSlashes dir
  if dir.isEmpty || dir = "." then file else dir ++ "/" ++ file

-- Paths are not computed to compare them.
attribute [irreducible] joinPath

/-! ## Documents -/

/-- Settings of the generated manifests. -/
structure ManifestOptions where
  repoUrl : String
  targetRevision : String := "HEAD"
  applicationNamespace : String := "argocd"
  project : String := "default"
  outputDir : String := ".rollgate/applications"
  deriving DecidableEq, Inhabited

/-- The target block: the cluster by its name, or else by its address. -/
def ResolvedDestination.target (d : ResolvedDestination) : ApplicationTarget :=
  match filled? d.name with
  | some name => { name := some name, server := none, space := d.space.value }
  | none => { name := none, server := d.server, space := d.space.value }

/-- The application document of a destination. -/
def ResolvedDestination.application (d : ResolvedDestination) (s : ResolvedService)
    (name : String) (options : ManifestOptions) : Application where
  metadata :=
    { name
      space := options.applicationNamespace
      labels := OrderedMap.empty.insert "app.kubernetes.io/managed-by" "rollgate" }
  spec :=
    { project := options.project
      source :=
        { repoUrl := options.repoUrl
          path := s.source.path
          targetRevision := options.targetRevision
          directory := some
            { recurse := true, included := some s.source.included, excluded := s.source.excluded } }
      destination := d.target
      syncPolicy := d.settings.syncPolicy.value }

/-- A manifest and where it is written. -/
structure ManifestRecord where
  path : String
  application : Application
  deriving DecidableEq, Inhabited

/-- Manifest paths by destination, in declared order. Only look-ups read them. -/
abbrev ManifestIndex := OrderedMap DestinationKey String

/-- Builds manifests from left to right. -/
def buildFrom (s : ResolvedService) (names : NameTable) (options : ManifestOptions)
    (index : ManifestIndex) : List ResolvedDestination →
      Except SynthesisError (List ManifestRecord × ManifestIndex)
  | [] => .ok ([], index)
  | d :: rest =>
    match names.get? d.key with
    | none => .error (.missingName d.key)
    | some derived =>
      let path := joinPath options.outputDir (derived.resource ++ ".yaml")
      if index.contains d.key then .error (.duplicatePath path)
      else do
        let (records, index) ← buildFrom s names options (index.insert d.key path) rest
        return (⟨path, d.application s derived.resource options⟩ :: records, index)

/-- One manifest per destination, and the index of their paths. -/
def buildManifests (s : ResolvedService) (names : NameTable) (options : ManifestOptions) :
    Except SynthesisError (List ManifestRecord × ManifestIndex) :=
  buildFrom s names options .empty (s.destinations.map (·.2))

end Rollout
