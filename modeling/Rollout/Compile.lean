import Rollout.ArtifactSet
import Rollout.Cascade
import Rollout.Text.Quoted
import Rollout.Validation

/-!
# Compilation

From an authored service to its artifacts.

* `Service.plan`: the resolved, valid service and its names.
* `Service.compile`: the artifacts, or why there are none.
-/

namespace Rollout

/-- Why a service has no artifacts. -/
inductive CompileError where
  | invalid (problems : List Problem)
  | naming (errors : List NameError)
  | synthesis (error : SynthesisError)
  deriving Inhabited

/-- The message of what breaks a pipeline. -/
def SynthesisError.text : SynthesisError → String
  | .missingManifest k => "no manifest recorded for destination " ++ k.text
  | .missingName k => "no derived name recorded for destination " ++ k.text
  | .duplicateJob w j => "workflow " ++ w ++ " already defines job " ++ j
  | .emptyJobName w raw =>
    "workflow " ++ w ++ ": job name derived from " ++ Text.quoted raw ++ " is empty"
  | .duplicatePath p => "artifact path " ++ p ++ " generated more than once"

/-- The message of a failed compilation. -/
def CompileError.text : CompileError → String
  | .invalid ps => Problem.textAll ps
  | .naming es => "deriving names: " ++ NameError.textAll es
  | .synthesis e => e.text

/-- Settings of the generated documents. -/
structure CompileOptions where
  manifests : ManifestOptions
  workflows : WorkflowOptions := {}
  deriving DecidableEq, Inhabited

/-- A valid service and the names of its destinations. -/
structure Plan where
  service : ResolvedService
  names : NameTable

/-- Resolves and validates a service and derives its names. -/
def Service.plan (s : Service) : Except CompileError Plan :=
  let service := s.resolve
  match service.problems with
  | [] =>
    match service.deriveNames with
    | .ok names => .ok ⟨service, names⟩
    | .error es => .error (.naming es)
  | ps => .error (.invalid ps)

/-- The artifacts of a plan. -/
def Plan.artifacts (p : Plan) (o : CompileOptions) : Except SynthesisError ArtifactSet := do
  let (manifests, index) ← buildManifests p.service p.names o.manifests
  let pipeline ← synthesize p.service ⟨p.names, index⟩ o.workflows
  ArtifactSet.assemble manifests pipeline

/-- The artifacts of a service. -/
def Service.compile (s : Service) (o : CompileOptions) : Except CompileError ArtifactSet := do
  let p ← s.plan
  match p.artifacts o with
  | .ok set => .ok set
  | .error e => .error (.synthesis e)

end Rollout
