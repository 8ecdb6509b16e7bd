import Rollout.DeployJob
import Rollout.Manifest

/-!
# The promotion pipeline

Three tiers of workflows: one per destination, which deploys it; one per group, which calls those
of its destinations side by side; and one on top, which calls the groups one after the other.

* `WorkflowOptions.path`, `WorkflowOptions.reference`: where a workflow is written and how it is
  called.
* `synthesize`: the workflows of a service, or the first thing that prevents them.
-/

namespace Rollout

/-! ## Where workflows are written -/

/-- Settings of the generated workflows. -/
structure WorkflowOptions where
  outputDir : String := ".github/workflows"
  /-- What the names of generated files start with. -/
  filePrefix : String := "rollgate"
  runsOn : List String := ["ubuntu-latest"]
  deriving DecidableEq, Inhabited

namespace WorkflowOptions

/-- The file name of a workflow. -/
def fileName (o : WorkflowOptions) (workflow : String) : String :=
  o.filePrefix ++ "-" ++ sanitize workflow ++ ".yml"

/-- The path of a workflow in the repository. -/
def path (o : WorkflowOptions) (workflow : String) : String :=
  joinPath o.outputDir (o.fileName workflow)

/-- How jobs refer to a workflow that they call. -/
def reference (o : WorkflowOptions) (workflow : String) : String := "./" ++ o.path workflow

end WorkflowOptions

/-- A workflow and where it is written. -/
structure WorkflowRecord where
  path : String
  workflow : Workflow
  deriving DecidableEq, Inhabited

/-- A workflow at the path of its name. -/
def WorkflowOptions.record (o : WorkflowOptions) (w : Workflow) : WorkflowRecord :=
  ⟨o.path w.name, w⟩

/-- The workflows of a service. -/
structure Pipeline where
  top : WorkflowRecord
  /-- One per group, in declared order. -/
  groups : List WorkflowRecord
  /-- One per destination, in declared order. -/
  destinations : List WorkflowRecord
  deriving DecidableEq, Inhabited

/-- Every workflow, those that are called before those that call them. -/
def Pipeline.workflows (p : Pipeline) : List WorkflowRecord :=
  p.destinations ++ p.groups ++ [p.top]

/-! ## Destinations -/

/-- The workflow of a destination: the author's jobs and the deploy job, which prevails over one
with its key. -/
def destinationWorkflow (s : ResolvedService) (d : ResolvedDestination) (names : Names)
    (manifestPath : String) (o : WorkflowOptions) : Workflow where
  name := names.resource
  triggers := .byHandOrCall
  concurrency := some { group := names.resource, cancelInProgress := false }
  defaults := some .bash
  jobs := d.settings.extraDeployJobs.value.insert names.job
    (DeployInput.job ⟨names.resource, d.identity, s.source.commitBranch, manifestPath, d.settings,
      o.runsOn⟩)

/-! ## Groups -/

/-- Adds a job under a key that is still free. -/
def addJob (workflow : String) (jobs : Jobs) (key : String) (job : Job) :
    Except SynthesisError Jobs :=
  if jobs.contains key then .error (.duplicateJob workflow key) else .ok (jobs.insert key job)

/-- The display name of a group's workflow. -/
def groupWorkflowName (s : ResolvedService) (g : ResolvedGroup) : String := s.name ++ "-" ++ g.name

/-- The job that calls the workflow of a destination. -/
def destinationCall (d : ResolvedDestination) (names : Names) (o : WorkflowOptions) : Job :=
  .calling names.resource (o.reference names.resource) d.settings.secrets.value

/-- The tables that earlier stages leave. -/
structure Tables where
  names : NameTable
  manifests : ManifestIndex
  deriving Inhabited

/-- The workflows of destinations from left to right, and the group's jobs with their calls. -/
def synthesizeDestinations (s : ResolvedService) (t : Tables) (o : WorkflowOptions)
    (workflow : String) (jobs : Jobs) : List ResolvedDestination →
      Except SynthesisError (List WorkflowRecord × Jobs)
  | [] => .ok ([], jobs)
  | d :: rest =>
    match t.names.get? d.key, t.manifests.get? d.key with
    | none, _ => .error (.missingName d.key)
    | some _, none => .error (.missingManifest d.key)
    | some names, some path => do
      let jobs ← addJob workflow jobs names.job (destinationCall d names o)
      let (records, jobs) ← synthesizeDestinations s t o workflow jobs rest
      return (o.record (destinationWorkflow s d names path o) :: records, jobs)

/-- The workflow of a group. -/
def groupWorkflow (s : ResolvedService) (g : ResolvedGroup) (jobs : Jobs) : Workflow where
  name := groupWorkflowName s g
  triggers := .byHandOrCall
  jobs := jobs

/-- One group: its workflow and those of its destinations. -/
structure GroupTier where
  group : WorkflowRecord
  destinations : List WorkflowRecord
  deriving Inhabited

/-- The workflows of one group. -/
def synthesizeGroup (s : ResolvedService) (t : Tables) (o : WorkflowOptions) (g : ResolvedGroup) :
    Except SynthesisError GroupTier := do
  let (records, jobs) ←
    synthesizeDestinations s t o (groupWorkflowName s g) .empty g.destinations
  if g.stageKey.isEmpty then .error (.emptyJobName s.name g.name)
  else return ⟨o.record (groupWorkflow s g jobs), records⟩

/-- The workflows of groups from left to right. -/
def synthesizeGroups (s : ResolvedService) (t : Tables) (o : WorkflowOptions) :
    List ResolvedGroup → Except SynthesisError (List GroupTier)
  | [] => .ok []
  | g :: rest => do
    let tier ← synthesizeGroup s t o g
    let tiers ← synthesizeGroups s t o rest
    return tier :: tiers

/-! ## The top workflow -/

/-- The job that calls the workflow of a group once another stage has succeeded. -/
def stageCall (s : ResolvedService) (o : WorkflowOptions) (g : ResolvedGroup)
    (previous : Option String) : Job :=
  { Job.calling g.name (o.reference (groupWorkflowName s g)) g.settings.secrets.value with
    needs := previous.toList }

/-- Adds the stages from left to right, each waiting for the one before. -/
def addStages (s : ResolvedService) (o : WorkflowOptions) (jobs : Jobs)
    (previous : Option String) : List ResolvedGroup → Except SynthesisError Jobs
  | [] => .ok jobs
  | g :: rest => do
    let jobs ← addJob s.name jobs g.stageKey (stageCall s o g previous)
    addStages s o jobs (some g.stageKey) rest

/-- The top workflow. -/
def topWorkflow (s : ResolvedService) (jobs : Jobs) : Workflow where
  name := s.name
  triggers := s.triggers
  jobs := jobs

/-- All workflows of a service. -/
def synthesize (s : ResolvedService) (t : Tables) (o : WorkflowOptions) :
    Except SynthesisError Pipeline := do
  let tiers ← synthesizeGroups s t o s.groups
  let jobs ← addStages s o .empty none s.groups
  return {
    top := o.record (topWorkflow s jobs)
    groups := tiers.map (·.group)
    destinations := tiers.flatMap (·.destinations) }

end Rollout
