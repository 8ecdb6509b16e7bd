import Rollout.Secrets

/-!
# Workflows

The part of a CI workflow document that authors supply and the pipeline consists of.

* `Step`, `Job`, `Workflow`: a workflow runs jobs, a job runs steps or calls another workflow.
* `Triggers`: the events that start a workflow.
-/

namespace Rollout

/-- Text values by name. -/
abbrev Variables := OrderedMap String String

/-- Untyped values by name. -/
abbrev Inputs := OrderedMap String Generic

/-! ## Steps -/

/-- A step of a job. -/
structure Step where
  id : Option String := none
  name : Option String := none
  condition : Option String := none
  uses : Option String := none
  run : Option String := none
  workingDirectory : Option String := none
  shell : Option String := none
  inputs : Inputs := .empty
  env : Variables := .empty
  continueOnError : Option Bool := none
  timeoutMinutes : Option UInt32 := none
  deriving DecidableEq, Inhabited

namespace Step

/-- A step that runs a script. -/
def script (name text : String) : Step := { name := some name, run := some text }

/-- A step that runs an action. -/
def action (name reference : String) : Step := { name := some name, uses := some reference }

/-- The step with one more input. -/
def withInput (s : Step) (key : String) (value : Generic) : Step :=
  { s with inputs := s.inputs.insert key value }

/-- The step with one more variable. -/
def withEnv (s : Step) (key value : String) : Step := { s with env := s.env.insert key value }

end Step

/-! ## Jobs -/

/-- The runs of a workflow that exclude one another. -/
structure Concurrency where
  group : String := ""
  cancelInProgress : Bool := false
  deriving DecidableEq, Inhabited

/-- How script steps are run. -/
structure RunDefaults where
  shell : Option String := none
  workingDirectory : Option String := none
  deriving DecidableEq, Inhabited

/-- Defaults for the steps of a job or workflow. -/
structure Defaults where
  run : RunDefaults := {}
  deriving DecidableEq, Inhabited

/-- Scripts run in `bash`. -/
def Defaults.bash : Defaults := { run := { shell := some "bash" } }

/-- A job: a list of steps, or a call of another workflow. -/
structure Job where
  name : Option String := none
  /-- The jobs that must have succeeded before. -/
  needs : List String := []
  condition : Option String := none
  runsOn : List String := []
  permissions : Variables := .empty
  concurrency : Option Concurrency := none
  env : Variables := .empty
  defaults : Option Defaults := none
  steps : List Step := []
  timeoutMinutes : Option UInt32 := none
  uses : Option String := none
  inputs : Inputs := .empty
  secrets : Option SecretsPolicy := none
  deriving DecidableEq, Inhabited

namespace Job

/-- A job that calls another workflow. -/
def calling (name reference : String) (secrets : SecretsPolicy) : Job :=
  { name := some name, uses := some reference, secrets := some secrets }

/-- Whether the job calls another workflow. -/
def isCall (j : Job) : Bool := j.uses.isSome

end Job

/-- Jobs by their keys, in order. -/
abbrev Jobs := OrderedMap String Job

/-! ## Triggers -/

/-- A push to certain branches or paths. -/
structure PushTrigger where
  branches : List String := []
  paths : List String := []
  deriving DecidableEq, Inhabited

/-- A start by hand. -/
structure DispatchTrigger where
  inputs : Inputs := .empty
  deriving DecidableEq, Inhabited

/-- A call by another workflow. -/
structure CallTrigger where
  inputs : Inputs := .empty
  deriving DecidableEq, Inhabited

/-- The events that start a workflow. -/
structure Triggers where
  push : Option PushTrigger := none
  dispatch : Option DispatchTrigger := none
  call : Option CallTrigger := none
  deriving DecidableEq, Inhabited

namespace Triggers

/-- Started by hand only. -/
def byHand : Triggers := { dispatch := some {} }

/-- Started by hand or called by another workflow. -/
def byHandOrCall : Triggers := { dispatch := some {}, call := some {} }

/-- Whether nothing starts the workflow. -/
def isEmpty (t : Triggers) : Bool := t.push.isNone && t.dispatch.isNone && t.call.isNone

end Triggers

/-! ## Workflows -/

/-- A workflow document. -/
structure Workflow where
  /-- The display name. -/
  name : String := ""
  triggers : Triggers := {}
  concurrency : Option Concurrency := none
  defaults : Option Defaults := none
  jobs : Jobs := .empty
  deriving DecidableEq, Inhabited

end Rollout
