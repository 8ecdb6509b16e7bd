import Rollout.Document.Record
import Rollout.Workflow.Basic

/-!
# Document form of workflows

The fields of each record of a workflow document, in the order in which they are written.

* `Step.schema`, `Job.schema`, `Triggers.schema`, `Workflow.schema`.
-/

namespace Rollout

open Codec RecordField

/-- The fields of a step. -/
def Step.schema : Schema Step where
  blank := {}
  fields := [
    optional "id" text (·.id) fun v x => { x with id := v },
    optional "name" text (·.name) fun v x => { x with name := v },
    optional "if" text (·.condition) fun v x => { x with condition := v },
    optional "uses" text (·.uses) fun v x => { x with uses := v },
    optional "run" text (·.run) fun v x => { x with run := v },
    optional "working-directory" text (·.workingDirectory)
      fun v x => { x with workingDirectory := v },
    optional "shell" text (·.shell) fun v x => { x with shell := v },
    entries "with" generic (·.inputs) fun v x => { x with inputs := v },
    entries "env" text (·.env) fun v x => { x with env := v },
    optional "continue-on-error" bool (·.continueOnError)
      fun v x => { x with continueOnError := v },
    optional "timeout-minutes" word (·.timeoutMinutes) fun v x => { x with timeoutMinutes := v }]

/-- The fields of a concurrency block. -/
def Concurrency.schema : Schema Concurrency where
  blank := {}
  fields := [
    mandatory "group" text (·.group) fun v x => { x with group := v },
    defaulted "cancel-in-progress" bool (·.cancelInProgress)
      fun v x => { x with cancelInProgress := v }]

/-- The fields of the script defaults. -/
def RunDefaults.schema : Schema RunDefaults where
  blank := {}
  fields := [
    optional "shell" text (·.shell) fun v x => { x with shell := v },
    optional "working-directory" text (·.workingDirectory)
      fun v x => { x with workingDirectory := v }]

/-- The fields of a defaults block. -/
def Defaults.schema : Schema Defaults where
  blank := {}
  fields := [mandatory "run" RunDefaults.schema.codec (·.run) fun v x => { x with run := v }]

/-- The fields of a job. -/
def Job.schema : Schema Job where
  blank := {}
  fields := [
    optional "name" text (·.name) fun v x => { x with name := v },
    items "needs" text (·.needs) fun v x => { x with needs := v },
    optional "if" text (·.condition) fun v x => { x with condition := v },
    items "runs-on" text (·.runsOn) fun v x => { x with runsOn := v },
    entries "permissions" text (·.permissions) fun v x => { x with permissions := v },
    optional "concurrency" Concurrency.schema.codec (·.concurrency)
      fun v x => { x with concurrency := v },
    entries "env" text (·.env) fun v x => { x with env := v },
    optional "defaults" Defaults.schema.codec (·.defaults) fun v x => { x with defaults := v },
    items "steps" Step.schema.codec (·.steps) fun v x => { x with steps := v },
    optional "timeout-minutes" word (·.timeoutMinutes) fun v x => { x with timeoutMinutes := v },
    optional "uses" text (·.uses) fun v x => { x with uses := v },
    entries "with" generic (·.inputs) fun v x => { x with inputs := v },
    optional "secrets" SecretsPolicy.codec (·.secrets) fun v x => { x with secrets := v }]

/-- The fields of a push trigger. -/
def PushTrigger.schema : Schema PushTrigger where
  blank := {}
  fields := [
    items "branches" text (·.branches) fun v x => { x with branches := v },
    items "paths" text (·.paths) fun v x => { x with paths := v }]

/-- The fields of a manual trigger. -/
def DispatchTrigger.schema : Schema DispatchTrigger where
  blank := {}
  fields := [entries "inputs" generic (·.inputs) fun v x => { x with inputs := v }]

/-- The fields of a call trigger. -/
def CallTrigger.schema : Schema CallTrigger where
  blank := {}
  fields := [entries "inputs" generic (·.inputs) fun v x => { x with inputs := v }]

/-- The fields of a triggers block. -/
def Triggers.schema : Schema Triggers where
  blank := {}
  fields := [
    optional "push" PushTrigger.schema.codec (·.push) fun v x => { x with push := v },
    optional "workflow_dispatch" DispatchTrigger.schema.codec (·.dispatch)
      fun v x => { x with dispatch := v },
    optional "workflow_call" CallTrigger.schema.codec (·.call) fun v x => { x with call := v }]

/-- The fields of a workflow. -/
def Workflow.schema : Schema Workflow where
  blank := {}
  fields := [
    mandatory "name" text (·.name) fun v x => { x with name := v },
    defaulted "on" Triggers.schema.codec (·.triggers) fun v x => { x with triggers := v },
    optional "concurrency" Concurrency.schema.codec (·.concurrency)
      fun v x => { x with concurrency := v },
    optional "defaults" Defaults.schema.codec (·.defaults) fun v x => { x with defaults := v },
    defaulted "jobs" Job.schema.codec.map (·.jobs) fun v x => { x with jobs := v }]

end Rollout
