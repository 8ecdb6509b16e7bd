import Rollout.Service.Basic
import Rollout.Workflow.Codec

/-!
# Document form of services

The fields of each record of a service document, in the order in which they are written.

* `Service.schema`, `Group.schema`, `Destination.schema`: the tree.
* `ServiceCi.codec`: the service's CI block, which holds its settings and triggers side by side.
-/

namespace Rollout

open Codec RecordField

/-! ## Settings -/

/-- The fields of automatic synchronisation. -/
def AutomatedSync.schema : Schema AutomatedSync where
  blank := {}
  fields := [
    defaulted "prune" bool (·.prune) fun v x => { x with prune := v },
    defaulted "selfHeal" bool (·.selfHeal) fun v x => { x with selfHeal := v }]

/-- The fields of a sync policy. -/
def SyncPolicy.schema : Schema SyncPolicy where
  blank := {}
  fields := [
    optional "automated" AutomatedSync.schema.codec (·.automated)
      fun v x => { x with automated := v },
    items "syncOptions" text (·.syncOptions) fun v x => { x with syncOptions := v }]

/-- The fields of the controller settings. -/
def ControllerSettings.schema : Schema ControllerSettings where
  blank := {}
  fields := [
    optional "hostname" text (·.hostname) fun v x => { x with hostname := v },
    items "loginCommandArgs" text (·.loginArgs) fun v x => { x with loginArgs := v },
    items "extraArgs" text (·.extraArgs) fun v x => { x with extraArgs := v },
    optional "useKubeContext" text (·.kubeContext) fun v x => { x with kubeContext := v },
    optional "syncTimeoutSeconds" word (·.syncTimeoutSeconds)
      fun v x => { x with syncTimeoutSeconds := v },
    optional "retryLimit" word (·.retryLimit) fun v x => { x with retryLimit := v },
    optional "syncPolicy" SyncPolicy.schema.codec (·.syncPolicy)
      fun v x => { x with syncPolicy := v }]

/-- The fields of the CI settings. -/
def CiSettings.schema : Schema CiSettings where
  blank := {}
  fields := [
    items "preDeploySteps" Step.schema.codec (·.preDeploySteps)
      fun v x => { x with preDeploySteps := v },
    items "postDeploySteps" Step.schema.codec (·.postDeploySteps)
      fun v x => { x with postDeploySteps := v },
    entries "extraDeployJobs" Job.schema.codec (·.extraDeployJobs)
      fun v x => { x with extraDeployJobs := v },
    entries "env" text (·.env) fun v x => { x with env := v },
    optional "secrets" SecretsPolicy.codec (·.secrets) fun v x => { x with secrets := v }]

namespace ServiceCi

/-- The document form: the settings, then the triggers. -/
def encode (x : ServiceCi) : Value :=
  .object (CiSettings.schema.encode x.settings
    ++ (x.triggers.map fun t => ("on", Triggers.schema.codec.encode t)).toList)

/-- Reads the entries of the block. Triggers are read where they stand; every other entry is put
aside with its words typed, and the settings are read from those at the end. -/
def decodeEntries (d : Dialect) : List (Node × Node) → (aside : List (Node × Node)) →
    (triggers : Option (Option Triggers)) → Except Fault ServiceCi
  | [], aside, triggers => do
    let settings ← CiSettings.schema.decode .settled (.map aside)
    return { settings, triggers := triggers.join }
  | (k, v) :: rest, aside, triggers => do
    let key ← k.asText d
    if key = "on" then
      if triggers.isSome then .error .unsuitable
      else
        let t ← Triggers.schema.codec.option.decode d v
        decodeEntries d rest aside (some t)
    else
      let typed ← v.settle
      decodeEntries d rest (aside ++ [(.text key, typed)]) triggers

/-- Reads the block, which has to be a map. -/
def decode (d : Dialect) : Node → Except Fault ServiceCi
  | .map entries => decodeEntries d entries [] none
  | .barred f _ | .torn f => .error f
  | n => if n.isVoid d then decodeEntries d [] [] none else .error .unsuitable

/-- The codec of the block. -/
def codec : Codec ServiceCi := ⟨encode, decode⟩

end ServiceCi

/-! ## The tree -/

/-- The fields of a destination. -/
def Destination.schema : Schema Destination where
  blank := {}
  fields := [
    optional "name" text (·.name) fun v x => { x with name := v },
    optional "server" text (·.server) fun v x => { x with server := v },
    optional "namespace" text (·.space) fun v x => { x with space := v },
    defaulted "argoCD" ControllerSettings.schema.codec (·.controller)
      fun v x => { x with controller := v },
    defaulted "github" CiSettings.schema.codec (·.ci) fun v x => { x with ci := v }]

/-- The fields of a group. -/
def Group.schema : Schema Group where
  blank := {}
  fields := [
    defaulted "name" text (·.name) fun v x => { x with name := v },
    defaulted "destinations" Destination.schema.codec.list (·.destinations)
      fun v x => { x with destinations := v },
    optional "destinationNamespace" text (·.space) fun v x => { x with space := v },
    defaulted "argoCD" ControllerSettings.schema.codec (·.controller)
      fun v x => { x with controller := v },
    defaulted "github" CiSettings.schema.codec (·.ci) fun v x => { x with ci := v }]

/-- The fields of a naming scheme. -/
def NamingScheme.schema : Schema NamingScheme where
  blank := {}
  fields := [
    { defaulted "includeDestinationNamespace" bool (·.withNamespace)
        fun v x => { x with withNamespace := v } with other? := some "usingManyNamespaces" },
    defaulted "includeGroup" bool (·.withGroup) fun v x => { x with withGroup := v }]

/-- The fields of a source block. -/
def Source.schema : Schema Source where
  blank := {}
  fields := [
    optional "path" text (·.path) fun v x => { x with path := v },
    optional "commitBranch" text (·.commitBranch) fun v x => { x with commitBranch := v },
    optional "include" text (·.included) fun v x => { x with included := v },
    optional "exclude" text (·.excluded) fun v x => { x with excluded := v }]

/-- The fields of a service. -/
def Service.schema : Schema Service where
  blank := {}
  fields := [
    defaulted "name" text (·.name) fun v x => { x with name := v },
    defaulted "destinationGroups" Group.schema.codec.list (·.groups)
      fun v x => { x with groups := v },
    optional "destinationNamespace" text (·.space) fun v x => { x with space := v },
    defaulted "applicationNameUniquenessStrategy" NamingScheme.schema.codec (·.naming)
      fun v x => { x with naming := v },
    defaulted "source" Source.schema.codec (·.source) fun v x => { x with source := v },
    defaulted "argoCD" ControllerSettings.schema.codec (·.controller)
      fun v x => { x with controller := v },
    defaulted "github" ServiceCi.codec (·.ci) fun v x => { x with ci := v }]

end Rollout
