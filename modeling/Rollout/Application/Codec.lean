import Rollout.Application.Basic
import Rollout.Service.Codec

/-!
# Document form of applications

The fields of each record of an application document, in the order in which they are written.

* `Application.schema`.
-/

namespace Rollout

open Codec RecordField

/-- The fields of the metadata. -/
def ObjectMeta.schema : Schema ObjectMeta where
  blank := {}
  fields := [
    mandatory "name" text (·.name) fun v x => { x with name := v },
    mandatory "namespace" text (·.space) fun v x => { x with space := v },
    entries "labels" text (·.labels) fun v x => { x with labels := v }]

/-- The fields of a source directory. -/
def SourceDirectory.schema : Schema SourceDirectory where
  blank := {}
  fields := [
    mandatory "recurse" bool (·.recurse) fun v x => { x with recurse := v },
    optional "include" text (·.included) fun v x => { x with included := v },
    optional "exclude" text (·.excluded) fun v x => { x with excluded := v }]

/-- The fields of an application's source. -/
def ApplicationSource.schema : Schema ApplicationSource where
  blank := {}
  fields := [
    mandatory "repoURL" text (·.repoUrl) fun v x => { x with repoUrl := v },
    mandatory "path" text (·.path) fun v x => { x with path := v },
    mandatory "targetRevision" text (·.targetRevision)
      fun v x => { x with targetRevision := v },
    optional "directory" SourceDirectory.schema.codec (·.directory)
      fun v x => { x with directory := v }]

/-- The fields of an application's target. -/
def ApplicationTarget.schema : Schema ApplicationTarget where
  blank := {}
  fields := [
    optional "name" text (·.name) fun v x => { x with name := v },
    optional "server" text (·.server) fun v x => { x with server := v },
    mandatory "namespace" text (·.space) fun v x => { x with space := v }]

/-- The fields of an application's specification. -/
def ApplicationSpec.schema : Schema ApplicationSpec where
  blank := {}
  fields := [
    mandatory "project" text (·.project) fun v x => { x with project := v },
    mandatory "source" ApplicationSource.schema.codec (·.source)
      fun v x => { x with source := v },
    mandatory "destination" ApplicationTarget.schema.codec (·.destination)
      fun v x => { x with destination := v },
    optional "syncPolicy" SyncPolicy.schema.codec (·.syncPolicy)
      fun v x => { x with syncPolicy := v }]

/-- The fields of an application. -/
def Application.schema : Schema Application where
  blank := {}
  fields := [
    mandatory "apiVersion" text (·.apiVersion) fun v x => { x with apiVersion := v },
    mandatory "kind" text (·.kind) fun v x => { x with kind := v },
    mandatory "metadata" ObjectMeta.schema.codec (·.metadata)
      fun v x => { x with metadata := v },
    mandatory "spec" ApplicationSpec.schema.codec (·.spec) fun v x => { x with spec := v }]

end Rollout
