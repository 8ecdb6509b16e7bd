import Rollout.Resolved.Basic
import Rollout.Service.Codec

/-!
# Document form of resolved services

Every value is written beside its origin.

* `ResolvedService.encode`.
-/

namespace Rollout

open Codec

/-- A value beside its origin. -/
def Resolved.encode {α : Type} (write : α → Value) (r : Resolved α) : Value :=
  .object [("value", write r.value), ("origin", .text r.origin.label)]

/-- The settings by name. -/
def ResolvedSettings.encode (s : ResolvedSettings) : Value := .object [
  ("hostname", s.hostname.encode text.encode),
  ("login_args", s.loginArgs.encode text.list.encode),
  ("extra_args", s.extraArgs.encode text.list.encode),
  ("kube_context", s.kubeContext.encode text.option.encode),
  ("sync_timeout_seconds", s.syncTimeoutSeconds.encode word.encode),
  ("retry_limit", s.retryLimit.encode word.encode),
  ("sync_policy", s.syncPolicy.encode SyncPolicy.schema.codec.option.encode),
  ("pre_deploy_steps", s.preDeploySteps.encode Step.schema.codec.list.encode),
  ("post_deploy_steps", s.postDeploySteps.encode Step.schema.codec.list.encode),
  ("extra_deploy_jobs", s.extraDeployJobs.encode Job.schema.codec.map.encode),
  ("env", s.env.encode text.map.encode),
  ("secrets", s.secrets.encode SecretsPolicy.codec.encode)]

/-- The source block by name. -/
def ResolvedSource.encode (s : ResolvedSource) : Value := .object [
  ("path", .text s.path),
  ("commit_branch", .text s.commitBranch),
  ("include", .text s.included),
  ("exclude", text.option.encode s.excluded)]

/-- A destination by name. -/
def ResolvedDestination.encode (d : ResolvedDestination) : Value := .object [
  ("cluster_name", text.option.encode d.name),
  ("server", text.option.encode d.server),
  ("namespace", d.space.encode text.encode),
  ("settings", d.settings.encode)]

/-- A group by name. -/
def ResolvedGroup.encode (g : ResolvedGroup) : Value := .object [
  ("name", .text g.name),
  ("namespace", g.space.encode text.encode),
  ("settings", g.settings.encode),
  ("destinations", .list (g.destinations.map (·.encode)))]

/-- A service by name. -/
def ResolvedService.encode (s : ResolvedService) : Value := .object [
  ("name", .text s.name),
  ("source", s.source.encode),
  ("uniqueness", NamingScheme.schema.codec.encode s.naming),
  ("triggers", Triggers.schema.codec.encode s.triggers),
  ("groups", .list (s.groups.map (·.encode)))]

end Rollout
