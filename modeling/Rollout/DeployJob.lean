import Rollout.Resolved.Basic

/-!
# Deploy jobs

The job that deploys one destination: it pins the manifest to the current commit, pushes that, and
lets the controller apply and sync the application.

* `command`: a command with one argument on each line.
* `DeployInput.job`: the job.
-/

namespace Rollout

/-- What a deploy job has to know. -/
structure DeployInput where
  /-- The name of the application. -/
  resourceName : String
  /-- The identity of the cluster. -/
  identity : String
  commitBranch : String
  manifestPath : String
  settings : ResolvedSettings
  runsOn : List String
  deriving Inhabited

/-- A command whose arguments follow on lines of their own. -/
def command (program : String) (args : List String) : String :=
  String.join (program :: args.map fun arg => " \\\n  " ++ arg) ++ "\n"

/-- The variable that holds the path of the manifest. -/
def manifestVariable : String := "ARGOCD_APPLICATION_FILE"

/-- The variable that holds the message of the commit. -/
def messageVariable : String := "GIT_COMMIT_MESSAGE"

/-- How scripts refer to a variable. -/
def shellReference (name : String) : String := "\"$\x7b" ++ name ++ "\x7d\""

/-- An expression of the CI system. -/
def expression (text : String) : String := "$\x7b\x7b " ++ text ++ " \x7d\x7d"

/-! ## Steps -/

/-- Checks out the branch. -/
def checkoutStep (branch : String) : Step :=
  (((Step.action "checkout" "actions/checkout@v4").withInput "ref" (.text branch)).withInput
    "persist-credentials" (.bool false)).withInput "fetch-depth" ⟨.int 0, rfl⟩

/-- Sets the author of commits. -/
def authorStep : Step :=
  .script "git-config" ("git config --global user.name '" ++ expression "github.actor" ++ "'\n"
    ++ "git config --global user.email '" ++ expression "github.actor"
    ++ "@users.noreply.github.com'\n")

/-- Installs the document editor. -/
def editorStep : Step := .action "setup-yq" "frenck/action-setup-yq@v1"

/-- Pins the manifest to the current commit. -/
def pinStep : Step :=
  .script "update-application-yaml" ("yq e -i '.spec.source.targetRevision = \""
    ++ expression "github.sha" ++ "\"' " ++ shellReference manifestVariable ++ "\n")

/-- Commits the pinned manifest, if it changed. -/
def commitStep : Step :=
  .script "git-add-commit" ("git add " ++ shellReference manifestVariable ++ "\n"
    ++ "if git diff-index --quiet HEAD -- 2>/dev/null; then\n"
    ++ "  echo \"No changes to commit\"\n"
    ++ "else\n"
    ++ "  git commit -m " ++ shellReference messageVariable ++ "\n"
    ++ "fi\n")

/-- Pushes the commit. -/
def pushStep (branch : String) : Step :=
  ((Step.action "git-push" "actions-js/push@v1.5").withInput "github_token"
    (.text (expression "secrets.GITHUB_TOKEN"))).withInput "branch" (.text branch)

/-! ## The controller's command line -/

/-- The flags that name a local context, if one is set. -/
def contextFlags (settings : ResolvedSettings) : List String :=
  match filled? settings.kubeContext.value with
  | some context => ["--core", "--kube-context " ++ context]
  | none => []

/-- The arguments of the login. -/
def loginArgs (settings : ResolvedSettings) : List String :=
  settings.hostname.value :: settings.loginArgs.value

/-- The arguments that create or update the application. -/
def upsertArgs (settings : ResolvedSettings) : List String :=
  contextFlags settings ++ settings.extraArgs.value
    ++ ["--upsert", "--file " ++ shellReference manifestVariable]

/-- The arguments that sync the application. -/
def syncArgs (resourceName : String) (settings : ResolvedSettings) : List String :=
  resourceName :: (contextFlags settings ++ settings.extraArgs.value
    ++ ["--timeout " ++ toString settings.syncTimeoutSeconds.value.toNat,
      "--retry-limit " ++ toString settings.retryLimit.value.toNat])

/-- Login, which a local context makes needless, upsert and sync. -/
def controllerSteps (resourceName : String) (settings : ResolvedSettings) : List Step :=
  (if (contextFlags settings).isEmpty then
    [.script "argocd-login" (command "argocd login" (loginArgs settings))] else [])
  ++ [.script "argocd-upsert" (command "argocd app create" (upsertArgs settings)),
    .script "argocd-sync" (command "argocd app sync" (syncArgs resourceName settings))]

/-! ## The job -/

namespace DeployInput

/-- The steps, the author's around those that deploy. -/
def steps (input : DeployInput) : List Step :=
  [checkoutStep input.commitBranch] ++ input.settings.preDeploySteps.value
    ++ [authorStep, editorStep, pinStep, commitStep, pushStep input.commitBranch]
    ++ controllerSteps input.resourceName input.settings ++ input.settings.postDeploySteps.value

/-- The variables: the author's, over which the job's own two prevail. -/
def env (input : DeployInput) : Variables :=
  (input.settings.env.value.insert manifestVariable input.manifestPath).insert messageVariable
    ("feat: 🚀 deploy to " ++ input.identity)

/-- The deploy job. -/
def job (input : DeployInput) : Job where
  name := some ("deploy-" ++ input.resourceName)
  runsOn := input.runsOn
  defaults := some .bash
  env := input.env
  steps := input.steps

end DeployInput

end Rollout
