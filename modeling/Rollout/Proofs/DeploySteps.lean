import Rollout.DeployJob
import Rollout.Proofs.Cascade

/-!
# What a deploy job runs

A job deploys in a fixed order, and its commands reach the controller's command line as they were
meant: arguments are written without quotes, but a line that continues ends where no argument of one
line can.

* `continuedArgs`: the parts of a command that its line continuations separate.
* **`continuedArgs_join`**: these are the program and its arguments, if all are of one line.
* **`command_inj`**: so that no two commands read the same.
* `Spells`: a script tells the arguments of its command.
* `DeployInput.Ordered`, `DeployInput.Commands`: the steps in order, and the commands among them.
* **`job_faithful`**: every deploy job has these steps and commands.
-/

namespace Rollout

/-! ## Line continuations -/

/-- What stands between two arguments: a backslash ends the line, and the next one is indented. -/
def continuation : String := " \\\n  "

/-- Splits a text at its line continuations, from the left. -/
def continuedParts : List Char → List (List Char)
  | [] => [[]]
  | ' ' :: '\\' :: '\n' :: ' ' :: ' ' :: cs => [] :: continuedParts cs
  | c :: cs => (continuedParts cs).modifyHead (c :: ·)

/-- The parts of a text that its line continuations separate. -/
def continuedArgs (text : String) : List String :=
  (continuedParts text.toList).map String.ofList

/-- The text has no line break. -/
def OneLine (text : String) : Prop := '\n' ∉ text.toList

instance (text : String) : Decidable (OneLine text) := by unfold OneLine; infer_instance

section Parts

variable {c : Char} {a rest : List Char}

/-- Every continuation has a line break in third place. -/
theorem continuedParts_cons (h : (c :: a)[2]? ≠ some '\n') :
    continuedParts (c :: a) = (continuedParts a).modifyHead (c :: ·) := by
  rw [continuedParts]
  rintro cs rfl rfl
  exact h rfl

theorem continuedParts_of_notMem (ha : '\n' ∉ a) : continuedParts a = [a] := by
  induction a with
  | nil => rfl
  | cons c a ih =>
    rw [continuedParts_cons fun h => ha (List.mem_of_getElem? h),
      ih fun h => ha (List.mem_cons_of_mem _ h), List.modifyHead_cons]

theorem continuedParts_append (ha : '\n' ∉ a) :
    continuedParts (a ++ continuation.toList ++ rest) = a :: continuedParts rest := by
  induction a with
  | nil => rfl
  | cons c a ih =>
    -- two places further stands a character of the part, or one of the first two of the separator
    have hthird : (c :: (a ++ continuation.toList ++ rest))[2]? ≠ some '\n' := by
      match a with
      | [] => exact fun h => absurd (Option.some.inj h) (by decide : ('\\' : Char) ≠ '\n')
      | [_] => exact fun h => absurd (Option.some.inj h) (by decide : (' ' : Char) ≠ '\n')
      | _ :: d :: _ =>
        rintro ⟨⟩
        simp at ha
    rw [List.cons_append, List.cons_append, continuedParts_cons hthird,
      ih fun h => ha (List.mem_cons_of_mem _ h), List.modifyHead_cons]

end Parts

variable {p q : String} {as bs : List String}

/-- **The arguments are read back.** -/
theorem continuedArgs_join (h : ∀ text ∈ p :: as, OneLine text) :
    continuedArgs (String.join (p :: as.map (continuation ++ ·))) = p :: as := by
  induction as generalizing p with
  | nil =>
    rw [List.map_nil, String.join_cons, String.join_nil, String.append_empty, continuedArgs,
      continuedParts_of_notMem (h p List.mem_cons_self), List.map_singleton, String.ofList_toList]
  | cons a as ih =>
    rw [List.forall_mem_cons] at h
    have htext : (String.join (p :: (a :: as).map (continuation ++ ·))).toList =
        p.toList ++ continuation.toList
          ++ (String.join (a :: as.map (continuation ++ ·))).toList := by
      simp only [List.map_cons, String.join_cons, String.toList_append, List.append_assoc]
    rw [continuedArgs, htext, continuedParts_append h.1, List.map_cons, String.ofList_toList,
      ← continuedArgs, ih h.2]

theorem command_eq (p : String) (as : List String) :
    command p as = String.join (p :: as.map (continuation ++ ·)) ++ "\n" := rfl

/-- **Distinct commands are written differently.** -/
theorem command_inj (hp : ∀ text ∈ p :: as, OneLine text) (hq : ∀ text ∈ q :: bs, OneLine text)
    (h : command p as = command q bs) : p = q ∧ as = bs := by
  rw [command_eq, command_eq, String.append_left_inj] at h
  have hargs := congrArg continuedArgs h
  rw [continuedArgs_join hp, continuedArgs_join hq] at hargs
  exact List.cons.inj hargs

/-- One argument that holds a continuation is written as two. -/
example : command "argocd login" ["a \\\n  b"] = command "argocd login" ["a", "b"] := by
  decide +kernel

/-- The program and its arguments are read back from the script, and no other arguments of one line
are written so. -/
structure Spells (script program : String) (args : List String) : Prop where
  readBack : ∃ text, script = text ++ "\n" ∧ continuedArgs text = program :: args
  alone : ∀ args', (∀ a ∈ args', OneLine a) → script = command program args' → args' = args

theorem command_spells (h : ∀ text ∈ p :: as, OneLine text) : Spells (command p as) p as where
  readBack := ⟨_, command_eq p as, continuedArgs_join h⟩
  alone _ hb heq :=
    have hp : OneLine p := h p List.mem_cons_self
    (command_inj (List.forall_mem_cons.mpr ⟨hp, hb⟩) h heq.symm).2

/-! ## Texts of one line -/

theorem OneLine.append (hp : OneLine p) (hq : OneLine q) : OneLine (p ++ q) := by
  rw [OneLine, String.toList_append, List.mem_append, not_or]
  exact ⟨hp, hq⟩

theorem oneLine_toString (n : Nat) : OneLine (toString n) := by
  intro h
  rw [Nat.toString_eq_repr, Nat.toList_repr] at h
  exact absurd (Nat.isDigit_of_mem_toDigits (by decide) (by decide) h) (by decide)

/-! ## The steps -/

/-- The flags of a command that runs against a local context: none without one. -/
inductive ContextFlags : Option String → List String → Prop
  | unset : ContextFlags none []
  | empty : ContextFlags (some "") []
  | given {context : String} (h : context ≠ "") :
    ContextFlags (some context) ["--core", "--kube-context " ++ context]

namespace DeployInput

/-- All texts in the commands of the controller are of one line. -/
structure OneLine (input : DeployInput) : Prop where
  hostname : Rollout.OneLine input.settings.hostname.value
  resourceName : Rollout.OneLine input.resourceName
  kubeContext : ∀ c, input.settings.kubeContext.value = some c → Rollout.OneLine c
  loginArgs : ∀ a ∈ input.settings.loginArgs.value, Rollout.OneLine a
  extraArgs : ∀ a ∈ input.settings.extraArgs.value, Rollout.OneLine a

theorem settled_zero : (Value.int 0).isSettled = true := rfl

/-- The branch is checked out with its history, and no credentials are left behind. -/
def checkout (input : DeployInput) : Step where
  name := some "checkout"
  uses := some "actions/checkout@v4"
  inputs :=
    { toList := [("ref", .text input.commitBranch), ("persist-credentials", .bool false),
        ("fetch-depth", ⟨.int 0, settled_zero⟩)]
      nodup := by simp }

/-- The manifest is pinned to the current commit, and that is committed. -/
def pinning : List Step :=
  [{ name := some "git-config"
     run := some (
      "git config --global user.name '$\x7b\x7b github.actor \x7d\x7d'\n" ++
      "git config --global user.email " ++
      "'$\x7b\x7b github.actor \x7d\x7d@users.noreply.github.com'\n") },
    { name := some "setup-yq"
      uses := some "frenck/action-setup-yq@v1" },
    { name := some "update-application-yaml"
      run := some (
        "yq e -i '.spec.source.targetRevision = \"$\x7b\x7b github.sha \x7d\x7d\"' " ++
        "\"$\x7bARGOCD_APPLICATION_FILE\x7d\"\n") },
    { name := some "git-add-commit"
      run := some (
        "git add \"$\x7bARGOCD_APPLICATION_FILE\x7d\"\n" ++
        "if git diff-index --quiet HEAD -- 2>/dev/null; then\n" ++
        "  echo \"No changes to commit\"\n" ++
        "else\n" ++
        "  git commit -m \"$\x7bGIT_COMMIT_MESSAGE\x7d\"\n" ++
        "fi\n") }]

/-- The commit is pushed to the branch. -/
def push (input : DeployInput) : Step where
  name := some "git-push"
  uses := some "actions-js/push@v1.5"
  inputs :=
    { toList := [("github_token", .text "$\x7b\x7b secrets.GITHUB_TOKEN \x7d\x7d"),
        ("branch", .text input.commitBranch)]
      nodup := by simp }

/-- The steps of the job in order, with the scripts that the controller runs. -/
structure Ordered (input : DeployInput) (login : Option String) (upsert sync : String) : Prop where
  steps : input.job.steps =
    [input.checkout]
      ++ input.settings.preDeploySteps.value
      ++ pinning
      ++ [input.push]
      ++ (login.toList.map fun script => { name := some "argocd-login", run := some script })
      ++ [{ name := some "argocd-upsert", run := some upsert },
        { name := some "argocd-sync", run := some sync }]
      ++ input.settings.postDeploySteps.value
  login_iff : login.isSome = true ↔
    input.settings.kubeContext.value = none ∨ input.settings.kubeContext.value = some ""

/-- The scripts that the controller runs are in a relation to their programs and arguments. -/
structure Commands (input : DeployInput) (R : String → String → List String → Prop)
    (flags : List String) (login : Option String) (upsert sync : String) : Prop where
  login : ∀ script, login = some script →
    R script "argocd login" (input.settings.hostname.value :: input.settings.loginArgs.value)
  upsert : R upsert "argocd app create" (flags ++ input.settings.extraArgs.value
    ++ ["--upsert", "--file \"$\x7bARGOCD_APPLICATION_FILE\x7d\""])
  sync : R sync "argocd app sync" (input.resourceName :: (flags
    ++ input.settings.extraArgs.value
    ++ ["--timeout " ++ toString input.settings.syncTimeoutSeconds.value.toNat,
      "--retry-limit " ++ toString input.settings.retryLimit.value.toNat]))

end DeployInput

section Commands

variable {input : DeployInput}

theorem contextFlags_spec (settings : ResolvedSettings) :
    ContextFlags settings.kubeContext.value (contextFlags settings) := by
  unfold contextFlags
  cases settings.kubeContext.value with
  | none => exact .unset
  | some context =>
    by_cases h : context = ""
    · subst h
      exact .empty
    · rw [filled?_eq_some_iff.mpr ⟨rfl, h⟩]
      exact .given h

theorem ContextFlags.eq_nil_iff {context : Option String} {flags : List String}
    (h : ContextFlags context flags) : flags = [] ↔ context = none ∨ context = some "" := by
  cases h with
  | unset | empty => simp
  | given h => simpa using h

theorem ContextFlags.oneLine {context : Option String} {flags : List String}
    (h : ContextFlags context flags) (hc : ∀ c, context = some c → OneLine c) :
    ∀ a ∈ flags, OneLine a := by
  cases h with
  | unset | empty => exact fun _ ha => nomatch ha
  | given h =>
    have hflag : OneLine "--kube-context " := by decide
    refine List.forall_mem_cons.mpr ⟨by decide, List.forall_mem_singleton.mpr ?_⟩
    exact hflag.append (hc _ rfl)

/-- The script of the login, which a local context makes needless. -/
def loginScript? (settings : ResolvedSettings) : Option String :=
  if contextFlags settings = [] then some (command "argocd login" (loginArgs settings)) else none

theorem controllerSteps_eq (name : String) (settings : ResolvedSettings) :
    controllerSteps name settings = (loginScript? settings).toList.map (.script "argocd-login")
      ++ [.script "argocd-upsert" (command "argocd app create" (upsertArgs settings)),
        .script "argocd-sync" (command "argocd app sync" (syncArgs name settings))] := by
  unfold controllerSteps loginScript?
  simp only [List.isEmpty_iff]
  split <;> rfl

theorem pinning_eq : [authorStep, editorStep, pinStep, commitStep] = DeployInput.pinning := by
  decide +kernel

theorem pushStep_eq (input : DeployInput) : pushStep input.commitBranch = input.push := by
  have htoken : expression "secrets.GITHUB_TOKEN" = "$\x7b\x7b secrets.GITHUB_TOKEN \x7d\x7d" := by
    decide
  rw [pushStep, htoken]
  rfl

theorem ordered_job (input : DeployInput) : input.Ordered (loginScript? input.settings)
    (command "argocd app create" (upsertArgs input.settings))
    (command "argocd app sync" (syncArgs input.resourceName input.settings)) where
  steps := by
    rw [DeployInput.job, DeployInput.steps, controllerSteps_eq, ← pinning_eq, ← pushStep_eq]
    simp only [List.append_assoc, List.cons_append, List.nil_append]
    rfl
  login_iff := by
    rw [loginScript?, Option.isSome_ite, (contextFlags_spec _).eq_nil_iff]

theorem fileFlag_eq : "--file " ++ shellReference manifestVariable =
    "--file \"$\x7bARGOCD_APPLICATION_FILE\x7d\"" := by
  decide

theorem oneLine_upsertArgs (h : input.OneLine) : ∀ a ∈ upsertArgs input.settings, OneLine a := by
  have hflags := (contextFlags_spec input.settings).oneLine h.kubeContext
  refine List.forall_mem_append.mpr ⟨List.forall_mem_append.mpr ⟨hflags, h.extraArgs⟩, ?_⟩
  decide

theorem oneLine_syncArgs (h : input.OneLine) :
    ∀ a ∈ syncArgs input.resourceName input.settings, OneLine a := by
  have hflags := (contextFlags_spec input.settings).oneLine h.kubeContext
  have htimeout : OneLine "--timeout " := by decide
  have hlimit : OneLine "--retry-limit " := by decide
  refine List.forall_mem_cons.mpr ⟨h.resourceName, List.forall_mem_append.mpr
    ⟨List.forall_mem_append.mpr ⟨hflags, h.extraArgs⟩, List.forall_mem_cons.mpr ⟨?_, ?_⟩⟩⟩
  · exact htimeout.append (oneLine_toString _)
  · exact List.forall_mem_singleton.mpr (hlimit.append (oneLine_toString _))

theorem commands_job {R : String → String → List String → Prop}
    (hlogin : R (command "argocd login" (loginArgs input.settings)) "argocd login"
      (loginArgs input.settings))
    (hupsert : R (command "argocd app create" (upsertArgs input.settings)) "argocd app create"
      (upsertArgs input.settings))
    (hsync : R (command "argocd app sync" (syncArgs input.resourceName input.settings))
      "argocd app sync" (syncArgs input.resourceName input.settings)) :
    input.Commands R (contextFlags input.settings) (loginScript? input.settings)
      (command "argocd app create" (upsertArgs input.settings))
      (command "argocd app sync" (syncArgs input.resourceName input.settings)) where
  login script hs := by
    obtain ⟨-, hs⟩ := Option.ite_none_right_eq_some.mp hs
    exact Option.some.inj hs ▸ hlogin
  upsert := by
    rw [← fileFlag_eq]
    exact hupsert
  sync := hsync

theorem spells_job (h : input.OneLine) : input.Commands Spells (contextFlags input.settings)
    (loginScript? input.settings) (command "argocd app create" (upsertArgs input.settings))
    (command "argocd app sync" (syncArgs input.resourceName input.settings)) := by
  have hlogin : ∀ a ∈ loginArgs input.settings, OneLine a :=
    List.forall_mem_cons.mpr ⟨h.hostname, h.loginArgs⟩
  refine commands_job ?_ ?_ ?_
  · exact command_spells (List.forall_mem_cons.mpr ⟨by decide, hlogin⟩)
  · exact command_spells (List.forall_mem_cons.mpr ⟨by decide, oneLine_upsertArgs h⟩)
  · exact command_spells (List.forall_mem_cons.mpr ⟨by decide, oneLine_syncArgs h⟩)

end Commands

/-- **What a deploy job runs is what was asked for.** -/
theorem job_faithful (input : DeployInput) : ∃ flags login upsert sync,
    ContextFlags input.settings.kubeContext.value flags ∧ input.Ordered login upsert sync ∧
      input.Commands (fun script program args => script = command program args) flags login upsert
        sync ∧
      (input.OneLine → input.Commands Spells flags login upsert sync) :=
  ⟨_, _, _, _, contextFlags_spec _, ordered_job input, commands_job rfl rfl rfl, spells_job⟩

/-- A job with an argument that ends in a backslash, and one that begins with spaces. -/
def DeployInput.sample : DeployInput :=
  let settings : ResolvedSettings := default
  { (default : DeployInput) with
    resourceName := "shop-eu-1"
    settings := { settings with
      hostname := ⟨"argo.example.com", .service⟩
      extraArgs := ⟨["--label team=a \\", "  --grpc-web"], .group⟩ } }

theorem oneLine_sample : DeployInput.sample.OneLine where
  hostname := by decide
  resourceName := by decide
  kubeContext := by rintro c ⟨⟩
  loginArgs := by decide
  extraArgs := by decide

theorem job_faithful_sample : DeployInput.sample.OneLine ∧ ∃ flags login upsert sync,
    DeployInput.sample.Ordered login upsert sync ∧
      DeployInput.sample.Commands Spells flags login upsert sync := by
  obtain ⟨flags, login, upsert, sync, -, hordered, -, hspells⟩ := job_faithful .sample
  exact ⟨oneLine_sample, flags, login, upsert, sync, hordered, hspells oneLine_sample⟩

end Rollout
