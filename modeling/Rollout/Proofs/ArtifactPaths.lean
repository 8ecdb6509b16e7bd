import Rollout.Proofs.Plan

/-!
# Artifact paths that clash

The workflow of a group and that of a destination are both written under the words of their names.
Stage keys and resource names are checked apart from each other, and the stage key loses a web
scheme that the name of the group's workflow keeps.

* `ResolvedService.GroupsClash`, `ResolvedService.TailsClash`: two groups, or a group and a
  destination, whose workflows have names of the same words.
* **`nodup_workflow_paths_iff`**: nothing else makes two workflows of a plan share a path.
* **`duplicatePath_iff_pathsClash`**: a plan whose pipeline exists is refused exactly on a clash.
* `duplicatePath_pathTwins`: a service with a pipeline that is refused.
-/

namespace Rollout

namespace ResolvedService

/-- Two group names differ in the web scheme before them and have the same words, the scheme among
them. -/
def GroupsClash (s : ResolvedService) : Prop :=
  ∃ g ∈ s.groups, ∃ k ∈ s.groups,
    webScheme? g.name ≠ webScheme? k.name ∧ words g.name = words k.name

/-- The name of a group has the words of what follows the service in a resource name. -/
def TailsClash (s : ResolvedService) : Prop :=
  ∃ g ∈ s.groups, ∃ x ∈ s.destinations, words g.name = x.2.tailWords s.naming x.1.name

/-- Two workflows are to be written under one name. -/
def PathsClash (s : ResolvedService) : Prop := s.GroupsClash ∨ s.TailsClash

end ResolvedService

/-! ## Workflows of a plan -/

theorem path_of_mem_workflows {s : ResolvedService} {t : Tables} {o : WorkflowOptions}
    {w : WorkflowRecord} (hw : w ∈ (pipeline s t o).workflows) :
    w.path = o.path w.workflow.name := by
  unfold Pipeline.workflows at hw
  rw [pipeline_destinations, List.append_assoc] at hw
  rcases List.mem_append.mp hw with hw | hw
  · obtain ⟨x, -, rfl⟩ := List.mem_map.mp hw
    rfl
  · rcases List.mem_append.mp hw with hw | hw
    · obtain ⟨g, -, rfl⟩ := List.mem_map.mp hw
      rfl
    · obtain rfl := List.mem_singleton.mp hw
      rfl

/-- What follows the words of the service in the names of the workflows. -/
def Plan.workflowTails (p : Plan) : List (List (List Char)) :=
  p.service.destinations.map (fun x => x.2.tailWords p.service.naming x.1.name)
    ++ p.service.groups.map (fun g => words g.name) ++ [[]]

section Plan

variable {p : Plan} (h : p.Valid) {options : ManifestOptions} {o : WorkflowOptions}

include h

theorem map_name_workflows :
    (pipeline p.service (p.tables options) o).workflows.map (·.workflow.name) =
      p.service.destinations.map (fun x => (p.service.namesOf x).resource)
        ++ p.service.groups.map (groupWorkflowName p.service) ++ [p.service.name] := by
  unfold Pipeline.workflows
  simp only [pipeline_destinations, List.map_append, List.map_map]
  congr 1
  congr 1
  · refine List.map_congr_left fun x hx => ?_
    change ((p.tables options).deployment x.2).names.resource = _
    rw [h.deployment_eq hx, Plan.deployment]
  · unfold pipeline
    rw [List.map_map]
    rfl

theorem map_identifierWords_workflows :
    ((pipeline p.service (p.tables options) o).workflows.map (·.workflow.name)).map
        identifierWords =
      p.workflowTails.map (identifierWords p.service.name ++ ·) := by
  simp only [map_name_workflows h, Plan.workflowTails, List.map_append, List.map_map,
    List.map_singleton, List.append_nil]
  congr 1
  congr 1
  · exact List.map_congr_left fun x _ => ResolvedDestination.identifierWords_resource
  · exact List.map_congr_left fun g _ => identifierWords_join p.service.name g.name

theorem nodup_tails :
    (p.service.destinations.map fun x => x.2.tailWords p.service.naming x.1.name).Nodup :=
  (nodup_map_congr (fun _ _ => ResolvedDestination.resource_eq_iff) _).mp h.resources_nodup

theorem nil_notMem_tails : [] ∉
    p.service.destinations.map (fun x => x.2.tailWords p.service.naming x.1.name) ++
      p.service.groups.map fun g => words g.name := by
  intro hm
  rcases List.mem_append.mp hm with hm | hm
  · obtain ⟨x, hx, he⟩ := List.mem_map.mp hm
    exact ResolvedDestination.tailWords_ne_nil (h.nameable hx).2 he
  · obtain ⟨g, hg, he⟩ := List.mem_map.mp hm
    have hk : identifierWords g.name ≠ [] := fun hw =>
      (h.wellFormed.group g hg).stageKey_ne (sanitize_eq_empty_iff.mpr hw)
    rw [words_eq, List.append_eq_nil_iff] at he
    exact hk he.2

/-- **Only a scheme gives two group names the same words.** -/
theorem nodup_group_words_iff :
    (p.service.groups.map fun g => words g.name).Nodup ↔ ¬ p.service.GroupsClash := by
  have hn := h.wellFormed.stageKeys_nodup
  have hc : ∀ g ∈ p.service.groups, ∀ k ∈ p.service.groups, g ≠ k → (words g.name = words k.name ↔
      webScheme? g.name ≠ webScheme? k.name ∧ words g.name = words k.name) := by
    intro g hg k hk hne
    rw [iff_and_self]
    intro hw hs
    simp only [words_eq, hs, List.append_cancel_left_eq] at hw
    exact hne (List.inj_on_of_nodup_map hn hg hk (sanitize_inj.mpr hw))
  rw [nodup_map_iff_not_clash hn hc fun _ h => h.1 rfl]
  simp only [ResolvedService.GroupsClash, not_exists, not_and]

theorem nodup_workflowTails_iff : p.workflowTails.Nodup ↔ ¬ p.service.PathsClash := by
  have hd : List.Disjoint
      (p.service.destinations.map fun x => x.2.tailWords p.service.naming x.1.name)
      (p.service.groups.map fun g => words g.name) ↔ ¬ p.service.TailsClash := by
    rw [ResolvedService.TailsClash]
    constructor
    · rintro hd ⟨g, hg, x, hx, he⟩
      exact hd (List.mem_map_of_mem hx) (he ▸ List.mem_map_of_mem hg)
    · intro hc ws htail hword
      obtain ⟨x, hx, rfl⟩ := List.mem_map.mp htail
      obtain ⟨g, hg, he⟩ := List.mem_map.mp hword
      exact hc ⟨g, hg, x, hx, he⟩
  unfold Plan.workflowTails
  simp only [List.nodup_append', hd, nodup_group_words_iff h, ResolvedService.PathsClash, not_or]
  constructor
  · rintro ⟨⟨-, hg, ht⟩, -, -⟩
    exact ⟨hg, ht⟩
  · rintro ⟨hg, ht⟩
    refine ⟨⟨nodup_tails h, hg, ht⟩, List.nodup_singleton _, ?_⟩
    exact List.disjoint_singleton.mpr (nil_notMem_tails h)

/-- **Workflows of a plan have different paths exactly when no names clash.** -/
theorem nodup_workflow_paths_iff :
    ((pipeline p.service (p.tables options) o).workflows.map (·.path)).Nodup ↔
      ¬ p.service.PathsClash := by
  have hp : (pipeline p.service (p.tables options) o).workflows.map (·.path) =
      ((pipeline p.service (p.tables options) o).workflows.map (·.workflow.name)).map o.path := by
    rw [List.map_map]
    exact List.map_congr_left fun w hw => path_of_mem_workflows hw
  rw [hp, nodup_map_congr (fun _ _ => WorkflowOptions.path_inj),
    map_identifierWords_workflows h, List.nodup_map_iff (List.append_right_injective _),
    nodup_workflowTails_iff h]

omit h in
theorem map_path_artifactList (p : Plan) (o : CompileOptions) : (p.artifactList o).map (·.path) =
    (p.manifests o.manifests).map (·.path) ++
      (pipeline p.service (p.tables o.manifests) o.workflows).workflows.map (·.path) := by
  simp only [Plan.artifactList, List.map_append, List.map_map]
  rfl

/-- **Artifacts of a plan have different paths exactly when no names clash.** -/
theorem nodup_artifact_paths_iff {o : CompileOptions} :
    ((p.artifactList o).map (·.path)).Nodup ↔ ¬ p.service.PathsClash := by
  have hd : List.Disjoint ((p.manifests o.manifests).map (·.path))
      ((pipeline p.service (p.tables o.manifests) o.workflows).workflows.map (·.path)) := by
    intro path hpath hwork
    obtain ⟨m, hm, rfl⟩ := List.mem_map.mp hpath
    obtain ⟨x, -, rfl⟩ := List.mem_map.mp hm
    obtain ⟨w, hw, he⟩ := List.mem_map.mp hwork
    exact manifestPath_ne_path _ _ _ _ (he.symm.trans (path_of_mem_workflows hw))
  rw [map_path_artifactList, List.nodup_append', nodup_workflow_paths_iff h]
  simp [h.nodup_manifest_paths o.manifests, hd]

end Plan

/-- **A plan whose pipeline exists is refused exactly on a clash of names.** -/
theorem duplicatePath_iff_pathsClash {s : Service} {p : Plan} (h : s.plan = .ok p)
    {o : CompileOptions} {ms : List ManifestRecord} {index : ManifestIndex} {pl : Pipeline}
    (hm : buildManifests p.service p.names o.manifests = .ok (ms, index))
    (hs : synthesize p.service ⟨p.names, index⟩ o.workflows = .ok pl) :
    ((ms.map (·.path) ++ pl.workflows.map (·.path)).Nodup ↔ ¬ p.service.PathsClash) ∧
    ((∃ path, s.compile o = .error (.synthesis (.duplicatePath path))) ↔ p.service.PathsClash) ∧
    ((∃ set, s.compile o = .ok set) ↔ ¬ p.service.PathsClash) := by
  have hv := (plan_eq_ok_iff.mp h).2
  obtain ⟨rfl, rfl⟩ := Prod.mk.inj (Except.ok.inj (hv.buildManifests.symm.trans hm))
  obtain ⟨hf, rfl⟩ := synthesize_eq_ok_iff.mp hs
  have hn : ((p.artifactList o).map (·.path)).Nodup ↔ ¬ p.service.PathsClash :=
    nodup_artifact_paths_iff hv
  have hinj : Function.Injective CompileError.synthesis :=
    fun _ _ he => CompileError.synthesis.inj he
  refine ⟨by rwa [map_path_artifactList] at hn, ?_, ?_⟩
  · simp only [compile_of_plan h, hv.artifacts_of_fits hf, mapError_eq_error_iff hinj]
    rw [exists_ofList_eq_error_iff, hn, not_not]
  · simp only [compile_of_plan h, hv.artifacts_of_fits hf, mapError_eq_ok_iff]
    rw [exists_ofList_eq_ok_iff, hn]

theorem duplicatePath_iff_pathsClash_sample : ∃ ms index pl, Service.sample.plan = .ok Plan.sample ∧
    buildManifests Plan.sample.service Plan.sample.names { repoUrl := "." } = .ok (ms, index) ∧
    synthesize Plan.sample.service ⟨Plan.sample.names, index⟩ {} = .ok pl ∧
    ((ms.map (·.path) ++ pl.workflows.map (·.path)).Nodup ↔ ¬ Plan.sample.service.PathsClash) ∧
    ((∃ path, Service.sample.compile { manifests := { repoUrl := "." } } =
      .error (.synthesis (.duplicatePath path))) ↔ Plan.sample.service.PathsClash) ∧
    ((∃ set, Service.sample.compile { manifests := { repoUrl := "." } } = .ok set) ↔
      ¬ Plan.sample.service.PathsClash) := by
  have hm := @Plan.Valid.buildManifests Plan.sample Plan.sample_valid { repoUrl := "." }
  have hs : synthesize Plan.sample.service (Plan.sample.tables { repoUrl := "." }) {} = .ok _ :=
    synthesize_eq_ok_iff.mpr ⟨Plan.fits_sample _, rfl⟩
  exact ⟨_, _, _, Service.plan_sample, hm, hs,
    duplicatePath_iff_pathsClash Service.plan_sample hm hs⟩

/-- A destination of one group is called what another group is called. -/
def Service.pathTwins : Service where
  name := "checkout"
  groups := [
    { name := "a", destinations := [.named "b" "n"] },
    { name := "a-b", destinations := [.named "c" "n"] }]
  controller := { hostname := some "argocd.example.com" }

/-- Its plan. -/
def Plan.pathTwins : Plan where
  service := Service.pathTwins.resolve
  names := .ofList [
    (.of "b" "n", ⟨"checkout-a-b", "b"⟩),
    (.of "c" "n", ⟨"checkout-a-b-c", "c"⟩)]

theorem Plan.pathTwins_valid : Plan.pathTwins.Valid where
  wellFormed := by
    have h : Plan.pathTwins.service.problems.isEmpty = true := by decide +kernel
    exact problems_eq_nil_iff.mp (List.isEmpty_iff.mp h)
  deriveNames := by decide +kernel

/-- **A service with a pipeline is refused for a path.** -/
theorem duplicatePath_pathTwins : ∃ p ms index pl, Service.pathTwins.plan = .ok p ∧
    buildManifests p.service p.names { repoUrl := "." } = .ok (ms, index) ∧
    synthesize p.service ⟨p.names, index⟩ {} = .ok pl ∧
    ¬ (ms.map (·.path) ++ pl.workflows.map (·.path)).Nodup ∧
    Service.pathTwins.compile { manifests := { repoUrl := "." } } =
      .error (.synthesis (.duplicatePath ".github/workflows/rollgate-checkout-a-b.yml")) := by
  have hv := Plan.pathTwins_valid
  have hp : Service.pathTwins.plan = .ok Plan.pathTwins := plan_eq_ok_iff.mpr ⟨rfl, hv⟩
  have hf : (Plan.pathTwins.tables { repoUrl := "." }).Fits Plan.pathTwins.service :=
    hv.fits_iff.mpr (by decide +kernel)
  refine ⟨Plan.pathTwins, _, _, _, hp, hv.buildManifests, synthesize_eq_ok_iff.mpr ⟨hf, rfl⟩,
    ?_, ?_⟩
  · decide +kernel
  · rw [compile_of_plan hp, hv.artifacts_of_fits hf,
      mapError_eq_error_iff fun _ _ he => CompileError.synthesis.inj he,
      ofList_eq_duplicatePath_iff]
    decide +kernel

end Rollout
