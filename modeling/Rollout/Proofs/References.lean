import Rollout.Proofs.Gating

/-!
# References between artifacts

The artifacts refer to each other by path: stages to the workflows of groups, these to the workflows
of destinations, and each of those to a manifest.

* `WorkflowRecord.manifestPath?`: the manifest that a job of a workflow deploys.
* `Deploys`: the destination at a place deploys the manifest at a path.
* `Linked`: every reference leads to the artifact it is meant for, and no artifact but the top
  workflow is without one.
* **`references_linked`**: the artifacts of a service are linked.
-/

namespace Rollout

/-! ## Calls -/

section Pipeline

variable {s : ResolvedService} {t : Tables} {o : WorkflowOptions}

theorem mem_workflows_of_mem {p : Pipeline} {w : WorkflowRecord}
    (h : w ∈ p.groups ++ p.destinations) : w ∈ p.workflows := by
  unfold Pipeline.workflows
  rcases List.mem_append.mp h with h | h
  · exact List.mem_append_left _ (List.mem_append_right _ h)
  · exact List.mem_append_left _ (List.mem_append_left _ h)

theorem mem_of_mem_destinations {g : ResolvedGroup} {d : ResolvedDestination}
    (h : (g, d) ∈ s.destinations) : d ∈ g.destinations := by
  obtain ⟨g', -, h⟩ := List.mem_flatMap.mp h
  obtain ⟨d', hd, he⟩ := List.mem_map.mp h
  obtain ⟨rfl, rfl⟩ := Prod.mk.inj he
  exact hd

theorem mem_pipeline_destinations {g : ResolvedGroup} (hg : g ∈ s.groups) {d : ResolvedDestination}
    (hd : d ∈ g.destinations) :
    (t.deployment d).record s o ∈ (pipeline s t o).destinations := by
  rw [pipeline_destinations]
  exact List.mem_map.mpr ⟨(g, d), List.mem_flatMap.mpr ⟨g, hg, List.mem_map_of_mem hd⟩, rfl⟩

theorem calls_call (d : ResolvedDestination) :
    ((t.deployment d).call o).2.Calls ((t.deployment d).record s o) :=
  calls_of_path rfl (Deployment.path_record _ s o)

theorem exists_group_of_mem_top (h : t.Fits s) {j : Nat} {e : String × Job}
    (he : (pipeline s t o).top.workflow.jobs.toList[j]? = some e) :
    ∃ g, s.groups[j]? = some g ∧ e.2.Calls (groupRecord s t o g) := by
  rw [toList_topJobs h] at he
  cases j with
  | zero =>
    rw [getElem?_stageCalls_zero, Option.map_eq_some_iff] at he
    obtain ⟨g, hg, rfl⟩ := he
    exact ⟨g, hg, calls_stageCall _⟩
  | succ j =>
    rw [getElem?_stageCalls_succ, Option.map_eq_some_iff] at he
    obtain ⟨g, hg, rfl⟩ := he
    exact ⟨g, hg, calls_stageCall _⟩

theorem exists_destination_of_mem_group {g : ResolvedGroup} (h : t.FitsGroup g)
    {e : String × Job} (he : e ∈ (groupJobs t o g).toList) :
    ∃ d ∈ g.destinations, e = (t.deployment d).call o := by
  rw [toList_groupJobs h] at he
  obtain ⟨d, hd, rfl⟩ := List.mem_map.mp he
  exact ⟨d, hd, rfl⟩

/-! ## Paths that are used once -/

section Paths

variable (hn : ((pipeline s t o).workflows.map (·.path)).Nodup)

include hn

theorem nodup_destination_paths :
    (s.destinations.map fun x => ((t.deployment x.2).record s o).path).Nodup := by
  unfold Pipeline.workflows at hn
  simp only [pipeline_destinations, List.map_append, List.map_map] at hn
  exact (List.nodup_append.mp (List.nodup_append.mp hn).1).1

theorem nodup_group_paths : (s.groups.map fun g => (groupRecord s t o g).path).Nodup := by
  unfold Pipeline.workflows at hn
  simp only [List.map_append] at hn
  have := (List.nodup_append.mp (List.nodup_append.mp hn).1).2.1
  rwa [pipeline, List.map_map] at this

theorem eq_of_path_eq {v w : WorkflowRecord} (hv : v ∈ (pipeline s t o).workflows)
    (hw : w ∈ (pipeline s t o).workflows) (h : v.path = w.path) : v = w :=
  List.inj_on_of_nodup_map hn hv hw h

end Paths

end Pipeline

/-! ## Manifests -/

/-- The path of the manifest that a job of a workflow deploys. -/
def WorkflowRecord.manifestPath? (w : WorkflowRecord) (job : String) : Option String :=
  (w.workflow.jobs.get? job).bind fun j => j.env.get? manifestVariable

theorem manifestPath?_record (s : ResolvedService) (x : Deployment) (o : WorkflowOptions) :
    (x.record s o).manifestPath? x.names.job = some x.manifestPath := by
  have hj : (x.record s o).workflow.jobs.get? x.names.job = some (DeployInput.job
      ⟨x.names.resource, x.destination.identity, s.source.commitBranch, x.manifestPath,
        x.destination.settings, o.runsOn⟩) := by
    refine (OrderedMap.get?_insert ..).trans ?_
    rw [if_pos rfl]
  -- the message is set last and must not hide the manifest
  have hm : messageVariable ≠ manifestVariable := by decide
  unfold WorkflowRecord.manifestPath?
  rw [hj, Option.bind_some, DeployInput.job, DeployInput.env, OrderedMap.get?_insert, if_neg hm,
    OrderedMap.get?_insert, if_pos rfl]

/-- The destination at a place has its deploy job deploy the manifest at a path. -/
def Deploys (s : ResolvedService) (names : NameTable) (p : Pipeline) (n : Nat) (path : String) :
    Prop :=
  ∃ x derived w, s.destinations[n]? = some x ∧ names.get? x.2.key = some derived ∧
    p.destinations[n]? = some w ∧ w.manifestPath? derived.job = some path

/-! ## Links -/

/-- The artifacts of a service refer to each other as they should. Jobs that the author adds to
the workflows of destinations are left out: they may call anything. -/
structure Linked (s : ResolvedService) (names : NameTable) (p : Pipeline) (set : ArtifactSet) :
    Prop where
  workflows : ∀ w ∈ p.workflows, w.artifact ∈ set.toList
  /-- There is one workflow for each group and for each destination. -/
  lengths : p.groups.length = s.groups.length ∧ p.destinations.length = s.destinations.length
  /-- The stage at a place calls the workflow of the group at that place. -/
  stage : ∀ (i : Nat) (g : ResolvedGroup), s.groups[i]? = some g → ∃ w job,
    p.groups[i]? = some w ∧ w.workflow.name = s.name ++ "-" ++ g.name ∧
      p.top.workflow.jobs.toList[i]? = some (g.stageKey, job) ∧ job.Calls w
  /-- No other stage calls it. -/
  stage_unique : ∀ (i j : Nat) (w : WorkflowRecord) (e : String × Job), p.groups[i]? = some w →
    p.top.workflow.jobs.toList[j]? = some e → e.2.Calls w → j = i
  /-- A job of the group's workflow calls the workflow of each destination, under the job name of
  the destination, and no other job of a group's workflow does. -/
  call : ∀ (i n : Nat) (g : ResolvedGroup) (d : ResolvedDestination), s.groups[i]? = some g →
    s.destinations[n]? = some (g, d) → ∃ derived w v job, names.get? d.key = some derived ∧
      p.destinations[n]? = some w ∧ p.groups[i]? = some v ∧
      v.workflow.jobs.get? derived.job = some job ∧ job.Calls w ∧
      ∀ (j : Nat) (v' : WorkflowRecord) (e : String × Job), p.groups[j]? = some v' →
        e ∈ v'.workflow.jobs.toList → e.2.Calls w → j = i ∧ e.1 = derived.job
  /-- The deploy job of a destination deploys a manifest for its cluster, as authored, and its
  namespace. The workflow, the runs it excludes and the manifest share their name. -/
  manifest : ∀ (n : Nat) (g : ResolvedGroup) (d : ResolvedDestination),
    s.destinations[n]? = some (g, d) → ∃ derived w path app, names.get? d.key = some derived ∧
      p.destinations[n]? = some w ∧ w.workflow.name = derived.resource ∧
      w.manifestPath? derived.job = some path ∧
      ⟨path, .manifest app⟩ ∈ set.toList ∧ app.metadata.name = w.workflow.name ∧
      w.workflow.concurrency.map (·.group) = some w.workflow.name ∧
      app.spec.destination.OneCluster d.name d.server ∧
      app.spec.destination.space = d.space.value
  /-- A manifest is deployed by exactly one destination. -/
  manifest_unique : ∀ (path : String) (app : Application), ⟨path, .manifest app⟩ ∈ set.toList →
    ∃! n, Deploys s names p n path
  /-- No call dangles. -/
  calls : ∀ v ∈ p.top :: p.groups, ∀ e ∈ v.workflow.jobs.toList,
    ∃ w ∈ p.groups ++ p.destinations, e.2.Calls w
  /-- Whatever is called can be called. -/
  callable : ∀ v ∈ p.top :: p.groups, ∀ e ∈ v.workflow.jobs.toList, ∀ w ∈ p.workflows,
    e.2.Calls w → w.workflow.triggers.call.isSome = true

section Links

variable {s : ResolvedService} {t : Tables} {o : WorkflowOptions} (hf : t.Fits s)

include hf

theorem exists_called {v : WorkflowRecord}
    (hv : v ∈ (pipeline s t o).top :: (pipeline s t o).groups) {e : String × Job}
    (he : e ∈ v.workflow.jobs.toList) :
    ∃ w ∈ (pipeline s t o).groups ++ (pipeline s t o).destinations,
      e.2.Calls w ∧ w.workflow.triggers.call.isSome = true := by
  rcases List.mem_cons.mp hv with rfl | hv
  · obtain ⟨j, hj⟩ := List.mem_iff_getElem?.mp he
    obtain ⟨g, hg, hc⟩ := exists_group_of_mem_top hf hj
    have hw : groupRecord s t o g ∈ (pipeline s t o).groups :=
      mem_pipeline_groups (List.mem_of_getElem? hg)
    exact ⟨groupRecord s t o g, List.mem_append_left _ hw, hc, rfl⟩
  · obtain ⟨g, hg, rfl⟩ := List.mem_map.mp hv
    obtain ⟨d, hd, rfl⟩ := exists_destination_of_mem_group (hf.group g hg) he
    have hw : (t.deployment d).record s o ∈ (pipeline s t o).destinations :=
      mem_pipeline_destinations hg hd
    exact ⟨(t.deployment d).record s o, List.mem_append_right _ hw, calls_call d, rfl⟩

/-- **Only the group's workflow calls a destination, under its job name.** -/
theorem call_unique (hn : ((pipeline s t o).workflows.map (·.path)).Nodup) {i : Nat}
    {g : ResolvedGroup} {d : ResolvedDestination} (hg : s.groups[i]? = some g)
    (hd : d ∈ g.destinations) {j : Nat} {v : WorkflowRecord}
    (hv : (pipeline s t o).groups[j]? = some v) {e : String × Job}
    (he : e ∈ v.workflow.jobs.toList) (hc : e.2.Calls ((t.deployment d).record s o)) :
    j = i ∧ e.1 = (t.deployment d).names.job := by
  unfold pipeline at hv
  rw [List.getElem?_map, Option.map_eq_some_iff] at hv
  obtain ⟨g', hg', rfl⟩ := hv
  obtain ⟨d', hd', rfl⟩ :=
    exists_destination_of_mem_group (hf.group g' (List.mem_of_getElem? hg')) he
  have hx : (g, d) ∈ s.destinations :=
    List.mem_flatMap.mpr ⟨g, List.mem_of_getElem? hg, List.mem_map_of_mem hd⟩
  have hx' : (g', d') ∈ s.destinations :=
    List.mem_flatMap.mpr ⟨g', List.mem_of_getElem? hg', List.mem_map_of_mem hd'⟩
  -- two destinations whose workflows share a path are one
  have heq : (g', d') = (g, d) := List.inj_on_of_nodup_map (nodup_destination_paths hn) hx' hx
    ((calls_call d').path_eq hc)
  obtain ⟨rfl, rfl⟩ := Prod.mk.inj heq
  exact ⟨index_unique_map hf.stageKeys_nodup hg' hg rfl, rfl⟩

theorem stage_unique (hn : ((pipeline s t o).workflows.map (·.path)).Nodup) {i j : Nat}
    {w : WorkflowRecord} {e : String × Job} (hw : (pipeline s t o).groups[i]? = some w)
    (he : (pipeline s t o).top.workflow.jobs.toList[j]? = some e) (hc : e.2.Calls w) : j = i := by
  unfold pipeline at hw
  rw [List.getElem?_map, Option.map_eq_some_iff] at hw
  obtain ⟨g, hg, rfl⟩ := hw
  obtain ⟨g', hg', hc'⟩ := exists_group_of_mem_top hf he
  exact index_unique_map (nodup_group_paths hn) hg' hg (hc'.path_eq hc)

end Links

section Plan

variable {p : Plan} (h : p.Valid) {options : ManifestOptions} {o : WorkflowOptions} {n : Nat}

include h

theorem getElem?_destinations {x : ResolvedGroup × ResolvedDestination}
    (hx : p.service.destinations[n]? = some x) :
    (pipeline p.service (p.tables options) o).destinations[n]? =
      some ((p.deployment options x).record p.service o) := by
  rw [pipeline_destinations, List.getElem?_map, hx, Option.map_some,
    h.deployment_eq (List.mem_of_getElem? hx)]

omit h in
theorem manifestPath?_deployment (p : Plan) (options : ManifestOptions) (o : WorkflowOptions)
    (x : ResolvedGroup × ResolvedDestination) :
    ((p.deployment options x).record p.service o).manifestPath? (p.service.namesOf x).job =
      some (manifestPath options (p.service.namesOf x).resource) :=
  manifestPath?_record p.service (p.deployment options x) o

/-- **The manifest that a destination deploys is its own.** -/
theorem deploys_iff {path : String} :
    Deploys p.service p.names (pipeline p.service (p.tables options) o) n path ↔
      ∃ x, p.service.destinations[n]? = some x ∧
        manifestPath options (p.service.namesOf x).resource = path := by
  constructor
  · rintro ⟨x, derived, w, hx, hd, hw, hp⟩
    obtain rfl := Option.some_inj.mp ((getElem?_destinations h hx).symm.trans hw)
    obtain rfl := Option.some_inj.mp ((h.get?_names (List.mem_of_getElem? hx)).symm.trans hd)
    rw [manifestPath?_deployment, Option.some_inj] at hp
    exact ⟨x, hx, hp⟩
  · rintro ⟨x, hx, rfl⟩
    exact ⟨x, _, _, hx, h.get?_names (List.mem_of_getElem? hx), getElem?_destinations h hx,
      manifestPath?_deployment p options o x⟩

theorem deploys_unique {path : String} {m : Nat}
    (hn : Deploys p.service p.names (pipeline p.service (p.tables options) o) n path)
    (hm : Deploys p.service p.names (pipeline p.service (p.tables options) o) m path) : m = n := by
  obtain ⟨x, hx, rfl⟩ := (deploys_iff h).mp hn
  obtain ⟨y, hy, he⟩ := (deploys_iff h).mp hm
  exact index_unique_map h.resources_nodup hy hx (manifestPath_inj.mp he)

/-- **The manifest of a destination and its workflow.** -/
theorem exists_manifest {g : ResolvedGroup} {d : ResolvedDestination}
    (hd : p.service.destinations[n]? = some (g, d)) : ∃ derived w path app,
      p.names.get? d.key = some derived ∧
      (pipeline p.service (p.tables options) o).destinations[n]? = some w ∧
      w.workflow.name = derived.resource ∧ w.manifestPath? derived.job = some path ∧
      ⟨path, .manifest app⟩ ∈ (p.manifests options).map (·.artifact) ∧
      app.metadata.name = w.workflow.name ∧
      w.workflow.concurrency.map (·.group) = some w.workflow.name ∧
      app.spec.destination.OneCluster d.name d.server ∧
      app.spec.destination.space = d.space.value := by
  have hx : (g, d) ∈ p.service.destinations := List.mem_of_getElem? hd
  have hsound : d.Sound :=
    forall_destinations_iff.mpr (fun g hg => (h.wellFormed.group g hg).destination) (g, d) hx
  obtain ⟨-, -, hcluster⟩ := ResolvedDestination.sound_iff.mp hsound
  have hm : (d.manifest p.service options (p.service.namesOf (g, d)).resource).artifact ∈
      (p.manifests options).map (·.artifact) :=
    List.mem_map_of_mem (List.mem_map.mpr ⟨(g, d), hx, rfl⟩)
  exact ⟨p.service.namesOf (g, d), (p.deployment options (g, d)).record p.service o,
    manifestPath options (p.service.namesOf (g, d)).resource,
    d.application p.service (p.service.namesOf (g, d)).resource options,
    h.get?_names (x := (g, d)) hx, getElem?_destinations h hd, rfl,
    manifestPath?_deployment p options o (g, d), hm, rfl, rfl,
    ResolvedDestination.oneCluster_target hcluster, ResolvedDestination.space_target d⟩

/-- A manifest among the artifacts of a plan belongs to a destination. -/
theorem exists_deploys {o : CompileOptions} {path : String} {app : Application}
    (hm : ⟨path, .manifest app⟩ ∈ p.artifactList o) : ∃ n, Deploys p.service p.names
      (pipeline p.service (p.tables o.manifests) o.workflows) n path := by
  rcases List.mem_append.mp hm with hm | hm
  · obtain ⟨m, hm, he⟩ := List.mem_map.mp hm
    obtain ⟨x, hx, rfl⟩ := List.mem_map.mp hm
    obtain ⟨n, hn⟩ := List.mem_iff_getElem?.mp hx
    exact ⟨n, (deploys_iff h).mpr ⟨x, hn, congrArg Artifact.path he⟩⟩
  · obtain ⟨w, -, he⟩ := List.mem_map.mp hm
    cases congrArg Artifact.content he

/-- **The call of a destination.** -/
theorem exists_call (hf : (p.tables options).Fits p.service)
    (hn : ((pipeline p.service (p.tables options) o).workflows.map (·.path)).Nodup) {i : Nat}
    {g : ResolvedGroup} {d : ResolvedDestination} (hg : p.service.groups[i]? = some g)
    (hd : p.service.destinations[n]? = some (g, d)) : ∃ derived w v job,
      p.names.get? d.key = some derived ∧
      (pipeline p.service (p.tables options) o).destinations[n]? = some w ∧
      (pipeline p.service (p.tables options) o).groups[i]? = some v ∧
      v.workflow.jobs.get? derived.job = some job ∧ job.Calls w ∧
      ∀ (j : Nat) (v' : WorkflowRecord) (e : String × Job),
        (pipeline p.service (p.tables options) o).groups[j]? = some v' →
        e ∈ v'.workflow.jobs.toList → e.2.Calls w → j = i ∧ e.1 = derived.job := by
  have hx : (g, d) ∈ p.service.destinations := List.mem_of_getElem? hd
  have hm : d ∈ g.destinations := mem_of_mem_destinations hx
  have ht : (p.tables options).deployment d = p.deployment options (g, d) := h.deployment_eq hx
  have hcall : ((p.tables options).deployment d).call o ∈
      (groupJobs (p.tables options) o g).toList := by
    rw [toList_groupJobs (hf.group g (List.mem_of_getElem? hg))]
    exact List.mem_map_of_mem hm
  have hget := OrderedMap.get?_eq_some_iff.mpr hcall
  refine ⟨p.service.namesOf (g, d), (p.deployment options (g, d)).record p.service o,
    groupRecord p.service (p.tables options) o g, (((p.tables options).deployment d).call o).2,
    h.get?_names (x := (g, d)) hx, getElem?_destinations h hd, ?_, ?_, ?_, ?_⟩
  · unfold pipeline
    rw [List.getElem?_map, hg, Option.map_some]
  · rw [ht] at hget ⊢
    exact hget
  · rw [← ht]
    exact calls_call d
  · intro j v' e hv he hc
    rw [← ht] at hc
    have hu := call_unique hf hn hg hm hv he hc
    rw [ht] at hu
    exact hu

end Plan

theorem nodup_workflow_paths {p : Plan} {o : CompileOptions} {set : ArtifactSet}
    (h : set.toList = p.artifactList o) :
    ((pipeline p.service (p.tables o.manifests) o.workflows).workflows.map (·.path)).Nodup := by
  have hn := set.nodup
  simp only [h, Plan.artifactList, List.map_append, List.map_map] at hn
  exact (List.nodup_append.mp hn).2.1

/-- **The artifacts of a service are linked.** -/
theorem references_linked {s : Service} {o : CompileOptions} {set : ArtifactSet}
    (h : s.compile o = .ok set) : ∃ p ms index pl, s.plan = .ok p ∧
      buildManifests p.service p.names o.manifests = .ok (ms, index) ∧
      synthesize p.service ⟨p.names, index⟩ o.workflows = .ok pl ∧
      set.toList = ms.map (·.artifact) ++ pl.workflows.map (·.artifact) ∧
      Linked p.service p.names pl set := by
  obtain ⟨p, hp, hf, hset⟩ := compile_eq_ok_iff.mp h
  have hv := (plan_eq_ok_iff.mp hp).2
  have hn := nodup_workflow_paths hset
  refine ⟨p, _, _, pipeline p.service (p.tables o.manifests) o.workflows, hp, hv.buildManifests,
    synthesize_eq_ok_iff.mpr ⟨hf, rfl⟩, hset, ?_⟩
  constructor
  case workflows =>
    intro w hw
    rw [hset]
    exact List.mem_append_right _ (List.mem_map_of_mem hw)
  case lengths =>
    refine ⟨List.length_map .., ?_⟩
    rw [pipeline_destinations, List.length_map]
  case stage =>
    intro i g hg
    obtain ⟨job, hjob, hc⟩ := exists_stage hf hg
    refine ⟨groupRecord _ _ _ g, job, ?_, rfl, hjob, hc⟩
    unfold pipeline
    rw [List.getElem?_map, hg, Option.map_some]
  case stage_unique =>
    intro i j w e hw he hc
    exact stage_unique hf hn hw he hc
  case call =>
    intro i n g d hg hd
    exact exists_call hv hf hn hg hd
  case manifest =>
    intro n g d hd
    obtain ⟨derived, w, path, app, hd', hw, hname, hpath, hm, hrest⟩ := exists_manifest hv hd
    refine ⟨derived, w, path, app, hd', hw, hname, hpath, ?_, hrest⟩
    rw [hset]
    exact List.mem_append_left _ hm
  case manifest_unique =>
    intro path app hm
    rw [hset] at hm
    obtain ⟨n, hd⟩ := exists_deploys hv hm
    exact ⟨n, hd, fun m hm => deploys_unique hv hd hm⟩
  case calls =>
    intro v hv' e he
    obtain ⟨w, hw, hc, -⟩ := exists_called hf hv' he
    exact ⟨w, hw, hc⟩
  case callable =>
    intro v hv' e he w hw hc
    obtain ⟨w', hw', hc', ht⟩ := exists_called hf hv' he
    have heq : w = w' := eq_of_path_eq hn hw (mem_workflows_of_mem hw') (hc.path_eq hc')
    rw [heq]
    exact ht

theorem references_linked_sample : ∃ set,
    Service.sample.compile { manifests := { repoUrl := "." } } = .ok set ∧
      ∃ p ms index pl, Service.sample.plan = .ok p ∧
      buildManifests p.service p.names { repoUrl := "." } = .ok (ms, index) ∧
      synthesize p.service ⟨p.names, index⟩ {} = .ok pl ∧
      set.toList = ms.map (·.artifact) ++ pl.workflows.map (·.artifact) ∧
      Linked p.service p.names pl set := by
  have hs :
      (Service.sample.compile { manifests := { repoUrl := "." } }).toOption.isSome = true := by
    decide +kernel
  cases h : Service.sample.compile { manifests := { repoUrl := "." } } with
  | error e =>
    rw [h] at hs
    cases hs
  | ok set => exact ⟨set, rfl, references_linked h⟩

end Rollout
