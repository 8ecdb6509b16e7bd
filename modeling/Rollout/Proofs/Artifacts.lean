import Rollout.Proofs.Isolation

/-!
# The set of artifacts

A set lists manifests and workflows in the order in which they were made, and a path leads to the
one document that stands there.

* `ArtifactSet.get?_eq_some_iff`: looking up a path.
* `ArtifactSet.Holds`: the views of a set that was assembled from manifests and a pipeline.
* `Service.documents`: the documents of an authored service, as a function of it.
* **`toList_of_compile`**: what a compiled service holds, in order.
* **`artifacts_shaped`**: when a set is assembled, what it holds then, and what it holds for a
  service.
-/

namespace Rollout

/-! ## Looking up a path -/

namespace ArtifactSet

variable {set : ArtifactSet} {path : String} {c : Artifact.Content}

/-- The documents of a set by their paths. -/
def toMap (set : ArtifactSet) : OrderedMap String Artifact.Content where
  toList := set.toList.map fun a => (a.path, a.content)
  nodup := by
    rw [List.map_map]
    exact set.nodup

theorem get?_eq_get?_toMap (set : ArtifactSet) (path : String) :
    set.get? path = set.toMap.get? path := by
  unfold get? OrderedMap.get? toMap
  rw [List.find?_map, Option.map_map]
  rfl

/-- **A path has the document that stands there.** -/
theorem get?_eq_some_iff : set.get? path = some c ↔ ⟨path, c⟩ ∈ set.toList := by
  rw [get?_eq_get?_toMap, OrderedMap.get?_eq_some_iff]
  constructor
  · intro h
    obtain ⟨a, ha, he⟩ := List.mem_map.mp h
    cases he
    exact ha
  · intro h
    exact List.mem_map.mpr ⟨_, h, rfl⟩

theorem get?_eq_none_iff : set.get? path = none ↔ path ∉ set.toList.map (·.path) := by
  rw [get?_eq_get?_toMap, OrderedMap.get?_eq_none_iff, OrderedMap.keys, toMap, List.map_map]
  rfl

end ArtifactSet

/-! ## Assembling -/

/-- The manifests and then the workflows of a pipeline: those of destinations, those of groups and
the one on top. -/
def Pipeline.documents (p : Pipeline) (ms : List ManifestRecord) : List Artifact :=
  ms.map (·.artifact) ++ p.destinations.map (·.artifact) ++ p.groups.map (·.artifact) ++
    [p.top.artifact]

theorem assemble_eq (ms : List ManifestRecord) (p : Pipeline) :
    ArtifactSet.assemble ms p = ArtifactSet.ofList (p.documents ms) := by
  simp only [ArtifactSet.assemble, Pipeline.workflows, Pipeline.documents, List.map_append,
    List.map_singleton, List.append_assoc]

section Views

variable {set : ArtifactSet} {ms : List ManifestRecord} {ws : List WorkflowRecord}
  (h : set.toList = ms.map (·.artifact) ++ ws.map (·.artifact))

include h

theorem manifests_of_toList : set.manifests = ms.map fun m => (m.path, m.application) := by
  unfold ArtifactSet.manifests
  rw [h, List.filterMap_append, List.filterMap_map, List.filterMap_map]
  have hms : ms.filterMap (some ∘ fun m => (m.path, m.application)) = ms.map _ :=
    congrFun List.filterMap_eq_map ms
  have hws : ws.filterMap (fun _ => (none : Option (String × Application))) = [] :=
    List.filterMap_none ws
  exact (congrArg₂ _ hms hws).trans (List.append_nil _)

theorem workflows_of_toList : set.workflows = ws.map fun w => (w.path, w.workflow) := by
  unfold ArtifactSet.workflows
  rw [h, List.filterMap_append, List.filterMap_map, List.filterMap_map]
  have hms : ms.filterMap (fun _ => (none : Option (String × Workflow))) = [] :=
    List.filterMap_none ms
  have hws : ws.filterMap (some ∘ fun w => (w.path, w.workflow)) = ws.map _ :=
    congrFun List.filterMap_eq_map ws
  exact congrArg₂ _ hms hws

end Views

/-- The set holds exactly these manifests and the workflows of this pipeline, in order. -/
structure ArtifactSet.Holds (set : ArtifactSet) (ms : List ManifestRecord) (p : Pipeline) :
    Prop where
  toList_eq : set.toList = p.documents ms
  /-- A path of a document leads to it. -/
  get_some : ∀ path c, set.get? path = some c ↔ ⟨path, c⟩ ∈ p.documents ms
  /-- Every other path leads nowhere. -/
  get_none : ∀ path, set.get? path = none ↔ path ∉ (p.documents ms).map (·.path)
  manifests_eq : set.manifests = ms.map fun m => (m.path, m.application)
  workflows_eq : set.workflows =
    (p.destinations ++ p.groups ++ [p.top]).map fun w => (w.path, w.workflow)
  /-- The manifests come first, the workflows last, and there is nothing else. -/
  partition : set.toList = (set.manifests.map fun m => ⟨m.1, .manifest m.2⟩) ++
    set.workflows.map fun w => ⟨w.1, .workflow w.2⟩

/-- **What an assembled set holds.** -/
theorem holds_of_assemble {ms : List ManifestRecord} {p : Pipeline} {set : ArtifactSet}
    (h : ArtifactSet.assemble ms p = .ok set) : set.Holds ms p := by
  have hlist : set.toList = p.documents ms := ofList_eq_ok_iff.mp (assemble_eq ms p ▸ h)
  have hsplit : set.toList = ms.map (·.artifact) ++
      (p.destinations ++ p.groups ++ [p.top]).map (·.artifact) := ofList_eq_ok_iff.mp h
  have hm := manifests_of_toList hsplit
  have hw := workflows_of_toList hsplit
  refine ⟨hlist, fun path c => ?_, fun path => ?_, hm, hw, ?_⟩
  · rw [ArtifactSet.get?_eq_some_iff, hlist]
  · rw [ArtifactSet.get?_eq_none_iff, hlist]
  · rw [hm, hw, List.map_map, List.map_map]
    exact hsplit

/-! ## The documents of a service -/

/-- Every destination of an authored service with its group, in declared order. -/
def Service.destinations (s : Service) : List (Group × Destination) :=
  s.groups.flatMap fun g => g.destinations.map fun d => (g, d)

/-- The workflow of a group: one job for each of its destinations. -/
def Group.output (s : Service) (o : CompileOptions) (g : Group) : WorkflowRecord :=
  o.workflows.record (groupWorkflow s.resolve (g.resolve s) (.ofList (g.destinations.map fun d =>
    ((d.output s g o).names.job,
      destinationCall (d.resolve s g) (d.output s g o).names o.workflows))))

/-- The workflow on top: one stage for each group. -/
def Service.output (s : Service) (o : CompileOptions) : WorkflowRecord :=
  o.workflows.record (topWorkflow s.resolve
    (.ofList (stageCalls s.resolve o.workflows none s.resolve.groups)))

/-- What is written for a service: the manifests of all destinations, their workflows, those of the
groups and the one on top. -/
def Service.documents (s : Service) (o : CompileOptions) : List Artifact :=
  s.destinations.map (fun x => (x.2.output s x.1 o).manifest.artifact) ++
  s.destinations.map (fun x => (x.2.output s x.1 o).workflow.artifact) ++
  s.groups.map (fun g => (g.output s o).artifact) ++ [(s.output o).artifact]

theorem length_documents (s : Service) (o : CompileOptions) :
    (s.documents o).length = 2 * s.destinations.length + s.groups.length + 1 := by
  simp only [Service.documents, List.length_append, List.length_map, List.length_singleton]
  omega

theorem destinations_resolve (s : Service) : s.resolve.destinations =
    s.destinations.map fun x => (x.1.resolve s, x.2.resolve s x.1) := by
  unfold ResolvedService.destinations Service.destinations
  rw [List.map_flatMap]
  refine (List.flatMap_map ..).trans (List.flatMap_congr fun g _ => ?_)
  simp only [List.map_map]
  exact List.map_map

section Plan

variable {s : Service} {p : Plan} (hs : p.service = s.resolve) (h : p.Valid) (o : CompileOptions)

include hs

theorem map_manifests : (p.manifests o.manifests).map (·.artifact) =
    s.destinations.map fun x => (x.2.output s x.1 o).manifest.artifact := by
  rw [Plan.manifests, hs, destinations_resolve, List.map_map, List.map_map]
  rfl

include h

theorem deployment_of_resolve {g : Group} (hg : g ∈ s.groups) {d : Destination}
    (hd : d ∈ g.destinations) : (p.tables o.manifests).deployment (d.resolve s g) =
      ⟨d.resolve s g, (d.output s g o).names, (d.output s g o).manifest.path⟩ := by
  have hx : (g.resolve s, d.resolve s g) ∈ p.service.destinations :=
    hs ▸ resolve_mem_destinations hg hd
  refine (h.deployment_eq hx).trans ?_
  rw [Plan.deployment, hs]
  rfl

theorem map_destinations :
    (pipeline p.service (p.tables o.manifests) o.workflows).destinations.map (·.artifact) =
      s.destinations.map fun x => (x.2.output s x.1 o).workflow.artifact := by
  rw [pipeline_destinations, hs, destinations_resolve, List.map_map, List.map_map]
  refine List.map_congr_left fun x hx => ?_
  obtain ⟨g, hg, hx⟩ := List.mem_flatMap.mp hx
  obtain ⟨d, hd, rfl⟩ := List.mem_map.mp hx
  have := deployment_of_resolve hs h o hg hd
  simp only [Function.comp_apply]
  rw [this]
  rfl

theorem groupRecord_of_resolve {g : Group} (hg : g ∈ s.groups) :
    groupRecord s.resolve (p.tables o.manifests) o.workflows (g.resolve s) = g.output s o := by
  have hcalls : (g.resolve s).destinations.map
        (fun d => ((p.tables o.manifests).deployment d).call o.workflows) =
      g.destinations.map fun d => ((d.output s g o).names.job,
        destinationCall (d.resolve s g) (d.output s g o).names o.workflows) := by
    refine List.map_map.trans (List.map_congr_left fun d hd => ?_)
    rw [Function.comp_apply, deployment_of_resolve hs h o hg hd]
    rfl
  rw [groupRecord, groupJobs, hcalls, Group.output]

theorem map_groups :
    (pipeline p.service (p.tables o.manifests) o.workflows).groups.map (·.artifact) =
      s.groups.map fun g => (g.output s o).artifact := by
  unfold pipeline
  rw [hs, List.map_map]
  refine List.map_map.trans (List.map_congr_left fun g hg => ?_)
  exact congrArg WorkflowRecord.artifact (groupRecord_of_resolve hs h o hg)

/-- **The artifacts of a plan are the documents of its service.** -/
theorem artifactList_eq_documents : p.artifactList o = s.documents o := by
  have htop : (pipeline p.service (p.tables o.manifests) o.workflows).top = s.output o := by
    rw [hs]
    rfl
  simp only [Plan.artifactList, Pipeline.workflows, List.map_append, List.map_singleton,
    map_manifests hs, map_destinations hs h, map_groups hs h, htop, Service.documents,
    List.append_assoc]

end Plan

/-- **What a compiled service holds.** -/
theorem toList_of_compile {s : Service} {o : CompileOptions} {set : ArtifactSet}
    (h : s.compile o = .ok set) : set.toList = s.documents o := by
  obtain ⟨p, hp, -, hset⟩ := compile_eq_ok_iff.mp h
  obtain ⟨hs, hv⟩ := plan_eq_ok_iff.mp hp
  rw [hset, artifactList_eq_documents hs hv]

/-- **The shape of a set of artifacts.** Manifests and a pipeline give a set exactly when no two of
their paths are equal, and otherwise the first path that repeats one before it is told; a set holds
exactly what it is assembled from. A compiled service has for each destination a manifest, then for
each a workflow, then a workflow for each group, and last the one on top. -/
theorem artifacts_shaped :
    (∀ ms p, ((∃ set, ArtifactSet.assemble ms p = .ok set) ↔
        ((p.documents ms).map (·.path)).Nodup) ∧
      StopsAt (ArtifactSet.assemble ms p)
        ((recurring ((p.documents ms).map (·.path))).map .duplicatePath) ∧
      ∀ set, ArtifactSet.assemble ms p = .ok set → set.Holds ms p) ∧
    ∀ (s : Service) (o : CompileOptions) (set : ArtifactSet), s.compile o = .ok set →
      set.toList = s.documents o ∧ set.size = 2 * s.destinations.length + s.groups.length + 1 := by
  refine ⟨fun ms p => ⟨?_, ?_, fun set => holds_of_assemble⟩, fun s o set h => ?_⟩
  · rw [assemble_eq, exists_ofList_eq_ok_iff]
  · rw [assemble_eq]
    exact stopsAt_ofList _
  · have hlist := toList_of_compile h
    exact ⟨hlist, by rw [ArtifactSet.size, hlist, length_documents]⟩

theorem artifacts_shaped_sample :
    (∃ set, Service.sample.compile { manifests := { repoUrl := "." } } = .ok set ∧
      set.toList = Service.sample.documents { manifests := { repoUrl := "." } } ∧ set.size = 9) ∧
    ∃ set, ArtifactSet.assemble []
        { top := ⟨"top.yml", default⟩, groups := [], destinations := [] } = .ok set ∧
      set.Holds [] { top := ⟨"top.yml", default⟩, groups := [], destinations := [] } := by
  have hs := isSome_toOption_iff.mp (show
    (Service.sample.compile { manifests := { repoUrl := "." } }).toOption.isSome = true by
      decide +kernel)
  obtain ⟨set, hs⟩ := hs
  have ha : ArtifactSet.assemble []
      { top := ⟨"top.yml", default⟩, groups := [], destinations := [] } =
        .ok ⟨[⟨"top.yml", .workflow default⟩], by simp⟩ := ofList_eq_ok_iff.mpr rfl
  obtain ⟨hlist, hsize⟩ := artifacts_shaped.2 _ _ set hs
  exact ⟨⟨set, hs, hlist, hsize⟩, _, ha, (artifacts_shaped.1 _ _).2.2 _ ha⟩

end Rollout
