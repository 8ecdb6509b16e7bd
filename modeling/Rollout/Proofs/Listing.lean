import Rollout.CommandLine.Listing
import Rollout.Proofs.References

/-!
# The listing agrees with the pipeline

The listing of a plan and its pipeline show the order of the groups on their own: the one by numbers
and by the name of the group before, the other by jobs that wait for each other.

* `waitLabel`: what the listing shows that a stage waits for.
* **`forall₂_rows`**: the rows of a plan are those of its destinations, in declared order.
* `PlanRow.Orders`, `PlanRow.Labels`: what a row says of the stages and of the artifacts.
* **`listing_agrees`**: the listing of a service agrees with its artifacts.
-/

namespace Rollout

/-! ## Rows -/

/-- What the stage at a place waits for, as the listing shows it: the group before, or a dash. -/
def waitLabel (gs : List ResolvedGroup) : Nat → String
  | 0 => "-"
  | i + 1 => (gs[i]?.map (·.name)).getD "-"

/-- The row is that of a destination of a group, by the place of the group. -/
def IsRow (names : NameTable) (gs : List ResolvedGroup) (r : PlanRow)
    (x : ResolvedGroup × ResolvedDestination) : Prop :=
  ∃ i, gs[i]? = some x.1 ∧ r = planRow names (i + 1) (waitLabel gs i) x.1 x.2

/-- The rows of the groups that are left, after some are done. -/
theorem forall₂_planRowsFrom (names : NameTable) {all : List ResolvedGroup}
    (done gs : List ResolvedGroup) (h : all = done ++ gs) : List.Forall₂ (IsRow names all)
      (planRowsFrom names (done.length + 1) (waitLabel all done.length) gs)
      (gs.flatMap fun g => g.destinations.map fun d => (g, d)) := by
  induction gs generalizing done with
  | nil => exact .nil
  | cons g gs ih =>
    have hg : all[done.length]? = some g := by
      rw [h, List.getElem?_append_right le_rfl, Nat.sub_self, List.getElem?_cons_zero]
    have hlabel : waitLabel all (done ++ [g]).length = g.name := by
      rw [List.length_append, List.length_singleton, waitLabel, hg]
      rfl
    have hrest := ih (done ++ [g]) (by simpa using h)
    rw [hlabel, List.length_append, List.length_singleton] at hrest
    rw [planRowsFrom, List.flatMap_cons]
    refine List.rel_append ?_ hrest
    rw [List.forall₂_map_left_iff, List.forall₂_map_right_iff, List.forall₂_same]
    exact fun d _ => ⟨_, hg, rfl⟩

/-- **The rows of a plan are those of its destinations, in declared order.** -/
theorem forall₂_rows (p : Plan) :
    List.Forall₂ (IsRow p.names p.service.groups) p.rows p.service.destinations :=
  forall₂_planRowsFrom p.names [] p.service.groups rfl

theorem exists_of_getElem?_rows {p : Plan} {n : Nat} {r : PlanRow} (h : p.rows[n]? = some r) :
    ∃ x, p.service.destinations[n]? = some x ∧ IsRow p.names p.service.groups r x := by
  obtain ⟨hlen, hrows⟩ := List.forall₂_iff_get.mp (forall₂_rows p)
  obtain ⟨hlt, rfl⟩ := List.getElem?_eq_some_iff.mp h
  exact ⟨_, List.getElem?_eq_getElem (hlen ▸ hlt), hrows n hlt (hlen ▸ hlt)⟩

theorem exists_row_of_mem {p : Plan} {x : ResolvedGroup × ResolvedDestination}
    (h : x ∈ p.service.destinations) : ∃ r ∈ p.rows, IsRow p.names p.service.groups r x := by
  obtain ⟨hlen, -⟩ := List.forall₂_iff_get.mp (forall₂_rows p)
  obtain ⟨n, hn⟩ := List.mem_iff_getElem?.mp h
  have hlt : n < p.rows.length := hlen ▸ (List.getElem?_eq_some_iff.mp hn).1
  have hr := List.getElem?_eq_getElem hlt
  obtain ⟨x', hx', hrow⟩ := exists_of_getElem?_rows hr
  obtain rfl := Option.some_inj.mp (hn.symm.trans hx')
  exact ⟨_, List.mem_of_getElem? hr, hrow⟩

/-! ## What a row says -/

/-- The row tells the stage and the job that run the destination workflow `w`, and what the stage
waits for. -/
structure PlanRow.Orders (r : PlanRow) (p : Pipeline) (w : WorkflowRecord) (e : String × Job)
    (v : WorkflowRecord) : Prop where
  /-- Stages are counted from one. -/
  stage : 1 ≤ r.stage ∧ p.top.workflow.jobs.toList[r.stage - 1]? = some e
  group : e.2.name = some r.group
  first : r.after = "-" ↔ e.2.needs = []
  next : r.after ≠ "-" → e.2.needs = [sanitize r.after]
  /-- The stage calls one workflow. -/
  call : v ∈ p.workflows ∧ ∀ v' ∈ p.workflows, e.2.Calls v' ↔ v' = v
  /-- One job of that workflow calls the destination. -/
  job : ∀ key, (∃ job, v.workflow.jobs.get? key = some job ∧ job.Calls w) ↔ key = r.job

/-- The row names the artifacts of the destination that the workflow `w` runs and the manifest `m`
deploys. -/
structure PlanRow.Labels (r : PlanRow) (o : CompileOptions) (set : ArtifactSet)
    (w : WorkflowRecord) (m : ManifestRecord) : Prop where
  resource_ne : r.resource ≠ ""
  job_ne : r.job ≠ ""
  workflow : w.workflow.name = r.resource ∧ w.path = o.workflows.path r.resource ∧
    w.artifact ∈ set.toList
  manifest : m.application.metadata.name = r.resource ∧
    m.path = manifestPath o.manifests r.resource ∧ m.artifact ∈ set.toList

/-- The rows are one for each destination, in declared order, and agree with a pipeline and with
manifests. -/
structure Listed (s : ResolvedService) (o : CompileOptions) (ms : List ManifestRecord)
    (index : ManifestIndex) (p : Pipeline) (set : ArtifactSet) (rows : List PlanRow) : Prop where
  length : rows.length = s.destinations.length
  /-- The workflow and the manifest that a row names are those of its destination. -/
  row : ∀ (n : Nat) (r : PlanRow), rows[n]? = some r → ∃ g d w m e v,
    s.destinations[n]? = some (g, d) ∧ r.destination = d.key.text ∧ r.group = g.name ∧
      p.destinations[n]? = some w ∧ ms[n]? = some m ∧ index.get? d.key = some m.path ∧
        r.Labels o set w m ∧ r.Orders p w e v
  /-- No stage is left out. -/
  stage : ∀ i < p.top.workflow.jobs.toList.length, ∃ r ∈ rows, r.stage = i + 1

section Plan

variable {p : Plan} (h : p.Valid) {o : WorkflowOptions} {options : ManifestOptions}
  {i : Nat} {g : ResolvedGroup}

include h

/-- No group is named like the mark of the first stage. -/
theorem name_ne_dash (hg : g ∈ p.service.groups) : g.name ≠ "-" := by
  intro hn
  have hk := (h.wellFormed.group g hg).stageKey_ne
  rw [ResolvedGroup.stageKey, hn] at hk
  exact hk (by decide +kernel)

/-- **The stage at a place.** -/
theorem exists_stage_waiting (hf : (p.tables options).Fits p.service)
    (hg : p.service.groups[i]? = some g) : ∃ e,
      (pipeline p.service (p.tables options) o).top.workflow.jobs.toList[i]? = some e ∧
        e.2.name = some g.name ∧
        e.2.Calls (groupRecord p.service (p.tables options) o g) ∧
        (waitLabel p.service.groups i = "-" ↔ e.2.needs = []) ∧
        (waitLabel p.service.groups i ≠ "-" →
          e.2.needs = [sanitize (waitLabel p.service.groups i)]) := by
  rw [toList_topJobs hf]
  cases i with
  | zero =>
    refine ⟨_, by rw [getElem?_stageCalls_zero, hg]; rfl, rfl, calls_stageCall _, ?_, ?_⟩
    · exact iff_of_true rfl rfl
    · exact fun hne => absurd rfl hne
  | succ i =>
    have hlt : i < p.service.groups.length := by
      have := (List.getElem?_eq_some_iff.mp hg).1
      omega
    have hb := List.getElem?_eq_getElem hlt
    have hlabel : waitLabel p.service.groups (i + 1) = p.service.groups[i].name := by
      rw [waitLabel, hb]
      rfl
    have hne := name_ne_dash h (List.getElem_mem hlt)
    refine ⟨(g.stageKey, stageCall p.service o g (some p.service.groups[i].stageKey)),
      by rw [getElem?_stageCalls_succ, hg, hb]; rfl, rfl, calls_stageCall _, ?_, ?_⟩
    · rw [hlabel]
      exact iff_of_false hne (List.cons_ne_nil _ _)
    · rw [hlabel]
      exact fun _ => rfl

variable {d : ResolvedDestination} {n k : Nat} {after : String}

theorem resource_planRow (hx : (g, d) ∈ p.service.destinations) :
    (planRow p.names k after g d).resource = (p.service.namesOf (g, d)).resource := by
  have hd := h.get?_names hx
  dsimp only at hd
  rw [planRow, hd]
  rfl

theorem job_planRow (hx : (g, d) ∈ p.service.destinations) :
    (planRow p.names k after g d).job = (p.service.namesOf (g, d)).job := by
  have hd := h.get?_names hx
  dsimp only at hd
  rw [planRow, hd]
  rfl

/-- **A row tells the stage and the job of its destination.** -/
theorem orders_planRow (hf : (p.tables options).Fits p.service)
    (hn : ((pipeline p.service (p.tables options) o).workflows.map (·.path)).Nodup)
    (hg : p.service.groups[i]? = some g) (hd : p.service.destinations[n]? = some (g, d)) :
    ∃ e v, (planRow p.names (i + 1) (waitLabel p.service.groups i) g d).Orders
      (pipeline p.service (p.tables options) o)
      ((p.deployment options (g, d)).record p.service o) e v := by
  have hx : (g, d) ∈ p.service.destinations := List.mem_of_getElem? hd
  obtain ⟨e, he, hname, hcalls, hfirst, hnext⟩ := exists_stage_waiting (o := o) h hf hg
  obtain ⟨derived, w, v, job, hder, hw, hv, hjob, hjw, hunique⟩ :=
    exists_call (o := o) h hf hn hg hd
  obtain rfl := Option.some_inj.mp ((h.get?_names hx).symm.trans hder)
  obtain rfl := Option.some_inj.mp ((getElem?_destinations h hd).symm.trans hw)
  obtain rfl : groupRecord p.service (p.tables options) o g = v := by
    unfold pipeline at hv
    rw [List.getElem?_map, hg, Option.map_some] at hv
    exact Option.some_inj.mp hv
  have hmem : groupRecord p.service (p.tables options) o g ∈
      (pipeline p.service (p.tables options) o).workflows :=
    mem_workflows_of_mem (List.mem_append_left _ (List.mem_of_getElem? hv))
  refine ⟨e, groupRecord p.service (p.tables options) o g, ?_⟩
  constructor
  case stage => exact ⟨Nat.succ_pos i, he⟩
  case group => exact hname
  case first => exact hfirst
  case next => exact hnext
  case call =>
    refine ⟨hmem, fun v' hv' => ⟨fun hc => ?_, fun heq => heq ▸ hcalls⟩⟩
    exact eq_of_path_eq hn hv' hmem (hc.path_eq hcalls)
  case job =>
    intro key
    rw [job_planRow h hx]
    constructor
    · rintro ⟨job', hget, hc⟩
      exact (hunique i _ (key, job') hv (OrderedMap.get?_eq_some_iff.mp hget) hc).2
    · rintro rfl
      exact ⟨job, hjob, hjw⟩

/-- **A row names the artifacts of its destination.** -/
theorem labels_planRow {c : CompileOptions} {set : ArtifactSet}
    (hset : set.toList = p.artifactList c) (hd : p.service.destinations[n]? = some (g, d)) :
    (planRow p.names k after g d).Labels c set
      ((p.deployment c.manifests (g, d)).record p.service c.workflows)
      (d.manifest p.service c.manifests (p.service.namesOf (g, d)).resource) := by
  have hx : (g, d) ∈ p.service.destinations := List.mem_of_getElem? hd
  have hw : (p.deployment c.manifests (g, d)).record p.service c.workflows ∈
      (pipeline p.service (p.tables c.manifests) c.workflows).destinations :=
    List.mem_of_getElem? (getElem?_destinations h hd)
  obtain ⟨hres, hjob⟩ := h.nameable hx
  constructor
  case resource_ne =>
    rw [resource_planRow h hx]
    exact hres.1
  case job_ne =>
    rw [job_planRow h hx]
    exact hjob.1
  case workflow =>
    rw [resource_planRow h hx, hset]
    refine ⟨rfl, rfl, List.mem_append_right _ (List.mem_map_of_mem ?_)⟩
    exact mem_workflows_of_mem (List.mem_append_right _ hw)
  case manifest =>
    have hm : (d.manifest p.service c.manifests (p.service.namesOf (g, d)).resource).artifact ∈
        (p.manifests c.manifests).map (·.artifact) :=
      List.mem_map_of_mem (List.mem_map.mpr ⟨(g, d), hx, rfl⟩)
    rw [resource_planRow h hx, hset]
    exact ⟨rfl, rfl, List.mem_append_left _ hm⟩

end Plan

/-- Every stage has a row: no group of a plan is empty. -/
theorem exists_row_of_stage {p : Plan} (h : p.Valid) {i : Nat} (hi : i < p.service.groups.length) :
    ∃ r ∈ p.rows, r.stage = i + 1 := by
  have hg := List.getElem?_eq_getElem hi
  have hm := List.getElem_mem hi
  obtain ⟨d, hd⟩ := List.exists_mem_of_ne_nil _ (h.wellFormed.group _ hm).destinations_ne
  obtain ⟨r, hr, j, hj, rfl⟩ := exists_row_of_mem (Plan.Valid.mem_destinations hm hd)
  have hij : j = i := index_unique_map h.wellFormed.stageKeys_nodup hj hg rfl
  exact ⟨_, hr, congrArg (· + 1) hij⟩

/-- **The listing of a service agrees with its artifacts.** -/
theorem listing_agrees {s : Service} {o : CompileOptions} {set : ArtifactSet}
    (h : s.compile o = .ok set) : ∃ p ms index pl, s.plan = .ok p ∧
      buildManifests p.service p.names o.manifests = .ok (ms, index) ∧
      synthesize p.service ⟨p.names, index⟩ o.workflows = .ok pl ∧
      set.toList = ms.map (·.artifact) ++ pl.workflows.map (·.artifact) ∧
      Listed p.service o ms index pl set p.rows := by
  obtain ⟨p, hp, hf, hset⟩ := compile_eq_ok_iff.mp h
  have hv := (plan_eq_ok_iff.mp hp).2
  have hn := nodup_workflow_paths hset
  refine ⟨p, _, _, pipeline p.service (p.tables o.manifests) o.workflows, hp, hv.buildManifests,
    synthesize_eq_ok_iff.mpr ⟨hf, rfl⟩, hset, ?_⟩
  constructor
  case length => exact (forall₂_rows p).length_eq
  case row =>
    intro n r hr
    obtain ⟨⟨g, d⟩, hd, i, hg, rfl⟩ := exists_of_getElem?_rows hr
    obtain ⟨e, v, horders⟩ := orders_planRow hv hf hn hg hd
    have hm : (p.manifests o.manifests)[n]? =
        some (d.manifest p.service o.manifests (p.service.namesOf (g, d)).resource) := by
      rw [Plan.manifests, List.getElem?_map, hd]
      rfl
    have hindex := hv.get?_manifests o.manifests (List.mem_of_getElem? hd)
    exact ⟨g, d, _, _, e, v, hd, rfl, rfl, getElem?_destinations hv hd, hm, hindex,
      labels_planRow hv hset hd, horders⟩
  case stage =>
    intro i hi
    refine exists_row_of_stage hv ?_
    rwa [toList_topJobs hf, ← List.length_map Prod.fst, map_fst_stageCalls, List.length_map] at hi

theorem listing_agrees_sample : ∃ set,
    Service.sample.compile { manifests := { repoUrl := "." } } = .ok set ∧
      ∃ p ms index pl, Service.sample.plan = .ok p ∧
      buildManifests p.service p.names { repoUrl := "." } = .ok (ms, index) ∧
      synthesize p.service ⟨p.names, index⟩ {} = .ok pl ∧
      set.toList = ms.map (·.artifact) ++ pl.workflows.map (·.artifact) ∧
      Listed p.service { manifests := { repoUrl := "." } } ms index pl set p.rows := by
  have hs :
      (Service.sample.compile { manifests := { repoUrl := "." } }).toOption.isSome = true := by
    decide +kernel
  cases h : Service.sample.compile { manifests := { repoUrl := "." } } with
  | error e =>
    rw [h] at hs
    cases hs
  | ok set => exact ⟨set, rfl, listing_agrees h⟩

end Rollout
