import Rollout.Proofs.Isolation

/-!
# Declaring groups and destinations in another order

Every stage of a run goes through groups and destinations in declared order. What it accepts and
what it writes is nevertheless a matter of which of them there are: only the chain of stages follows
the order.

* `Matched`: two lists whose values stand for each other in some order.
* `Service.Reordered`: the groups, and the destinations in each, in another order.
* `perm_destinations`: what is made of each destination alone comes out in another order.
* `Plan.Valid.reordered`, `fits_reordered`, `perm_artifact_paths`: what is accepted.
* **`compile_reordered`**: reordered services are compiled or refused together, and then differ in
  the chain of stages alone.
-/

namespace Rollout

/-! ## Lists that match -/

section Matched

variable {α β γ δ : Type} {R : α → β → Prop} {S : γ → δ → Prop} {xs : List α} {ys : List β}

/-- The values of one list stand for those of the other, in some order. -/
def Matched (R : α → β → Prop) (xs : List α) (ys : List β) : Prop :=
  ∃ zs, xs.Perm zs ∧ List.Forall₂ R zs ys

namespace Matched

theorem flip (h : Matched R xs ys) : Matched (fun y x => R x y) ys xs := by
  obtain ⟨zs, hp, hf⟩ := h
  obtain ⟨ws, hw, hp'⟩ := List.perm_comp_forall₂ hp hf
  exact ⟨ws, hp'.symm, hw.flip⟩

theorem imp (h : Matched R xs ys) {R' : α → β → Prop} (hr : ∀ x y, R x y → R' x y) :
    Matched R' xs ys := by
  obtain ⟨zs, hp, hf⟩ := h
  exact ⟨zs, hp, hf.imp hr⟩

theorem exists_mem (h : Matched R xs ys) {y : β} (hy : y ∈ ys) : ∃ x ∈ xs, R x y := by
  obtain ⟨zs, hp, hf⟩ := h
  suffices ∃ x ∈ zs, R x y from this.imp fun x hx => hx.imp_left hp.mem_iff.mpr
  clear hp
  induction hf with
  | nil => cases hy
  | @cons a b _ _ hr _ ih =>
    rcases List.mem_cons.mp hy with rfl | hy
    · exact ⟨a, List.mem_cons_self, hr⟩
    · obtain ⟨x, hx, hr⟩ := ih hy
      exact ⟨x, List.mem_cons_of_mem _ hx, hr⟩

theorem map (h : Matched R xs ys) {f : α → γ} {g : β → δ}
    (hfg : ∀ x ∈ xs, ∀ y ∈ ys, R x y → S (f x) (g y)) : Matched S (xs.map f) (ys.map g) := by
  obtain ⟨zs, hp, hf⟩ := h
  refine ⟨zs.map f, hp.map f, ?_⟩
  replace hfg : ∀ x ∈ zs, ∀ y ∈ ys, R x y → S (f x) (g y) := fun x hx =>
    hfg x (hp.mem_iff.mpr hx)
  clear hp
  induction hf with
  | nil => exact .nil
  | cons hr _ ih =>
    refine .cons (hfg _ List.mem_cons_self _ List.mem_cons_self hr) (ih fun x hx y hy => ?_)
    exact hfg x (List.mem_cons_of_mem _ hx) y (List.mem_cons_of_mem _ hy)

theorem perm_flatMap (h : Matched R xs ys) {f : α → List γ} {g : β → List γ}
    (hfg : ∀ x y, R x y → (f x).Perm (g y)) : (xs.flatMap f).Perm (ys.flatMap g) := by
  obtain ⟨zs, hp, hf⟩ := h
  refine (hp.flatMap_right f).trans ?_
  clear hp
  induction hf with
  | nil => exact .nil
  | cons hr _ ih => exact (hfg _ _ hr).append ih

theorem perm_map (h : Matched R xs ys) {f : α → γ} {g : β → γ}
    (hfg : ∀ x y, R x y → f x = g y) : (xs.map f).Perm (ys.map g) := by
  rw [List.map_eq_flatMap, List.map_eq_flatMap]
  exact h.perm_flatMap fun x y hr => by rw [hfg x y hr]

end Matched

end Matched

/-! ## Services in another order -/

/-- The same group with its destinations in another order. -/
structure Group.Reordered (g h : Group) : Prop where
  eq : h = { g with destinations := h.destinations }
  perm : g.destinations.Perm h.destinations

/-- The same service with its groups, and the destinations in them, in another order. -/
structure Service.Reordered (s t : Service) : Prop where
  eq : t = { s with groups := t.groups }
  groups : Matched Group.Reordered s.groups t.groups

/-- The same group with its destinations in another order. -/
structure ResolvedGroup.Reordered (g h : ResolvedGroup) : Prop where
  eq : h = { g with destinations := h.destinations }
  perm : g.destinations.Perm h.destinations

/-- The same service with its groups, and the destinations in them, in another order. -/
structure ResolvedService.Reordered (s t : ResolvedService) : Prop where
  eq : t = { s with groups := t.groups }
  groups : Matched ResolvedGroup.Reordered s.groups t.groups

theorem Group.Reordered.symm {g h : Group} (hr : g.Reordered h) : h.Reordered g where
  eq := by
    obtain ⟨heq, -⟩ := hr
    rw [heq]
  perm := hr.perm.symm

theorem Service.Reordered.symm {s t : Service} (h : s.Reordered t) : t.Reordered s where
  eq := by
    obtain ⟨heq, -⟩ := h
    rw [heq]
  groups := h.groups.flip.imp fun _ _ hr => hr.symm

theorem Group.Reordered.resolve {g h : Group} (hr : g.Reordered h) (s : Service) :
    (g.resolve s).Reordered (h.resolve s) := by
  obtain ⟨ds, rfl⟩ : ∃ ds, h = { g with destinations := ds } := ⟨_, hr.eq⟩
  exact ⟨rfl, hr.perm.map _⟩

theorem Service.Reordered.resolve {s t : Service} (h : s.Reordered t) :
    s.resolve.Reordered t.resolve := by
  obtain ⟨gs, rfl⟩ : ∃ gs, t = { s with groups := gs } := ⟨_, h.eq⟩
  exact ⟨rfl, h.groups.map fun g _ k _ hr => hr.resolve s⟩

/-! ## Groups -/

namespace ResolvedGroup.Reordered

variable {g h : ResolvedGroup} (hr : g.Reordered h)

include hr

theorem name : h.name = g.name := by rw [hr.eq]

theorem stageKey : h.stageKey = g.stageKey := congrArg sanitize hr.name

theorem groupWorkflowName (s : ResolvedService) :
    groupWorkflowName s h = groupWorkflowName s g := by
  rw [Rollout.groupWorkflowName, hr.name]
  rfl

theorem sound (hg : g.Sound) : h.Sound where
  stageKey_ne := hr.stageKey ▸ hg.stageKey_ne
  destinations_ne hnil := hg.destinations_ne (hnil ▸ hr.perm).eq_nil
  destination d hd := hg.destination d (hr.perm.mem_iff.mpr hd)

/-- The job that calls the group differs at most in what it needs. -/
theorem stageCall (s : ResolvedService) (o : WorkflowOptions) (previous previous' : Option String) :
    stageCall s o h previous' =
      { Rollout.stageCall s o g previous with needs := previous'.toList } := by
  rw [hr.eq]
  rfl

end ResolvedGroup.Reordered

/-! ## Destinations -/

section Resolved

variable {s t : ResolvedService} (h : s.Reordered t)

include h

/-- **What is made of each destination alone comes out in another order.** -/
theorem perm_destinations {β : Type} {f : ResolvedGroup × ResolvedDestination → β}
    (hf : ∀ (g : ResolvedGroup) (ds : List ResolvedDestination) (d : ResolvedDestination),
      f ({ g with destinations := ds }, d) = f (g, d)) :
    (s.destinations.map f).Perm (t.destinations.map f) := by
  unfold ResolvedService.destinations
  rw [List.map_flatMap, List.map_flatMap]
  refine h.groups.perm_flatMap fun g k hr => ?_
  have hk (d : ResolvedDestination) : f (k, d) = f (g, d) := by rw [hr.eq, hf]
  simp only [List.map_map, Function.comp_def, hk]
  exact hr.perm.map _

theorem perm_stageKeys : (s.groups.map (·.stageKey)).Perm (t.groups.map (·.stageKey)) :=
  h.groups.perm_map fun _ _ hr => hr.stageKey.symm

theorem perm_keys : (s.groups.flatMap (·.keys)).Perm (t.groups.flatMap (·.keys)) := by
  rw [← map_key_destinations, ← map_key_destinations]
  exact perm_destinations h fun _ _ _ => rfl

theorem wellFormed_reordered (hs : s.WellFormed) : t.WellFormed where
  name_ne := by
    rw [h.eq]
    exact hs.name_ne
  groups_ne hnil := by
    have hp := perm_stageKeys h
    rw [hnil, List.map_nil] at hp
    exact hs.groups_ne (List.map_eq_nil_iff.mp hp.eq_nil)
  group k hk := by
    obtain ⟨g, hg, hr⟩ := h.groups.exists_mem hk
    exact hr.sound (hs.group g hg)
  stageKeys_nodup := (perm_stageKeys h).nodup_iff.mp hs.stageKeys_nodup
  keys_nodup := (perm_keys h).nodup_iff.mp hs.keys_nodup

theorem namesOf_reordered : t.namesOf = s.namesOf := by
  rw [h.eq]
  rfl

theorem output_reordered (o : CompileOptions) : t.output o = s.output o := by
  rw [h.eq]
  rfl

theorem perm_namesOf : (s.destinations.map s.namesOf).Perm (t.destinations.map s.namesOf) :=
  perm_destinations h fun _ _ _ => rfl

theorem perm_output (o : CompileOptions) :
    (s.destinations.map (s.output o)).Perm (t.destinations.map (t.output o)) := by
  rw [output_reordered h]
  exact perm_destinations h fun _ _ _ => rfl

theorem nameable_reordered (hs : ∀ x ∈ s.destinations, s.Nameable x) :
    ∀ y ∈ t.destinations, t.Nameable y := by
  intro y hy
  obtain ⟨x, hx, hxy⟩ := List.mem_map.mp ((perm_namesOf h).mem_iff.mpr (List.mem_map_of_mem hy))
  have hn := hs x hx
  unfold ResolvedService.Nameable at hn ⊢
  rwa [namesOf_reordered h, ← hxy]

theorem nodup_resources_reordered
    (hs : (s.destinations.map fun x => (s.namesOf x).resource).Nodup) :
    (t.destinations.map fun y => (t.namesOf y).resource).Nodup := by
  have hp := (perm_namesOf h).map (·.resource)
  rw [List.map_map, List.map_map] at hp
  rw [namesOf_reordered h]
  exact hp.nodup_iff.mp hs

end Resolved

/-! ## Workflows in another order -/

/-- The same workflow with its jobs in another order. -/
structure WorkflowRecord.SameJobs (v w : WorkflowRecord) : Prop where
  path : w.path = v.path
  workflow : w.workflow = { v.workflow with jobs := w.workflow.jobs }
  jobs : v.workflow.jobs.toList.Perm w.workflow.jobs.toList

/-- The same workflow with its jobs in another order, each the same but for what it needs. -/
structure WorkflowRecord.SameStages (v w : WorkflowRecord) : Prop where
  path : w.path = v.path
  workflow : w.workflow = { v.workflow with jobs := w.workflow.jobs }
  keys : v.workflow.jobs.keys.Perm w.workflow.jobs.keys
  job : ∀ k j, v.workflow.jobs.get? k = some j →
    ∃ needs, w.workflow.jobs.get? k = some { j with needs }

theorem exists_group_of_mem_stageCalls {s : ResolvedService} {o : WorkflowOptions}
    {previous : Option String} {gs : List ResolvedGroup} {e : String × Job}
    (he : e ∈ stageCalls s o previous gs) :
    ∃ g ∈ gs, ∃ previous, e = (g.stageKey, stageCall s o g previous) := by
  induction gs generalizing previous with
  | nil => cases he
  | cons g gs ih =>
    rcases List.mem_cons.mp he with rfl | he
    · exact ⟨g, List.mem_cons_self, previous, rfl⟩
    · obtain ⟨k, hk, hp⟩ := ih he
      exact ⟨k, List.mem_cons_of_mem _ hk, hp⟩

theorem exists_mem_stageCalls {s : ResolvedService} {o : WorkflowOptions}
    {previous : Option String} {gs : List ResolvedGroup} {g : ResolvedGroup} (hg : g ∈ gs) :
    ∃ previous', (g.stageKey, stageCall s o g previous') ∈ stageCalls s o previous gs := by
  induction gs generalizing previous with
  | nil => cases hg
  | cons k gs ih =>
    rcases List.mem_cons.mp hg with rfl | hg
    · exact ⟨previous, List.mem_cons_self⟩
    · obtain ⟨previous', hm⟩ := ih hg
      exact ⟨previous', List.mem_cons_of_mem _ hm⟩

/-! ## Plans -/

section Plan

variable {p q : Plan}

theorem Plan.Valid.reordered (hp : p.Valid) {t : ResolvedService} (h : p.service.Reordered t) :
    ∃ q : Plan, q.service = t ∧ q.Valid := by
  obtain ⟨⟨hnameable, hnodup⟩, -⟩ := deriveNames_eq_ok_iff.mp hp.deriveNames
  have hnames := deriveNames_eq_ok_iff.mpr
    ⟨⟨nameable_reordered h hnameable, nodup_resources_reordered h hnodup⟩, rfl⟩
  exact ⟨⟨t, _⟩, rfl, wellFormed_reordered h hp.wellFormed, hnames⟩

variable (hp : p.Valid) (hq : q.Valid) (h : p.service.Reordered q.service)

include hp hq h

theorem fits_reordered {options : ManifestOptions} (hf : (p.tables options).Fits p.service) :
    (q.tables options).Fits q.service := by
  rw [hp.fits_iff] at hf
  rw [hq.fits_iff]
  intro k hk
  obtain ⟨g, hg, hr⟩ := h.groups.exists_mem hk
  have hnames (d : ResolvedDestination) :
      q.service.namesOf (k, d) = p.service.namesOf (g, d) := by
    rw [namesOf_reordered h, hr.eq]
    rfl
  simp only [hnames]
  exact (hr.perm.map _).nodup_iff.mp (hf g hg)

omit hp hq in
theorem perm_manifests (o : CompileOptions) :
    (p.manifests o.manifests).Perm (q.manifests o.manifests) := by
  have hm := (perm_output h o).map (·.manifest)
  rwa [List.map_map, List.map_map] at hm

theorem perm_destinationRecords (o : CompileOptions) :
    (pipeline p.service (p.tables o.manifests) o.workflows).destinations.Perm
      (pipeline q.service (q.tables o.manifests) o.workflows).destinations := by
  have hw {p : Plan} (hp : p.Valid) :
      (pipeline p.service (p.tables o.manifests) o.workflows).destinations =
        (p.service.destinations.map (p.service.output o)).map (·.workflow) := by
    rw [pipeline_destinations, List.map_map]
    refine List.map_congr_left fun x hx => ?_
    rw [hp.deployment_eq hx]
    rfl
  rw [hw hp, hw hq]
  exact (perm_output h o).map _

theorem sameJobs_groupRecord {options : ManifestOptions} {o : WorkflowOptions}
    (hf : (p.tables options).Fits p.service) {g k : ResolvedGroup} (hg : g ∈ p.service.groups)
    (hk : k ∈ q.service.groups) (hr : g.Reordered k) :
    (groupRecord p.service (p.tables options) o g).SameJobs
      (groupRecord q.service (q.tables options) o k) := by
  have hname : groupWorkflowName q.service k = groupWorkflowName p.service g := by
    rw [h.eq]
    exact hr.groupWorkflowName p.service
  -- a destination is called under the same name in either order
  have hcall (d : ResolvedDestination) (hd : d ∈ k.destinations) :
      ((q.tables options).deployment d).call o = ((p.tables options).deployment d).call o := by
    have hd' : d ∈ g.destinations := hr.perm.mem_iff.mpr hd
    rw [hp.deployment_eq (Plan.Valid.mem_destinations hg hd'),
      hq.deployment_eq (Plan.Valid.mem_destinations hk hd), Plan.deployment, Plan.deployment,
      namesOf_reordered h, hr.eq]
    rfl
  constructor
  case path => rw [path_groupRecord, path_groupRecord, hname]
  case workflow =>
    unfold groupRecord WorkflowOptions.record groupWorkflow
    rw [hname]
  case jobs =>
    change (groupJobs _ _ g).toList.Perm (groupJobs _ _ k).toList
    rw [toList_groupJobs (hf.group g hg),
      toList_groupJobs ((fits_reordered hp hq h hf).group k hk), List.map_congr_left hcall]
    exact hr.perm.map _

omit hp hq in
theorem sameStages_top {t t' : Tables} {o : WorkflowOptions} (hf : t.Fits p.service)
    (hf' : t'.Fits q.service) :
    (pipeline p.service t o).top.SameStages (pipeline q.service t' o).top := by
  constructor
  case path =>
    unfold pipeline
    rw [h.eq]
    rfl
  case workflow =>
    unfold pipeline
    rw [h.eq]
    rfl
  case keys =>
    rw [keys_topJobs hf, keys_topJobs hf']
    exact perm_stageKeys h
  case job =>
    intro key job hjob
    rw [OrderedMap.get?_eq_some_iff, toList_topJobs hf] at hjob
    obtain ⟨g, hg, previous, he⟩ := exists_group_of_mem_stageCalls hjob
    obtain ⟨rfl, rfl⟩ := Prod.mk.inj he
    obtain ⟨k, hk, hr⟩ := h.groups.flip.exists_mem hg
    obtain ⟨previous', hm⟩ := @exists_mem_stageCalls q.service o none _ _ hk
    refine ⟨previous'.toList, ?_⟩
    rw [OrderedMap.get?_eq_some_iff, toList_topJobs hf', ← hr.stageKey, ← hr.stageCall]
    rw [h.eq] at hm ⊢
    exact hm

/-! ## Artifacts -/

/-- Two runs write the same, but for the order of the stages and that of jobs side by side. -/
structure SameArtifacts (ms ms' : List ManifestRecord) (pl pl' : Pipeline) : Prop where
  manifests : ms.Perm ms'
  destinations : pl.destinations.Perm pl'.destinations
  groups : Matched WorkflowRecord.SameJobs pl.groups pl'.groups
  top : pl.top.SameStages pl'.top

theorem sameArtifacts_reordered {o : CompileOptions}
    (hf : (p.tables o.manifests).Fits p.service) :
    SameArtifacts (p.manifests o.manifests) (q.manifests o.manifests)
      (pipeline p.service (p.tables o.manifests) o.workflows)
      (pipeline q.service (q.tables o.manifests) o.workflows) where
  manifests := perm_manifests h o
  destinations := perm_destinationRecords hp hq h o
  groups := h.groups.map fun _ hg _ hk hr => sameJobs_groupRecord hp hq h hf hg hk hr
  top := sameStages_top h hf (fits_reordered hp hq h hf)

theorem perm_artifact_paths {o : CompileOptions} (hf : (p.tables o.manifests).Fits p.service) :
    ((p.artifactList o).map (·.path)).Perm ((q.artifactList o).map (·.path)) := by
  obtain ⟨hm, hd, hg, ht⟩ := sameArtifacts_reordered hp hq h hf
  unfold Plan.artifactList Pipeline.workflows
  simp only [List.map_append, List.map_map]
  refine (hm.map _).append (((hd.map _).append ?_).append ?_)
  · exact hg.perm_map fun v w hvw => hvw.path.symm
  · exact .of_eq (congrArg (fun path => [path]) ht.path.symm)

end Plan

section Service

variable {s t : Service} {o : CompileOptions} {set : ArtifactSet}

/-- The manifests and the pipeline of a run, and the artifacts that it assembles from them. -/
def Service.Assembles (s : Service) (o : CompileOptions) (set : ArtifactSet)
    (ms : List ManifestRecord) (pl : Pipeline) : Prop :=
  ∃ p index, s.plan = .ok p ∧
    buildManifests p.service p.names o.manifests = .ok (ms, index) ∧
    synthesize p.service ⟨p.names, index⟩ o.workflows = .ok pl ∧
    ArtifactSet.assemble ms pl = .ok set

theorem assembles_of_compile (h : s.compile o = .ok set) : ∃ p : Plan, p.service = s.resolve ∧
    p.Valid ∧ (p.tables o.manifests).Fits p.service ∧ s.Assembles o set (p.manifests o.manifests)
      (pipeline p.service (p.tables o.manifests) o.workflows) := by
  obtain ⟨p, hp, hf, hset⟩ := compile_eq_ok_iff.mp h
  obtain ⟨hs, hv⟩ := plan_eq_ok_iff.mp hp
  exact ⟨p, hs, hv, hf, p, _, hp, hv.buildManifests, synthesize_eq_ok_iff.mpr ⟨hf, rfl⟩,
    ofList_eq_ok_iff.mpr hset⟩

theorem exists_compile_reordered (h : s.Reordered t) (hs : ∃ set, s.compile o = .ok set) :
    ∃ set, t.compile o = .ok set := by
  obtain ⟨set, hset⟩ := hs
  obtain ⟨p, hp, hf, hlist⟩ := compile_eq_ok_iff.mp hset
  obtain ⟨hs, hv⟩ := plan_eq_ok_iff.mp hp
  obtain ⟨q, hq, hv'⟩ := hv.reordered (hs ▸ h.resolve)
  have hr : p.service.Reordered q.service := by
    rw [hs, hq]
    exact h.resolve
  have hn : ((q.artifactList o).map (·.path)).Nodup := by
    rw [← (perm_artifact_paths hv hv' hr hf).nodup_iff, ← hlist]
    exact set.nodup
  obtain ⟨set', hset'⟩ := exists_ofList_eq_ok_iff.mpr hn
  exact ⟨set', compile_eq_ok_iff.mpr ⟨q, plan_eq_ok_iff.mpr ⟨hq, hv'⟩,
    fits_reordered hv hv' hr hf, ofList_eq_ok_iff.mp hset'⟩⟩

/-- **Declaration order matters for the chain of stages alone.** -/
theorem compile_reordered (h : s.Reordered t) (o : CompileOptions) :
    ((∃ set, s.compile o = .ok set) ↔ ∃ set, t.compile o = .ok set) ∧
      ∀ set set', s.compile o = .ok set → t.compile o = .ok set' → ∃ ms ms' pl pl',
        s.Assembles o set ms pl ∧ t.Assembles o set' ms' pl' ∧ SameArtifacts ms ms' pl pl' ∧
        pl'.top.workflow.jobs.keys = t.resolve.groups.map (·.stageKey) ∧
        Chained pl'.top.workflow.jobs := by
  refine ⟨⟨exists_compile_reordered h, exists_compile_reordered h.symm⟩, ?_⟩
  intro set set' hs ht
  obtain ⟨p, hps, hp, hf, hset⟩ := assembles_of_compile hs
  obtain ⟨q, hqt, hq, hf', hset'⟩ := assembles_of_compile ht
  have hr : p.service.Reordered q.service := by
    rw [hps, hqt]
    exact h.resolve
  refine ⟨_, _, _, _, hset, hset', sameArtifacts_reordered hp hq hr hf, ?_, chained_topJobs hf'⟩
  rw [keys_topJobs hf', hqt]

end Service

/-- The small service with its stages, and the destinations of one, in another order. -/
def Service.turned : Service :=
  { Service.sample with
    groups := [
      { name := "production"
        destinations := [.atServer "https://10.0.0.1" "shop", .named "eu-2" "shop"] },
      { name := "canary", destinations := [.named "eu-1" "shop"] }] }

theorem Service.reordered_turned : Service.sample.Reordered Service.turned where
  eq := rfl
  groups := by
    refine ⟨_, .swap .., .cons ⟨rfl, .swap ..⟩ (.cons ⟨rfl, .refl _⟩ .nil)⟩

theorem compile_reordered_turned : Service.sample.Reordered Service.turned ∧
    ((∃ set, Service.sample.compile { manifests := { repoUrl := "." } } = .ok set) ↔
      ∃ set, Service.turned.compile { manifests := { repoUrl := "." } } = .ok set) ∧
    ∃ set set', Service.sample.compile { manifests := { repoUrl := "." } } = .ok set ∧
      Service.turned.compile { manifests := { repoUrl := "." } } = .ok set' ∧
      ∃ ms ms' pl pl', Service.sample.Assembles { manifests := { repoUrl := "." } } set ms pl ∧
        Service.turned.Assembles { manifests := { repoUrl := "." } } set' ms' pl' ∧
        SameArtifacts ms ms' pl pl' ∧
        pl'.top.workflow.jobs.keys = Service.turned.resolve.groups.map (·.stageKey) ∧
        Chained pl'.top.workflow.jobs := by
  have h := Service.reordered_turned
  obtain ⟨hiff, hsets⟩ := compile_reordered h { manifests := { repoUrl := "." } }
  obtain ⟨set, hs⟩ := isSome_toOption_iff.mp (show
    (Service.sample.compile { manifests := { repoUrl := "." } }).toOption.isSome = true by
      decide +kernel)
  obtain ⟨set', ht⟩ := hiff.mp ⟨set, hs⟩
  exact ⟨h, hiff, set, set', hs, ht, hsets set set' hs ht⟩

end Rollout
