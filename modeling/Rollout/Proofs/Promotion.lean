import Rollout.Proofs.OrderedMap

/-!
# What synthesis builds

Synthesis looks every destination up, fills the job maps of the groups and then the chain of
stages. It succeeds exactly on tables that fit the service, and its result is then a plain function
of the service and the tables.

* `Tables.deployment`: what the tables hold for a destination.
* `Tables.FitsGroup`, `Tables.Fits`: every destination is held, no job key is met twice.
* `pipeline`: the workflows of a service.
* **`synthesize_eq_ok_iff`**: synthesis succeeds exactly when the tables fit, with `pipeline`.
-/

namespace Rollout

/-! ## Jobs added one after the other -/

/-- Adds jobs under keys that are still free, from left to right. -/
def addJobs (workflow : String) (jobs : Jobs) : List (String × Job) → Except SynthesisError Jobs
  | [] => .ok jobs
  | e :: es => do
    let jobs ← addJob workflow jobs e.1 e.2
    addJobs workflow jobs es

theorem addJobs_eq (workflow : String) (jobs : Jobs) (es : List (String × Job)) :
    addJobs workflow jobs es = match repeated? jobs.keys (es.map Prod.fst) with
      | some key => .error (.duplicateJob workflow key)
      | none => .ok (jobs.insertAll es) := by
  induction es generalizing jobs with
  | nil => rfl
  | cons e es ih =>
    rw [addJobs, addJob, List.map_cons, repeated?]
    by_cases he : e.1 ∈ jobs.keys
    · rw [if_pos he, if_pos (OrderedMap.contains_iff.mpr he)]
      rfl
    · -- the key stands last in the map and first among those that were met
      have hk : ∀ k, k ∈ (jobs.insert e.1 e.2).keys ↔ k ∈ e.1 :: jobs.keys := fun k => by
        rw [OrderedMap.keys_insert, if_neg he, List.mem_append, List.mem_singleton, List.mem_cons,
          or_comm]
      rw [if_neg he, if_neg fun h => he (OrderedMap.contains_iff.mp h)]
      exact (ih (jobs.insert e.1 e.2)).trans (by rw [repeated?_congr hk]; rfl)

theorem addJobs_eq_ok_iff {workflow : String} {jobs jobs' : Jobs} {es : List (String × Job)} :
    addJobs workflow jobs es = .ok jobs' ↔
      ((es.map Prod.fst).Nodup ∧ ∀ k ∈ es.map Prod.fst, k ∉ jobs.keys) ∧
        jobs' = jobs.insertAll es := by
  rw [addJobs_eq, ← repeated?_eq_none_iff]
  cases repeated? jobs.keys (es.map Prod.fst) with
  | none => simp [eq_comm]
  | some k => simp

theorem addJobs_empty_eq_ok_iff {workflow : String} {jobs : Jobs} {es : List (String × Job)} :
    addJobs workflow .empty es = .ok jobs ↔
      (es.map Prod.fst).Nodup ∧ jobs = OrderedMap.ofList es := by
  rw [addJobs_eq_ok_iff, OrderedMap.ofList_eq_insertAll]
  exact and_congr_left fun _ => and_iff_left fun _ _ h => by cases h

/-! ## Deployments -/

/-- A destination with its names and the path of its manifest. -/
structure Deployment where
  destination : ResolvedDestination
  names : Names
  manifestPath : String

namespace Deployment

/-- The workflow that deploys the destination. -/
def record (x : Deployment) (s : ResolvedService) (o : WorkflowOptions) : WorkflowRecord :=
  o.record (destinationWorkflow s x.destination x.names x.manifestPath o)

/-- The job of the group's workflow that calls it. -/
def call (x : Deployment) (o : WorkflowOptions) : String × Job :=
  (x.names.job, destinationCall x.destination x.names o)

theorem path_record (x : Deployment) (s : ResolvedService) (o : WorkflowOptions) :
    (x.record s o).path = o.path x.names.resource := by
  rw [record, WorkflowOptions.record, destinationWorkflow]

end Deployment

namespace Tables

variable (t : Tables)

/-- Both tables have an entry for the destination. -/
def Holds (d : ResolvedDestination) : Prop := d.key ∈ t.names.keys ∧ d.key ∈ t.manifests.keys

/-- What the tables hold for a destination. -/
def deployment (d : ResolvedDestination) : Deployment where
  destination := d
  names := (t.names.get? d.key).getD default
  manifestPath := (t.manifests.get? d.key).getD ""

/-- The group's destinations are held, its job keys and its stage key can be used. -/
structure FitsGroup (g : ResolvedGroup) : Prop where
  holds : ∀ d ∈ g.destinations, t.Holds d
  jobs_nodup : (g.destinations.map fun d => (t.deployment d).names.job).Nodup
  stageKey_ne : g.stageKey ≠ ""

/-- The tables fit every group, and no two stages share a key. -/
structure Fits (s : ResolvedService) : Prop where
  group : ∀ g ∈ s.groups, t.FitsGroup g
  stageKeys_nodup : (s.groups.map (·.stageKey)).Nodup

variable {t} {d : ResolvedDestination}

theorem get?_names (h : t.Holds d) : t.names.get? d.key = some (t.deployment d).names := by
  unfold deployment
  cases hn : t.names.get? d.key with
  | none => exact absurd h.1 (OrderedMap.get?_eq_none_iff.mp hn)
  | some names => rfl

theorem get?_manifests (h : t.Holds d) :
    t.manifests.get? d.key = some (t.deployment d).manifestPath := by
  unfold deployment
  cases hm : t.manifests.get? d.key with
  | none => exact absurd h.2 (OrderedMap.get?_eq_none_iff.mp hm)
  | some path => rfl

theorem holds_of_get? {names : Names} {path : String} (hn : t.names.get? d.key = some names)
    (hm : t.manifests.get? d.key = some path) : t.Holds d :=
  ⟨OrderedMap.mem_keys_of_get? hn, OrderedMap.mem_keys_of_get? hm⟩

end Tables

/-! ## The workflows as functions of the tables -/

/-- The jobs of a group's workflow: one call for each destination. -/
def groupJobs (t : Tables) (o : WorkflowOptions) (g : ResolvedGroup) : Jobs :=
  .ofList (g.destinations.map fun d => (t.deployment d).call o)

/-- The workflow of a group. -/
def groupRecord (s : ResolvedService) (t : Tables) (o : WorkflowOptions) (g : ResolvedGroup) :
    WorkflowRecord := o.record (groupWorkflow s g (groupJobs t o g))

theorem path_groupRecord (s : ResolvedService) (t : Tables) (o : WorkflowOptions)
    (g : ResolvedGroup) : (groupRecord s t o g).path = o.path (groupWorkflowName s g) := by
  rw [groupRecord, WorkflowOptions.record, groupWorkflow]

/-- The workflows of a group's destinations. -/
def destinationRecords (s : ResolvedService) (t : Tables) (o : WorkflowOptions)
    (g : ResolvedGroup) : List WorkflowRecord :=
  g.destinations.map fun d => (t.deployment d).record s o

/-- The jobs of the top workflow, each after the one before. -/
def stageCalls (s : ResolvedService) (o : WorkflowOptions) (previous : Option String) :
    List ResolvedGroup → List (String × Job)
  | [] => []
  | g :: rest => (g.stageKey, stageCall s o g previous) :: stageCalls s o (some g.stageKey) rest

/-- The workflows of a service whose destinations the tables hold. -/
def pipeline (s : ResolvedService) (t : Tables) (o : WorkflowOptions) : Pipeline where
  top := o.record (topWorkflow s (.ofList (stageCalls s o none s.groups)))
  groups := s.groups.map (groupRecord s t o)
  destinations := s.groups.flatMap (destinationRecords s t o)

section Synthesis

variable {s : ResolvedService} {t : Tables} {o : WorkflowOptions}

theorem pipeline_destinations : (pipeline s t o).destinations =
    s.destinations.map fun x => (t.deployment x.2).record s o := by
  unfold pipeline ResolvedService.destinations
  rw [List.map_flatMap]
  refine List.flatMap_congr fun g _ => ?_
  rw [List.map_map]
  rfl

theorem synthesizeDestinations_of_holds {w : String} {jobs : Jobs} {ds : List ResolvedDestination}
    (h : ∀ d ∈ ds, t.Holds d) : synthesizeDestinations s t o w jobs ds =
      (addJobs w jobs (ds.map fun d => (t.deployment d).call o)).map fun jobs =>
        (ds.map fun d => (t.deployment d).record s o, jobs) := by
  induction ds generalizing jobs with
  | nil => rfl
  | cons d ds ih =>
    have hd : t.Holds d := h d List.mem_cons_self
    have hds (jobs : Jobs) := @ih jobs fun x hx => h x (List.mem_cons_of_mem _ hx)
    simp only [synthesizeDestinations, Tables.get?_names hd, Tables.get?_manifests hd,
      List.map_cons, addJobs]
    change (addJob w jobs ((t.deployment d).call o).1 ((t.deployment d).call o).2 >>= _) =
      (addJob w jobs _ _ >>= _).map _
    cases addJob w jobs ((t.deployment d).call o).1 ((t.deployment d).call o).2 with
    | error e => rfl
    | ok jobs' =>
      change (synthesizeDestinations s t o w jobs' ds >>= _) = (addJobs w jobs' _).map _
      rw [hds]
      cases addJobs w jobs' (ds.map fun d => (t.deployment d).call o) <;> rfl

theorem holds_of_synthesizeDestinations {w : String} {jobs : Jobs}
    {ds : List ResolvedDestination} {r : List WorkflowRecord × Jobs}
    (h : synthesizeDestinations s t o w jobs ds = .ok r) : ∀ d ∈ ds, t.Holds d := by
  induction ds generalizing jobs r with
  | nil => simp
  | cons d ds ih =>
    rw [synthesizeDestinations] at h
    split at h
    · cases h
    · cases h
    · rename_i names path hn hm
      obtain ⟨jobs', -, h⟩ := bind_eq_ok_iff.mp h
      obtain ⟨r', hr, -⟩ := bind_eq_ok_iff.mp h
      intro x hx
      rcases List.mem_cons.mp hx with rfl | hx
      · exact Tables.holds_of_get? hn hm
      · exact ih hr x hx

theorem synthesizeGroup_of_holds {g : ResolvedGroup} (h : ∀ d ∈ g.destinations, t.Holds d)
    (hk : g.stageKey ≠ "") : synthesizeGroup s t o g =
      (addJobs (groupWorkflowName s g) .empty
        (g.destinations.map fun d => (t.deployment d).call o)).map fun jobs =>
          ⟨o.record (groupWorkflow s g jobs), destinationRecords s t o g⟩ := by
  unfold synthesizeGroup
  rw [synthesizeDestinations_of_holds h]
  cases addJobs (groupWorkflowName s g) .empty
      (g.destinations.map fun d => (t.deployment d).call o) with
  | error e => rfl
  | ok jobs =>
    change (if g.stageKey.isEmpty then _ else _) = _
    rw [if_neg (by simpa using hk)]
    rfl

/-- **One group.** -/
theorem synthesizeGroup_eq_ok_iff {g : ResolvedGroup} {tier : GroupTier} :
    synthesizeGroup s t o g = .ok tier ↔
      t.FitsGroup g ∧ tier = ⟨groupRecord s t o g, destinationRecords s t o g⟩ := by
  have hkeys : (g.destinations.map fun d => (t.deployment d).call o).map Prod.fst =
      g.destinations.map fun d => (t.deployment d).names.job := by
    rw [List.map_map]
    rfl
  constructor
  · intro h
    obtain ⟨r, hr, hif⟩ := bind_eq_ok_iff.mp h
    have hd := holds_of_synthesizeDestinations hr
    have hk : g.stageKey ≠ "" := by
      intro hk
      rw [hk] at hif
      cases hif
    rw [synthesizeGroup_of_holds hd hk] at h
    cases ha : addJobs (groupWorkflowName s g) .empty
        (g.destinations.map fun d => (t.deployment d).call o) with
    | error e => rw [ha] at h; cases h
    | ok jobs =>
      obtain ⟨hn, rfl⟩ := addJobs_empty_eq_ok_iff.mp ha
      rw [ha] at h
      cases h
      exact ⟨⟨hd, hkeys ▸ hn, hk⟩, rfl⟩
  · rintro ⟨⟨hd, hn, hk⟩, rfl⟩
    rw [synthesizeGroup_of_holds hd hk, addJobs_empty_eq_ok_iff.mpr ⟨hkeys ▸ hn, rfl⟩]
    rfl

theorem synthesizeGroups_eq_ok_iff {gs : List ResolvedGroup} {tiers : List GroupTier} :
    synthesizeGroups s t o gs = .ok tiers ↔ (∀ g ∈ gs, t.FitsGroup g) ∧
      tiers = gs.map fun g => ⟨groupRecord s t o g, destinationRecords s t o g⟩ := by
  induction gs generalizing tiers with
  | nil => simp [synthesizeGroups, eq_comm]
  | cons g gs ih =>
    rw [synthesizeGroups, bind_eq_ok_iff, List.forall_mem_cons, List.map_cons]
    constructor
    · rintro ⟨tier, htier, h⟩
      obtain ⟨tiers', hrest, h⟩ := bind_eq_ok_iff.mp h
      obtain ⟨hg, rfl⟩ := synthesizeGroup_eq_ok_iff.mp htier
      obtain ⟨hgs, rfl⟩ := ih.mp hrest
      cases h
      exact ⟨⟨hg, hgs⟩, rfl⟩
    · rintro ⟨⟨hg, hgs⟩, rfl⟩
      exact ⟨_, synthesizeGroup_eq_ok_iff.mpr ⟨hg, rfl⟩,
        bind_eq_ok_iff.mpr ⟨_, ih.mpr ⟨hgs, rfl⟩, rfl⟩⟩

/-! ## The chain of stages -/

theorem addStages_eq {jobs : Jobs} {previous : Option String} {gs : List ResolvedGroup} :
    addStages s o jobs previous gs = addJobs s.name jobs (stageCalls s o previous gs) := by
  induction gs generalizing jobs previous with
  | nil => rfl
  | cons g gs ih =>
    rw [addStages, stageCalls, addJobs]
    cases addJob s.name jobs g.stageKey (stageCall s o g previous) with
    | error e => rfl
    | ok jobs' => exact ih

theorem map_fst_stageCalls (previous : Option String) (gs : List ResolvedGroup) :
    (stageCalls s o previous gs).map Prod.fst = gs.map (·.stageKey) := by
  induction gs generalizing previous with
  | nil => rfl
  | cons g gs ih => rw [stageCalls, List.map_cons, List.map_cons, ih]

/-! ## All workflows -/

/-- **Synthesis succeeds exactly on tables that fit.** -/
theorem synthesize_eq_ok_iff {p : Pipeline} :
    synthesize s t o = .ok p ↔ t.Fits s ∧ p = pipeline s t o := by
  constructor
  · intro h
    obtain ⟨tiers, htiers, h⟩ := bind_eq_ok_iff.mp h
    obtain ⟨jobs, hjobs, h⟩ := bind_eq_ok_iff.mp h
    obtain ⟨hg, rfl⟩ := synthesizeGroups_eq_ok_iff.mp htiers
    obtain ⟨hn, rfl⟩ := addJobs_empty_eq_ok_iff.mp (addStages_eq.symm.trans hjobs)
    rw [map_fst_stageCalls] at hn
    cases h
    refine ⟨⟨hg, hn⟩, ?_⟩
    unfold pipeline
    rw [List.map_map, List.flatMap_map]
    rfl
  · rintro ⟨⟨hg, hn⟩, rfl⟩
    rw [← map_fst_stageCalls (s := s) (o := o) none] at hn
    have hjobs := addStages_eq.trans (addJobs_empty_eq_ok_iff.mpr ⟨hn, rfl⟩)
    refine bind_eq_ok_iff.mpr ⟨_, synthesizeGroups_eq_ok_iff.mpr ⟨hg, rfl⟩,
      bind_eq_ok_iff.mpr ⟨_, hjobs, ?_⟩⟩
    unfold pipeline
    rw [List.map_map, List.flatMap_map]
    rfl

end Synthesis

end Rollout
