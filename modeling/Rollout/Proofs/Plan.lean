import Rollout.Compile
import Rollout.Proofs.Manifest
import Rollout.Proofs.Naming
import Rollout.Proofs.SynthesisFailures
import Rollout.Proofs.Validation

/-!
# What follows from a plan

A plan holds a well-formed service and the names of all its destinations, so its manifests can
always be built and synthesis finds every destination it looks up.

* `stopsAt_ofList`: a set is prevented by the first path that repeats one before it.
* `Plan.Valid`: what `Service.plan` ensures; `plan_eq_ok_iff`: nothing else.
* `Plan.tables`: the tables that a plan leaves to synthesis.
* **`Plan.Valid.buildManifests`**: the manifests of a plan.
* **`Plan.Valid.fits_iff`**: its pipeline exists exactly when no group has a job key twice.
* **`compile_eq_ok_iff`**: the artifacts of a service.
-/

namespace Rollout

/-! ## Sets of artifacts -/

theorem ofList_eq_ok_iff {as : List Artifact} {set : ArtifactSet} :
    ArtifactSet.ofList as = .ok set ↔ set.toList = as := by
  rw [ArtifactSet.ofList]
  constructor
  · intro h
    split at h
    · cases h
    · cases h
      rfl
  · rintro rfl
    split
    · rename_i path hr
      rw [repeated?_eq_none set.nodup fun _ _ hm => absurd hm List.not_mem_nil] at hr
      cases hr
    · rfl

/-- **What prevents a set** are the paths that repeat one before them. -/
theorem stopsAt_ofList (as : List Artifact) : StopsAt (ArtifactSet.ofList as)
    ((recurring (as.map (·.path))).map .duplicatePath) := by
  intro e
  rw [List.head?_map, head?_recurring, ArtifactSet.ofList]
  split
  · rename_i path hr
    simp [hr]
  · rename_i hr
    simp [hr]

theorem exists_ofList_eq_ok_iff {as : List Artifact} :
    (∃ set, ArtifactSet.ofList as = .ok set) ↔ (as.map (·.path)).Nodup := by
  rw [(stopsAt_ofList as).exists_ok_iff, List.map_eq_nil_iff, recurring_eq_nil_iff]

theorem ofList_eq_duplicatePath_iff {as : List Artifact} {path : String} :
    ArtifactSet.ofList as = .error (.duplicatePath path) ↔
      repeated? [] (as.map (·.path)) = some path := by
  rw [stopsAt_ofList as, List.head?_map, head?_recurring]
  simp

theorem exists_ofList_eq_error_iff {as : List Artifact} :
    (∃ path, ArtifactSet.ofList as = .error (.duplicatePath path)) ↔
      ¬ (as.map (·.path)).Nodup := by
  simp only [ofList_eq_duplicatePath_iff, ← Option.ne_none_iff_exists', ne_eq, ← head?_recurring,
    List.head?_eq_none_iff, recurring_eq_nil_iff]

/-! ## Plans -/

/-- The service is well formed and the names are those of its destinations. -/
structure Plan.Valid (p : Plan) : Prop where
  wellFormed : p.service.WellFormed
  deriveNames : p.service.deriveNames = .ok p.names

theorem plan_eq_ok_iff {s : Service} {p : Plan} :
    s.plan = .ok p ↔ p.service = s.resolve ∧ p.Valid := by
  rw [Service.plan]
  constructor
  · intro h
    split at h
    · rename_i hp
      split at h
      · rename_i names hn
        cases h
        exact ⟨rfl, problems_eq_nil_iff.mp hp, hn⟩
      · cases h
    · cases h
  · rintro ⟨hs, hw, hn⟩
    obtain ⟨service, names⟩ := p
    change service = s.resolve at hs
    subst hs
    have hp : s.resolve.problems = [] := problems_eq_nil_iff.mpr hw
    have hd : s.resolve.deriveNames = .ok names := hn
    rw [hp, hd]

namespace Plan

/-- The manifests of a plan. -/
def manifests (p : Plan) (options : ManifestOptions) : List ManifestRecord :=
  p.service.destinations.map fun x =>
    x.2.manifest p.service options (p.service.namesOf x).resource

/-- The tables that a plan leaves to synthesis. -/
def tables (p : Plan) (options : ManifestOptions) : Tables where
  names := p.names
  manifests := .ofList (p.service.destinations.map fun x =>
    (x.2.key, manifestPath options (p.service.namesOf x).resource))

/-- A destination of a plan with its names and the path of its manifest. -/
def deployment (p : Plan) (options : ManifestOptions) (x : ResolvedGroup × ResolvedDestination) :
    Deployment where
  destination := x.2
  names := p.service.namesOf x
  manifestPath := manifestPath options (p.service.namesOf x).resource

/-- The artifacts of a plan, if its pipeline exists. -/
def artifactList (p : Plan) (o : CompileOptions) : List Artifact :=
  (p.manifests o.manifests).map (·.artifact) ++
    (pipeline p.service (p.tables o.manifests) o.workflows).workflows.map (·.artifact)

namespace Valid

variable {p : Plan} (h : p.Valid) {options : ManifestOptions}
  {x : ResolvedGroup × ResolvedDestination}

include h

/-! ## Names -/

theorem nameable (hx : x ∈ p.service.destinations) : p.service.Nameable x :=
  (deriveNames_eq_ok_iff.mp h.deriveNames).1.1 x hx

theorem resources_nodup :
    (p.service.destinations.map fun x => (p.service.namesOf x).resource).Nodup :=
  (deriveNames_eq_ok_iff.mp h.deriveNames).1.2

theorem keys_nodup : (p.service.destinations.map (·.2.key)).Nodup := by
  rw [map_key_destinations]
  exact h.wellFormed.keys_nodup

theorem toList_names : p.names.toList =
    p.service.destinations.map fun x => (x.2.key, p.service.namesOf x) := by
  rw [(deriveNames_eq_ok_iff.mp h.deriveNames).2]
  refine OrderedMap.toList_ofList ?_
  rw [List.map_map]
  exact h.keys_nodup

/-- **The table has the names of every destination.** -/
theorem get?_names (hx : x ∈ p.service.destinations) :
    p.names.get? x.2.key = some (p.service.namesOf x) := by
  rw [OrderedMap.get?_eq_some_iff, h.toList_names]
  exact List.mem_map_of_mem hx

/-! ## Manifests -/

theorem resourceIn_names (hx : x ∈ p.service.destinations) :
    resourceIn p.names x.2 = (p.service.namesOf x).resource := by
  unfold resourceIn
  rw [h.get?_names hx]
  rfl

/-- **The manifests of a plan can always be built.** -/
theorem buildManifests : buildManifests p.service p.names options =
    .ok (p.manifests options, (p.tables options).manifests) := by
  rw [buildManifests_eq_ok_iff]
  refine ⟨⟨fun x hx => ?_, h.keys_nodup⟩, Prod.ext ?_ ?_⟩
  · rw [OrderedMap.keys, h.toList_names, List.map_map]
    exact List.mem_map_of_mem hx
  · exact List.map_congr_left fun x hx => by rw [h.resourceIn_names hx]
  · refine congrArg OrderedMap.ofList (List.map_congr_left fun x hx => ?_)
    rw [h.resourceIn_names hx]

theorem toList_manifests (options : ManifestOptions) : (p.tables options).manifests.toList =
    p.service.destinations.map fun x =>
      (x.2.key, manifestPath options (p.service.namesOf x).resource) := by
  refine OrderedMap.toList_ofList ?_
  rw [List.map_map]
  exact h.keys_nodup

theorem get?_manifests (options : ManifestOptions) (hx : x ∈ p.service.destinations) :
    (p.tables options).manifests.get? x.2.key =
      some (manifestPath options (p.service.namesOf x).resource) := by
  rw [OrderedMap.get?_eq_some_iff, h.toList_manifests]
  exact List.mem_map_of_mem hx

theorem nodup_manifest_paths (options : ManifestOptions) :
    ((p.manifests options).map (·.path)).Nodup := by
  rw [manifests, List.map_map]
  exact (nodup_map_congr (fun _ _ => manifestPath_inj.symm) _).mp h.resources_nodup

/-! ## Synthesis -/

omit h in
theorem mem_destinations {g : ResolvedGroup} (hg : g ∈ p.service.groups) {d : ResolvedDestination}
    (hd : d ∈ g.destinations) : (g, d) ∈ p.service.destinations :=
  List.mem_flatMap.mpr ⟨g, hg, List.mem_map_of_mem hd⟩

theorem holds {g : ResolvedGroup} (hg : g ∈ p.service.groups) {d : ResolvedDestination}
    (hd : d ∈ g.destinations) : (p.tables options).Holds d := by
  have hn := h.get?_names (mem_destinations hg hd)
  have hm := h.get?_manifests options (mem_destinations hg hd)
  dsimp only at hn hm
  exact Tables.holds_of_get? hn hm

/-- **What synthesis finds for a destination.** -/
theorem deployment_eq (hx : x ∈ p.service.destinations) :
    (p.tables options).deployment x.2 = p.deployment options x := by
  rw [Tables.deployment, h.get?_manifests options hx, tables, h.get?_names hx]
  rfl

/-- **The pipeline exists exactly when no group has a job key twice.** -/
theorem fits_iff : (p.tables options).Fits p.service ↔ ∀ g ∈ p.service.groups,
    (g.destinations.map fun d => (p.service.namesOf (g, d)).job).Nodup := by
  have hjobs {g : ResolvedGroup} (hg : g ∈ p.service.groups) :
      (g.destinations.map fun d => ((p.tables options).deployment d).names.job) =
        g.destinations.map fun d => (p.service.namesOf (g, d)).job :=
    List.map_congr_left fun d hd => by rw [h.deployment_eq (mem_destinations hg hd), deployment]
  constructor
  · intro hf g hg
    rw [← hjobs hg]
    exact (hf.group g hg).jobs_nodup
  · intro hn
    refine ⟨fun g hg => ⟨fun d hd => h.holds hg hd, ?_, ?_⟩, ?_⟩
    · rw [hjobs hg]
      exact hn g hg
    · exact (h.wellFormed.group g hg).stageKey_ne
    · exact h.wellFormed.stageKeys_nodup

/-- Only a job key that is met twice in a group stops the synthesis of a plan. -/
theorem exists_group_of_error {o : WorkflowOptions} {e : SynthesisError}
    (he : synthesize p.service (p.tables options) o = .error e) :
    ∃ g ∈ p.service.groups, ∃ job, e = .duplicateJob (p.service.name ++ "-" ++ g.name) job :=
  duplicateJob_of_error (fun g hg =>
    ⟨fun _ hd => h.holds hg hd, (h.wellFormed.group g hg).stageKey_ne⟩)
    h.wellFormed.stageKeys_nodup he

theorem synthesize_eq_error {o : WorkflowOptions} {e : SynthesisError}
    (he : synthesize p.service (p.tables options) o = .error e) :
    ∃ workflow job, e = .duplicateJob workflow job :=
  have ⟨g, _, job, hjob⟩ := h.exists_group_of_error he
  ⟨p.service.name ++ "-" ++ g.name, job, hjob⟩

/-! ## Artifacts -/

theorem artifacts_of_fits {o : CompileOptions} (hf : (p.tables o.manifests).Fits p.service) :
    p.artifacts o = ArtifactSet.ofList (p.artifactList o) := by
  have hs : synthesize p.service (p.tables o.manifests) o.workflows =
      .ok (pipeline p.service (p.tables o.manifests) o.workflows) :=
    synthesize_eq_ok_iff.mpr ⟨hf, rfl⟩
  unfold artifacts
  rw [h.buildManifests]
  change (synthesize p.service (p.tables o.manifests) o.workflows >>= _) = _
  rw [hs]
  rfl

/-- **The artifacts of a plan.** -/
theorem artifacts_eq_ok_iff {o : CompileOptions} {set : ArtifactSet} : p.artifacts o = .ok set ↔
    (p.tables o.manifests).Fits p.service ∧ set.toList = p.artifactList o := by
  constructor
  · intro hset
    obtain ⟨r, hr, hrest⟩ := bind_eq_ok_iff.mp hset
    obtain rfl := Except.ok.inj (h.buildManifests.symm.trans hr)
    obtain ⟨pl, hpl, -⟩ := bind_eq_ok_iff.mp hrest
    have hf := (synthesize_eq_ok_iff.mp hpl).1
    rw [h.artifacts_of_fits hf] at hset
    exact ⟨hf, ofList_eq_ok_iff.mp hset⟩
  · rintro ⟨hf, hset⟩
    rw [h.artifacts_of_fits hf]
    exact ofList_eq_ok_iff.mpr hset

end Valid

end Plan

theorem compile_of_plan {s : Service} {p : Plan} (h : s.plan = .ok p) (o : CompileOptions) :
    s.compile o = (p.artifacts o).mapError .synthesis := by
  cases ha : p.artifacts o with
  | error e =>
    unfold Service.compile
    rw [h, bind_ok, ha]
    rfl
  | ok set =>
    unfold Service.compile
    rw [h, bind_ok, ha]
    rfl

/-- **The artifacts of a service.** -/
theorem compile_eq_ok_iff {s : Service} {o : CompileOptions} {set : ArtifactSet} :
    s.compile o = .ok set ↔ ∃ p, s.plan = .ok p ∧
      (p.tables o.manifests).Fits p.service ∧ set.toList = p.artifactList o := by
  have hset {p : Plan} (hp : s.plan = .ok p) : s.compile o = .ok set ↔
      (p.tables o.manifests).Fits p.service ∧ set.toList = p.artifactList o := by
    rw [compile_of_plan hp, mapError_eq_ok_iff, (plan_eq_ok_iff.mp hp).2.artifacts_eq_ok_iff]
  constructor
  · intro h
    obtain ⟨p, hp, -⟩ := bind_eq_ok_iff.mp h
    exact ⟨p, hp, (hset hp).mp h⟩
  · rintro ⟨p, hp, h⟩
    exact (hset hp).mpr h

/-! ## A small service -/

/-- Two stages, three clusters by name or address, and settings of the author that the deploy jobs
override. -/
def Service.sample : Service where
  name := "checkout"
  groups := [
    { name := "canary", destinations := [.named "eu-1" "shop"] },
    { name := "production"
      destinations := [.named "eu-2" "shop", .atServer "https://10.0.0.1" "shop"] }]
  controller := { hostname := some "argocd.example.com" }
  ci :=
    { settings :=
        { extraDeployJobs := .ofList [("eu-1", { name := some "own" }), ("notify", {})]
          env := .ofList [(manifestVariable, "elsewhere.yaml")] } }

/-- The plan of the small service. -/
def Plan.sample : Plan where
  service := Service.sample.resolve
  names := .ofList [
    (.of "eu-1" "shop", ⟨"checkout-canary-eu-1", "eu-1"⟩),
    (.of "eu-2" "shop", ⟨"checkout-production-eu-2", "eu-2"⟩),
    (.of "10-0-0-1" "shop", ⟨"checkout-production-10-0-0-1", "10-0-0-1"⟩)]

theorem Plan.sample_valid : Plan.sample.Valid where
  wellFormed := by
    have h : Service.sample.resolve.problems.isEmpty = true := by decide +kernel
    exact problems_eq_nil_iff.mp (List.isEmpty_iff.mp h)
  deriveNames := by decide +kernel

theorem Service.plan_sample : Service.sample.plan = .ok Plan.sample :=
  plan_eq_ok_iff.mpr ⟨rfl, Plan.sample_valid⟩

theorem Plan.fits_sample (options : ManifestOptions) :
    (Plan.sample.tables options).Fits Plan.sample.service :=
  Plan.sample_valid.fits_iff.mpr (by decide +kernel)

end Rollout
