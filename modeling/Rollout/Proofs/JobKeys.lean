import Rollout.Proofs.Plan

/-!
# Job keys that clash

The job name of a destination starts with the identity of its cluster and so loses a web scheme that
the resource name, where other words come first, keeps. Names that are derived for the destinations
of a group can therefore share a job name only where their clusters differ in the scheme.

* `SchemeClash`: two destinations that differ in the scheme and share the words of the job name.
* **`job_eq_iff_schemeClash`**: among destinations of a plan nothing else makes job names equal.
* **`duplicateJob_iff_jobsClash`**: synthesis refuses a plan exactly when two destinations of a
  group clash.
* `duplicateJob_schemeTwins`: a service that can be planned and is refused.
-/

namespace Rollout

/-- The clusters differ in the web scheme before their names and agree in the words behind it, with
those of the namespace where names have it. -/
def SchemeClash (scheme : NamingScheme) (d e : ResolvedDestination) : Prop :=
  webScheme? d.identity ≠ webScheme? e.identity ∧ d.jobWords scheme = e.jobWords scheme

/-- Two destinations of a group clash. -/
def Plan.JobsClash (p : Plan) : Prop :=
  ∃ g ∈ p.service.groups, ∃ d ∈ g.destinations, ∃ e ∈ g.destinations,
    SchemeClash p.service.naming d e

/-- Any two destinations of the group have different job names. -/
def DistinctJobs (names : NameTable) (g : ResolvedGroup) : Prop :=
  g.destinations.Pairwise fun d e => ∃ a b, names.get? d.key = some a ∧
    names.get? e.key = some b ∧ a.job ≠ b.job

section Plan

variable {p : Plan} (h : p.Valid) {g : ResolvedGroup} (hg : g ∈ p.service.groups)

include h hg

theorem nodup_group_resources :
    (g.destinations.map fun d => (p.service.namesOf (g, d)).resource).Nodup := by
  have hn := h.resources_nodup
  unfold ResolvedService.destinations at hn
  rw [List.map_flatMap, List.nodup_flatMap] at hn
  have := hn.1 g hg
  rwa [List.map_map] at this

/-- **Only a scheme makes the job names of two destinations of a group equal.** -/
theorem job_eq_iff_schemeClash {d e : ResolvedDestination} (hd : d ∈ g.destinations)
    (he : e ∈ g.destinations) (hne : d ≠ e) :
    (p.service.namesOf (g, d)).job = (p.service.namesOf (g, e)).job ↔
      SchemeClash p.service.naming d e := by
  simp only [ResolvedService.namesOf, ResolvedDestination.job_eq_iff, SchemeClash, iff_and_self]
  intro hj hs
  refine hne (List.inj_on_of_nodup_map (nodup_group_resources h hg) hd he ?_)
  simp only [ResolvedService.namesOf, ResolvedDestination.resource_eq_iff,
    ResolvedDestination.tailWords_eq, hs, hj]

theorem nodup_jobs_iff :
    (g.destinations.map fun d => (p.service.namesOf (g, d)).job).Nodup ↔
      ∀ d ∈ g.destinations, ∀ e ∈ g.destinations, ¬ SchemeClash p.service.naming d e := by
  refine nodup_map_iff_not_clash (nodup_group_resources h hg) ?_ fun _ hc => hc.1 rfl
  intro d hd e he hne
  exact job_eq_iff_schemeClash h hg hd he hne

theorem distinctJobs_iff : DistinctJobs p.names g ↔
    (g.destinations.map fun d => (p.service.namesOf (g, d)).job).Nodup := by
  unfold DistinctJobs
  rw [List.Nodup, List.pairwise_map]
  refine List.Pairwise.iff_of_mem fun {d e} hd he => ?_
  have hdn := h.get?_names (Plan.Valid.mem_destinations hg hd)
  have hen := h.get?_names (Plan.Valid.mem_destinations hg he)
  dsimp only at hdn hen
  rw [hdn, hen]
  constructor
  · rintro ⟨a, b, ha, hb, hab⟩
    cases ha
    cases hb
    exact hab
  · intro hab
    exact ⟨_, _, rfl, rfl, hab⟩

end Plan

theorem fits_iff_not_jobsClash {p : Plan} (h : p.Valid) (options : ManifestOptions) :
    (p.tables options).Fits p.service ↔ ¬ p.JobsClash := by
  rw [h.fits_iff, Plan.JobsClash]
  simp only [not_exists, not_and]
  exact forall₂_congr fun g hg => nodup_jobs_iff h hg

/-- **Synthesis refuses a plan exactly when two destinations of a group clash.** -/
theorem duplicateJob_iff_jobsClash {s : Service} {p : Plan} (h : s.plan = .ok p)
    (options : ManifestOptions) (o : WorkflowOptions) : ∃ ms index,
      buildManifests p.service p.names options = .ok (ms, index) ∧
      ((∀ g ∈ p.service.groups, DistinctJobs p.names g) ↔ ¬ p.JobsClash) ∧
      ((∃ w j, synthesize p.service ⟨p.names, index⟩ o = .error (.duplicateJob w j)) ↔
        p.JobsClash) ∧
      ((∃ pl, synthesize p.service ⟨p.names, index⟩ o = .ok pl) ↔ ¬ p.JobsClash) := by
  have hv := (plan_eq_ok_iff.mp h).2
  have hok : (∃ pl, synthesize p.service (p.tables options) o = .ok pl) ↔ ¬ p.JobsClash := by
    rw [← fits_iff_not_jobsClash hv options]
    constructor
    · rintro ⟨pl, hpl⟩
      exact (synthesize_eq_ok_iff.mp hpl).1
    · intro hf
      exact ⟨_, synthesize_eq_ok_iff.mpr ⟨hf, rfl⟩⟩
  refine ⟨_, _, hv.buildManifests, ?_, ?_, hok⟩
  · rw [← fits_iff_not_jobsClash hv options, hv.fits_iff]
    exact forall₂_congr fun g hg => distinctJobs_iff hv hg
  · change (∃ w j, synthesize p.service (p.tables options) o = .error (.duplicateJob w j)) ↔ _
    rw [← not_iff_not, ← hok]
    cases hr : synthesize p.service (p.tables options) o with
    | ok pl => simp
    | error e =>
      obtain ⟨w, j, rfl⟩ := hv.synthesize_eq_error hr
      simp

theorem duplicateJob_iff_jobsClash_sample : Service.sample.plan = .ok Plan.sample ∧ ∃ ms index,
    buildManifests Plan.sample.service Plan.sample.names { repoUrl := "." } = .ok (ms, index) ∧
    ((∀ g ∈ Plan.sample.service.groups, DistinctJobs Plan.sample.names g) ↔
      ¬ Plan.sample.JobsClash) ∧
    ((∃ w j, synthesize Plan.sample.service ⟨Plan.sample.names, index⟩ {} =
      .error (.duplicateJob w j)) ↔ Plan.sample.JobsClash) ∧
    ((∃ pl, synthesize Plan.sample.service ⟨Plan.sample.names, index⟩ {} = .ok pl) ↔
      ¬ Plan.sample.JobsClash) :=
  ⟨Service.plan_sample, duplicateJob_iff_jobsClash Service.plan_sample { repoUrl := "." } {}⟩

/-- One cluster by an address given as its name and another by what follows the scheme. -/
def Service.schemeTwins : Service where
  name := "checkout"
  groups := [{ name := "g", destinations := [.named "https://x" "a", .named "x" "b"] }]
  controller := { hostname := some "argocd.example.com" }

/-- Its plan. -/
def Plan.schemeTwins : Plan where
  service := Service.schemeTwins.resolve
  names := .ofList [
    (.of "https://x" "a", ⟨"checkout-g-https-x", "x"⟩),
    (.of "x" "b", ⟨"checkout-g-x", "x"⟩)]

theorem Plan.schemeTwins_valid : Plan.schemeTwins.Valid where
  wellFormed := by
    have h : Plan.schemeTwins.service.problems.isEmpty = true := by decide +kernel
    exact problems_eq_nil_iff.mp (List.isEmpty_iff.mp h)
  deriveNames := by decide +kernel

/-- **A service that can be planned is refused for a job key.** -/
theorem duplicateJob_schemeTwins : ∃ p ms index, Service.schemeTwins.plan = .ok p ∧
    buildManifests p.service p.names { repoUrl := "." } = .ok (ms, index) ∧
    synthesize p.service ⟨p.names, index⟩ {} = .error (.duplicateJob "checkout-g" "x") := by
  have hv := Plan.schemeTwins_valid
  refine ⟨Plan.schemeTwins, _, _, plan_eq_ok_iff.mpr ⟨rfl, hv⟩, hv.buildManifests, ?_⟩
  decide +kernel

end Rollout
