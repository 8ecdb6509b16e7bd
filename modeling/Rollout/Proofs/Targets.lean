import Rollout.Proofs.Artifacts
import Rollout.Proofs.Cascade
import Rollout.Proofs.DestinationKeys
import Rollout.Proofs.Identifier.Canonical

/-!
# What manifests deploy, and where

A manifest names its cluster as the author does, by name or by address. Nothing compares the targets
of two manifests with each other: they differ because they determine the keys of the destinations,
which do.

* `Destination.Deploys`: a manifest has the cluster as authored, and what else is resolved.
* `SameTarget`: the same namespace of the same cluster, in whatever case that is written.
* `authored_target`: the target names the cluster that the key comes from.
* **`manifests_targeted`**: the manifests of a compiled service.
-/

namespace Rollout

/-! ## Targets -/

namespace ApplicationTarget

/-- The cluster, as its name or its address. -/
def cluster (t : ApplicationTarget) : String := (t.name.or t.server).getD ""

/-- Two targets are one namespace of one cluster, whose name or address may be written in another
case. -/
def SameTarget (t u : ApplicationTarget) : Prop :=
  SameButCase t.cluster u.cluster ∧ t.space = u.space

instance (t u : ApplicationTarget) : Decidable (t.SameTarget u) := by
  unfold SameTarget; infer_instance

end ApplicationTarget

namespace ResolvedDestination

variable {d e : ResolvedDestination}

/-- **The key comes from what the target names.** -/
theorem authored_target (d : ResolvedDestination) : d.target.cluster = d.authored := by
  unfold authored authoredIdentity
  cases hn : d.name with
  | none =>
    have hgiven : ¬ Given d.name := by simp [Given, hn]
    rw [target_of_not_given hgiven]
    rfl
  | some text =>
    by_cases hne : text = ""
    · have hgiven : ¬ Given d.name := by simp [Given, hn, hne]
      simp only [target_of_not_given hgiven, hne, if_true]
      rfl
    · simp only [target_of_name hn hne, if_neg hne]
      rfl

theorem key_eq_of_sameTarget (h : d.target.SameTarget e.target) : d.key = e.key := by
  obtain ⟨hcluster, hspace⟩ := h
  rw [authored_target, authored_target] at hcluster
  rw [space_target, space_target] at hspace
  refine DestinationKey.of_inj.mpr ⟨?_, hspace⟩
  unfold identity
  rw [sanitize_clusterIdentity, sanitize_clusterIdentity]
  exact hcluster.sanitize_eq

end ResolvedDestination

/-! ## Manifests -/

/-- The manifest deploys the resolved source of the service to the destination. -/
structure Destination.Deploys (s : Service) (g : Group) (d : Destination) (a : Application) :
    Prop where
  cluster : a.spec.destination.OneCluster d.name d.server
  space : a.spec.destination.space = (d.resolve s g).space.value
  space_ne : a.spec.destination.space ≠ ""
  syncPolicy : a.spec.syncPolicy = (d.resolve s g).settings.syncPolicy.value
  path : a.spec.source.path = s.resolve.source.path
  directory : ∃ dir, a.spec.source.directory = some dir ∧
    dir.included = some s.resolve.source.included ∧ dir.excluded = s.resolve.source.excluded

section Plan

variable {s : Service} {o : CompileOptions} {set : ArtifactSet} {p : Plan}

/-- The manifests of a compiled service are those of its plan. -/
theorem manifests_of_compile (h : s.compile o = .ok set) : ∃ p : Plan, p.Valid ∧
    p.service = s.resolve ∧
      set.manifests = (p.manifests o.manifests).map fun m => (m.path, m.application) := by
  obtain ⟨p, hp, -, hset⟩ := compile_eq_ok_iff.mp h
  obtain ⟨hs, hv⟩ := plan_eq_ok_iff.mp hp
  exact ⟨p, hv, hs, manifests_of_toList hset⟩

theorem Plan.Valid.deploys (h : p.Valid) (hs : p.service = s.resolve) {g : Group}
    (hg : g ∈ s.groups) {d : Destination} (hd : d ∈ g.destinations) (name : String) :
    d.Deploys s g ((d.resolve s g).application s.resolve name o.manifests) := by
  have hsound : (d.resolve s g).Sound := by
    have hgroup : g.resolve s ∈ p.service.groups := hs ▸ List.mem_map_of_mem hg
    exact (h.wellFormed.group _ hgroup).destination _ (List.mem_map_of_mem hd)
  obtain ⟨hspace, -, hcluster⟩ := ResolvedDestination.sound_iff.mp hsound
  exact
    { cluster := ResolvedDestination.oneCluster_target hcluster
      space := ResolvedDestination.space_target _
      space_ne := ne_of_eq_of_ne (ResolvedDestination.space_target _) hspace
      syncPolicy := rfl
      path := rfl
      directory := ⟨_, rfl, rfl, rfl⟩ }

/-- Manifests differ in their names and paths because the names of destinations do, and in their
targets because the keys do. -/
theorem Plan.Valid.pairwise_manifests (h : p.Valid) (options : ManifestOptions) :
    (p.manifests options).Pairwise fun m n => m.path ≠ n.path ∧
      m.application.metadata.name ≠ n.application.metadata.name ∧
        ¬ m.application.spec.destination.SameTarget n.application.spec.destination := by
  have hpaths := List.pairwise_map.mp (h.nodup_manifest_paths options)
  have hnames := List.pairwise_map.mp h.resources_nodup
  have hkeys := List.pairwise_map.mp h.keys_nodup
  refine hpaths.and (List.pairwise_map.mpr (hnames.and hkeys |>.imp fun hne => ⟨hne.1, ?_⟩))
  exact fun htarget => hne.2 (ResolvedDestination.key_eq_of_sameTarget htarget)

end Plan

/-- **Every destination has a manifest that deploys to it, and no other manifest does.** -/
theorem manifests_targeted {s : Service} {o : CompileOptions} {set : ArtifactSet}
    (h : s.compile o = .ok set) :
    List.Forall₂ (fun x m => x.2.Deploys s x.1 m.2) s.destinations set.manifests ∧
      set.manifests.Pairwise fun m n => m.1 ≠ n.1 ∧ m.2.metadata.name ≠ n.2.metadata.name ∧
        ¬ m.2.spec.destination.SameTarget n.2.spec.destination := by
  obtain ⟨p, hv, hs, hm⟩ := manifests_of_compile h
  rw [hm]
  constructor
  · rw [Plan.manifests, hs, destinations_resolve]
    simp only [List.forall₂_map_right_iff, List.forall₂_same]
    intro x hx
    obtain ⟨g, hg, hx⟩ := List.mem_flatMap.mp hx
    obtain ⟨d, hd, rfl⟩ := List.mem_map.mp hx
    exact hv.deploys hs hg hd _
  · exact List.pairwise_map.mpr (hv.pairwise_manifests o.manifests)

theorem manifests_targeted_sample : ∃ set,
    Service.sample.compile { manifests := { repoUrl := "." } } = .ok set ∧
    List.Forall₂ (fun x m => x.2.Deploys .sample x.1 m.2) Service.sample.destinations
      set.manifests ∧
    set.manifests.Pairwise fun m n => m.1 ≠ n.1 ∧ m.2.metadata.name ≠ n.2.metadata.name ∧
      ¬ m.2.spec.destination.SameTarget n.2.spec.destination := by
  obtain ⟨set, h⟩ := isSome_toOption_iff.mp (show
    (Service.sample.compile { manifests := { repoUrl := "." } }).toOption.isSome = true by
      decide +kernel)
  exact ⟨set, h, manifests_targeted h⟩

end Rollout
