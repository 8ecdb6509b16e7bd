import Rollout.Proofs.JobKeys

/-!
# Tables after a plan

Manifests and workflows look destinations up in tables that an earlier stage filled. The tables
would overwrite an entry whose key came again, so that nothing is missing rests on the checks
before.

* `Plan.Complete`: the tables of a plan have an entry for each destination and no other.
* **`plan_complete`**: they always have, and only a job key that is met twice in a group stops what
  follows.
-/

namespace Rollout

theorem groupWorkflowName_ne (s : ResolvedService) (g : ResolvedGroup) :
    s.name ++ "-" ++ g.name ≠ s.name := by
  intro h
  have hl := congrArg String.length h
  simp only [String.length_append] at hl
  have : "-".length = 1 := rfl
  omega

/-- The tables of a plan, and the manifests that are built from them, have one entry for each
destination. -/
structure Plan.Complete (p : Plan) (o : CompileOptions) (ms : List ManifestRecord)
    (index : ManifestIndex) : Prop where
  keys_names : p.names.keys.Perm (p.service.destinations.map (·.2.key))
  size_names : p.names.size = p.service.destinations.length
  /-- One manifest for each destination, in declared order, to whose path the index leads. -/
  manifests : List.Forall₂ (fun x m => ∃ names, p.names.get? x.2.key = some names ∧
    m = x.2.manifest p.service o.manifests names.resource ∧ index.get? x.2.key = some m.path)
    p.service.destinations ms
  paths_nodup : (ms.map (·.path)).Nodup
  keys_index : index.keys.Perm (p.service.destinations.map (·.2.key))
  /-- Only a job key that is met twice in the workflow of a group is left to go wrong: nothing is
  missing or empty, and the top workflow can be filled. -/
  error : ∀ e, synthesize p.service ⟨p.names, index⟩ o.workflows = .error e →
    ∃ g ∈ p.service.groups, ∃ job, e = .duplicateJob (p.service.name ++ "-" ++ g.name) job ∧
      p.service.name ++ "-" ++ g.name ≠ p.service.name

theorem complete_of_valid {p : Plan} (h : p.Valid) (o : CompileOptions) :
    p.Complete o (p.manifests o.manifests) (p.tables o.manifests).manifests := by
  constructor
  case keys_names =>
    rw [OrderedMap.keys, h.toList_names, List.map_map]
    exact .rfl
  case size_names => rw [OrderedMap.size, h.toList_names, List.length_map]
  case manifests =>
    rw [Plan.manifests, List.forall₂_map_right_iff, List.forall₂_same]
    intro x hx
    exact ⟨p.service.namesOf x, h.get?_names hx, rfl, h.get?_manifests o.manifests hx⟩
  case paths_nodup => exact h.nodup_manifest_paths o.manifests
  case keys_index =>
    rw [OrderedMap.keys, h.toList_manifests, List.map_map]
    exact .rfl
  case error =>
    intro e he
    obtain ⟨g, hg, job, hjob⟩ := h.exists_group_of_error he
    exact ⟨g, hg, job, hjob, groupWorkflowName_ne p.service g⟩

/-- **Nothing is missing after a plan.** -/
theorem plan_complete {s : Service} {p : Plan} (h : s.plan = .ok p) (o : CompileOptions) :
    ∃ ms index, buildManifests p.service p.names o.manifests = .ok (ms, index) ∧
      p.Complete o ms index :=
  have hv := (plan_eq_ok_iff.mp h).2
  ⟨_, _, hv.buildManifests, complete_of_valid hv o⟩

/-- The plan of a service whose synthesis fails. -/
theorem plan_complete_schemeTwins : Service.schemeTwins.plan = .ok Plan.schemeTwins ∧
    ∃ ms index, buildManifests Plan.schemeTwins.service Plan.schemeTwins.names
      { repoUrl := "." } = .ok (ms, index) ∧
      Plan.schemeTwins.Complete { manifests := { repoUrl := "." } } ms index :=
  have h := plan_eq_ok_iff.mpr ⟨rfl, Plan.schemeTwins_valid⟩
  ⟨h, plan_complete h { manifests := { repoUrl := "." } }⟩

end Rollout
