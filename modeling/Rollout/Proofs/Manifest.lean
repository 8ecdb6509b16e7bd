import Rollout.Proofs.Cascade
import Rollout.Proofs.Paths
import Rollout.Proofs.Validation

/-!
# Which manifests are built

* `ApplicationTarget.OneCluster`: a target names the cluster as its author does.
* `ResolvedDestination.manifest`: the manifest of a destination under its resource name.
* **`buildManifests_eq_ok_iff`**: manifests are built exactly when every destination is named and
  none comes twice; then there is one for each destination, in order, and the index has its path.
-/

namespace Rollout

/-! ## Targets -/

/-- The target has one cluster, by its name or by its address as the author gives it. -/
def ApplicationTarget.OneCluster (name server : Option String) (t : ApplicationTarget) : Prop :=
  (∃ text, text ≠ "" ∧ name = some text ∧ t.name = some text ∧ t.server = none ∧ ¬ Given server) ∨
    ∃ text, text ≠ "" ∧ server = some text ∧ t.server = some text ∧ t.name = none ∧ ¬ Given name

namespace ResolvedDestination

variable {d : ResolvedDestination}

theorem target_of_name {text : String} (hn : d.name = some text) (hne : text ≠ "") :
    d.target = { name := some text, server := none, space := d.space.value } := by
  have hfilled : filled? d.name = some text := filled?_eq_some_iff.mpr ⟨hn, hne⟩
  rw [target, hfilled]

theorem target_of_not_given (hn : ¬ Given d.name) :
    d.target = { name := none, server := d.server, space := d.space.value } := by
  have hfilled : filled? d.name = none := by
    rwa [← Option.not_isSome_iff_eq_none, isSome_filled?_iff]
  rw [target, hfilled]

@[simp]
theorem space_target (d : ResolvedDestination) : d.target.space = d.space.value := by
  unfold target
  split <;> rfl

/-- **The target names the cluster as the author does.** -/
theorem oneCluster_target (h : Xor (Given d.name) (Given d.server)) :
    d.target.OneCluster d.name d.server := by
  rcases h with ⟨⟨text, hn, hne⟩, hs⟩ | ⟨⟨text, hs, hne⟩, hn⟩
  · rw [target_of_name hn hne]
    exact .inl ⟨text, hne, hn, rfl, rfl, hs⟩
  · rw [target_of_not_given hn]
    exact .inr ⟨text, hne, hs, hs, rfl, hn⟩

end ResolvedDestination

/-! ## Manifests -/

/-- The manifest of a destination. -/
def ResolvedDestination.manifest (d : ResolvedDestination) (s : ResolvedService)
    (options : ManifestOptions) (resource : String) : ManifestRecord where
  path := manifestPath options resource
  application := d.application s resource options

/-- The resource name that a table has for a destination. -/
def resourceIn (names : NameTable) (d : ResolvedDestination) : String :=
  ((names.get? d.key).getD default).resource

section Build

variable {s : ResolvedService} {names : NameTable} {options : ManifestOptions}
  {ds : List ResolvedDestination} {r : List ManifestRecord × ManifestIndex}

/-- **Manifests from left to right.** -/
theorem buildFrom_eq_ok_iff {index : ManifestIndex} : buildFrom s names options index ds = .ok r ↔
    ((∀ d ∈ ds, d.key ∈ names.keys) ∧ (ds.map (·.key)).Nodup ∧
      ∀ k ∈ ds.map (·.key), k ∉ index.keys) ∧
        r = (ds.map fun d => d.manifest s options (resourceIn names d),
          index.insertAll
            (ds.map fun d => (d.key, manifestPath options (resourceIn names d)))) := by
  induction ds generalizing index r with
  | nil => simp [buildFrom, eq_comm, OrderedMap.insertAll]
  | cons d ds ih =>
    rw [buildFrom]
    cases hn : names.get? d.key with
    | none =>
      refine ⟨fun h => (by cases h), fun h => ?_⟩
      exact absurd (h.1.1 d List.mem_cons_self) (OrderedMap.get?_eq_none_iff.mp hn)
    | some derived =>
      have hr : derived.resource = resourceIn names d := by
        unfold resourceIn
        rw [hn]
        rfl
      have hd : d.key ∈ names.keys := OrderedMap.mem_keys_of_get? hn
      dsimp only
      by_cases hi : d.key ∈ index.keys
      · rw [if_pos (OrderedMap.contains_iff.mpr hi)]
        refine ⟨fun h => (by cases h), fun h => ?_⟩
        exact absurd hi (h.1.2.2 d.key List.mem_cons_self)
      · simp only [if_neg fun h => hi (OrderedMap.contains_iff.mp h), bind_eq_ok_iff, hr,
          List.forall_mem_cons, List.map_cons, List.nodup_cons]
        constructor
        · rintro ⟨r', hr', h⟩
          obtain ⟨⟨hds, hnodup, hfresh⟩, rfl⟩ := ih.mp hr'
          obtain ⟨hnew, hfresh⟩ := (OrderedMap.fresh_insert_iff hi).mp hfresh
          cases h
          exact ⟨⟨⟨hd, hds⟩, ⟨hnew, hnodup⟩, hi, hfresh⟩, rfl⟩
        · rintro ⟨⟨⟨-, hds⟩, ⟨hnew, hnodup⟩, -, hfresh⟩, rfl⟩
          refine ⟨_, ih.mpr ⟨⟨hds, hnodup, ?_⟩, rfl⟩, rfl⟩
          exact (OrderedMap.fresh_insert_iff hi).mpr ⟨hnew, hfresh⟩

/-- **All manifests.** They are built exactly when every destination is named and none comes
twice. -/
theorem buildManifests_eq_ok_iff : buildManifests s names options = .ok r ↔
    ((∀ x ∈ s.destinations, x.2.key ∈ names.keys) ∧ (s.destinations.map (·.2.key)).Nodup) ∧
      r = (s.destinations.map fun x => x.2.manifest s options (resourceIn names x.2),
        .ofList (s.destinations.map fun x =>
          (x.2.key, manifestPath options (resourceIn names x.2)))) := by
  unfold buildManifests
  simp only [buildFrom_eq_ok_iff, List.forall_mem_map, List.map_map, OrderedMap.ofList_eq_insertAll]
  refine and_congr_left fun _ => and_congr_right fun _ => and_iff_left fun _ _ h => ?_
  cases h

end Build

end Rollout
