import Rollout.Proofs.FirstFailure
import Rollout.Proofs.Promotion

/-!
# What prevents synthesis

Tables that do not fit a service may be wrong in many places. Synthesis tells the first of them, in
the order in which it meets groups and destinations.

* `Tables.destinationFaults`, `Tables.groupFaults`, `Tables.faults`: everything that is wrong, in
  order.
* **`stopsAt_synthesizeDestinations`**: the step over destinations, with the job keys that are taken
  as its invariant.
* `faults_eq_nil_iff`: there is none exactly when the tables fit.
* **`synthesize_outcome`**: synthesis succeeds exactly when the tables fit, and otherwise tells the
  first fault.
* `duplicateJob_of_error`: with nothing missing and no stage twice, only a job key that is met twice
  in a group stops it.
-/

namespace Rollout

/-! ## Faults in order -/

namespace Tables

variable (t : Tables)

/-- The job name that the tables have for a destination. -/
def job? (d : ResolvedDestination) : Option String := (t.names.get? d.key).map (·.job)

/-- What is wrong with a destination that follows others in its group: its names or its manifest are
missing, or its job name is used by one of those before it. -/
def destinationFaults (workflow : String) (before : List ResolvedDestination)
    (d : ResolvedDestination) : List SynthesisError :=
  (if d.key ∈ t.names.keys then [] else [.missingName d.key]) ++
  (if d.key ∈ t.manifests.keys then [] else [.missingManifest d.key]) ++
  ((t.job? d).filter (· ∈ before.filterMap t.job?)).toList.map (.duplicateJob workflow)

/-- What is wrong with a group: with its destinations one after the other, then with its name. -/
def groupFaults (s : ResolvedService) (g : ResolvedGroup) : List SynthesisError :=
  eachAfter (t.destinationFaults (s.name ++ "-" ++ g.name)) [] g.destinations ++
    if g.stageKey = "" then [.emptyJobName s.name g.name] else []

/-- What is wrong with the groups of a service one after the other, then with their stages. -/
def faults (s : ResolvedService) : List SynthesisError :=
  s.groups.flatMap (t.groupFaults s) ++
    (recurring (s.groups.map (·.stageKey))).map (.duplicateJob s.name)

end Tables

section Faults

variable {s : ResolvedService} {t : Tables} {o : WorkflowOptions} {w : String}

/-! ## One destination -/

theorem stopsAt_addJob (jobs : Jobs) (key : String) (job : Job) : StopsAt (addJob w jobs key job)
    (if key ∈ jobs.keys then [.duplicateJob w key] else []) := by
  unfold addJob
  by_cases h : key ∈ jobs.keys
  · rw [if_pos h, if_pos (OrderedMap.contains_iff.mpr h)]
    exact stopsAt_error _ _
  · rw [if_neg h, if_neg fun hc => h (OrderedMap.contains_iff.mp hc)]
    exact stopsAt_ok _

theorem addJob_eq_ok_iff {jobs jobs' : Jobs} {key : String} {job : Job} :
    addJob w jobs key job = .ok jobs' ↔ key ∉ jobs.keys ∧ jobs' = jobs.insert key job := by
  unfold addJob
  by_cases h : key ∈ jobs.keys
  · rw [if_pos (OrderedMap.contains_iff.mpr h)]
    simp [h]
  · rw [if_neg fun hc => h (OrderedMap.contains_iff.mp hc)]
    simp [h, eq_comm]

theorem destinationFaults_of_get? {before : List ResolvedDestination} {d : ResolvedDestination}
    {names : Names} {path : String} (hn : t.names.get? d.key = some names)
    (hm : t.manifests.get? d.key = some path) : t.destinationFaults w before d =
      if names.job ∈ before.filterMap t.job? then [.duplicateJob w names.job] else [] := by
  have ⟨hname, hmanifest⟩ := Tables.holds_of_get? hn hm
  rw [Tables.destinationFaults, if_pos hname, if_pos hmanifest, Tables.job?, hn, Option.map_some]
  by_cases h : names.job ∈ before.filterMap t.job?
  · rw [if_pos h, Option.filter_some_pos (by simpa using h)]
    rfl
  · rw [if_neg h, Option.filter_some_neg (by simpa using h)]
    rfl

/-- **The destinations of a group, after some of them.** The keys that are taken are the job names
of those before. -/
theorem stopsAt_synthesizeDestinations {before ds : List ResolvedDestination} {jobs : Jobs}
    (hk : ∀ k, k ∈ jobs.keys ↔ k ∈ before.filterMap t.job?) :
    StopsAt (synthesizeDestinations s t o w jobs ds)
      (eachAfter (t.destinationFaults w) before ds) := by
  induction ds generalizing before jobs with
  | nil => exact stopsAt_ok _
  | cons d ds ih =>
    rw [synthesizeDestinations, eachAfter]
    cases hn : t.names.get? d.key with
    | none =>
      rw [Tables.destinationFaults, if_neg (OrderedMap.get?_eq_none_iff.mp hn)]
      exact stopsAt_error _ _
    | some names =>
      cases hm : t.manifests.get? d.key with
      | none =>
        rw [Tables.destinationFaults, if_pos (OrderedMap.mem_keys_of_get? hn),
          if_neg (OrderedMap.get?_eq_none_iff.mp hm)]
        exact stopsAt_error _ _
      | some path =>
        rw [destinationFaults_of_get? hn hm, ← if_congr (hk names.job) rfl rfl]
        refine (stopsAt_addJob jobs names.job (destinationCall d names o)).bind fun jobs' hadd => ?_
        obtain ⟨hfree, rfl⟩ := addJob_eq_ok_iff.mp hadd
        refine (ih fun k => ?_).bind_ok _
        rw [OrderedMap.keys_insert, if_neg hfree, List.filterMap_append, List.mem_append,
          List.mem_append, hk k, List.filterMap_cons, Tables.job?, hn, Option.map_some,
          List.filterMap_nil]

/-! ## Groups and stages -/

theorem stopsAt_synthesizeGroup (g : ResolvedGroup) :
    StopsAt (synthesizeGroup s t o g) (t.groupFaults s g) := by
  unfold synthesizeGroup Tables.groupFaults
  refine (stopsAt_synthesizeDestinations fun k => ?_).bind fun ⟨records, jobs⟩ _ => ?_
  · exact iff_of_false List.not_mem_nil List.not_mem_nil
  · dsimp only
    by_cases h : g.stageKey = ""
    · rw [if_pos h, if_pos (by rw [h]; rfl)]
      exact stopsAt_error _ _
    · rw [if_neg h, if_neg (by simpa using h)]
      exact stopsAt_ok _

theorem stopsAt_synthesizeGroups (gs : List ResolvedGroup) :
    StopsAt (synthesizeGroups s t o gs) (gs.flatMap (t.groupFaults s)) := by
  induction gs with
  | nil => exact stopsAt_ok _
  | cons g gs ih =>
    rw [synthesizeGroups, List.flatMap_cons]
    exact (stopsAt_synthesizeGroup g).bind fun tier _ => ih.bind_ok _

theorem stopsAt_addStages (gs : List ResolvedGroup) : StopsAt (addStages s o .empty none gs)
    ((recurring (gs.map (·.stageKey))).map (.duplicateJob s.name)) := by
  have hempty : (OrderedMap.empty : Jobs).keys = [] := rfl
  intro e
  rw [addStages_eq, addJobs_eq, map_fst_stageCalls, hempty, List.head?_map, head?_recurring]
  cases repeated? [] (gs.map (·.stageKey)) <;> simp

/-! ## The whole synthesis -/

theorem stopsAt_synthesize : StopsAt (synthesize s t o) (t.faults s) :=
  (stopsAt_synthesizeGroups s.groups).bind fun _ _ => (stopsAt_addStages s.groups).bind_ok _

/-- Tables without faults are those that fit. -/
theorem faults_eq_nil_iff : t.faults s = [] ↔ t.Fits s := by
  rw [← (stopsAt_synthesize (o := {})).exists_ok_iff]
  simp only [synthesize_eq_ok_iff, exists_and_left, exists_eq, and_true]

/-- With nothing missing and no stage key twice, only a job key that is met twice in a group stops
synthesis. -/
theorem duplicateJob_of_error {e : SynthesisError}
    (hd : ∀ g ∈ s.groups, (∀ d ∈ g.destinations, t.Holds d) ∧ g.stageKey ≠ "")
    (hn : (s.groups.map (·.stageKey)).Nodup) (h : synthesize s t o = .error e) :
    ∃ g ∈ s.groups, ∃ job, e = .duplicateJob (s.name ++ "-" ++ g.name) job := by
  have he : e ∈ t.faults s := stopsAt_synthesize.mem h
  rw [Tables.faults, recurring_eq_nil_iff.mpr hn, List.map_nil, List.append_nil,
    List.mem_flatMap] at he
  obtain ⟨g, hg, he⟩ := he
  rw [Tables.groupFaults, if_neg (hd g hg).2, List.append_nil] at he
  obtain ⟨front, d, back, hds, he⟩ := mem_eachAfter.mp he
  have ⟨hname, hmanifest⟩ := (hd g hg).1 d (hds ▸ by simp)
  rw [Tables.destinationFaults, if_pos hname, if_pos hmanifest, List.mem_append] at he
  obtain ⟨job, -, rfl⟩ := List.mem_map.mp (he.resolve_left List.not_mem_nil)
  exact ⟨g, hg, job, rfl⟩

end Faults

/-- **Synthesis tells the first fault.** It succeeds exactly on tables that fit the service: every
destination has an entry in both, no two destinations of a group have one job name, and the groups
have distinct stage keys that are not empty. Otherwise it fails with the first fault, group by group
and destination by destination, a stage that is met twice last. -/
theorem synthesize_outcome (s : ResolvedService) (t : Tables) (o : WorkflowOptions) :
    ((∃ p, synthesize s t o = .ok p) ↔ t.Fits s) ∧ StopsAt (synthesize s t o) (t.faults s) := by
  refine ⟨?_, stopsAt_synthesize⟩
  rw [stopsAt_synthesize.exists_ok_iff, faults_eq_nil_iff]

/-- A missing name comes before a missing manifest, and both come before the name of the group. -/
example : (⟨.empty, .empty⟩ : Tables).faults { (default : ResolvedService) with
    groups := [{ (default : ResolvedGroup) with destinations := [default] }] } =
      [.missingName (.of "" ""), .missingManifest (.of "" ""), .emptyJobName "" ""] := by
  decide +kernel

end Rollout
