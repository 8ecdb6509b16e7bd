import Rollout.Proofs.Plan
import Rollout.Proofs.Progress

/-!
# Promotion is gated

* `Chained`: the first job needs nothing and each other job needs the one before.
* **`transGen_needs_iff`**: along a chain a job waits for exactly the jobs before it.
* **`Chained.exists_run`**: from anywhere, a chain can be run to its end.
* `CallsAll`: the jobs of a group are one call for each destination, side by side.
* **`promotion_gated`**: the stages of a synthesised pipeline are a chain in declared order, in no
  run does a destination start before all destinations of the groups before have finished, and
  every run can go on until all have.
-/

namespace Rollout

/-! ## Chains -/

/-- The first job needs nothing, and each other job exactly the one before. -/
structure Chained (jobs : Jobs) : Prop where
  first : ∀ e, jobs.toList[0]? = some e → e.2.needs = []
  next : ∀ (i : Nat) (e f : String × Job), jobs.toList[i]? = some e → jobs.toList[i + 1]? = some f →
    f.2.needs = [e.1]

section Chain

variable {jobs : Jobs} {a b : String}

theorem getElem?_keys_iff {i : Nat} :
    jobs.keys[i]? = some a ↔ ∃ job, jobs.toList[i]? = some (a, job) := by
  rw [OrderedMap.keys, List.getElem?_map, Option.map_eq_some_iff]
  constructor
  · rintro ⟨⟨key, job⟩, he, rfl⟩
    exact ⟨job, he⟩
  · rintro ⟨job, he⟩
    exact ⟨_, he, rfl⟩

theorem Chained.needs_iff (h : Chained jobs) :
    Needs jobs a b ↔ ∃ i, jobs.keys[i]? = some a ∧ jobs.keys[i + 1]? = some b := by
  simp only [Needs, OrderedMap.get?_eq_some_iff, getElem?_keys_iff]
  constructor
  · rintro ⟨job, hb, ha⟩
    obtain ⟨i, hi⟩ := List.mem_iff_getElem?.mp hb
    cases i with
    | zero =>
      rw [h.first _ hi] at ha
      cases ha
    | succ i =>
      have hlt : i < jobs.toList.length := by
        have := (List.getElem?_eq_some_iff.mp hi).1
        omega
      have he := List.getElem?_eq_getElem hlt
      rw [h.next i _ _ he hi, List.mem_singleton] at ha
      exact ⟨i, ⟨_, by rw [he, ha]⟩, job, hi⟩
  · rintro ⟨i, ⟨job, ha⟩, job', hb⟩
    have hn : job'.needs = [a] := h.next i _ _ ha hb
    exact ⟨job', List.mem_of_getElem? hb, by rw [hn]; exact List.mem_singleton_self a⟩

/-- **A job of a chain waits for exactly the jobs before it.** -/
theorem transGen_needs_iff (h : Chained jobs) {i j : Nat} (ha : jobs.keys[i]? = some a)
    (hb : jobs.keys[j]? = some b) : Relation.TransGen (Needs jobs) a b ↔ i < j := by
  constructor
  · intro hn
    induction hn generalizing j with
    | single hn =>
      obtain ⟨k, hk, hk'⟩ := h.needs_iff.mp hn
      have := index_unique jobs.nodup ha hk
      have := index_unique jobs.nodup hb hk'
      omega
    | tail _ hn ih =>
      obtain ⟨k, hk, hk'⟩ := h.needs_iff.mp hn
      have := index_unique jobs.nodup hb hk'
      have := ih hk
      omega
  · intro hij
    induction j, hij using Nat.le_induction generalizing b with
    | base => exact .single (h.needs_iff.mpr ⟨i, ha, hb⟩)
    | succ j hij ih =>
      have hlt : j < jobs.keys.length := by
        have := (List.getElem?_eq_some_iff.mp hb).1
        omega
      have hj := List.getElem?_eq_getElem hlt
      exact (ih hj).tail (h.needs_iff.mpr ⟨j, hj, hb⟩)

end Chain

section Run

variable {p : Pipeline} (r : Progress)

/-- From anywhere, the first stages of a chain can be passed, however many. -/
theorem Chained.exists_run_upTo (h : Chained p.top.workflow.jobs)
    (hg : ∀ w ∈ p.groups, ∀ e ∈ w.workflow.jobs.toList, e.2.needs = []) (n : Nat) :
    ∃ r', Relation.ReflTransGen (Progress.Step p) r r' ∧
      ∀ (i : Nat) (k : String), i < n → p.top.workflow.jobs.keys[i]? = some k → k ∈ r'.passed := by
  induction n with
  | zero => exact ⟨r, .refl, fun i k hi => absurd hi (Nat.not_lt_zero i)⟩
  | succ n ih =>
    obtain ⟨r', hr, hp⟩ := ih
    cases hk : p.top.workflow.jobs.keys[n]? with
    | none =>
      -- no stage is left
      refine ⟨r', hr, fun i k hi hi' => hp i k ?_ hi'⟩
      have : i ≠ n := by
        rintro rfl
        rw [hk] at hi'
        cases hi'
      omega
    | some k =>
      obtain ⟨job, hjob⟩ := getElem?_keys_iff.mp hk
      have hget := OrderedMap.get?_eq_some_iff.mpr (List.mem_of_getElem? hjob)
      -- what the next stage needs is the stage before it, if anything
      have hn : ∀ a ∈ job.needs, a ∈ r'.passed := by
        intro a ha
        obtain ⟨i, hi, hi'⟩ := h.needs_iff.mp ⟨job, hget, ha⟩
        have := index_unique p.top.workflow.jobs.nodup hi' hk
        exact hp i a (by omega) hi
      obtain ⟨r'', hr', hk', hsub⟩ := Progress.exists_passed hget hn hg
      refine ⟨r'', hr.trans hr', fun i x hi hx => ?_⟩
      rcases Nat.lt_succ_iff_lt_or_eq.mp hi with hi | rfl
      · exact hsub (hp i x hi hx)
      · rw [hk, Option.some_inj] at hx
        exact hx ▸ hk'

/-- **From anywhere, a chain can be run to its end**, if the jobs that it calls wait for none. -/
theorem Chained.exists_run (h : Chained p.top.workflow.jobs)
    (hg : ∀ w ∈ p.groups, ∀ e ∈ w.workflow.jobs.toList, e.2.needs = []) :
    ∃ r', Relation.ReflTransGen (Progress.Step p) r r' ∧
      ∀ k ∈ p.top.workflow.jobs.keys, k ∈ r'.passed := by
  obtain ⟨r', hr, hp⟩ := h.exists_run_upTo r hg p.top.workflow.jobs.keys.length
  refine ⟨r', hr, fun k hk => ?_⟩
  obtain ⟨i, hi⟩ := List.mem_iff_getElem?.mp hk
  exact hp i k (List.getElem?_eq_some_iff.mp hi).1 hi

end Run

/-! ## The stages of a pipeline -/

section Stages

variable {s : ResolvedService} {t : Tables} {o : WorkflowOptions} {g : ResolvedGroup}
  {gs : List ResolvedGroup} {previous : Option String}

theorem getElem?_stageCalls_zero : (stageCalls s o previous gs)[0]? =
    gs[0]?.map fun g => (g.stageKey, stageCall s o g previous) := by
  cases gs <;> rfl

theorem getElem?_stageCalls_succ (i : Nat) : (stageCalls s o previous gs)[i + 1]? =
    gs[i + 1]?.map fun g => (g.stageKey, stageCall s o g (gs[i]?.map (·.stageKey))) := by
  induction gs generalizing i previous with
  | nil => rfl
  | cons g gs ih =>
    simp only [stageCalls, List.getElem?_cons_succ]
    cases i with
    | zero => exact getElem?_stageCalls_zero
    | succ i => exact ih i

theorem nodup_map_fst_stageCalls (h : t.Fits s) :
    ((stageCalls s o none s.groups).map Prod.fst).Nodup := by
  rw [map_fst_stageCalls]
  exact h.stageKeys_nodup

theorem toList_topJobs (h : t.Fits s) :
    (pipeline s t o).top.workflow.jobs.toList = stageCalls s o none s.groups :=
  OrderedMap.toList_ofList (nodup_map_fst_stageCalls h)

theorem keys_topJobs (h : t.Fits s) :
    (pipeline s t o).top.workflow.jobs.keys = s.groups.map (·.stageKey) := by
  rw [OrderedMap.keys, toList_topJobs h, map_fst_stageCalls]

/-- **The stages are a chain.** -/
theorem chained_topJobs (h : t.Fits s) : Chained (pipeline s t o).top.workflow.jobs where
  first e he := by
    rw [toList_topJobs h, getElem?_stageCalls_zero, Option.map_eq_some_iff] at he
    obtain ⟨g, -, rfl⟩ := he
    rfl
  next i e f he hf := by
    rw [toList_topJobs h] at he hf
    rw [getElem?_stageCalls_succ, Option.map_eq_some_iff] at hf
    obtain ⟨g, -, rfl⟩ := hf
    have hk : s.groups[i]?.map (·.stageKey) = some e.1 := by
      rw [← List.getElem?_map, ← map_fst_stageCalls (s := s) (o := o) none, List.getElem?_map, he]
      rfl
    change (s.groups[i]?.map (·.stageKey)).toList = [e.1]
    rw [hk]
    rfl

end Stages

/-! ## The jobs of a group -/

/-- The jobs are one call for each destination, in declared order, and none waits for another. -/
def CallsAll (t : Tables) (o : WorkflowOptions) (ds : List ResolvedDestination) (jobs : Jobs) :
    Prop :=
  List.Forall₂ (fun d e => ∃ names, t.names.get? d.key = some names ∧ e.1 = names.job ∧
    e.2.uses = some (o.reference names.resource) ∧ e.2.needs = []) ds jobs.toList

theorem toList_groupJobs {t : Tables} {o : WorkflowOptions} {g : ResolvedGroup}
    (h : t.FitsGroup g) :
    (groupJobs t o g).toList = g.destinations.map fun d => (t.deployment d).call o := by
  refine OrderedMap.toList_ofList ?_
  rw [List.map_map]
  exact h.jobs_nodup

theorem callsAll_groupJobs {t : Tables} {o : WorkflowOptions} {g : ResolvedGroup}
    (h : t.FitsGroup g) : CallsAll t o g.destinations (groupJobs t o g) := by
  unfold CallsAll
  rw [toList_groupJobs h, List.forall₂_map_right_iff, List.forall₂_same]
  intro d hd
  exact ⟨_, Tables.get?_names (h.holds d hd), rfl, rfl, rfl⟩

/-! ## Gating -/

/-- What gates the promotion through the stages of a pipeline. -/
structure Gated (s : ResolvedService) (t : Tables) (o : WorkflowOptions) (p : Pipeline) : Prop where
  /-- One stage for each group, in declared order. -/
  keys : p.top.workflow.jobs.keys = s.groups.map (·.stageKey)
  keys_nodup : (s.groups.map (·.stageKey)).Nodup
  /-- Each stage needs exactly the one before. -/
  chained : Chained p.top.workflow.jobs
  /-- A stage waits, directly or through others, for exactly the stages before it. -/
  order : ∀ (i j : Nat) (g k : ResolvedGroup), s.groups[i]? = some g → s.groups[j]? = some k →
    (Relation.TransGen (Needs p.top.workflow.jobs) g.stageKey k.stageKey ↔ i < j)
  length_groups : p.groups.length = s.groups.length
  /-- The stage at a place calls the workflow of the group at that place, which calls the
  workflows of its destinations side by side. -/
  stage : ∀ (i : Nat) (g : ResolvedGroup), s.groups[i]? = some g → ∃ job w,
    p.top.workflow.jobs.toList[i]? = some (g.stageKey, job) ∧ p.groups[i]? = some w ∧
      w.workflow.name = s.name ++ "-" ++ g.name ∧ job.Calls w ∧
        CallsAll t o g.destinations w.workflow.jobs
  /-- When a job of a later stage starts, every destination of an earlier one has finished. -/
  gate : ∀ r : Progress, r.Reachable p → ∀ (i j : Nat) (g k : ResolvedGroup), i < j →
    s.groups[i]? = some g → s.groups[j]? = some k → ∀ c, (k.stageKey, c) ∈ r.started →
      ∀ d ∈ g.destinations, ∃ names, t.names.get? d.key = some names ∧
        (g.stageKey, names.job) ∈ r.finished
  /-- The gates lock no stage out: however far a run has come, it can still go on until every
  destination of every group has finished. -/
  completes : ∀ r : Progress, r.Reachable p → ∃ r', Relation.ReflTransGen (Progress.Step p) r r' ∧
    ∀ g ∈ s.groups, ∀ d ∈ g.destinations, ∃ names, t.names.get? d.key = some names ∧
      (g.stageKey, names.job) ∈ r'.finished

section Pipeline

variable {s : ResolvedService} {t : Tables} {o : WorkflowOptions} {i : Nat} {g : ResolvedGroup}

theorem getElem?_keys_topJobs (h : t.Fits s) (hg : s.groups[i]? = some g) :
    (pipeline s t o).top.workflow.jobs.keys[i]? = some g.stageKey := by
  rw [keys_topJobs h, List.getElem?_map, hg]
  rfl

/-- **A stage waits for exactly the stages before it.** -/
theorem transGen_stages_iff (o : WorkflowOptions) (h : t.Fits s) {j : Nat} {k : ResolvedGroup}
    (hg : s.groups[i]? = some g) (hk : s.groups[j]? = some k) :
    Relation.TransGen (Needs (pipeline s t o).top.workflow.jobs) g.stageKey k.stageKey ↔ i < j :=
  transGen_needs_iff (chained_topJobs h) (getElem?_keys_topJobs h hg) (getElem?_keys_topJobs h hk)

theorem calls_stageCall (previous : Option String) :
    (stageCall s o g previous).Calls (groupRecord s t o g) :=
  calls_of_path rfl (path_groupRecord s t o g)

theorem exists_stage (h : t.Fits s) (hg : s.groups[i]? = some g) : ∃ job,
    (pipeline s t o).top.workflow.jobs.toList[i]? = some (g.stageKey, job) ∧
      job.Calls (groupRecord s t o g) := by
  rw [toList_topJobs h]
  cases i with
  | zero => exact ⟨_, by rw [getElem?_stageCalls_zero, hg]; rfl, calls_stageCall _⟩
  | succ i => exact ⟨_, by rw [getElem?_stageCalls_succ, hg]; rfl, calls_stageCall _⟩

theorem mem_pipeline_groups (hg : g ∈ s.groups) :
    groupRecord s t o g ∈ (pipeline s t o).groups :=
  List.mem_map_of_mem hg

theorem job_mem_groupRecord (h : t.Fits s) (hg : g ∈ s.groups) {d : ResolvedDestination}
    (hd : d ∈ g.destinations) :
    (t.deployment d).names.job ∈ (groupRecord s t o g).workflow.jobs.keys := by
  have hm : (t.deployment d).call o ∈ (groupJobs t o g).toList := by
    rw [toList_groupJobs (h.group g hg)]
    exact List.mem_map_of_mem hd
  exact List.mem_map_of_mem hm

theorem needs_groupRecords (h : t.Fits s) : ∀ w ∈ (pipeline s t o).groups,
    ∀ e ∈ w.workflow.jobs.toList, e.2.needs = [] := by
  intro w hw e he
  obtain ⟨g, hg, rfl⟩ := List.mem_map.mp hw
  have he : e ∈ (groupJobs t o g).toList := he
  rw [toList_groupJobs (h.group g hg)] at he
  obtain ⟨d, -, rfl⟩ := List.mem_map.mp he
  rfl

theorem finished_of_later (h : t.Fits s) {r : Progress} (hr : r.Reachable (pipeline s t o))
    {j : Nat} {k : ResolvedGroup} (hij : i < j) (hg : s.groups[i]? = some g)
    (hk : s.groups[j]? = some k) {c : String} (hc : (k.stageKey, c) ∈ r.started)
    {d : ResolvedDestination} (hd : d ∈ g.destinations) :
    (g.stageKey, (t.deployment d).names.job) ∈ r.finished := by
  obtain ⟨job, hjob, hcalls⟩ := exists_stage (o := o) h hg
  have hget := OrderedMap.get?_eq_some_iff.mpr (List.mem_of_getElem? hjob)
  have hn := (transGen_stages_iff o h hg hk).mpr hij
  have hm := List.mem_of_getElem? hg
  exact finished_of_started hr hc hn hget (mem_pipeline_groups hm) hcalls _
    (job_mem_groupRecord h hm hd)

/-- **Every run of the pipeline can go on to its end.** -/
theorem exists_run_pipeline (h : t.Fits s) {r : Progress} (hr : r.Reachable (pipeline s t o)) :
    ∃ r', Relation.ReflTransGen (Progress.Step (pipeline s t o)) r r' ∧
      ∀ g ∈ s.groups, ∀ d ∈ g.destinations,
        (g.stageKey, (t.deployment d).names.job) ∈ r'.finished := by
  obtain ⟨r', hr', hp⟩ := (chained_topJobs (o := o) h).exists_run r (needs_groupRecords h)
  refine ⟨r', hr', fun g hg d hd => ?_⟩
  obtain ⟨i, hi⟩ := List.mem_iff_getElem?.mp hg
  obtain ⟨job, hjob, hcalls⟩ := exists_stage (o := o) h hi
  have hm := List.mem_of_getElem? hjob
  have hget := OrderedMap.get?_eq_some_iff.mpr hm
  have hpassed := hp g.stageKey (List.mem_map_of_mem hm)
  have hsound := Progress.Sound.of_reachable (hr.trans hr')
  exact hsound.finished _ hpassed job hget _ (mem_pipeline_groups hg) hcalls _
    (job_mem_groupRecord h hg hd)

end Pipeline

/-- **Promotion is gated.** -/
theorem promotion_gated {s : ResolvedService} {t : Tables} {o : WorkflowOptions} {p : Pipeline}
    (h : synthesize s t o = .ok p) : Gated s t o p := by
  obtain ⟨hf, rfl⟩ := synthesize_eq_ok_iff.mp h
  constructor
  case keys => exact keys_topJobs hf
  case keys_nodup => exact hf.stageKeys_nodup
  case chained => exact chained_topJobs hf
  case order =>
    intro i j g k hg hk
    exact transGen_stages_iff o hf hg hk
  case length_groups => exact List.length_map ..
  case stage =>
    intro i g hg
    obtain ⟨job, hjob, hcalls⟩ := exists_stage hf hg
    refine ⟨job, groupRecord s t o g, hjob, ?_, rfl, hcalls, ?_⟩
    · unfold pipeline
      rw [List.getElem?_map, hg]
      rfl
    · exact callsAll_groupJobs (hf.group g (List.mem_of_getElem? hg))
  case gate =>
    intro r hr i j g k hij hg hk c hc d hd
    have hholds := (hf.group g (List.mem_of_getElem? hg)).holds d hd
    exact ⟨_, Tables.get?_names hholds, finished_of_later hf hr hij hg hk hc hd⟩
  case completes =>
    intro r hr
    obtain ⟨r', hr', hfin⟩ := exists_run_pipeline hf hr
    refine ⟨r', hr', fun g hg d hd => ⟨_, ?_, hfin g hg d hd⟩⟩
    exact Tables.get?_names ((hf.group g hg).holds d hd)

theorem promotion_gated_sample : ∃ p,
    synthesize Plan.sample.service (Plan.sample.tables { repoUrl := "." }) {} = .ok p ∧
      Gated Plan.sample.service (Plan.sample.tables { repoUrl := "." }) {} p :=
  have h := synthesize_eq_ok_iff.mpr ⟨Plan.fits_sample _, rfl⟩
  ⟨_, h, promotion_gated h⟩

end Rollout
