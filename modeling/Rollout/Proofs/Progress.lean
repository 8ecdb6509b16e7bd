import Rollout.Promotion
import Rollout.Proofs.OrderedMap

/-!
# How a pipeline runs

A stage opens once the stages it needs have passed. The jobs of the workflow that it calls are then
started, each once the jobs it needs have finished, and the stage passes when all have finished.
Nothing else orders the jobs, so a run is any order of such steps. A job that fails is one that is
never finished.

* `Needs`, `Job.Calls`: what a job waits for and which workflow it calls.
* `Progress`, `Progress.Step`, `Progress.Reachable`: how far a pipeline has come, and its runs.
* `Progress.Sound`: the invariant; `Progress.Sound.step`: every step keeps it.
* `Progress.exists_passed`: a stage whose needs are met can be run to its end.
* **`finished_of_started`**: once a job of a stage starts, all jobs of the stages before have
  finished.
-/

namespace Rollout

/-- A job waits for another one. -/
def Needs (jobs : Jobs) (before after : String) : Prop :=
  ∃ job, jobs.get? after = some job ∧ before ∈ job.needs

/-- The job calls the workflow written at the path it refers to. -/
def Job.Calls (job : Job) (w : WorkflowRecord) : Prop := job.uses = some ("./" ++ w.path)

instance (job : Job) (w : WorkflowRecord) : Decidable (job.Calls w) :=
  inferInstanceAs (Decidable (job.uses = some ("./" ++ w.path)))

theorem calls_of_path {o : WorkflowOptions} {job : Job} {w : WorkflowRecord} {name : String}
    (hu : job.uses = some (o.reference name)) (hp : w.path = o.path name) : job.Calls w := by
  unfold Job.Calls
  rw [hu, hp, WorkflowOptions.reference]

theorem Job.Calls.path_eq {job : Job} {v w : WorkflowRecord} (hv : job.Calls v) (hw : job.Calls w) :
    v.path = w.path := by
  unfold Job.Calls at hv hw
  have h := hv.symm.trans hw
  rwa [Option.some_inj, String.append_right_inj] at h

/-- How far a pipeline has come: stages by their key, the jobs they call by both keys. -/
structure Progress where
  opened : List String := []
  started : List (String × String) := []
  finished : List (String × String) := []
  passed : List String := []

namespace Progress

variable (p : Pipeline)

/-- One step of a run. -/
inductive Step : Progress → Progress → Prop
  | openStage {r : Progress} {k : String} {job : Job} (hk : p.top.workflow.jobs.get? k = some job)
      (hn : ∀ n ∈ job.needs, n ∈ r.passed) : Step r { r with opened := k :: r.opened }
  | start {r : Progress} {k c : String} {job call : Job} {w : WorkflowRecord} (ho : k ∈ r.opened)
      (hk : p.top.workflow.jobs.get? k = some job) (hw : w ∈ p.groups) (hj : job.Calls w)
      (hc : w.workflow.jobs.get? c = some call) (hn : ∀ n ∈ call.needs, (k, n) ∈ r.finished) :
      Step r { r with started := (k, c) :: r.started }
  | finish {r : Progress} {k c : String} (hs : (k, c) ∈ r.started) :
      Step r { r with finished := (k, c) :: r.finished }
  | pass {r : Progress} {k : String} {job : Job} (ho : k ∈ r.opened)
      (hk : p.top.workflow.jobs.get? k = some job)
      (hf : ∀ w ∈ p.groups, job.Calls w → ∀ c ∈ w.workflow.jobs.keys, (k, c) ∈ r.finished) :
      Step r { r with passed := k :: r.passed }

/-- A run leads to this point. -/
def Reachable (r : Progress) : Prop := Relation.ReflTransGen (Step p) {} r

/-! ## What every run keeps -/

/-- Open stages have what they need, and passed stages have finished everything they call. -/
structure Sound (r : Progress) : Prop where
  needs : ∀ k ∈ r.opened, ∀ before, Needs p.top.workflow.jobs before k → before ∈ r.passed
  started : ∀ x ∈ r.started, x.1 ∈ r.opened
  opened : ∀ k ∈ r.passed, k ∈ r.opened
  finished : ∀ k ∈ r.passed, ∀ job, p.top.workflow.jobs.get? k = some job → ∀ w ∈ p.groups,
    job.Calls w → ∀ c ∈ w.workflow.jobs.keys, (k, c) ∈ r.finished

variable {p} {r r' : Progress}

theorem Sound.init : Sound p {} where
  needs _ hk := absurd hk List.not_mem_nil
  started _ hx := absurd hx List.not_mem_nil
  opened _ hk := absurd hk List.not_mem_nil
  finished _ hk := absurd hk List.not_mem_nil

/-- **Every step keeps the invariant.** -/
theorem Sound.step (h : Sound p r) (hs : Step p r r') : Sound p r' := by
  cases hs with
  | @openStage k job hk hn =>
    constructor
    case needs =>
      intro x hx before hb
      rcases List.mem_cons.mp hx with rfl | hx
      · obtain ⟨job', hk', hb⟩ := hb
        rw [hk] at hk'
        cases hk'
        exact hn before hb
      · exact h.needs x hx before hb
    case started =>
      intro x hx
      exact List.mem_cons_of_mem _ (h.started x hx)
    case opened =>
      intro x hx
      exact List.mem_cons_of_mem _ (h.opened x hx)
    case finished => exact h.finished
  | start ho hk hw hj hc hn =>
    refine ⟨h.needs, ?_, h.opened, h.finished⟩
    intro x hx
    rcases List.mem_cons.mp hx with rfl | hx
    · exact ho
    · exact h.started x hx
  | finish hs =>
    refine ⟨h.needs, h.started, h.opened, ?_⟩
    intro x hx job hj w hw hc c hm
    exact List.mem_cons_of_mem _ (h.finished x hx job hj w hw hc c hm)
  | @pass k job ho hk hf =>
    constructor
    case needs =>
      intro x hx before hb
      exact List.mem_cons_of_mem _ (h.needs x hx before hb)
    case started => exact h.started
    case opened =>
      intro x hx
      rcases List.mem_cons.mp hx with rfl | hx
      · exact ho
      · exact h.opened x hx
    case finished =>
      intro x hx job' hj
      rcases List.mem_cons.mp hx with rfl | hx
      · rw [hk] at hj
        cases hj
        exact hf
      · exact h.finished x hx job' hj

theorem Sound.of_reachable (h : Reachable p r) : Sound p r := by
  induction h with
  | refl => exact .init
  | tail _ hs ih => exact ih.step hs

/-- Whatever comes before an open stage has passed. -/
theorem Sound.passed_of_transGen (h : Sound p r) {k before : String} (hk : k ∈ r.opened)
    (hn : Relation.TransGen (Needs p.top.workflow.jobs) before k) : before ∈ r.passed := by
  induction hn with
  | single hn => exact h.needs _ hk _ hn
  | tail _ hn ih => exact ih (h.opened _ (h.needs _ hk _ hn))

/-! ## Runs that get on -/

variable {k : String} {job : Job}

/-- The progress once one more job has run. -/
def ran (r : Progress) (x : String × String) : Progress :=
  { r with started := x :: r.started, finished := x :: r.finished }

/-- A job that waits for none can run as soon as its stage is open. -/
theorem reflTransGen_ran {c : String} {call : Job} {w : WorkflowRecord} (ho : k ∈ r.opened)
    (hk : p.top.workflow.jobs.get? k = some job) (hw : w ∈ p.groups) (hj : job.Calls w)
    (hc : w.workflow.jobs.get? c = some call) (hn : call.needs = []) :
    Relation.ReflTransGen (Step p) r (r.ran (k, c)) := by
  have hneeds : ∀ n ∈ call.needs, (k, n) ∈ r.finished := by simp [hn]
  exact .head (.start ho hk hw hj hc hneeds) (.single (.finish List.mem_cons_self))

/-- The jobs that an open stage calls can all be finished, if none waits for another. -/
theorem exists_finished (hk : p.top.workflow.jobs.get? k = some job) {cs : List String}
    (hcs : ∀ c ∈ cs, ∃ w ∈ p.groups, job.Calls w ∧ ∃ call, w.workflow.jobs.get? c = some call ∧
      call.needs = []) (ho : k ∈ r.opened) : ∃ r', Relation.ReflTransGen (Step p) r r' ∧
        k ∈ r'.opened ∧ r.passed ⊆ r'.passed ∧ r.finished ⊆ r'.finished ∧
          ∀ c ∈ cs, (k, c) ∈ r'.finished := by
  induction cs generalizing r with
  | nil =>
    exact ⟨r, .refl, ho, fun _ hx => hx, fun _ hx => hx, fun c hc => absurd hc List.not_mem_nil⟩
  | cons c cs ih =>
    -- what the first job has finished stays finished while the others run
    obtain ⟨⟨w, hw, hj, call, hc, hn⟩, hcs⟩ := List.forall_mem_cons.mp hcs
    have hran := reflTransGen_ran ho hk hw hj hc hn
    obtain ⟨r', hr, ho', hp, hf, hcs'⟩ := ih (r := r.ran (k, c)) hcs ho
    refine ⟨r', hran.trans hr, ho', hp, fun x hx => hf (List.mem_cons_of_mem _ hx), ?_⟩
    exact List.forall_mem_cons.mpr ⟨hf List.mem_cons_self, hcs'⟩

/-- A stage can pass once those that it needs have, if no job that it calls waits for another. -/
theorem exists_passed (hk : p.top.workflow.jobs.get? k = some job)
    (hn : ∀ n ∈ job.needs, n ∈ r.passed) (hg : ∀ w ∈ p.groups, ∀ e ∈ w.workflow.jobs.toList,
      e.2.needs = []) : ∃ r', Relation.ReflTransGen (Step p) r r' ∧ k ∈ r'.passed ∧
        r.passed ⊆ r'.passed := by
  have hcs : ∀ c ∈ (p.groups.filter fun w => job.Calls w).flatMap (·.workflow.jobs.keys),
      ∃ w ∈ p.groups, job.Calls w ∧ ∃ call, w.workflow.jobs.get? c = some call ∧
        call.needs = [] := by
    intro c hc
    obtain ⟨w, hw, hm⟩ := List.mem_flatMap.mp hc
    obtain ⟨hw, hj⟩ := List.mem_filter.mp hw
    obtain ⟨e, he, rfl⟩ := List.mem_map.mp hm
    exact ⟨w, hw, by simpa using hj, e.2, OrderedMap.get?_eq_some_iff.mpr he, hg w hw e he⟩
  obtain ⟨r', hr, ho, hp, -, hf⟩ :=
    exists_finished (r := { r with opened := k :: r.opened }) hk hcs List.mem_cons_self
  refine ⟨{ r' with passed := k :: r'.passed }, .head (Step.openStage hk hn) (hr.tail ?_),
    List.mem_cons_self, fun x hx => List.mem_cons_of_mem _ (hp hx)⟩
  refine Step.pass ho hk fun w hw hc c hm => hf c ?_
  exact List.mem_flatMap.mpr ⟨w, List.mem_filter.mpr ⟨hw, by simpa using hc⟩, hm⟩

end Progress

/-- **Once a job of a stage starts, all jobs of the stages before have finished.** -/
theorem finished_of_started {p : Pipeline} {r : Progress} (h : r.Reachable p) {k c before : String}
    (hs : (k, c) ∈ r.started) (hn : Relation.TransGen (Needs p.top.workflow.jobs) before k)
    {job : Job} (hj : p.top.workflow.jobs.get? before = some job) {w : WorkflowRecord}
    (hw : w ∈ p.groups) (hc : job.Calls w) :
    ∀ c' ∈ w.workflow.jobs.keys, (before, c') ∈ r.finished :=
  have hr := Progress.Sound.of_reachable h
  hr.finished before (hr.passed_of_transGen (hr.started _ hs) hn) job hj w hw hc

end Rollout
