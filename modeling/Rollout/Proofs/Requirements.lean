import Rollout.Proofs.Findings

/-!
# Requirements

What the structure of a service has to meet, and how often it is told that something is not.

* `Requirement`, `Part.violates`: what is required, and the parts of the tree that do not meet it.
* `Problem.requirement?`: the requirement of which a problem tells.
* **`count_requirement`**: a requirement is told of once for each part that violates it.
* **`requirements_told`**: this holds of all requirements together, whatever else is wrong, and what
  is told has a line for each problem.
-/

namespace Rollout

/-- What the structure of a service requires. -/
inductive Requirement where
  | serviceName
  | groups
  | groupName
  /-- A letter or digit in the name of a group. -/
  | stageKey
  | destinations
  | space
  /-- A cluster by its name or address. -/
  | identity
  /-- Not both of them. -/
  | oneIdentity
  | hostname
  deriving DecidableEq

/-- The requirement of which a problem tells. -/
def Problem.requirement? : Problem → Option Requirement
  | .serviceNameRequired => some .serviceName
  | .noGroups => some .groups
  | .groupNameRequired => some .groupName
  | .groupKeyEmpty => some .stageKey
  | .noDestinations => some .destinations
  | .namespaceRequired => some .space
  | .identityRequired => some .identity
  | .identityConflict => some .oneIdentity
  | .hostnameRequired => some .hostname
  | .nilService | .group _ _ | .duplicateGroupName _ | .duplicateGroupKey _ _ _ | .destinations _
  | .destination _ _ | .duplicateDestination _ => none

/-- Whether a problem tells of a requirement. -/
def Requirement.isTold (r : Requirement) (q : Problem) : Bool := q.requirement? = some r

instance (text : Option String) : Decidable (Given text) :=
  decidable_of_iff _ isSome_filled?_iff

/-- Whether a part of the tree does not meet a requirement. -/
def Part.violates : Part → Requirement → Bool
  | .service s, .serviceName => s.name = ""
  | .service s, .groups => s.groups = []
  | .group g, .groupName => g.name = ""
  | .group g, .stageKey => g.name ≠ "" ∧ g.stageKey = ""
  | .group g, .destinations => g.destinations = []
  | .destination d, .space => d.space.value = ""
  | .destination d, .identity => ¬ Given d.name ∧ ¬ Given d.server
  | .destination d, .oneIdentity => Given d.name ∧ Given d.server
  | .destination d, .hostname => d.settings.hostname.value = ""
  | _, _ => false

open Problem

section Requirement

variable (r : Requirement)

theorem Requirement.ignoresParts_isTold : IgnoresParts r.isTold := by
  intro q hq
  cases q with
  | group | destinations | destination => rfl
  | _ => cases hq

theorem count_faults_service (s : ResolvedService) :
    count r.isTold (Part.service s).faults = ((Part.service s).violates r).toNat := by
  simp only [Part.faults, count_append, count_ite]
  cases r <;> simp [countOne, Requirement.isTold, requirement?, Part.violates, Bool.toNat]

theorem count_faults_group (g : ResolvedGroup) :
    count r.isTold (Part.group g).faults = ((Part.group g).violates r).toNat := by
  have hname : g.nameProblems = (if g.name = "" then [.groupNameRequired] else []) ++
      (if g.name ≠ "" ∧ g.stageKey = "" then [.groupKeyEmpty] else []) := by
    unfold ResolvedGroup.nameProblems
    by_cases hn : g.name = "" <;> simp [hn]
  simp only [Part.faults, hname, count_append, count_ite]
  cases r <;> simp [countOne, Requirement.isTold, requirement?, Part.violates, Bool.toNat]

theorem count_faults_destination (d : ResolvedDestination) :
    count r.isTold (Part.destination d).faults = ((Part.destination d).violates r).toNat := by
  have hid : d.identityProblems =
      (if ¬ Given d.name ∧ ¬ Given d.server then [.identityRequired] else []) ++
        (if Given d.name ∧ Given d.server then [.identityConflict] else []) := by
    unfold ResolvedDestination.identityProblems ResolvedDestination.hasName
      ResolvedDestination.hasServer
    simp only [← isSome_filled?_iff]
    cases (filled? d.name).isSome <;> cases (filled? d.server).isSome <;> rfl
  simp only [Part.faults, ResolvedDestination.problems, hid, count_append, count_ite]
  cases r <;> simp [countOne, Requirement.isTold, requirement?, Part.violates, Bool.toNat]

theorem count_faults (x : Part) : count r.isTold x.faults = (x.violates r).toNat := by
  cases x with
  | service s => exact count_faults_service r s
  | group g => exact count_faults_group r g
  | destination d => exact count_faults_destination r d

theorem count_flatMap_faults (xs : List Part) :
    count r.isTold (xs.flatMap (·.faults)) = xs.countP (·.violates r) := by
  induction xs with
  | nil => rfl
  | cons x xs ih =>
    rw [List.flatMap_cons, count_append, count_faults, ih, List.countP_cons, Nat.add_comm]
    cases x.violates r <;> rfl

theorem isTold_of_isRepetition {q : Problem} (h : q.isRepetition = true) : r.isTold q = false := by
  cases q with
  | duplicateGroupName | duplicateGroupKey | duplicateDestination => rfl
  | _ => cases h

/-- **A requirement is told of once for each part that violates it.** -/
theorem count_requirement (s : ResolvedService) :
    count r.isTold s.problems = s.parts.countP (·.violates r) := by
  have hrep : count r.isTold (repetitions {} s.groups) = 0 := by
    rw [count_repetitions, List.countP_eq_zero]
    intro q hq
    rw [isTold_of_isRepetition r (isRepetition_of_mem hq)]
    exact Bool.false_ne_true
  rw [count_problems r.ignoresParts_isTold, ResolvedService.findings, count_append, hrep,
    count_flatMap_faults, Nat.add_zero]

end Requirement

/-- **Every violation is told of once.** For each requirement, as many problems tell of it as there
are parts of the tree that violate it. No part of the tree is told of without a problem in it, so
there is a line for each problem, and none only for a service that is accepted. -/
theorem requirements_told (s : ResolvedService) :
    (∀ r : Requirement, count r.isTold s.problems = s.parts.countP (·.violates r)) ∧
      count isHollow s.problems = 0 ∧
      (leaves s.problems).length = count (fun q => !q.isPart) s.problems ∧
      (leaves s.problems = [] ↔ s.problems = []) :=
  ⟨fun r => count_requirement r s, count_isHollow_problems s, length_leaves s.problems,
    leaves_eq_nil_iff (count_isHollow_problems s)⟩

end Rollout
