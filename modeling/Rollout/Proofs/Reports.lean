import Rollout.Proofs.Findings

/-!
# What is found in each group

A group is handed on with the problems found in it, and only if there are some. So that the problems
of one group can be spoken of where two groups have one name, they are listed for all groups here.

* `ResolvedService.reports`: the problems found in each group, in declared order.
* **`filter_isGroup_problems`**: groups are handed on with their report, in declared order, except
  those in which nothing was found.
* `getElem?_reportsFrom`: the report of a group after the destinations before it.
* `passing_eq_self`: all groups pass their own checks when no group is handed on.
-/

namespace Rollout

open Problem

/-- Whether the problem is a group with problems in it. -/
def Problem.isGroup : Problem → Bool
  | .group _ _ => true
  | _ => false

/-- The problems found in each group, after destinations with the keys in a tracker. -/
def reportsFrom (keys : Tracker DestinationKey) : List ResolvedGroup → List (List Problem)
  | [] => []
  | g :: rest => (checkGroup keys g).1 :: reportsFrom (checkGroup keys g).2 rest

/-- The problems found in each group of a service. -/
def ResolvedService.reports (s : ResolvedService) : List (List Problem) := reportsFrom {} s.groups

/-- The groups in which something was found, under their labels. -/
def handedOn (gs : List ResolvedGroup) (reports : List (List Problem)) : List Problem :=
  ((gs.zip reports).filter fun x => !x.2.isEmpty).map fun x => .group x.1.label x.2

section Groups

variable {keys : Tracker DestinationKey} {g : ResolvedGroup} {gs : List ResolvedGroup}
  {t : Trackers}

theorem length_reportsFrom (keys : Tracker DestinationKey) (gs : List ResolvedGroup) :
    (reportsFrom keys gs).length = gs.length := by
  induction gs generalizing keys with
  | nil => rfl
  | cons g gs ih => rw [reportsFrom, List.length_cons, List.length_cons, ih]

theorem handedOn_cons (own : List Problem) (reports : List (List Problem)) :
    handedOn (g :: gs) (own :: reports) =
      (if own.isEmpty then [] else [.group g.label own]) ++ handedOn gs reports := by
  unfold handedOn
  rw [List.zip_cons_cons, List.filter_cons]
  cases own <;> rfl

/-- **Groups are handed on with what was found in them.** -/
theorem filter_isGroup_checkGroups (t : Trackers) (gs : List ResolvedGroup) :
    (checkGroups t gs).filter isGroup = handedOn gs (reportsFrom t.keys gs) := by
  induction gs generalizing t with
  | nil => rfl
  | cons g gs ih =>
    rw [reportsFrom, handedOn_cons, checkGroups]
    dsimp only
    cases (checkGroup t.keys g).1.isEmpty with
    | false =>
      simp only [Bool.not_false, if_true, Bool.false_eq_true, if_false]
      rw [List.filter_cons_of_pos rfl, ih]
      rfl
    | true =>
      simp only [Bool.not_true, if_true, Bool.false_eq_true, if_false, List.nil_append]
      split
      · rw [List.filter_cons_of_neg Bool.false_ne_true, ih]
      · have hclash : ((t.stages.observe g).1).filter isGroup = [] := by
          rw [List.filter_eq_nil_iff]
          intro q hq
          obtain ⟨first, rfl⟩ := exists_of_mem_observe hq
          exact Bool.false_ne_true
        rw [List.filter_append, hclash, List.nil_append, ih]

/-- **The report of a group** is what is found in it after the destinations before it. -/
theorem getElem?_reportsFrom (keys : Tracker DestinationKey) (gs : List ResolvedGroup) (i : Nat) :
    (reportsFrom keys gs)[i]? = gs[i]?.map fun g => (checkGroup
      (keys.observeAll ((gs.take i).flatMap fun g => heldKeys g.destinations)).2 g).1 := by
  induction gs generalizing keys i with
  | nil => rfl
  | cons g gs ih =>
    cases i with
    | zero => rfl
    | succ i =>
      rw [reportsFrom, List.getElem?_cons_succ, ih, List.getElem?_cons_succ, List.take_succ_cons,
        List.flatMap_cons, Tracker.observeAll_append, snd_checkGroup]

/-- All groups pass their own checks when none is handed on. -/
theorem passing_eq_self (h : handedOn gs (reportsFrom keys gs) = []) : passing keys gs = gs := by
  induction gs generalizing keys with
  | nil => rfl
  | cons g gs ih =>
    rw [reportsFrom, handedOn_cons, List.append_eq_nil_iff] at h
    obtain ⟨hown, hrest⟩ := h
    rw [passing]
    dsimp only
    cases he : (checkGroup keys g).1.isEmpty with
    | false =>
      rw [he] at hown
      cases hown
    | true => rw [if_pos rfl, ih hrest]

end Groups

/-- **Groups of a service are handed on with their reports.** -/
theorem filter_isGroup_problems (s : ResolvedService) :
    s.problems.filter isGroup = handedOn s.groups s.reports := by
  rw [ResolvedService.problems, List.filter_append, List.filter_append,
    filter_isGroup_checkGroups, ResolvedService.reports]
  split_ifs <;> rfl

/-- All groups of a service pass their own checks when none is among its problems. -/
theorem passing_groups_eq_self {s : ResolvedService}
    (h : ∀ label own, .group label own ∉ s.problems) : passing {} s.groups = s.groups := by
  refine passing_eq_self ?_
  rw [← ResolvedService.reports, ← filter_isGroup_problems, List.filter_eq_nil_iff]
  intro q hq hgroup
  cases q with
  | group label own => exact h label own hq
  | _ => cases hgroup

end Rollout
