import Mathlib
import Rollout.Problem

/-!
# Searching through problems

The queries on problems recurse through a nested tree. Here each is brought down to the children of
a problem, and what is said of all of them is proved by one induction.

* `Problem.induction`: what follows for a problem from its children holds of every problem.
* `Problem.countOne_eq`, `Problem.leavesUnder_eq`: a query by the children.
* `Problem.count_append`: counting in lists that are put together.
* `Problem.any_iff`: problems are found exactly when some are counted.
* **`Problem.length_leaves`**: there is one line for each problem that is not a part of the tree.
* **`Problem.leaves_eq_nil_iff`**: there is a line when no part of the tree is without problems.
* `Problem.leavesUnder_of_chain`: parts of the tree that hold one problem each make one line.
-/

namespace Rollout

namespace Problem

/-- Whether the problem is a part of the tree. -/
def isPart (q : Problem) : Bool := q.children?.isSome

/-- Whether the problem is a part of the tree in which nothing was found. -/
def isHollow (q : Problem) : Bool := q.children?.any List.isEmpty

variable {p : Problem → Bool} {q : Problem} {ps qs rs : List Problem} {around : String}

/-! ## Induction -/

theorem sizeOf_lt_of_mem_children {r : Problem} (h : q.children? = some ps) (hr : r ∈ ps) :
    sizeOf r < sizeOf q := by
  have hlt := List.sizeOf_lt_of_mem hr
  cases q <;> simp only [children?, reduceCtorEq, Option.some.injEq] at h
  all_goals
    subst h
    simp only [group.sizeOf_spec, destinations.sizeOf_spec, destination.sizeOf_spec]
    omega

/-- **Induction on the children of a problem.** -/
theorem induction {P : Problem → Prop}
    (step : ∀ q, (∀ ps, q.children? = some ps → ∀ r ∈ ps, P r) → P q) (q : Problem) : P q :=
  step q fun _ h r hr =>
    have := sizeOf_lt_of_mem_children h hr
    induction step r
termination_by sizeOf q

/-! ## Counting -/

theorem count_eq_sum (ps : List Problem) : count p ps = (ps.map (countOne p)).sum := by
  induction ps with
  | nil => rw [count, List.map_nil, List.sum_nil]
  | cons q ps ih => rw [count, ih, List.map_cons, List.sum_cons]

@[simp] theorem count_nil : count p [] = 0 := by rw [count]

@[simp] theorem count_cons : count p (q :: qs) = countOne p q + count p qs := by rw [count]

@[simp] theorem count_append : count p (ps ++ qs) = count p ps + count p qs := by
  simp only [count_eq_sum, List.map_append, List.sum_append]

theorem count_ite (c : Prop) [Decidable c] (q : Problem) :
    count p (if c then [q] else []) = if c then countOne p q else 0 := by
  split <;> simp

/-- A problem counts itself and what is inside. -/
theorem countOne_eq (p : Problem → Bool) (q : Problem) :
    countOne p q = (p q).toNat + count p (q.children?.getD []) := by
  cases q <;> simp [countOne, children?]

theorem countOne_of_children (h : q.children? = some ps) :
    countOne p q = (p q).toNat + count p ps := by
  rw [countOne_eq, h, Option.getD_some]

theorem countOne_of_leaf (h : q.children? = none) : countOne p q = (p q).toNat := by
  rw [countOne_eq, h, Option.getD_none, count_nil, Nat.add_zero]

theorem count_of_leaves (h : ∀ q ∈ ps, q.children? = none) : count p ps = ps.countP p := by
  induction ps with
  | nil => rw [count_nil, List.countP_nil]
  | cons q ps ih =>
    obtain ⟨hq, hps⟩ := List.forall_mem_cons.mp h
    rw [count_cons, countOne_of_leaf hq, ih hps, List.countP_cons, Nat.add_comm]
    cases p q <;> rfl

/-! ## Searching -/

theorem anyOne_eq (p : Problem → Bool) (q : Problem) :
    anyOne p q = (p q || any p (q.children?.getD [])) := by
  cases q <;> simp [anyOne, any, children?]

theorem any_eq (p : Problem → Bool) (ps : List Problem) : any p ps = ps.any (anyOne p) := by
  induction ps with
  | nil => rw [any, List.any_nil]
  | cons q ps ih => rw [any, ih, List.any_cons]

theorem any_iff_of_forall_mem (h : ∀ q ∈ ps, anyOne p q = true ↔ 0 < countOne p q) :
    any p ps = true ↔ 0 < count p ps := by
  rw [any_eq, List.any_eq_true, count_eq_sum, List.sum_pos_iff_exists_pos_nat]
  simp only [List.mem_map, exists_exists_and_eq_and]
  exact exists_congr fun q => and_congr_right (h q)

theorem anyOne_iff (q : Problem) : anyOne p q = true ↔ 0 < countOne p q := by
  induction q using induction with
  | step q ih =>
    rw [anyOne_eq, countOne_eq, Bool.or_eq_true, Nat.add_pos_iff_pos_or_pos, any_iff_of_forall_mem]
    · cases p q <;> simp
    · cases hq : q.children? with
      | none => simp
      | some rs => exact ih rs hq

/-- **A problem is found exactly when some are counted.** -/
theorem any_iff (ps : List Problem) : any p ps = true ↔ 0 < count p ps :=
  any_iff_of_forall_mem fun q _ => anyOne_iff q

/-! ## Messages -/

/-- What stands before the message of what is inside a part of the tree. -/
def heading (q : Problem) : String := q.context?.getD "" ++ ": "

theorem text_of_leaf (h : q.children? = none) : q.text = q.leafText := by
  cases q with
  | group _ _ | destinations _ | destination _ _ => cases h
  | _ => rfl

theorem text_of_children (h : q.children? = some rs) : q.text = q.heading ++ textAll rs := by
  cases q with
  | group _ _ | destinations _ | destination _ _ =>
    cases h
    rfl
  | _ => cases h

theorem textAll_eq_intercalate (ps : List Problem) :
    textAll ps = "\n".intercalate (ps.map text) := by
  induction ps with
  | nil => rw [textAll, List.map_nil, String.intercalate_nil]
  | cons q ps ih =>
    cases ps with
    | nil => rw [textAll, List.map_singleton, String.intercalate_singleton]
    | cons r ps =>
      rw [textAll, ih, List.map_cons, List.map_cons, List.map_cons, String.intercalate_cons_cons]
      exact List.cons_ne_nil r ps

/-! ## Lines -/

theorem leavesAll_eq_flatMap (around : String) (ps : List Problem) :
    leavesAll around ps = ps.flatMap (leavesUnder around) := by
  induction ps with
  | nil => rw [leavesAll, List.flatMap_nil]
  | cons q ps ih => rw [leavesAll, ih, List.flatMap_cons]

/-- A part of the tree has the lines of what is inside, after its own name; any other problem is one
line. -/
theorem leavesUnder_eq (around : String) (q : Problem) :
    leavesUnder around q = q.children?.elim [around ++ q.leafText]
      fun ps => leavesAll (around ++ q.context?.getD "" ++ ": ") ps := by
  cases q <;> simp [leavesUnder, children?, context?, String.append_assoc]

theorem leaves_eq_flatMap (ps : List Problem) : leaves ps = ps.flatMap (leavesUnder "") :=
  leavesAll_eq_flatMap "" ps

theorem leaves_append (ps qs : List Problem) : leaves (ps ++ qs) = leaves ps ++ leaves qs := by
  rw [leaves_eq_flatMap, List.flatMap_append, ← leaves_eq_flatMap, ← leaves_eq_flatMap]

theorem leavesUnder_of_leaf (h : q.children? = none) :
    leavesUnder around q = [around ++ q.text] := by
  rw [leavesUnder_eq, h, text_of_leaf h, Option.elim_none]

theorem leavesUnder_of_children (h : q.children? = some rs) :
    leavesUnder around q = rs.flatMap (leavesUnder (around ++ q.heading)) := by
  rw [leavesUnder_eq, h, Option.elim_some, leavesAll_eq_flatMap, String.append_assoc, heading]

theorem length_leavesUnder (q : Problem) (around : String) :
    (leavesUnder around q).length = countOne (fun r => !r.isPart) q := by
  induction q using induction generalizing around with
  | step q ih =>
    rw [leavesUnder_eq]
    cases hq : q.children? with
    | none => simp [countOne_of_leaf hq, isPart, hq]
    | some ps =>
      rw [countOne_of_children hq, Option.elim_some, leavesAll_eq_flatMap, List.length_flatMap,
        count_eq_sum, List.map_congr_left fun r hr => ih ps hq r hr _]
      simp [isPart, hq]

/-- **There is one line for each problem that is not a part of the tree.** -/
theorem length_leaves (ps : List Problem) :
    (leaves ps).length = count (fun q => !q.isPart) ps := by
  rw [leaves, leavesAll_eq_flatMap, List.length_flatMap, count_eq_sum]
  exact congrArg List.sum (List.map_congr_left fun q _ => length_leavesUnder q "")

theorem leavesUnder_ne_nil (q : Problem) (around : String) (h : countOne isHollow q = 0) :
    leavesUnder around q ≠ [] := by
  induction q using induction generalizing around with
  | step q ih =>
    rw [leavesUnder_eq]
    cases hq : q.children? with
    | none => simp
    | some ps =>
      rw [countOne_of_children hq, Nat.add_eq_zero_iff, count_eq_sum, List.sum_eq_zero_iff] at h
      obtain ⟨hself, hinside⟩ := h
      cases ps with
      | nil => simp [isHollow, hq] at hself
      | cons r rs =>
        have hr : countOne isHollow r = 0 := hinside _ (List.mem_map_of_mem List.mem_cons_self)
        rw [Option.elim_some, leavesAll_eq_flatMap, List.flatMap_cons]
        exact List.append_ne_nil_of_left_ne_nil (ih _ hq r List.mem_cons_self _ hr) _

/-- **Problems have a line when no part of the tree is without problems.** -/
theorem leaves_eq_nil_iff (h : count isHollow ps = 0) : leaves ps = [] ↔ ps = [] := by
  rw [leaves, leavesAll_eq_flatMap]
  cases ps with
  | nil => simp
  | cons q ps =>
    rw [count_cons, Nat.add_eq_zero_iff] at h
    simp [leavesUnder_ne_nil q "" h.1]

/-- Whether the problem is a part of the tree that does not hold exactly one problem. -/
def breaksChain (q : Problem) : Bool := q.children?.any fun rs => rs.length != 1

/-- **A problem with one problem in each part** has one line, which is its message. -/
theorem leavesUnder_of_chain (q : Problem) (around : String) (h : countOne breaksChain q = 0) :
    leavesUnder around q = [around ++ q.text] := by
  induction q using induction generalizing around with
  | step q ih =>
    cases hq : q.children? with
    | none => exact leavesUnder_of_leaf hq
    | some rs =>
      rw [countOne_of_children hq, Nat.add_eq_zero_iff] at h
      obtain ⟨hself, hinside⟩ := h
      obtain ⟨r, rfl⟩ : ∃ r, rs = [r] := by
        rw [breaksChain, hq] at hself
        simpa [List.length_eq_one_iff] using hself
      have hr : countOne breaksChain r = 0 := by
        rwa [count_cons, count_nil, Nat.add_zero] at hinside
      rw [leavesUnder_of_children hq, List.flatMap_singleton, ih [r] hq r List.mem_cons_self _ hr,
        text_of_children hq, textAll, String.append_assoc]

theorem textAll_eq_of_chain (h : count breaksChain ps = 0) :
    textAll ps = "\n".intercalate (leaves ps) := by
  have hlines : leaves ps = ps.map text := by
    rw [count_eq_sum, List.sum_eq_zero_iff] at h
    rw [leaves_eq_flatMap, List.map_eq_flatMap]
    refine List.flatMap_congr fun q hq => ?_
    rw [leavesUnder_of_chain q "" (h _ (List.mem_map_of_mem hq)), String.empty_append]
  rw [textAll_eq_intercalate, hlines]

end Problem

end Rollout
