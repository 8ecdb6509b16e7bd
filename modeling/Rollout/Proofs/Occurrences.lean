import Rollout.Proofs.Problem

/-!
# Where problems occur

The queries on problems recurse through a nested tree, each in its own way. Here all of them are
read off one list of what occurs in the tree: a part of the tree first, then what is inside it, then
what stands after it.

* `Problem.Occurrence`, `Problem.Occurs`: a problem at its position in the tree, with the parts of
  the tree around it.
* `Problem.DepthFirst`: a list of everything that occurs, by position.
* `Problem.occurrences`, `Problem.depthFirst_occurrences`: there is such a list.
* `Problem.count_eq_countP`, `Problem.leaves_eq_map_line`: what is counted, and which lines there
  are.
* **`Problem.queries_agree`**: the queries on a list of problems agree.
-/

namespace Rollout

namespace Problem

/-! ## What occurs in a tree -/

/-- A problem in the tree of some problems. -/
structure Occurrence where
  /-- Which of the problems to look into, then which of those inside it, and so on. -/
  position : List Nat
  /-- The parts of the tree around the problem, outermost first. -/
  around : List Problem
  problem : Problem

namespace Occurrence

/-- What occurs inside a problem, seen from a list in which that problem stands at `i`. -/
def below (i : Nat) (q : Problem) (o : Occurrence) : Occurrence :=
  ⟨i :: o.position, q :: o.around, o.problem⟩

/-- The headings around a problem, outermost first, and its own message. -/
def line (o : Occurrence) : String := String.join (o.around.map heading) ++ o.problem.text

end Occurrence

/-- Each of some problems occurs in their tree, and so does what occurs inside them. -/
inductive Occurs : List Problem → Occurrence → Prop where
  | self {ps : List Problem} {i : Nat} {q : Problem} (h : ps[i]? = some q) : Occurs ps ⟨[i], [], q⟩
  | inside {ps : List Problem} {i : Nat} {q : Problem} {rs : List Problem} {o : Occurrence}
      (h : ps[i]? = some q) (hq : q.children? = some rs) (ho : Occurs rs o) :
      Occurs ps (o.below i q)

/-- A list of everything that occurs in the tree of some problems, depth first: positions ascend in
lexicographic order. -/
structure DepthFirst (ps : List Problem) (os : List Occurrence) : Prop where
  mem_iff : ∀ o, o ∈ os ↔ Occurs ps o
  ascending : os.Pairwise fun o o' => o.position < o'.position

mutual

/-- What occurs inside a problem. -/
def inside : Problem → List Occurrence
  | .group _ ps | .destinations ps | .destination _ ps => occurrencesFrom 0 ps
  | _ => []

/-- What occurs in a list of problems, of which the first one stands at `i`. -/
def occurrencesFrom (i : Nat) : List Problem → List Occurrence
  | [] => []
  | q :: rest => ⟨[i], [], q⟩ :: (inside q).map (.below i q) ++ occurrencesFrom (i + 1) rest

end

/-- Everything that occurs in the tree of some problems. -/
def occurrences (ps : List Problem) : List Occurrence := occurrencesFrom 0 ps

/-- A problem that stands at `i`, and what is inside it. -/
def occurrencesAt (i : Nat) (q : Problem) : List Occurrence :=
  ⟨[i], [], q⟩ :: (inside q).map (.below i q)

variable {p : Problem → Bool} {q : Problem} {ps qs rs : List Problem} {o : Occurrence} {i : Nat}
  {os : List Occurrence} {around : String}

theorem inside_of_children (h : q.children? = some rs) : inside q = occurrences rs := by
  cases q <;> simp_all [inside, children?, occurrences]

theorem inside_of_leaf (h : q.children? = none) : inside q = [] := by
  cases q <;> simp_all [inside, children?]

theorem occurrencesFrom_eq (i : Nat) (ps : List Problem) :
    occurrencesFrom i ps = (ps.zipIdx i).flatMap fun x => occurrencesAt x.2 x.1 := by
  induction ps generalizing i with
  | nil => rw [occurrencesFrom, List.zipIdx_nil, List.flatMap_nil]
  | cons q ps ih => rw [occurrencesFrom, ih, List.zipIdx_cons, List.flatMap_cons, occurrencesAt]

theorem occurrences_eq (ps : List Problem) :
    occurrences ps = ps.zipIdx.flatMap fun x => occurrencesAt x.2 x.1 := occurrencesFrom_eq 0 ps

theorem mem_occurrences_iff :
    o ∈ occurrences ps ↔ ∃ i q, ps[i]? = some q ∧ o ∈ occurrencesAt i q := by
  rw [occurrences_eq, List.mem_flatMap]
  constructor
  · rintro ⟨⟨q, i⟩, hx, ho⟩
    exact ⟨i, q, List.mem_zipIdx_iff_getElem?.mp hx, ho⟩
  · rintro ⟨i, q, h, ho⟩
    exact ⟨(q, i), List.mem_zipIdx_iff_getElem?.mpr h, ho⟩

theorem mem_occurrencesAt_iff :
    o ∈ occurrencesAt i q ↔ o = ⟨[i], [], q⟩ ∨ ∃ r ∈ inside q, r.below i q = o := by
  rw [occurrencesAt, List.mem_cons, List.mem_map]

/-! ## Depth first -/

theorem occurs_of_mem_occurrencesAt (h : ps[i]? = some q) (ho : o ∈ occurrencesAt i q) :
    Occurs ps o := by
  induction q using induction generalizing ps i o with
  | step q ih =>
    rcases mem_occurrencesAt_iff.mp ho with rfl | ⟨r, hr, rfl⟩
    · exact .self h
    · cases hq : q.children? with
      | none =>
        rw [inside_of_leaf hq] at hr
        cases hr
      | some rs =>
        rw [inside_of_children hq, mem_occurrences_iff] at hr
        obtain ⟨j, c, hj, hr⟩ := hr
        exact .inside h hq (ih rs hq c (List.mem_of_getElem? hj) hj hr)

theorem mem_occurrences_of_occurs (h : Occurs ps o) : o ∈ occurrences ps := by
  induction h with
  | self h => exact mem_occurrences_iff.mpr ⟨_, _, h, mem_occurrencesAt_iff.mpr (.inl rfl)⟩
  | inside h hq _ ih =>
    rw [← inside_of_children hq] at ih
    exact mem_occurrences_iff.mpr ⟨_, _, h, mem_occurrencesAt_iff.mpr (.inr ⟨_, ih, rfl⟩)⟩

theorem mem_occurrences_iff_occurs : o ∈ occurrences ps ↔ Occurs ps o := by
  refine ⟨fun h => ?_, mem_occurrences_of_occurs⟩
  obtain ⟨i, q, hq, ho⟩ := mem_occurrences_iff.mp h
  exact occurs_of_mem_occurrencesAt hq ho

theorem exists_position (h : o ∈ occurrencesAt i q) : ∃ x, o.position = i :: x := by
  rcases mem_occurrencesAt_iff.mp h with rfl | ⟨r, -, rfl⟩
  · exact ⟨[], rfl⟩
  · exact ⟨r.position, rfl⟩

theorem position_ne_nil (h : o ∈ occurrences ps) : o.position ≠ [] := by
  obtain ⟨i, q, -, ho⟩ := mem_occurrences_iff.mp h
  obtain ⟨x, hx⟩ := exists_position ho
  rw [hx]
  exact List.cons_ne_nil i x

/-- Positions in a list ascend if they do inside each of its problems. -/
theorem ascending_of_forall_mem
    (h : ∀ q ∈ ps, ∀ i, (occurrencesAt i q).Pairwise fun o o' => o.position < o'.position) :
    (occurrences ps).Pairwise fun o o' => o.position < o'.position := by
  rw [occurrences_eq, List.pairwise_flatMap]
  refine ⟨fun x hx => h x.1 (List.fst_mem_of_mem_zipIdx hx) x.2, ?_⟩
  have hnumbers : ps.zipIdx.Pairwise fun x y => x.2 < y.2 := by
    rw [← List.pairwise_map, List.zipIdx_map_snd]
    exact List.pairwise_lt_range' 1
  refine hnumbers.imp fun hlt o ho o' ho' => ?_
  obtain ⟨x, hx⟩ := exists_position ho
  obtain ⟨y, hy⟩ := exists_position ho'
  rw [hx, hy]
  exact List.cons_lt_cons_iff.mpr (.inl hlt)

theorem ascending_occurrencesAt (q : Problem) (i : Nat) :
    (occurrencesAt i q).Pairwise fun o o' => o.position < o'.position := by
  induction q using induction generalizing i with
  | step q ih =>
    cases hq : q.children? with
    | none =>
      rw [occurrencesAt, inside_of_leaf hq]
      exact List.pairwise_singleton _ _
    | some rs =>
      rw [occurrencesAt, inside_of_children hq, List.pairwise_cons, List.pairwise_map]
      constructor
      · -- a part of the tree comes before what is inside it
        rintro o ho
        obtain ⟨r, hr, rfl⟩ := List.mem_map.mp ho
        obtain ⟨j, x, hx⟩ := List.exists_cons_of_ne_nil (position_ne_nil hr)
        refine List.cons_lt_cons_iff.mpr (.inr ⟨rfl, ?_⟩)
        rw [hx]
        exact List.nil_lt_cons j x
      · refine (ascending_of_forall_mem fun r hr => ih rs hq r hr).imp fun hlt => ?_
        exact List.cons_lt_cons_iff.mpr (.inr ⟨rfl, hlt⟩)

/-- **Everything that occurs, depth first.** -/
theorem depthFirst_occurrences (ps : List Problem) : DepthFirst ps (occurrences ps) where
  mem_iff _ := mem_occurrences_iff_occurs
  ascending := ascending_of_forall_mem fun q _ => ascending_occurrencesAt q

/-! ## Counting -/

theorem count_of_forall_mem
    (h : ∀ q ∈ ps, ∀ i, countOne p q = (occurrencesAt i q).countP fun o => p o.problem) :
    count p ps = (occurrences ps).countP fun o => p o.problem := by
  have hnumbered : ps.map (countOne p) = ps.zipIdx.map fun x => countOne p x.1 := by
    conv_lhs => rw [← List.zipIdx_map_fst 0 ps, List.map_map]
    rfl
  rw [occurrences_eq, List.countP_flatMap, count_eq_sum, hnumbered]
  congr 1
  exact List.map_congr_left fun x hx => h x.1 (List.fst_mem_of_mem_zipIdx hx) x.2

theorem countOne_eq_countP (p : Problem → Bool) (q : Problem) (i : Nat) :
    countOne p q = (occurrencesAt i q).countP fun o => p o.problem := by
  induction q using induction generalizing i with
  | step q ih =>
    have hself : (p q).toNat = if p q = true then 1 else 0 := by cases p q <;> rfl
    have hbelow : (fun o => p o.problem) ∘ Occurrence.below i q = fun o => p o.problem := rfl
    rw [occurrencesAt, List.countP_cons, List.countP_map, hbelow, Nat.add_comm, ← hself]
    cases hq : q.children? with
    | none => rw [countOne_of_leaf hq, inside_of_leaf hq, List.countP_nil, Nat.add_zero]
    | some rs =>
      rw [countOne_of_children hq, inside_of_children hq,
        count_of_forall_mem fun r hr => ih rs hq r hr]

/-- **What is counted** are the problems that occur and satisfy a test. -/
theorem count_eq_countP (p : Problem → Bool) (ps : List Problem) :
    count p ps = (occurrences ps).countP fun o => p o.problem :=
  count_of_forall_mem fun q _ => countOne_eq_countP p q

/-! ## Lines -/

theorem line_self : Occurrence.line ⟨[i], [], q⟩ = q.text := String.empty_append

theorem line_below : (o.below i q).line = q.heading ++ o.line := by
  rw [Occurrence.line, Occurrence.below, List.map_cons, String.join_cons, String.append_assoc]
  rfl

/-- The lines of what occurs, but for parts of the tree. -/
def linesOf (around : String) (os : List Occurrence) : List String :=
  (os.filter fun o => !o.problem.isPart).map fun o => around ++ o.line

theorem linesOf_below :
    linesOf around (os.map (.below i q)) = linesOf (around ++ q.heading) os := by
  rw [linesOf, List.filter_map, List.map_map, linesOf]
  refine List.map_congr_left fun o _ => ?_
  rw [Function.comp_apply, line_below, String.append_assoc]

theorem linesOf_of_forall_mem
    (h : ∀ q ∈ ps, ∀ i, leavesUnder around q = linesOf around (occurrencesAt i q)) :
    linesOf around (occurrences ps) = ps.flatMap (leavesUnder around) := by
  rw [linesOf, occurrences_eq, List.filter_flatMap, List.map_flatMap]
  conv_rhs => rw [← List.zipIdx_map_fst 0 ps, List.flatMap_map]
  exact List.flatMap_congr fun x hx => (h x.1 (List.fst_mem_of_mem_zipIdx hx) x.2).symm

theorem leavesUnder_eq_linesOf (q : Problem) (around : String) (i : Nat) :
    leavesUnder around q = linesOf around (occurrencesAt i q) := by
  induction q using induction generalizing around i with
  | step q ih =>
    cases hq : q.children? with
    | none =>
      have hself : q.isPart = false := by rw [isPart, hq, Option.isSome_none]
      rw [leavesUnder_of_leaf hq, occurrencesAt, inside_of_leaf hq, List.map_nil, linesOf,
        List.filter_cons_of_pos (by simp [hself]), List.filter_nil, List.map_singleton, line_self]
    | some rs =>
      have hself : q.isPart = true := by rw [isPart, hq, Option.isSome_some]
      rw [leavesUnder_of_children hq, occurrencesAt, inside_of_children hq, linesOf,
        List.filter_cons_of_neg (by simp [hself]), ← linesOf, linesOf_below]
      exact (linesOf_of_forall_mem fun r hr => ih rs hq r hr _).symm

/-- **The lines** are those of what occurs, but for parts of the tree. -/
theorem leaves_eq_map_line (ps : List Problem) :
    leaves ps = ((occurrences ps).filter fun o => !o.problem.isPart).map Occurrence.line := by
  have hlines : linesOf "" (occurrences ps) =
      ((occurrences ps).filter fun o => !o.problem.isPart).map Occurrence.line :=
    List.map_congr_left fun o _ => String.empty_append
  rw [leaves_eq_flatMap, ← hlines]
  exact (linesOf_of_forall_mem fun q _ i => leavesUnder_eq_linesOf q "" i).symm

/-! ## All queries -/

/-- The queries on some problems agree with each other and with a list of what occurs in their
tree. -/
structure Agree (ps : List Problem) (os : List Occurrence) : Prop where
  any_iff : ∀ p, any p ps = true ↔ 0 < count p ps
  /-- Parts of the tree are counted too. -/
  count_eq : ∀ p, count p ps = os.countP fun o => p o.problem
  /-- There is one line for each problem that is not a part of the tree. -/
  leaves_eq : leaves ps = (os.filter fun o => !o.problem.isPart).map Occurrence.line
  count_append : ∀ p qs, count p (ps ++ qs) = count p ps + count p qs
  leaves_append : ∀ qs, leaves (ps ++ qs) = leaves ps ++ leaves qs
  /-- If each part of the tree holds one problem, the lines make up the message. -/
  textAll_eq : (∀ o ∈ os, ∀ rs, o.problem.children? = some rs → rs.length = 1) →
    textAll ps = "\n".intercalate (leaves ps)

/-- **The queries on a list of problems agree.** All of them are given by the list of everything
that occurs in the tree, depth first. -/
theorem queries_agree (ps : List Problem) : ∃ os, DepthFirst ps os ∧ Agree ps os := by
  refine ⟨occurrences ps, depthFirst_occurrences ps, ?_⟩
  constructor
  case any_iff => exact fun p => any_iff ps
  case count_eq => exact fun p => count_eq_countP p ps
  case leaves_eq => exact leaves_eq_map_line ps
  case count_append => exact fun p qs => count_append
  case leaves_append => exact leaves_append ps
  case textAll_eq =>
    intro h
    refine textAll_eq_of_chain ?_
    rw [count_eq_countP, List.countP_eq_zero]
    intro o ho hbreaks
    obtain ⟨rs, hrs, hlength⟩ := (Option.any_eq_true ..).mp hbreaks
    exact bne_iff_ne.mp hlength (h o ho rs hrs)

/-- A service without a name, in which a destination lacks its namespace. -/
def unnamed : List Problem :=
  [.serviceNameRequired,
    .group "staging" [.destinations [.destination "c1" [.namespaceRequired]]]]

theorem queries_agree_unnamed : ∃ os, DepthFirst unnamed os ∧ Agree unnamed os ∧ os.length = 5 ∧
    textAll unnamed = "\n".intercalate (leaves unnamed) := by
  obtain ⟨os, hos, h⟩ := queries_agree unnamed
  have hlength : os.length = 5 := by
    have hall : count (fun _ => true) unnamed = 5 := by decide
    rwa [h.count_eq, List.countP_true] at hall
  have hchain : count breaksChain unnamed = 0 := by decide
  rw [h.count_eq, List.countP_eq_zero] at hchain
  refine ⟨os, hos, h, hlength, h.textAll_eq fun o ho rs hrs => ?_⟩
  have hone := hchain o ho
  rw [breaksChain, hrs] at hone
  simpa using hone

end Problem

end Rollout
