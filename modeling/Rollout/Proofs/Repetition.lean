import Mathlib
import Rollout.Validation

/-!
# Values that come again

A tracker tells of a value when it comes for the second time, and then never again.

* `Tracker.Tracks`: a tracker that has met the values of a list.
* `Tracker.observeAll`: meets values one after the other and collects those it tells of.
* **`Tracker.Tracks.count_observeAll`**: a value is told of once if it comes for the second time,
  else not at all.
-/

namespace Rollout

namespace Tracker

variable {α : Type} [DecidableEq α] {t : Tracker α} {as bs : List α} {a b : α}

/-! ## One value -/

theorem observe_cases (t : Tracker α) (a : α) :
    (a ∉ t.seen ∧ t.observe a = (false, { t with seen := a :: t.seen })) ∨
    (a ∈ t.seen ∧ a ∉ t.reported ∧ t.observe a = (true, { t with reported := a :: t.reported })) ∨
    (a ∈ t.seen ∧ a ∈ t.reported ∧ t.observe a = (false, t)) := by
  unfold observe
  by_cases hs : a ∈ t.seen <;> by_cases hr : a ∈ t.reported <;> simp [hs, hr]

theorem fst_observe (t : Tracker α) (a : α) :
    (t.observe a).1 = true ↔ a ∈ t.seen ∧ a ∉ t.reported := by
  rcases observe_cases t a with ⟨hs, ho⟩ | ⟨hs, hr, ho⟩ | ⟨hs, hr, ho⟩ <;> simp_all

theorem mem_seen_observe : b ∈ (t.observe a).2.seen ↔ b = a ∨ b ∈ t.seen := by
  rcases observe_cases t a with ⟨hs, ho⟩ | ⟨hs, hr, ho⟩ | ⟨hs, hr, ho⟩ <;> rw [ho]
  · exact List.mem_cons
  all_goals exact ⟨.inr, fun h => h.elim (fun h => h ▸ hs) id⟩

theorem mem_reported_observe :
    b ∈ (t.observe a).2.reported ↔ (b = a ∧ a ∈ t.seen) ∨ b ∈ t.reported := by
  rcases observe_cases t a with ⟨hs, ho⟩ | ⟨hs, hr, ho⟩ | ⟨hs, hr, ho⟩ <;> rw [ho]
  · simp [hs]
  · simp [hs]
  · exact ⟨.inr, fun h => h.elim (fun h => h.1 ▸ hr) id⟩

theorem count_concat (as : List α) (a b : α) :
    (as ++ [a]).count b = as.count b + if b = a then 1 else 0 := by
  rw [List.count_append, List.count_singleton]
  by_cases h : b = a
  · simp [h]
  · simp [h, Ne.symm h]

/-- The tracker has met the values of a list, and told of those that came twice. -/
structure Tracks (t : Tracker α) (as : List α) : Prop where
  mem_seen : ∀ a, a ∈ t.seen ↔ 1 ≤ as.count a
  mem_reported : ∀ a, a ∈ t.reported ↔ 2 ≤ as.count a

theorem tracks_empty : ({} : Tracker α).Tracks [] where
  mem_seen a := by simp
  mem_reported a := by simp

namespace Tracks

/-- A value is told of when it has come once before. -/
theorem fst_observe (h : t.Tracks as) (a : α) : (t.observe a).1 = decide (as.count a = 1) := by
  rw [Bool.eq_iff_iff, Tracker.fst_observe, h.mem_seen, h.mem_reported, decide_eq_true_iff]
  omega

/-- **What a tracker meets, it has met afterwards.** -/
theorem snd_observe (h : t.Tracks as) (a : α) : (t.observe a).2.Tracks (as ++ [a]) where
  mem_seen b := by
    rw [mem_seen_observe, h.mem_seen, count_concat]
    by_cases hb : b = a <;> simp [hb]
  mem_reported b := by
    rw [mem_reported_observe, h.mem_seen, h.mem_reported, count_concat]
    by_cases hb : b = a
    · subst hb
      simp only [true_and, if_true]
      omega
    · simp [hb]

end Tracks

/-! ## Several values -/

/-- Meets values from left to right, and collects those that come for the second time. -/
def observeAll (t : Tracker α) : List α → List α × Tracker α
  | [] => ([], t)
  | a :: as =>
    let (again, t) := t.observe a
    let (told, t) := t.observeAll as
    (if again then a :: told else told, t)

theorem observeAll_append (t : Tracker α) (as bs : List α) : t.observeAll (as ++ bs) =
    ((t.observeAll as).1 ++ ((t.observeAll as).2.observeAll bs).1,
      ((t.observeAll as).2.observeAll bs).2) := by
  induction as generalizing t with
  | nil => rfl
  | cons a as ih =>
    simp only [List.cons_append, observeAll, ih]
    split <;> simp

namespace Tracks

theorem snd_observeAll (h : t.Tracks as) : (t.observeAll bs).2.Tracks (as ++ bs) := by
  induction bs generalizing t as with
  | nil => simpa [observeAll] using h
  | cons b bs ih => simpa [observeAll] using ih (h.snd_observe b)

/-- **A value is told of exactly when it comes for the second time.** -/
theorem count_observeAll (h : t.Tracks as) (a : α) : (t.observeAll bs).1.count a =
    if as.count a < 2 ∧ 2 ≤ (as ++ bs).count a then 1 else 0 := by
  induction bs generalizing t as with
  | nil =>
    have : ¬ (as.count a < 2 ∧ 2 ≤ (as ++ []).count a) := by
      rw [List.append_nil]
      omega
    rw [if_neg this]
    rfl
  | cons b bs ih =>
    have hrest := ih (h.snd_observe b)
    have hall : (as ++ b :: bs).count a = (as ++ [b] ++ bs).count a := by simp
    simp only [observeAll, h.fst_observe b, decide_eq_true_eq]
    rw [hall]
    rw [count_concat] at hrest
    by_cases hab : a = b
    · -- the value itself, which may now come for the second time
      subst hab
      rw [if_pos rfl] at hrest
      have htotal : as.count a + 1 ≤ (as ++ [a] ++ bs).count a := by
        rw [List.count_append, count_concat, if_pos rfl]
        omega
      split <;> simp only [List.count_cons_self, hrest] <;> split_ifs <;> omega
    · rw [if_neg hab, Nat.add_zero] at hrest
      split
      · rw [List.count_cons_of_ne (Ne.symm hab), hrest]
      · exact hrest

/-- Nothing is told of values none of which comes for the second time. -/
theorem fst_observeAll_eq_nil_iff (h : t.Tracks as) : (t.observeAll bs).1 = [] ↔
    ∀ b ∈ bs, ¬ (as.count b < 2 ∧ 2 ≤ (as ++ bs).count b) := by
  have hmem (b : α) :
      b ∉ (t.observeAll bs).1 ↔ ¬ (as.count b < 2 ∧ 2 ≤ (as ++ bs).count b) := by
    rw [← List.count_eq_zero, h.count_observeAll]
    by_cases hb : as.count b < 2 ∧ 2 ≤ (as ++ bs).count b
    · rw [if_pos hb]
      exact iff_of_false Nat.one_ne_zero (not_not.mpr hb)
    · rw [if_neg hb]
      exact iff_of_true rfl hb
  rw [List.eq_nil_iff_forall_not_mem]
  refine ⟨fun hall b _ => (hmem b).mp (hall b), fun hall b => (hmem b).mpr fun hb => ?_⟩
  by_cases hin : b ∈ bs
  · exact hall b hin hb
  · rw [List.count_append, List.count_eq_zero_of_not_mem hin] at hb
    omega

end Tracks

end Tracker

end Rollout
