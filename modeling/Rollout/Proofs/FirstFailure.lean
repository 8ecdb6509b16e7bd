import Rollout.Proofs.OrderedMap

/-!
# The first failure

A step that stops at the first thing wrong is told by the list of everything that is wrong, in the
order of the step.

* `eachAfter`: what is told of each value of a list, given those before it.
* `recurring`: the values that repeat one before them; **`head?_recurring`**: `repeated?` finds the
  first of them.
* `StopsAt`: the step fails with the first of some failures, and succeeds if there are none.
* **`StopsAt.bind`**: a step after another one adds its failures behind.
-/

namespace Rollout

/-! ## Values and those before them -/

section Each

variable {α β : Type}

/-- What `f` tells of the values of a list in order, each after `before` and those that stand before
it in the list. -/
def eachAfter (f : List α → α → List β) (before : List α) : List α → List β
  | [] => []
  | x :: xs => f before x ++ eachAfter f (before ++ [x]) xs

theorem mem_eachAfter {f : List α → α → List β} {before xs : List α} {y : β} :
    y ∈ eachAfter f before xs ↔
      ∃ front x back, xs = front ++ x :: back ∧ y ∈ f (before ++ front) x := by
  induction xs generalizing before with
  | nil => simp [eachAfter]
  | cons x xs ih =>
    rw [eachAfter, List.mem_append, ih]
    constructor
    · rintro (h | ⟨front, z, back, rfl, h⟩)
      · exact ⟨[], x, xs, rfl, by rwa [List.append_nil]⟩
      · exact ⟨x :: front, z, back, rfl, by rwa [List.append_assoc] at h⟩
    · rintro ⟨_ | ⟨w, front⟩, z, back, hxs, h⟩
      · cases hxs
        exact .inl (by rwa [List.append_nil] at h)
      · cases hxs
        exact .inr ⟨front, z, back, rfl, by rwa [List.append_assoc]⟩

end Each

/-- The texts of a list that stand at an earlier place already, in order. -/
def recurring (xs : List String) : List String :=
  eachAfter (fun before x => if x ∈ before then [x] else []) [] xs

theorem head?_eachAfter_recurring (before xs : List String) :
    (eachAfter (fun before x => if x ∈ before then [x] else []) before xs).head? =
      repeated? before xs := by
  induction xs generalizing before with
  | nil => rfl
  | cons x xs ih =>
    rw [eachAfter, repeated?]
    split
    · rfl
    · rw [List.nil_append, ih]
      exact repeated?_congr fun p => by rw [List.mem_append, List.mem_singleton, List.mem_cons,
        or_comm]

/-- **The search for a repetition finds the first one.** -/
theorem head?_recurring (xs : List String) : (recurring xs).head? = repeated? [] xs :=
  head?_eachAfter_recurring [] xs

theorem recurring_eq_nil_iff {xs : List String} : recurring xs = [] ↔ xs.Nodup := by
  rw [← List.head?_eq_none_iff, head?_recurring, repeated?_eq_none_iff]
  exact and_iff_left fun _ _ h => absurd h List.not_mem_nil

/-! ## Steps that stop -/

/-- The step fails with the first of the failures, and succeeds if there are none. -/
def StopsAt {ε α : Type} (x : Except ε α) (failures : List ε) : Prop :=
  ∀ e, x = .error e ↔ failures.head? = some e

section Steps

variable {ε α β : Type} {x : Except ε α} {f : α → Except ε β} {failures more : List ε}

theorem stopsAt_ok (a : α) : StopsAt (.ok a : Except ε α) [] := fun _ => by simp

theorem stopsAt_error (e : ε) (failures : List ε) :
    StopsAt (.error e : Except ε α) (e :: failures) := fun _ => by simp

theorem StopsAt.eq_nil {a : α} (h : StopsAt (.ok a) failures) : failures = [] := by
  rw [← List.head?_eq_none_iff, Option.eq_none_iff_forall_ne_some]
  intro e he
  cases (h e).mpr he

theorem StopsAt.exists_ok_iff (h : StopsAt x failures) : (∃ a, x = .ok a) ↔ failures = [] := by
  constructor
  · rintro ⟨a, rfl⟩
    exact h.eq_nil
  · rintro rfl
    cases x with
    | error e => exact absurd ((h e).mp rfl) (by simp)
    | ok a => exact ⟨a, rfl⟩

theorem StopsAt.mem (h : StopsAt x failures) {e : ε} (he : x = .error e) : e ∈ failures :=
  List.mem_of_head? ((h e).mp he)

/-- **One step after another.** -/
theorem StopsAt.bind (hx : StopsAt x failures) (hf : ∀ a, x = .ok a → StopsAt (f a) more) :
    StopsAt (x >>= f) (failures ++ more) := by
  cases x with
  | error e =>
    obtain ⟨rest, rfl⟩ := List.head?_eq_some_iff.mp ((hx e).mp rfl)
    exact stopsAt_error e _
  | ok a =>
    rw [hx.eq_nil, List.nil_append]
    exact hf a rfl

theorem StopsAt.bind_ok (hx : StopsAt x failures) (g : α → β) :
    StopsAt (x >>= fun a => .ok (g a)) failures := by
  have := hx.bind (f := fun a => .ok (g a)) fun a _ => stopsAt_ok (g a)
  rwa [List.append_nil] at this

end Steps

end Rollout
