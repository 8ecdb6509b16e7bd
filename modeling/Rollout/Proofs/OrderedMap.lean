import Mathlib
import Rollout.ArtifactSet

/-!
# Maps filled from lists

* `get?_eq_some_iff`, `get?_eq_none_iff`: looking up a key.
* `OrderedMap.insertAll`: entries added one after the other; **`toList_insertAll`**: fresh entries
  stand behind those of the map, in order; **`get?_insertAll`**: a key has the last of its values.
* `nodup_map_iff_not_clash`: distinct values that another function does not tell apart.
* `repeated?_eq_none_iff`: the search for a repetition finds none exactly among distinct values.
* `bind_eq_ok_iff`: a step after another one succeeds when both do.
-/

namespace Rollout

section Map

variable {κ ν : Type} [DecidableEq κ]

theorem putEntry_of_notMem {k : κ} {es : List (κ × ν)} (h : k ∉ es.map Prod.fst) (v : ν) :
    putEntry k v es = es ++ [(k, v)] := by
  induction es with
  | nil => rfl
  | cons e rest ih =>
    rw [List.map_cons, List.mem_cons, not_or] at h
    rw [putEntry, if_neg (Ne.symm h.1), ih h.2, List.cons_append]

namespace OrderedMap

variable {m : OrderedMap κ ν} {k : κ} {v : ν}

theorem contains_iff : m.contains k = true ↔ k ∈ m.keys := List.contains_iff_mem

omit [DecidableEq κ] in
@[simp] theorem isEmpty_eq_false_iff : m.isEmpty = false ↔ m ≠ .empty := by
  rw [isEmpty, List.isEmpty_eq_false_iff, not_iff_not]
  exact ⟨fun h => OrderedMap.ext h, fun h => congrArg OrderedMap.toList h⟩

theorem toList_insert_of_notMem (h : k ∉ m.keys) (v : ν) :
    (m.insert k v).toList = m.toList ++ [(k, v)] := putEntry_of_notMem h v

/-- Keys are new beside one more entry when they were new before and none of them is its key. -/
theorem fresh_insert_iff {ks : List κ} (h : k ∉ m.keys) :
    (∀ x ∈ ks, x ∉ (m.insert k v).keys) ↔ k ∉ ks ∧ ∀ x ∈ ks, x ∉ m.keys := by
  simp only [keys_insert, if_neg h, List.mem_append, List.mem_singleton, not_or]
  constructor
  · intro hx
    exact ⟨fun hk => (hx k hk).2 rfl, fun x hxs => (hx x hxs).1⟩
  · rintro ⟨hk, hx⟩ x hxs
    exact ⟨hx x hxs, fun hxk => hk (hxk ▸ hxs)⟩

/-- **A key has the value of its entry.** -/
theorem get?_eq_some_iff : m.get? k = some v ↔ (k, v) ∈ m.toList := by
  unfold get?
  rw [Option.map_eq_some_iff]
  constructor
  · rintro ⟨e, he, rfl⟩
    have hk : e.1 = k := by simpa using List.find?_some he
    exact hk ▸ List.mem_of_find?_eq_some he
  · intro h
    have hs : (m.toList.find? fun e => e.1 = k).isSome := List.find?_isSome.mpr ⟨_, h, by simp⟩
    obtain ⟨e, he⟩ := Option.isSome_iff_exists.mp hs
    have hk : e.1 = k := by simpa using List.find?_some he
    have heq : e = (k, v) :=
      List.inj_on_of_nodup_map m.nodup (List.mem_of_find?_eq_some he) h hk
    exact ⟨e, he, by rw [heq]⟩

theorem get?_eq_none_iff : m.get? k = none ↔ k ∉ m.keys := by
  unfold get?
  rw [Option.map_eq_none_iff, List.find?_eq_none, keys, List.mem_map]
  constructor
  · rintro h ⟨e, he, rfl⟩
    exact h e he (by simp)
  · intro h e he hk
    exact h ⟨e, he, by simpa using hk⟩

theorem mem_keys_of_get? (h : m.get? k = some v) : k ∈ m.keys :=
  List.mem_map_of_mem (get?_eq_some_iff.mp h)

/-! ## Many entries -/

/-- Sets the values of keys one after the other. -/
def insertAll (m : OrderedMap κ ν) (es : List (κ × ν)) : OrderedMap κ ν :=
  es.foldl (fun m e => m.insert e.1 e.2) m

theorem ofList_eq_insertAll (es : List (κ × ν)) : ofList es = empty.insertAll es := rfl

theorem insertAll_cons (m : OrderedMap κ ν) (e : κ × ν) (es : List (κ × ν)) :
    m.insertAll (e :: es) = (m.insert e.1 e.2).insertAll es := rfl

/-- **Fresh entries go behind the others.** -/
theorem toList_insertAll {es : List (κ × ν)} (hn : (es.map Prod.fst).Nodup)
    (h : ∀ k ∈ es.map Prod.fst, k ∉ m.keys) : (m.insertAll es).toList = m.toList ++ es := by
  induction es generalizing m with
  | nil => exact (List.append_nil _).symm
  | cons e es ih =>
    rw [List.map_cons, List.nodup_cons] at hn
    have he : e.1 ∉ m.keys := h e.1 List.mem_cons_self
    have hes : ∀ k ∈ es.map Prod.fst, k ∉ m.keys := fun k hk => h k (List.mem_cons_of_mem _ hk)
    rw [insertAll_cons, ih hn.2 ((fresh_insert_iff he).mpr ⟨hn.1, hes⟩),
      toList_insert_of_notMem he, List.append_assoc, List.singleton_append]

theorem toList_ofList {es : List (κ × ν)} (hn : (es.map Prod.fst).Nodup) :
    (ofList es).toList = es :=
  toList_insertAll hn fun _ _ h => by cases h

theorem mem_keys_insertAll {es : List (κ × ν)} :
    k ∈ (m.insertAll es).keys ↔ k ∈ es.map Prod.fst ∨ k ∈ m.keys := by
  induction es generalizing m with
  | nil => simp [insertAll]
  | cons e es ih =>
    have hinsert : k ∈ (m.insert e.1 e.2).keys ↔ k = e.1 ∨ k ∈ m.keys := by
      rw [keys_insert]
      split
      · rename_i he
        exact ⟨.inr, fun h => h.elim (fun h => h ▸ he) id⟩
      · rw [List.mem_append, List.mem_singleton, or_comm]
    rw [insertAll_cons, ih, hinsert, List.map_cons, List.mem_cons, or_left_comm, or_assoc]

/-- **A key has the last of its values.** -/
theorem get?_insertAll (es : List (κ × ν)) : (m.insertAll es).get? k =
    ((es.filter fun e => e.1 = k).getLast?.map Prod.snd).or (m.get? k) := by
  induction es generalizing m with
  | nil => rfl
  | cons e es ih =>
    rw [insertAll_cons, ih, get?_insert]
    by_cases he : e.1 = k
    · rw [if_pos he, List.filter_cons_of_pos (by simpa using he), List.getLast?_cons]
      cases (es.filter fun e => e.1 = k).getLast? <;> rfl
    · rw [if_neg he, List.filter_cons_of_neg (by simpa using he)]

end OrderedMap

end Map

/-! ## Distinct values -/

section Distinct

variable {α β γ : Type} {f : α → β} {g : α → γ} {xs : List α}

theorem index_unique (hn : xs.Nodup) {i j : Nat} {x : α} (hi : xs[i]? = some x)
    (hj : xs[j]? = some x) : i = j := by
  obtain ⟨hlt, -⟩ := List.getElem?_eq_some_iff.mp hi
  exact (List.getElem?_inj hlt hn).mp (hi.trans hj.symm)

theorem index_unique_map (hn : (xs.map f).Nodup) {i j : Nat} {x y : α} (hi : xs[i]? = some x)
    (hj : xs[j]? = some y) (h : f x = f y) : i = j := by
  have hfi : (xs.map f)[i]? = some (f x) := by rw [List.getElem?_map, hi, Option.map_some]
  have hfj : (xs.map f)[j]? = some (f x) := by rw [List.getElem?_map, hj, Option.map_some, h]
  exact index_unique hn hfi hfj

theorem nodup_map_congr (h : ∀ a b, f a = f b ↔ g a = g b) (xs : List α) :
    (xs.map f).Nodup ↔ (xs.map g).Nodup := by
  simp only [List.Nodup, List.pairwise_map]
  exact List.Pairwise.iff fun a b => not_congr (h a b)

/-- Where distinct values are told apart by `f`, `g` tells them apart exactly when none clash. -/
theorem nodup_map_iff_not_clash {Clash : α → α → Prop} (hf : (xs.map f).Nodup)
    (hc : ∀ x ∈ xs, ∀ y ∈ xs, x ≠ y → (g x = g y ↔ Clash x y)) (hi : ∀ x, ¬ Clash x x) :
    (xs.map g).Nodup ↔ ∀ x ∈ xs, ∀ y ∈ xs, ¬ Clash x y := by
  constructor
  · intro hn x hx y hy hxy
    have hne : x ≠ y := by
      rintro rfl
      exact hi x hxy
    exact hne (List.inj_on_of_nodup_map hn hx hy ((hc x hx y hy hne).mpr hxy))
  · intro hn
    refine List.Nodup.map_on ?_ hf.of_map
    intro x hx y hy he
    by_contra hne
    exact hn x hx y hy ((hc x hx y hy hne).mp he)

end Distinct

/-! ## Repetitions -/

theorem repeated?_eq_none {seen : List String} : ∀ {ps : List String}, ps.Nodup →
    (∀ p ∈ ps, p ∉ seen) → repeated? seen ps = none
  | [], _, _ => rfl
  | p :: ps, hn, hs => by
    rw [List.nodup_cons] at hn
    rw [repeated?, if_neg (hs p List.mem_cons_self)]
    refine repeated?_eq_none hn.2 fun q hq hm => ?_
    rcases List.mem_cons.mp hm with rfl | hm
    · exact hn.1 hq
    · exact hs q (List.mem_cons_of_mem _ hq) hm

theorem repeated?_eq_none_iff {seen ps : List String} :
    repeated? seen ps = none ↔ ps.Nodup ∧ ∀ p ∈ ps, p ∉ seen :=
  ⟨nodup_of_repeated?, fun h => repeated?_eq_none h.1 h.2⟩

theorem repeated?_congr {ps seen seen' : List String} (h : ∀ p, p ∈ seen ↔ p ∈ seen') :
    repeated? seen ps = repeated? seen' ps := by
  induction ps generalizing seen seen' with
  | nil => rfl
  | cons p ps ih =>
    have hps : repeated? (p :: seen) ps = repeated? (p :: seen') ps :=
      ih fun q => by rw [List.mem_cons, List.mem_cons, h]
    by_cases hp : p ∈ seen
    · simp only [repeated?, if_pos hp, if_pos ((h p).mp hp)]
    · simp only [repeated?, if_neg hp, if_neg fun hp' => hp ((h p).mpr hp'), hps]

/-! ## Steps that may fail -/

theorem bind_ok {ε α β : Type} (a : α) (f : α → Except ε β) : (Except.ok a >>= f) = f a := rfl

theorem bind_eq_ok_iff {ε α β : Type} {x : Except ε α} {f : α → Except ε β} {b : β} :
    (x >>= f) = .ok b ↔ ∃ a, x = .ok a ∧ f a = .ok b := by
  cases x <;> simp [bind, Except.bind]

theorem bind_eq_error_iff {ε α β : Type} {x : Except ε α} {f : α → Except ε β} {e : ε} :
    (x >>= f) = .error e ↔ x = .error e ∨ ∃ a, x = .ok a ∧ f a = .error e := by
  cases x <;> simp [bind, Except.bind]

theorem isSome_toOption_iff {ε α : Type} {x : Except ε α} :
    x.toOption.isSome = true ↔ ∃ a, x = .ok a := by
  cases x <;> simp [Except.toOption]

theorem any_toOption_iff {ε α : Type} {x : Except ε α} {test : α → Bool} :
    x.toOption.any test = true ↔ ∃ a, x = .ok a ∧ test a = true := by
  cases x <;> simp [Except.toOption]

theorem mapError_eq_ok_iff {ε δ α : Type} {x : Except ε α} {f : ε → δ} {a : α} :
    x.mapError f = .ok a ↔ x = .ok a := by
  cases x <;> simp [Except.mapError]

theorem mapError_eq_error_iff {ε δ α : Type} {x : Except ε α} {f : ε → δ}
    (hf : Function.Injective f) {e : ε} : x.mapError f = .error (f e) ↔ x = .error e := by
  cases x <;> simp [Except.mapError, hf.eq_iff]

end Rollout
