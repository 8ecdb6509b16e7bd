/-!
# Maps in order of first insertion

A map whose entries keep the place at which their key came first.

* `OrderedMap.insert`: a new key goes last, a known key keeps its place and takes the new value.
* `OrderedMap.get?`, `OrderedMap.keys`, `OrderedMap.toList`: the views.
-/

namespace Rollout

variable {κ ν : Type} [DecidableEq κ]

/-! ## Lists of entries -/

/-- Replaces the value at `k` where it stands, or adds the entry at the end. -/
def putEntry (k : κ) (v : ν) : List (κ × ν) → List (κ × ν)
  | [] => [(k, v)]
  | e :: rest => if e.1 = k then (k, v) :: rest else e :: putEntry k v rest

theorem map_fst_putEntry (k : κ) (v : ν) (es : List (κ × ν)) :
    (putEntry k v es).map Prod.fst =
      if k ∈ es.map Prod.fst then es.map Prod.fst else es.map Prod.fst ++ [k] := by
  induction es with
  | nil => simp [putEntry]
  | cons e rest ih =>
    by_cases h : e.1 = k
    · simp [putEntry, h]
    · have h' : ¬ k = e.1 := fun hk => h hk.symm
      by_cases hr : k ∈ rest.map Prod.fst
      · rw [if_pos hr] at ih
        rw [putEntry, if_neg h, List.map_cons, ih, List.map_cons,
          if_pos (List.mem_cons_of_mem _ hr)]
      · have hn : k ∉ e.1 :: rest.map Prod.fst := by
          intro hm
          cases hm with
          | head => exact h' rfl
          | tail _ hm => exact hr hm
        rw [if_neg hr] at ih
        rw [putEntry, if_neg h, List.map_cons, ih, List.map_cons, if_neg hn, List.cons_append]

theorem nodup_putEntry (k : κ) (v : ν) {es : List (κ × ν)} (h : (es.map Prod.fst).Nodup) :
    ((putEntry k v es).map Prod.fst).Nodup := by
  rw [map_fst_putEntry]
  split
  · exact h
  · rename_i hk
    exact List.nodup_append.mpr
      ⟨h, by simp, fun a ha b hb hab => hk (by simp at hb; exact hb ▸ hab ▸ ha)⟩

theorem find?_putEntry (k k' : κ) (v : ν) (es : List (κ × ν)) :
    (putEntry k v es).find? (fun e => e.1 = k') =
      if k = k' then some (k, v) else es.find? fun e => e.1 = k' := by
  induction es with
  | nil => by_cases h : k = k' <;> simp [putEntry, h]
  | cons e rest ih =>
    by_cases he : e.1 = k
    · by_cases h : k = k' <;> simp [putEntry, he, h]
    · by_cases h' : e.1 = k'
      · have h : ¬ k = k' := fun h => he (h'.trans h.symm)
        rw [putEntry, if_neg he, if_neg h, List.find?_cons_of_pos (by simpa using h'),
          List.find?_cons_of_pos (by simpa using h')]
      · rw [putEntry, if_neg he, List.find?_cons_of_neg (by simpa using h'), ih,
          List.find?_cons_of_neg (by simpa using h')]

/-! ## The map -/

/-- A map that remembers the order in which its keys came. -/
structure OrderedMap (κ ν : Type) where
  /-- The entries in order. -/
  toList : List (κ × ν)
  /-- A key has one entry. -/
  nodup : (toList.map Prod.fst).Nodup

omit [DecidableEq κ] in
theorem OrderedMap.ext {m n : OrderedMap κ ν} (h : m.toList = n.toList) : m = n := by
  cases m; cases n; cases h; rfl

instance [DecidableEq ν] : DecidableEq (OrderedMap κ ν) := fun m n =>
  decidable_of_iff (m.toList = n.toList) ⟨OrderedMap.ext, fun h => h ▸ rfl⟩

namespace OrderedMap

/-- No entries. -/
def empty : OrderedMap κ ν := ⟨[], .nil⟩

instance : EmptyCollection (OrderedMap κ ν) := ⟨empty⟩

instance : Inhabited (OrderedMap κ ν) := ⟨empty⟩

/-- Sets the value of a key: in place when the key is known, else as the last entry. -/
def insert (m : OrderedMap κ ν) (k : κ) (v : ν) : OrderedMap κ ν :=
  ⟨putEntry k v m.toList, nodup_putEntry k v m.nodup⟩

/-- The entries in order, later values of a key in place of earlier ones. -/
def ofList (es : List (κ × ν)) : OrderedMap κ ν :=
  es.foldl (fun m e => m.insert e.1 e.2) empty

/-- The value of a key. -/
def get? (m : OrderedMap κ ν) (k : κ) : Option ν :=
  (m.toList.find? fun e => e.1 = k).map Prod.snd

/-- The keys in order. -/
def keys (m : OrderedMap κ ν) : List κ := m.toList.map Prod.fst

/-- The values in order. -/
def values (m : OrderedMap κ ν) : List ν := m.toList.map Prod.snd

/-- Whether the key has an entry. -/
def contains (m : OrderedMap κ ν) (k : κ) : Bool := m.keys.contains k

/-- The number of entries. -/
def size (m : OrderedMap κ ν) : Nat := m.toList.length

/-- Whether there are no entries. -/
def isEmpty (m : OrderedMap κ ν) : Bool := m.toList.isEmpty

omit [DecidableEq κ] in
@[simp] theorem toList_empty : (empty : OrderedMap κ ν).toList = [] := rfl

theorem toList_insert (m : OrderedMap κ ν) (k : κ) (v : ν) :
    (m.insert k v).toList = putEntry k v m.toList := rfl

theorem keys_insert (m : OrderedMap κ ν) (k : κ) (v : ν) :
    (m.insert k v).keys = if k ∈ m.keys then m.keys else m.keys ++ [k] :=
  map_fst_putEntry k v m.toList

@[simp] theorem get?_empty (k : κ) : (empty : OrderedMap κ ν).get? k = none := rfl

theorem get?_insert (m : OrderedMap κ ν) (k k' : κ) (v : ν) :
    (m.insert k v).get? k' = if k = k' then some v else m.get? k' := by
  rw [get?, toList_insert, find?_putEntry]
  by_cases h : k = k' <;> simp [get?, h]

@[simp] theorem ofList_nil : ofList ([] : List (κ × ν)) = empty := rfl

end OrderedMap

end Rollout
