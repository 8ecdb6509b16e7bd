import Rollout.Number.Double

/-!
# Document trees

What a document says once its notation is set aside.

* `Value`: null, truth values, numbers, texts, lists and objects with their fields in order.
* `Value.isSettled`: trees in the one form that an untyped document is kept in: numbers in range,
  fields strictly ascending by name.
* `Generic`: a settled tree.
-/

namespace Rollout

/-- A document tree. -/
inductive Value where
  | null
  | bool (b : Bool)
  | int (i : Int)
  | double (d : Double)
  | text (s : String)
  | list (items : List Value)
  | object (fields : List (String × Value))
  deriving Inhabited

namespace Value

/-! ## Equality -/

mutual

/-- Decides whether two trees are equal. -/
def decEq : (v w : Value) → Decidable (v = w)
  | .null, .null => isTrue rfl
  | .bool a, .bool b => decidable_of_iff (a = b) (by simp)
  | .int a, .int b => decidable_of_iff (a = b) (by simp)
  | .double a, .double b => decidable_of_iff (a = b) (by simp)
  | .text a, .text b => decidable_of_iff (a = b) (by simp)
  | .list a, .list b => haveI := decEqList a b; decidable_of_iff (a = b) (by simp)
  | .object a, .object b => haveI := decEqFields a b; decidable_of_iff (a = b) (by simp)
  | .null, .bool _ | .null, .int _ | .null, .double _ | .null, .text _ | .null, .list _
  | .null, .object _ | .bool _, .null | .bool _, .int _ | .bool _, .double _ | .bool _, .text _
  | .bool _, .list _ | .bool _, .object _ | .int _, .null | .int _, .bool _ | .int _, .double _
  | .int _, .text _ | .int _, .list _ | .int _, .object _ | .double _, .null | .double _, .bool _
  | .double _, .int _ | .double _, .text _ | .double _, .list _ | .double _, .object _
  | .text _, .null | .text _, .bool _ | .text _, .int _ | .text _, .double _ | .text _, .list _
  | .text _, .object _ | .list _, .null | .list _, .bool _ | .list _, .int _ | .list _, .double _
  | .list _, .text _ | .list _, .object _ | .object _, .null | .object _, .bool _
  | .object _, .int _ | .object _, .double _ | .object _, .text _ | .object _, .list _ =>
    isFalse (by simp)

/-- Decides whether two lists of trees are equal. -/
def decEqList : (v w : List Value) → Decidable (v = w)
  | [], [] => isTrue rfl
  | a :: v, b :: w =>
    haveI := decEq a b
    haveI := decEqList v w
    decidable_of_iff (a = b ∧ v = w) (by simp)
  | [], _ :: _ | _ :: _, [] => isFalse (by simp)

/-- Decides whether two lists of fields are equal. -/
def decEqFields : (v w : List (String × Value)) → Decidable (v = w)
  | [], [] => isTrue rfl
  | (j, a) :: v, (k, b) :: w =>
    haveI := decEq a b
    haveI := decEqFields v w
    decidable_of_iff ((j = k ∧ a = b) ∧ v = w) (by simp)
  | [], _ :: _ | _ :: _, [] => isFalse (by simp)

end

instance : DecidableEq Value := decEq

/-! ## Settled trees -/

/-- The field names ascend strictly in the order of code points. -/
def Ascending (fields : List (String × Value)) : Prop :=
  fields.Pairwise fun e f => e.1 < f.1

instance (fields : List (String × Value)) : Decidable (Ascending fields) := by
  unfold Ascending; infer_instance

/-- Sets a field among ascending ones, replacing the value of a known name. -/
def putField (k : String) (v : Value) : List (String × Value) → List (String × Value)
  | [] => [(k, v)]
  | e :: rest =>
    if k < e.1 then (k, v) :: e :: rest
    else if k = e.1 then (k, v) :: rest
    else e :: putField k v rest

/-- The integers that a signed or an unsigned 64-bit word holds. -/
def inWord (i : Int) : Bool := -Int.ofNat (twoTo 63) ≤ i && i < Int.ofNat (twoTo 64)

mutual

/-- Integers fit a word, doubles are finite and fields ascend, at every depth. -/
def isSettled : Value → Bool
  | .null | .bool _ | .text _ => true
  | .int i => inWord i
  | .double d => d.isFinite
  | .list items => allSettled items
  | .object fields => fieldsSettled fields && Ascending fields

/-- Every tree of a list is settled. -/
def allSettled : List Value → Bool
  | [] => true
  | v :: rest => v.isSettled && allSettled rest

/-- Every field value of a list is settled. -/
def fieldsSettled : List (String × Value) → Bool
  | [] => true
  | (_, v) :: rest => v.isSettled && fieldsSettled rest

end

theorem mem_putField {k : String} {v : Value} {fields : List (String × Value)}
    {e : String × Value} (he : e ∈ putField k v fields) : e = (k, v) ∨ e ∈ fields := by
  induction fields with
  | nil => exact .inl (by simpa [putField] using he)
  | cons f rest ih =>
    rw [putField] at he
    split at he
    · simpa using he
    · split at he
      · rcases List.mem_cons.mp he with h | h
        · exact .inl h
        · exact .inr (List.mem_cons_of_mem _ h)
      · rcases List.mem_cons.mp he with h | h
        · exact .inr (h ▸ List.mem_cons_self)
        · exact (ih h).imp_right (List.mem_cons_of_mem _)

theorem ascending_putField (k : String) (v : Value) {fields : List (String × Value)}
    (h : Ascending fields) : Ascending (putField k v fields) := by
  induction fields with
  | nil => simp [putField, Ascending]
  | cons f rest ih =>
    have hf := List.pairwise_cons.mp h
    rw [putField]
    split
    · rename_i hk
      refine List.pairwise_cons.mpr ⟨fun e he => ?_, h⟩
      rcases List.mem_cons.mp he with he | he
      · exact he ▸ hk
      · exact String.lt_trans hk (hf.1 e he)
    · split
      · rename_i hk
        exact List.pairwise_cons.mpr ⟨fun e he => hk ▸ hf.1 e he, hf.2⟩
      · rename_i hlt hne
        refine List.pairwise_cons.mpr ⟨fun e he => ?_, ih hf.2⟩
        rcases mem_putField he with he | he
        · subst he
          exact Std.lt_of_le_of_ne (String.not_lt.mp hlt) fun h => hne h.symm
        · exact hf.1 e he

theorem fieldsSettled_putField (k : String) {v : Value} {fields : List (String × Value)}
    (hv : v.isSettled) (h : fieldsSettled fields) : fieldsSettled (putField k v fields) := by
  induction fields with
  | nil => simp [putField, fieldsSettled, hv]
  | cons f rest ih =>
    obtain ⟨j, w⟩ := f
    simp only [fieldsSettled, Bool.and_eq_true] at h
    rw [putField]
    split
    · simp [fieldsSettled, hv, h]
    · split
      · simp [fieldsSettled, hv, h]
      · simp [fieldsSettled, h, ih h.2]

end Value

/-- A settled document tree. -/
structure Generic where
  value : Value
  settled : value.isSettled = true
  deriving DecidableEq

instance : Inhabited Generic := ⟨⟨.null, rfl⟩⟩

namespace Generic

/-- A text as a tree. -/
def text (s : String) : Generic := ⟨.text s, rfl⟩

/-- A truth value as a tree. -/
def bool (b : Bool) : Generic := ⟨.bool b, rfl⟩

end Generic

end Rollout
