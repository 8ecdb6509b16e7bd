import Rollout.Proofs.OrderedMap
import Rollout.Service.Codec

/-!
# Reading back what was written

* `Node.ofValue`: a written document as the source tree that its text stands for.
* `Codec.Faithful`: reading undoes writing, in every dialect; one lemma for each codec of leaves and
  containers.
* **`Node.toValue_ofValue`**: an untyped document comes back field by field.
* `Node.settle_ofValue`: no bare word is left to be given a type.
-/

namespace Rollout

/-! ## Written documents as source trees -/

namespace Node

mutual

/-- A document as a source tree: every leaf has its type and every key is a text. -/
def ofValue : Value → Node
  | .null => .null
  | .bool b => .bool b
  | .int i => .int i
  | .double x => .double x
  | .text s => .text s
  | .list items => .list (ofValues items)
  | .object fields => .map (ofFields fields)

/-- The items of a list. -/
def ofValues : List Value → List Node
  | [] => []
  | v :: rest => ofValue v :: ofValues rest

/-- The fields of an object. -/
def ofFields : List (String × Value) → List (Node × Node)
  | [] => []
  | (k, v) :: rest => (.text k, ofValue v) :: ofFields rest

end

variable {v : Value}

theorem ofFields_eq_map : ∀ fields : List (String × Value),
    ofFields fields = fields.map fun e => (.text e.1, ofValue e.2)
  | [] => rfl
  | (k, v) :: rest => by rw [ofFields, ofFields_eq_map rest, List.map_cons]

theorem ofFields_append (fs gs : List (String × Value)) :
    ofFields (fs ++ gs) = ofFields fs ++ ofFields gs := by
  simp only [ofFields_eq_map, List.map_append]

/-- A written document says that nothing is given only by the word for nothing. -/
theorem isNothing_ofValue (h : v ≠ .null) (d : Dialect) : (ofValue v).isNothing d = false := by
  cases v with
  | null => exact absurd rfl h
  | _ => simp only [ofValue, isNothing]

mutual

/-- **Every word of a written document has its type.** -/
theorem settle_ofValue : ∀ v : Value, (ofValue v).settle = .ok (ofValue v)
  | .null | .bool _ | .int _ | .double _ | .text _ => by simp only [ofValue, settle]
  | .list items => by
    simp only [ofValue, settle, settleAll_ofValues items]
    rfl
  | .object fields => by
    simp only [ofValue, settle, settleEntries_ofFields fields]
    rfl

theorem settleAll_ofValues : ∀ vs : List Value, settleAll (ofValues vs) = .ok (ofValues vs)
  | [] => rfl
  | v :: rest => by
    simp only [ofValues, settleAll, settle_ofValue v, settleAll_ofValues rest]
    rfl

theorem settleEntries_ofFields : ∀ fs : List (String × Value),
    settleEntries (ofFields fs) = .ok (ofFields fs)
  | [] => rfl
  | (k, v) :: rest => by
    simp only [ofFields, settleEntries, settle, settle_ofValue v, settleEntries_ofFields rest]
    rfl

end

/-! ## Untyped documents -/

theorem putField_of_forall_lt {k : String} {w : Value} : ∀ {fields : List (String × Value)},
    (∀ e ∈ fields, e.1 < k) → Value.putField k w fields = fields ++ [(k, w)]
  | [], _ => rfl
  | e :: rest, h => by
    have he : e.1 < k := h e List.mem_cons_self
    have hr : Value.putField k w rest = rest ++ [(k, w)] :=
      putField_of_forall_lt fun f hf => h f (List.mem_cons_of_mem _ hf)
    rw [Value.putField, if_neg (String.lt_asymm he), if_neg (String.ne_of_lt he).symm, hr,
      List.cons_append]

mutual

/-- **A settled document comes back as it is.** -/
theorem toValue_ofValue (d : Dialect) : ∀ {v : Value}, v.isSettled = true →
    (ofValue v).toValue d = .ok v
  | .null, _ | .bool _, _ | .text _, _ => by simp only [ofValue, toValue]
  | .int i, h => by
    have hi : Value.inWord i = true := h
    simp only [ofValue, toValue, scalarValue, if_pos hi]
  | .double x, h => by
    have hx : x.isFinite = true := h
    simp only [ofValue, toValue, scalarValue, if_pos hx]
  | .list items, h => by
    have hi : Value.allSettled items = true := h
    simp only [ofValue, toValue, toValues_ofValues d hi]
    rfl
  | .object fields, h => by
    simp only [Value.isSettled, Bool.and_eq_true, decide_eq_true_eq] at h
    have hf : toFields d [] (ofFields fields) = .ok ([] ++ fields) :=
      toFields_ofFields d h.1 h.2
    simp only [ofValue, toValue, hf]
    rfl

theorem toValues_ofValues (d : Dialect) : ∀ {vs : List Value}, Value.allSettled vs = true →
    toValues d (ofValues vs) = .ok vs
  | [], _ => rfl
  | v :: rest, h => by
    simp only [Value.allSettled, Bool.and_eq_true] at h
    simp only [ofValues, toValues, toValue_ofValue d h.1, toValues_ofValues d h.2]
    rfl

/-- Ascending fields are each put behind those read before. -/
theorem toFields_ofFields (d : Dialect) : ∀ {before fs : List (String × Value)},
    Value.fieldsSettled fs = true → Value.Ascending (before ++ fs) →
    toFields d before (ofFields fs) = .ok (before ++ fs)
  | before, [], _, _ => by rw [List.append_nil]; rfl
  | before, (k, v) :: rest, hs, ha => by
    simp only [Value.fieldsSettled, Bool.and_eq_true] at hs
    have hlt : ∀ e ∈ before, e.1 < k := fun e he =>
      (List.pairwise_append.mp ha).2.2 e he (k, v) List.mem_cons_self
    rw [List.append_cons] at ha
    have hr := toFields_ofFields d hs.2 ha
    simp only [ofFields, toFields, asText, toValue_ofValue d hs.1, bind_ok,
      putField_of_forall_lt hlt, hr, List.append_assoc, List.singleton_append]

end

end Node

/-! ## Faithful codecs -/

namespace Codec

variable {α : Type} {c : Codec α}

/-- Reading undoes writing, however the source tree is understood. -/
def Faithful (c : Codec α) : Prop := ∀ d x, c.decode d (.ofValue (c.encode x)) = .ok x

/-- No value is written as the word for nothing. -/
def Solid (c : Codec α) : Prop := ∀ x, c.encode x ≠ .null

@[simp] theorem text_faithful : text.Faithful := fun _ _ => rfl

@[simp] theorem text_solid : text.Solid := fun _ => Value.noConfusion

@[simp] theorem bool_faithful : bool.Faithful := fun _ _ => rfl

@[simp] theorem bool_solid : bool.Solid := fun _ => Value.noConfusion

@[simp] theorem word_faithful : word.Faithful := by
  intro d n
  have hn : (n.toNat : Int).toNat < twoTo 32 := n.toNat_lt
  show Node.asWord d (.int n.toNat) = .ok n
  rw [Node.asWord, if_pos ⟨Int.natCast_nonneg _, hn⟩, Int.toNat_natCast, UInt32.ofNat_toNat]

@[simp] theorem word_solid : word.Solid := fun _ => Value.noConfusion

@[simp] theorem generic_faithful : generic.Faithful := by
  intro d g
  show Node.toGeneric d (.ofValue g.value) = .ok g
  unfold Node.toGeneric
  split
  · rename_i v hv
    have hvg : g.value = v := Except.ok.inj ((Node.toValue_ofValue d g.settled).symm.trans hv)
    subst hvg
    rfl
  · rename_i f hf
    cases (Node.toValue_ofValue d g.settled).symm.trans hf

/-! ## Containers -/

theorem decodeItems_encode (hc : c.Faithful) (d : Dialect) : ∀ xs : List α,
    decodeItems c d (Node.ofValues (xs.map c.encode)) = .ok xs
  | [] => rfl
  | x :: xs => by
    rw [List.map_cons, Node.ofValues, decodeItems, hc d x, decodeItems_encode hc d xs]
    rfl

@[simp] theorem list_faithful (hc : c.Faithful) : c.list.Faithful := by
  intro d xs
  show c.list.decode d (.ofValue (.list (xs.map c.encode))) = .ok xs
  simp only [list, Node.ofValue, decodeItems_encode hc d xs]

theorem decodeEntries_encode (hc : c.Faithful) (d : Dialect) :
    ∀ (m : OrderedMap String α) (es : List (String × α)),
      decodeEntries c d m (Node.ofFields (es.map fun e => (e.1, c.encode e.2)))
        = .ok (m.insertAll es)
  | _, [] => rfl
  | m, e :: es => by
    rw [List.map_cons, Node.ofFields, decodeEntries, Node.asText, bind_ok, hc d e.2, bind_ok,
      decodeEntries_encode hc d _ es, OrderedMap.insertAll_cons]

@[simp] theorem map_faithful (hc : c.Faithful) : c.map.Faithful := by
  intro d m
  show c.map.decode d (.ofValue (.object (m.toList.map fun e => (e.1, c.encode e.2)))) = .ok m
  have hm : OrderedMap.empty.insertAll m.toList = m :=
    OrderedMap.ext (OrderedMap.toList_ofList m.nodup)
  simp only [map, Node.ofValue, decodeEntries_encode hc d, hm]

/-- A value that is given is told from one that is not. -/
theorem option_decode_some (hc : c.Faithful) (hs : c.Solid) (d : Dialect) (x : α) :
    c.option.decode d (.ofValue (c.encode x)) = .ok (some x) := by
  have hn : ¬ (Node.ofValue (c.encode x)).isNothing d = true := by
    rw [Node.isNothing_ofValue (hs x)]
    exact Bool.false_ne_true
  simp only [option, if_neg hn, hc d x]
  rfl

end Codec

/-! ## Secrets policies -/

namespace SecretsPolicy

/-- **The word and the map of a secrets policy are told apart.** -/
@[simp] theorem codec_faithful : codec.Faithful := by
  intro d p
  show (Node.settle (.ofValue p.encode) >>= ofSettled) = .ok p
  rw [Node.settle_ofValue, bind_ok]
  cases p with
  | inherit => rfl
  | explicit m =>
    have hm := Codec.map_faithful Codec.text_faithful .settled m
    simp only [encode, Codec.map, Node.ofValue] at hm ⊢
    rw [ofSettled]
    simp only [Codec.map, hm]

@[simp] theorem codec_solid : codec.Solid := by
  rintro (_ | m)
  · exact Value.noConfusion
  · exact Value.noConfusion

end SecretsPolicy

end Rollout
