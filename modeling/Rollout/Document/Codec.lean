import Rollout.Document.Yaml.Scalar
import Rollout.OrderedMap

/-!
# Codecs of values

How a value is written as a document tree and read back from a source tree.

* `Dialect`: how the leaves and keys of a source tree are understood.
* `Codec`: a way to write and a way to read; `Codec.text`, `Codec.bool`, `Codec.word`,
  `Codec.generic` for leaves, `Codec.list`, `Codec.map` for containers.
* `Node.settle`: gives every bare word of a source tree its type.
-/

namespace Rollout

/-- How the leaves and keys of a source tree are understood. -/
inductive Dialect where
  /-- Leaves have types; a list may stand for a record. -/
  | json
  /-- A bare word has the type that is asked for; a record is a map. -/
  | yaml
  /-- Leaves had their types fixed before; a list may stand for a record. -/
  | settled
  deriving DecidableEq

/-- A way to write a value and a way to read it. -/
structure Codec (α : Type) where
  encode : α → Value
  decode : Dialect → Node → Except Fault α

/-! ## Leaves -/

namespace Node

/-- A text; in YAML a bare word is taken literally. -/
def asText (d : Dialect) : Node → Except Fault String
  | .text s => .ok s
  | .plain s => if d = .yaml then .ok s else .error .unsuitable
  | .barred f _ | .torn f => .error f
  | .null | .bool _ | .int _ | .double _ | .list _ | .map _ | .absent => .error .unsuitable

/-- A truth value. -/
def asBool (d : Dialect) : Node → Except Fault Bool
  | .bool b => .ok b
  | .plain s =>
    match d, Yaml.bool? s with
    | .yaml, some b => .ok b
    | _, _ => .error .unsuitable
  | .barred f _ | .torn f => .error f
  | .null | .int _ | .double _ | .text _ | .list _ | .map _ | .absent => .error .unsuitable

/-- A number of at most 32 bits, without sign. -/
def asWord (d : Dialect) : Node → Except Fault UInt32
  | .int i => if 0 ≤ i ∧ i.toNat < twoTo 32 then .ok (.ofNat i.toNat) else .error .unsuitable
  | .plain s =>
    match d, Yaml.unsigned? s.toList with
    | .yaml, some n => if n < twoTo 32 then .ok (.ofNat n) else .error .unsuitable
    | _, _ => .error .unsuitable
  | .barred f _ | .torn f => .error f
  | .null | .bool _ | .double _ | .text _ | .list _ | .map _ | .absent => .error .unsuitable

/-- Whether a node says that nothing is given. -/
def isNothing (d : Dialect) : Node → Bool
  | .null | .absent => true
  | .plain s => d = .yaml && Yaml.isNull s
  | _ => false

/-- Whether a node is an empty container without brackets. -/
def isVoid (d : Dialect) : Node → Bool
  | .absent => true
  | .plain s => d = .yaml && s.isEmpty
  | _ => false

end Node

namespace Codec

/-- Texts. -/
def text : Codec String := ⟨.text, Node.asText⟩

/-- Truth values. -/
def bool : Codec Bool := ⟨.bool, Node.asBool⟩

/-- Numbers of 32 bits. -/
def word : Codec UInt32 := ⟨fun n => .int n.toNat, Node.asWord⟩

/-! ## Containers -/

/-- Reads the items of a list. -/
def decodeItems {α : Type} (c : Codec α) (d : Dialect) : List Node → Except Fault (List α)
  | [] => .ok []
  | n :: rest => do
    let x ← c.decode d n
    let xs ← decodeItems c d rest
    return x :: xs

/-- Reads the entries of a map into `m`. -/
def decodeEntries {α : Type} (c : Codec α) (d : Dialect) (m : OrderedMap String α) :
    List (Node × Node) → Except Fault (OrderedMap String α)
  | [] => .ok m
  | (k, v) :: rest => do
    let key ← k.asText d
    let x ← c.decode d v
    decodeEntries c d (m.insert key x) rest

/-- Lists. -/
def list {α : Type} (c : Codec α) : Codec (List α) where
  encode xs := .list (xs.map c.encode)
  decode d
    | .list items => decodeItems c d items
    | .barred f _ | .torn f => .error f
    | n => if n.isVoid d then .ok [] else .error .unsuitable

/-- Maps from texts. -/
def map {α : Type} (c : Codec α) : Codec (OrderedMap String α) where
  encode m := .object (m.toList.map fun e => (e.1, c.encode e.2))
  decode d
    | .map entries => decodeEntries c d .empty entries
    | .barred f _ | .torn f => .error f
    | n => if n.isVoid d then .ok .empty else .error .unsuitable

/-- Values that may be missing. -/
def option {α : Type} (c : Codec α) : Codec (Option α) where
  encode
    | some x => c.encode x
    | none => .null
  decode d n := if n.isNothing d then .ok none else (c.decode d n).map some

end Codec

/-! ## Trees of any shape -/

namespace Node

/-- A leaf of an untyped tree; a number that is none becomes null. -/
def scalarValue : Yaml.Scalar → String → Except Fault Value
  | .null, _ | .notFinite, _ => .ok .null
  | .bool b, _ => .ok (.bool b)
  | .int i, _ => if Value.inWord i then .ok (.int i) else .error .unsuitable
  | .wide, _ => .error .unsuitable
  | .double x, _ => .ok (if x.isFinite then .double x else .null)
  | .text, s => .ok (.text s)

mutual

/-- An untyped tree: fields are sorted by name, and the last of one name counts. -/
def toValue (d : Dialect) : Node → Except Fault Value
  | .null | .absent => .ok .null
  | .bool b => .ok (.bool b)
  | .int i => scalarValue (.int i) ""
  | .double x => scalarValue (.double x) ""
  | .text s => .ok (.text s)
  | .plain s => scalarValue (Yaml.Scalar.ofPlain s) s
  | .list items => (toValues d items).map .list
  | .map entries => (toFields d [] entries).map .object
  | .barred f _ | .torn f => .error f

/-- The items of an untyped list. -/
def toValues (d : Dialect) : List Node → Except Fault (List Value)
  | [] => .ok []
  | n :: rest => do
    let v ← toValue d n
    let vs ← toValues d rest
    return v :: vs

/-- The fields of an untyped object, put among those read before. -/
def toFields (d : Dialect) (fields : List (String × Value)) :
    List (Node × Node) → Except Fault (List (String × Value))
  | [] => .ok fields
  | (k, n) :: rest => do
    let key ← k.asText d
    let v ← toValue d n
    toFields d (Value.putField key v fields) rest

end

theorem isSettled_scalarValue {k : Yaml.Scalar} {s : String} {v : Value}
    (h : scalarValue k s = .ok v) : v.isSettled = true := by
  cases k with
  | null | notFinite | bool | text => cases h; rfl
  | wide => cases h
  | int i =>
    rw [scalarValue] at h
    split at h
    · cases h; assumption
    · cases h
  | double x =>
    rw [scalarValue] at h
    cases h
    split
    · assumption
    · rfl

mutual

theorem isSettled_toValue {d : Dialect} : ∀ {n : Node} {v : Value}, n.toValue d = .ok v →
    v.isSettled = true
  | .null, v, h | .absent, v, h | .bool _, v, h | .text _, v, h => by
    simp only [toValue] at h
    cases h; rfl
  | .int _, v, h | .double _, v, h | .plain _, v, h => by
    simp only [toValue] at h
    exact isSettled_scalarValue h
  | .list items, v, h => by
    simp only [toValue] at h
    match hi : toValues d items, h with
    | .ok vs, h => cases h; exact allSettled_toValues hi
  | .map entries, v, h => by
    simp only [toValue] at h
    match hi : toFields d [] entries, h with
    | .ok fs, h =>
      cases h
      have := settled_toFields hi rfl .nil
      simp [Value.isSettled, this.1, this.2]

theorem allSettled_toValues {d : Dialect} : ∀ {ns : List Node} {vs : List Value},
    toValues d ns = .ok vs → Value.allSettled vs = true
  | [], vs, h => by cases h; rfl
  | n :: rest, vs, h => by
    simp only [toValues] at h
    match hn : toValue d n, hr : toValues d rest, h with
    | .ok v, .ok ws, h =>
      cases h
      simp [Value.allSettled, isSettled_toValue hn, allSettled_toValues hr]

theorem settled_toFields {d : Dialect} : ∀ {fields : List (String × Value)}
    {es : List (Node × Node)} {gs : List (String × Value)}, toFields d fields es = .ok gs →
    Value.fieldsSettled fields = true → Value.Ascending fields →
    Value.fieldsSettled gs = true ∧ Value.Ascending gs
  | fields, [], gs, h, hs, ha => by cases h; exact ⟨hs, ha⟩
  | fields, (k, n) :: rest, gs, h, hs, ha => by
    simp only [toFields] at h
    match hk : k.asText d, hn : toValue d n, h with
    | .ok key, .ok v, h =>
      exact settled_toFields h (Value.fieldsSettled_putField key (isSettled_toValue hn) hs)
        (Value.ascending_putField key v ha)

end

/-- An untyped tree with the proof that it is settled. -/
def toGeneric (d : Dialect) (n : Node) : Except Fault Generic :=
  match h : n.toValue d with
  | .ok v => .ok ⟨v, isSettled_toValue h⟩
  | .error f => .error f

end Node

/-- Trees of any shape. -/
def Codec.generic : Codec Generic := ⟨Generic.value, Node.toGeneric⟩

/-! ## Typing bare words -/

namespace Node

mutual

/-- Gives every bare word its type. Numbers that are none stay words, which suit nothing but an
untyped tree. -/
def settle : Node → Except Fault Node
  | .plain s =>
    match Yaml.Scalar.ofPlain s with
    | .null => .ok .null
    | .bool b => .ok (.bool b)
    | .int i => .ok (.int i)
    | .wide => .error .unsuitable
    | .double x => .ok (.double x)
    | .notFinite => .ok (.plain s)
    | .text => .ok (.text s)
  | .list items => (settleAll items).map .list
  | .map entries => (settleEntries entries).map .map
  | .barred f _ | .torn f => .error f
  | .absent => .ok .null
  | n => .ok n

/-- Gives every bare word of a list its type. -/
def settleAll : List Node → Except Fault (List Node)
  | [] => .ok []
  | n :: rest => do
    let m ← settle n
    let ms ← settleAll rest
    return m :: ms

/-- Gives every bare word of a map its type, keys included. -/
def settleEntries : List (Node × Node) → Except Fault (List (Node × Node))
  | [] => .ok []
  | (k, v) :: rest => do
    let key ← settle k
    let value ← settle v
    let es ← settleEntries rest
    return (key, value) :: es

end

end Node

end Rollout
