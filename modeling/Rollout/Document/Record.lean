import Rollout.Document.Codec

/-!
# Codecs of records

A record is written as an object and read from a map, or from a list in the order of its fields.

* `RecordField`: one field, how it is written, left out and read.
* `Schema`: the fields of a record and the record before any of them is read.
* `Schema.codec`: the codec of a record.
-/

namespace Rollout

/-- One field of a record. -/
structure RecordField (ρ : Type) where
  name : String
  /-- A second name that is understood. -/
  other? : Option String
  /-- Whether a document without the field is refused. -/
  required : Bool
  /-- The written field, unless it is left out. -/
  encode : ρ → Option Value
  /-- Reads the field into the record. -/
  decode : Dialect → Node → ρ → Except Fault ρ

namespace RecordField

variable {ρ τ : Type}

/-- A field that is always written and must be given. -/
def mandatory (name : String) (c : Codec τ) (get : ρ → τ) (set : τ → ρ → ρ) :
    RecordField ρ where
  name := name
  other? := none
  required := true
  encode x := some (c.encode (get x))
  decode d n x := return set (← c.decode d n) x

/-- A field that is always written and may be missing. -/
def defaulted (name : String) (c : Codec τ) (get : ρ → τ) (set : τ → ρ → ρ) : RecordField ρ :=
  { mandatory name c get set with required := false }

/-- A field that is written when it has a value. -/
def optional (name : String) (c : Codec τ) (get : ρ → Option τ) (set : Option τ → ρ → ρ) :
    RecordField ρ where
  name := name
  other? := none
  required := false
  encode x := (get x).map c.encode
  decode d n x := return set (← c.option.decode d n) x

/-- A list that is written when it has items. -/
def items (name : String) (c : Codec τ) (get : ρ → List τ) (set : List τ → ρ → ρ) :
    RecordField ρ where
  name := name
  other? := none
  required := false
  encode x := if (get x).isEmpty then none else some (c.list.encode (get x))
  decode d n x := return set (← c.list.decode d n) x

/-- A map that is written when it has entries. -/
def entries (name : String) (c : Codec τ) (get : ρ → OrderedMap String τ)
    (set : OrderedMap String τ → ρ → ρ) : RecordField ρ where
  name := name
  other? := none
  required := false
  encode x := if (get x).isEmpty then none else some (c.map.encode (get x))
  decode d n x := return set (← c.map.decode d n) x

/-- Whether a key stands for the field. -/
def isNamed (f : RecordField ρ) (key : String) : Bool := f.name == key || f.other? == some key

end RecordField

/-- The fields of a record, and the record before any of them is read. -/
structure Schema (ρ : Type) where
  blank : ρ
  fields : List (RecordField ρ)

namespace Schema

variable {ρ : Type}

/-- The written fields. -/
def encode (s : Schema ρ) (x : ρ) : List (String × Value) :=
  s.fields.filterMap fun f => (f.encode x).map (f.name, ·)

/-- The field that a key stands for, if any. In a settled tree a number stands for the field at
that place. -/
def select (s : Schema ρ) (d : Dialect) (key : Node) : Except Fault (Option (RecordField ρ)) :=
  match d, key with
  | .settled, .int i => if 0 ≤ i then .ok s.fields[i.toNat]? else .error .unsuitable
  | d, key => do
    let name ← key.asText d
    return s.fields.find? (·.isNamed name)

/-- Reads the entries of a map into a record whose fields `seen` have been read. A field may come
once; entries that are none of the fields are passed over. -/
def decodeEntries (s : Schema ρ) (d : Dialect) :
    List (Node × Node) → (seen : List String) → ρ → Except Fault ρ
  | [], seen, x =>
    if s.fields.all fun f => !f.required || seen.contains f.name then .ok x
    else .error .unsuitable
  | (k, v) :: rest, seen, x => do
    match ← s.select d k with
    | none =>
      v.skip
      decodeEntries s d rest seen x
    | some f =>
      if seen.contains f.name then .error .unsuitable
      else
        let y ← f.decode d v x
        decodeEntries s d rest (f.name :: seen) y

/-- Reads the items of a list into the fields in order. Fields at the end may be missing, further
items may not follow. -/
def decodeItems (d : Dialect) : List (RecordField ρ) → List Node → ρ → Except Fault ρ
  | [], [], x => .ok x
  | [], .torn f :: _, _ => .error f
  | [], _ :: _, _ => .error (if d = .json then .malformed else .unsuitable)
  | f :: fs, [], x => if f.required then .error .unsuitable else decodeItems d fs [] x
  | f :: fs, n :: ns, x => do
    let y ← f.decode d n x
    decodeItems d fs ns y

/-- Reads a record. -/
def decode (s : Schema ρ) (d : Dialect) : Node → Except Fault ρ
  | .map entries => s.decodeEntries d entries [] s.blank
  | .list items => if d = .yaml then .error .unsuitable else decodeItems d s.fields items s.blank
  | .barred f _ | .torn f => .error f
  | n => if n.isVoid d then s.decodeEntries d [] [] s.blank else .error .unsuitable

/-- The codec of a record. -/
def codec (s : Schema ρ) : Codec ρ := ⟨fun x => .object (s.encode x), s.decode⟩

end Schema

end Rollout
