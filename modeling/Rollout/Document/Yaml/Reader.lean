import Rollout.Document.Node
import Rollout.Document.Yaml.Token

/-!
# Reading YAML

From tokens to source tree. The tree ends at the first fault.

* `Yaml.read`: a stream of at most one document. Containers nest 128 deep; deeper ones can only be
  skipped.
-/

namespace Rollout.Yaml

/-- What one step of reading leaves: the node and, unless reading stops there, the rest. -/
structure Reading where
  node : Node
  rest : Option (List Token)

/-- Reading stops at a fault. -/
def stopped : Reading := ⟨.barred .malformed (some .malformed), none⟩

/-- Where a value is left out. -/
def leftOut (rest : List Token) : Reading := ⟨.plain "", some rest⟩

/-- Whether the next token is one of some. -/
def nextIn (ts : List Token) (marks : List Token) : Bool := ts.head?.any marks.contains

/-- The parts of a container and, unless reading stops in it, the rest. -/
abbrev Parts (α : Type) := List α × Option (List Token)

/-- A container breaks off. -/
def tornItems : Parts Node := ([.torn .malformed], none)

/-- A container breaks off before a key. -/
def tornEntries : Parts (Node × Node) := ([(.torn .malformed, .null)], none)

mutual

/-- A node. Only in a block may it be a block itself, and only the value of a block mapping may be
a sequence that is not indented. The fuel bounds the tokens that can still be read. -/
def readNode (fuel : Nat) (inBlock inMapping : Bool) (ts : List Token) : Reading :=
  match fuel with
  | 0 => stopped
  | fuel + 1 =>
    match ts with
    | .bare s :: rest => ⟨.plain s, some rest⟩
    | .text s :: rest => ⟨.text s, some rest⟩
    | .bracket :: rest => let (items, rest) := readBracketed fuel true rest; ⟨.list items, rest⟩
    | .brace :: rest => let (entries, rest) := readBraced fuel true rest; ⟨.map entries, rest⟩
    | .dash :: _ =>
      if inMapping then let (items, rest) := readLooseItems fuel ts; ⟨.list items, rest⟩
      else stopped
    | .sequenceStart :: rest =>
      if inBlock then let (items, rest) := readItems fuel rest; ⟨.list items, rest⟩ else stopped
    | .mappingStart :: rest =>
      if inBlock then let (entries, rest) := readEntries fuel rest; ⟨.map entries, rest⟩
      else stopped
    | _ => stopped

/-- The items of a block sequence. -/
def readItems (fuel : Nat) (ts : List Token) : Parts Node :=
  match fuel with
  | 0 => tornItems
  | fuel + 1 =>
    match ts with
    | .dash :: rest =>
      let item :=
        if nextIn rest [.dash, .blockEnd] then leftOut rest else readNode fuel true false rest
      match item with
      | ⟨node, none⟩ => ([node], none)
      | ⟨node, some rest⟩ => let (items, rest) := readItems fuel rest; (node :: items, rest)
    | .blockEnd :: rest => ([], some rest)
    | _ => tornItems

/-- The items of a block sequence that is not indented. -/
def readLooseItems (fuel : Nat) (ts : List Token) : Parts Node :=
  match fuel with
  | 0 => tornItems
  | fuel + 1 =>
    match ts with
    | .dash :: rest =>
      let item :=
        if nextIn rest [.dash, .key, .value, .blockEnd] then leftOut rest
        else readNode fuel true false rest
      match item with
      | ⟨node, none⟩ => ([node], none)
      | ⟨node, some rest⟩ => let (items, rest) := readLooseItems fuel rest; (node :: items, rest)
    | .fault :: _ => tornItems
    | ts => ([], some ts)

/-- The entries of a block mapping. -/
def readEntries (fuel : Nat) (ts : List Token) : Parts (Node × Node) :=
  match fuel with
  | 0 => tornEntries
  | fuel + 1 =>
    match ts with
    | .key :: rest =>
      let key :=
        if nextIn rest [.key, .value, .blockEnd] then leftOut rest
        else readNode fuel true true rest
      match key with
      | ⟨key, none⟩ => ([(key, .null)], none)
      | ⟨key, some rest⟩ =>
        let value := match rest with
          | .value :: rest =>
            if nextIn rest [.key, .value, .blockEnd] then leftOut rest
            else readNode fuel true true rest
          | .fault :: _ => stopped
          | rest => leftOut rest
        match value with
        | ⟨value, none⟩ => ([(key, value)], none)
        | ⟨value, some rest⟩ =>
          let (entries, rest) := readEntries fuel rest
          ((key, value) :: entries, rest)
    | .blockEnd :: rest => ([], some rest)
    | _ => tornEntries

/-- The items of a sequence between brackets, each but the first after a comma. An item with a key
is a mapping of one entry. -/
def readBracketed (fuel : Nat) (first : Bool) (ts : List Token) : Parts Node :=
  match fuel with
  | 0 => tornItems
  | fuel + 1 =>
    match first, ts with
    | _, .closeBracket :: rest => ([], some rest)
    | false, .comma :: .closeBracket :: rest => ([], some rest)
    | true, ts => readBracketedItem fuel ts
    | false, .comma :: rest => readBracketedItem fuel rest
    | false, _ => tornItems

/-- The items of a sequence between brackets from one that is there. -/
def readBracketedItem (fuel : Nat) (ts : List Token) : Parts Node :=
  match fuel with
  | 0 => tornItems
  | fuel + 1 =>
    let item : Reading := match ts with
      | .key :: rest =>
        let key :=
          if nextIn rest [.value, .comma, .closeBracket] then leftOut (rest.drop 1)
          else readNode fuel false false rest
        match key with
        | ⟨key, none⟩ => ⟨.map [(key, .null)], none⟩
        | ⟨key, some rest⟩ =>
          let value : Reading := match rest with
            | .value :: rest =>
              if nextIn rest [.comma, .closeBracket] then leftOut rest
              else readNode fuel false false rest
            | .fault :: _ => stopped
            | rest => leftOut rest
          ⟨.map [(key, value.node)], value.rest⟩
      | ts => readNode fuel false false ts
    match item with
    | ⟨node, none⟩ => ([node], none)
    | ⟨node, some rest⟩ =>
      let (items, rest) := readBracketed fuel false rest
      (node :: items, rest)

/-- The entries of a mapping between braces, each but the first after a comma. -/
def readBraced (fuel : Nat) (first : Bool) (ts : List Token) : Parts (Node × Node) :=
  match fuel with
  | 0 => tornEntries
  | fuel + 1 =>
    match first, ts with
    | _, .closeBrace :: rest => ([], some rest)
    | false, .comma :: .closeBrace :: rest => ([], some rest)
    | true, ts => readBracedEntry fuel ts
    | false, .comma :: rest => readBracedEntry fuel rest
    | false, _ => tornEntries

/-- The entries of a mapping between braces from one that is there. -/
def readBracedEntry (fuel : Nat) (ts : List Token) : Parts (Node × Node) :=
  match fuel with
  | 0 => tornEntries
  | fuel + 1 =>
    let (marked, key) := match ts with
      | .key :: rest =>
        (true, if nextIn rest [.value, .comma, .closeBrace] then leftOut rest
          else readNode fuel false false rest)
      | ts => (false, readNode fuel false false ts)
    match key with
    | ⟨key, none⟩ => ([(key, .null)], none)
    | ⟨key, some rest⟩ =>
      let value := match marked, rest with
        | _, .fault :: _ => stopped
        | true, .value :: rest =>
          if nextIn rest [.comma, .closeBrace] then leftOut rest
          else readNode fuel false false rest
        | _, rest => leftOut rest
      match value with
      | ⟨value, none⟩ => ([(key, value)], none)
      | ⟨value, some rest⟩ =>
        let (entries, rest) := readBraced fuel false rest
        ((key, value) :: entries, rest)

end

/-- What follows a document: nothing but its end marks. -/
def restFault (ts : List Token) : Option Fault :=
  match ts.dropWhile (· = .documentEnd) with
  | .finish :: _ => none
  | _ => some .malformed

/-- The content of a document after its start mark. -/
def readContent (fuel : Nat) (ts : List Token) : Reading :=
  if nextIn ts [.version, .documentStart, .documentEnd, .finish] then leftOut ts
  else readNode fuel true false ts

/-- A stream of at most one document, however deep. -/
def readDeep (ts : List Token) : Document :=
  let fuel := 3 * ts.length + 3
  match ts with
  | .finish :: _ => ⟨.absent, none⟩
  | ts =>
    let root := match ts with
      | .version :: .documentStart :: rest | .documentStart :: rest => readContent fuel rest
      | .version :: _ => stopped
      | ts => readNode fuel true false ts
    ⟨root.node, root.rest.bind restFault⟩

/-- A stream of at most one document, whose containers can be read to a depth of 128. -/
def read (text : String) : Document :=
  let doc := readDeep (tokens text.toList)
  { doc with root := doc.root.limited 128 }

end Rollout.Yaml
