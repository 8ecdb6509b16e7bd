import Rollout.Document.Value

/-!
# Source trees

A document as it was read, before anything is asked of it. A reader stops at the first fault that
nobody can pass over, and the tree keeps the fault where it stood, so that whoever walks the tree
in document order meets the same first problem as a reader that decodes while it reads.

* `Fault`: why a document cannot be decoded.
* `Node`: the source tree; `Node.skip` passes over a part that nobody asks for.
* `Node.limited`: containers nested too deeply can only be skipped.
* `Document`: a tree and what follows it.
-/

namespace Rollout

/-- Why a document cannot be decoded. -/
inductive Fault where
  /-- The text does not follow its notation. -/
  | malformed
  /-- The text ends too early. -/
  | truncated
  /-- A well-formed value that does not fit what is asked for. -/
  | unsuitable
  /-- A secrets policy by a word that means nothing. -/
  | secretsPolicy (given : String)
  deriving DecidableEq, Inhabited

/-- A source tree. -/
inductive Node where
  | null
  | bool (b : Bool)
  | int (i : Int)
  | double (d : Double)
  | text (s : String)
  /-- A bare word, whose type depends on what is asked for. -/
  | plain (s : String)
  | list (items : List Node)
  | map (entries : List (Node × Node))
  /-- A part with a fault: met when the part is read, and the one met when it is skipped. -/
  | barred (onRead : Fault) (onSkip : Option Fault)
  /-- Where a container breaks off between two of its parts. -/
  | torn (fault : Fault)
  /-- The value of a document that holds nothing. -/
  | absent
  deriving Inhabited

namespace Node

/-! ## Parts that nobody asks for -/

mutual

/-- Passes over a part; only faults of the notation count. -/
def skip : Node → Except Fault Unit
  | .list items => skipAll items
  | .map entries => skipEntries entries
  | .barred _ (some f) | .torn f => .error f
  | .barred _ none | .null | .bool _ | .int _ | .double _ | .text _ | .plain _ | .absent => .ok ()

/-- Passes over the items of a list. -/
def skipAll : List Node → Except Fault Unit
  | [] => .ok ()
  | n :: rest => do n.skip; skipAll rest

/-- Passes over the entries of a map. -/
def skipEntries : List (Node × Node) → Except Fault Unit
  | [] => .ok ()
  | (k, v) :: rest => do k.skip; v.skip; skipEntries rest

end

/-- The fault met when a part is skipped. -/
def skipFault? (n : Node) : Option Fault :=
  match n.skip with
  | .ok () => none
  | .error f => some f

/-! ## Nesting -/

mutual

/-- Bars every container below `room` others. -/
def limited (room : Nat) : Node → Node
  | .list items =>
    match room with
    | 0 => .barred .malformed (skipFault? (.list items))
    | room + 1 => .list (limitedAll room items)
  | .map entries =>
    match room with
    | 0 => .barred .malformed (skipFault? (.map entries))
    | room + 1 => .map (limitedEntries room entries)
  | n => n

/-- The items of a list, each with the same room. -/
def limitedAll (room : Nat) : List Node → List Node
  | [] => []
  | n :: rest => limited room n :: limitedAll room rest

/-- The entries of a map, each with the same room. -/
def limitedEntries (room : Nat) : List (Node × Node) → List (Node × Node)
  | [] => []
  | (k, v) :: rest => (limited room k, limited room v) :: limitedEntries room rest

end

end Node

/-- A source tree and the fault, if any, that follows it. -/
structure Document where
  root : Node
  rest : Option Fault
  deriving Inhabited

end Rollout
