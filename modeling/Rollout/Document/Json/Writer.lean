import Rollout.Document.Value
import Rollout.Number.Shortest
import Rollout.Text.Quoted

/-!
# Writing JSON

* `Json.compact`: a tree on one line, without blanks.
* `Json.pretty`: a tree over several lines, two blanks for each level.
-/

namespace Rollout.Json

/-- One character inside a string: quotes, backslashes and controls are escaped. -/
def escapeChar (c : Char) : List Char :=
  match c with
  | '"' => ['\\', '"']
  | '\\' => ['\\', '\\']
  | '\x08' => ['\\', 'b']
  | '\x0c' => ['\\', 'f']
  | '\n' => ['\\', 'n']
  | '\r' => ['\\', 'r']
  | '\t' => ['\\', 't']
  | c =>
    if c.toNat < 32 then
      let ds := Text.hex c.toNat
      ['\\', 'u'] ++ List.replicate (4 - ds.length) '0' ++ ds
    else [c]

/-- A string between quotes. -/
def string (s : String) : String := String.ofList ('"' :: s.toList.flatMap escapeChar ++ ['"'])

/-- A tree without parts. -/
def leaf : Value → String
  | .bool true => "true"
  | .bool false => "false"
  | .int i => toString i
  | .double d => if d.isFinite then d.toText true else "null"
  | .text s => string s
  | .null | .list _ | .object _ => "null"

mutual

/-- A tree on one line. -/
def compact : Value → String
  | .list items => "[" ++ String.intercalate "," (compactItems items) ++ "]"
  | .object fields => "\x7b" ++ String.intercalate "," (compactFields fields) ++ "\x7d"
  | v => leaf v

/-- The items of a list, each on one line. -/
def compactItems : List Value → List String
  | [] => []
  | v :: rest => compact v :: compactItems rest

/-- The fields of an object, each on one line. -/
def compactFields : List (String × Value) → List String
  | [] => []
  | (k, v) :: rest => (string k ++ ":" ++ compact v) :: compactFields rest

end

/-- The line end and the blanks of a level. -/
def newLine (level : Nat) : String := String.ofList ('\n' :: List.replicate (2 * level) ' ')

/-- The parts of a container on lines of their own; an empty container stays on one line. -/
def spread (level : Nat) (opening closing : String) (parts : List String) : String :=
  match parts with
  | [] => opening ++ closing
  | parts =>
    opening ++ newLine (level + 1) ++ String.intercalate ("," ++ newLine (level + 1)) parts
      ++ newLine level ++ closing

mutual

/-- A tree over several lines, its first line at the given level. -/
def prettyAt (level : Nat) : Value → String
  | .list items => spread level "[" "]" (prettyItems (level + 1) items)
  | .object fields => spread level "\x7b" "\x7d" (prettyFields (level + 1) fields)
  | v => leaf v

/-- The items of a list at the given level. -/
def prettyItems (level : Nat) : List Value → List String
  | [] => []
  | v :: rest => prettyAt level v :: prettyItems level rest

/-- The fields of an object at the given level. -/
def prettyFields (level : Nat) : List (String × Value) → List String
  | [] => []
  | (k, v) :: rest => (string k ++ ": " ++ prettyAt level v) :: prettyFields level rest

end

/-- A tree over several lines. -/
def pretty (v : Value) : String := prettyAt 0 v

end Rollout.Json
