import Rollout.Document.Yaml.Character
import Rollout.Document.Yaml.Scalar
import Rollout.Number.Shortest
import Rollout.Text.Quoted

/-!
# Writing YAML

Block style, two columns for each level, no folding of lines.

* `Yaml.Traits.of`: what in a text decides how it can be written.
* `Yaml.Form.choose`: bare, between quotes or as a literal block.
* `Yaml.write`: a whole document.
-/

namespace Rollout.Yaml

/-! ## How a text can be written -/

/-- What in a text decides how it can be written. -/
structure Traits where
  /-- Something has a meaning of its own in block style. -/
  indicator : Bool
  /-- Line ends. -/
  multiline : Bool
  /-- Characters that have to be escaped. -/
  special : Bool
  /-- A space or a line end at either end. -/
  loose : Bool
  /-- A space at the end. -/
  trailingSpace : Bool
  /-- A space before a line end. -/
  spaceBreak : Bool
  /-- A space after a line end. -/
  breakSpace : Bool

/-- The first characters that a bare text cannot have. -/
def leadingIndicators : List Char :=
  ['#', ',', '[', ']', '\x7b', '\x7d', '&', '*', '!', '|', '>', '\'', '"', '%', '@', '`']

/-- Whether the first character has a meaning of its own. -/
def indicatesFirst : List Char → Bool
  | [] => false
  | c :: rest => c ∈ leadingIndicators || (c ∈ ['?', ':', '-'] && startsBlank rest)

/-- Whether a later character has a meaning of its own; `blank` tells of the one before. -/
def indicatesLater (blank : Bool) : List Char → Bool
  | [] => false
  | c :: rest =>
    (c = ':' && startsBlank rest) || (c = '#' && blank)
      || indicatesLater (startsBlank [c]) rest

/-- Whether two neighbours satisfy the two tests. -/
def hasNeighbours (p q : Char → Bool) : List Char → Bool
  | a :: b :: rest => (p a && q b) || hasNeighbours p q (b :: rest)
  | _ => false

/-- Looks at a text. -/
def Traits.of (cs : List Char) : Traits :=
  let space (c : Char) : Bool := c = ' '
  let edge (c : Option Char) : Bool := c.any fun c => space c || isBreak c
  { indicator := startsDocument cs || indicatesFirst cs
      || indicatesLater (startsBlank (cs.take 1)) (cs.drop 1)
    multiline := cs.any isBreak
    special := cs.any fun c => !isPrintable c
    loose := edge cs.head? || edge cs.getLast?
    trailingSpace := cs.getLast?.any space
    spaceBreak := hasNeighbours space isBreak cs
    breakSpace := hasNeighbours isBreak space cs }

/-- The ways to write a text. -/
inductive Form where
  | bare
  | single
  | double
  | literal
  deriving DecidableEq

/-- Whether a bare text would be read as something else. -/
def isMistakable (s : String) : Bool :=
  Scalar.ofPlain s != .text || hasLeadingZero s.toList

/-- How a text is written, as a key on one line or anywhere else. -/
def Form.choose (simpleKey : Bool) (s : String) : Form :=
  let cs := s.toList
  let t := Traits.of cs
  let quotable := !(t.breakSpace || t.spaceBreak || t.special)
  let quotes : Form := if quotable then .single else .double
  if simpleKey && t.multiline then .double
  else if cs.contains '\n' then
    if t.trailingSpace || t.spaceBreak || t.special || simpleKey then .double else .literal
  else if isMistakable s then quotes
  else if t.loose || t.multiline || t.indicator || !quotable then quotes
  else .bare

/-! ## The page -/

/-- The text written so far and where the pen stands. -/
structure Page where
  text : String := ""
  column : Nat := 0
  /-- The last character was a blank. -/
  blank : Bool := true
  /-- Nothing but indentation and markers on this line so far. -/
  indenting : Bool := true

namespace Page

/-- Writes a character on the line. -/
def put (p : Page) (c : Char) : Page := { p with text := p.text.push c, column := p.column + 1 }

/-- Writes characters on the line. -/
def puts (p : Page) (cs : List Char) : Page := cs.foldl put p

/-- Writes a character that ends the line. -/
def putBreak (p : Page) (c : Char) : Page := { p with text := p.text.push c, column := 0 }

/-- Moves to a column, on a new line unless only indentation stands on this one. -/
def indent (p : Page) (level : Nat) : Page :=
  let p :=
    if !p.indenting || level < p.column || (p.column = level && !p.blank) then p.putBreak '\n'
    else p
  let p := p.puts (List.replicate (level - p.column) ' ')
  { p with blank := true, indenting := true }

/-- Writes a marker, after a blank if it needs one. -/
def mark (p : Page) (marker : List Char) (spaced blank indenting : Bool) : Page :=
  let p := if spaced && !p.blank then p.put ' ' else p
  { p.puts marker with blank, indenting := p.indenting && indenting }

/-- The pen stands after text. -/
def settle (p : Page) : Page := { p with blank := false, indenting := false }

end Page

/-! ## Texts -/

/-- The upper-case hexadecimal digits of a code point, to a width. -/
def hexDigits (width n : Nat) : List Char :=
  let ds := (Text.hex n).map Char.toUpper
  List.replicate (width - ds.length) '0' ++ ds

/-- One character between double quotes. -/
def escapeChar (c : Char) : List Char :=
  if isPrintable c && !isBreak c && c != '"' && c != '\\' then [c]
  else match c with
    | '\x00' => ['\\', '0']
    | '\x07' => ['\\', 'a']
    | '\x08' => ['\\', 'b']
    | '\t' => ['\\', 't']
    | '\n' => ['\\', 'n']
    | '\x0b' => ['\\', 'v']
    | '\x0c' => ['\\', 'f']
    | '\r' => ['\\', 'r']
    | '\x1b' => ['\\', 'e']
    | '"' => ['\\', '"']
    | '\\' => ['\\', '\\']
    | '\u0085' => ['\\', 'N']
    | '\u2028' => ['\\', 'L']
    | '\u2029' => ['\\', 'P']
    | c =>
      if c.toNat ≤ 0xFF then ['\\', 'x'] ++ hexDigits 2 c.toNat
      else if c.toNat ≤ 0xFFFF then ['\\', 'u'] ++ hexDigits 4 c.toNat
      else ['\\', 'U'] ++ hexDigits 8 c.toNat

/-- The characters of a text between single quotes. A line that follows a line end is indented. -/
def putSingle (level : Nat) (afterBreak : Bool) : List Char → Page → Page
  | [], p => if afterBreak then p.indent level else p
  | c :: rest, p =>
    if c = ' ' then putSingle level afterBreak rest (p.put ' ')
    else if isBreak c then
      putSingle level true rest { p.putBreak c with indenting := true }
    else
      let p := if afterBreak then p.indent level else p
      let written := if c = '\'' then [c, c] else [c]
      putSingle level false rest { p.puts written with indenting := false }

/-- The lines of a literal block. -/
def putLiteral (level : Nat) (afterBreak : Bool) : List Char → Page → Page
  | [], p => p
  | c :: rest, p =>
    if isBreak c then putLiteral level true rest { p.putBreak c with indenting := true }
    else
      let p := if afterBreak then p.indent level else p
      putLiteral level false rest { p.put c with indenting := false }

/-- The marks of a literal block: its indentation, if the text does not show it, and what becomes
of the line ends at its end. -/
def literalMarks (cs : List Char) : List Char :=
  let indentation := if cs.head?.any fun c => c = ' ' || isBreak c then ['2'] else []
  let chomping := match cs.reverse with
    | [] => ['-']
    | c :: rest =>
      if !isBreak c then ['-']
      else match rest with
        | [] => ['+']
        | d :: _ => if isBreak d then ['+'] else []
  indentation ++ chomping

/-- Writes a text. -/
def putText (level : Nat) (simpleKey : Bool) (s : String) (p : Page) : Page :=
  let cs := s.toList
  match Form.choose simpleKey s with
  | .bare => ((if p.blank then p else p.put ' ').puts cs).settle
  | .single =>
    let p := putSingle level false cs (p.mark ['\''] true false false)
    (p.mark ['\''] false false false).settle
  | .double =>
    (((p.mark ['"'] true false false).puts (cs.flatMap escapeChar)).mark ['"'] false false
      false).settle
  | .literal =>
    let p := (p.mark ['|'] true false false).mark (literalMarks cs) false false false
    let p := p.putBreak '\n'
    putLiteral level true cs { p with blank := true, indenting := true }

/-- Writes a word as it is. -/
def putWord (w : String) (p : Page) : Page :=
  ((if p.blank then p else p.put ' ').puts w.toList).settle

/-- The word of a number. -/
def doubleWord (d : Double) : String := if d.isFinite then d.toText false else ".nan"

/-- Whether a key fits on the line of its value. -/
def isSimpleKey (k : String) : Bool := !k.toList.any isBreak && k.utf8ByteSize ≤ 128

/-! ## Trees -/

/-- The level inside a container at `level`; the document itself has none. -/
def inner (level : Option Nat) : Nat :=
  match level with
  | none => 0
  | some n => n + 2

/-- The level of a text at `level`. -/
def textLevel (level : Option Nat) : Nat := (level.getD 0) + 2

mutual

/-- Writes a tree at a level; `inMap` says that it is a value of a map. -/
def putValue (level : Option Nat) (inMap : Bool) : Value → Page → Page
  | .null, p => putWord "null" p
  | .bool b, p => putWord (if b then "true" else "false") p
  | .int i, p => putWord (toString i) p
  | .double d, p => putWord (doubleWord d) p
  | .text s, p => putText (textLevel level) false s p
  | .list [], p => (p.mark ['['] true true false).mark [']'] false false false
  | .list items, p =>
    putItems (if inMap && !p.indenting then level.getD 0 else inner level) items p
  | .object [], p => (p.mark ['\x7b'] true true false).mark ['\x7d'] false false false
  | .object fields, p => putFields (inner level) fields p

/-- Writes the items of a list. -/
def putItems (level : Nat) : List Value → Page → Page
  | [], p => p
  | v :: rest, p =>
    let p := (p.indent level).mark ['-'] true false true
    putItems level rest (putValue (some level) false v p)

/-- Writes the fields of a map. -/
def putFields (level : Nat) : List (String × Value) → Page → Page
  | [], p => p
  | (k, v) :: rest, p =>
    let p := p.indent level
    let p :=
      if isSimpleKey k then (putText (level + 2) true k p).mark [':'] false false false
      else
        let p := putText (level + 2) false k (p.mark ['?'] true false true)
        (p.indent level).mark [':'] true false true
    putFields level rest (putValue (some level) true v p)

end

/-- A document. -/
def write (v : Value) : String := ((putValue none false v {}).indent 0).text

end Rollout.Yaml
