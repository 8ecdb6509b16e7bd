import Rollout.Document.Yaml.Text

/-!
# Tokens of a document

* `Token`: texts and the marks of structure; indentation becomes marks of its own.
* `tokens`: the tokens of a document, which end with `Token.finish` or with `Token.fault`.
* `Lexer`: the place, the open collections and the keys that may still turn out to be ones.
-/

namespace Rollout.Yaml

/-- A part of a document. -/
inductive Token where
  | documentStart
  | documentEnd
  /-- The line that gives the version of the notation. -/
  | version
  | sequenceStart
  | mappingStart
  /-- Indentation ends a sequence or a mapping. -/
  | blockEnd
  | bracket
  | closeBracket
  | brace
  | closeBrace
  | comma
  | dash
  | key
  | value
  | bare (s : String)
  | text (s : String)
  | finish
  | fault
  deriving DecidableEq, Inhabited

/-- A token that is a key, if a colon follows it on its line. -/
structure PossibleKey where
  /-- A key must stand here. -/
  required : Bool
  /-- The number of tokens before it. -/
  number : Nat
  index : Nat
  line : Nat
  column : Nat

/-- How far a document has been cut into tokens. -/
structure Lexer where
  place : Cursor
  /-- The tokens so far, the last one first. -/
  tokens : List Token := []
  /-- The columns of the open block collections, the innermost first. -/
  indents : List Nat := []
  /-- The possible key of each open bracket, the innermost first, and of the block around. -/
  keys : List (Option PossibleKey) := [none]
  keyAllowed : Bool := true

namespace Lexer

/-- Whether a bracket is open. -/
def inBrackets (x : Lexer) : Bool := 1 < x.keys.length

/-- Adds a token. -/
def add (x : Lexer) (t : Token) : Lexer := { x with tokens := t :: x.tokens }

/-- Adds a token before all but the first `number` ones. -/
def insert (x : Lexer) (number : Nat) (t : Token) : Lexer :=
  let after := x.tokens.length - number
  { x with tokens := x.tokens.take after ++ t :: x.tokens.drop after }

/-! ## Indentation -/

/-- Whether a column lies to the right of the innermost block. -/
def isDeeper (x : Lexer) (column : Nat) : Bool := x.indents.head?.all (· < column)

/-- Opens a block at a column, unless one is open there. -/
def openBlock (x : Lexer) (column : Nat) (number : Option Nat) (t : Token) : Lexer :=
  if x.inBrackets || !x.isDeeper column then x
  else
    let x := match number with
      | some n => x.insert n t
      | none => x.add t
    { x with indents := column :: x.indents }

/-- Closes the blocks that stand to the right of a column; without a column, all of them. -/
def closeBlocks (x : Lexer) (column : Option Nat) : Lexer :=
  if x.inBrackets then x
  else
    let closed := x.indents.takeWhile fun i => column.all (· < i)
    { x with
      tokens := closed.map (fun _ => .blockEnd) ++ x.tokens
      indents := x.indents.drop closed.length }

/-! ## Keys -/

/-- Gives up the innermost possible key. -/
def dropKey (x : Lexer) : Option Lexer :=
  match x.keys with
  | some k :: rest => if k.required then none else some { x with keys := none :: rest }
  | _ => some x

/-- Notes that the next token may be a key. -/
def noteKey (x : Lexer) : Option Lexer :=
  if !x.keyAllowed then some x
  else do
    let c := x.place
    let required := !x.inBrackets && x.indents.head? = some c.column
    let x ← x.dropKey
    return { x with
      keys := some ⟨required, x.tokens.length, c.index, c.line, c.column⟩ :: x.keys.drop 1 }

/-- Whether a possible key lies on an earlier line or too far back. -/
def isStale (c : Cursor) (k : PossibleKey) : Bool := k.line < c.line || k.index + 1024 < c.index

/-- Gives up the possible keys that can be none any more. -/
def dropStale (x : Lexer) : Option Lexer :=
  if x.keys.any fun k => k.any fun k => isStale x.place k && k.required then none
  else some { x with keys := x.keys.map fun k => k.filter fun k => !isStale x.place k }

/-! ## Steps -/

/-- Moves over blanks, comments and line ends. -/
def skipBlanks : (fuel : Nat) → Lexer → Lexer
  | 0, x => x
  | fuel + 1, x =>
    let c := if x.place.index = 0 && x.place.sees '\ufeff' then x.place.skip else x.place
    let c := c.skipWhile fun b => b = ' ' || (b = '\t' && (x.inBrackets || !x.keyAllowed))
    let c := if c.sees '#' then c.skipWhile (!isBreak ·) else c
    if c.seesA isBreak then
      skipBlanks fuel { x with place := c.skipLine, keyAllowed := x.keyAllowed || !x.inBrackets }
    else { x with place := c }

/-- Adds the token of a mark and moves over it. -/
def mark (x : Lexer) (width : Nat) (t : Token) : Lexer :=
  { x.add t with place := x.place.skipSome width }

/-- The line that gives the version of the notation. -/
def version (x : Lexer) : Option Lexer := do
  let x ← (x.closeBlocks none).dropKey
  let c := x.place
  if c.rest.take 5 != ['%', 'Y', 'A', 'M', 'L'] then none
  let c := c.skipSome 5
  if !(c.seesA isBlank) then none
  let c := c.skipWhile isBlank
  if c.rest.take 3 != ['1', '.', '1'] && c.rest.take 3 != ['1', '.', '2'] then none
  let c := (c.skipSome 3).skipComment
  if !c.lineEnds then none
  return { x.add .version with place := c.skipLine, keyAllowed := false }

/-- The line between two documents. -/
def documentMark (x : Lexer) (t : Token) : Option Lexer := do
  let x ← (x.closeBlocks none).dropKey
  return { x.mark 3 t with keyAllowed := false }

/-- An opening bracket or brace. -/
def openBracket (x : Lexer) (t : Token) : Option Lexer := do
  let x ← x.noteKey
  return { x.mark 1 t with keys := none :: x.keys, keyAllowed := true }

/-- A closing bracket or brace. -/
def closeBracket (x : Lexer) (t : Token) : Option Lexer := do
  let x ← x.dropKey
  let keys := if x.inBrackets then x.keys.drop 1 else x.keys
  return { x.mark 1 t with keys, keyAllowed := false }

/-- A comma between brackets. -/
def comma (x : Lexer) : Option Lexer := do
  let x ← x.dropKey
  return { x.mark 1 .comma with keyAllowed := true }

/-- The dash before an item. -/
def dash (x : Lexer) : Option Lexer := do
  if !x.inBrackets && !x.keyAllowed then none
  let x ← (x.openBlock x.place.column none .sequenceStart).dropKey
  return { x.mark 1 .dash with keyAllowed := true }

/-- The question mark before a key. -/
def question (x : Lexer) : Option Lexer := do
  if !x.inBrackets && !x.keyAllowed then none
  let x ← (x.openBlock x.place.column none .mappingStart).dropKey
  return { x.mark 1 .key with keyAllowed := !x.inBrackets }

/-- The colon before a value. What stands before it on the line turns out to be a key. -/
def colon (x : Lexer) : Option Lexer :=
  match x.keys.head?.join with
  | some k =>
    let x := (x.insert k.number .key).openBlock k.column (some k.number) .mappingStart
    some { x.mark 1 .value with keys := none :: x.keys.drop 1, keyAllowed := false }
  | none => do
    if !x.inBrackets && !x.keyAllowed then none
    let x := x.openBlock x.place.column none .mappingStart
    return { x.mark 1 .value with keyAllowed := !x.inBrackets }

/-- A literal or folded block. -/
def block (x : Lexer) (folded : Bool) : Option Lexer := do
  let x ← x.dropKey
  let (c, s) ← readBlock folded x.indents.head? x.place
  return { x.add (.text s) with place := c, keyAllowed := true }

/-- A quoted text. -/
def quoted (x : Lexer) (quote : Char) : Option Lexer := do
  let x ← x.noteKey
  let (c, s) ← readQuoted quote x.place
  return { x.add (.text s) with place := c, keyAllowed := false }

/-- A bare word. -/
def bare (x : Lexer) : Option Lexer := do
  let x ← x.noteKey
  let margin := match x.indents.head? with
    | some n => n + 1
    | none => 0
  let (c, s, broken) ← readBare x.inBrackets margin x.place
  return { x.add (.bare s) with place := c, keyAllowed := broken }

/-- The characters that start no bare word. -/
def marks : List Char :=
  ['-', '?', ':', ',', '[', ']', '\x7b', '\x7d', '#', '&', '*', '!', '|', '>', '\'', '"', '%', '@',
    '`']

/-- Whether a bare word starts here. -/
def startsBare (x : Lexer) : Bool :=
  match x.place.rest with
  | [] => false
  | c :: rest =>
    (!startsBlank (c :: rest) && !marks.contains c)
      || (c = '-' && !rest.head?.any isBlank)
      || (!x.inBrackets && (c = '?' || c = ':') && !startsBlank rest)

/-- The next token, after blanks; `none` at a fault. -/
def next (x : Lexer) : Option Lexer := do
  let x ← x.dropStale
  let x := x.closeBlocks (some x.place.column)
  let c := x.place
  if c.column = 0 && c.sees '%' then x.version
  else if c.atDocumentMark then
    x.documentMark (if c.sees '-' then .documentStart else .documentEnd)
  else match c.rest with
    | '[' :: _ => x.openBracket .bracket
    | '\x7b' :: _ => x.openBracket .brace
    | ']' :: _ => x.closeBracket .closeBracket
    | '\x7d' :: _ => x.closeBracket .closeBrace
    | ',' :: _ => x.comma
    | m :: rest =>
      if m = '-' && startsBlank rest then x.dash
      else if m = '?' && (x.inBrackets || startsBlank rest) then x.question
      else if m = ':' && (x.inBrackets || startsBlank rest) then x.colon
      else if m = '|' && !x.inBrackets then x.block false
      else if m = '>' && !x.inBrackets then x.block true
      else if m = '\'' || m = '"' then x.quoted m
      else if x.startsBare then x.bare
      else none
    | [] => none

/-- The last token. -/
def finish (x : Lexer) : Option Lexer := do
  let x ← x.dropStale
  let x ← (x.closeBlocks none).dropKey
  return x.add .finish

/-- The tokens up to the first possible key, then a fault: what lies behind was read ahead. -/
def faulty (x : Lexer) : List Token :=
  let known := x.keys.foldl (fun n k => match k with
    | some k => min n k.number
    | none => n) x.tokens.length
  x.tokens.reverse.take known ++ [.fault]

/-- The tokens from here on; each takes at least one character. -/
def run : (fuel : Nat) → Lexer → List Token
  | 0, x => x.faulty
  | fuel + 1, x =>
    let x := x.skipBlanks (x.place.rest.length + 1)
    if x.place.atEnd then
      match x.finish with
      | some y => y.tokens.reverse
      | none => x.faulty
    else match x.next with
      | some y => run fuel y
      | none => x.faulty

end Lexer

/-- The tokens of a document; characters that no document may hold are a fault at once. -/
def tokens (cs : List Char) : List Token :=
  if cs.all isAllowed then Lexer.run (cs.length + 1) { place := { rest := cs } } else [.fault]

end Rollout.Yaml
