import Rollout.Document.Yaml.Character

/-!
# Places in a document

* `Cursor`: the text still to be read and the place where it starts.
* `Cursor.skip`, `Cursor.skipLine`: moves over a character, or over the end of a line.
-/

namespace Rollout.Yaml

/-- The text still to be read and the place where it starts. -/
structure Cursor where
  rest : List Char
  index : Nat := 0
  line : Nat := 0
  column : Nat := 0
  deriving Inhabited

namespace Cursor

/-- Moves over one character of the line. -/
def skip (c : Cursor) : Cursor :=
  match c.rest with
  | [] => c
  | _ :: rest => { c with rest, index := c.index + 1, column := c.column + 1 }

/-- Moves over some characters of the line. -/
def skipSome (c : Cursor) (n : Nat) : Cursor :=
  { c with rest := c.rest.drop n, index := c.index + n, column := c.column + n }

/-- Moves over characters of the line as long as they satisfy `p`. -/
def skipWhile (p : Char → Bool) (c : Cursor) : Cursor := c.skipSome (c.rest.takeWhile p).length

/-- Moves over the end of a line, if the cursor stands at one. -/
def skipLine (c : Cursor) : Cursor :=
  match c.rest with
  | '\r' :: '\n' :: rest => { rest, index := c.index + 2, line := c.line + 1, column := 0 }
  | b :: rest => if isBreak b then { rest, index := c.index + 1, line := c.line + 1 } else c
  | [] => c

/-- What the end of a line adds to a text. -/
def lineText (c : Cursor) : List Char :=
  match c.rest with
  | b :: _ => if b = '\u2028' || b = '\u2029' then [b] else if isBreak b then ['\n'] else []
  | [] => []

/-- Whether the next character is the given one. -/
def sees (c : Cursor) (x : Char) : Bool := c.rest.head? == some x

/-- Whether the next character satisfies `p`. -/
def seesA (c : Cursor) (p : Char → Bool) : Bool := c.rest.head?.any p

/-- Whether a word ends a few places on. -/
def endsAt (c : Cursor) (n : Nat) : Bool := startsBlank (c.rest.drop n)

/-- Whether the line ends here. -/
def lineEnds (c : Cursor) : Bool := c.rest.isEmpty || c.seesA isBreak

/-- Whether the document ends. -/
def atEnd (c : Cursor) : Bool := c.rest.isEmpty

/-- Whether the cursor stands at a line between two documents. -/
def atDocumentMark (c : Cursor) : Bool := c.column = 0 && startsDocument c.rest && c.endsAt 3

/-- Moves over blanks and a comment to the end of the line. -/
def skipComment (c : Cursor) : Cursor :=
  let c := c.skipWhile isBlank
  if c.sees '#' then c.skipWhile (!isBreak ·) else c

end Cursor

end Rollout.Yaml
