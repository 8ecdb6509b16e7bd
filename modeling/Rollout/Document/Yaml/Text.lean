import Rollout.Document.Json.Reader
import Rollout.Document.Yaml.Cursor

/-!
# Texts of a document

Bare words, quoted texts and blocks, whose lines may be folded.

* `readBare`, `readQuoted`, `readBlock`: the text and the place after it.
* `Folding`: a text with the blanks and line ends that may still become part of it.
-/

namespace Rollout.Yaml

/-! ## Folding -/

/-- A text with the blanks and line ends behind it, all with the last character first. -/
structure Folding where
  text : List Char := []
  blanks : List Char := []
  /-- The first line end. -/
  firstBreak : List Char := []
  /-- The line ends after the first. -/
  moreBreaks : List Char := []
  /-- Whether a line has ended. -/
  broken : Bool := false

namespace Folding

/-- Takes the blanks and line ends into the text: one line end becomes a space. -/
def join (f : Folding) : Folding :=
  let gap :=
    if !f.broken then f.blanks
    else if f.firstBreak = ['\n'] then (if f.moreBreaks.isEmpty then [' '] else f.moreBreaks)
    else f.moreBreaks ++ f.firstBreak
  { text := gap ++ f.text }

/-- Adds a character after the blanks. -/
def push (f : Folding) (c : Char) : Folding := { f.join with text := c :: f.join.text }

/-- The text. -/
def toText (f : Folding) : String := String.ofList f.text.reverse

end Folding

/-- Moves over blanks and line ends, which are kept aside. A tab left of `margin` is refused. -/
def readBlanks (margin : Nat) : (fuel : Nat) → Cursor → Folding → Option (Cursor × Folding)
  | 0, c, f => some (c, f)
  | fuel + 1, c, f =>
    match c.rest with
    | [] => some (c, f)
    | b :: _ =>
      if isBlank b then
        if f.broken && c.column < margin && b = '\t' then none
        else if f.broken then readBlanks margin fuel c.skip f
        else readBlanks margin fuel c.skip { f with blanks := b :: f.blanks }
      else if isBreak b then
        if f.broken then
          readBlanks margin fuel c.skipLine { f with moreBreaks := c.lineText ++ f.moreBreaks }
        else
          readBlanks margin fuel c.skipLine
            { f with blanks := [], firstBreak := c.lineText, broken := true }
      else some (c, f)

/-! ## Bare words -/

/-- The marks of collections between brackets. -/
def bracketMarks : List Char := [',', '[', ']', '\x7b', '\x7d']

/-- A run of characters without blanks; inside brackets their marks end it. -/
def readBareRun (inBrackets : Bool) :
    (fuel : Nat) → Cursor → Folding → Option (Cursor × Folding)
  | 0, c, f => some (c, f)
  | fuel + 1, c, f =>
    match c.rest with
    | [] => some (c, f)
    | x :: rest =>
      if startsBlank c.rest then some (c, f)
      else if inBrackets && x = ':' && (rest.head?.any fun y => y = '?' || y ∈ bracketMarks) then
        none
      else if (x = ':' && startsBlank rest) || (inBrackets && x ∈ bracketMarks) then some (c, f)
      else readBareRun inBrackets fuel c.skip (f.push x)

/-- A bare word over as many lines as are indented to `margin`. -/
def readBareLines (inBrackets : Bool) (margin : Nat) :
    (fuel : Nat) → Cursor → Folding → Option (Cursor × Folding)
  | 0, c, f => some (c, f)
  | fuel + 1, c, f => do
    if c.atDocumentMark || c.sees '#' then return (c, f)
    let (c, f) ← readBareRun inBrackets (c.rest.length + 1) c f
    if !(c.seesA fun x => isBlank x || isBreak x) then return (c, f)
    let (c, f) ← readBlanks margin (c.rest.length + 1) c f
    if !inBrackets && c.column < margin then return (c, f)
    readBareLines inBrackets margin fuel c f

/-- A bare word: the place after it, its text, and whether a line has ended behind it. -/
def readBare (inBrackets : Bool) (margin : Nat) (c : Cursor) : Option (Cursor × String × Bool) := do
  let (c, f) ← readBareLines inBrackets margin (c.rest.length + 1) c {}
  return (c, f.toText, f.broken)

/-! ## Quoted texts -/

/-- The character of a one-letter escape. -/
def shortEscape? (c : Char) : Option Char :=
  match c with
  | '0' => some '\x00'
  | 'a' => some '\x07'
  | 'b' => some '\x08'
  | 't' | '\t' => some '\t'
  | 'n' => some '\n'
  | 'v' => some '\x0b'
  | 'f' => some '\x0c'
  | 'r' => some '\r'
  | 'e' => some '\x1b'
  | ' ' | '"' | '/' | '\\' => some c
  | 'N' => some '\u0085'
  | '_' => some '\u00a0'
  | 'L' => some '\u2028'
  | 'P' => some '\u2029'
  | _ => none

/-- The number of digits after a letter that announces a code point. -/
def escapeWidth? (c : Char) : Option Nat :=
  match c with
  | 'x' => some 2
  | 'u' => some 4
  | 'U' => some 8
  | _ => none

/-- The character of a code point in hexadecimal digits. -/
def codePoint? (width : Nat) (ds : List Char) : Option Char := do
  if ds.length < width then none
  let n ← ds.foldlM (fun n d => (Json.hexDigit? d).map (16 * n + ·)) 0
  if (0xD800 ≤ n && n < 0xE000) || 0x10FFFF < n then none
  return Char.ofNat n

/-- A run of characters up to a blank, a line end, the closing quote or an escaped line end. -/
def readQuotedRun (quote : Char) :
    (fuel : Nat) → Cursor → Folding → Option (Cursor × Folding)
  | 0, c, f => some (c, f)
  | fuel + 1, c, f =>
    if startsBlank c.rest then some (c, f)
    else match c.rest with
      | [] => some (c, f)
      | x :: rest =>
        if quote = '\'' && x = '\'' && rest.head? = some '\'' then
          readQuotedRun quote fuel (c.skipSome 2) { f with text := '\'' :: f.text }
        else if x = quote then some (c, f)
        else if quote = '"' && x = '\\' then
          match rest with
          | [] => none
          | e :: rest =>
            if isBreak e then some (c.skip.skipLine, { f with broken := true })
            else match shortEscape? e, escapeWidth? e with
              | some y, _ => readQuotedRun quote fuel (c.skipSome 2) { f with text := y :: f.text }
              | none, some w =>
                match codePoint? w (rest.take w) with
                | some y =>
                  readQuotedRun quote fuel (c.skipSome (2 + w)) { f with text := y :: f.text }
                | none => none
              | none, none => none
        else readQuotedRun quote fuel c.skip { f with text := x :: f.text }

/-- A quoted text up to its closing quote. -/
def readQuotedLines (quote : Char) : (fuel : Nat) → Cursor → Folding → Option (Cursor × Folding)
  | 0, _, _ => none
  | fuel + 1, c, f => do
    if c.atDocumentMark || c.atEnd then none
    let (c, f) ← readQuotedRun quote (c.rest.length + 1) c f
    if c.sees quote then return (c.skip, f)
    let (c, f) ← readBlanks 0 (c.rest.length + 1) c f
    readQuotedLines quote fuel c f.join

/-- A quoted text from its opening quote on: the place after it and its text. -/
def readQuoted (quote : Char) (c : Cursor) : Option (Cursor × String) := do
  let (c, f) ← readQuotedLines quote (c.rest.length + 1) c.skip {}
  return (c, f.toText)

/-! ## Blocks -/

/-- What becomes of the line ends at the end of a block. -/
inductive Chomping where
  | strip
  | clip
  | keep
  deriving DecidableEq

/-- The chomping that a character asks for. -/
def chomping? (c : Option Char) : Option Chomping :=
  match c with
  | some '+' => some .keep
  | some '-' => some .strip
  | _ => none

/-- The indentation that a character asks for; a zero is refused. -/
def indentation? (c : Option Char) : Option (Option Nat) :=
  match c with
  | some c => if c = '0' then none else some (if c.isDigit then some (c.toNat - 48) else none)
  | none => some none

/-- The marks in the first line of a block, in either order. -/
def readBlockMarks (c : Cursor) : Option (Cursor × Chomping × Option Nat) := do
  match chomping? c.rest.head? with
  | some ch =>
    let c := c.skip
    match ← indentation? c.rest.head? with
    | some n => return (c.skip, ch, some n)
    | none => return (c, ch, none)
  | none =>
    match ← indentation? c.rest.head? with
    | some n =>
      let c := c.skip
      match chomping? c.rest.head? with
      | some ch => return (c.skip, ch, some n)
      | none => return (c, .clip, some n)
    | none => return (c, .clip, none)

/-- Blank lines of a block and the indentation of the line after them. While the block's
indentation is not known, `widest` is the widest seen. -/
structure BlockBreaks where
  cursor : Cursor
  breaks : List Char
  widest : Nat

/-- Moves over blank lines up to the indentation of a block. -/
def readBlockBreaks (indent : Option Nat) :
    (fuel : Nat) → BlockBreaks → Option BlockBreaks
  | 0, b => some b
  | fuel + 1, b =>
    let within (column : Nat) : Bool := indent.all (column < ·)
    let room := match indent with
      | some n => n - b.cursor.column
      | none => b.cursor.rest.length
    let spaces := ((b.cursor.rest.take room).takeWhile (· = ' ')).length
    let c := b.cursor.skipSome spaces
    let b := { b with cursor := c, widest := max b.widest c.column }
    if within c.column && c.sees '\t' then none
    else if c.seesA isBreak then
      readBlockBreaks indent fuel
        { b with cursor := c.skipLine, breaks := c.lineText ++ b.breaks }
    else some b

/-- The lines of a block from the next one on. `text` and `breaks` have the last character first,
`lead` is the end of the line before, `blank` tells whether that line started with a blank. -/
def readBlockLines (folded : Bool) (indent : Nat) :
    (fuel : Nat) → Cursor → (text lead breaks : List Char) → (blank : Bool) →
      Option (Cursor × List Char × List Char × List Char)
  | 0, c, text, lead, breaks, _ => some (c, text, lead, breaks)
  | fuel + 1, c, text, lead, breaks, blank => do
    if c.column != indent || c.atEnd then return (c, text, lead, breaks)
    let starts := c.seesA isBlank
    let lead :=
      if folded && lead = ['\n'] && !blank && !starts then
        (if breaks.isEmpty then [' '] else [])
      else lead
    let line := c.rest.takeWhile (!isBreak ·)
    let text := line.reverse ++ breaks ++ lead ++ text
    let c := c.skipSome line.length
    let b ← readBlockBreaks (some indent) (c.rest.length + 1) ⟨c.skipLine, [], 0⟩
    readBlockLines folded indent fuel b.cursor text c.lineText b.breaks starts

/-- A block from its mark on, inside a part indented by `parent` columns, if any: the place after
it and its text. -/
def readBlock (folded : Bool) (parent : Option Nat) (c : Cursor) : Option (Cursor × String) := do
  let (c, chomping, asked) ← readBlockMarks c.skip
  let c := c.skipComment
  if !c.lineEnds then none
  let asked := asked.map (parent.getD 0 + ·)
  let b ← readBlockBreaks asked (c.rest.length + 1) ⟨c.skipLine, [], 0⟩
  let least := match parent with
    | some n => n + 1
    | none => 1
  let indent := asked.getD (max b.widest least)
  let (c, text, lead, breaks) ←
    readBlockLines folded indent (b.cursor.rest.length + 1) b.cursor [] [] b.breaks false
  let text := if chomping = .strip then text else lead ++ text
  let text := if chomping = .keep then breaks ++ text else text
  return (c, String.ofList text.reverse)

end Rollout.Yaml
