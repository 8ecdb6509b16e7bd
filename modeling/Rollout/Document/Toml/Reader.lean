import Rollout.Document.Toml.Scalar

/-!
# Reading TOML

* `Toml.Item`: what stands under a key.
* `Toml.read?`: the entries of a document, if it follows the notation.
-/

namespace Rollout.Toml

/-- What stands under a key. -/
inductive Item where
  | text (s : String)
  /-- A number, truth value or date. -/
  | scalar
  | list (items : List Item)
  /-- A table between braces, which nothing can extend. -/
  | inline (entries : List (String × Item))
  /-- A table; an implied one was only named on the way to another, a dotted one was made by a key
  with dots. -/
  | table (implied dotted : Bool) (entries : List (String × Item))
  /-- Tables under one name, the last one first. -/
  | tables (all : List (List (String × Item)))
  deriving Inhabited

/-- Items by name. -/
abbrev Entries := List (String × Item)

/-! ## Entries by path -/

/-- Replaces the item under a name, or adds it. -/
def setItem (name : String) (item : Item) : Entries → Entries
  | [] => [(name, item)]
  | e :: rest => if e.1 = name then (name, item) :: rest else e :: setItem name item rest

/-- Changes the table at a path; tables on the way that do not exist are implied. A key with dots
may not enter a table that has a header, nor end in one that only headers made. -/
def changeAt (dotted : Bool) (change : Entries → Option Entries) :
    (path : List String) → Entries → Option Entries
  | [], es => change es
  | name :: path, es => do
    match es.lookup name with
    | none =>
      let inner ← changeAt dotted change path []
      return setItem name (.table true dotted inner) es
    | some (.table implied made inner) =>
      if dotted && (!implied || (path.isEmpty && !made)) then none
      let inner ← changeAt dotted change path inner
      return setItem name (.table implied made inner) es
    | some (.tables (last :: before)) =>
      if dotted then none
      let inner ← changeAt dotted change path last
      return setItem name (.tables (inner :: before)) es
    | some _ => none

/-- Adds an item under a name that is free. -/
def addItem (name : String) (item : Item) (es : Entries) : Option Entries :=
  match es.lookup name with
  | some _ => none
  | none => some (setItem name item es)

/-- Adds an item under a key, whose dots lead through tables. -/
def addAt (key : List String) (item : Item) (es : Entries) : Option Entries :=
  match key.getLast? with
  | none => none
  | some name => changeAt true (addItem name item) key.dropLast es

/-- Opens the table of a header. -/
def openTable (key : List String) (es : Entries) : Option Entries :=
  match key.getLast? with
  | none => none
  | some name => changeAt false (fun inner =>
      match inner.lookup name with
      | none => some (setItem name (.table false false []) inner)
      | some (.table true false entries) => some (setItem name (.table false false entries) inner)
      | some _ => none) key.dropLast es

/-- Opens one more table under the name of a header. -/
def openTables (key : List String) (es : Entries) : Option Entries :=
  match key.getLast? with
  | none => none
  | some name => changeAt false (fun inner =>
      match inner.lookup name with
      | none => some (setItem name (.tables [[]]) inner)
      | some (.tables all) => some (setItem name (.tables ([] :: all)) inner)
      | some _ => none) key.dropLast es

/-! ## Characters -/

/-- Spaces and tabs. -/
def isBlank (c : Char) : Bool := c = ' ' || c = '\t'

/-- Characters that strings and comments may hold. -/
def isAllowed (c : Char) : Bool := c = '\t' || (32 ≤ c.toNat && c.toNat != 127)

/-- Characters of a key without quotes. -/
def isKeyChar (c : Char) : Bool := c.isAlphanum || c = '_' || c = '-'

/-- Drops spaces and tabs. -/
def skipBlanks (cs : List Char) : List Char := cs.dropWhile isBlank

/-- Drops the end of a line. -/
def skipNewline? : List Char → Option (List Char)
  | '\n' :: cs => some cs
  | '\r' :: '\n' :: cs => some cs
  | _ => none

/-- Drops a comment, if one stands here. -/
def skipComment : List Char → List Char
  | '#' :: cs => cs.dropWhile isAllowed
  | cs => cs

/-- Drops blanks, comments and line ends. -/
def skipLines : (fuel : Nat) → List Char → List Char
  | 0, cs => cs
  | fuel + 1, cs =>
    let cs := skipBlanks cs
    match skipNewline? (skipComment cs) with
    | some rest => skipLines fuel rest
    | none => cs

/-! ## Strings -/

/-- The character of an escape and the rest. -/
def readEscape? (cs : List Char) : Option (Char × List Char) :=
  let codePoint (width : Nat) (rest : List Char) : Option (Char × List Char) := do
    if rest.length < width then none
    let n ← (rest.take width).foldlM (fun n d => (Json.hexDigit? d).map (16 * n + ·)) 0
    if (0xD800 ≤ n && n < 0xE000) || 0x10FFFF < n then none
    return (Char.ofNat n, rest.drop width)
  match cs with
  | 'b' :: rest => some ('\x08', rest)
  | 't' :: rest => some ('\t', rest)
  | 'n' :: rest => some ('\n', rest)
  | 'f' :: rest => some ('\x0c', rest)
  | 'r' :: rest => some ('\r', rest)
  | '"' :: rest => some ('"', rest)
  | '\\' :: rest => some ('\\', rest)
  | 'u' :: rest => codePoint 4 rest
  | 'U' :: rest => codePoint 8 rest
  | _ => none

/-- A string on one line after its opening quote; only double quotes know escapes. -/
def readLine? (quote : Char) : (fuel : Nat) → List Char → Option (List Char × List Char)
  | 0, _ => none
  | fuel + 1, cs =>
    match cs with
    | [] => none
    | c :: rest =>
      if c = quote then some ([], rest)
      else if c = '\\' && quote = '"' then do
        let (x, rest) ← readEscape? rest
        let (s, rest) ← readLine? quote fuel rest
        return (x :: s, rest)
      else if isAllowed c then do
        let (s, rest) ← readLine? quote fuel rest
        return (c :: s, rest)
      else none

/-- The number of quotes at the start, at most five. -/
def quoteRun (quote : Char) (cs : List Char) : Nat := ((cs.take 5).takeWhile (· = quote)).length

/-- Drops blanks and line ends after a backslash at the end of a line. -/
def skipFolded? (cs : List Char) : Option (List Char) := do
  let cs ← skipNewline? (skipBlanks cs)
  return cs.dropWhile fun c => isBlank c || c = '\n' || c = '\r'

/-- A string over several lines after its three opening quotes. -/
def readLines? (quote : Char) : (fuel : Nat) → List Char → Option (List Char × List Char)
  | 0, _ => none
  | fuel + 1, cs =>
    let quotes := quoteRun quote cs
    if 3 ≤ quotes then
      some (List.replicate (quotes - 3) quote, cs.drop quotes)
    else match skipNewline? cs with
      | some rest => do
        let (s, rest) ← readLines? quote fuel rest
        return ('\n' :: s, rest)
      | none =>
        match cs with
        | [] => none
        | c :: rest =>
          if c = '\\' && quote = '"' then
            match skipFolded? rest with
            | some rest => readLines? quote fuel rest
            | none => do
              let (x, rest) ← readEscape? rest
              let (s, rest) ← readLines? quote fuel rest
              return (x :: s, rest)
          else if isAllowed c then do
            let (s, rest) ← readLines? quote fuel rest
            return (c :: s, rest)
          else none

/-- A string from its opening quotes on. -/
def readString? (quote : Char) (cs : List Char) : Option (String × List Char) := do
  let fuel := cs.length + 1
  let (s, rest) ←
    if 3 ≤ quoteRun quote cs then
      let cs := cs.drop 3
      readLines? quote fuel ((skipNewline? cs).getD cs)
    else readLine? quote fuel (cs.drop 1)
  return (String.ofList s, rest)

/-! ## Keys -/

/-- One name of a key. -/
def readName? (cs : List Char) : Option (String × List Char) :=
  match cs with
  | '"' :: rest | '\'' :: rest => do
    let (s, rest) ← readLine? (cs.headD '"') (cs.length + 1) rest
    return (String.ofList s, rest)
  | cs =>
    let name := cs.takeWhile isKeyChar
    if name.isEmpty then none else some (String.ofList name, cs.drop name.length)

/-- How deep values nest, and the most names that a key has. -/
def maxDepth : Nat := 79

/-- Names with dots between them, and the rest after blanks. -/
def readNames? : (room : Nat) → List Char → Option (List String × List Char)
  | 0, _ => none
  | room + 1, cs => do
    let (name, rest) ← readName? (skipBlanks cs)
    match skipBlanks rest with
    | '.' :: rest =>
      let (names, rest) ← readNames? room rest
      return (name :: names, rest)
    | rest => return ([name], rest)

/-- A key and the rest after it and blanks. -/
def readKey? (cs : List Char) : Option (List String × List Char) := readNames? maxDepth cs

/-! ## Values -/

/-- Characters of a value without quotes or brackets. -/
def isWordChar (c : Char) : Bool := c.isAlphanum || c ∈ ['+', '-', '_', '.', ':']

/-- A value without quotes or brackets; one blank may stand between a date and a time. -/
def readWord? (cs : List Char) : Option (Item × List Char) :=
  let word := cs.takeWhile isWordChar
  let rest := cs.drop word.length
  match rest with
  | ' ' :: d :: more =>
    if isDate word && d.isDigit then
      let time := (d :: more).takeWhile isWordChar
      if isScalar (word ++ ' ' :: time) then some (.scalar, (d :: more).drop time.length) else none
    else if isScalar word then some (.scalar, rest)
    else none
  | _ => if isScalar word then some (.scalar, rest) else none

mutual

/-- A value. Lists and tables may nest `room` deep in it; the fuel bounds the characters that can
still be read. -/
def readValue? (fuel room : Nat) (cs : List Char) : Option (Item × List Char) :=
  match fuel with
  | 0 => none
  | fuel + 1 =>
    match cs, room with
    | '"' :: _, _ => (readString? '"' cs).map fun (s, rest) => (.text s, rest)
    | '\'' :: _, _ => (readString? '\'' cs).map fun (s, rest) => (.text s, rest)
    | '[' :: _, 0 | '\x7b' :: _, 0 => none
    | '[' :: rest, room + 1 => do
      let (items, rest) ← readList? fuel room rest
      return (.list items, rest)
    | '\x7b' :: rest, room + 1 =>
      match skipBlanks rest with
      | '\x7d' :: rest => some (.inline [], rest)
      | rest => do
        let (entries, rest) ← readInline? fuel room [] rest
        return (.inline entries, rest)
    | cs, _ => readWord? cs

/-- The items of a list; a comma may follow the last one. -/
def readList? (fuel room : Nat) (cs : List Char) : Option (List Item × List Char) :=
  match fuel with
  | 0 => none
  | fuel + 1 =>
    match skipLines (cs.length + 1) cs with
    | ']' :: rest => some ([], rest)
    | cs => do
      let (item, rest) ← readValue? fuel room cs
      match skipLines (rest.length + 1) rest with
      | ',' :: rest =>
        let (items, rest) ← readList? fuel room rest
        return (item :: items, rest)
      | ']' :: rest => return ([item], rest)
      | _ => none

/-- The entries of a table between braces, added to those before. -/
def readInline? (fuel room : Nat) (before : Entries) (cs : List Char) :
    Option (Entries × List Char) :=
  match fuel with
  | 0 => none
  | fuel + 1 => do
    let (key, rest) ← readKey? cs
    match rest with
    | '=' :: rest =>
      let (item, rest) ← readValue? fuel room (skipBlanks rest)
      let entries ← addAt key item before
      match skipBlanks rest with
      | ',' :: rest => readInline? fuel room entries rest
      | '\x7d' :: rest => return (entries, rest)
      | _ => none
    | _ => none

end

/-! ## Documents -/

/-- The rest after the end of a line, which only blanks and a comment may delay. -/
def finishLine? (cs : List Char) : Option (List Char) :=
  match skipComment (skipBlanks cs) with
  | [] => some []
  | cs => skipNewline? cs

/-- Adds an entry to the table at a place. -/
def addHere (here key : List String) (item : Item) (es : Entries) : Option Entries :=
  changeAt false (addAt key item) here es

/-- The entries of a document from a line on, added to those before. -/
def readFrom? : (fuel : Nat) → (here : List String) → Entries → List Char → Option Entries
  | 0, _, _, _ => none
  | fuel + 1, here, es, cs =>
    match skipLines (cs.length + 1) cs with
    | [] => some es
    | '#' :: cs => if (skipComment ('#' :: cs)).isEmpty then some es else none
    | '[' :: '[' :: cs => do
      let (key, rest) ← readKey? cs
      match rest with
      | ']' :: ']' :: rest => readFrom? fuel key (← openTables key es) (← finishLine? rest)
      | _ => none
    | '[' :: cs => do
      let (key, rest) ← readKey? cs
      match rest with
      | ']' :: rest => readFrom? fuel key (← openTable key es) (← finishLine? rest)
      | _ => none
    | cs => do
      let (key, rest) ← readKey? cs
      match rest with
      | '=' :: rest =>
        let (item, rest) ← readValue? (rest.length + 1) maxDepth (skipBlanks rest)
        readFrom? fuel here (← addHere here key item es) (← finishLine? rest)
      | _ => none

/-- The entries of a document, if it follows the notation. -/
def read? (text : String) : Option Entries :=
  let cs := text.toList
  let cs := if cs.head? = some '\ufeff' then cs.drop 1 else cs
  readFrom? (cs.length + 1) [] [] cs

end Rollout.Toml
