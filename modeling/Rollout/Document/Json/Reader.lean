import Rollout.Document.Node

/-!
# Reading JSON

From text to source tree, without lookahead: the tree ends at the first fault.

* `Json.read`: a whole document. Containers nest 127 deep; deeper ones can only be skipped.
* `Json.readString`, `Json.readNumber`: the two scalars with an inner structure.
-/

namespace Rollout.Json

/-- What one step of reading leaves: the node and, unless reading stops there, the rest. -/
structure Reading where
  node : Node
  rest : Option (List Char)

/-- Reading stops at a fault. -/
def stop (f : Fault) : Reading := ⟨.barred f (some f), none⟩

/-- Drops spaces, tabs and line ends. -/
def skipBlanks (cs : List Char) : List Char :=
  cs.dropWhile fun c => c = ' ' || c = '\n' || c = '\t' || c = '\r'

/-! ## Strings -/

/-- The value of a hexadecimal digit. -/
def hexDigit? (c : Char) : Option Nat :=
  if '0' ≤ c ∧ c ≤ '9' then some (c.toNat - 48)
  else if 'a' ≤ c ∧ c ≤ 'f' then some (c.toNat - 87)
  else if 'A' ≤ c ∧ c ≤ 'F' then some (c.toNat - 55)
  else none

/-- The value of four hexadecimal digits. -/
def hexFour? (a b c d : Char) : Option Nat := do
  return (((← hexDigit? a) * 16 + (← hexDigit? b)) * 16 + (← hexDigit? c)) * 16 + (← hexDigit? d)

/-- The character of a one-letter escape. -/
def shortEscape? (c : Char) : Option Char :=
  match c with
  | '"' | '\\' | '/' => some c
  | 'b' => some '\x08'
  | 'f' => some '\x0c'
  | 'n' => some '\n'
  | 'r' => some '\r'
  | 't' => some '\t'
  | _ => none

/-- The units of a string up to its closing quote, a `\u` escape as a 16-bit number, and what
follows the quote. -/
def stringUnits : List Char → List (Char ⊕ Nat) × Except Fault (List Char)
  | [] => ([], .error .truncated)
  | '"' :: rest => ([], .ok rest)
  | ['\\'] => ([], .error .truncated)
  | '\\' :: 'u' :: a :: b :: c :: d :: rest =>
    match hexFour? a b c d with
    | some n => let (us, r) := stringUnits rest; (.inr n :: us, r)
    | none => ([], .error .malformed)
  | '\\' :: 'u' :: rest =>
    ([], .error (if (String.ofList rest).utf8ByteSize < 4 then .truncated else .malformed))
  | '\\' :: c :: rest =>
    match shortEscape? c with
    | some e => let (us, r) := stringUnits rest; (.inl e :: us, r)
    | none => ([], .error .malformed)
  | c :: rest =>
    if c.toNat < 32 then ([], .error .malformed)
    else let (us, r) := stringUnits rest; (.inl c :: us, r)

/-- Joins surrogate pairs. A surrogate without its partner is a fault; `ending` is the fault at the
end of the units, if they end with one. -/
def joinUnits (ending : Option Fault) : List (Char ⊕ Nat) → Except Fault (List Char)
  | [] => .ok []
  | .inl c :: rest => return c :: (← joinUnits ending rest)
  | .inr n :: rest =>
    if n < 0xD800 || 0xE000 ≤ n then return Char.ofNat n :: (← joinUnits ending rest)
    else if 0xDC00 ≤ n then .error .malformed
    else match rest with
      | .inr m :: rest =>
        if 0xDC00 ≤ m && m < 0xE000 then
          return Char.ofNat (0x10000 + (n - 0xD800) * 0x400 + (m - 0xDC00))
            :: (← joinUnits ending rest)
        else .error .malformed
      | .inl _ :: _ => .error .malformed
      | [] => .error (ending.getD .malformed)

/-- A string whose opening quote has been read. A lone surrogate bars it from being read, not from
being skipped. -/
def readString (cs : List Char) : Reading :=
  match stringUnits cs with
  | (units, .ok rest) =>
    match joinUnits none units with
    | .ok s => ⟨.text (String.ofList s), some rest⟩
    | .error f => ⟨.barred f none, some rest⟩
  | (units, .error f) =>
    match joinUnits (some f) units with
    | .ok _ => stop f
    | .error g => ⟨.barred g (some f), none⟩

/-! ## Numbers -/

/-- Splits off the leading decimal digits. -/
def spanDigits (cs : List Char) : List Char × List Char := cs.span Char.isDigit

/-- The value of decimal digits. -/
def digitsValue (ds : List Char) : Nat := ds.foldl (fun n c => 10 * n + (c.toNat - 48)) 0

/-- A 64-bit significand and the number of decimal digits to shift it by. -/
structure Scaled where
  significand : Nat
  exponent : Int

/-- Takes in the digits of the whole part as long as the significand fits a word; digits after
that only scale it. -/
def Scaled.whole (x : Scaled) : List Char → Scaled
  | [] => x
  | c :: rest =>
    let n := 10 * x.significand + (c.toNat - 48)
    if n < twoTo 64 then whole ⟨n, 0⟩ rest else ⟨x.significand, (c :: rest).length⟩

/-- Takes in the digits of the fraction as long as the significand fits a word and drops the
others. -/
def Scaled.fraction (x : Scaled) : List Char → Scaled
  | [] => x
  | c :: rest =>
    let n := 10 * x.significand + (c.toNat - 48)
    if n < twoTo 64 then fraction ⟨n, x.exponent - 1⟩ rest else x

/-- The double nearest to `10 ^ k`. -/
def powerOfTen (k : Nat) : Double := (Double.ofNat? (tenTo k)).getD (.zero false)

/-- Scales a double by a power of ten in one rounded operation, or in steps of `10 ^ 308`, at most
`steps` of them, when the power itself is out of range. -/
def scaleTen (f : Double) (e : Int) : (steps : Nat) → Option Double
  | 0 => some f
  | steps + 1 =>
    if e.natAbs ≤ 308 then
      if 0 ≤ e then f.mul? (powerOfTen e.toNat) else f.div? (powerOfTen (-e).toNat)
    else if f.isZero then some f
    else if 0 ≤ e then none
    else do scaleTen (← f.div? (powerOfTen 308)) (e + 308) steps

/-- The double of a number with a fraction, an exponent or too many digits. -/
def Scaled.toDouble? (x : Scaled) (negative : Bool) : Option Double := do
  let f ← scaleTen (← Double.ofNat? x.significand) x.exponent (x.exponent.natAbs / 308 + 1)
  return f.withSign negative

/-- The largest exponent that is still counted. -/
def exponentBound : Nat := twoTo 31 - 1

/-- A sum kept within the range of exponents. -/
def clampExponent (e : Int) : Int := max (-Int.ofNat (twoTo 31)) (min e (Int.ofNat exponentBound))

/-- A number past its digits: its value, or the fault of being out of range, and the rest. -/
def finishNumber (negative : Bool) (x : Scaled) (rest : List Char) : Reading :=
  match x.toDouble? negative with
  | some d => ⟨.double d, some rest⟩
  | none => ⟨.barred .malformed none, some rest⟩

/-- Stops in the middle of a number: reading asks for more, skipping knows it is malformed. -/
def brokenNumber (rest : List Char) : Reading :=
  ⟨.barred (if rest.isEmpty then .truncated else .malformed) (some .malformed), none⟩

/-- A number from its exponent mark, which has been read. -/
def readExponent (negative : Bool) (x : Scaled) (cs : List Char) : Reading :=
  let (down, cs) := match cs with
    | '+' :: cs => (false, cs)
    | '-' :: cs => (true, cs)
    | cs => (false, cs)
  match spanDigits cs with
  | ([], rest) => brokenNumber rest
  | (ds, rest) =>
    let e := digitsValue ds
    if exponentBound < e then
      if x.significand != 0 && !down then ⟨.barred .malformed none, some rest⟩
      else ⟨.double (.zero negative), some rest⟩
    else
      let e : Int := if down then -(e : Int) else e
      finishNumber negative { x with exponent := clampExponent (x.exponent + e) } rest

/-- A number from its decimal point, which has been read. -/
def readFraction (negative : Bool) (x : Scaled) (cs : List Char) : Reading :=
  match spanDigits cs with
  | ([], rest) => brokenNumber rest
  | (ds, rest) =>
    let x := x.fraction ds
    match rest with
    | 'e' :: rest | 'E' :: rest => readExponent negative x rest
    | rest => finishNumber negative x rest

/-- A number past its sign. An integer that a word holds stays one; a negative zero is a double. -/
def readNumber (negative : Bool) (cs : List Char) : Reading :=
  match spanDigits cs with
  | ([], rest) => brokenNumber rest
  | ('0' :: _ :: _, _) => stop .malformed
  | (ds, rest) =>
    let x := Scaled.whole ⟨0, 0⟩ ds
    match rest with
    | '.' :: rest => readFraction negative x rest
    | 'e' :: rest | 'E' :: rest => readExponent negative x rest
    | rest =>
      let i : Int := if negative then -(x.significand : Int) else x.significand
      if x.exponent = 0 && Value.inWord i && !(negative && i = 0) then ⟨.int i, some rest⟩
      else finishNumber negative x rest

/-! ## Values -/

/-- A word whose first letter has been read. -/
def readWord (node : Node) : List Char → List Char → Reading
  | [], cs => ⟨node, some cs⟩
  | _ :: _, [] => stop .truncated
  | w :: ws, c :: cs => if c = w then readWord node ws cs else stop .malformed

/-- The parts of a container and, unless reading stops in it, the rest. -/
abbrev Parts (α : Type) := List α × Option (List Char)

mutual

/-- A value. The fuel bounds the characters that can still be read. -/
def readValue (fuel : Nat) (cs : List Char) : Reading :=
  match fuel with
  | 0 => stop .truncated
  | fuel + 1 =>
    match skipBlanks cs with
    | [] => stop .truncated
    | 'n' :: cs => readWord .null ['u', 'l', 'l'] cs
    | 't' :: cs => readWord (.bool true) ['r', 'u', 'e'] cs
    | 'f' :: cs => readWord (.bool false) ['a', 'l', 's', 'e'] cs
    | '-' :: cs => readNumber true cs
    | '"' :: cs => readString cs
    | '[' :: cs =>
      match skipBlanks cs with
      | ']' :: cs => ⟨.list [], some cs⟩
      | [] => ⟨.list [.torn .truncated], none⟩
      | cs => let (items, rest) := readItems fuel cs; ⟨.list items, rest⟩
    | '\x7b' :: cs =>
      match skipBlanks cs with
      | '\x7d' :: cs => ⟨.map [], some cs⟩
      | cs => let (entries, rest) := readEntries fuel cs; ⟨.map entries, rest⟩
    | c :: cs => if c.isDigit then readNumber false (c :: cs) else stop .malformed

/-- The items of a list from the next one on. -/
def readItems (fuel : Nat) (cs : List Char) : Parts Node :=
  match fuel with
  | 0 => ([.torn .truncated], none)
  | fuel + 1 =>
    match readValue fuel cs with
    | ⟨node, none⟩ => ([node], none)
    | ⟨node, some rest⟩ =>
      match skipBlanks rest with
      | ']' :: rest => ([node], some rest)
      | ',' :: rest =>
        let (items, rest) := readItems fuel rest
        (node :: items, rest)
      | [] => ([node, .torn .truncated], none)
      | _ => ([node, .torn .malformed], none)

/-- The entries of a map from the next key on. -/
def readEntries (fuel : Nat) (cs : List Char) : Parts (Node × Node) :=
  match fuel with
  | 0 => ([(.torn .truncated, .null)], none)
  | fuel + 1 =>
    match skipBlanks cs with
    | [] => ([(.torn .truncated, .null)], none)
    | '"' :: cs =>
      match readString cs with
      | ⟨key, none⟩ => ([(key, .null)], none)
      | ⟨key, some rest⟩ =>
        match skipBlanks rest with
        | ':' :: rest =>
          match readValue fuel rest with
          | ⟨node, none⟩ => ([(key, node)], none)
          | ⟨node, some rest⟩ =>
            match skipBlanks rest with
            | '\x7d' :: rest => ([(key, node)], some rest)
            | ',' :: rest =>
              let (entries, rest) := readEntries fuel rest
              ((key, node) :: entries, rest)
            | [] => ([(key, node), (.torn .truncated, .null)], none)
            | _ => ([(key, node), (.torn .malformed, .null)], none)
        | [] => ([(key, (stop .truncated).node)], none)
        | _ => ([(key, (stop .malformed).node)], none)
    | _ => ([(.torn .malformed, .null)], none)

end

/-- A document of one value, however deep. -/
def readDeep (cs : List Char) : Document :=
  match readValue (cs.length + 1) cs with
  | ⟨node, none⟩ => ⟨node, none⟩
  | ⟨node, some rest⟩ => ⟨node, if (skipBlanks rest).isEmpty then none else some .malformed⟩

/-- A document of one value, whose containers can be read to a depth of 127. -/
def read (text : String) : Document :=
  let doc := readDeep text.toList
  { doc with root := doc.root.limited 127 }

end Rollout.Json
