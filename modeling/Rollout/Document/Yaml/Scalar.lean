import Rollout.Document.Json.Reader

/-!
# The types of bare words

A word without quotes stands for null, a truth value, a number or itself.

* `Scalar.ofPlain`: what a bare word stands for.
* `unsigned?`, `integer?`, `decimal?`: the spellings of numbers.
-/

namespace Rollout.Yaml

/-- What a bare word stands for. -/
inductive Scalar where
  | null
  | bool (b : Bool)
  | int (i : Int)
  /-- An integer of up to 128 bits that no 64-bit word holds. -/
  | wide
  | double (d : Double)
  /-- An infinity, or not a number. -/
  | notFinite
  | text
  deriving DecidableEq

/-- The words for null. -/
def isNull (s : String) : Bool := s ∈ ["", "null", "Null", "NULL", "~"]

/-- The words for the truth values. -/
def bool? (s : String) : Option Bool :=
  if s ∈ ["true", "True", "TRUE"] then some true
  else if s ∈ ["false", "False", "FALSE"] then some false
  else none

/-! ## Integers -/

/-- The text without one leading plus sign. -/
def dropPlus : List Char → List Char
  | '+' :: cs => cs
  | cs => cs

/-- The text without one leading sign. -/
def dropSign : List Char → List Char
  | '+' :: cs | '-' :: cs => cs
  | cs => cs

/-- Digits after a needless zero: not a number but a text. -/
def hasLeadingZero (cs : List Char) : Bool :=
  match dropSign cs with
  | '0' :: c :: rest => (c :: rest).all Char.isDigit
  | _ => false

/-- The value of a digit in a base. -/
def digit? (base : Nat) (c : Char) : Option Nat :=
  (Json.hexDigit? c).filter (· < base)

/-- The value of one or more digits in a base. -/
def digits? (base : Nat) : List Char → Option Nat
  | [] => none
  | cs => cs.foldlM (fun n c => (digit? base c).map (base * n + ·)) 0

/-- The value of digits after a mark for their base. -/
def based? : List Char → Option Nat
  | '0' :: 'x' :: cs => digits? 16 cs
  | '0' :: 'o' :: cs => digits? 8 cs
  | '0' :: 'b' :: cs => digits? 2 cs
  | _ => none

/-- An integer without a minus sign. -/
def unsigned? (cs : List Char) : Option Nat :=
  (based? (dropPlus cs)).or (if hasLeadingZero cs then none else digits? 10 (dropPlus cs))

/-- An integer after a minus sign. -/
def negated? : List Char → Option Nat
  | '-' :: cs => (based? cs).or (if hasLeadingZero cs then none else digits? 10 cs)
  | _ => none

/-- An integer of up to 128 bits. -/
def integer? (cs : List Char) : Option Int :=
  match unsigned? cs, negated? cs with
  | some n, _ => if n < twoTo 128 then some n else none
  | none, some n => if n ≤ twoTo 127 then some (-(n : Int)) else none
  | none, none => none

/-! ## Doubles -/

/-- A power of ten after its mark. -/
def exponent? : List Char → Option Int
  | [] => some 0
  | c :: cs =>
    if c = 'e' || c = 'E' then
      match cs with
      | '-' :: ds => (digits? 10 ds).map fun n => -(n : Int)
      | ds => (digits? 10 (dropPlus ds)).map Int.ofNat
    else none

/-- A decimal number without sign, as its digits and a power of ten. -/
def decimal? (cs : List Char) : Option (Nat × Int) :=
  let (whole, rest) := Json.spanDigits cs
  match rest with
  | '.' :: rest =>
    let (fraction, rest) := Json.spanDigits rest
    if whole.isEmpty && fraction.isEmpty then none
    else (exponent? rest).map fun e =>
      (Json.digitsValue (whole ++ fraction), e - Int.ofNat fraction.length)
  | rest =>
    if whole.isEmpty then none else (exponent? rest).map fun e => (Json.digitsValue whole, e)

/-- A decimal number with an optional sign, if a double can come near it. -/
def double? (cs : List Char) : Option Double :=
  match cs with
  | '-' :: cs => do let (n, e) ← decimal? cs; Double.ofDecimal? true n e
  | cs => do let (n, e) ← decimal? (dropPlus cs); Double.ofDecimal? false n e

/-- The words for the infinities and for no number. -/
def isNotFinite (s : String) : Bool :=
  s ∈ [".inf", ".Inf", ".INF", "+.inf", "+.Inf", "+.INF", "-.inf", "-.Inf", "-.INF",
    ".nan", ".NaN", ".NAN"]

/-! ## Words -/

/-- What a bare word stands for. -/
def Scalar.ofPlain (s : String) : Scalar :=
  let cs := s.toList
  if isNull s then .null
  else match bool? s with
    | some b => .bool b
    | none =>
      match integer? cs with
      | some i => if Value.inWord i then .int i else .wide
      | none =>
        if hasLeadingZero cs then .text
        else if isNotFinite s then .notFinite
        else match double? cs with
          | some d => .double d
          | none => .text

end Rollout.Yaml
