import Rollout.Document.Json.Reader
import Rollout.Document.Yaml.Scalar

/-!
# Numbers, truth values and dates of TOML

* `Toml.isScalar`: whether a word is a value other than a string.
-/

namespace Rollout.Toml

/-! ## Numbers -/

/-- Digits, in which single underscores may stand between two digits; the digits alone. -/
def grouped? (isDigit : Char → Bool) : List Char → Option (List Char)
  | [] => none
  | [c] => if isDigit c then some [c] else none
  | c :: '_' :: rest => if isDigit c then (grouped? isDigit rest).map (c :: ·) else none
  | c :: rest => if isDigit c then (grouped? isDigit rest).map (c :: ·) else none

/-- A whole number in decimal digits without a needless zero. -/
def decimal? (cs : List Char) : Option Nat := do
  let ds ← grouped? Char.isDigit cs
  if ds.head? = some '0' && 1 < ds.length then none
  return Json.digitsValue ds

/-- Whether digits in a base, after the mark of that base, are an integer. -/
def isBased (base : Nat) (cs : List Char) : Bool :=
  (do Yaml.digits? base (← grouped? (fun c => (Yaml.digit? base c).isSome) cs)).any (· < twoTo 63)

/-- Whether a word is an integer that a signed 64-bit word holds. -/
def isInteger (cs : List Char) : Bool :=
  match cs with
  | '0' :: 'x' :: ds => isBased 16 ds
  | '0' :: 'o' :: ds => isBased 8 ds
  | '0' :: 'b' :: ds => isBased 2 ds
  | '-' :: ds => (decimal? ds).any (· ≤ twoTo 63)
  | ds => (decimal? (Yaml.dropPlus ds)).any (· < twoTo 63)

/-- The part before a character that satisfies `p`, and the part after it. -/
def cut (p : Char → Bool) (cs : List Char) : List Char × Option (List Char) :=
  match cs.dropWhile fun c => !p c with
  | [] => (cs, none)
  | _ :: rest => (cs.takeWhile fun c => !p c, some rest)

/-- Whether a word is a number with a fraction or an exponent. Above the range of doubles it is
refused, below it is not. -/
def isFloat (cs : List Char) : Bool :=
  let unsigned := Yaml.dropSign cs
  if unsigned = ['i', 'n', 'f'] || unsigned = ['n', 'a', 'n'] then true
  else
    let (number, exponent) := cut (fun c => c = 'e' || c = 'E') unsigned
    let (whole, fraction) := cut (· = '.') number
    (exponent.isSome || fraction.isSome)
      && (decimal? whole).isSome
      && fraction.all (fun f => (grouped? Char.isDigit f).isSome)
      && exponent.all (fun e => (grouped? Char.isDigit (Yaml.dropSign e)).isSome)
      && (cs.head? = some '-' || (Yaml.double? (unsigned.filter (· != '_'))).isSome)

/-! ## Dates -/

/-- The value of decimal digits, to a number of places. -/
def places? (n : Nat) (cs : List Char) : Option Nat :=
  if cs.length = n && cs.all Char.isDigit then some (Json.digitsValue cs) else none

/-- The days of a month. -/
def monthDays (year month : Nat) : Nat :=
  if month = 2 then
    if (year % 4 = 0 && year % 100 != 0) || year % 400 = 0 then 29 else 28
  else if month ∈ [4, 6, 9, 11] then 30
  else 31

/-- Whether a word is a date. -/
def isDate (cs : List Char) : Bool :=
  cs[4]? = some '-' && cs[7]? = some '-' &&
    match places? 4 (cs.take 4), places? 2 ((cs.drop 5).take 2), places? 2 (cs.drop 8) with
    | some y, some m, some d => 1 ≤ m && m ≤ 12 && 1 ≤ d && d ≤ monthDays y m
    | _, _, _ => false

/-- Whether a word is an hour and a minute. -/
def isClock (cs : List Char) : Bool :=
  cs[2]? = some ':' &&
    match places? 2 (cs.take 2), places? 2 (cs.drop 3) with
    | some h, some m => h ≤ 23 && m ≤ 59
    | _, _ => false

/-- Whether a word is a time of day, with seconds and perhaps a fraction of them. -/
def isTime (cs : List Char) : Bool :=
  let (clock, fraction) := cut (· = '.') cs
  isClock (clock.take 5) && clock[5]? = some ':' && (places? 2 (clock.drop 6)).any (· ≤ 60)
    && fraction.all fun f => !f.isEmpty && f.all Char.isDigit

/-- Whether a word is a time of day with its distance from universal time. -/
def isZonedTime (cs : List Char) : Bool :=
  match cs.reverse with
  | z :: back =>
    if z = 'Z' || z = 'z' then isTime back.reverse
    else
      let n := cs.length - 6
      (cs[n]? = some '+' || cs[n]? = some '-') && isClock (cs.drop (n + 1)) && isTime (cs.take n)
  | [] => false

/-- Whether a word is a date, a time, or both. -/
def isDateTime (cs : List Char) : Bool :=
  isDate cs || isTime cs
    || (isDate (cs.take 10) && (cs[10]?.any fun c => c ∈ ['T', 't', ' '])
      && (isTime (cs.drop 11) || isZonedTime (cs.drop 11)))

/-- Whether a word is a value other than a string. -/
def isScalar (cs : List Char) : Bool :=
  cs = "true".toList || cs = "false".toList || isInteger cs || isFloat cs || isDateTime cs

end Rollout.Toml
