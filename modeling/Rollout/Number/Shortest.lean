import Rollout.Number.Double

/-!
# Shortest decimal text of doubles

* `Double.shortest`: the fewest decimal digits that read back to the same double.
* `Double.toText`: those digits, positional for moderate exponents.
-/

namespace Rollout.Double

/-- The number `digits · 10 ^ exponent`. -/
structure Decimal where
  digits : Nat
  exponent : Int

/-- The decimal with trailing zeros moved into the exponent. -/
def Decimal.strip : (fuel : Nat) → Decimal → Decimal
  | 0, x => x
  | fuel + 1, x =>
    if x.digits % 10 = 0 && x.digits != 0 then strip fuel ⟨x.digits / 10, x.exponent + 1⟩ else x

/-- The reals that round to a positive double, in units of a quarter of its last place: the low
and high end, and whether the ends belong to it. -/
structure Span where
  low : Nat
  high : Nat
  closed : Bool

/-- The rounding interval; it is narrower below a power of two. -/
def span (d : Double) : Span :=
  let m := d.significand
  ⟨if m = twoTo 52 && 1 < d.exponentField then 4 * m - 1 else 4 * m - 2, 4 * m + 2, m % 2 == 0⟩

/-- The least `k` with `n / d < 10 ^ k`. -/
def decimalSize (n d : Nat) : Int :=
  if d ≤ n then (Nat.toDigits 10 (n / d)).length
  else 1 - Int.ofNat (((List.range 400).find? fun k => d ≤ n * tenTo k).getD 0)

/-- The better of the two neighbours of `d` on the grid of multiples of `10 ^ p`, if one of them
reads back to `d`; an exact tie goes to the even one. -/
def onGrid? (d : Double) (p : Int) : Option Decimal :=
  let s := d.span
  let (unit, whole) := scaled 1 1 (d.scale - 2)
  let (unit, whole) :=
    if 0 ≤ p then (unit, whole * tenTo p.toNat) else (unit * tenTo (-p).toNat, whole)
  let value := 4 * d.significand * unit
  let below := value / whole
  let rest := value % whole
  let inside (c : Nat) : Bool :=
    if s.closed then s.low * unit ≤ c * whole && c * whole ≤ s.high * unit
    else s.low * unit < c * whole && c * whole < s.high * unit
  let preferBelow := 2 * rest < whole || (2 * rest == whole && below % 2 == 0)
  match inside below, inside (below + 1) with
  | true, true => some ⟨if preferBelow then below else below + 1, p⟩
  | true, false => some ⟨below, p⟩
  | false, true => some ⟨below + 1, p⟩
  | false, false => none

/-- The fewest digits that read back to a double that is not zero, the nearest such. -/
def shortest (d : Double) : Decimal :=
  let (n, b) := d.magnitude
  let size := decimalSize n b
  (((List.range 17).findSome? fun k => d.onGrid? (size - 1 - Int.ofNat k)).getD ⟨0, 0⟩).strip 20

/-- Decimal digits, point and exponent mark: positional from `10 ^ -5` up to `10 ^ 16`, always with
a fraction; outside of that one leading digit and an exponent, whose plus sign is written if
`plus`. -/
def Decimal.toText (plus : Bool) (x : Decimal) : String :=
  let ds := (toString x.digits).toList
  let size := Int.ofNat ds.length + x.exponent
  let body : List Char :=
    if 0 ≤ x.exponent && size ≤ 16 then ds ++ List.replicate x.exponent.toNat '0' ++ ['.', '0']
    else if 0 < size && size ≤ 16 then ds.take size.toNat ++ '.' :: ds.drop size.toNat
    else if -5 < size && size ≤ 0 then ['0', '.'] ++ List.replicate (-size).toNat '0' ++ ds
    else
      let mark := if plus && 0 < size then ['e', '+'] else ['e']
      let point := if ds.length = 1 then [] else ['.']
      ds.take 1 ++ point ++ ds.drop 1 ++ mark ++ (toString (size - 1)).toList
  String.ofList body

/-- The shortest text of a double. -/
def toText (plus : Bool) (d : Double) : String :=
  let sign := if d.negative then "-" else ""
  if d.isZero then sign ++ "0.0" else sign ++ d.shortest.toText plus

end Rollout.Double
