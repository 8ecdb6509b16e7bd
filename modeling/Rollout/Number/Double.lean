import Rollout.Number.Power

/-!
# Double-precision numbers

Finite binary numbers with 53 significant bits, kept by their 64-bit code. All arithmetic is exact
on natural numbers and rounded once, to the nearest double, ties to the even significand.

* `Double.magnitude`: the absolute value, a fraction of natural numbers.
* `Double.round?`: the double nearest to a fraction, if it is in range.
* `Double.mul?`, `Double.div?`, `Double.ofNat?`: the rounded operations.
-/

namespace Rollout

/-- A finite double by its code: a sign bit, eleven bits of exponent, 52 bits of fraction. -/
structure Double where
  bits : UInt64
  deriving DecidableEq

namespace Double

/-- Whether the sign bit is set. -/
def negative (d : Double) : Bool := d.bits.toNat / twoTo 63 % 2 == 1

/-- The exponent field. -/
def exponentField (d : Double) : Nat := d.bits.toNat / twoTo 52 % twoTo 11

/-- The whole significand; its top bit is implicit except for the smallest numbers. -/
def significand (d : Double) : Nat :=
  let fraction := d.bits.toNat % twoTo 52
  if d.exponentField = 0 then fraction else twoTo 52 + fraction

/-- The power of two that the significand counts. -/
def scale (d : Double) : Int := Int.ofNat (max 1 d.exponentField) - 1075

/-- Neither infinite nor undefined. -/
def isFinite (d : Double) : Bool := d.exponentField < 2047

/-- Either zero. -/
def isZero (d : Double) : Bool := d.significand == 0

/-- The sign bit set or cleared. -/
def withSign (negative : Bool) (d : Double) : Double :=
  ⟨.ofNat (d.bits.toNat % twoTo 63 + if negative then twoTo 63 else 0)⟩

/-- The zero of the given sign. -/
def zero (negative : Bool) : Double := withSign negative ⟨0⟩

/-- The numerator and denominator of `n · 2 ^ e / d`. -/
def scaled (n d : Nat) (e : Int) : Nat × Nat :=
  if 0 ≤ e then (n * twoTo e.toNat, d) else (n, d * twoTo (-e).toNat)

/-- The absolute value as numerator and denominator. -/
def magnitude (d : Double) : Nat × Nat := scaled d.significand 1 d.scale

/-- The quotient rounded to the nearest natural number, ties to even. -/
def roundQuotient (n d : Nat) : Nat :=
  let q := n / d
  let twice := 2 * (n % d)
  if twice < d || (twice == d && q % 2 == 0) then q else q + 1

/-- The power of two at which `n / d` has 53 significant bits, or the least power there is. -/
def scaleOf (n d : Nat) : Int :=
  let guess : Int := Int.ofNat n.log2 - Int.ofNat d.log2 - 52
  let (a, b) := scaled n d (-guess)
  max (-1074) (if a / b < twoTo 52 then guess - 1 else guess)

/-- The double nearest to `n / d`, or `none` past the largest. -/
def round? (negative : Bool) (n d : Nat) : Option Double :=
  if n = 0 then some (zero negative)
  else
    let e := scaleOf n d
    let (a, b) := scaled n d (-e)
    let m := roundQuotient a b
    let code := if m < twoTo 52 then m else (e + 1074).toNat * twoTo 52 + m
    if code < 2047 * twoTo 52 then some (withSign negative ⟨.ofNat code⟩) else none

/-- The double nearest to a natural number. -/
def ofNat? (n : Nat) : Option Double := round? false n 1

/-- The rounded product. -/
def mul? (x y : Double) : Option Double :=
  let (a, b) := x.magnitude
  let (c, d) := y.magnitude
  round? (x.negative != y.negative) (a * c) (b * d)

/-- The rounded quotient by a number that is not zero. -/
def div? (x y : Double) : Option Double :=
  let (a, b) := x.magnitude
  let (c, d) := y.magnitude
  round? (x.negative != y.negative) (a * d) (b * c)

/-- The double nearest to a decimal number; `none` when it is out of range. -/
def ofDecimal? (negative : Bool) (digits : Nat) (exponent : Int) : Option Double :=
  let size : Int := Int.ofNat (Nat.toDigits 10 digits).length + exponent
  if digits = 0 || size < -400 then some (zero negative)
  else if 400 < size then none
  else if 0 ≤ exponent then round? negative (digits * tenTo exponent.toNat) 1
  else round? negative digits (tenTo (-exponent).toNat)

end Double

end Rollout
