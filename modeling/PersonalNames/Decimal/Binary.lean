/-! # Binary floating-point numbers

Doubles as exact values: a sign and a mantissa times a power of two.  All
arithmetic is exact on natural numbers and ends in one rounding to the nearest
double, ties going to the even mantissa. -/
namespace PersonalNames
namespace Decimal

/-- The number `± mantissa * 2 ^ exponent`.  A normal double has a mantissa of
53 bits, a subnormal one the exponent `-1074`. -/
structure Binary where
  negative : Bool
  mantissa : Nat
  exponent : Int
deriving DecidableEq, Repr

/-- A quotient rounded to the nearest natural number, ties going to the even one. -/
def roundDiv (num den : Nat) : Nat :=
  let q := num / den
  let r := num % den
  if 2 * r < den then q
  else if den < 2 * r then q + 1
  else if q % 2 = 0 then q else q + 1

/-- The number `k * base ^ power` as a numerator and a denominator. -/
def fraction (base k : Nat) (power : Int) : Nat × Nat :=
  if power < 0 then (k, Nat.pow base (-power).toNat) else (k * Nat.pow base power.toNat, 1)

namespace Binary

/-- Zero, with a sign. -/
def zero (negative : Bool) : Binary :=
  ⟨negative, 0, -1074⟩

/-- Whether the number is zero of either sign. -/
def isZero (x : Binary) : Bool :=
  x.mantissa = 0

/-- The number with the other sign. -/
def neg (x : Binary) : Binary :=
  { x with negative := !x.negative }

/-- The fraction `num / den` divided by `2 ^ e`, as a numerator and a denominator. -/
def scaled (num den : Nat) (e : Int) : Nat × Nat :=
  let (a, b) := fraction 2 1 e
  (num * b, den * a)

/-- The exponent at which the fraction `num / den` has a mantissa of 53 bits, or
the least exponent if the fraction is smaller than that. -/
def exponentFor (num den : Nat) : Int :=
  let guess : Int := (Nat.log2 num : Int) - (Nat.log2 den : Int) - 52
  let (n, d) := scaled num den guess
  let exact : Int := if n < d * 0x10000000000000 then guess - 1 else guess
  max exact (-1074)

/-- The double nearest to `num / den`; none if it is out of range. -/
def ofRatio? (negative : Bool) (num den : Nat) : Option Binary :=
  if num = 0 then some (zero negative)
  else
    let e := exponentFor num den
    let (n, d) := scaled num den e
    let m := roundDiv n d
    let (m, e) := if m = 0x20000000000000 then (0x10000000000000, e + 1) else (m, e)
    if 971 < e then none else some ⟨negative, m, e⟩

/-- The magnitude as a fraction of natural numbers. -/
def ratio (x : Binary) : Nat × Nat :=
  fraction 2 x.mantissa x.exponent

/-- The rounded product; none if it is out of range. -/
def mul? (x y : Binary) : Option Binary :=
  let (a, b) := x.ratio
  let (c, d) := y.ratio
  ofRatio? (x.negative != y.negative) (a * c) (b * d)

/-- The rounded quotient; none if it is out of range. -/
def div? (x y : Binary) : Option Binary :=
  let (a, b) := x.ratio
  let (c, d) := y.ratio
  ofRatio? (x.negative != y.negative) (a * d) (b * c)

/-- The double nearest to `digits * 10 ^ power`; none if it is out of range. -/
def ofDecimal? (negative : Bool) (digits : Nat) (power : Int) : Option Binary :=
  let (num, den) := fraction 10 digits power
  ofRatio? negative num den

end Binary

end Decimal
end PersonalNames
