import PersonalNames.Decimal.Binary

/-! # Shortest decimal text

`shortest` finds the fewest decimal digits that read back as a given double
and, among those, the ones nearest to it.  It works on the interval of reals
that round to the double: for each number of digits in turn it tests the two
neighbours of the double on the decimal grid with so many digits. -/
namespace PersonalNames
namespace Decimal

/-- A decimal number: the digits `digits` times `10 ^ power`. -/
structure Digits where
  digits : Nat
  power : Int
deriving DecidableEq, Repr

/-- The reals that round to a double, as three numerators over one denominator:
the lower end, the double itself and the upper end.  The ends belong to the
interval if the mantissa is even. -/
structure Interval where
  low : Nat
  mid : Nat
  high : Nat
  den : Nat
  closed : Bool

/-- The interval around a positive double.  Below a power of two the grid of
doubles is twice as fine, so the lower end lies half as far. -/
def Interval.around (x : Binary) : Interval :=
  let m := x.mantissa
  let narrow := m = 0x10000000000000 && -1074 < x.exponent
  let low := if narrow then 4 * m - 1 else 4 * m - 2
  let (unit, den) := fraction 2 1 (x.exponent - 2)
  ⟨low * unit, 4 * m * unit, (4 * m + 2) * unit, den, m % 2 = 0⟩

/-- Whether `n / d` lies in the interval. -/
def Interval.contains (i : Interval) (n d : Nat) : Bool :=
  let scaled := n * i.den
  if i.closed then i.low * d ≤ scaled && scaled ≤ i.high * d
  else i.low * d < scaled && scaled < i.high * d

/-- The point of the grid of multiples of `10 ^ power` that lies in the interval
and is nearest to its middle; an even multiple wins a tie. -/
def nearestOnGrid? (i : Interval) (power : Int) : Option Digits :=
  let (unitNum, unitDen) := fraction 10 1 power
  let k := (i.mid * unitDen) / (i.den * unitNum)
  let inside (k : Nat) : Bool :=
    let (n, d) := fraction 10 k power
    k ≠ 0 && i.contains n d
  let best := roundDiv (i.mid * unitDen) (i.den * unitNum)
  let other := if best = k then k + 1 else k
  if inside best then some ⟨best, power⟩
  else if inside other then some ⟨other, power⟩
  else none

/-- The number of decimal digits of a natural number; zero has one. -/
def digitCount (n : Nat) : Nat :=
  (Nat.toDigits 10 n).length

/-- The exponent of the leading digit of `num / den`: the greatest `p` with
`10 ^ p ≤ num / den`, found from the lengths of the two numbers. -/
def leadingPower (num den : Nat) : Int :=
  let guess : Int := (digitCount num : Int) - (digitCount den : Int)
  let (n, d) := fraction 10 1 guess
  if n * den ≤ num * d then guess else guess - 1

/-- The fewest digits, tried from `count` on, that lie in the interval. -/
def shortestFrom (i : Interval) (top : Int) (count : Nat) : Nat → Digits
  | 0 => ⟨0, 0⟩
  | fuel + 1 =>
    match nearestOnGrid? i (top - count + 1) with
    | some d => d
    | none => shortestFrom i top (count + 1) fuel

/-- Removes the zeros at the end of the digits. -/
def Digits.strip (d : Digits) : Nat → Digits
  | 0 => d
  | fuel + 1 =>
    if d.digits ≠ 0 && d.digits % 10 = 0 then Digits.strip ⟨d.digits / 10, d.power + 1⟩ fuel else d

/-- The fewest digits that read back as the magnitude of the double.  Seventeen
digits always do. -/
def shortest (x : Binary) : Digits :=
  if x.isZero then ⟨0, 0⟩
  else
    let i := Interval.around x
    (shortestFrom i (leadingPower i.mid i.den) 1 17).strip 17

end Decimal
end PersonalNames
