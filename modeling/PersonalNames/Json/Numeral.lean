import PersonalNames.Document.Basic
import PersonalNames.Text.Digit

/-! # JSON numerals

How a numeral becomes a number.  Whole numbers of 64 bits stay whole.  Of any
other numeral the leading digits that fit 64 bits are taken as a whole number,
which is then multiplied or divided by a power of ten; each of these steps
rounds to the nearest double. -/
namespace PersonalNames
namespace Json

/-- The parts of a numeral: its sign, the digits before and behind the point,
and the exponent, if there is one, as a sign and digits. -/
structure Numeral where
  negative : Bool
  whole : List Char
  fraction : List Char
  hasFraction : Bool
  exponent : Option (Bool × List Char)

/-- Takes digits as long as the number that they make fits 64 bits.  The answer
is the number and how many digits were taken. -/
def takeFitting (acc taken : Nat) : List Char → Nat × Nat
  | [] => (acc, taken)
  | c :: rest =>
    let next := acc * 10 + Text.digitValue c
    if next < 0x10000000000000000 then takeFitting next (taken + 1) rest else (acc, taken)

/-- A power of ten, rounded to the nearest double. -/
def powerOfTen (n : Nat) : Decimal.Binary :=
  (Decimal.Binary.ofDecimal? false 1 n).getD (Decimal.Binary.zero false)

/-- Multiplies a double by a power of ten.  Powers below the range of doubles are
applied in steps of the least one; after a few steps nothing is left. -/
def scale? (x : Decimal.Binary) (power : Int) : Nat → Option Decimal.Binary
  | 0 => some (Decimal.Binary.zero false)
  | steps + 1 =>
    if power.natAbs ≤ 308 then
      if 0 ≤ power then x.mul? (powerOfTen power.natAbs) else x.div? (powerOfTen power.natAbs)
    else if x.isZero then some x
    else if 0 ≤ power then none
    else (x.div? (powerOfTen 308)).bind fun x => scale? x (power + 308) steps

/-- The double of a whole number times a power of ten. -/
def double? (negative : Bool) (significand : Nat) (power : Int) : Option Decimal.Binary := do
  let start ← Decimal.Binary.ofRatio? false significand 1
  let x ← scale? start power 4
  return if negative then x.neg else x

/-- An exponent of the numeral as a number; none if it exceeds 32 bits. -/
def exponent? (digits : List Char) : Option Nat :=
  let n := Text.decimal digits
  if n < 0x80000000 then some n else none

namespace Numeral

/-- The whole number that the numeral writes, if it writes one of 64 bits.  A
zero with a minus sign is a double. -/
def int? (n : Numeral) : Option Int :=
  if n.hasFraction || n.exponent.isSome then none
  else
    let (value, taken) := takeFitting 0 0 n.whole
    if taken < n.whole.length then none
    else if !n.negative then some value
    else if value = 0 || 0x8000000000000000 < value then none
    else some (-(value : Int))

/-- The double that the numeral writes; none if it is out of range. -/
def float? (n : Numeral) : Option Decimal.Binary :=
  let (whole, wholeTaken) := takeFitting 0 0 n.whole
  let (significand, fractionTaken) := takeFitting whole 0 n.fraction
  let power : Int := (n.whole.length : Int) - wholeTaken - fractionTaken
  match n.exponent with
  | none => double? n.negative significand power
  | some (down, digits) =>
    match exponent? digits with
    | some e => double? n.negative significand (if down then power - e else power + e)
    | none =>
      if significand ≠ 0 && !down then none else some (Decimal.Binary.zero n.negative)

/-- What the numeral says; a double out of range cannot be read. -/
def toDocument (n : Numeral) : Document :=
  match n.int? with
  | some value => .number (.int value)
  | none =>
    match n.float? with
    | some x => .number (.float x)
    | none => .unreadable

end Numeral
end Json
end PersonalNames
