/-! # Digits

The values of digits in a base up to sixteen and the numbers that digits write.
Decimal digits are the characters of `Char.isDigit`, and a run of them writes the
number `Nat.ofDigitChars 10`. -/
namespace PersonalNames
namespace Text

/-- The value of a decimal digit. -/
def digitValue (c : Char) : Nat :=
  c.toNat - '0'.toNat

/-- The value of a digit in a base up to sixteen; letters count in either case. -/
def digit? (base : Nat) (c : Char) : Option Nat :=
  let value? : Option Nat :=
    if c.isDigit then some (digitValue c)
    else if 'a' ≤ c && c ≤ 'f' then some (c.toNat - 'a'.toNat + 10)
    else if 'A' ≤ c && c ≤ 'F' then some (c.toNat - 'A'.toNat + 10)
    else none
  value?.filter (· < base)

/-- The number that characters write in a base; none unless all of them are digits
and there is at least one. -/
def number? (base : Nat) : List Char → Option Nat
  | [] => none
  | digits => digits.foldlM (fun n c => (digit? base c).map (n * base + ·)) 0

/-- The number that decimal digits write. -/
def decimal (digits : List Char) : Nat :=
  Nat.ofDigitChars 10 digits 0

end Text
end PersonalNames
