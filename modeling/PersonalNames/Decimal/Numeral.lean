import PersonalNames.Decimal.Shortest

/-! # Numerals

How a double is written: the shortest digits that read back, in positional
notation from `1e-5` up to, but not including, `1e16`, and in exponent notation
outside that range.  A positional numeral always shows a fraction. -/
namespace PersonalNames
namespace Decimal

/-- `count` zeros. -/
def zeros (count : Nat) : String :=
  String.ofList (List.replicate count '0')

/-- The numeral of digits whose decimal point stands after `point` of them;
`point` may be negative or exceed their number. -/
def layout (digits : List Char) (point : Int) : String :=
  let count : Int := digits.length
  if count ≤ point && point ≤ 16 then
    String.ofList digits ++ zeros (point - count).toNat ++ ".0"
  else if 0 < point && point ≤ 16 then
    String.ofList (digits.take point.toNat) ++ "." ++ String.ofList (digits.drop point.toNat)
  else if -5 < point && point ≤ 0 then
    "0." ++ zeros (-point).toNat ++ String.ofList digits
  else
    let mark := if point - 1 < 0 then "e-" else "e+"
    let size := toString (point - 1).natAbs
    match digits with
    | [d] => String.ofList [d] ++ mark ++ size
    | d :: rest => String.ofList (d :: '.' :: rest) ++ mark ++ size
    | [] => "0.0"

/-- The numeral of a double. -/
def Binary.numeral (x : Binary) : String :=
  let sign := if x.negative then "-" else ""
  if x.isZero then sign ++ "0.0"
  else
    let d := shortest x
    let digits := Nat.toDigits 10 d.digits
    sign ++ layout digits (digits.length + d.power)

end Decimal
end PersonalNames
