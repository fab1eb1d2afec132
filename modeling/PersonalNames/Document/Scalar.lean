import PersonalNames.Document.Basic
import PersonalNames.Text.Digit

/-! # The meaning of unquoted scalars

An unquoted YAML scalar is null, a boolean, a whole number, a double or text,
whichever its spelling fits first.  Leading zeros make text of digits. -/
namespace PersonalNames
namespace Scalar

/-- The spellings of null; the empty scalar is null too, but not by its spelling. -/
def isNull (s : String) : Bool :=
  s == "~" || s == "null" || s == "Null" || s == "NULL"

/-- The spellings of the booleans. -/
def bool? (s : String) : Option Bool :=
  if s == "true" || s == "True" || s == "TRUE" then some true
  else if s == "false" || s == "False" || s == "FALSE" then some false
  else none

/-- A text without one sign in front. -/
def unsigned : List Char → List Char
  | '+' :: rest | '-' :: rest => rest
  | s => s

/-- Digits with a leading zero, which are text and no number. -/
def isPadded (s : List Char) : Bool :=
  match unsigned s with
  | '0' :: rest => !rest.isEmpty && rest.all Char.isDigit
  | _ => false

/-- A whole number without sign in one of the bases, given by its mark. -/
def magnitude? (s : List Char) : Option Nat :=
  match s with
  | '0' :: 'x' :: rest => Text.number? 16 rest
  | '0' :: 'o' :: rest => Text.number? 8 rest
  | '0' :: 'b' :: rest => Text.number? 2 rest
  | s => Text.number? 10 s

/-- A whole number: an optional sign and a magnitude that is not padded. -/
def int? (s : List Char) : Option Int :=
  if isPadded s then none
  else
    match s with
    | '-' :: rest => (magnitude? rest).map fun n => -(n : Int)
    | '+' :: rest => (magnitude? rest).map fun n => (n : Int)
    | rest => (magnitude? rest).map fun n => (n : Int)

/-- The digits of a decimal numeral without sign: whole part, fraction and
exponent.  One of the two parts may be empty, and the point may be left out. -/
def decimalParts? (s : List Char) : Option (List Char × List Char × Int) :=
  let whole := s.takeWhile Char.isDigit
  let rest := s.dropWhile Char.isDigit
  let (fraction, rest) :=
    match rest with
    | '.' :: more => (more.takeWhile Char.isDigit, more.dropWhile Char.isDigit)
    | _ => ([], rest)
  if whole.isEmpty && fraction.isEmpty then none
  else
    match rest with
    | [] => some (whole, fraction, 0)
    | mark :: more =>
      if mark = 'e' || mark = 'E' then
        match more with
        | '-' :: ds => (Text.number? 10 ds).map fun n => (whole, fraction, -(n : Int))
        | '+' :: ds => (Text.number? 10 ds).map fun n => (whole, fraction, (n : Int))
        | ds => (Text.number? 10 ds).map fun n => (whole, fraction, (n : Int))
      else none

/-- The double nearest to a decimal numeral.  An exponent far outside the range
of doubles decides by itself and is never raised to a power. -/
def nearest? (negative : Bool) (whole fraction : List Char) (exponent : Int) :
    Option Decimal.Binary :=
  let digits := Text.decimal (whole ++ fraction)
  let power := exponent - fraction.length
  let top := power + (whole ++ fraction).length
  if digits = 0 || top < -400 then some (Decimal.Binary.zero negative)
  else if 400 < power then none
  else Decimal.Binary.ofDecimal? negative digits power

/-- A double, by its decimal numeral with an optional sign. -/
def double? (s : List Char) : Option Decimal.Binary :=
  match s with
  | '-' :: rest =>
    (decimalParts? rest).bind fun (w, f, e) => nearest? true w f e
  | '+' :: rest =>
    (decimalParts? rest).bind fun (w, f, e) => nearest? false w f e
  | rest => (decimalParts? rest).bind fun (w, f, e) => nearest? false w f e

/-- The spellings of the infinities and of the number that is none. -/
def isNonFinite (s : String) : Bool :=
  [".inf", ".Inf", ".INF", "+.inf", "+.Inf", "+.INF", "-.inf", "-.Inf", "-.INF",
    ".nan", ".NaN", ".NAN"].contains s

/-- A double, finite or not. -/
def float? (s : String) : Option Document :=
  if isNonFinite s then some .nonFinite
  else (double? s.toList).map fun x => .number (.float x)

/-- Whether a whole number fits 64 bits, with or without sign. -/
def fits64 (n : Int) : Bool :=
  -0x8000000000000000 ≤ n && n < 0x10000000000000000

/-- Whether a whole number fits 128 bits, with or without sign. -/
def fits128 (n : Int) : Bool :=
  -0x80000000000000000000000000000000 ≤ n && n < 0x100000000000000000000000000000000

/-- What an unquoted scalar means.  A whole number of more than 64 bits is
unreadable, and one of more than 128 bits is a double. -/
def meaning (s : String) : Document :=
  if s.isEmpty || isNull s then .null
  else
    match bool? s with
    | some b => .bool b
    | none =>
      match (int? s.toList).filter fits128 with
      | some n => if fits64 n then .number (.int n) else .unreadable
      | none => if isPadded s.toList then .text s else (float? s).getD (.text s)

end Scalar
end PersonalNames
