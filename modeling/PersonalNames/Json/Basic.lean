import PersonalNames.Catalog
import PersonalNames.Decimal.Numeral

/-! # JSON values

Settled values: what a JSON or YAML text means once every scalar has its type
and every repeated key has been decided.  The entries of an object keep their
order. -/
namespace PersonalNames

/-- A number is a whole number of 64 bits, with or without sign, or a double. -/
inductive Number where
  | int (n : Int)
  | float (x : Decimal.Binary)
deriving DecidableEq, Repr

/-- The text of a number. -/
def Number.text : Number → String
  | .int n => toString n
  | .float x => x.numeral

/-- A JSON value. -/
inductive Json where
  | null
  | bool (b : Bool)
  | number (n : Number)
  | text (s : String)
  | array (items : List Json)
  | object (entries : List (String × Json))
deriving Repr

namespace Json

/-- The value under a key of an object. -/
def get? (key : String) : Json → Option Json
  | object entries => Catalog.find? key entries
  | _ => none

/-- The entry of a text under a key, if there is a text. -/
def textEntry (key : String) (value : Option String) : List (String × Json) :=
  (value.map fun s => (key, text s)).toList

/-- The text that a scalar stands for where text is wanted: a number stands for
its numeral and `true` for `1`; everything else but text stands for nothing. -/
def scalarText? : Json → Option String
  | text s => some s
  | number n => some n.text
  | bool true => some "1"
  | bool false | null | array _ | object _ => none

end Json

end PersonalNames
