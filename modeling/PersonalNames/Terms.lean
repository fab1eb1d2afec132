import PersonalNames.Document.Outline
import PersonalNames.Document.Reading

/-! # Terms

The words of a language that lists of names need.  Terms that are not set have
an English default. -/
namespace PersonalNames

/-- The words used in lists of names. -/
structure Terms where
  and : Option String := none
  andSymbol : Option String := none
  etAl : Option String := none
deriving DecidableEq, Repr

namespace Terms

/-- The conjunction, as a word or as a symbol. -/
def conjunction (t : Terms) (asSymbol : Bool) : String :=
  if asSymbol then t.andSymbol.getD "&" else t.and.getD "and"

/-- The mark of a shortened list. -/
def others (t : Terms) : String :=
  t.etAl.getD "et al"

/-- The terms with those that `upper` sets in their place. -/
def overlay (t upper : Terms) : Terms where
  and := upper.and.or t.and
  andSymbol := upper.andSymbol.or t.andSymbol
  etAl := upper.etAl.or t.etAl

/-- The JSON value of terms: those that are set. -/
def toJson (t : Terms) : Json :=
  .object
    (Json.textEntry "and" t.and ++ Json.textEntry "and-symbol" t.andSymbol ++
      Json.textEntry "et-al" t.etAl)

/-- The keys of terms. -/
def keys : List String :=
  ["and", "and-symbol", "et-al"]

/-- The parts of terms that are read. -/
def outline : Outline :=
  .keys keys

/-- Reads terms. -/
def read? (r : Reading) (d : Document) : Option Terms := do
  let _ ← r.enter?
  let record ← d.record? r (keys.map ([·]))
  return {
    and := ← record.omissible? 0 Document.text?
    andSymbol := ← record.omissible? 1 Document.text?
    etAl := ← record.omissible? 2 Document.text? }

end Terms
end PersonalNames
