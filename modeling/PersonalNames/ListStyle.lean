import PersonalNames.Document.Reading

/-! # List styles

How the names of a list are joined: the delimiter, the conjunction before the
last name, and from how many names on a list is cut short. -/
namespace PersonalNames

/-- What stands before the last name of a list. -/
inductive Conjunction where
  /-- The word of the language. -/
  | text
  /-- The symbol of the language. -/
  | symbol
  /-- Only the delimiter. -/
  | inherit
deriving DecidableEq, Repr

namespace Conjunction

/-- All conjunctions. -/
def all : List Conjunction :=
  [.text, .symbol, .inherit]

/-- The identifier of a conjunction. -/
def id : Conjunction → String
  | .text => "text"
  | .symbol => "symbol"
  | .inherit => "inherit"

/-- The label of a conjunction in menus, with examples or without. -/
def label (c : Conjunction) (examples : Bool) : String :=
  match c with
  | .text => if examples then "Textual (i.e. and)" else "Textual"
  | .symbol => if examples then "Ampersand (i.e. &)" else "Ampersand"
  | .inherit => "Inherit delimiter"

/-- Reads a conjunction. -/
def read? (r : Reading) (d : Document) : Option Conjunction :=
  (Document.choice? r (all.map id) d).bind (all[·]?)

end Conjunction

/-- Whether the delimiter stands before the last name or the mark of a cut. -/
inductive DelimiterRule where
  | never
  | always
  /-- Only where enough names are shown. -/
  | contextual
deriving DecidableEq, Repr

namespace DelimiterRule

/-- All rules. -/
def all : List DelimiterRule :=
  [.never, .always, .contextual]

/-- The identifier of a rule. -/
def id : DelimiterRule → String
  | .never => "never"
  | .always => "always"
  | .contextual => "contextual"

/-- The label of a rule in menus, with examples or without. -/
def label (rule : DelimiterRule) (examples : Bool) : String :=
  match rule with
  | .never => if examples then "Never (i.e. \"J. Doe and T. Williams\")" else "Never"
  | .always => if examples then "Always (i.e. \"J. Doe, and T. Williams\")" else "Always"
  | .contextual =>
    if examples then
      "Contextual (i.e. \"J. Doe and T. Williams\" or \"J. Doe, S. Smith, and T. Williams\")"
    else "Contextual"

/-- Whether the delimiter stands where `count` names are shown and `threshold`
of them are enough. -/
def applies (rule : DelimiterRule) (count threshold : Nat) : Bool :=
  match rule with
  | .never => false
  | .always => true
  | .contextual => threshold ≤ count

/-- Reads a rule. -/
def read? (r : Reading) (d : Document) : Option DelimiterRule :=
  (Document.choice? r (all.map id) d).bind (all[·]?)

end DelimiterRule

/-- When a list is cut short, and how many of its names are then shown. -/
structure Cut where
  /-- The least number of names at which the list is cut. -/
  least : Nat
  /-- The number of names shown; at least one is shown in any case. -/
  shown : Nat
deriving DecidableEq, Repr

namespace Cut

/-- The JSON value of a cut. -/
def toJson (c : Cut) : Json :=
  .object [("min", .number (.int c.least)), ("use-first", .number (.int c.shown))]

/-- Reads a cut. -/
def read? (r : Reading) (d : Document) : Option Cut := do
  let _ ← r.enter?
  let record ← d.record? r [["min"], ["use-first"]]
  return {
    least := ← record.required? 0 Document.natural?
    shown := ← record.required? 1 Document.natural? }

end Cut

/-- How the names of a list are joined. -/
structure ListStyle where
  delimiter : String := ", "
  conjunction : Conjunction := .text
  delimiterBeforeLast : DelimiterRule := .never
  cut : Option Cut := none
  delimiterBeforeCut : DelimiterRule := .always
deriving DecidableEq, Repr

namespace ListStyle

/-- The keys of a list style. -/
def keys : List String :=
  ["delimiter", "and", "delimiter-precedes-last", "et-al", "delimiter-precedes-et-al"]

/-- The entries of the JSON value of a list style. -/
def entries (s : ListStyle) : List (String × Json) :=
  [("delimiter", .text s.delimiter), ("and", .text s.conjunction.id),
    ("delimiter-precedes-last", .text s.delimiterBeforeLast.id)] ++
  (match s.cut with
    | some cut => [("et-al", cut.toJson)]
    | none => []) ++
  [("delimiter-precedes-et-al", .text s.delimiterBeforeCut.id)]

/-- The JSON value of a list style. -/
def toJson (s : ListStyle) : Json :=
  .object s.entries

/-- Reads a list style from the record of its fields. -/
def ofRecord? (r : Reading) (record : Document.Record) : Option ListStyle := do
  return {
    delimiter := ← record.withDefault? 0 ", " Document.text?
    conjunction := ← record.withDefault? 1 .text (Conjunction.read? r)
    delimiterBeforeLast := ← record.withDefault? 2 .never (DelimiterRule.read? r)
    cut := ← record.withDefault? 3 none (Document.optional? (Cut.read? r))
    delimiterBeforeCut := ← record.withDefault? 4 .always (DelimiterRule.read? r) }

/-- Reads a list style. -/
def read? (r : Reading) (d : Document) : Option ListStyle := do
  let r ← r.enter?
  ofRecord? r (← d.record? r (keys.map ([·])))

end ListStyle
end PersonalNames
