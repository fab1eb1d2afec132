import PersonalNames.Catalog
import PersonalNames.Text.Quoted
import PersonalNames.Document.Reading

/-! # Settings

The settings of a single name: three separators, the kind of markup, and any
further settings that are only kept.  `get?` and `set` show all of them as one
store of texts under keys. -/
namespace PersonalNames

/-- How components are marked up. -/
inductive MarkupMode where
  /-- Plain text. -/
  | none
  /-- Text escaped for HTML. -/
  | simple
  /-- Text escaped for HTML, each component in a classed span. -/
  | html
  /-- Components that are HTML already. -/
  | raw
deriving DecidableEq, Repr

namespace MarkupMode

/-- All modes. -/
def all : List MarkupMode :=
  [.none, .simple, .html, .raw]

/-- The identifier of a mode. -/
def id : MarkupMode → String
  | .none => "none"
  | .simple => "simple"
  | .html => "html"
  | .raw => "raw"

/-- The mode with an identifier. -/
def ofId? (s : String) : Option MarkupMode :=
  all.find? (·.id == s)

theorem ofId?_id (mode : MarkupMode) : ofId? mode.id = some mode := by
  cases mode <;> decide

/-- What is said of a text that names no mode. -/
def unknownMessage (s : String) : String :=
  "unknown markup mode '" ++ s ++ "' (expected none, simple, html or raw)"

/-- Reads a mode. -/
def read? (r : Reading) (d : Document) : Option MarkupMode :=
  (Document.choice? r (all.map id) d).bind (all[·]?)

end MarkupMode

/-- The settings of a single name. -/
structure Settings where
  sep1 : String := " "
  sep2 : String := ", "
  sep3 : String := ""
  markup : MarkupMode := .none
  /-- Settings without a meaning of their own. -/
  extra : Catalog String := .empty
deriving DecidableEq

namespace Settings

/-- The setting under a key. -/
def get? (s : Settings) (key : String) : Option String :=
  if key = "sep1" then some s.sep1
  else if key = "sep2" then some s.sep2
  else if key = "sep3" then some s.sep3
  else if key = "markup" then some s.markup.id
  else s.extra.get? key

/-- The settings with a value under a key; none if the key is that of the markup
and the value is no mode. -/
def set? (s : Settings) (key value : String) : Option Settings :=
  if key = "sep1" then some { s with sep1 := value }
  else if key = "sep2" then some { s with sep2 := value }
  else if key = "sep3" then some { s with sep3 := value }
  else if key = "markup" then (MarkupMode.ofId? value).map fun mode => { s with markup := mode }
  else some { s with extra := s.extra.insert key value }

/-- The separator with a number; all numbers but one and two stand for the third. -/
def separator (s : Settings) (index : Nat) : String :=
  match index with
  | 1 => s.sep1
  | 2 => s.sep2
  | _ => s.sep3

/-- The JSON value of settings: the further settings stand beside the others. -/
def toJson (s : Settings) : Json :=
  .object
    ([("sep1", .text s.sep1), ("sep2", .text s.sep2), ("sep3", .text s.sep3),
      ("markup", .text s.markup.id)] ++ s.extra.entries.map fun (key, value) => (key, .text value))

/-- The keys of the settings with a meaning. -/
def ownKeys : List String :=
  ["sep1", "sep2", "sep3", "markup"]

/-- Reads settings from a map.  Of the further settings the scalars are kept. -/
def read? (r : Reading) (d : Document) : Option Settings := do
  let r ← r.enter?
  let entries ← d.entries?
  let record ← Document.ownFields? ownKeys entries
  let others ← Document.otherFields? r ownKeys entries
  let values ← others.mapM fun (key, value) => do return (key, ← value.toJson? r.room)
  return {
    sep1 := ← record.withDefault? 0 " " Document.text?
    sep2 := ← record.withDefault? 1 ", " Document.text?
    sep3 := ← record.withDefault? 2 "" Document.text?
    markup := ← record.withDefault? 3 .none (MarkupMode.read? r)
    extra := (Catalog.ofList values).filterMap Json.scalarText? }

end Settings
end PersonalNames
