import PersonalNames.Configuration.Basic
import PersonalNames.Document.Outline

/-! # Configurations as documents

How a configuration is read from a document and written as a JSON value.  The
entries of a list format are spread over the map that also holds its label. -/
namespace PersonalNames

namespace NameFormat

/-- The JSON value of a named pattern. -/
def toJson (f : NameFormat) : Json :=
  .object (Json.textEntry "label" f.label ++ [("pattern", .text f.pattern)])

/-- The keys of a named pattern. -/
def keys : List String :=
  ["label", "pattern"]

/-- The parts of a named pattern that are read. -/
def outline : Outline :=
  .keys keys

/-- Reads a named pattern. -/
def read? (r : Reading) (d : Document) : Option NameFormat := do
  let _ ← r.enter?
  let record ← d.record? r (keys.map ([·]))
  return {
    label := ← record.withDefault? 0 none (Document.optional? Document.text?)
    pattern := ← record.required? 1 Document.text? }

end NameFormat

namespace ListFormat

/-- The JSON value of a named list style. -/
def toJson (f : ListFormat) : Json :=
  .object (Json.textEntry "label" f.label ++ f.style.entries)

/-- Reads a named list style from a map: the label first, and the style from all
other entries, whose values have got their types by then. -/
def read? (r : Reading) (d : Document) : Option ListFormat := do
  let r ← r.enter?
  let entries ← d.entries?
  let record ← Document.ownFields? ["label"] entries
  let others ← Document.otherFields? r ["label"] entries
  let rest : Document := .map (others.map fun (key, value) => (.text key, value))
  return {
    label := ← record.withDefault? 0 none (Document.optional? Document.text?)
    style := ← ListStyle.read? .settled rest }

end ListFormat

namespace Configuration

/-- The JSON value of named formats. -/
def formatsToJson {α : Type} (toJson : α → Json) (formats : Catalog α) : Json :=
  .object (formats.entries.map fun (id, format) => (id, toJson format))

/-- The JSON value of a configuration.  What is empty is left out, except for
the terms. -/
def toJson (c : Configuration) : Json :=
  .object
    ((if c.nameFormats.isEmpty then []
      else [("name-formats", formatsToJson NameFormat.toJson c.nameFormats)]) ++
    (if c.listFormats.isEmpty then []
      else [("list-formats", formatsToJson ListFormat.toJson c.listFormats)]) ++
    (match c.settings with
      | some settings => [("settings", settings.toJson)]
      | none => []) ++
    [("terms", c.terms.toJson)])

/-- Reads named formats from a map; of a repeated identifier the last one stays. -/
def readFormats? {α : Type} (r : Reading) (read? : Reading → Document → Option α) (d : Document) :
    Option (Catalog α) := do
  let r ← r.enter?
  let entries ← d.entries?
  let formats ← entries.mapM fun entry => do return (← entry.1.text?, ← read? r entry.2)
  return .ofList formats

/-- The keys of a configuration, each with the parts of its value that are read. -/
def fields : List (String × Outline) :=
  [("name-formats", .each NameFormat.outline), ("list-formats", .whole), ("settings", .whole),
    ("terms", Terms.outline)]

/-- The parts of a configuration that are read. -/
def outline : Outline :=
  .fields fields

/-- Reads a configuration. -/
def read? (r : Reading) (d : Document) : Option Configuration := do
  let r ← r.enter?
  let record ← d.record? r (fields.map fun field => [field.1])
  return {
    nameFormats := ← record.withDefault? 0 .empty (readFormats? r NameFormat.read?)
    listFormats := ← record.withDefault? 1 .empty (readFormats? r ListFormat.read?)
    settings := ← record.withDefault? 2 none (Document.optional? (Settings.read? r))
    terms := ← record.withDefault? 3 {} (Terms.read? r) }

end Configuration
end PersonalNames
