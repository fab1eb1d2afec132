import PersonalNames.ListStyle
import PersonalNames.Settings
import PersonalNames.Terms

/-! # Configurations

A configuration names patterns and list styles, and may set settings and terms.
Configurations are laid over each other: formats replace those of the same
identifier, settings replace settings as a whole, and terms one by one.  An
identifier that is not known stands for the format `default`. -/
namespace PersonalNames

/-- A named pattern. -/
structure NameFormat where
  label : Option String := none
  pattern : String
deriving DecidableEq, Repr

/-- A named list style. -/
structure ListFormat where
  label : Option String := none
  style : ListStyle := {}
deriving DecidableEq, Repr

/-- The two kinds of formats. -/
inductive FormatKind where
  | name
  | list
deriving DecidableEq, Repr

/-- The word for a kind of format. -/
def FormatKind.word : FormatKind → String
  | .name => "name"
  | .list => "list"

/-- A format that is not configured, nor is a default. -/
structure MissingFormat where
  kind : FormatKind
  id : String
deriving DecidableEq, Repr

/-- What is said of a missing format. -/
def MissingFormat.message (m : MissingFormat) : String :=
  "no " ++ m.kind.word ++ " format configured for '" ++ m.id ++
    "' and no default to fall back to"

/-- Named formats, settings and terms. -/
structure Configuration where
  nameFormats : Catalog NameFormat := .empty
  listFormats : Catalog ListFormat := .empty
  settings : Option Settings := none
  terms : Terms := {}
deriving DecidableEq

/-- The identifier that stands in for unknown ones. -/
def defaultId : String :=
  "default"

namespace Configuration

/-- A configuration with another one laid over it. -/
def overlay (c upper : Configuration) : Configuration where
  nameFormats := c.nameFormats.overlay upper.nameFormats
  listFormats := c.listFormats.overlay upper.listFormats
  settings := upper.settings.or c.settings
  terms := c.terms.overlay upper.terms

/-- The settings in force. -/
def effectiveSettings (c : Configuration) : Settings :=
  c.settings.getD {}

/-- The format of an identifier, or else the default one, with the identifier
that was found. -/
def resolve {α : Type} (kind : FormatKind) (formats : Catalog α) (id : String) :
    Except MissingFormat (String × α) :=
  match formats.get? id with
  | some format => .ok (id, format)
  | none =>
    match formats.get? defaultId with
    | some format => .ok (defaultId, format)
    | none => .error ⟨kind, id⟩

/-- The pattern of an identifier. -/
def resolveName (c : Configuration) (id : String) : Except MissingFormat (String × NameFormat) :=
  resolve .name c.nameFormats id

/-- The list style of an identifier. -/
def resolveList (c : Configuration) (id : String) : Except MissingFormat (String × ListFormat) :=
  resolve .list c.listFormats id

end Configuration
end PersonalNames
