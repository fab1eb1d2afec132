import PersonalNames.Failure
import PersonalNames.NameList

/-! # Formatters

A formatter formats names and lists of names by the identifiers of a
configuration.  It has settings of its own, which start as those of the
configuration, and it keeps every pattern that it has compiled. -/
namespace PersonalNames

/-- A configuration in use. -/
structure Formatter where
  configuration : Configuration
  settings : Settings
  /-- The patterns compiled so far, under their texts. -/
  compiled : Catalog Pattern

namespace Formatter

/-- A formatter that starts from a configuration. -/
def ofConfiguration (c : Configuration) : Formatter :=
  ⟨c, c.effectiveSettings, .empty⟩

/-- A pattern and the formatter that knows it afterwards. -/
def compile (f : Formatter) (source : String) : Except Failure Pattern × Formatter :=
  match f.compiled.get? source with
  | some pattern => (.ok pattern, f)
  | none =>
    match Pattern.compile source with
    | .ok pattern => (.ok pattern, { f with compiled := f.compiled.insert source pattern })
    | .error e => (.error (.pattern e), f)

/-- The pattern of an identifier; no identifier stands for the default one. -/
def patternOf (f : Formatter) (id : Option String) : Except Failure Pattern × Formatter :=
  match f.configuration.resolveName (id.getD defaultId) with
  | .error missing => (.error (.configuration (.missing missing)), f)
  | .ok (_, format) => f.compile format.pattern

/-- A name in a format. -/
def format (f : Formatter) (name : PersonName) (id : Option String) :
    Except Failure Markup × Formatter :=
  match f.patternOf id with
  | (.ok pattern, f) => (.ok (pattern.format name f.settings), f)
  | (.error e, f) => (.error e, f)

/-- A list of names in a format and a list style. -/
def formatList (f : Formatter) (names : List PersonName) (id listId : Option String) :
    Except Failure Markup × Formatter :=
  match f.patternOf id with
  | (.error e, f) => (.error e, f)
  | (.ok pattern, f) =>
    match f.configuration.resolveList (listId.getD defaultId) with
    | .error missing => (.error (.configuration (.missing missing)), f)
    | .ok (_, list) =>
      (.ok (NameList.format pattern names list.style f.settings f.configuration.terms), f)

/-- The setting under a key. -/
def setting? (f : Formatter) (key : String) : Option String :=
  f.settings.get? key

/-- The formatter with a setting changed. -/
def set (f : Formatter) (key value : String) : Except Failure Formatter :=
  match f.settings.set? key value with
  | some settings => .ok { f with settings }
  | none => .error (.setting key value)

end Formatter
end PersonalNames
