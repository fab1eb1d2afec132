import PersonalNames.Configuration.Basic

/-! # Builtin formats

The configuration that is there before any other is laid over it. -/
namespace PersonalNames
namespace Configuration

/-- The builtin patterns. -/
def builtinNames : List (String × NameFormat) :=
  [("default", { label := some "Default", pattern := "((((t+ig)+im)+if)+is)+jc" }),
    ("full", { label := some "Full", pattern := "((((t+ig)+im)+if)+is)+jc" }),
    ("family", { label := some "Family", pattern := "f" }),
    ("given", { label := some "Given", pattern := "g" }),
    ("given-family", { label := some "Given Family", pattern := "(g+if)+is" }),
    ("formal", { label := some "Title Family", pattern := "t+if" }),
    ("short-full", { label := some "Title Given Family", pattern := "((t+ig)+if)+is" }),
    ("initials", { label := some "Initials", pattern := "(x+iy)+iz" })]

/-- The builtin list styles. -/
def builtinLists : List (String × ListFormat) :=
  [("default", { label := some "Default" }),
    ("oxford", { label := some "Serial comma", style := { delimiterBeforeLast := .contextual } })]

/-- The builtin configuration. -/
def builtin : Configuration where
  nameFormats := .ofList builtinNames
  listFormats := .ofList builtinLists
  settings := some {}

/-- The identifiers of the builtin formats of a kind. -/
def builtinIds : FormatKind → List String
  | .name => builtinNames.map Prod.fst
  | .list => builtinLists.map Prod.fst

end Configuration
end PersonalNames
