import PersonalNames.Settings

/-! # Arguments of the command line

The program has three commands, each with a fixed number of operands and with
options.  An option is written `--name value`, `--name=value`, `-n value`,
`-nvalue` or `-n=value`, at most once; a flag takes no value.  All arguments
behind `--` are operands. -/
namespace PersonalNames
namespace CommandLine

/-- How names are written. -/
inductive OutputChoice where
  | plain
  | html
deriving DecidableEq, Repr

/-- The choice of an output with an identifier. -/
def OutputChoice.ofId? (s : String) : Option OutputChoice :=
  if s = "plain" then some .plain else if s = "html" then some .html else none

/-- What is asked of the command `format`. -/
structure FormatRequest where
  names : String
  format : Option String := none
  list : Option String := none
  config : Option String := none
  markup : Option MarkupMode := none
  output : OutputChoice := .plain
deriving DecidableEq, Repr

/-- A command with what is asked of it. -/
inductive Command where
  | format (request : FormatRequest)
  | check (pattern : String)
  | formats (config : Option String) (asJson : Bool)
deriving DecidableEq, Repr

/-- An option of a command. -/
structure OptionKind where
  name : String
  letter : Option Char := none
  takesValue : Bool := true
deriving DecidableEq, Repr

/-- Arguments sorted into operands and options. -/
structure Sorted where
  operands : List String := []
  options : List (String × String) := []

namespace Sorted

/-- The value of an option. -/
def option? (s : Sorted) (name : String) : Option String :=
  s.options.lookup name

/-- Notes the value of an option, which must not have one yet. -/
def note? (s : Sorted) (name value : String) : Option Sorted :=
  if (s.option? name).isSome then none
  else some { s with options := s.options ++ [(name, value)] }

/-- Notes an operand. -/
def add (s : Sorted) (operand : String) : Sorted :=
  { s with operands := s.operands ++ [operand] }

end Sorted

/-- An argument by its form. -/
inductive Form where
  /-- The end of the options. -/
  | separator
  | option (kind : OptionKind) (attached : Option String)
  | operand
  /-- An option that the command does not have. -/
  | unknown
deriving DecidableEq, Repr

/-- Splits a text at its first equals sign. -/
def splitValue (s : List Char) : List Char × Option String :=
  match s.dropWhile (· != '=') with
  | _ :: value => (s.takeWhile (· != '='), some (String.ofList value))
  | [] => (s, none)

/-- The form of an argument; a dash alone is an operand. -/
def form (kinds : List OptionKind) (arg : String) : Form :=
  let known (kind? : Option OptionKind) (attached : Option String) : Form :=
    match kind? with
    | some kind => .option kind attached
    | none => .unknown
  match arg.toList with
  | ['-', '-'] => .separator
  | '-' :: '-' :: rest =>
    let (name, attached) := splitValue rest
    known (kinds.find? (·.name == String.ofList name)) attached
  | ['-'] => .operand
  | '-' :: letter :: rest =>
    let attached :=
      match rest with
      | [] => none
      | '=' :: value => some (String.ofList value)
      | value => some (String.ofList value)
    known (kinds.find? (·.letter == some letter)) attached
  | _ => .operand

/-- Whether an argument may be the value of the option before it. -/
def isValue (arg : String) : Bool :=
  match arg.toList with
  | ['-'] => true
  | '-' :: _ => false
  | _ => true

/-- Sorts arguments into operands and options. -/
def sort? (kinds : List OptionKind) (s : Sorted) : List String → Option Sorted
  | [] => some s
  | arg :: args =>
    match form kinds arg with
    | .separator => some { s with operands := s.operands ++ args }
    | .operand => sort? kinds (s.add arg) args
    | .unknown => none
    | .option kind attached =>
      if kind.takesValue then
        match attached with
        | some value => (s.note? kind.name value).bind (sort? kinds · args)
        | none =>
          match args with
          | value :: args =>
            if isValue value then (s.note? kind.name value).bind (sort? kinds · args) else none
          | [] => none
      else if attached.isSome then none
      else (s.note? kind.name "").bind (sort? kinds · args)

/-- The option for further formats. -/
def configOption : OptionKind :=
  { name := "config", letter := some 'c' }

/-- The options of the command `format`. -/
def formatOptions : List OptionKind :=
  [{ name := "format", letter := some 'f' }, { name := "list", letter := some 'l' }, configOption,
    { name := "markup", letter := some 'm' }, { name := "output", letter := some 'o' }]

/-- The options of the command `formats`. -/
def formatsOptions : List OptionKind :=
  [configOption, { name := "json", takesValue := false }]

/-- A path, which is not empty. -/
def path? (s : String) : Option String :=
  if s = "" then none else some s

/-- An optional value by what its text means; a text without meaning is refused. -/
def meaning? {α : Type} (ofText : String → Option α) : Option String → Option (Option α)
  | none => some none
  | some s => (ofText s).map some

/-- The command of arguments; none if they are not as they should be. -/
def Command.ofArguments? : List String → Option Command
  | "format" :: args => do
    let s ← sort? formatOptions {} args
    let [names] := s.operands | none
    return .format {
      names := ← path? names
      format := s.option? "format"
      list := s.option? "list"
      config := ← meaning? path? (s.option? "config")
      markup := ← meaning? MarkupMode.ofId? (s.option? "markup")
      output := (← meaning? OutputChoice.ofId? (s.option? "output")).getD .plain }
  | "check" :: args => do
    let s ← sort? [] {} args
    let [pattern] := s.operands | none
    return .check pattern
  | "formats" :: args => do
    let s ← sort? formatsOptions {} args
    let [] := s.operands | none
    return .formats (← meaning? path? (s.option? "config")) (s.option? "json").isSome
  | _ => none

/-- What is said where arguments are not as they should be. -/
def usage : String :=
  "Usage: names format <NAMES> [--format ID] [--list ID] [--config FILE]\n" ++
    "                    [--markup none|simple|html|raw] [--output plain|html]\n" ++
    "       names check <PATTERN>\n" ++
    "       names formats [--config FILE] [--json]\n"

end CommandLine
end PersonalNames
