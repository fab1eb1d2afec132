import PersonalNames.CommandLine.Arguments
import PersonalNames.Configuration.Builtin
import PersonalNames.Files
import PersonalNames.Formatter
import PersonalNames.Pattern.Listing

/-! # Running a command

A command reads files and gives an exit code, what is printed and what is said
of a failure. -/
namespace PersonalNames
namespace CommandLine

/-- What a run of the program leaves behind. -/
structure Outcome where
  code : Nat := 0
  stdout : String := ""
  stderr : String := ""
deriving DecidableEq, Repr

/-- Lines, each with its end. -/
def unlines (lines : List String) : String :=
  String.join (lines.map (· ++ "\n"))

/-- The outcome of a run that prints lines. -/
def Outcome.ofLines (lines : List String) : Outcome :=
  { stdout := unlines lines }

/-- The outcome of a run that fails after some lines. -/
def Outcome.failed (lines : List String) (context message : String) : Outcome :=
  { code := 1, stdout := unlines lines, stderr := context ++ ": " ++ message ++ "\n" }

/-- The builtin formats, with those of a file laid over them. -/
def loadFormatter (files : Files) (config : Option String) : Except Failure Formatter :=
  match config with
  | none => .ok (.ofConfiguration .builtin)
  | some path =>
    match Configuration.load files path with
    | .ok c => .ok (.ofConfiguration (Configuration.builtin.overlay c))
    | .error fault => .error (.configuration fault)

/-- A markup in the chosen output. -/
def OutputChoice.write (output : OutputChoice) (m : Markup) : String :=
  match output with
  | .plain => m.toText
  | .html => m.toHtml

/-- Formats names one by one, up to the first that fails.  The answer is the
lines so far and the failure. -/
def formatEach (f : Formatter) (id : Option String) (output : OutputChoice) :
    List PersonName → List String × Option Failure
  | [] => ([], none)
  | name :: names =>
    match f.format name id with
    | (.error e, _) => ([], some e)
    | (.ok m, f) =>
      let (lines, failure) := formatEach f id output names
      (output.write m :: lines, failure)

/-- Runs the command `format` with a formatter. -/
def runFormatWith (files : Files) (request : FormatRequest) (f : Formatter) : Outcome :=
  match PersonName.load files request.names with
  | .error e => .failed [] "Error reading names" e.message
  | .ok names =>
    match request.list with
    | some list =>
      match (f.formatList names request.format (some list)).1 with
      | .ok m => .ofLines [request.output.write m]
      | .error e => .failed [] "Error formatting names" e.message
    | none =>
      match formatEach f request.format request.output names with
      | (lines, none) => .ofLines lines
      | (lines, some e) => .failed lines "Error formatting name" e.message

/-- Runs the command `format`. -/
def runFormat (files : Files) (request : FormatRequest) : Outcome :=
  match loadFormatter files request.config with
  | .error e => .failed [] "Error loading formats" e.message
  | .ok f =>
    match request.markup with
    | none => runFormatWith files request f
    | some mode =>
      match f.set "markup" mode.id with
      | .ok f => runFormatWith files request f
      | .error e => .failed [] "Error" e.message

/-- Runs the command `check`. -/
def runCheck (source : String) : Outcome :=
  match Pattern.compile source with
  | .error e => .failed [] "Invalid pattern" e.message
  | .ok pattern =>
    .ofLines
      (("Pattern " ++ Text.quoted source ++ " compiles to " ++ toString pattern.tokens.length ++
        " tokens:") :: Token.listing 1 pattern.tokens)

/-- A text filled up with spaces to a number of characters. -/
def padded (width : Nat) (s : String) : String :=
  s ++ String.ofList (List.replicate (width - s.length) ' ')

/-- The line of a named pattern. -/
def nameLine (id : String) (f : NameFormat) : String :=
  "  " ++ padded 14 id ++ " " ++ padded 28 f.pattern ++ " " ++ f.label.getD ""

/-- The line of a named list style. -/
def listLine (id : String) (f : ListFormat) : String :=
  let cut :=
    match f.style.cut with
    | some cut =>
      ", et al after " ++ toString cut.shown ++ " (min " ++ toString cut.least ++ ")"
    | none => ""
  "  " ++ padded 14 id ++ " " ++ Text.quoted f.style.delimiter ++ " " ++ f.style.conjunction.id ++
    " " ++ f.style.delimiterBeforeLast.id ++ cut

/-- The line of a choice. -/
def choiceLine (id label : String) : String :=
  "  " ++ padded 14 id ++ " " ++ label

/-- The lines that describe a configuration. -/
def describe (c : Configuration) : List String :=
  "Name formats:" :: c.nameFormats.entries.map (fun (id, f) => nameLine id f) ++
  ["", "List formats:"] ++ c.listFormats.entries.map (fun (id, f) => listLine id f) ++
  ["", "Last delimiter types:"] ++ Conjunction.all.map (fun k => choiceLine k.id (k.label true)) ++
  ["", "Last delimiter behaviors:"] ++
    DelimiterRule.all.map (fun k => choiceLine k.id (k.label true))

/-- Runs the command `formats`. -/
def runFormats (files : Files) (config : Option String) (asJson : Bool) : Outcome :=
  match loadFormatter files config with
  | .error e => .failed [] "Error loading formats" e.message
  | .ok f =>
    if asJson then .ofLines [f.configuration.toJson.pretty]
    else .ofLines (describe f.configuration)

/-- Runs the program. -/
def run (files : Files) (args : List String) : Outcome :=
  match Command.ofArguments? args with
  | none => { code := 2, stderr := usage }
  | some (.format request) => runFormat files request
  | some (.check pattern) => runCheck pattern
  | some (.formats config asJson) => runFormats files config asJson

/-- The files that a command reads. -/
def Command.paths : Command → List String
  | .format request => request.config.toList ++ [request.names]
  | .check _ => []
  | .formats config _ => config.toList

end CommandLine
end PersonalNames
