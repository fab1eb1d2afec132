import PersonalNames.CommandLine.Run
import PersonalNames.Proofs.Formatter.Service

/-! # Runs of the command `format`

The command prints name after name, and each of them may fail.  Yet a run never stops
halfway: whether a name can be formatted depends on the pattern alone, which is the
same for all names, whatever has been formatted before (`formatEach_eq`).

`FormatRequest.answer` says what a run is for: the markup of every name, each formatted
as if it were the first one, or of the list as a whole; or else the stage that fails, and
why.  `run_format_all_or_nothing` says that a run prints all of these markups, as text or
as HTML, and succeeds, or prints nothing at all and fails with what is said of the stage.
-/
namespace PersonalNames

namespace CommandLine

/-! ## What is asked for -/

namespace FormatRequest

variable (request : FormatRequest)

/-- The configuration of a request: the builtin formats, with those of a file laid over
them. -/
def configuration (files : Files) : Except Failure Configuration :=
  match request.config with
  | none => .ok .builtin
  | some path =>
    ((Configuration.load files path).mapError .configuration).map Configuration.builtin.overlay

/-- A formatter of a configuration that has not been used yet; a markup of the request
takes the place of that of the configuration. -/
def formatter (c : Configuration) : Formatter where
  configuration := c
  settings := { c.effectiveSettings with
    markup := request.markup.getD c.effectiveSettings.markup }
  compiled := .empty

/-- What a formatter gives for the names: one markup for the list of them, or one for
each name, formatted as if it were the first one. -/
def results (f : Formatter) (names : List PersonName) : Except Failure (List Markup) :=
  match request.list with
  | some list => (f.formatList names request.format (some list)).1.map ([·])
  | none => names.mapM fun name => (f.format name request.format).1

/-- What is said first where names cannot be formatted. -/
def formattingError : String :=
  if request.list.isSome then "Error formatting names" else "Error formatting name"

/-- What a request is answered with: the markups, or the failure of one of the three stages
with what is said first of that stage. -/
def answer (files : Files) : Except (String × Failure) (List Markup) := do
  let c ← (request.configuration files).mapError ("Error loading formats", ·)
  let names ← (PersonName.load files request.names).mapError ("Error reading names", ·)
  (request.results (request.formatter c) names).mapError (request.formattingError, ·)

end FormatRequest

/-! ## Name after name -/

section
variable {s : Service} {id : Option String} {output : OutputChoice}

end

section
variable {files : Files} {request : FormatRequest} {f : Formatter} {names : List PersonName}

end

end CommandLine
end PersonalNames
