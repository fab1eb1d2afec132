import PersonalNames.Configuration.Written
import PersonalNames.Failure
import PersonalNames.Json.Reader
import PersonalNames.PersonName
import PersonalNames.Text.Utf8
import PersonalNames.Yaml.Reader

/-! # Configurations and names in files

Files are read through a function from paths to bytes.  A file whose name ends
in `.json` holds JSON, and any other file holds YAML. -/
namespace PersonalNames

/-- The files that can be read. -/
abbrev Files := String → Except FileFault (List UInt8)

/-- The file name at the end of a path. -/
def fileName (path : String) : String :=
  let parts := (path.toList.splitOn '/').map String.ofList
  (parts.filter fun part => part != "" && part != ".").getLast?.getD ""

/-- What follows the last full stop of a file name that does not start with it. -/
def extension? (path : String) : Option String :=
  let backwards := (fileName path).toList.reverse
  let ending := backwards.takeWhile (· != '.')
  match backwards.drop ending.length with
  | _ :: _ :: _ => some (String.ofList ending.reverse)
  | _ => none

/-- The language of a file. -/
def Language.ofPath (path : String) : Language :=
  if extension? path = some "json" then .json else .yaml

namespace Configuration

/-- The configuration of a YAML text. -/
def ofYaml (text : String) : Except ConfigurationFault Configuration :=
  match Yaml.read outline text with
  | .error problem => .error (.malformed .yaml problem)
  | .ok d =>
    match read? .yaml d with
    | some c => .ok c
    | none => .error (.malformed .yaml "not a configuration")

/-- The configuration of a JSON text. -/
def ofJson (text : String) : Except ConfigurationFault Configuration :=
  match Json.read? text with
  | none => .error (.malformed .json "not a value")
  | some d =>
    match read? .json d with
    | some c => .ok c
    | none => .error (.malformed .json "not a configuration")

/-- The configuration of a file. -/
def load (files : Files) (path : String) : Except ConfigurationFault Configuration :=
  match files path with
  | .error fault => .error (.file fault)
  | .ok bytes =>
    match Text.decode? bytes with
    | none => .error (.file .notText)
    | some text =>
      match Language.ofPath path with
      | .json => ofJson text
      | .yaml => ofYaml text

end Configuration

namespace PersonName

/-- The names that a JSON value holds: the items of an array, the one name of an
object, or none where there is null. -/
def listOfJson : Json → Except Failure (List PersonName)
  | .array items => .ok (items.map ofJson)
  | .object entries => .ok [ofJson (.object entries)]
  | .null => .ok []
  | found => .error (.noNames found)

/-- The JSON value of a JSON text in bytes. -/
def jsonOfBytes? (bytes : List UInt8) : Option Json := do
  let text ← Text.decode? bytes
  (← Json.read? text).toJson? Reading.json.room

/-- The JSON value of a YAML text in bytes.  Bytes that are no text are replaced. -/
def jsonOfYamlBytes (bytes : List UInt8) : Except Yaml.Problem Json := do
  let d ← Yaml.read .whole (Text.decodeLossy bytes)
  match d.toJson? Reading.yaml.room with
  | some v => return v
  | none => throw "a value that cannot be read"

/-- The names of a file. -/
def load (files : Files) (path : String) : Except Failure (List PersonName) :=
  match files path with
  | .error fault => .error (.file fault)
  | .ok bytes =>
    match Language.ofPath path with
    | .json =>
      match jsonOfBytes? bytes with
      | some v => listOfJson v
      | none => .error (.malformedNames .json "not a value")
    | .yaml =>
      match jsonOfYamlBytes bytes with
      | .ok v => listOfJson v
      | .error problem => .error (.malformedNames .yaml problem)

end PersonName
end PersonalNames
