import PersonalNames.Configuration.Basic
import PersonalNames.Json.Printer
import PersonalNames.Pattern.Compile

/-! # Failures

Everything that can go wrong, with its wording. -/
namespace PersonalNames

/-- Why a file could not be read. -/
inductive FileFault where
  | notFound
  /-- The bytes are no text. -/
  | notText
  | other (message : String)
deriving DecidableEq, Repr

/-- What is said of a file that could not be read. -/
def FileFault.message : FileFault → String
  | notFound => "No such file or directory (os error 2)"
  | notText => "stream did not contain valid UTF-8"
  | other message => message

/-- The languages in which files are written. -/
inductive Language where
  | json
  | yaml
deriving DecidableEq, Repr

/-- The name of a language. -/
def Language.name : Language → String
  | json => "JSON"
  | yaml => "YAML"

/-- Why there is no configuration, or no format in it. -/
inductive ConfigurationFault where
  | file (fault : FileFault)
  | malformed (language : Language) (message : String)
  | missing (format : MissingFormat)
deriving DecidableEq, Repr

/-- What is said of a fault of a configuration. -/
def ConfigurationFault.message : ConfigurationFault → String
  | file fault => "IO error: " ++ fault.message
  | malformed language message => language.name ++ " parse error: " ++ message
  | missing format => format.message

/-- Why something could not be done. -/
inductive Failure where
  | pattern (error : PatternError)
  | configuration (fault : ConfigurationFault)
  /-- A setting does not take the value. -/
  | setting (key value : String)
  /-- A file of names is not well formed. -/
  | malformedNames (language : Language) (message : String)
  /-- A value holds no names. -/
  | noNames (found : Json)
  | file (fault : FileFault)
deriving Repr

/-- What is said of a failure. -/
def Failure.message : Failure → String
  | pattern error => error.message
  | configuration fault => "configuration error: " ++ fault.message
  | setting key value => "invalid value " ++ Text.quoted value ++ " for setting " ++ key
  | malformedNames language message => "failed to parse " ++ language.name ++ ": " ++ message
  | noNames found =>
    "failed to parse names: expected a mapping or a list of mappings, found " ++ found.compact
  | file fault => "IO error: " ++ fault.message

end PersonalNames
