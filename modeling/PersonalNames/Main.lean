import PersonalNames.CommandLine.Run

/-! # The program

Reads the files that the arguments name, runs the command and prints what it
leaves behind. -/
namespace PersonalNames
namespace CommandLine

/-- The bytes of a file. -/
def readBytes (path : String) : IO (Except FileFault (List UInt8)) := do
  try
    return .ok (← IO.FS.readBinFile path).toList
  catch
    | .noFileOrDirectory .. => return .error .notFound
    | e => return .error (.other (toString e))

/-- Runs the program on the files of the system. -/
def runOnFiles (args : List String) : IO UInt32 := do
  let paths := ((Command.ofArguments? args).map Command.paths).getD []
  let contents ← paths.mapM fun path => return (path, ← readBytes path)
  let outcome := run (fun path => (contents.lookup path).getD (.error .notFound)) args
  IO.print outcome.stdout
  IO.eprint outcome.stderr
  return outcome.code.toUInt32

end CommandLine
end PersonalNames

/-- Runs the program. -/
def main (args : List String) : IO UInt32 :=
  PersonalNames.CommandLine.runOnFiles args
