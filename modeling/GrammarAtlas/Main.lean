import GrammarAtlas.CommandLine

/-!
# The command

Runs the command line on the files and streams of the system.
-/

namespace GrammarAtlas.CommandLine

/-- The fault that a failure to read a file shows. -/
def faultOf : IO.Error → FileFault
  | .noFileOrDirectory .. => .missing
  | .inappropriateType _ code details =>
    if code = 20 then .notDirectory
    else if code = 21 then .isDirectory
    else .other details
  | error => .other (toString error)

/-- Reads the text of a file. -/
def readFile (path : String) : IO (Except FileFault String) := do
  try
    return textOfBytes (← IO.FS.readBinFile path)
  catch error => return .error (faultOf error)

end GrammarAtlas.CommandLine

/-- Runs the command. -/
def main (arguments : List String) : IO UInt32 := do
  let outcome ← GrammarAtlas.CommandLine.run GrammarAtlas.CommandLine.readFile arguments
  (← IO.getStdout).putStr outcome.output
  (← IO.getStderr).putStr outcome.errors
  return outcome.code.toUInt32
