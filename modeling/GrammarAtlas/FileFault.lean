/-!
# What can go wrong with a file

Why the text of a file cannot be had.
-/

namespace GrammarAtlas

/-- Why the text of a file cannot be had. -/
inductive FileFault where
  /-- There is no such file. -/
  | missing
  /-- The path goes through something that is no directory. -/
  | notDirectory
  /-- The path leads to a directory. -/
  | isDirectory
  /-- The file does not hold text. -/
  | notText
  /-- Something else, in the words of the system. -/
  | other (report : String)
  deriving DecidableEq, Repr

/-- The wording of a fault. -/
def FileFault.message : FileFault → String
  | missing => "No such file or directory (os error 2)"
  | notDirectory => "Not a directory (os error 20)"
  | isDirectory => "Is a directory (os error 21)"
  | notText => "stream did not contain valid UTF-8"
  | other report => report

/-- The text that bytes hold. -/
def textOfBytes (bytes : ByteArray) : Except FileFault String :=
  match String.fromUTF8? bytes with
  | some text => .ok text
  | none => .error .notText

end GrammarAtlas
