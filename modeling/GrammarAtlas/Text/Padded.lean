/-!
# Texts in columns

A text at the right of a column that it does not fill. A text that is wider than the column is left
as it is.
-/

namespace GrammarAtlas.Text

/-- A text at the right of a column of so many characters. -/
def padLeft (width : Nat) (text : String) : String :=
  String.ofList (List.replicate (width - text.length) ' ' ++ text.toList)

end GrammarAtlas.Text
