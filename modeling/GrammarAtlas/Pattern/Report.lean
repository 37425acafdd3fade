import GrammarAtlas.Pattern.Fault
import GrammarAtlas.Text.Padded

/-!
# Showing what is wrong with a pattern

A report repeats the pattern, marks the parts that are to blame and words the fault. A pattern of
several lines is shown with line numbers between rulers; a part that goes over several lines is
described instead of marked.
-/

namespace GrammarAtlas.Pattern

/-- A line without the carriage return in front of its line break. -/
def withoutReturn (reversed : List Char) : List Char :=
  match reversed with
  | '\r' :: rest => rest.reverse
  | _ => reversed.reverse

/-- The lines of a text, the reversed characters `done` being the front of the first one. Line
breaks end lines; there is no line behind the last of them. -/
def linesOnto (done : List Char) : List Char → List (List Char)
  | [] => if done.isEmpty then [] else [done.reverse]
  | char :: rest =>
    if char = '\n' then withoutReturn done :: linesOnto [] rest else linesOnto (char :: done) rest

/-- The lines of a text. -/
def linesOf (text : List Char) : List (List Char) := linesOnto [] text

/-- Carets under parts of one line, which are given in order; `column` have been written. -/
def caretsFrom : (column : Nat) → List Span → List Char
  | _, [] => []
  | column, span :: spans =>
    let blanks := span.start.column - 1 - column
    let carets := max 1 (span.stop.column - span.start.column)
    List.replicate blanks ' ' ++ List.replicate carets '^' ++
      caretsFrom (column + blanks + carets) spans

/-- The parts of a failure in order. -/
def Failure.spans (failure : Failure) : List Span :=
  match failure.earlier with
  | none => [failure.span]
  | some earlier =>
    if failure.span.precedes earlier then [failure.span, earlier] else [earlier, failure.span]

/-- The ruler above and below a pattern of several lines. -/
def ruler : String := String.ofList (List.replicate 79 '~')

/-- The place of a part that goes over several lines. -/
def Span.words (span : Span) : String :=
  "on line " ++ toString span.start.line ++ " (column " ++ toString span.start.column ++
    ") through line " ++ toString span.stop.line ++ " (column " ++
    toString (span.stop.column - 1) ++ ")"

/-- The pattern with its marks, line by line; line numbers take up `width` columns, and there are
none if `width` is zero. -/
def Failure.notated (failure : Failure) (width : Nat) (lines : List (List Char)) : List String :=
  lines.zipIdx.flatMap fun (line, index) =>
    let label :=
      if width = 0 then "    " else Text.padLeft width (toString (index + 1)) ++ ": "
    let shown := label ++ String.ofList line
    match failure.spans.filter fun span => span.isOneLine && span.start.line = index + 1 with
    | [] => [shown]
    | spans =>
      [shown, String.ofList (List.replicate label.length ' ' ++ caretsFrom 0 spans)]

/-- The report of a failure in a pattern. -/
def Failure.report (failure : Failure) (source : String) : String :=
  let text := source.toList
  let lines := linesOf text
  let count := if text.getLast? = some '\n' then lines.length + 1 else lines.length
  let width := if count ≤ 1 then 0 else (toString count).length
  let notated := failure.notated width lines
  let error := "error: " ++ failure.fault.message
  let body :=
    if text.contains '\n' then
      [ruler] ++ notated ++ [ruler] ++
        (failure.spans.filter fun span => !span.isOneLine).map Span.words
    else notated
  "\n".intercalate (["regex parse error:"] ++ body ++ [error])

end GrammarAtlas.Pattern
