import GrammarAtlas.Pattern.Meaning
import GrammarAtlas.Pattern.Nesting
import GrammarAtlas.Pattern.Parser
import GrammarAtlas.Pattern.Report

/-!
# The verdict on a pattern

A pattern is accepted if it can be read, is not nested too deep and has a meaning. These are asked
in this order, each of the pattern as a whole.
-/

namespace GrammarAtlas.Pattern

/-- Why a pattern is refused, if it is. -/
def failure? (source : String) : Option Failure :=
  match Node.ofPattern source.toList with
  | .error failure => some failure
  | .ok node =>
    match node.tooDeep? maxNesting with
    | some span => some { fault := .tooDeep, span }
    | none =>
      match node.check true with
      | .error failure => some failure
      | .ok _ => none

/-- The report on a pattern that is refused. -/
def report? (source : String) : Option String :=
  (failure? source).map fun failure => failure.report source

end GrammarAtlas.Pattern
