/-!
# Refusals of texts

A text that is no code is refused with a message, the line where this shows, and the kind of its
flaw, because lines that are indented wrongly are told apart from other flaws.
-/

namespace ServiceStubs.Source

/-- What is wrong with a text that is no code. -/
inductive Flaw
  | grammar
  /-- A line is indented where it may not be, or is not where it has to be. -/
  | indentation
  /-- Tabs and blanks are mixed so that lines cannot be compared. -/
  | tabs
deriving DecidableEq, Repr, Inhabited

/-- Why a text is no code, and the line where this shows. -/
structure Refusal where
  message : String
  line : Nat
  flaw : Flaw := .grammar
deriving DecidableEq, Repr, Inhabited

/-- The name of the family of exceptions for a flaw. -/
def Flaw.kind : Flaw → String
  | .grammar => "SyntaxError"
  | .indentation => "IndentationError"
  | .tabs => "TabError"

/-- What is told of a refusal in a file. -/
def Refusal.told (refusal : Refusal) (fileName : String) : String :=
  refusal.message ++ " (" ++ fileName ++ ", line " ++ toString refusal.line ++ ")"

end ServiceStubs.Source
