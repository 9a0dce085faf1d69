import ServiceStubs.Text.Lines
import ServiceStubs.Text.Quoted

/-!
# Numbers of arguments

A call gives values to the positional parameters of a function in order. It is refused when it
gives more values than there are parameters, and when a parameter that needs a value gets none.
-/

namespace ServiceStubs

/-- A positional parameter: its name, and whether it can do without a value. -/
abbrev PositionalParameter := String × Bool

namespace Arity

/-- Words joined in a sentence. -/
def enumerated : List String → String
  | [] => ""
  | [word] => word
  | [first, second] => first ++ " and " ++ second
  | words => Text.commaJoined words.dropLast ++ ", and " ++ words.getLast?.getD ""

/-- An ending of the plural. -/
def plural (isOne : Bool) : String := if isOne then "" else "s"

/-- What is said of a call with too many values. -/
def surplusText (function : String) (parameters : List PositionalParameter) (given : Nat) :
    String :=
  let required := (parameters.filter fun parameter => !parameter.2).length
  let isExact := required = parameters.length
  function ++ "() takes " ++ (if isExact then "" else "from " ++ toString required ++ " to ") ++
    toString parameters.length ++ " positional argument" ++
    plural (isExact && parameters.length = 1) ++ " but " ++ toString given ++
    (if given = 1 then " was" else " were") ++ " given"

/-- What is said of a call with too few values. -/
def shortageText (function : String) (missing : List String) : String :=
  function ++ "() missing " ++ toString missing.length ++ " required positional argument" ++
    plural (missing.length = 1) ++ ": " ++ enumerated (missing.map Text.quoted)

/-- What is wrong with a call that gives a number of values, if anything is. -/
def fault? (function : String) (parameters : List PositionalParameter) (given : Nat) :
    Option String :=
  if parameters.length < given then some (surplusText function parameters given)
  else match ((parameters.drop given).filter fun parameter => !parameter.2).map Prod.fst with
    | [] => none
    | missing => some (shortageText function missing)

end Arity

end ServiceStubs
