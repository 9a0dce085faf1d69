import ServiceStubs.Arity
import ServiceStubs.Source.Fault
import ServiceStubs.Source.Value

/-!
# Arguments of calls

A call gives values in order and values under names. Those in order go to the positional
parameters, the others to the parameters of their names; what is left goes to the parameters that
take any number, or the call is refused.
-/

namespace ServiceStubs.Source

/-- What a call gives. -/
structure Arguments where
  /-- The values in order. -/
  values : List Value := []
  /-- The values under names. -/
  named : List (String × Value) := []
deriving Inhabited

/-- The parameters that take values in order. -/
def positionalParameters (parameters : List Parameter) : List Parameter :=
  parameters.filter fun parameter =>
    parameter.kind = .positional || parameter.kind = .positionalOnly

/-- The name of the parameter of a kind that takes any number of values, if there is one. -/
def restParameter? (kind : ParameterKind) (parameters : List Parameter) : Option String :=
  (parameters.find? fun parameter => parameter.kind = kind).map Parameter.name

/-- What parameters stand for in a call. -/
abbrev Assignment := List (String × Value)

namespace Arguments

/-- Arguments that are all in order. -/
def ofList (values : List Value) : Arguments := { values }

/-- The arguments with a value before them. -/
def after (first : Value) (arguments : Arguments) : Arguments :=
  { arguments with values := first :: arguments.values }

/-- Whether a parameter can be named in a call. -/
def canBeNamed (parameter : Parameter) : Bool :=
  parameter.kind = .positional || parameter.kind = .keywordOnly

/-- What is wrong with the names in a call of a function, some parameters of which have values
already. -/
def nameFault? (function : String) (parameters : List Parameter) (taken : List String) :
    List (String × Value) → Option Fault
  | [] => none
  | (name, _) :: rest =>
    let known := parameters.any fun parameter => canBeNamed parameter && parameter.name = name
    let isPositional := parameters.any fun parameter =>
      parameter.kind = .positionalOnly && parameter.name = name
    if known then
      if taken.contains name then
        some (.wrongType (function ++ "() got multiple values for argument " ++ Text.quoted name))
      else nameFault? function parameters (name :: taken) rest
    else if (restParameter? .restKeyword parameters).isSome then
      nameFault? function parameters taken rest
    else if isPositional then
      some (.wrongType (function ++ "() got some positional-only arguments passed as keyword " ++
        "arguments: " ++ Text.quoted name))
    else
      some (.wrongType (function ++ "() got an unexpected keyword argument " ++ Text.quoted name))

/-- What is said of a call with too many values in order. -/
def surplusFault? (function : String) (parameters : List Parameter) (arguments : Arguments) :
    Option Fault :=
  let positional := positionalParameters parameters
  if arguments.values.length ≤ positional.length ||
      (restParameter? .restPositional parameters).isSome then none
  else some (.wrongType (Arity.surplusText function
    (positional.map fun parameter => (parameter.name, parameter.hasDefault))
    arguments.values.length))

/-- What is said of parameters that get no value. -/
def missingFault? (function : String) (parameters : List Parameter) (given : List String) :
    Option Fault :=
  let missing (isKeyword : Bool) : List String :=
    (parameters.filter fun parameter =>
      (if isKeyword then parameter.kind = .keywordOnly
        else parameter.kind = .positional || parameter.kind = .positionalOnly) &&
      !parameter.hasDefault && !given.contains parameter.name).map Parameter.name
  match missing false, missing true with
  | [], [] => none
  | [], names => some (.wrongType (function ++ "() missing " ++ toString names.length ++
      " required keyword-only argument" ++ Arity.plural (names.length = 1) ++ ": " ++
      Arity.enumerated (names.map Text.quoted)))
  | names, _ => some (.wrongType (Arity.shortageText function names))

/-- The values that parameters have in a call unless others are given. -/
def assignedDefaults (parameters : List Parameter) (defaults : List Value) : Assignment :=
  ((parameters.filter Parameter.hasDefault).map Parameter.name).zip defaults

/-- What the parameters of a function stand for in a call, if they get what they need. -/
def assign (arguments : Arguments) (function : String) (parameters : List Parameter)
    (defaults : List Value) : Except Fault Assignment := do
  let positional := (positionalParameters parameters).map Parameter.name
  let inOrder := positional.zip arguments.values
  let taken := inOrder.map Prod.fst
  if let some fault := nameFault? function parameters taken arguments.named then throw fault
  if let some fault := surplusFault? function parameters arguments then throw fault
  let isKnown (name : String) : Bool :=
    parameters.any fun parameter => canBeNamed parameter && parameter.name = name
  let named := arguments.named.filter fun entry => isKnown entry.1
  let given := taken ++ named.map Prod.fst
  if let some fault := missingFault? function parameters given then throw fault
  let rest := (restParameter? .restPositional parameters).toList.map fun name =>
    (name, Value.tuple (arguments.values.drop positional.length))
  let further := (restParameter? .restKeyword parameters).toList.map fun name =>
    (name, Value.dictionary ((arguments.named.filter fun entry => !isKnown entry.1).map
      fun entry => (.ofText entry.1, entry.2)))
  let others := (assignedDefaults parameters defaults).filter fun entry => !given.contains entry.1
  return inOrder ++ named ++ others ++ rest ++ further

end Arguments

end ServiceStubs.Source
