import ServiceStubs.Source.Builtin

/-!
# Calls

What a call of a value gives. A call of a class makes an instance, a call of a construction is one
of what it is made of, and a call of a function gives nothing, because what functions do is not
known; but it has to give values to all parameters that need one.
-/

namespace ServiceStubs.Source

/-- The aliases of `typing` that are never called. -/
def closedAliases : List String := ["List", "Dict", "Set", "FrozenSet", "Tuple", "Type"]

/-- The fault of a form that is called. -/
def formCallFault (name : String) : Fault := .wrongType ("Cannot instantiate typing." ++ name)

namespace Module

section

variable (module : Module) (calling : Calling)

/-- A call of an alias. -/
def callAlias (word : TypingAlias) (arguments : Arguments) : Evaluating Value :=
  if closedAliases.contains word.name then
    throw (.wrongType ("Type " ++ word.name ++ " cannot be instantiated; use " ++
      word.origin.name ++ "() instead"))
  else module.callClass calling (.standard word.origin) arguments

/-- A call of a value that is no function without a name. -/
def callValue (called : Value) (arguments : Arguments) : Evaluating Value := do
  match called with
  | .function found => .ofExcept (module.callFunction found arguments)
  | .bound inner => calling inner (arguments.after (.unknown "self"))
  | .wrapped .static _ inner => calling inner arguments
  | .classValue value => module.callClass calling value arguments
  | .builtinOf origin _ | .templateOf origin _ => module.callClass calling origin arguments
  | .newType _ _ _ => do
    let given ← .ofExcept ((Signature.exactly 1).arranged "_typing._idfunc" "_idfunc" arguments)
    return ((given[0]?).join).getD .nothing
  | .bareAlias word | .aliasOf word _ => callAlias module calling word arguments
  | .callable _ _ => module.callClass calling (.standard .callable) arguments
  | .annotated inner _ => calling inner arguments
  | .qualifier word | .qualified word _ => throw (formCallFault word.name)
  | .form name => throw (formCallFault name)
  | .union _ => throw (formCallFault "Union")
  | .literal _ => throw (formCallFault "Literal")
  | .builtin name => module.callBuiltin calling name arguments
  | .method owner name =>
    module.callMethod calling (module.methodOwner owner name) name owner arguments
  | .descriptor owner name => module.callDescriptor calling owner name arguments
  | .member _ _ _ _ | .instanceOf _ _ _ _ _ =>
    match module.boundAttribute? called.classOf "__call__" with
    | some found => do
      match ← .ofExcept (module.readFromInstance called "__call__" found) with
      | .bound inner => calling inner (arguments.after called)
      | .method _ _ => throw (.notCallable called.typeName)
      | other => calling other arguments
    | none => throw (.notCallable called.typeName)
  | called =>
    if called.isImported then return called
    else if ["function", "method"].contains called.typeName then return .unknown "result"
    else throw (.notCallable called.typeName)

end

end Module

end ServiceStubs.Source
