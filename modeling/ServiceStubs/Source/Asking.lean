import ServiceStubs.Source.Method
import ServiceStubs.Source.Operators

/-!
# Asking values

User classes may keep any value under the name of a question about their instances: what they have
under a name, whether they equal another value, what an operator gives. A function gives nothing,
as all functions do; any other value is called.
-/

namespace ServiceStubs.Source.Module

section

variable (module : Module) (calling : Calling)

/-- The value other than a function that the user classes of a value keep for a question. -/
def otherAnswer? (value : Value) (name : String) : Option Value :=
  match module.questionOf? value name with
  | none | some (.function _) => none
  | some found => some found

/-- What a value that is kept for a question gives when it is called for an instance. -/
def ask (value : Value) (name : String) (found : Value) (arguments : List Value) :
    Evaluating Value := do
  calling (← .ofExcept (module.readFromInstance value name found)) (.ofList arguments)

/-! ## Attributes -/

/-- A value in a class under a name and what it keeps for being read, if that is no function. -/
def keptReader? (owner : ClassValue) (name : String) : Option (Value × Value) := do
  if (module.typeAttribute? owner name).isSome then none
  let found ← module.boundAttribute? owner name
  return (found, ← module.otherAnswer? found "__get__")

/-- What a value has under a name, when its class has nothing that is asked first. -/
def readPlainly (name : String) (value : Value) : Evaluating Value :=
  match value with
  | .classValue owner =>
    match module.keptReader? owner name with
    | some (found, reader) => calling reader (.ofList [found, .nothing, value])
    | none => .ofExcept (module.attributeOf name value)
  | value => .ofExcept (module.attributeOf name value)

/-- What a value has under a name. Its class may keep one value that is asked first, and another one
that is asked when nothing is found. -/
def read (name : String) (value : Value) : Evaluating Value := do
  let first := match module.otherAnswer? value "__getattribute__" with
    | some found => module.ask calling value "__getattribute__" found [.ofText name]
    | none => module.readPlainly calling name value
  match module.otherAnswer? value "__getattr__" with
  | none => first
  | some found =>
    match ← Evaluating.outcome first with
    | .ok result => return result
    | .error fault =>
      if fault.kind = "AttributeError" then
        module.ask calling value "__getattr__" found [.ofText name]
      else throw fault

/-- What a value has under a name, if it has something. -/
def read? (name : String) (value : Value) : Evaluating (Option Value) := do
  match ← Evaluating.outcome (module.read calling name value) with
  | .ok found => return some found
  | .error fault => if fault.kind = "AttributeError" then return none else throw fault

/-! ## Operators -/

/-- What the values that are kept for an operator give for two operands, if they give anything. -/
def answered? (name reflected : String) (left right : Value) : Evaluating (Option Value) := do
  if let some found := module.otherAnswer? left name then
    let answer ← module.ask calling left name found [right]
    if !answer.isNotImplemented then return some answer
  if (module.questionOf? left name).isSome then return none
  match module.otherAnswer? right reflected with
  | none => return none
  | some found =>
    let answer ← module.ask calling right reflected found [left]
    return if answer.isNotImplemented then none else some answer

/-- An operator between two values, for which classes may keep any values. -/
def operatedBy (operator : String) (left right : Value) : Evaluating Value := do
  match (comparisonFunctions ++ operatorFunctions).lookup operator with
  | none => module.operated operator left right
  | some (name, reflected) =>
    match ← module.answered? calling name reflected left right with
    | some answer => return answer
    | none =>
      if operator = "!=" && (module.questionOf? left name).isNone then
        if let some answer := ← module.answered? calling "__eq__" "__eq__" left right then
          return .ofBool !(← .ofExcept (module.isTrue answer))
      module.operated operator left right

/-- Whether two values are equal for one who looks a value up in a list. -/
def areEqual (left right : Value) : Evaluating Bool := do
  .ofExcept (module.isTrue (← module.operatedBy calling "==" left right))

end

end ServiceStubs.Source.Module
