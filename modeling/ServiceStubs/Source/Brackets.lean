import ServiceStubs.Source.Call

/-!
# Brackets

What brackets after a value mean. Brackets after an enumeration look up a member; brackets after
another class apply it, if the class or one that it derives from takes arguments; brackets after a
form apply the form; and brackets after a plain value give one of its items.
-/

namespace ServiceStubs.Source

/-- What stands between brackets, apart if there are several values. -/
def argumentsOf : Value → List Value
  | .tuple items => items
  | value => [value]

/-- What a root of generic classes gives in front of type variables, which a class states with
it. -/
def Value.stateVariables (root : StandardClass) (values : List Value) : Except Fault Value := do
  if values.isEmpty then
    throw (.wrongType ("Parameter list to " ++ root.name ++ "[...] cannot be empty"))
  let variables_ ← values.mapM fun value => match value with
    | .typeVariable binder => pure binder
    | _ => throw (.wrongType ("Parameters to " ++ root.name ++
        "[...] must all be type variables or parameter specification variables."))
  if (firstOccurrences variables_).length = variables_.length then
    return .templateOf (.standard root) values
  throw (.wrongType ("Parameters to " ++ root.name ++ "[...] must all be unique"))

/-- The attribute with which a class takes arguments. -/
def acceptorName : String := "__class_getitem__"

/-- The attribute that holds the type variables of a class. -/
def parametersAttribute : String := "__parameters__"

/-- What takes the arguments in the brackets after a class. -/
inductive Acceptor
  /-- The class takes any arguments. -/
  | free
  /-- The class is generic. -/
  | template
  /-- A function of the class takes them. -/
  | function (found : Value)

namespace Module

/-- What a class has of its own to take arguments, when it is looked at for another one. -/
def acceptor? (module : Module) (value owner : ClassValue) : Option Acceptor :=
  match owner with
  | .standard .generic => some .template
  | .standard .type => if value = owner then some .free else none
  | .standard standard => if standard.isSubscriptable then some .free else none
  | .user reference =>
    ((module.classAt reference.index).attributes.get? acceptorName).map .function

/-- The number of type variables that a use of a class has to give. -/
def parameterCount (module : Module) : ClassValue → Nat
  | .standard _ => 0
  | .user reference => (module.classAt reference.index).parameters.length

/-- The member of an enumeration that brackets look up. -/
def lookUpMember (module : Module) (owner : ClassRef) (key : Value) : Except Fault Value :=
  match key.keyFault? with
  | some fault => .error fault
  | none =>
    let members := (module.classAt owner.index).members
    match key.quotation?.bind fun quotation => members.lookup quotation.text with
    | some member => .ok member
    | none => key.displayed.bind fun text => .error (.missingKey text)

section

variable (module : Module) (calling : Calling)

/-- Brackets after a class that has something of its own to take what stands in them. -/
def applyAcceptor (value : ClassValue) (found key : Value) : Evaluating Value := do
  match found with
  | .constant .missing =>
    throw (.wrongType ("type '" ++ value.fullName ++ "' is not subscriptable"))
  | .function _ | .closure _ _ _ => calling found (.ofList [.classValue value, key])
  | found =>
    match ← .ofExcept (module.readFromClass value found) with
    | .bound inner => calling inner (.ofList [.classValue value, key])
    | taker => calling taker (.ofList [key])

/-- Brackets after a class. -/
def applyClass (value : ClassValue) (key : Value) : Evaluating Value :=
  match value, value.metaclass with
  | .user reference, .enumeration => .ofExcept (module.lookUpMember reference key)
  | .standard _, .enumeration => throw (.missingKey key.display)
  | _, _ =>
    match (module.orderOf value).findSome? (module.acceptor? value) with
    | some .free => pure (.builtinOf value (argumentsOf key))
    | some .template =>
      match value with
      | .standard .generic => .ofExcept (Value.stateVariables .generic (argumentsOf key))
      | .standard .protocol => .ofExcept (Value.stateVariables .protocol (argumentsOf key))
      | value => Value.applyTemplate value (module.parameterCount value) (argumentsOf key)
    | some (.function found) => applyAcceptor module calling value found key
    | none => throw (.wrongType ("type '" ++ value.fullName ++ "' is not subscriptable"))

/-- Brackets after a value. -/
def apply (origin key : Value) : Evaluating Value := do
  match origin with
  | .classValue value => applyClass module calling value key
  | .bareAlias word => Value.applyAlias word (argumentsOf key)
  | .qualifier word => Value.applyQualifier word (argumentsOf key)
  | .form name => Value.applyForm name (argumentsOf key)
  | .builtinOf _ _ | .templateOf _ _ | .aliasOf _ _ | .union _ | .alternatives _ | .callable _ _
  | .annotated _ _ | .qualified _ _ | .literal _ =>
    Value.applyConstruction origin (argumentsOf key)
  | origin =>
    if origin.isImported then return origin
    .ofExcept (module.indexed (← get) origin key)

end

end Module

end ServiceStubs.Source
