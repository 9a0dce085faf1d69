import ServiceStubs.Description.Types
import ServiceStubs.Types.Service

/-!
# Services of classes

The service that a class declares. Its members are the attributes of the class and of its bases,
the bases first; a name keeps the place of its first definition and has the value of its last
one. Members that are plain functions are methods, or events when they are marked as such, and
their parameters and results are described in that order. All annotations of a function are
evaluated before any of them is described.
-/

namespace ServiceStubs

open Source

namespace Source.Module

/-! ## Members -/

/-- The attributes that a class has of its own, in order. -/
def ownAttributes (module : Module) : ClassValue → List (String × Value)
  | .standard value => value.ownNames.filterMap fun name =>
    (value.attribute? name).map fun found => (name, found)
  | .user reference => (module.classAt reference.index).attributes.entries

/-- The attributes that one class contributes to a service: none if it belongs to a framework,
and none whose name begins and ends with two underscores. -/
def contributedAttributes (module : Module) (value : ClassValue) : List (String × Value) :=
  if frameworkModules.contains value.moduleName then []
  else (module.ownAttributes value).filter fun entry => !isDunder entry.1

/-- The members of a class: what each class of its order contributes, the last class first. -/
def declaredMembers (module : Module) (value : ClassValue) : OrderedMap String Value :=
  .ofList ((module.orderOf value).reverse.flatMap module.contributedAttributes)

/-- The functions among the members of a class. -/
def declaredFunctions (module : Module) (value : ClassValue) : List (String × Function) :=
  (module.declaredMembers value).entries.filterMap fun
    | (name, .function found) => some (name, module.functionAt found.index)
    | (name, .closure _ code _) =>
      some (name, { qualifiedName := "<lambda>", parameters := code.parameters })
    | _ => none

/-! ## Functions -/

/-- Whether a parameter takes exactly one argument. -/
def takesOne : ParameterKind → Bool
  | .positionalOnly | .positional | .keywordOnly => true
  | .restPositional | .restKeyword => false

/-- How a fault in the annotations of a function is told. -/
def functionFailure (function : Function) (fault : Fault) : Failure :=
  if fault.isEvaluationFailure then
    .stub (.functionAnnotations function.qualifiedName fault.message)
  else .host fault

/-- What a place without an annotation is described as. -/
def unannotated : Value := .standard .object

/-- Parameters with the types of their hints. -/
def describeParameters (module : Module) (hints : List (String × Value)) :
    List Parameter → Describing (List Param)
  | [] => pure []
  | parameter :: rest => do
    let type ← module.describe ((hints.lookup parameter.name).getD unannotated)
    let params ← module.describeParameters hints rest
    return ⟨parameter.name, type⟩ :: params

/-- The parameters of a function after the first one, which is the instance, and its result. -/
def describeFunction (module : Module) (function : Function) :
    Describing (List Param × TypeRef) := do
  let (hints, result) ← .ofEvaluating (functionFailure function) (module.functionHints function)
  let parameters := (function.parameters.drop 1).filter fun parameter => takesOne parameter.kind
  let params ← module.describeParameters hints parameters
  let returnType ← module.describe (result.getD unannotated)
  return (params, returnType)

/-! ## Services -/

/-- A service with functions described and appended in order. -/
def describeFunctions (module : Module) (service : Service) :
    List (String × Function) → Describing Service
  | [] => pure service
  | (name, function) :: rest => do
    let (params, returnType) ← module.describeFunction function
    module.describeFunctions
      (if function.isEvent then { service with events := service.events ++ [⟨name, params⟩] }
      else { service with methods := service.methods ++ [{ name, params, returnType }] })
      rest

/-- The service that a class declares. -/
def describeService (module : Module) (value : ClassValue) : Describing Service :=
  module.describeFunctions { name := value.name } (module.declaredFunctions value)

/-- Whether what a class has under a name is an event. -/
def isEvent (module : Module) (owner : ClassValue) (name : String) : Except Fault Bool := do
  return module.isMarked (← module.classAttribute owner name)

/-! ## Finding services -/

/-- The attribute of a module under a name. -/
def attribute? (module : Module) (name : String) : Option Value :=
  if name = "__class__" then some (.standard .module)
  else if module.shown.all (·.contains name) then module.global? name
  else module.ownAttribute name

/-- The value that a path of names leads to from a value, or no value if it leads nowhere. -/
def valueFrom (module : Module) (value : Value) : List String → Evaluating Value
  | [] => pure value
  | part :: rest => do
    match ← module.read? module.call part value with
    | none | some .nothing => return .nothing
    | some found => module.valueFrom found rest

/-- The value that a path of names leads to, or no value if it leads nowhere. -/
def valueAt (module : Module) : List String → Evaluating Value
  | [] => pure .nothing
  | first :: rest =>
    match module.attribute? first with
    | none | some .nothing => pure .nothing
    | some found => module.valueFrom found rest

/-- The class that a symbol stands for. Names of nested classes have dots between them. -/
def findService (module : Module) (symbol : String) : Describing ClassValue := do
  let module := module.withBound (← get).memory
  match ← .ofEvaluating .host (module.valueAt (Text.pieces '.' symbol)) with
  | .classValue value => return value
  | _ =>
    let name := ((module.global? "__name__").map Value.toDatum).getD (.text module.name)
    throw (.stub (.serviceNotFound symbol name))

end Source.Module

end ServiceStubs
