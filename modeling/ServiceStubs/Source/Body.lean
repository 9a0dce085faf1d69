import ServiceStubs.Source.Evaluation
import ServiceStubs.Source.MemberNames

/-!
# Class bodies

What the body of a class binds while it is executed: attributes and annotations under their
private names. A function is defined with the annotations that are evaluated in its definition, and
decorators then wrap or mark it. The mark is kept with the function, so whatever else is bound to
the function shows it too.
-/

namespace ServiceStubs.Source

/-! ## Class bodies -/

/-- The attribute that holds the annotations of a class. -/
def annotationsName : String := "__annotations__"

/-- What the body of a class has bound so far. -/
structure Body where
  /-- The name of the class. -/
  className : String
  /-- The name of the class with the names of the enclosing classes before it. -/
  qualifiedName : String
  attributes : OrderedMap String Value := .empty
  annotations : OrderedMap String Value := .empty
  /-- What the body has put in the place of its annotations, if that holds none. -/
  strayAnnotations : Option Value := none
  /-- The body annotates names somewhere, so it has a place for annotations from the start. -/
  hasAnnotations : Bool := false
  /-- In the body of an enumeration, the names of members. -/
  naming : Option MemberNaming := none
deriving Inhabited

namespace Body

/-- A body with a value in the place of its annotations. -/
def withAnnotations (body : Body) (value : Value) : Body :=
  match value.plain with
  | .dictionary entries => { body with
      annotations := .ofList (entries.filterMap fun entry =>
        entry.1.quotation?.map fun quotation => (quotation.text, entry.2))
      strayAnnotations := none }
  | _ => { body with annotations := .empty, strayAnnotations := some value }

/-- Bind a name. -/
def bind (body : Body) (module : Module) (name : String) (value : Value) : Except Fault Body :=
  let name := privateName body.className name
  let body := if name = annotationsName then body.withAnnotations value else body
  match body.naming with
  | none => .ok { body with attributes := body.attributes.put name value }
  | some naming => do
    let (naming, key) ← naming.bind module body.className body.attributes.get? name value
    return { body with naming := some naming, attributes := body.attributes.put key value }

/-- Annotate a name. -/
def annotate (body : Body) (name : String) (type : Value) : Except Fault Body :=
  match body.strayAnnotations with
  | some value => .error (.wrongType (match value.plain with
    | .list _ => "list indices must be integers or slices, not str"
    | _ => "'" ++ value.typeName ++ "' object does not support item assignment"))
  | none => .ok
      { body with annotations := body.annotations.put (privateName body.className name) type }

/-- The annotations of a body as a value. -/
def annotationTable (body : Body) : Value :=
  .dictionary (body.annotations.entries.map fun entry => (.ofText entry.1, entry.2))

/-- The names in a body. -/
def scope (body : Body) : Scope where
  outline := .body body.className (
    if body.hasAnnotations && !body.attributes.contains annotationsName then
      body.attributes.put annotationsName body.annotationTable
    else body.attributes)
  home := none

end Body

/-! ## Decorators -/

/-- The attribute that marks a function as an event. -/
def eventMark : String := "__rpc_event__"

/-- The attribute that marks a function as abstract. -/
def abstractMark : String := "__isabstractmethod__"

/-- The names of the decorators that a module does not have to import. -/
def Decorator.builtinName? : Decorator → Option String
  | .staticMethod => some "staticmethod"
  | .classMethod => some "classmethod"
  | .property => some "property"
  | .event | .abstractMethod | .cachedProperty => none

/-- What is applied to a function that is defined. -/
inductive Wrapping
  /-- A decorator that every module has. -/
  | known (decorator : Decorator)
  /-- A value that is called with the function. -/
  | called (value : Value)
deriving Inhabited

namespace Module

/-- A module in which a function is changed. -/
def withFunction (module : Module) (found : FunctionRef) (change : Function → Function) : Module :=
  { module with functions := module.functions.modify found.index change }

/-- What is wrong with setting an attribute of a value, if anything is. -/
def settingFault? (value : Value) (name : String) : Option Fault :=
  match value with
  | .function _ | .closure _ _ _ | .newType _ _ _ | .classValue (.user _)
  | .instanceOf (.user _) _ _ _ _ | .member _ _ _ _ | .wrapped .static _ _
  | .wrapped .classBound _ _ | .wrapped (.cached _) _ _ => none
  | .classValue (.standard owner) => some (.wrongType ("cannot set " ++ Text.quoted name ++
      " attribute of immutable type '" ++ owner.fullName ++ "'"))
  | value => some (.missingValueAttribute value.typeName name)

/-- What a known decorator makes of a value, and the module afterwards. -/
def applyDecorator (module : Module) : Decorator → Value → Except Fault (Module × Value)
  | .event, .function found =>
    .ok (module.withFunction found ({ · with isEvent := true }), .function found)
  | .event, .wrapped .property _ _ => .error (.missingValueAttribute "property" eventMark)
  | .event, .wrapped wrapper _ inner => .ok (module, .wrapped wrapper true inner)
  | .event, value => (settingFault? value eventMark).elim (.ok (module, value)) .error
  | .abstractMethod, .function found =>
    .ok (module.withFunction found ({ · with isAbstract := true }), .function found)
  | .abstractMethod, .wrapped (.cached name) isMarked inner =>
    .ok (module, .wrapped (.cached name) isMarked inner)
  | .abstractMethod, .wrapped wrapper isMarked inner =>
    .error (.readOnlyAttribute (Value.wrapped wrapper isMarked inner).typeName abstractMark)
  | .abstractMethod, value => (settingFault? value abstractMark).elim (.ok (module, value)) .error
  | .staticMethod, value => .ok (module, .wrapped .static false value)
  | .classMethod, value => .ok (module, .wrapped .classBound false value)
  | .property, value => .ok (module, .wrapped .property false value)
  | .cachedProperty, value => .ok (module, .wrapped (.cached none) false value)

/-- What wrappings make of a value, and the module afterwards; the last one is applied first. -/
def decorate (module : Module) (value : Value) : List Wrapping → Evaluating (Module × Value)
  | [] => pure (module, value)
  | wrapping :: rest => do
    let (module, value) ← module.decorate value rest
    match wrapping with
    | .known decorator => .ofExcept (module.applyDecorator decorator value)
    | .called called => return (module, ← module.call called (.ofList [value]))

/-- What the decorators of a function stand for in the body of a class. -/
def wrappings (module : Module) (body : Body) (decorators : List Decorator) :
    Evaluating (List Wrapping) :=
  decorators.mapM fun decorator => do
    match decorator.builtinName? with
    | none => return .known decorator
    | some name => return .called (← module.lookUp body.scope name)

end Module

/-! ## Functions -/

/-- The place of the annotation of a parameter among those that are evaluated: ordinary
parameters, positional ones, the rest of the positional arguments, keywords, the rest of them. -/
def evaluationRank : ParameterKind → Nat
  | .positional => 0
  | .positionalOnly => 1
  | .restPositional => 2
  | .keywordOnly => 3
  | .restKeyword => 4

/-- Parameters in the order in which their annotations are evaluated. -/
def inEvaluationOrder (parameters : List ParameterSyntax) : List ParameterSyntax :=
  [0, 1, 2, 3, 4].flatMap fun rank =>
    parameters.filter fun parameter => evaluationRank parameter.kind = rank

namespace Module

/-- The annotations of parameters in the body of a class. -/
def evaluateParameters (module : Module) (body : Body) :
    List ParameterSyntax → Evaluating (List (String × Value))
  | [] => pure []
  | parameter :: rest =>
    match parameter.type with
    | none => module.evaluateParameters body rest
    | some annotation => do
      let value ← module.evaluate body.scope annotation
      let values ← module.evaluateParameters body rest
      return (privateName body.className parameter.name, value) :: values

/-- A function defined in the body of a class, and the module with it. -/
def defineFunction (module : Module) (body : Body) (name : String)
    (parameters : List ParameterSyntax) (returns : Option Annotation) :
    Evaluating (FunctionRef × Module) := do
  let annotations ← module.evaluateParameters body (inEvaluationOrder parameters)
  let returns ← match returns with
    | none => pure none
    | some annotation => do pure (some (← module.evaluate body.scope annotation))
  return module.addFunction name {
    qualifiedName := body.qualifiedName ++ "." ++ name
    parameters := parameters.map fun parameter =>
      ⟨privateName body.className parameter.name, parameter.kind, parameter.hasDefault⟩
    annotations
    returns }

/-- A function without annotations or a name of its own, and the module with it. -/
def defineLambda (module : Module) (body : Body) (parameters : List String) :
    FunctionRef × Module :=
  module.addFunction "<lambda>" {
    qualifiedName := body.qualifiedName ++ ".<lambda>"
    parameters := parameters.map fun parameter =>
      { name := privateName body.className parameter } }

end Module

end ServiceStubs.Source
