import ServiceStubs.Source.Creation
import ServiceStubs.Text.Normalization

/-!
# Executing a module

The declarations of a module are executed in order. The bases of a class are evaluated first, then
its body is executed, and then the class is made. A name with a default is bound before its
annotation is evaluated. The first fault ends the execution.
-/

namespace ServiceStubs.Source

/-! ## Normal names -/

mutual

/-- An annotation with its names in normal form; what strings hold is read later. -/
def Annotation.normalized : Annotation → Annotation
  | .name text => .name (Text.normalized text)
  | .apply origin arguments => .apply origin.normalized (normalizedAnnotations arguments)
  | .union members => .union (normalizedAnnotations members)
  | .optional member => .optional member.normalized
  | .alternatives members => .alternatives (normalizedAnnotations members)
  | .callable arguments result =>
    .callable (normalizedAnnotations arguments) result.normalized
  | .annotated inner note => .annotated inner.normalized note
  | annotation => annotation

/-- Annotations with their names in normal form. -/
def normalizedAnnotations : List Annotation → List Annotation
  | [] => []
  | annotation :: rest => annotation.normalized :: normalizedAnnotations rest

end

/-- A parameter with its names in normal form. -/
def ParameterSyntax.normalized (parameter : ParameterSyntax) : ParameterSyntax :=
  { parameter with
    name := Text.normalized parameter.name
    type := parameter.type.map Annotation.normalized }

mutual

/-- An item of a class body with its names in normal form. -/
def Item.normalized : Item → Item
  | .field name type hasDefault => .field (Text.normalized name) type.normalized hasDefault
  | .method name parameters returns decorators =>
    .method (Text.normalized name) (parameters.map ParameterSyntax.normalized)
      (returns.map Annotation.normalized) decorators
  | .lambda name parameters =>
    .lambda (Text.normalized name) (parameters.map Text.normalized)
  | .plain name value => .plain (Text.normalized name) value
  | .rebound name target => .rebound (Text.normalized name) target
  | .member name value => .member (Text.normalized name) value
  | .nested name style bases generic body =>
    .nested (Text.normalized name) style (normalizedAnnotations bases)
      (generic.map Text.normalized) (normalizedItems body)

/-- Items of a class body with their names in normal form. -/
def normalizedItems : List Item → List Item
  | [] => []
  | item :: rest => item.normalized :: normalizedItems rest

end

/-- A declaration with its names in normal form; a type variable keeps the name that it has. -/
def Declaration.normalized : Declaration → Declaration
  | .typeVariable binding name => .typeVariable (Text.normalized binding) name
  | .newType name type => .newType (Text.normalized name) type.normalized
  | .typeAlias name type => .typeAlias (Text.normalized name) type.normalized
  | .function name => .function (Text.normalized name)
  | .constant name value => .constant (Text.normalized name) value
  | .raised kind message => .raised (Text.normalized kind) message
  | .classDeclared name style bases generic body =>
    .classDeclared (Text.normalized name) style (normalizedAnnotations bases)
      (generic.map Text.normalized) (normalizedItems body)

/-! ## Names and bases -/

namespace Module

/-- The value of a name or of an expression as it is written. -/
def evaluatePath (module : Module) (scope : Scope) (path : String) : Evaluating Value :=
  match Expression.read path with
  | .ok expression => module.evaluateExpression scope expression
  | .error refusal => throw (.brokenText module.name refusal)

/-- The bases of a class as they are written: those of its statement, the class of the framework
of its style, and the statement of its type variables. -/
def writtenBases (module : Module) (scope : Scope) (style : Style) (bases : List Annotation)
    (generic : List String) : Evaluating (List Value) := do
  let values ← module.evaluateAll scope bases
  let framework := (style.framework? !bases.isEmpty).toList.map Value.standard
  let stated ← generic.mapM (module.evaluatePath scope)
  let root ← if stated.isEmpty then pure []
        else do pure [← .ofExcept (Value.stateVariables .generic stated)]
  return values ++ framework ++ root

/-- A module with the names that expressions have bound on the way at its top. -/
def settled (module : Module) : Evaluating Module := do
  let memory ← get
  set { memory with
    bound := .ofList (memory.bound.entries.filter fun entry => entry.1.1 ≠ 0) }
  return module.withBound memory

end Module

/-! ## Items -/

/-- Whether an item annotates a name. -/
def Item.isField : Item → Bool
  | .field _ _ _ => true
  | _ => false

mutual

/-- Execute an item of a class body. -/
def Item.execute (module : Module) (body : Body) : Item → Evaluating (Module × Body)
  | .field name annotation hasDefault => do
    let body ← if hasDefault then .ofExcept (body.bind module name .nothing) else pure body
    let value ← module.evaluate body.scope annotation
    return (module, ← .ofExcept (body.annotate name value))
  | .method name parameters returns decorators => do
    let wrappings ← module.wrappings body decorators
    let (found, module) ← module.defineFunction body name parameters returns
    let (module, value) ← module.decorate (.function found) wrappings
    return (module, ← .ofExcept (body.bind module name value))
  | .lambda name parameters => do
    let (found, module) := module.defineLambda body parameters
    return (module, ← .ofExcept (body.bind module name (.function found)))
  | .plain name value => do return (module, ← .ofExcept (body.bind module name (.ofDatum value)))
  | .member name value => do
    return (module, ← .ofExcept (body.bind module name (.ofDatum value)))
  | .rebound name target => do
    let value ← module.evaluatePath body.scope target
    return (module, ← .ofExcept (body.bind module name value))
  | .nested name style bases generic items => do
    let written ← module.writtenBases body.scope style bases generic
    let (making, inner) ← module.prepareClass name (body.qualifiedName ++ "." ++ name)
      (items.any Item.isField) written
    let (module, inner) ← executeItems module inner items
    let (module, value) ← module.makeClass style written making inner
    return (module, ← .ofExcept (body.bind module name value))

/-- Execute the items of a class body in order. -/
def executeItems (module : Module) (body : Body) : List Item → Evaluating (Module × Body)
  | [] => pure (module, body)
  | item :: rest => do
    let (module, body) ← item.execute module body
    executeItems module body rest

end

/-! ## Declarations -/

namespace Module

/-- The fault of a statement that raises a value: an exception, or a class of exceptions. -/
def raisedBy (module : Module) (value : Value) : Evaluating Fault := do
  let root : ClassValue := .standard (.exception "BaseException")
  let made ← match value with
    | .classValue owner =>
      if module.derivesFrom owner root then module.call value {} else pure value
    | value => pure value
  if module.isInstance made root then
    return .raised ((module.orderOf made.classOf).map ClassValue.name)
      (← .ofExcept (module.told made))
  match value with
  | .classValue owner =>
    if module.derivesFrom owner root then
      return .wrongType ("calling " ++ value.display ++ " should have returned an instance of " ++
        "BaseException, not " ++ made.classOf.display)
    return .wrongType "exceptions must derive from BaseException"
  | _ => return .wrongType "exceptions must derive from BaseException"

/-- The name that a module tells as its own. -/
def toldName (module : Module) : Except Fault String :=
  module.told ((module.global? "__name__").getD .nothing)

/-- Execute a declaration. -/
def execute (module : Module) : Declaration → Evaluating Module
  | .typeVariable binding name =>
    return { module with variableCount := module.variableCount + 1 }.bind binding
      (.typeVariable ⟨module.variableCount, name⟩)
  | .newType name annotation => do
    let value ← module.evaluate topScope annotation
    let module ← module.settled
    return { module with newTypes := module.newTypes.push value }.bind name
      (.newType module.newTypes.size (← .ofExcept module.toldName) name)
  | .typeAlias name annotation => do
    let value ← module.evaluate topScope annotation
    return (← module.settled).bind name value
  | .function name =>
    let (found, module) := module.addFunction name { qualifiedName := name, parameters := [] }
    return module.bind name (.function found)
  | .constant name value => return module.bind name (.ofDatum value)
  | .raised kind message => do
    let called ← module.evaluatePath topScope kind
    throw (← module.raisedBy (← module.call called (.ofList [.ofText message])))
  | .classDeclared name style bases generic items => do
    let written ← module.writtenBases topScope style bases generic
    let (making, body) ← module.prepareClass name name (items.any Item.isField) written
    let (module, body) ← executeItems module body items
    let (module, value) ← module.makeClass style written making body
    return (← module.settled).bind name value

/-- Execute declarations in order. -/
def executeAll (module : Module) : List Declaration → Evaluating Module
  | [] => pure module
  | declaration :: rest => do
    let module ← module.execute declaration.normalized
    module.executeAll rest

end Module

end ServiceStubs.Source
