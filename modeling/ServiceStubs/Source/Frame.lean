import ServiceStubs.Source.Execution
import ServiceStubs.Source.Statement

/-!
# Places of execution

A statement is executed at the top of a module or in the body of a class, and it changes what is
bound there. Names are bound and taken away, functions are defined, and decorators are applied to
what is defined. What is not executed here gives a fault of its own, which no handler takes: a
change of a value, of its attributes or of its items, a function of the library of which only the
name is known, and a type that is made by a call in a way that is not followed.
-/

namespace ServiceStubs.Source

/-! ## Faults -/

/-- The names of the classes of a fault, its own first. -/
def Fault.lineage : Fault → List String
  | .raised lineage _ => lineage
  | fault => StandardClass.lineage fault.kind

/-- The exception of a name with a message. -/
def exceptionFault (name message : String) : Fault :=
  .raised (StandardClass.lineage name) message

/-- The outcome of an evaluation, unless it asks for what is not executed. -/
def Evaluating.caught {α : Type} (request : Evaluating α) : Evaluating (Except Fault α) := do
  match ← Evaluating.outcome request with
  | .ok value => return .ok value
  | .error fault => if fault.isException then return .error fault else throw fault

/-! ## Frames -/

/-- Where statements are executed: at the top of a module, or in the body of a class. -/
structure Frame where
  module : Module
  body : Option Body := none
  /-- The fault that is being handled, if one is. -/
  handled : Option Fault := none
deriving Inhabited

namespace Frame

/-- The names that statements see. -/
def scope (frame : Frame) : Scope :=
  match frame.body with
  | none => Module.topScope
  | some body => body.scope

/-- Bind a name. -/
def bind (frame : Frame) (name : String) (value : Value) : Except Fault Frame :=
  match frame.body with
  | none => .ok { frame with module := frame.module.bind name value }
  | some body =>
    (body.bind frame.module name value).map fun body => { frame with body := some body }

/-- Make a name stand for nothing. -/
def unbind (frame : Frame) (name : String) : Except Fault Frame :=
  let without (names : OrderedMap String Value) : OrderedMap String Value :=
    .ofList (names.entries.filter fun entry => entry.1 ≠ name)
  match frame.body with
  | none =>
    if frame.module.names.contains name then
      .ok { frame with module := { frame.module with names := without frame.module.names } }
    else .error (.undefinedName name)
  | some body =>
    if body.attributes.contains name then
      .ok { frame with body := some { body with attributes := without body.attributes } }
    else .error (.undefinedName name)

/-- The name of something that is made here, with the names of what holds it before it. -/
def qualified (frame : Frame) (name : String) : String :=
  match frame.body with
  | none => name
  | some body => body.qualifiedName ++ "." ++ name

/-- A name as it is bound here. -/
def bound (frame : Frame) (name : String) : String := frame.scope.bound name

/-- The value of an expression. -/
def evaluate (frame : Frame) (value : Expression) : Evaluating Value :=
  frame.module.evaluateExpression frame.scope value

/-- The values of several expressions. -/
def evaluateAll (frame : Frame) (values : List Expression) : Evaluating (List Value) :=
  values.mapM frame.evaluate

/-- A place whose module has the names that expressions have bound on the way. -/
def settled (frame : Frame) : Evaluating Frame := do
  return { frame with module := ← frame.module.settled }

/-! ## Changes of values -/

/-- The functions of lists, dictionaries and sets that change the value that they are read from. -/
def changingMethods : List String := [
  "add", "append", "clear", "difference_update", "discard", "extend", "insert",
  "intersection_update", "pop", "popitem", "remove", "reverse", "setdefault", "sort",
  "symmetric_difference_update", "update"]

/-- The built-in functions that change values or names. -/
def changingFunctions : List String := ["delattr", "exec", "setattr"]

/-- Whether an expression calls a function that changes values or names. -/
def isChange : Expression → Bool
  | .call (.attribute _ name) _ => changingMethods.contains name
  | .call (.name name) _ => changingFunctions.contains name
  | _ => false

/-- Evaluate an expression that stands in a statement of its own or on the right side of one. -/
def evaluateUnchanging (frame : Frame) (value : Expression) : Evaluating Value := do
  if isChange value then throw (.unexecuted "The change of a value")
  frame.evaluate value

/-- Whether an expression is a name, or leads from one by attributes alone. -/
def isPath : Expression → Bool
  | .name _ => true
  | .attribute owner _ => isPath owner
  | _ => false

/-- Check that what a test compares is known. -/
def checkCompared (frame : Frame) : Expression → Evaluating Unit
  | .compared operands _ => (operands.filter isPath).forM fun operand => do
    match ← frame.evaluate operand with
    | .object _ shown => throw (.unexecuted ("A comparison with " ++ shown))
    | _ => pure ()
  | _ => pure ()

/-- Whether a test holds. -/
def decide (frame : Frame) (test : Expression) : Evaluating Bool := do
  frame.checkCompared test
  match ← frame.evaluate test with
  | .object "object" shown => throw (.unexecuted ("A test of " ++ shown))
  | value => .ofExcept (frame.module.isTrue value)

/-- The items that a loop goes through. -/
def items (frame : Frame) (source : Expression) : Evaluating (List Value) := do
  let value ← frame.evaluate source
  if value matches .object _ _ then throw (.unexecuted ("A loop over " ++ value.display))
  .ofExcept (frame.module.itemsOf value)

/-! ## Type variables and new types -/

/-- A new type variable, and the place afterwards. -/
def makeVariable (frame : Frame) (arguments : List Expression) : Evaluating (Value × Frame) := do
  match arguments with
  | [.constant (.text name)] =>
    let module := frame.module
    return (.typeVariable ⟨module.variableCount, name⟩,
      { frame with module := { module with variableCount := module.variableCount + 1 } })
  | _ => throw (.unexecuted "A type variable with more than a name")

/-- A new type over another one, and the place afterwards. -/
def makeNewType (frame : Frame) (arguments : List Expression) : Evaluating (Value × Frame) := do
  match arguments with
  | [.constant (.text name), type] =>
    let type ← frame.evaluate type
    let module := frame.module
    return (.newType module.newTypes.size (← .ofExcept module.toldName) name,
      { frame with module := { module with newTypes := module.newTypes.push type } })
  | _ => throw (.unexecuted "A new type of other arguments than a name and a type")

/-- The types of classes whose calls make classes. -/
def makesClasses : Metaclass → Bool
  | .enumeration | .typedDict | .namedTuple => true
  | _ => false

/-- The value on the right side of an assignment, and the place afterwards. A call may make a type
variable or a new type. -/
def evaluateAssigned (frame : Frame) (value : Expression) : Evaluating (Value × Frame) := do
  match value with
  | .call function arguments =>
    let called ← if isPath function then frame.evaluate function else pure .nothing
    match called with
    | .classValue (.standard (.named "typing" "TypeVar")) => frame.makeVariable arguments
    | .classValue (.standard (.named "typing" "NewType")) => frame.makeNewType arguments
    | .classValue (.standard owner) =>
      if makesClasses (ClassValue.standard owner).metaclass then
        throw (.unexecuted ("A class that a call of " ++ owner.name ++ " makes"))
      return (← frame.evaluateUnchanging value, frame)
    | _ => return (← frame.evaluateUnchanging value, frame)
  | value => return (← frame.evaluateUnchanging value, frame)

/-! ## Raising -/

/-- The fault of a statement that raises an expression, or what is being handled if there is
none. -/
def raisedFault (frame : Frame) : Option Expression → Evaluating Fault
  | none => pure (frame.handled.getD
      (exceptionFault "RuntimeError" "No active exception to reraise"))
  | some value => do frame.module.raisedBy (← frame.evaluate value)

/-! ## Assignments -/

mutual

/-- Bind a place to a value. -/
def assign (frame : Frame) (value : Value) : Expression → Evaluating Frame
  | .name name => do .ofExcept ((← frame.settled).bind name value)
  | .tuple items | .list items => do
    assignAll frame (← .ofExcept (frame.module.unpackedFor items value)) items
  | .spread target => assign frame value target
  | .attribute _ name => throw (.unexecuted ("An assignment to the attribute " ++ name))
  | _ => throw (.unexecuted "An assignment to an item")

/-- Bind several places to values in order. -/
def assignAll (frame : Frame) (values : List Value) : List Expression → Evaluating Frame
  | [] => pure frame
  | target :: rest => do
    let frame ← assign frame (values.headD .nothing) target
    assignAll frame (values.drop 1) rest

end

mutual

/-- Take a place away. -/
def delete (frame : Frame) : Expression → Evaluating Frame
  | .name name => .ofExcept (frame.unbind (frame.bound name))
  | .tuple items | .list items => deleteAll frame items
  | .attribute _ name => throw (.unexecuted ("The deletion of the attribute " ++ name))
  | _ => throw (.unexecuted "The deletion of an item")

/-- Take several places away. -/
def deleteAll (frame : Frame) : List Expression → Evaluating Frame
  | [] => pure frame
  | target :: rest => do
    let frame ← delete frame target
    deleteAll frame rest

end

/-! ## Functions -/

/-- The annotations of parameters in the order in which they are evaluated. -/
def parameterTypes (frame : Frame) (parameters : List WrittenParameter) :
    Evaluating (List (String × Value)) :=
  let ordered := [0, 1, 2, 3, 4].flatMap fun rank =>
    parameters.filter fun parameter => evaluationRank parameter.kind = rank
  ordered.filterMapM fun parameter => do
    match parameter.type with
    | none => return none
    | some type => return some (frame.bound parameter.name, ← frame.evaluate type)

/-- Whether a statement of the body of a function does nothing. -/
def isIdle : Statement → Bool
  | .nothing | .returned _ none | .returned _ (some (.constant .missing)) => true
  | .value _ (.constant _) | .value _ .ellipsis => true
  | _ => false

/-- A function without its decorators, and the place afterwards. -/
def defineFunction (frame : Frame) (isAsynchronous : Bool) (name : String)
    (parameters : List WrittenParameter) (returns : Option Expression)
    (statements : List Statement) : Evaluating (Value × Frame) := do
  discard (frame.evaluateAll (parameters.filterMap WrittenParameter.default))
  let annotations ← frame.parameterTypes parameters
  let returns ← returns.mapM frame.evaluate
  let (found, module) := frame.module.addFunction name {
    qualifiedName := frame.qualified name
    parameters := parameters.map fun parameter =>
      ⟨frame.bound parameter.name, parameter.kind, parameter.default.isSome⟩
    annotations
    returns
    isUnexecuted := isAsynchronous || !statements.all isIdle }
  return (.function found, { frame with module })

/-! ## Decorators -/

/-- The decorator that makes a class a record. -/
def recordDecorator : Value := .imported "dataclasses.dataclass"

/-- Whether a value is the decorator that makes a class a record. -/
def isRecordDecorator (value : Value) : Bool := value.importedName? = recordDecorator.importedName?

/-- The decorator of functions that a value is, if it is known. -/
def decoratorOf? : Value → Option Decorator
  | .object "function" "<function event>" => some .event
  | .classValue (.standard (.named "functools" "cached_property")) => some .cachedProperty
  | value => if value.importedName? = some "abc.abstractmethod" then some .abstractMethod else none

/-- The value of a decorator. Nothing is known of what a call of a library function gives. -/
def evaluateDecorator (frame : Frame) (value : Expression) : Evaluating Value := do
  match value, ← frame.evaluate value with
  | .call _ _, .object _ shown => throw (.unexecuted ("A call of the decorator " ++ shown))
  | _, decorator => return decorator

/-- What a decorator does. -/
def wrappingOf (value : Value) : Evaluating Wrapping :=
  match decoratorOf? value, value with
  | some decorator, _ => pure (.known decorator)
  | none, .object _ shown => throw (.unexecuted ("The decorator " ++ shown))
  | none, value => pure (.called value)

/-- What decorators make of a value, and the place afterwards. -/
def decorate (frame : Frame) (value : Value) (decorators : List Value) :
    Evaluating (Value × Frame) := do
  let (module, value) ← frame.module.decorate value (← decorators.mapM wrappingOf)
  return (value, { frame with module })

end Frame

end ServiceStubs.Source
