import ServiceStubs.Closure
import ServiceStubs.Document
import ServiceStubs.Members
import ServiceStubs.Options

/-!
# Stubs

The stub of a service is one TypeScript module. It declares every type that the service reaches
and the target language does not have already, then the service interface, whose methods return
promises and whose events take callbacks, then the list of callable method names and the table of
argument names of each method. The module exports every declared name.

The names of the interface and of the two constants are reserved before any type is registered.
-/

namespace ServiceStubs

open Document (Argument Interface Enum Constant TypedConstant MethodSignature EventSignature)

/-- A generated file. -/
structure StubFile where
  name : String
  content : String
deriving DecidableEq, Repr, Inhabited

/-- What is generated for a service, with what a log tells about it. -/
structure Stub where
  /-- The name of the file. -/
  fileName : String
  /-- The text of the file, or the fault of a line that cannot be indented. -/
  text : Except Source.Fault String
  /-- The numbers of operations, events and declared types. -/
  methodCount : Nat
  eventCount : Nat
  typeCount : Nat
  /-- The registered names in order of registration. -/
  registeredNames : List String
deriving Inhabited

/-- The file of a stub, which there is when all its lines can be indented. -/
def Stub.file (stub : Stub) : Except Source.Fault StubFile := do
  return ⟨stub.fileName, ← stub.text⟩

/-- A text between double quotes, as it is. -/
def doubleQuoted (text : String) : String := "\"" ++ text ++ "\""

namespace Stub

/-- The name of the constant that lists the callable methods. -/
def methodsName (serviceName : String) : String := serviceName ++ "_methods"

/-- The name of the constant that lists the argument names of each method. -/
def argumentsName (serviceName : String) : String := serviceName ++ "_arguments"

/-- The names that a stub declares beside its types. -/
def ownNames (serviceName : String) : List String :=
  [serviceName, methodsName serviceName, argumentsName serviceName]

/-- The expression of the constant that lists the callable methods. -/
def methodsExpression (operations : List Operation) : String :=
  "[" ++ Text.commaJoined (operations.map fun operation => doubleQuoted operation.name) ++ "]"

/-- The entry of one method in the table of argument names. -/
def argumentEntry (operation : Operation) : String :=
  doubleQuoted operation.name ++ ": [" ++
    Text.commaJoined (operation.params.map fun param => doubleQuoted param.name) ++ "]"

/-- The expression of the table of argument names. -/
def argumentsExpression (operations : List Operation) : String :=
  "\x7b" ++ Text.commaJoined (operations.map argumentEntry) ++ "\x7d"

section

variable (registry : Registry) (graph : TypeGraph)

/-- The arguments for some parameters. -/
def arguments (params : List Param) : Except StubError (List Argument) :=
  params.mapM fun param => do return ⟨param.name, ← registry.map graph param.type⟩

/-- The interface member for an operation; its result is wrapped by the promise template. -/
def methodSignature (options : Options) (operation : Operation) :
    Except StubError MethodSignature := do
  let arguments ← arguments registry graph operation.params
  let result ← registry.map graph operation.returnType
  return ⟨operation.name, arguments, Registry.composeGeneric options.promiseType result⟩

/-- The interface member for an event. -/
def eventSignature (event : Event) : Except StubError EventSignature := do
  return ⟨event.name, ← arguments registry graph event.params⟩

/-- The declaration of a type of the closure. -/
def declaration (index : Nat) : Except StubError Document.Node := do
  let atom := graph.atom index
  let name ← registry.map graph (.atom index)
  match atom.kind with
  | .enumeration => return .enum ⟨name, atom.members.map Datum.told⟩
  | _ =>
    let fields ← atom.fields.mapM fun field => do
      return (⟨field.name, ← registry.map graph field.type⟩ : Document.Field)
    return .interface { name, fields, typeParameters := atom.typeParameters }

end

/-- The name under which a top-level construct is exported. -/
def exportedName? : Document.Node → Option String
  | .interface node => some node.name
  | .enum node => some node.name
  | .constant node => some node.name
  | .typedConstant node => some node.name
  | _ => none

/-- The registry before any type of a service is registered. -/
def startingRegistry (serviceName : String) : Registry :=
  Registry.typescript.reserve (ownNames serviceName)

/-- The top-level constructs of a stub, given the closure of its types. -/
def contents (options : Options) (graph : TypeGraph) (service : Service) (closure : Closure) :
    Except StubError (List Document.Node) := do
  let members := service.members
  let declarations ← closure.types.mapM (declaration closure.registry graph)
  let methods ← members.operations.mapM (methodSignature closure.registry graph options)
  let events ← members.events.mapM (eventSignature closure.registry graph)
  return declarations ++ [
    .interface { name := service.name, methods, events },
    .typedConstant ⟨methodsName service.name, "Array<keyof " ++ service.name ++ ">",
      methodsExpression members.operations⟩,
    .constant ⟨argumentsName service.name, argumentsExpression members.operations⟩]

/-- The file construct of a stub. -/
def document (contents : List Document.Node) : Document.Node :=
  .file [] contents (contents.filterMap exportedName?)

/-- The stub of a service. -/
def generate (options : Options) (graph : TypeGraph) (service : Service) :
    Except StubError Stub := do
  let members := service.members
  let closure ← (startingRegistry service.name).resolve graph members.types
  let contents ← contents options graph service closure
  return {
    fileName := options.fileName service.name
    text := Document.render options.layout [document contents]
    methodCount := members.operations.length
    eventCount := members.events.length
    typeCount := closure.types.length
    registeredNames := closure.registry.entryNames }

end Stub

end ServiceStubs
