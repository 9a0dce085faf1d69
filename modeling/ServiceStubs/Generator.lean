import ServiceStubs.Description.Service
import ServiceStubs.Loading.Import
import ServiceStubs.Stub

/-!
# Generators

A generator is found by a short name in any case, or by a path: the name of a module and, after
the first colon, the name of a generator class in it. The class may be one of the program, or one
that a module of the user derives from what generators have in common; nothing but generator classes
is accepted. A generator is made of its class with the options of a run. The class that only states
what generators have in common can be found, but no generator can be made of it. What the code of a
user's class does is not known here: the creation of its instances is told from outside.
-/

namespace ServiceStubs

open Source (ClassRef Failure Fault Module Value)

/-! ## What generators make -/

/-- What a generator makes of a service. -/
structure Generation where
  /-- Lines for the log on the way to the files. -/
  log : List String := []
  files : Except Failure (List StubFile)
  /-- Lines for the log when the files are made. -/
  report : List String := []
deriving Inhabited

/-- A line of the log. -/
def logLine (level logger message : String) : String := level ++ " " ++ logger ++ ": " ++ message

namespace Stub

/-- What the log tells about the types that a stub declares. -/
def typeLines (stub : Stub) : List String :=
  [logLine "DEBUG" "rpcgen.closure"
    ("Resolved " ++ toString stub.typeCount ++ " new types: " ++
      Text.commaJoined stub.registeredNames)]

/-- What the log tells about a stub. -/
def summaryLines (stub : Stub) : List String :=
  [logLine "INFO" "rpcgen.typescript_generator"
    ("Generated " ++ stub.fileName ++ ": " ++ toString stub.methodCount ++ " methods, " ++
      toString stub.eventCount ++ " events, " ++ toString stub.typeCount ++ " types")]

/-- The one file that a stub makes. -/
def files (stub : Stub) : Except Failure (List StubFile) :=
  (stub.file.map fun file => [file]).mapError .host

/-- What is made of a service by its stub. -/
def generation (options : Options) (graph : TypeGraph) (service : Service) : Generation :=
  match generate options graph service with
  | .error error => { files := .error (.stub error) }
  | .ok stub => { log := stub.typeLines, files := stub.files, report := stub.summaryLines }

end Stub

/-- A generator that can be used. -/
inductive Generator
  | typescript (options : Options)
  /-- An instance of a user's class, the options that it was made with, and what it makes. -/
  | user (owner : ClassRef) (options : Options) (makes : TypeGraph → Service → Generation)

namespace Generator

/-- The options that a generator was made with. -/
def options : Generator → Options
  | typescript options | user _ options _ => options

/-- What a generator makes of a service. -/
def generate : Generator → TypeGraph → Service → Generation
  | typescript options => Stub.generation options
  | user _ _ makes => makes

end Generator

/-! ## Classes of generators -/

/-- What the creation of an instance of a user's class with some options gives: what the instance
makes of a service, or what the creation fails with. -/
abbrev Creation := ClassRef → Options → Except Failure (TypeGraph → Service → Generation)

/-- The creation of generators when the code of their classes is not executed. -/
def unexecutedCreation : Creation := fun owner _ =>
  .error (.host (.unexecuted ("The class " ++ owner.qualifiedName)))

/-- A class that generators are made from. -/
inductive GeneratorClass
  /-- What all generators have in common. -/
  | contract
  | typescript
  /-- A class that a user's module derives from the others. -/
  | user (owner : ClassRef)
deriving DecidableEq, Repr, Inhabited

namespace GeneratorClass

/-- The path that short names stand for. -/
def typescriptPath : String := "rpcgen.typescript_generator:TypeScriptGenerator"

/-- The short names in ascending order, with their paths. -/
def shortNames : List (String × String) := [("ts", typescriptPath), ("typescript", typescriptPath)]

/-- The path of a name: that of a short name in any case, or the name itself. -/
def pathOf (name : String) : String :=
  (shortNames.lookup (String.ofList (name.toList.map Char.toLower))).getD name

/-- The generator class that a value of a module is, if it is one. -/
def ofValue? (module : Module) : Value → Option GeneratorClass
  | .classValue (.user owner) =>
    if owner = Loading.baseGenerator then some contract
    else if owner = Loading.typescriptGenerator then some typescript
    else if module.derivesFrom (.user owner) (.user Loading.baseGenerator) then some (user owner)
    else none
  | _ => none

/-- The generator class that a module has under a name. -/
def inModule? (module : Module) (className : String) : Option GeneratorClass :=
  (module.attribute? className).bind (ofValue? module)

/-- No generator has the given name. -/
def notFound (name : String) : Failure :=
  .stub (.generatorNotFound name (shortNames.map Prod.fst))

/-- How a fault in the import of the module of a generator is told. -/
def importFailure (name : String) (fault : Fault) : Failure :=
  if fault.isImportFailure then notFound name else .host fault

/-- The generator class of a name. The module of a path is imported to look for it. -/
def find (workspace : Workspace) (name : String) : Describing GeneratorClass := do
  let (moduleName, className) := Text.cutAtFirst ':' (pathOf name)
  if className = "" then throw (notFound name)
  let imported ← .ofEvaluating (importFailure name) (Loading.importModule workspace moduleName)
  match inModule? imported.module className with
  | some found => return found
  | none => throw (notFound name)

/-- The generator of a class with some options. -/
def create (creation : Creation) (options : Options) : GeneratorClass → Except Failure Generator
  | contract => .error (.host (.wrongType
      "Can't instantiate abstract class BaseGenerator with abstract method generate"))
  | typescript => .ok (.typescript options)
  | user owner => (creation owner options).map (.user owner options)

end GeneratorClass

/-- The generator of a name with some options. -/
def Generator.find (creation : Creation) (workspace : Workspace) (name : String)
    (options : Options) : Describing Generator := do
  let found ← GeneratorClass.find workspace name
  .ofExcept (found.create creation options)

end ServiceStubs
