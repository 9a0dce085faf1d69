import ServiceStubs.Arity
import ServiceStubs.Datum

/-!
# Failures of stub generation

Each failure is one of a few causes, and what is told of it is a function of the cause. A type
that cannot be declared and a generic type with a wrong number of arguments are found while types
are mapped; the other causes lie in the host: a module, a service, a generator or an annotation
that cannot be had.

A report is what is told of a failure: its kind, a message and a context. Reports can also be made
of any values that a kind takes; then the number of values has to be right.
-/

namespace ServiceStubs

/-- Named values in the order in which they are shown. -/
abbrev Context := List (String × Datum)

/-- The families of failures that carry a message of their own. -/
inductive ErrorFamily
  /-- Any failure of the generator. -/
  | general
  /-- A type has no expression in the generated text. -/
  | typeMapping
  /-- The host does not provide what was asked for. -/
  | host
  /-- A module cannot be loaded. -/
  | moduleLoad
  /-- The annotations of a class or a function cannot be evaluated. -/
  | typeExtraction
deriving DecidableEq, Repr, Inhabited

/-- The name of a family in logs. -/
def ErrorFamily.name : ErrorFamily → String
  | general => "RpcGenException"
  | typeMapping => "TypeMappingError"
  | host => "HostError"
  | moduleLoad => "ModuleLoadError"
  | typeExtraction => "TypeExtractionError"

/-- The kinds of failures: the families, and causes with values of their own. -/
inductive ErrorKind
  | family (broad : ErrorFamily)
  | unmappableType
  | genericArity
  | serviceNotFound
  | generatorNotFound
deriving DecidableEq, Repr, Inhabited

namespace ErrorKind

/-- The name of a kind in logs. -/
def name : ErrorKind → String
  | .family broad => broad.name
  | unmappableType => "UnmappableTypeError"
  | genericArity => "GenericArityError"
  | serviceNotFound => "ServiceNotFoundError"
  | generatorNotFound => "GeneratorNotFoundError"

/-- The families that a kind belongs to beside itself, the narrowest first. -/
def families : ErrorKind → List ErrorFamily
  | unmappableType | genericArity => [.typeMapping, .general]
  | serviceNotFound | generatorNotFound => [.host, .general]
  | family .general => []
  | family .typeMapping | family .host => [.general]
  | family .moduleLoad | family .typeExtraction => [.host, .general]

/-- The names of a kind and of its families, the narrowest first. -/
def lineage (kind : ErrorKind) : List String := kind.name :: kind.families.map ErrorFamily.name

/-- The values that a report of a kind is made of. -/
def parameters : ErrorKind → List PositionalParameter
  | family _ => [("message", false), ("context", true)]
  | unmappableType => [("identity", false), ("kind", false)]
  | genericArity => [("identity", false), ("argument_count", false)]
  | serviceNotFound => [("symbol", false), ("module", false)]
  | generatorNotFound => [("name", false), ("available", true)]

/-- The name of the function that makes reports of a kind. -/
def maker : ErrorKind → String
  | family _ => ErrorFamily.general.name ++ ".__init__"
  | kind => kind.name ++ ".__init__"

end ErrorKind

/-- What is told of a failure. -/
structure ErrorReport where
  kind : ErrorKind
  /-- What the failure says to a person. -/
  message : Datum
  /-- Details for a log. -/
  context : Datum
  /-- Details that callers read off the failure directly. -/
  attributes : Context := []
deriving Inhabited

namespace ErrorReport

/-- The report of a family with a message and a context. -/
def ofFamily (family : ErrorFamily) (message context : Datum) : ErrorReport :=
  { kind := .family family, message, context := context.orElse (.record []) }

/-- The report of a type that would have to be declared and cannot be. -/
def unmappableType (identity kind : Datum) : ErrorReport where
  kind := .unmappableType
  message := .text ("Cannot declare type '" ++ identity.told ++ "' of kind " ++ kind.told ++
    ": not a built-in, composite or enumeration")
  context := .record [("identity", identity), ("kind", kind)]
  attributes := [("identity", identity)]

/-- The report of a generic type with a wrong number of arguments. -/
def genericArity (identity argumentCount : Datum) : ErrorReport where
  kind := .genericArity
  message := .text ("Generic type '" ++ identity.told ++ "' has " ++ argumentCount.told ++
    " type arguments, expected exactly 1")
  context := .record [("identity", identity), ("argument_count", argumentCount)]
  attributes := [("identity", identity), ("argument_count", argumentCount)]

/-- The report of a service that a module does not have. -/
def serviceNotFound (symbol moduleName : Datum) : ErrorReport where
  kind := .serviceNotFound
  message := .text ("Cannot find service '" ++ symbol.told ++ "' within module '" ++
    moduleName.told ++ "'")
  context := .record [("symbol", symbol), ("module", moduleName)]
  attributes := [("symbol", symbol)]

/-- The report of a generator that does not exist. -/
def generatorNotFound (name available : Datum) : ErrorReport where
  kind := .generatorNotFound
  message := .text ("Cannot find any generator named '" ++ name.told ++ "'")
  context := .record [("name", name), ("available", available.orElse (.list []))]
  attributes := [("name", name)]

/-- The report of a kind that some values make; a wrong number of values is told instead. -/
def make (kind : ErrorKind) (values : List Datum) : Except String ErrorReport :=
  match Arity.fault? kind.maker (("self", false) :: kind.parameters) (values.length + 1) with
  | some fault => .error fault
  | none =>
    let first := values.headD .missing
    let second := values.getD 1 .missing
    .ok (match kind with
      | .family broad => ofFamily broad first second
      | .unmappableType => unmappableType first second
      | .genericArity => genericArity first second
      | .serviceNotFound => serviceNotFound first second
      | .generatorNotFound => generatorNotFound first second)

/-- All that a log tells about a failure. -/
def record (report : ErrorReport) : Context :=
  [("error_type", .text report.kind.name), ("message", report.message),
    ("context", report.context)]

end ErrorReport

/-- Why stubs cannot be generated. -/
inductive StubError
  /-- A type that is neither built in, composite nor an enumeration would have to be declared. -/
  | unmappableType (identity kind : String)
  /-- A generic construction does not have exactly one argument. -/
  | genericArity (identity : String) (argumentCount : Int)
  /-- A module has no class under the given symbol. -/
  | serviceNotFound (symbol : String) (moduleName : Datum)
  /-- No generator has the given name. -/
  | generatorNotFound (name : String) (available : List String)
  /-- A failure told in its own words. -/
  | reported (family : ErrorFamily) (message : String) (context : Context)
deriving Inhabited

namespace StubError

/-- What is told of an error. -/
def report : StubError → ErrorReport
  | unmappableType identity kind => .unmappableType (.text identity) (.text kind)
  | genericArity identity argumentCount => .genericArity (.text identity) (.number argumentCount)
  | serviceNotFound symbol moduleName => .serviceNotFound (.text symbol) moduleName
  | generatorNotFound name available => .generatorNotFound (.text name) (Datum.ofTexts available)
  | reported family message context => .ofFamily family (.text message) (.record context)

/-- What the error says to a person. -/
def message (error : StubError) : String := error.report.message.told

/-- No file is found at the path of a source. -/
def sourceFileMissing (source : String) : StubError :=
  .reported .moduleLoad ("Cannot find file: " ++ source) [("path", .text source)]

/-- The source is a module name that cannot be imported. -/
def moduleNotImported (source reason : String) : StubError :=
  .reported .moduleLoad ("Cannot import module " ++ source ++ ": " ++ reason)
    [("module", .text source)]

/-- The file of a source stops with an error. -/
def sourceFileBroken (source reason : String) : StubError :=
  .reported .moduleLoad ("Failed to load " ++ source ++ ": " ++ reason)
    [("path", .text source), ("error", .text reason)]

/-- The annotations of a class cannot be evaluated. -/
def classAnnotations (qualifiedName reason : String) : StubError :=
  .reported .typeExtraction
    ("Cannot evaluate annotations of '" ++ qualifiedName ++ "': " ++ reason)
    [("type", .text qualifiedName), ("error", .text reason)]

/-- The annotations of a function cannot be evaluated. -/
def functionAnnotations (qualifiedName reason : String) : StubError :=
  .reported .typeExtraction
    ("Cannot evaluate annotations of '" ++ qualifiedName ++ "': " ++ reason)
    [("function", .text qualifiedName), ("error", .text reason)]

end StubError

end ServiceStubs
