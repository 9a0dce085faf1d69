import ServiceStubs.Source.Execution

/-!
# Modules of the program

The classes of the program itself, which can be services like any others. What is known of them is
what a service shows: the annotations of their fields and the signatures of their functions. All
of them are made together, and each module of the program then shows those that it names.
-/

namespace ServiceStubs.Loading

open Source (ClassRef Annotation Declaration Decorator Item Memory Metaclass Module
  ParameterSyntax StandardClass Style Value frameworkModules)

/-! ## Classes -/

/-- A class of the program as it is declared in a module. -/
structure ProgramClass where
  moduleName : String
  name : String
  style : Style := .plain
  metaclass : Metaclass := .plain
  bases : List String := []
  body : List Item := []

/-- The name of the package of the program. -/
def programPackage : String := "rpcgen"

/-- An annotation that is a name. -/
def named (name : String) : Annotation := .name name

/-- An annotation for any number of values of a type. -/
def manyOf (name : String) : Annotation := .apply (named "tuple") [named name, named "..."]

/-- An annotation for a list of values of a type. -/
def listOf (type : Annotation) : Annotation := .apply (named "list") [type]

/-- A field. -/
def field (name : String) (type : Annotation) (hasDefault : Bool := false) : Item :=
  .field name type hasDefault

/-- Fields that are strings. -/
def textFields (names : List String) : List Item := names.map fun name => field name (named "str")

/-- A method with named parameters after the instance. -/
def method (name : String) (parameters : List (String × Annotation))
    (returns : Option Annotation := none) : Item :=
  .method name ({ name := "self" } :: parameters.map fun parameter =>
    { name := parameter.1, type := some parameter.2 }) returns []

/-- A method of a record that writes it. -/
def writing (name : String) : Item :=
  method name [("writer", named "CodeWriter")] (some (named "None"))

/-- The classes of the program, each after those that it names, in strings apart. -/
def programClasses : List ProgramClass := [
  { moduleName := "rpcgen.exceptions", name := "RpcGenException", bases := ["Exception"]
    body := [method "to_dict" [] (some (named "dict"))] },
  { moduleName := "rpcgen.exceptions", name := "TypeMappingError", bases := ["RpcGenException"] },
  { moduleName := "rpcgen.exceptions", name := "UnmappableTypeError",
    bases := ["TypeMappingError"] },
  { moduleName := "rpcgen.exceptions", name := "GenericArityError",
    bases := ["TypeMappingError"] },
  { moduleName := "rpcgen.exceptions", name := "HostError", bases := ["RpcGenException"] },
  { moduleName := "rpcgen.exceptions", name := "ModuleLoadError", bases := ["HostError"] },
  { moduleName := "rpcgen.exceptions", name := "TypeExtractionError", bases := ["HostError"] },
  { moduleName := "rpcgen.exceptions", name := "ServiceNotFoundError", bases := ["HostError"] },
  { moduleName := "rpcgen.exceptions", name := "GeneratorNotFoundError", bases := ["HostError"] },
  { moduleName := "rpcgen.types", name := "TypeKind", style := .enum
    metaclass := .enumeration
    body := ["PRIMITIVE", "COMPOSITE", "ENUMERATION", "GENERIC", "PARAMETER"].map fun name =>
      .member name (.text (String.ofList (name.toList.map Char.toLower))) },
  { moduleName := "rpcgen.types", name := "TypeDescriptor", style := .dataclass
    body := [field "kind" (named "TypeKind")] ++ textFields ["identity", "name"] ++ [
      field "fields" (listOf (.quoted (named "Member"))) true,
      field "members" (listOf (named "str")) true,
      field "type_parameters" (listOf (named "str")) true,
      field "base_type" (.optional (.quoted (named "TypeDescriptor"))) true,
      field "arguments" (listOf (.quoted (named "TypeDescriptor"))) true,
      .plain "argument" .missing] },
  { moduleName := "rpcgen.types", name := "Member", style := .dataclass
    body := textFields ["name"] ++ [field "type" (named "TypeDescriptor")] },
  { moduleName := "rpcgen.types", name := "Param", style := .dataclass
    body := textFields ["name"] ++ [field "type" (named "TypeDescriptor")] },
  { moduleName := "rpcgen.types", name := "Method", style := .dataclass
    body := textFields ["name"] ++ [field "return_type" (named "TypeDescriptor"),
      field "params" (manyOf "Param") true, field "is_special_name" (named "bool") true] },
  { moduleName := "rpcgen.types", name := "Event", style := .dataclass
    body := textFields ["name"] ++ [field "params" (manyOf "Param") true] },
  { moduleName := "rpcgen.types", name := "ServiceDescriptor", style := .dataclass
    body := textFields ["name"] ++ [field "methods" (manyOf "Method") true,
      field "events" (manyOf "Event") true] },
  { moduleName := "rpcgen.types", name := "Signature", style := .dataclass
    body := textFields ["name"] ++ [field "params" (manyOf "Param") true,
      field "return_type" (.optional (named "TypeDescriptor")) true, .plain "types" .missing] },
  { moduleName := "rpcgen.type_mapper", name := "TypeRegistry"
    body := [
      .plain "TYPESCRIPT_TYPES" .missing, .plain "typescript" .missing,
      method "is_builtin" [("identity", named "str")] (some (named "bool")),
      method "is_known" [("descriptor", named "TypeDescriptor")] (some (named "bool")),
      method "map" [("descriptor", named "TypeDescriptor")] (some (named "str")),
      .plain "compose_generic" .missing,
      method "unknown_types_of" [("descriptor", named "TypeDescriptor")]
        (some (listOf (named "TypeDescriptor"))),
      method "extend" [("identity", named "str"), ("target_name", named "str")]
        (some (.quoted (named "TypeRegistry"))),
      .method "reserve" [{ name := "self" },
        { name := "names", type := some (named "str"), kind := .restPositional }]
        (some (.quoted (named "TypeRegistry"))) [],
      method "register" [("descriptor", named "TypeDescriptor")]
        (some (.quoted (named "TypeRegistry"))),
      method "target_name_for" [("descriptor", named "TypeDescriptor")] (some (named "str")),
      .plain "non_builtin_entries" .missing] },
  { moduleName := "rpcgen.closure", name := "Closure", style := .dataclass
    body := [field "types" (manyOf "TypeDescriptor"), field "registry" (named "TypeRegistry")] },
  { moduleName := "rpcgen.closure", name := "TypeClosureResolver"
    body := [method "resolve" [("seeds", .apply (named "Iterable") [named "TypeDescriptor"])]
      (some (named "Closure"))] },
  { moduleName := "rpcgen.extractor", name := "ServiceMembers", style := .dataclass
    body := [field "methods" (manyOf "Signature"), field "events" (manyOf "Signature"),
      .plain "signatures" .missing] },
  { moduleName := "rpcgen.extractor", name := "MemberExtractor"
    body := [
      method "extract" [("service", named "ServiceDescriptor")] (some (named "ServiceMembers"))] },
  { moduleName := "rpcgen.code_writer", name := "CodeWriter"
    body := [
      .plain "depth" .missing, .plain "current_indent" .missing,
      method "line" [("content", named "str")] (some (named "None")),
      method "write" [("content", named "str")] (some (named "None")),
      method "_write_fragment" [("fragment", named "str")] (some (named "None")),
      method "new_line" [] (some (named "None")),
      method "indented" [],
      method "block" [("body", .union [
        .callable [.quoted (named "CodeWriter")] (named "None"), named "str"])]
        (some (named "None")),
      method "get_code" [] (some (named "str"))] },
  { moduleName := "rpcgen.code_model", name := "Argument", style := .dataclass
    body := textFields ["name", "type"] ++ [method "declaration" [] (some (named "str"))] },
  { moduleName := "rpcgen.code_model", name := "Import", style := .dataclass
    body := textFields ["name", "source"] ++ [writing "generate"] },
  { moduleName := "rpcgen.code_model", name := "Field", style := .dataclass
    body := textFields ["name", "type"] ++ [writing "generate"] },
  { moduleName := "rpcgen.code_model", name := "MethodSignature", style := .dataclass
    body := textFields ["name"] ++ [field "arguments" (manyOf "Argument")] ++
      textFields ["return_type"] ++ [writing "generate"] },
  { moduleName := "rpcgen.code_model", name := "EventSignature", style := .dataclass
    body := textFields ["name"] ++ [field "arguments" (manyOf "Argument"), writing "generate"] },
  { moduleName := "rpcgen.code_model", name := "Interface", style := .dataclass
    body := textFields ["name"] ++ [field "methods" (manyOf "MethodSignature") true,
      field "events" (manyOf "EventSignature") true, field "fields" (manyOf "Field") true,
      field "type_parameters" (manyOf "str") true, writing "generate",
      writing "_generate_members"] },
  { moduleName := "rpcgen.code_model", name := "Enum", style := .dataclass
    body := textFields ["name"] ++ [field "members" (manyOf "str"), writing "generate",
      writing "_generate_members"] },
  { moduleName := "rpcgen.code_model", name := "Constant", style := .dataclass
    body := textFields ["name", "expression"] ++ [writing "generate"] },
  { moduleName := "rpcgen.code_model", name := "TypedConstant", style := .dataclass
    body := textFields ["name", "type", "expression"] ++ [writing "generate"] },
  { moduleName := "rpcgen.code_model", name := "Export", style := .dataclass
    body := [field "names" (manyOf "str"), writing "generate"] },
  { moduleName := "rpcgen.code_model", name := "File", style := .dataclass
    body := [field "imports" (manyOf "Import") true, field "contents" (named "tuple") true,
      field "exports" (named "Export") true, writing "generate"] },
  { moduleName := "rpcgen.options", name := "GeneratorOptions", style := .dataclass
    body := [field "indent_width" (named "int") true] ++
      (["newline", "file_suffix", "extension", "promise_type"].map fun name =>
        field name (named "str") true) ++
      [method "file_name" [("service_name", named "str")] (some (named "str"))] },
  { moduleName := "rpcgen.generator", name := "BaseGenerator", style := .abstractBase
    metaclass := .abstract
    body := [method "generate" [("service", named "ServiceDescriptor")]
      (some (listOf (.apply (named "tuple") [named "str", named "str"])))] },
  { moduleName := "rpcgen.typescript_generator", name := "TypeScriptGenerator",
    metaclass := .abstract, bases := ["BaseGenerator"]
    body := [
      method "generate" [("service", named "ServiceDescriptor")]
        (some (listOf (.apply (named "tuple") [named "str", named "str"]))),
      method "_declare"
        [("descriptor", named "TypeDescriptor"), ("registry", named "TypeRegistry")],
      method "_method" [("signature", named "Signature"), ("registry", named "TypeRegistry")]
        (some (named "MethodSignature")),
      method "_event" [("signature", named "Signature"), ("registry", named "TypeRegistry")]
        (some (named "EventSignature")),
      method "_promisify" [("type_name", named "str")] (some (named "str"))] },
  { moduleName := "rpcgen.reflection", name := "TypeDescriber"
    body := [
      .method "describe" [{ name := "self" }, { name := "annotation" }]
        (some (named "TypeDescriptor")) [],
      method "_describe_class" [("annotation", named "type")] (some (named "TypeDescriptor")),
      method "_describe_composite" [("cls", named "type"), ("identity", named "str")]
        (some (named "TypeDescriptor")),
      method "_cached" [("descriptor", named "TypeDescriptor")]
        (some (named "TypeDescriptor"))] }]

/-- The declaration of a class of the program, which tells its module itself. -/
def ProgramClass.declaration (declared : ProgramClass) : Declaration :=
  .classDeclared declared.name declared.style (declared.bases.map named) []
    (.plain "__module__" (.text declared.moduleName) :: declared.body)

/-- A class of the program at a place of the table. -/
def ProgramClass.reference (declared : ProgramClass) (index : Nat) : ClassRef where
  index
  moduleName := declared.moduleName
  qualifiedName := declared.name
  name := declared.name
  metaclass := declared.metaclass

/-- The class of the program with a name. -/
def programClass (name : String) : ClassRef :=
  let index := programClasses.findIdx fun declared => declared.name = name
  (programClasses.getD index { moduleName := "", name }).reference index

/-- What all generator classes derive from. -/
def baseGenerator : ClassRef := programClass "BaseGenerator"

/-- The generator class of the program. -/
def typescriptGenerator : ClassRef := programClass "TypeScriptGenerator"

/-! ## Modules -/

/-- A module of the program. -/
structure ProgramModule where
  name : String
  /-- The classes that it names beside its own. -/
  classes : List String := []
  /-- What else it names. -/
  further : List (String × Value) := []

/-- Modules under the names that an import binds to them. -/
def importedModules (names : List String) : List (String × Value) :=
  names.map fun name => (name, .imported name)

/-- Functions of which nothing but the names is known. -/
def knownFunctions (names : List String) : List (String × Value) :=
  names.map fun name => (name, .object "function" ("<function " ++ name ++ ">"))

/-- Texts under names. -/
def knownTexts (names : List String) : List (String × Value) :=
  names.map fun name => (name, .ofText name)

/-- The value that writes the log of a module. -/
def logger : String × Value := ("logger", .object "logging.Logger" "<Logger>")

/-- The modules of the program. -/
def programModules : List ProgramModule := [
  { name := programPackage
    classes := ["TypeKind", "TypeDescriptor", "Member", "Param", "Method", "Event",
      "ServiceDescriptor", "Signature", "RpcGenException", "TypeMappingError",
      "UnmappableTypeError", "GenericArityError", "HostError", "ModuleLoadError",
      "TypeExtractionError", "ServiceNotFoundError", "GeneratorNotFoundError", "TypeRegistry",
      "TypeClosureResolver", "Closure", "MemberExtractor", "ServiceMembers", "CodeWriter",
      "GeneratorOptions", "BaseGenerator", "TypeScriptGenerator", "TypeDescriber"]
    further := knownFunctions ["get_generator", "describe_service", "event"] ++
      ["types", "exceptions", "type_mapper", "closure", "extractor", "code_writer", "code_model",
        "options", "generator", "typescript_generator", "reflection", "cli"].map fun name =>
        (name, .imported (programPackage ++ "." ++ name)) },
  { name := "rpcgen.exceptions" },
  { name := "rpcgen.types"
    classes := ["GenericArityError"]
    further := [("Enum", .standard .enum), ("Optional", .form "Optional")] ++
      knownTexts ["INT", "LONG", "FLOAT", "DOUBLE", "BOOL", "STRING", "VOID", "OBJECT", "LIST"] ++
      knownFunctions ["dataclass", "field", "primitive", "composite", "enumeration", "parameter",
        "generic", "list_of"] },
  { name := "rpcgen.type_mapper"
    classes := ["TypeDescriptor", "TypeKind"]
    further := [("MappingProxyType", .standard (.named "builtins" "mappingproxy")),
        ("ChainMap", .standard (.named "collections" "ChainMap")),
        ("Mapping", .bareAlias .mapping)] ++
      knownTexts ["INT", "LONG", "FLOAT", "DOUBLE", "BOOL", "STRING", "VOID", "OBJECT", "LIST"] },
  { name := "rpcgen.closure"
    classes := ["UnmappableTypeError", "TypeRegistry", "TypeDescriptor", "TypeKind"]
    further := [("Iterable", .bareAlias .iterable), logger, ("DECLARABLE_KINDS", .tuple [])] ++
      importedModules ["logging"] ++
      knownFunctions ["dataclass"] },
  { name := "rpcgen.extractor"
    classes := ["ServiceDescriptor", "Method", "Signature"]
    further := [("EVENT_ACCESSOR_PREFIXES", .tuple (["add_", "remove_"].map .ofText))] ++
      knownFunctions ["dataclass"] },
  { name := "rpcgen.code_writer"
    further := [("Callable", .bareAlias (.further "Callable")), ("Union", .form "Union")] ++
      knownTexts ["CRLF", "LF"] ++
      knownFunctions ["contextmanager"] },
  { name := "rpcgen.code_model"
    classes := ["CodeWriter"]
    further := knownFunctions ["dataclass", "field", "comma_join", "quote"] },
  { name := "rpcgen.options", further := knownTexts ["CRLF"] ++ knownFunctions ["dataclass"] },
  { name := "rpcgen.generator"
    classes := ["GeneratorNotFoundError", "GeneratorOptions", "ServiceDescriptor"]
    further := [("ABC", .standard .abstractBase), logger, ("GENERATORS", .dictionary [])] ++
      importedModules ["importlib", "logging"] ++
      knownFunctions ["abstractmethod", "get_generator"] },
  { name := "rpcgen.typescript_generator"
    classes := ["TypeClosureResolver", "Argument", "Constant", "Enum", "EventSignature", "Export",
      "Field", "File", "Interface", "MethodSignature", "TypedConstant", "CodeWriter",
      "MemberExtractor", "BaseGenerator", "TypeRegistry", "ServiceDescriptor", "Signature",
      "TypeDescriptor", "TypeKind"]
    further := [logger] ++ importedModules ["logging"] ++
      knownFunctions ["comma_join", "quote"] },
  { name := "rpcgen.reflection"
    classes := ["GenericArityError", "TypeExtractionError", "TypeDescriptor", "Member", "Param",
      "Method", "Event", "ServiceDescriptor"]
    further := [("Any", .standard .any), ("ClassVar", .qualifier .classVar),
        ("TypeVar", .standard (.named "typing" "TypeVar")), ("PYTHON_TYPES", .dictionary []),
        ("LIST_TYPES", .tuple ([StandardClass.list, .sequence, .mutableSequence].map .standard)),
        ("FRAMEWORK_MODULES", .tuple (frameworkModules.map .ofText))] ++
      importedModules ["collections", "dataclasses", "enum", "inspect", "typing"] ++
      knownTexts ["INT", "DOUBLE", "BOOL", "STRING", "VOID", "OBJECT", "LIST", "EVENT_MARKER"] ++
      knownFunctions ["get_args", "get_origin", "get_type_hints", "primitive", "composite",
        "enumeration", "parameter", "generic", "event", "is_event", "describe_service"] },
  { name := "rpcgen.cli"
    classes := ["RpcGenException", "ModuleLoadError", "ServiceNotFoundError", "GeneratorOptions",
      "TypeDescriber"]
    further := [("Path", .standard (.named "pathlib" "Path")), logger] ++
      importedModules ["argparse", "importlib", "logging", "sys", "time"] ++
      knownTexts ["CRLF", "LF"] ++
      knownFunctions ["get_generator", "describe_service", "build_parser", "load_module",
        "resolve_service", "main"] }]

/-- The names of the classes that a module of the program shows. -/
def ProgramModule.classNames (shown : ProgramModule) : List String :=
  shown.classes ++ (programClasses.filter fun declared => declared.moduleName = shown.name).map
    ProgramClass.name

/-- A module with the classes of the program in the table, and what their evaluation leaves. -/
def programRoot : Module × Memory :=
  let start : Module := { name := programPackage }
  let declarations := programClasses.map ProgramClass.declaration
  match (start.executeAll declarations).run {} with
  | .ok module memory => (module, memory)
  | .error _ memory => (start, memory)

/-- The classes of the program under their names. -/
def programClassNames : List (String × Value) :=
  programClasses.map fun declared => (declared.name, .user (programClass declared.name))

/-- The names that the modules of the program bind. -/
def programNames : List (String × OrderedMap String Value) :=
  programModules.map fun shown => (shown.name, .ofList
    (shown.classNames.map (fun name => (name, .user (programClass name))) ++ shown.further))

/-- A module that binds no names yet. The classes of the program are there to be found in its
modules. -/
def newModule (name : String) : Module :=
  { programRoot.1 with name, names := .empty, others := programNames }

/-- What is remembered before a module is executed. -/
def initialMemory : Memory := programRoot.2

/-- The module of the program with a name, if there is one. -/
def programModule? (name : String) : Option Module :=
  (programNames.lookup name).map fun names =>
    { newModule name with
      names := (OrderedMap.ofList programClassNames).putAll names.entries
      shown := some names.keys }

end ServiceStubs.Loading
