import ServiceStubs.Source.Library

/-!
# Classes of the standard library

The classes that annotations, bases and expressions can name without a declaration. A class has a
module and a name, a resolution order, a type, and a layout: two classes whose layouts differ
cannot be combined in one class unless one of them derives from the other.
-/

namespace ServiceStubs.Source

/-- A class of the standard library. -/
inductive StandardClass
  | object | type | noneType | function | module
  | bool | int | float | complex | str | bytes | bytearray
  | tuple | list | dict | set | frozenset
  | generic | protocol | any | abstractBase
  | enum | reprEnum | intEnum | strEnum | flag
  | sequence | mutableSequence | mapping | collection | reversible | iterable | sized | container
  | callable
  | deque | date | datetime | decimal
  /-- An exception. -/
  | exception (name : String)
  /-- Any other class. -/
  | named (moduleName name : String)
deriving DecidableEq, Repr, Inhabited

namespace StandardClass

/-- The module of a class. -/
def moduleName : StandardClass → String
  | generic | protocol | any => "typing"
  | abstractBase => "abc"
  | enum | reprEnum | intEnum | strEnum | flag => "enum"
  | sequence | mutableSequence | mapping | collection | reversible | iterable | sized | container
  | callable => "collections.abc"
  | deque => "collections"
  | date | datetime => "datetime"
  | decimal => "decimal"
  | named moduleName _ => moduleName
  | _ => "builtins"

/-- The name of a class within its module. -/
def name : StandardClass → String
  | object => "object" | type => "type" | noneType => "NoneType" | function => "function"
  | module => "module" | bool => "bool" | int => "int" | float => "float"
  | complex => "complex" | str => "str" | bytes => "bytes" | bytearray => "bytearray"
  | tuple => "tuple" | list => "list" | dict => "dict" | set => "set" | frozenset => "frozenset"
  | generic => "Generic" | protocol => "Protocol" | any => "Any" | abstractBase => "ABC"
  | enum => "Enum" | reprEnum => "ReprEnum" | intEnum => "IntEnum" | strEnum => "StrEnum"
  | flag => "Flag" | sequence => "Sequence" | mutableSequence => "MutableSequence"
  | mapping => "Mapping" | collection => "Collection" | reversible => "Reversible"
  | iterable => "Iterable" | sized => "Sized" | container => "Container"
  | callable => "Callable" | deque => "deque" | date => "date" | datetime => "datetime"
  | decimal => "Decimal"
  | exception name => name
  | named _ name => name

/-- The name of a class in messages, in which a few classes have their module before it. -/
def fullName : StandardClass → String
  | deque => "collections.deque"
  | date => "datetime.date"
  | datetime => "datetime.datetime"
  | decimal => "decimal.Decimal"
  | value => value.name

/-- The class that every named tuple is declared with. -/
def namedTupleBase : StandardClass := named "typing" "_NamedTuple"

/-- The class that every typed dictionary is declared with. -/
def typedDictBase : StandardClass := named "typing" "_TypedDict"

/-- The class that a new type stands for as a base. -/
def newTypeBase : StandardClass := named "typing" "Dummy"

/-! ## Exceptions -/

/-- The exceptions with the one that each derives from. -/
def exceptionParents : List (String × String) := [
  ("BaseExceptionGroup", "BaseException"), ("GeneratorExit", "BaseException"),
  ("KeyboardInterrupt", "BaseException"), ("SystemExit", "BaseException"),
  ("Exception", "BaseException"), ("ArithmeticError", "Exception"),
  ("FloatingPointError", "ArithmeticError"), ("OverflowError", "ArithmeticError"),
  ("ZeroDivisionError", "ArithmeticError"), ("AssertionError", "Exception"),
  ("AttributeError", "Exception"), ("BufferError", "Exception"), ("EOFError", "Exception"),
  ("ExceptionGroup", "Exception"), ("ImportError", "Exception"),
  ("ModuleNotFoundError", "ImportError"), ("LookupError", "Exception"),
  ("IndexError", "LookupError"), ("KeyError", "LookupError"), ("MemoryError", "Exception"),
  ("NameError", "Exception"), ("UnboundLocalError", "NameError"), ("OSError", "Exception"),
  ("BlockingIOError", "OSError"), ("ChildProcessError", "OSError"),
  ("ConnectionError", "OSError"), ("BrokenPipeError", "ConnectionError"),
  ("ConnectionAbortedError", "ConnectionError"), ("ConnectionRefusedError", "ConnectionError"),
  ("ConnectionResetError", "ConnectionError"), ("FileExistsError", "OSError"),
  ("FileNotFoundError", "OSError"), ("InterruptedError", "OSError"),
  ("IsADirectoryError", "OSError"), ("NotADirectoryError", "OSError"),
  ("PermissionError", "OSError"), ("ProcessLookupError", "OSError"), ("TimeoutError", "OSError"),
  ("ReferenceError", "Exception"), ("RuntimeError", "Exception"),
  ("NotImplementedError", "RuntimeError"), ("RecursionError", "RuntimeError"),
  ("StopAsyncIteration", "Exception"), ("StopIteration", "Exception"),
  ("SyntaxError", "Exception"), ("IndentationError", "SyntaxError"),
  ("TabError", "IndentationError"), ("SystemError", "Exception"), ("TypeError", "Exception"),
  ("ValueError", "Exception"), ("UnicodeError", "ValueError"),
  ("UnicodeDecodeError", "UnicodeError"), ("UnicodeEncodeError", "UnicodeError"),
  ("UnicodeTranslateError", "UnicodeError"), ("Warning", "Exception"),
  ("BytesWarning", "Warning"), ("DeprecationWarning", "Warning"), ("EncodingWarning", "Warning"),
  ("FutureWarning", "Warning"), ("ImportWarning", "Warning"),
  ("PendingDeprecationWarning", "Warning"), ("ResourceWarning", "Warning"),
  ("RuntimeWarning", "Warning"), ("SyntaxWarning", "Warning"), ("UnicodeWarning", "Warning"),
  ("UserWarning", "Warning")]

/-- More exceptions than derive from one another in a row. -/
def longestLineage : Nat := 8

/-- An exception and those that it derives from, as far as a number of steps leads. -/
def lineageFrom : Nat → String → List String
  | 0, name => [name]
  | steps + 1, name =>
    match exceptionParents.lookup name with
    | some parent => name :: lineageFrom steps parent
    | none => [name]

/-- An exception and those that it derives from. -/
def lineage (name : String) : List String :=
  match lineageFrom longestLineage name with
  | "ExceptionGroup" :: rest => "ExceptionGroup" :: "BaseExceptionGroup" :: rest
  | names => names

/-- The exceptions whose instances hold more than those of their parents. -/
def extendedExceptions : List String := [
  "BaseException", "BaseExceptionGroup", "OSError", "SyntaxError", "ImportError", "StopIteration",
  "SystemExit", "UnicodeDecodeError", "UnicodeEncodeError", "UnicodeTranslateError",
  "AttributeError", "NameError"]

end StandardClass

/-! ## Classes of names -/

/-- The built-in classes that have a name of their own. -/
def builtinClasses : List StandardClass := [
  .object, .type, .bool, .int, .float, .complex, .str, .bytes, .bytearray, .tuple, .list, .dict,
  .set, .frozenset]

/-- The name of an exception, which may have a second one. -/
def exceptionName (name : String) : String :=
  if name = "EnvironmentError" || name = "IOError" then "OSError" else name

/-- The exception of a name, if there is one. -/
def exceptionClass? (name : String) : Option StandardClass :=
  let found := exceptionName name
  if found = "BaseException" || (StandardClass.exceptionParents.lookup found).isSome then
    some (.exception found)
  else none

/-- The classes of the standard library that matter by more than their names. -/
def particularClasses : List StandardClass := builtinClasses ++ [
  .noneType, .function, .module, .generic, .protocol, .any, .abstractBase, .enum, .reprEnum,
  .intEnum, .strEnum, .flag, .sequence, .mutableSequence, .mapping, .collection, .reversible,
  .iterable, .sized, .container, .callable, .deque, .date, .datetime, .decimal]

namespace StandardClass

/-- The class of the standard library with a name in a module. -/
def ofName (moduleName name : String) : StandardClass :=
  match particularClasses.find? fun value => value.moduleName = moduleName && value.name = name with
  | some value => value
  | none =>
    if moduleName = "builtins" then (exceptionClass? name).getD (.named moduleName name)
    else .named moduleName name

/-- What a table tells of a class, if it is written in the language. -/
def written? : StandardClass → Option LibraryClass
  | named moduleName name => LibraryClass.find? moduleName name
  | _ => none

/-! ## Hierarchy -/

/-- The classes in which attributes of a class are looked for, its own first. -/
def order : StandardClass → List StandardClass
  | object => [object]
  | bool => [bool, int, object]
  | protocol => [protocol, generic, object]
  | reprEnum => [reprEnum, enum, object]
  | intEnum => [intEnum, int, reprEnum, enum, object]
  | strEnum => [strEnum, str, reprEnum, enum, object]
  | flag => [flag, enum, object]
  | sequence => [sequence, reversible, collection, sized, iterable, container, object]
  | mutableSequence =>
    [mutableSequence, sequence, reversible, collection, sized, iterable, container, object]
  | mapping => [mapping, collection, sized, iterable, container, object]
  | collection => [collection, sized, iterable, container, object]
  | reversible => [reversible, iterable, object]
  | datetime => [datetime, date, object]
  | named "collections" "OrderedDict" => [named "collections" "OrderedDict", dict, object]
  | named "collections" "defaultdict" => [named "collections" "defaultdict", dict, object]
  | exception name => (lineage name).map exception ++ [object]
  | value =>
    value :: (value.written?.elim [] (·.ancestors)).map (fun (moduleName, name) =>
      ofName moduleName name) ++ [object]

/-- Whether a class cannot be a base. -/
def isFinal : StandardClass → Bool
  | bool | noneType | function => true
  | named "builtins" name =>
    ["ellipsis", "NotImplementedType", "memoryview", "range", "slice", "method",
      "builtin_function_or_method", "method_descriptor", "wrapper_descriptor"].contains name
  | named "types" _ => true
  | _ => false

/-- Whether the instances of a class have a layout of their own. -/
def hasLayout : StandardClass → Bool
  | type | module | int | float | complex | str | bytes | bytearray | tuple | list | dict | set
  | frozenset | deque | date | datetime | decimal => true
  | exception name => extendedExceptions.contains name
  | named "collections" name => ["OrderedDict", "defaultdict"].contains name
  | value@(named moduleName _) => value.written?.isNone &&
    !(["typing", "collections.abc", "contextlib", "abc", "enum"].contains moduleName)
  | _ => false

/-- Whether brackets after a class take any arguments. -/
def isSubscriptable : StandardClass → Bool
  | list | tuple | dict | set | frozenset | type | iterable | container | callable | deque => true
  | exception name => name = "BaseExceptionGroup"
  | named "builtins" name => name = "enumerate"
  | named "collections" _ => true
  | named "collections.abc" name => name ≠ "Hashable"
  | named "contextlib" name => (["closing", "suppress", "ExitStack"].contains name) = false
  | named "functools" name => ["partial", "partialmethod", "cached_property"].contains name
  | named "re" name => name = "Match" || name = "Pattern"
  | sequence | mutableSequence | mapping | collection | reversible => true
  | _ => false

/-- Whether the values of a class are lists. -/
def isListLike : StandardClass → Bool
  | list | sequence | mutableSequence => true
  | _ => false

end StandardClass

end ServiceStubs.Source
