import ServiceStubs.Source.Names
import ServiceStubs.Source.StandardModules

/-!
# Names in standard modules

The names that some modules of the standard library bind to classes and forms. A class may say to be
of such a module; the strings that annotate its fields then see the names of that module.
-/

namespace ServiceStubs.Source

/-! ## Classes -/

/-- The names of the classes of some modules, with blanks between them. -/
def standardClassNames : List (String × String) := [
  ("abc",
    "abstractclassmethod abstractstaticmethod abstractproperty ABCMeta ABC"),
  ("argparse",
    "_AttributeHolder HelpFormatter RawDescriptionHelpFormatter RawTextHelpFormatter " ++
      "ArgumentDefaultsHelpFormatter MetavarTypeHelpFormatter ArgumentError ArgumentTypeError " ++
      "Action BooleanOptionalAction _StoreAction _StoreConstAction _StoreTrueAction " ++
      "_StoreFalseAction _AppendAction _AppendConstAction _CountAction _HelpAction " ++
      "_VersionAction _SubParsersAction _ExtendAction FileType Namespace _ActionsContainer " ++
      "_ArgumentGroup _MutuallyExclusiveGroup ArgumentParser"),
  ("ast",
    "AST mod Module Interactive Expression FunctionType stmt FunctionDef AsyncFunctionDef " ++
      "ClassDef Return Delete Assign AugAssign AnnAssign For AsyncFor While If With AsyncWith " ++
      "Match Raise Try TryStar Assert Import ImportFrom Global Nonlocal Expr Pass Break " ++
      "Continue expr BoolOp NamedExpr BinOp UnaryOp Lambda IfExp Dict Set ListComp SetComp " ++
      "DictComp GeneratorExp Await Yield YieldFrom Compare Call FormattedValue JoinedStr " ++
      "Constant Attribute Subscript Starred Name List Tuple Slice expr_context Load Store Del " ++
      "boolop And Or operator Add Sub Mult MatMult Div Mod Pow LShift RShift BitOr BitXor " ++
      "BitAnd FloorDiv unaryop Invert Not UAdd USub cmpop Eq NotEq Lt LtE Gt GtE Is IsNot In " ++
      "NotIn comprehension excepthandler ExceptHandler arguments arg keyword alias withitem " ++
      "match_case pattern MatchValue MatchSingleton MatchSequence MatchMapping MatchClass " ++
      "MatchStar MatchAs MatchOr type_ignore TypeIgnore NodeVisitor NodeTransformer _ABC Num " ++
      "Str Bytes NameConstant Ellipsis slice Index ExtSlice Suite AugLoad AugStore Param " ++
      "_Precedence _Unparser"),
  ("codecs",
    "CodecInfo Codec IncrementalEncoder BufferedIncrementalEncoder IncrementalDecoder " ++
      "BufferedIncrementalDecoder StreamWriter StreamReader StreamReaderWriter StreamRecoder"),
  ("collections",
    "deque defaultdict _OrderedDictKeysView _OrderedDictItemsView _OrderedDictValuesView " ++
      "_Link OrderedDict Counter ChainMap UserDict UserList UserString"),
  ("collections.abc",
    "Awaitable Coroutine AsyncIterable AsyncIterator AsyncGenerator Hashable Iterable " ++
      "Iterator Generator Reversible Sized Container Callable Collection Set MutableSet " ++
      "Mapping MutableMapping MappingView KeysView ItemsView ValuesView Sequence " ++
      "MutableSequence ByteString _CallableGenericAlias"),
  ("contextlib",
    "AbstractContextManager AbstractAsyncContextManager ContextDecorator " ++
      "AsyncContextDecorator _GeneratorContextManagerBase _GeneratorContextManager " ++
      "_AsyncGeneratorContextManager closing aclosing _RedirectStream redirect_stdout " ++
      "redirect_stderr suppress _BaseExitStack ExitStack AsyncExitStack nullcontext chdir"),
  ("copy",
    "Error"),
  ("dataclasses",
    "FrozenInstanceError _HAS_DEFAULT_FACTORY_CLASS _MISSING_TYPE _KW_ONLY_TYPE _FIELD_BASE " ++
      "InitVar Field _DataclassParams"),
  ("datetime",
    "timedelta date tzinfo time datetime timezone"),
  ("decimal",
    "Decimal Context DecimalTuple DecimalException Clamped Rounded Inexact Subnormal " ++
      "Underflow Overflow DivisionByZero FloatOperation InvalidOperation ConversionSyntax " ++
      "DivisionImpossible DivisionUndefined InvalidContext"),
  ("dis",
    "_Unknown Positions _Instruction _ExceptionTableEntry Instruction Bytecode"),
  ("enum",
    "Enum Flag ReprEnum nonmember member auto property _proto_member _EnumDict EnumType " ++
      "IntEnum StrEnum FlagBoundary IntFlag EnumCheck verify"),
  ("fractions",
    "Fraction"),
  ("functools",
    "partial partialmethod _HashedSeq _lru_cache_wrapper singledispatchmethod " ++
      "cached_property"),
  ("gettext",
    "NullTranslations GNUTranslations"),
  ("importlib.abc",
    "Finder MetaPathFinder PathEntryFinder ResourceLoader InspectLoader ExecutionLoader " ++
      "FileLoader SourceLoader"),
  ("importlib.util",
    "_LazyModule LazyLoader"),
  ("inspect",
    "Attribute ClassFoundException _ClassFinder EndOfBlock BlockFinder Arguments " ++
      "FullArgSpec ArgInfo ClosureVars _Traceback Traceback _FrameInfo FrameInfo _void _empty " ++
      "_ParameterKind Parameter BoundArguments Signature"),
  ("io",
    "UnsupportedOperation IOBase RawIOBase BufferedIOBase TextIOBase"),
  ("ipaddress",
    "AddressValueError NetmaskValueError _IPAddressBase _BaseAddress _BaseNetwork " ++
      "_BaseConstants _BaseV4 IPv4Address IPv4Interface IPv4Network _IPv4Constants _BaseV6 " ++
      "IPv6Address IPv6Interface IPv6Network _IPv6Constants"),
  ("itertools",
    "accumulate combinations combinations_with_replacement cycle dropwhile takewhile islice " ++
      "starmap chain compress filterfalse count zip_longest pairwise permutations product " ++
      "repeat groupby _grouper _tee _tee_dataobject"),
  ("json.decoder",
    "JSONDecodeError JSONDecoder"),
  ("json.encoder",
    "JSONEncoder"),
  ("logging",
    "LogRecord PercentStyle StrFormatStyle StringTemplateStyle Formatter BufferingFormatter " ++
      "Filter Filterer Handler StreamHandler FileHandler _StderrHandler PlaceHolder Manager " ++
      "Logger RootLogger LoggerAdapter NullHandler"),
  ("numbers",
    "Number Complex Real Rational Integral"),
  ("operator",
    "attrgetter itemgetter methodcaller"),
  ("os",
    "stat_result statvfs_result terminal_size _Environ _wrap_close PathLike"),
  ("pathlib",
    "_Flavour _WindowsFlavour _PosixFlavour _Selector _TerminatingSelector _PreciseSelector " ++
      "_WildcardSelector _RecursiveWildcardSelector _PathParents PurePath PurePosixPath " ++
      "PureWindowsPath Path PosixPath WindowsPath"),
  ("queue",
    "Full Queue PriorityQueue LifoQueue _PySimpleQueue"),
  ("random",
    "Random SystemRandom"),
  ("re",
    "RegexFlag error Pattern Match Scanner"),
  ("reprlib",
    "Repr"),
  ("string",
    "Template Formatter"),
  ("textwrap",
    "TextWrapper"),
  ("threading",
    "_RLock Condition Semaphore BoundedSemaphore Event Barrier BrokenBarrierError Thread " ++
      "Timer _MainThread _DummyThread"),
  ("time",
    "struct_time"),
  ("tokenize",
    "TokenInfo TokenError StopTokenizing Untokenizer"),
  ("traceback",
    "_Sentinel FrameSummary StackSummary _Anchors _ExceptionPrintContext TracebackException"),
  ("types",
    "SimpleNamespace DynamicClassAttribute _GeneratorWrapper GenericAlias UnionType"),
  ("typing",
    "_Final _Immutable _NotIterable _SpecialForm _LiteralSpecialForm _AnyMeta Any " ++
      "ForwardRef _PickleUsingNameMixin _BoundVarianceMixin TypeVar TypeVarTuple " ++
      "ParamSpecArgs ParamSpecKwargs ParamSpec _BaseGenericAlias _GenericAlias " ++
      "_SpecialGenericAlias _CallableGenericAlias _CallableType _TupleType _UnionGenericAlias " ++
      "_LiteralGenericAlias _ConcatenateGenericAlias _UnpackGenericAlias Generic " ++
      "_TypingEllipsis _ProtocolMeta Protocol _AnnotatedAlias Annotated SupportsInt " ++
      "SupportsFloat SupportsComplex SupportsBytes SupportsIndex SupportsAbs SupportsRound " ++
      "NamedTupleMeta _TypedDictMeta NewType IO BinaryIO TextIO _DeprecatedType io re"),
  ("urllib.parse",
    "_ResultMixinStr _ResultMixinBytes _NetlocResultMixinBase _NetlocResultMixinStr " ++
      "_NetlocResultMixinBytes DefragResult SplitResult ParseResult DefragResultBytes " ++
      "SplitResultBytes ParseResultBytes _Quoter"),
  ("uuid",
    "SafeUUID UUID"),
  ("warnings",
    "_OptionError WarningMessage catch_warnings"),
  ("weakref",
    "CallableProxyType ProxyType ReferenceType WeakMethod WeakValueDictionary KeyedRef " ++
      "WeakKeyDictionary finalize"),
  ("zipimport",
    "ZipImportError zipimporter")]

/-- Names that some modules bind to classes of other names or of other modules: the module, the
name, and the module and the name of the class. -/
def sharedClassNames : List (String × String × String × String) := [
  ("ast", "nullcontext", "contextlib", "nullcontext"), ("ast", "IntEnum", "enum", "IntEnum"),
  ("ast", "auto", "enum", "auto"), ("collections", "_chain", "itertools", "chain"),
  ("collections", "_repeat", "itertools", "repeat"),
  ("collections", "_starmap", "itertools", "starmap"),
  ("collections", "_itemgetter", "operator", "itemgetter"),
  ("collections", "_tuplegetter", "_collections", "_tuplegetter"),
  ("contextlib", "deque", "collections", "deque"),
  ("contextlib", "MethodType", "builtins", "method"),
  ("contextlib", "GenericAlias", "types", "GenericAlias"), ("copy", "error", "copy", "Error"),
  ("dataclasses", "FunctionType", "builtins", "function"),
  ("dataclasses", "GenericAlias", "types", "GenericAlias"),
  ("enum", "MappingProxyType", "builtins", "mappingproxy"),
  ("enum", "DynamicClassAttribute", "types", "DynamicClassAttribute"),
  ("enum", "EnumMeta", "enum", "EnumType"), ("fractions", "Decimal", "decimal", "Decimal"),
  ("functools", "RLock", "_thread", "RLock"),
  ("functools", "GenericAlias", "types", "GenericAlias"),
  ("functools", "_CacheInfo", "functools", "CacheInfo"),
  ("importlib.abc", "Loader", "importlib._abc", "Loader"),
  ("importlib.abc", "ResourceReader", "importlib.resources.abc", "ResourceReader"),
  ("importlib.abc", "Traversable", "importlib.resources.abc", "Traversable"),
  ("importlib.abc", "TraversableResources", "importlib.resources.abc", "TraversableResources"),
  ("importlib.machinery", "ModuleSpec", "_frozen_importlib", "ModuleSpec"),
  ("importlib.machinery", "BuiltinImporter", "_frozen_importlib", "BuiltinImporter"),
  ("importlib.machinery", "FrozenImporter", "_frozen_importlib", "FrozenImporter"),
  ("importlib.machinery", "WindowsRegistryFinder", "_frozen_importlib_external",
    "WindowsRegistryFinder"),
  ("importlib.machinery", "PathFinder", "_frozen_importlib_external", "PathFinder"),
  ("importlib.machinery", "FileFinder", "_frozen_importlib_external", "FileFinder"),
  ("importlib.machinery", "SourceFileLoader", "_frozen_importlib_external", "SourceFileLoader"),
  ("importlib.machinery", "SourcelessFileLoader", "_frozen_importlib_external",
    "SourcelessFileLoader"),
  ("importlib.machinery", "ExtensionFileLoader", "_frozen_importlib_external",
    "ExtensionFileLoader"),
  ("importlib.machinery", "NamespaceLoader", "_frozen_importlib_external", "NamespaceLoader"),
  ("importlib.util", "Loader", "importlib._abc", "Loader"),
  ("inspect", "attrgetter", "operator", "attrgetter"),
  ("inspect", "OrderedDict", "collections", "OrderedDict"),
  ("io", "BlockingIOError", "builtins", "BlockingIOError"), ("io", "FileIO", "_io", "FileIO"),
  ("io", "BytesIO", "_io", "BytesIO"), ("io", "StringIO", "_io", "StringIO"),
  ("io", "BufferedReader", "_io", "BufferedReader"),
  ("io", "BufferedWriter", "_io", "BufferedWriter"),
  ("io", "BufferedRWPair", "_io", "BufferedRWPair"),
  ("io", "BufferedRandom", "_io", "BufferedRandom"),
  ("io", "IncrementalNewlineDecoder", "_io", "IncrementalNewlineDecoder"),
  ("io", "TextIOWrapper", "_io", "TextIOWrapper"),
  ("json", "JSONDecoder", "json.decoder", "JSONDecoder"),
  ("json", "JSONDecodeError", "json.decoder", "JSONDecodeError"),
  ("json", "JSONEncoder", "json.encoder", "JSONEncoder"),
  ("json.encoder", "c_make_encoder", "_json", "Encoder"),
  ("json.scanner", "c_make_scanner", "_json", "Scanner"),
  ("json.scanner", "make_scanner", "_json", "Scanner"),
  ("logging", "GenericAlias", "types", "GenericAlias"),
  ("logging", "Template", "string", "Template"),
  ("logging", "_logRecordFactory", "logging", "LogRecord"),
  ("logging", "_loggerClass", "logging", "Logger"), ("numbers", "ABCMeta", "abc", "ABCMeta"),
  ("os", "GenericAlias", "types", "GenericAlias"), ("os", "error", "builtins", "OSError"),
  ("os", "waitid_result", "posix", "waitid_result"), ("os", "sched_param", "posix", "sched_param"),
  ("os", "DirEntry", "posix", "DirEntry"), ("os", "times_result", "posix", "times_result"),
  ("os", "uname_result", "posix", "uname_result"),
  ("os", "MutableMapping", "collections.abc", "MutableMapping"),
  ("os", "Mapping", "collections.abc", "Mapping"),
  ("pathlib", "Sequence", "collections.abc", "Sequence"),
  ("pathlib", "attrgetter", "operator", "attrgetter"), ("queue", "deque", "collections", "deque"),
  ("queue", "SimpleQueue", "_queue", "SimpleQueue"), ("queue", "Empty", "_queue", "Empty"),
  ("random", "_Set", "collections.abc", "Set"),
  ("random", "_Sequence", "collections.abc", "Sequence"),
  ("random", "_accumulate", "itertools", "accumulate"),
  ("random", "_repeat", "itertools", "repeat"), ("reprlib", "islice", "itertools", "islice"),
  ("string", "_ChainMap", "collections", "ChainMap"),
  ("threading", "WeakSet", "_weakrefset", "WeakSet"),
  ("threading", "_islice", "itertools", "islice"), ("threading", "_count", "itertools", "count"),
  ("threading", "_deque", "collections", "deque"),
  ("threading", "ThreadError", "builtins", "RuntimeError"),
  ("threading", "_CRLock", "_thread", "RLock"), ("threading", "_PyRLock", "threading", "_RLock"),
  ("threading", "ExceptHookArgs", "_thread", "_ExceptHookArgs"),
  ("threading", "local", "_thread", "_local"),
  ("tokenize", "TextIOWrapper", "_io", "TextIOWrapper"),
  ("traceback", "suppress", "contextlib", "suppress"),
  ("types", "FunctionType", "builtins", "function"),
  ("types", "LambdaType", "builtins", "function"), ("types", "CodeType", "builtins", "code"),
  ("types", "MappingProxyType", "builtins", "mappingproxy"),
  ("types", "CellType", "builtins", "cell"), ("types", "GeneratorType", "builtins", "generator"),
  ("types", "CoroutineType", "builtins", "coroutine"),
  ("types", "AsyncGeneratorType", "builtins", "async_generator"),
  ("types", "MethodType", "builtins", "method"),
  ("types", "BuiltinFunctionType", "builtins", "builtin_function_or_method"),
  ("types", "BuiltinMethodType", "builtins", "builtin_function_or_method"),
  ("types", "WrapperDescriptorType", "builtins", "wrapper_descriptor"),
  ("types", "MethodWrapperType", "builtins", "method-wrapper"),
  ("types", "MethodDescriptorType", "builtins", "method_descriptor"),
  ("types", "ClassMethodDescriptorType", "builtins", "classmethod_descriptor"),
  ("types", "ModuleType", "builtins", "module"),
  ("types", "TracebackType", "builtins", "traceback"), ("types", "FrameType", "builtins", "frame"),
  ("types", "GetSetDescriptorType", "builtins", "getset_descriptor"),
  ("types", "MemberDescriptorType", "builtins", "member_descriptor"),
  ("types", "EllipsisType", "builtins", "ellipsis"), ("types", "NoneType", "builtins", "NoneType"),
  ("types", "NotImplementedType", "builtins", "NotImplementedType"),
  ("typing", "ABCMeta", "abc", "ABCMeta"), ("typing", "defaultdict", "collections", "defaultdict"),
  ("typing", "WrapperDescriptorType", "builtins", "wrapper_descriptor"),
  ("typing", "MethodWrapperType", "builtins", "method-wrapper"),
  ("typing", "MethodDescriptorType", "builtins", "method_descriptor"),
  ("typing", "GenericAlias", "types", "GenericAlias"),
  ("typing", "_alias", "typing", "_SpecialGenericAlias"), ("typing", "Text", "builtins", "str"),
  ("urllib.parse", "ResultBase", "urllib.parse", "_NetlocResultMixinStr"),
  ("uuid", "Enum", "enum", "Enum"), ("uuid", "int_", "builtins", "int"),
  ("uuid", "bytes_", "builtins", "bytes"), ("weakref", "ref", "weakref", "ReferenceType"),
  ("weakref", "WeakSet", "_weakrefset", "WeakSet"),
  ("weakref", "_IterationGuard", "_weakrefset", "_IterationGuard"),
  ("zipimport", "_module_type", "builtins", "module"),
  ("zipimport", "_code_type", "builtins", "code")]

/-! ## Modules -/

/-- The modules that some modules import, with blanks between them; a name is followed by that of
the module if it is another one. -/
def standardImports : List (String × String) := [
  ("argparse", "_os:os _re:re _sys:sys warnings"),
  ("ast", "sys"),
  ("codecs", "builtins sys"),
  ("collections", "_collections_abc:collections.abc _sys:sys abc:collections.abc"),
  ("contextlib", "abc os sys _collections_abc:collections.abc"),
  ("dataclasses", "re sys copy types inspect keyword builtins functools itertools abc _thread"),
  ("datetime", "sys"),
  ("dis", "sys types collections io"),
  ("enum", "sys bltns:builtins"),
  ("fractions", "math numbers operator re sys"),
  ("gettext", "operator os re sys"),
  ("importlib",
    "_imp sys _bootstrap:importlib._bootstrap " ++
      "_bootstrap_external:importlib._bootstrap_external warnings " ++
      "machinery:importlib.machinery _abc:importlib._abc resources:importlib.resources " ++
      "abc:importlib.abc util:importlib.util"),
  ("importlib.abc",
    "_bootstrap_external:importlib._bootstrap_external machinery:importlib.machinery " ++
      "_frozen_importlib:importlib._bootstrap " ++
      "_frozen_importlib_external:importlib._bootstrap_external abc warnings"),
  ("importlib.util", "_imp functools sys threading types warnings"),
  ("inspect",
    "abc ast dis collections enum importlib itertools linecache os re sys tokenize token " ++
      "types functools builtins"),
  ("io", "_io:io abc"),
  ("ipaddress", "functools"),
  ("json", "scanner:json.scanner decoder:json.decoder encoder:json.encoder codecs"),
  ("json.decoder", "re scanner:json.scanner"),
  ("json.encoder", "re"),
  ("json.scanner", "re"),
  ("logging", "sys os time io re traceback warnings weakref collections threading atexit"),
  ("os", "abc sys st:stat path:posixpath"),
  ("pathlib", "fnmatch functools io ntpath os posixpath re sys warnings"),
  ("queue", "threading types"),
  ("random", "_os:os _random"),
  ("re",
    "enum _constants:re._constants _parser:re._parser _casefix:re._casefix " ++
      "_compiler:re._compiler functools copyreg"),
  ("reprlib", "builtins"),
  ("string", "_string _re:re"),
  ("textwrap", "re"),
  ("threading", "_os:os _sys:sys functools"),
  ("tokenize", "collections functools _itertools:itertools re sys"),
  ("traceback", "collections itertools linecache sys textwrap"),
  ("typing", "collections contextlib functools operator stdlib_re:re sys types warnings"),
  ("urllib.parse", "functools re sys types warnings ipaddress"),
  ("uuid", "os sys platform _uuid"),
  ("warnings", "sys"),
  ("weakref", "_collections_abc:collections.abc sys itertools"),
  ("zipimport",
    "_bootstrap_external:importlib._bootstrap_external _bootstrap:importlib._bootstrap _imp " ++
      "_io:io marshal sys time _warnings")]

/-- A value that is imported, of which nothing but its name is known. -/
def Value.imported (name : String) : Value := .object "module" ("<" ++ name ++ ">")

/-- The names under which a module of the standard library imports others. -/
def importsOf (moduleName : String) : List (String × Value) :=
  (Text.pieces ' ' ((standardImports.lookup moduleName).getD "")).map fun word =>
    match Text.pieces ':' word with
    | [name, other] => (name, .imported other)
    | _ => (word, .imported word)

/-! ## Names -/

/-- The names that the module `typing` binds to values that are no classes. -/
def typingValues : List (String × Value) :=
  TypingAlias.all.map (fun word => (word.name, .bareAlias word)) ++
    [Qualifier.classVar, .final, .required, .notRequired].map
      (fun word => (word.name, .qualifier word)) ++
    formNames.map (fun name => (name, .form name)) ++
    [("Any", .standard .any), ("TYPE_CHECKING", .ofBool false)]

/-- The names of a module of the standard library, as far as they are known. -/
def standardNames (moduleName : String) : OrderedMap String Value :=
  let ownNames := (standardClassNames.lookup moduleName).getD ""
  let own := ((Text.pieces ' ' ownNames).filter (· ≠ "")).map fun name =>
    (name, Value.standard (.ofName moduleName name))
  let shared := (sharedClassNames.filter fun entry => entry.1 = moduleName).map fun entry =>
    (entry.2.1, Value.standard (.ofName entry.2.2.1 entry.2.2.2))
  .ofList (own ++ shared ++ importsOf moduleName ++
    if moduleName = "typing" then typingValues
    else if moduleName = "builtins" then builtinNames.filterMap fun name =>
      (builtin? name).map fun value => (name, value)
    else [])

/-- What a module of the standard library has under a name, if it is known. -/
def standardName? (moduleName name : String) : Option Value :=
  (standardNames moduleName).get? name

end ServiceStubs.Source
