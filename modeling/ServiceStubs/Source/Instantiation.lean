import ServiceStubs.Source.Method

/-!
# Calls of classes

A call of a class makes an instance of it. The plain classes convert values; an enumeration gives
the member with a value; a typed dictionary makes a dictionary. Any other class makes an instance
with the function that it has for it and starts the instance with another one. A class with
abstract functions has no instances.
-/

namespace ServiceStubs.Source

/-! ## Abstract functions -/

/-- The abstract functions of interfaces. -/
def abstractNamesOf : List (String × List String) := [
  ("AsyncGenerator", ["asend", "athrow"]), ("AsyncIterable", ["__aiter__"]),
  ("AsyncIterator", ["__anext__"]), ("Awaitable", ["__await__"]),
  ("ByteString", ["__getitem__", "__len__"]), ("Callable", ["__call__"]),
  ("Collection", ["__contains__", "__iter__", "__len__"]), ("Container", ["__contains__"]),
  ("Coroutine", ["__await__", "send", "throw"]), ("Generator", ["send", "throw"]),
  ("Hashable", ["__hash__"]), ("Iterable", ["__iter__"]), ("Iterator", ["__next__"]),
  ("Mapping", ["__getitem__", "__iter__", "__len__"]),
  ("MutableMapping", ["__delitem__", "__getitem__", "__iter__", "__len__", "__setitem__"]),
  ("MutableSequence", ["__delitem__", "__getitem__", "__len__", "__setitem__", "insert"]),
  ("MutableSet", ["__contains__", "__iter__", "__len__", "add", "discard"]),
  ("Reversible", ["__iter__", "__reversed__"]), ("Sequence", ["__getitem__", "__len__"]),
  ("Set", ["__contains__", "__iter__", "__len__"]), ("Sized", ["__len__"]),
  ("AbstractAsyncContextManager", ["__aexit__"]), ("AbstractContextManager", ["__exit__"])]

/-- The abstract functions of a class of the standard library. -/
def StandardClass.abstractNames (value : StandardClass) : List String :=
  if ["collections.abc", "contextlib"].contains value.moduleName then
    (abstractNamesOf.lookup value.name).getD []
  else []

namespace Module

/-- The abstract functions of a class in alphabetical order. -/
def abstractNames (module : Module) : ClassValue → List String
  | .standard value => value.abstractNames
  | .user reference => (module.classAt reference.index).abstractNames.mergeSort (· ≤ ·)

/-- The fault of a class with abstract functions. -/
def abstractFault? (module : Module) (value : ClassValue) : Option Fault :=
  match module.abstractNames value with
  | [] => none
  | names => some (.wrongType ("Can't instantiate abstract class " ++ value.name ++
      " with abstract method" ++ Arity.plural (names.length = 1) ++ " " ++ Text.commaJoined names))

/-! ## Members of enumerations -/

/-- What is said of a value that no member has. -/
def notMemberFault (value : Value) (name : String) : Fault :=
  match value.displayed with
  | .ok text => .wrongValue (text ++ " is not a valid " ++ name)
  | .error fault => fault

/-- The member of an enumeration that a call with a value gives. A function of the enumeration may
be asked when no member has the value. -/
def memberWithValue (module : Module) (owner : ClassRef) (value : Value) : Except Fault Value :=
  let isOwn : Bool := match value with
    | .member other _ _ _ => other.index = owner.index
    | _ => false
  match module.memberGiven? owner value, value.whole? with
  | some found, _ => .ok found
  | none, number? =>
    if isOwn then .ok value
    else match module.ownedAttribute? (.user owner) "_missing_" with
      | some found => do
        match ← module.readFromClass (.user owner) found with
        | .function asked => discard (module.callFunction asked (.ofList [value]))
        | .bound (.function asked) =>
          discard (module.callFunction asked (.ofList [.user owner, value]))
        | _ => pure ()
        throw (notMemberFault value owner.qualifiedName)
      | none =>
        match owner.isFlag, number? with
        | true, some number => .ok (module.flagsFor owner number)
        | _, _ => .error (notMemberFault value owner.qualifiedName)

/-- A call of an enumeration. -/
def callEnumeration (module : Module) (owner : ClassValue) (arguments : Arguments) :
    Except Fault Value :=
  match arguments.values, arguments.named with
  | [], [] => .error (.wrongType
      "EnumType.__call__() missing 1 required positional argument: 'value'")
  | value :: rest, named =>
    match owner, rest, named with
    | .user reference, [], [] => module.memberWithValue reference value
    | .user reference, _, _ =>
      let name := (value.quotation?.map Quotation.text).getD value.display
      if (module.classAt reference.index).memberNames.isEmpty then
        .ok (.unknown name)
      else .error (.wrongType ("<enum " ++ Text.quoted name ++ "> cannot extend " ++
          owner.display))
    | .standard _, [], [] => .error (notMemberFault value owner.qualifiedName)
    | .standard _, _, _ => .ok (.unknown "enum")
  | [], (name, value) :: _ =>
    match owner with
    | .user reference =>
      if name = "value" then module.memberWithValue reference value
      else .error (.wrongType ("EnumType.__call__() got an unexpected keyword argument " ++
        Text.quoted name))
    | .standard _ => .error (notMemberFault value owner.qualifiedName)

/-! ## Plain classes -/

/-- What the plain classes take. -/
def constructorSignature : StandardClass → Signature
  | .bool | .float | .list | .tuple | .set | .frozenset | .deque => .between 0 1
  | .int => .named ["", "base"] 0 2
  | .complex => .named ["real", "imag"] 0 2
  | .str => .named ["object", "encoding", "errors"] 0 3
  | .bytes | .bytearray => .named ["source", "encoding", "errors"] 0 3
  | .named "builtins" "range" | .named "builtins" "slice" => .between 1 3
  | .named "builtins" "reversed" | .named "builtins" "staticmethod"
  | .named "builtins" "classmethod" => .between 1 1
  | .named "builtins" "filter" => .between 2 2
  | .named "builtins" "property" => .named ["fget", "fset", "fdel", "doc"] 0 4
  | .named "builtins" "memoryview" => .named ["object"] 1 1
  | .module => .named ["name", "doc"] 1 2
  | .function => .named ["code", "globals", "name", "argdefs", "closure"] 2 5
  | _ => .any

/-- The plain classes whose values are made of the arguments before they are started. -/
def isMadeOfArguments (value : StandardClass) : Bool :=
  [.bool, .int, .float, .complex, .str, .bytes, .tuple, .frozenset].contains value

/-- The items of a value with numbers from a start on. -/
def enumerated (module : Module) (values : List Value) (named : List (String × Value)) :
    Except Fault Value := do
  let unknown (name : String) : Fault :=
    .wrongType (Text.quoted name ++ " is an invalid keyword argument for enumerate()")
  let numbered (items : Value) (start : Option Value) : Except Fault Value := do
    let start ← Value.integerOr 0 start
    return .iterator "enumerate" ((← module.itemsOf items).zipIdx.map fun (item, place) =>
      .tuple [.ofInt (start + Int.ofNat place), item])
  match values, named with
  | [], [] => throw (.wrongType "enumerate() missing required argument 'iterable'")
  | [items], [] => numbered items none
  | [items, start], [] => numbered items (some start)
  | [items], [(name, start)] =>
    if name = "start" then numbered items (some start) else throw (unknown name)
  | [], [(name, items)] =>
    if name = "iterable" then numbered items none else throw (unknown name)
  | [], [(first, _), (second, _)] =>
    match named.lookup "iterable", named.lookup "start" with
    | some items, some start => numbered items (some start)
    | some _, none => throw (unknown (if first = "iterable" then second else first))
    | none, _ => throw (unknown first)
  | values, named => throw (.wrongType ("enumerate() takes at most 2 arguments (" ++
      toString (values.length + named.length) ++ " given)"))

/-- Tuples of the items of several values, which may have to be of one length. -/
def zippedItems (module : Module) (values : List Value) (named : List (String × Value)) :
    Except Fault Value := do
  if let some entry := named.find? fun entry => entry.1 ≠ "strict" then
    throw (.wrongType (Text.quoted entry.1 ++ " is an invalid keyword argument for zip()"))
  let lists ← values.mapM module.itemsOf
  return .iterator "zip" ((Value.zipped lists).map .tuple)

/-- The value of a plain class that arguments in the order of its parameters make. -/
def plainValue? (module : Module) (memory : Memory) (owner : StandardClass)
    (arguments : List (Option Value)) (named : List (String × Value)) :
    Option (Except Fault Value) :=
  let argument (place : Nat) : Option Value := (arguments[place]?).join
  let items (make : List Value → Value) : Except Fault Value :=
    match argument 0 with
    | none => .ok (make [])
    | some value => (module.itemsOf value).map make
  match owner with
  | .bool => some ((((argument 0).map module.isTrue).getD (.ok false)).map .ofBool)
  | .int => some (match argument 0, argument 1 with
      | none, some _ => .error (.wrongType "int() missing string argument")
      | none, none => .ok (.ofInt 0)
      | some value, none => (Value.wholeFrom value).map .ofInt
      | some value, some base => (Value.wholeInBase value base).map .ofInt)
  | .float => some ((((argument 0).map Value.fractionFrom).getD (.ok .zero)).map .ofFloating)
  | .complex => some ((Value.complexFrom ((argument 0).getD (.ofInt 0)) (argument 1)).map .complex)
  | .str => some ((((argument 0).map fun value =>
      Value.textFrom module value (argument 1) (argument 2)).getD (.ok "")).map .ofText)
  | .bytes | .bytearray =>
    some ((Value.bytesFrom module owner.name (argument 0) (argument 1) (argument 2)).map
      (.bytes (owner = .bytearray)))
  | .list => some (items .list)
  | .tuple => some (items .tuple)
  | .set | .frozenset => some (Value.setFrom module memory (owner = .frozenset) (argument 0))
  | .dict =>
    if 1 < arguments.length then
      some (.error (.wrongType ("dict expected at most 1 argument, got " ++
        toString arguments.length)))
    else some ((Value.dictionaryFrom module memory (argument 0) named).map .dictionary)
  | .deque => some (items fun items =>
      .object "collections.deque" ("deque(" ++ (Value.list items).display ++ ")"))
  | .named "builtins" "range" => some (Value.rangeFrom arguments.reduceOption)
  | .named "builtins" "slice" => some (.ok (Value.sliceFrom arguments.reduceOption))
  | .named "builtins" "reversed" =>
    let value := (argument 0).getD .nothing
    some (match value.sequenceItems?, value.plain with
      | some items, _ => .ok (.iterator "reversed" items.reverse)
      | none, .dictionary entries =>
        .ok (.iterator "dict_reversekeyiterator" (entries.map Prod.fst).reverse)
      | none, _ => .error (.wrongType ("'" ++ value.typeName ++ "' object is not reversible")))
  | .named "builtins" "enumerate" => some (module.enumerated arguments.reduceOption named)
  | .named "builtins" "zip" => some (module.zippedItems arguments.reduceOption named)
  | .named "builtins" "property" =>
    some (.ok (.wrapped .property false ((argument 0).getD .nothing)))
  | .named "builtins" "staticmethod" =>
    some (.ok (.wrapped .static false ((argument 0).getD .nothing)))
  | .named "builtins" "classmethod" =>
    some (.ok (.wrapped .classBound false ((argument 0).getD .nothing)))
  | .named "builtins" "memoryview" =>
    let value := (argument 0).getD .nothing
    some (if value.plain matches .bytes _ _ then .ok (.object "memoryview" "<memory>")
      else .error (.wrongType ("memoryview: a bytes-like object is required, not '" ++
        value.typeName ++ "'")))
  | .named "builtins" "super" =>
    some (match argument 0 with
      | none => .error (.misnamed "super(): no arguments")
      | some (.classValue _) => .ok (.object "super" "<super>")
      | some value => .error (.wrongType ("super() argument 1 must be a type, not " ++
          value.typeName)))
  | .module => some (.ok (.imported (((argument 0).map Value.display).getD "")))
  | .function => some (.error (.wrongType ("function() argument 'code' must be code, not " ++
      (((argument 0).map Value.typeName).getD ""))))
  | _ => none

/-- What is wrong with the values that a type variable is made of, if anything is: after its name
stand the types that it is limited to. -/
def variableFault? (arguments : Arguments) : Option Fault :=
  match arguments.values.drop 1 with
  | [] => none
  | [_] => some (.wrongType "A single constraint is not allowed")
  | limits => (limits.find? fun limit => limit.plain matches .tuple _).map fun limit =>
      .wrongType ("TypeVar(name, constraint, ...): constraints must be types. Got " ++
        String.ofList (limit.display.toList.take 100) ++ ".")

/-- The classes of the forms of annotations, with those that start their values: each is made of
two values. -/
def formStarters : List (String × String) := [
  ("_SpecialGenericAlias", "_SpecialGenericAlias"), ("_TupleType", "_SpecialGenericAlias"),
  ("_CallableType", "_SpecialGenericAlias"), ("_GenericAlias", "_GenericAlias"),
  ("_CallableGenericAlias", "_GenericAlias"), ("_UnionGenericAlias", "_GenericAlias"),
  ("_LiteralGenericAlias", "_GenericAlias"), ("NewType", "NewType")]

/-- The classes of which there is one value, and those without calls. -/
def callSingular? (owner : StandardClass) (arguments : Arguments) : Option (Except Fault Value) :=
  let only (value : Value) (name : String) : Option (Except Fault Value) :=
    some (if arguments.values.isEmpty && arguments.named.isEmpty then .ok value
      else .error (.wrongType (name ++ " takes no arguments")))
  match owner with
  | .noneType => only .nothing "NoneType"
  | .named "builtins" "ellipsis" => only .ellipsis "EllipsisType"
  | .named "builtins" "NotImplementedType" => only .notImplemented "NotImplementedType"
  | .any => some (.error (.wrongType "Any cannot be instantiated"))
  | .named "types" "UnionType" =>
    some (.error (.wrongType "cannot create 'types.UnionType' instances"))
  | .named "builtins" "builtin_function_or_method" | .named "builtins" "generator"
  | .named "builtins" "method_descriptor" | .named "builtins" "wrapper_descriptor" =>
    some (.error (.wrongType ("cannot create '" ++ owner.name ++ "' instances")))
  | .date | .datetime =>
    some (match arguments.values with
      | [] => .error (.wrongType "function missing required argument 'year' (pos 1)")
      | values => do
        let parts ← values.mapM Value.integer
        match (["year", "month", "day"].drop parts.length).head? with
        | some missing => throw (.wrongType ("function missing required argument " ++
            Text.quoted missing ++ " (pos " ++ toString (parts.length + 1) ++ ")"))
        | none => return .object owner.fullName (owner.fullName ++ "(" ++
            Text.commaJoined (parts.map toString) ++ ")"))
  | .named "typing" "TypeVar" => (variableFault? arguments).map .error
  | .named "typing" name =>
    match formStarters.lookup name with
    | some starter =>
      let given := arguments.values.length
      if given ≤ 2 then none
      else some (.error (.wrongType (starter ++ ".__init__() takes 3 positional arguments but " ++
        toString (given + 1) ++ " were given")))
    | none => none
  | .named "types" "GenericAlias" =>
    if arguments.values.length = 2 then none
    else some (.error (.wrongType ("GenericAlias expected 2 arguments, got " ++
      toString arguments.values.length)))
  | .decimal =>
    let value := arguments.values.headD (.ofInt 0)
    let shown (text : String) : Value :=
      .object owner.fullName ("Decimal(" ++ Text.quoted text ++ ")")
    let lineage := ["InvalidOperation", "DecimalException", "ArithmeticError", "Exception",
      "BaseException"]
    some (match value.scalar?, value.quotation? with
      | some (.whole number), _ => .ok (shown (toString number))
      | some (.fraction number), _ => .ok (shown number.display)
      | _, some quotation =>
        match fractionOf? (plainNumeral quotation.text) with
        | some _ => .ok (shown (String.ofList (plainNumeral quotation.text)))
        | none => .error (.raised lineage "[<class 'decimal.ConversionSyntax'>]")
      | _, none => .error (.wrongType ("conversion from " ++ value.typeName ++
          " to Decimal is not supported")))
  | _ => none

/-! ## Exceptions -/

/-- The exceptions that cannot be made of a message alone, with how many values they take. -/
def particularExceptions : List (String × Nat) :=
  [("UnicodeDecodeError", 5), ("UnicodeEncodeError", 5), ("UnicodeTranslateError", 4)]

/-- The exceptions that take values under names, with the names. -/
def namedParts : List (String × List String) :=
  [("ImportError", ["name", "path"]), ("AttributeError", ["name", "obj"]), ("NameError", ["name"])]

/-- What is wrong with the values that a group of exceptions is made of. -/
def groupFault? (module : Module) (arguments : Arguments) : Option Fault :=
  match arguments.values with
  | [message, parts] =>
    match message.quotation?, parts.plain.sequenceItems? with
    | none, _ => some (.wrongType ("BaseExceptionGroup.__new__() argument 1 must be str, not " ++
        message.namedType))
    | _, none => some (.wrongType "second argument (exceptions) must be a sequence")
    | _, some [] => some (.wrongValue "second argument (exceptions) must be a non-empty sequence")
    | _, some items =>
      (items.findIdx? fun item => !module.isInstance item (.standard (.exception "BaseException")))
        |>.map fun place => .wrongValue ("Item " ++ toString place ++
          " of second argument (exceptions) is not an exception")
  | values => some (.wrongType ("BaseExceptionGroup.__new__() takes exactly 2 arguments (" ++
      toString values.length ++ " given)"))

/-- What is wrong with the values that an exception about a text is made of. -/
def placeFault? (module : Module) (arguments : Arguments) : Option Fault :=
  match arguments.values with
  | [_, place] =>
    match module.itemsOf place with
    | .error fault => some fault
    | .ok items =>
      let told (bound : String) : Option Fault :=
        some (.wrongType ("function takes at " ++ bound ++ " arguments (" ++
          toString items.length ++ " given)"))
      if items.length < 4 then told "least 4" else if 6 < items.length then told "most 6"
      else none
  | _ => none

/-- What is wrong with the values that an exception is made of. -/
def exceptionFault? (module : Module) (name : String) (lineage : List String)
    (arguments : Arguments) : Option Fault :=
  let given := arguments.values.length
  let named? := lineage.findSome? fun name => (namedParts.lookup name).map (name, ·)
  match lineage.findSome? fun name => particularExceptions.lookup name with
  | some count =>
    if !arguments.named.isEmpty then some (.wrongType (name ++ "() takes no keyword arguments"))
    else if given = count then none
    else some (.wrongType ("function takes exactly " ++ toString count ++ " arguments (" ++
      toString given ++ " given)"))
  | none =>
    if lineage.contains "BaseExceptionGroup" then module.groupFault? arguments
    else match named?, arguments.named with
      | none, _ :: _ => some (.wrongType (name ++ "() takes no keyword arguments"))
      | some (owner, allowed), named =>
        (named.find? fun entry => !allowed.contains entry.1).map fun entry =>
          .wrongType (Text.quoted entry.1 ++ " is an invalid keyword argument for " ++ owner ++
            "()")
      | none, [] =>
        if lineage.contains "SyntaxError" then module.placeFault? arguments else none

/-- The exceptions that stand for errors of the system, with the numbers of the errors. -/
def systemErrors : List (Int × String) := [
  (11, "BlockingIOError"), (114, "BlockingIOError"), (115, "BlockingIOError"),
  (32, "BrokenPipeError"), (108, "BrokenPipeError"), (10, "ChildProcessError"),
  (103, "ConnectionAbortedError"), (111, "ConnectionRefusedError"),
  (104, "ConnectionResetError"), (17, "FileExistsError"), (2, "FileNotFoundError"),
  (21, "IsADirectoryError"), (20, "NotADirectoryError"), (4, "InterruptedError"),
  (13, "PermissionError"), (1, "PermissionError"), (3, "ProcessLookupError"),
  (110, "TimeoutError")]

/-- The exception that a call of one makes: that of an error of the system, if one is named. -/
def exceptionFor (name : String) (arguments : List Value) : String :=
  match name, arguments with
  | "OSError", number :: _ :: _ =>
    ((number.whole?.bind fun number => systemErrors.lookup number)).getD name
  | _, _ => name

/-- The displayed form of an exception. -/
def exceptionDisplay (name : String) (arguments : List Value) : String :=
  name ++ "(" ++ Text.commaJoined (Value.displays arguments) ++ ")"

/-- The attributes of an exception that is made of some values. One that stands for an error of the
system keeps the number and the text of the error, and the file that it is about. -/
def exceptionAttributes (lineage : List String) (arguments : List Value) :
    List (String × Value) :=
  let isOfSystem := lineage.contains "OSError" && 2 ≤ arguments.length && arguments.length ≤ 5
  match isOfSystem, arguments with
  | true, number :: text :: rest =>
    let file := rest.headD .nothing
    let kept := if file matches .constant .missing then arguments else [number, text]
    [("args", .tuple kept), ("errno", number), ("strerror", text), ("filename", file)]
  | _, _ => [("args", .tuple arguments)]

/-- The values that an exception shows. -/
def shownArguments (attributes : List (String × Value)) : List Value :=
  match attributes.lookup "args" with
  | some (.tuple values) => values
  | _ => []

/-! ## Instances of classes -/

section

variable (module : Module) (calling : Calling)

/-- The class of the standard library that makes the instances of a class. -/
def makerOf (value : ClassValue) : StandardClass :=
  ((module.orderOf value).findSome? fun
    | .standard owner => if owner.hasOwn "__new__" || (owner matches .exception _) then some owner
      else none
    | .user _ => none).getD .object

/-- What starts the instances of a class, if it is a function of a class of a module. -/
def starterOf? (value : ClassValue) : Option Value := module.ownedAttribute? value "__init__"

/-- The attributes that a function made for a record keeps. -/
def keptAttributes (purpose : Purpose) (found : FunctionRef) (arguments : Arguments) :
    List (String × Value) :=
  let function := module.functionAt found.index
  if function.purpose ≠ some purpose then []
  else
    let defaults := (function.parameters.filter Parameter.hasDefault).map fun parameter =>
      (function.defaults.lookup parameter.name).getD .nothing
    match arguments.assign function.qualifiedName function.parameters defaults with
    | .ok assignment => function.parameters.drop 1 |>.filterMap fun parameter =>
        (assignment.lookup parameter.name).map (parameter.name, ·)
    | .error _ => []

/-- Start an instance of a class with some arguments. -/
def startInstance (owner : ClassValue) (made : Value) (arguments : Arguments) :
    Evaluating Unit := do
  match module.starterOf? owner with
  | some found => do
    match ← .ofExcept (module.readFromInstance made "__init__" found) with
    | .bound inner => discard (calling inner (arguments.after made))
    | starter => discard (calling starter arguments)
  | none => return

/-- An instance of a class of a module, which is made of some values. -/
def plainInstance (reference : ClassRef) (maker : StandardClass) (arguments : Arguments) :
    Evaluating Value := do
  let owner := ClassValue.user reference
  let hasStarter := (module.starterOf? owner).isSome
  let place ← Evaluating.newPlace
  let isProtocol := (module.classAt reference.index).isProtocol
  match maker with
  | .exception _ => do
    let lineage := (module.orderOf owner).map ClassValue.name
    if !hasStarter then
      if let some fault := module.exceptionFault? reference.name lineage arguments then throw fault
    let attributes := exceptionAttributes lineage arguments.values
    return .instanceOf owner place none
      (if reference.displayFlaw.isNone then
        some (exceptionDisplay reference.name (shownArguments attributes))
        else none) attributes
  | .object => do
    let isGiven := !arguments.values.isEmpty || !arguments.named.isEmpty
    let refused := Fault.wrongType (reference.name ++ "() takes no arguments")
    let inheritsProtocol := (module.orderOf owner).any fun ancestor => match ancestor with
      | .user other => (module.classAt other.index).isProtocol
      | .standard _ => false
    if isGiven && !hasStarter && !inheritsProtocol then throw refused
    if let some fault := module.abstractFault? owner then throw fault
    if isProtocol && !hasStarter then throw (.wrongType "Protocols cannot be instantiated")
    if isGiven && !hasStarter then throw refused
    return .instanceOf owner place none none []
  | maker => do
    let memory ← get
    let given := if hasStarter && !isMadeOfArguments maker then {} else arguments
    let arranged ← .ofExcept ((constructorSignature maker).arranged maker.name maker.name given)
    let held ← .ofExcept ((module.plainValue? memory maker arranged given.named).getD
      (.ok .nothing))
    if let some fault := module.abstractFault? owner then
      if maker = .object then throw fault
    return .instanceOf owner place (if held matches .constant .missing then none else some held)
      none []

/-- The form of a record with what its fields hold. -/
def recordDisplay (reference : ClassRef) (kept : List (String × Value)) : String :=
  reference.qualifiedName ++ "(" ++ Text.commaJoined (kept.map fun entry =>
    entry.1 ++ "=" ++ entry.2.display) ++ ")"

/-- Whether the instances of a class are displayed with their fields. -/
def displaysFields (owner : ClassValue) : Bool :=
  match module.ownedAttribute? owner "__repr__" with
  | some (.function found) => (module.functionAt found.index).purpose = some .display
  | _ => false

/-- What the function of a class that makes its instances gives. -/
def makeWith (reference : ClassRef) (found : Value) (arguments : Arguments) :
    Evaluating Value := do
  let owner := ClassValue.user reference
  let maker ← match found with
    | .function _ => pure found
    | found => .ofExcept (module.readFromClass owner found)
  let made ← match maker with
    | .bound inner => calling inner ((arguments.after (.user reference)).after (.user reference))
    | maker => calling maker (arguments.after (.user reference))
  match maker with
  | .function function => do
    if (module.functionAt function.index).purpose ≠ some .items then return made
    let kept := module.keptAttributes .items function (arguments.after (.user reference))
    return .instanceOf owner (← Evaluating.newPlace) (some (.tuple (kept.map Prod.snd)))
      (some (recordDisplay reference kept)) []
  | _ => return made

/-- A call of a class of a module that is no enumeration. -/
def instantiate (reference : ClassRef) (arguments : Arguments) : Evaluating Value := do
  let owner := ClassValue.user reference
  let start (made : Value) : Evaluating Value := do
    startInstance module calling owner made arguments
    match made, module.starterOf? owner with
    | .instanceOf owner place held shown attributes, some (.function found) => do
      let kept := module.keptAttributes .attributes found (arguments.after made)
      if kept.isEmpty then return made
      let shown := if displaysFields module owner then some (recordDisplay reference kept)
        else shown
      return .instanceOf owner place held shown (attributes ++ kept)
    | made, _ => return made
  match module.ownedAttribute? owner "__new__" with
  | none => start (← plainInstance module reference (module.makerOf owner) arguments)
  | some found => do
    let made ← makeWith module calling reference found arguments
    if module.isInstance made owner then start made else return made

/-- Whether a test keeps an item; without a test the true ones are kept. -/
def isKept (test item : Value) : Evaluating Bool := do
  if test matches .constant .missing then .ofExcept (module.isTrue item)
  else .ofExcept (module.isTrue (← calling test (.ofList [item])))

/-- A call of a class of the standard library. -/
def callStandard (owner : StandardClass) (arguments : Arguments) : Evaluating Value := do
  let isGiven := !arguments.values.isEmpty || !arguments.named.isEmpty
  if let some result := callSingular? owner arguments then return ← .ofExcept result
  match owner with
  | .exception name => do
    if let some fault := module.exceptionFault? name (StandardClass.lineage name) arguments then
      throw fault
    let name := exceptionFor name arguments.values
    let attributes := exceptionAttributes (StandardClass.lineage name) arguments.values
    return .instanceOf (.standard (.exception name)) (← Evaluating.newPlace) none
      (some (exceptionDisplay name (shownArguments attributes))) attributes
  | .type =>
    let refused (place : Nat) (wanted : String) (value : Value) : Fault :=
      .wrongType ("type.__new__() argument " ++ toString place ++ " must be " ++ wanted ++
        ", not " ++ value.namedType)
    match arguments.values with
    | [value] =>
      if arguments.named.isEmpty then .ofExcept (module.attributeOf "__class__" value)
      else throw (.wrongType "type() takes no keyword arguments")
    | [name, bases, attributes] =>
      match name.quotation?, bases.plain, attributes.plain with
      | none, _, _ => throw (refused 1 "str" name)
      | _, .tuple _, .dictionary _ => pure ()
      | _, .tuple _, _ => throw (refused 3 "dict" attributes)
      | _, _, _ => throw (refused 2 "tuple" bases)
      match name.quotation? with
      | none => throw (refused 1 "str" name)
      | some quotation =>
        return .user {
          index := module.classes.size + (← Evaluating.newPlace)
          moduleName := module.name
          qualifiedName := quotation.text
          name := quotation.text }
    | _ => throw (.wrongType "type() takes 1 or 3 arguments")
  | .named "builtins" "map" =>
    if !arguments.named.isEmpty then throw (.wrongType "map() takes no keyword arguments")
    match arguments.values with
    | function :: first :: rest => do
      let lists ← .ofExcept ((first :: rest).mapM module.itemsOf)
      let results ← (Value.zipped lists).mapM fun items => calling function (.ofList items)
      return .iterator "map" results
    | _ => throw (.wrongType "map() must have at least two arguments.")
  | .named "builtins" "filter" => do
    discard (.ofExcept ((constructorSignature owner).arranged "filter" "filter" arguments))
    let test := arguments.values.headD .nothing
    let items ← .ofExcept (module.itemsOf (arguments.values.getD 1 .nothing))
    let kept ← items.filterM (isKept module calling test)
    return .iterator "filter" kept
  | _ => do
    let arranged ← .ofExcept
      ((constructorSignature owner).arranged owner.name owner.name arguments)
    match module.plainValue? (← get) owner arranged arguments.named with
    | some result => .ofExcept result
    | none => do
      if isGiven && module.makerOf (.standard owner) = .object then
        throw (.wrongType (owner.name ++ "() takes no arguments"))
      if let some fault := module.abstractFault? (.standard owner) then throw fault
      return .instanceOf (.standard owner) (← Evaluating.newPlace) none
        (some ("<" ++ (ClassValue.standard owner).text ++ " object>")) []

/-- A call of a class. -/
def callClass (value : ClassValue) (arguments : Arguments) : Evaluating Value := do
  match value, value.metaclass with
  | value, .enumeration => .ofExcept (module.callEnumeration value arguments)
  | _, .typedDict => do
    return .dictionary (← .ofExcept (Value.dictionaryFrom module (← get) arguments.values.head?
      arguments.named))
  | .user reference, _ => instantiate module calling reference arguments
  | .standard owner, _ => callStandard module calling owner arguments

end

end Module

end ServiceStubs.Source
