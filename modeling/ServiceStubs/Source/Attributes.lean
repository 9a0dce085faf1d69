import ServiceStubs.Source.Arguments
import ServiceStubs.Source.Kinship
import ServiceStubs.Source.StandardModules
import ServiceStubs.Source.StandardNames

/-!
# Attributes of values

What is found under a name after a dot. Every value has a class; a class has its own attributes,
those of the classes that it derives from, and what its type says of it. An attribute of a class
may be a wrapper, which gives what it wraps when it is read. A construction passes names on to what
it is made of, and of what only its name is known a value without further meaning is given.
-/

namespace ServiceStubs.Source

namespace Value

/-! ## Values without a meaning -/

/-- A value of which only its name is known. -/
def unknown (name : String) : Value := .object "object" ("<" ++ name ++ ">")

/-- The name under which a value is imported, if it is. -/
def importedName? : Value → Option String
  | .object "module" shown => some (String.ofList ((shown.toList.drop 1).dropLast))
  | _ => none

/-- Whether a value is imported, so that nothing is known of what is made of it either. -/
def isImported (value : Value) : Bool := value.importedName?.isSome

/-! ## Parts of values -/

/-- A part of an exception without anything that it was raised for. -/
def exceptionPart (attributes : List (String × Value)) (name : String) : Value :=
  let first : Value := match attributes.lookup "args" with
    | some (.tuple (first :: _)) => first
    | _ => .nothing
  match name with
  | "__suppress_context__" => .ofBool false
  | "value" | "code" | "msg" => first
  | _ => .nothing

/-- The part that a value has under a name, if it is known. -/
def part? (value : Value) (name : String) : Option Value :=
  match value.plain, name with
  | .constant (.flag flag), "real" | .constant (.flag flag), "numerator" =>
    some (.ofInt (if flag then 1 else 0))
  | .constant (.number number), "real" | .constant (.number number), "numerator" =>
    some (.ofInt number)
  | .constant (.flag _), "imag" | .constant (.number _), "imag" => some (.ofInt 0)
  | .constant (.flag _), "denominator" | .constant (.number _), "denominator" => some (.ofInt 1)
  | .constant (.fraction number), "real" => some (.ofFloating number)
  | .constant (.fraction _), "imag" => some (.ofFloating .zero)
  | .complex number, "real" => some (.ofFloating number.real)
  | .complex number, "imag" => some (.ofFloating number.imaginary)
  | .range start _ _, "start" => some (.ofInt start)
  | .range _ stop _, "stop" => some (.ofInt stop)
  | .range _ _ step, "step" => some (.ofInt step)
  | .slice start _ _, "start" => some start
  | .slice _ stop _, "stop" => some stop
  | .slice _ _ step, "step" => some step
  | .instanceOf _ _ none _ attributes, name =>
    match attributes.lookup name with
    | some found => some found
    | none => if (attributes.lookup "args").isSome then some (exceptionPart attributes name)
      else none
  | _, _ => none

/-- What a value has under a name of a class of the standard library. -/
def standardPart (value : Value) (owner : StandardClass) (name : String) : Value :=
  match owner.attributeKind name with
  | .slot | .method | .classMethod | .free => .method value name
  | .function | .classFunction => .bound (.object "function" ("<function " ++ name ++ ">"))
  | .computed | .kept =>
    (value.part? name).getD (if owner matches .exception _ then .nothing else unknown name)
  | .value "NoneType" => .nothing
  | .value typeName => .object typeName ("<" ++ name ++ ">")

/-- The attribute that a value of a class of the standard library has. -/
def ordinaryAttribute (value : Value) (owner : StandardClass) (name : String) :
    Except Fault Value :=
  match owner.order.find? (·.hasOwn name) with
  | some owner => .ok (value.standardPart owner name)
  | none => .error (.missingValueAttribute value.typeName name)

end Value

/-! ## Reading attributes of classes -/

namespace Module

/-- What is wrong with a call of a function. -/
def functionFault? (module : Module) (found : FunctionRef) (arguments : Arguments) :
    Option Fault :=
  let function := module.functionAt found.index
  match arguments.assign function.qualifiedName function.parameters [] with
  | .ok _ => none
  | .error fault => some fault

/-- A call of a function, which gives nothing if it does nothing. -/
def callFunction (module : Module) (found : FunctionRef) (arguments : Arguments) :
    Except Fault Value :=
  match module.functionFault? found arguments with
  | some fault => .error fault
  | none =>
    if (module.functionAt found.index).isUnexecuted then
      .error (.unexecuted ("The function " ++ found.qualifiedName))
    else .ok .nothing

/-- What a function bound to a class or to one of its instances gives when it is read. -/
def readAsMethod (module : Module) (owner : Value) : Value → Except Fault Value
  | .wrapped .static _ inner => .ok inner
  | .wrapped .classBound _ inner => module.readAsMethod owner inner
  | .wrapped .property _ (.function found) => module.callFunction found (.ofList [owner])
  | .wrapped .property _ _ => .ok .nothing
  | inner => .ok (.bound inner)

/-- What a value that has a say in being read gives: a value of a class that binds the function for
it, if it is one. -/
def readOther? (module : Module) (found : Value) : Option (Except Fault Value) :=
  match found with
  | .member owner _ _ _ | .instanceOf (.user owner) _ _ _ _ =>
    match module.ownedAttribute? (.user owner) "__get__" with
    | some (.function reader) =>
      some (module.callFunction reader (.ofList [found, .nothing, .nothing]))
    | _ => none
  | _ => none

/-- What an attribute of a class gives when it is read from the class. -/
def readFromClass (module : Module) (owner : ClassValue) (found : Value) : Except Fault Value :=
  match found with
  | .wrapped .static _ inner => .ok inner
  | .wrapped .classBound _ inner => module.readAsMethod (.classValue owner) inner
  | .descriptor standard name => .ok (match standard.attributeKind name with
      | .classMethod | .free => .method (.classValue owner) name
      | .classFunction => .bound (.object "function" ("<function " ++ name ++ ">"))
      | _ => found)
  | value => (module.readOther? value).getD (.ok value)

/-- The place of a name among the fields of the named tuple that an instance is of. -/
def tuplePlace? (module : Module) (owner : ClassValue) (name : String) : Option Nat :=
  (module.orderOf owner).findSome? fun
    | .standard _ => none
    | .user reference =>
      let declared := module.classAt reference.index
      match declared.attributes.get? name with
      | some (.object "_collections._tuplegetter" _) =>
        some ((declared.annotations.map Prod.fst).idxOf name)
      | _ => none

/-- What an attribute of a class gives when it is read from an instance. -/
def readFromInstance (module : Module) (subject : Value) (name : String) (found : Value) :
    Except Fault Value :=
  match found with
  | .wrapped .static _ inner => .ok inner
  | .wrapped .classBound _ inner =>
    module.readAsMethod (.classValue subject.classOf) inner
  | .wrapped .property _ (.function getter) | .wrapped (.cached _) _ (.function getter) =>
    module.callFunction getter (.ofList [subject])
  | .wrapped .property _ _ | .wrapped (.cached _) _ _ => .ok .nothing
  | .function found => .ok (.bound (.function found))
  | .closure place code defaults => .ok (.bound (.closure place code defaults))
  | .descriptor owner part => .ok (subject.standardPart owner part)
  | .object "_collections._tuplegetter" _ =>
    match subject.plain, module.tuplePlace? subject.classOf name with
    | .tuple items, some place => .ok (items.getD place .nothing)
    | _, _ => .ok .nothing
  | .object "member_descriptor" _ =>
    match subject.part? name with
    | some value => .ok value
    | none => .error (.missingValueAttribute subject.typeName name)
  | value => (module.readOther? value).getD (.ok value)

/-! ## Attributes of values that are no classes -/

/-- The annotations of a function under the names of its parameters. -/
def annotationsOf (function : Function) : Value :=
  .dictionary ((function.annotations ++ function.returns.toList.map fun value =>
    ("return", value)).map fun entry => (.ofText entry.1, entry.2))

/-- The attribute of a function. -/
def functionAttribute (module : Module) (found : FunctionRef) (name : String) :
    Except Fault Value :=
  let function := module.functionAt found.index
  match name with
  | "__name__" => .ok (.ofText found.name)
  | "__qualname__" => .ok (.ofText found.qualifiedName)
  | "__module__" => .ok (.ofText found.moduleName)
  | "__doc__" | "__kwdefaults__" | "__defaults__" | "__closure__" => .ok .nothing
  | "__annotations__" => .ok (annotationsOf function)
  | "__code__" => .ok (.object "code" ("<code object " ++ found.name ++ ">"))
  | "__globals__" | "__builtins__" | "__dict__" => .ok (.object "dict" "\x7b...\x7d")
  | "__rpc_event__" =>
    if function.isEvent then .ok (.ofBool true)
    else .error (.missingValueAttribute "function" name)
  | "__isabstractmethod__" =>
    if function.isAbstract then .ok (.ofBool true)
    else .error (.missingValueAttribute "function" name)
  | _ => Value.ordinaryAttribute (.function found) .function name

/-- The attribute of a function without a name. -/
def closureAttribute (value : Value) (moduleName name : String) : Except Fault Value :=
  match name with
  | "__name__" | "__qualname__" => .ok (.ofText "<lambda>")
  | "__module__" => .ok (.ofText moduleName)
  | "__doc__" | "__kwdefaults__" | "__closure__" => .ok .nothing
  | "__code__" => .ok (.object "code" "<code object <lambda>>")
  | "__globals__" | "__builtins__" | "__dict__" | "__annotations__" =>
    .ok (.object "dict" "\x7b...\x7d")
  | _ => value.ordinaryAttribute .function name

/-- The attribute of a wrapper, beside what all wrappers have. -/
def wrapperAttribute (value : Value) (wrapper : Wrapper) (isMarked : Bool) (inner : Value)
    (name : String) : Except Fault Value :=
  let ordinary (owner : StandardClass) : Except Fault Value := value.ordinaryAttribute owner name
  match wrapper, name with
  | .property, "fget" | .cached _, "func" => .ok inner
  | .property, "fset" | .property, "fdel" => .ok .nothing
  | .cached known, "attrname" => .ok (known.elim .nothing .ofText)
  | .static, "__func__" | .static, "__wrapped__" | .classBound, "__func__"
  | .classBound, "__wrapped__" => .ok inner
  | _, "__rpc_event__" =>
    if isMarked then .ok (.ofBool true)
    else .error (.missingValueAttribute value.typeName name)
  | .static, _ | .classBound, _ =>
    match inner, name with
    | .function found, "__name__" => .ok (.ofText found.name)
    | .function found, "__qualname__" => .ok (.ofText found.qualifiedName)
    | .function found, "__module__" => .ok (.ofText found.moduleName)
    | _, _ => ordinary (.named "builtins" value.typeName)
  | .property, _ => ordinary (.named "builtins" "property")
  | .cached _, _ => ordinary (.named "functools" "cached_property")

/-- The attribute of a type variable. -/
def variableAttribute (module : Module) (binder : TypeVariable) (name : String) :
    Except Fault Value :=
  match name with
  | "__name__" => .ok (.ofText binder.name)
  | "__module__" => .ok (.ofText module.name)
  | "__bound__" => .ok .nothing
  | "__constraints__" => .ok (.tuple [])
  | "__covariant__" | "__contravariant__" => .ok (.ofBool false)
  | _ => (Value.typeVariable binder).ordinaryAttribute .object name

/-- The attribute of a new type. -/
def newTypeAttribute (module : Module) (index : Nat) (moduleName typeName name : String) :
    Except Fault Value :=
  match name with
  | "__supertype__" => .ok (module.newTypes.getD index .nothing)
  | "__name__" | "__qualname__" => .ok (.ofText typeName)
  | "__module__" => .ok (.ofText moduleName)
  | _ => (Value.newType index moduleName typeName).ordinaryAttribute .object name

/-- The names that an attribute of a construction has beside those of its origin. -/
def formAttribute (value : Value) (typeName originName name : String) (origin : Option Value)
    (arguments : List Value) (forward : Except Fault Value) : Except Fault Value :=
  match name, origin with
  | "__origin__", some origin => .ok origin
  | "__args__", _ => if arguments.isEmpty then .error (.hiddenAttribute name)
    else .ok (.tuple arguments)
  | "__name__", _ | "__qualname__", _ => .ok (.ofText originName)
  | "_name", _ => .ok (.ofText typeName)
  | "__module__", _ => .ok (.ofText "typing")
  | "__doc__", _ => .ok (.unknown name)
  | _, _ =>
    if StandardClass.hasOwn .object name then value.ordinaryAttribute .object name
    else if isDunder name then .error (.hiddenAttribute name)
    else forward

/-! ## Attributes of classes -/

/-- The classes that a class derives from. -/
def basesOf (module : Module) : ClassValue → List ClassValue
  | .standard value => (value.order.drop 1).head?.toList.map .standard
  | .user reference => (module.classAt reference.index).bases

/-- The classes of the standard library whose instances cannot be referred to weakly, or can
already. -/
def isWeaklyClosed (owner : StandardClass) : Bool :=
  [.int, .tuple, .bytes, .type, .set, .frozenset, .deque, .function, .enum, .any].contains owner

/-- What a class has under the name that refers to its instances weakly, if it has anything. -/
def weakAttribute? (module : Module) (value : ClassValue) : Option Value :=
  let order := module.orderOf value
  let hasSlots : ClassValue → Bool := fun owner => (module.ownAttribute? owner "__slots__").isSome
  let adding := order.reverse.find? fun owner => (owner matches .user _) && !hasSlots owner
  match adding with
  | some (.user owner) =>
    if order.any fun owner => (owner matches .standard _) &&
        (match owner with | .standard owner => isWeaklyClosed owner | .user _ => false) then none
    else some (.object "getset_descriptor"
      ("<attribute '__weakref__' of " ++ Text.quoted owner.name ++ " objects>"))
  | _ => none

/-- What the type of a class says of it. -/
def typeAttribute? (module : Module) (value : ClassValue) (name : String) : Option Value :=
  match name with
  | "__name__" => some (.ofText value.name)
  | "__qualname__" => some (.ofText value.qualifiedName)
  | "__module__" => match value with
    | .standard _ => some (.ofText value.moduleName)
    | .user _ => some ((module.ownAttribute? value name).getD (.ofText value.moduleName))
  | "__class__" => some (.standard (Value.metaclassClass value.metaclass))
  | "__bases__" => some (.tuple ((module.basesOf value).map .classValue))
  | "__base__" => match value with
    | .standard _ => some (((module.basesOf value).head?.map .classValue).getD .nothing)
    | .user reference => some (.classValue (module.classAt reference.index).base)
  | "__mro__" => some (.tuple ((module.orderOf value).map .classValue))
  | "__dict__" => some (.object "mappingproxy" "mappingproxy(\x7b\x7d)")
  | "__annotations__" => match value with
    | .standard _ => none
    | .user reference =>
      let declared := module.classAt reference.index
      some (declared.strayAnnotations.getD (.dictionary (declared.annotations.map fun entry =>
        (.ofText entry.1, entry.2))))
  | "__text_signature__" => some .nothing
  | "__weakref__" => module.weakAttribute? value
  | "__doc__" => match value with
    | .standard _ => some (Value.unknown name)
    | .user _ => some ((module.ownAttribute? value name).getD .nothing)
  | _ => none

/-- What the values of the type of a class have under a name. -/
def ofType? (value : ClassValue) (name : String) : Option Value :=
  if StandardClass.hasOwn .type name then
    some ((Value.classValue value).standardPart .type name)
  else none

/-- The attribute of an enumeration. The names that its members have as attributes of their own
are none of the enumeration. -/
def enumerationAttribute (module : Module) (value : ClassValue) (name : String) :
    Except Fault Value :=
  let members := match value with
    | .standard _ => []
    | .user reference => (module.classAt reference.index).members
  let isOfMembers := name = "name" || name = "value"
  let order := (module.orderOf value).filter fun owner => !isOfMembers || owner ≠ .standard .enum
  match members.lookup name, module.attributeIn? order name with
  | some member, _ => module.readFromClass value member
  | none, some found => module.readFromClass value found
  | none, none =>
    match ofType? value name with
    | some found => .ok found
    | none => .error (.hiddenAttribute name)

/-- The attribute of a class that lists its functions without bodies. It is not taken over from
other classes. -/
def abstractNamesAttribute : String := "__abstractmethods__"

/-- The attribute of a class. -/
def classAttribute (module : Module) (value : ClassValue) (name : String) : Except Fault Value :=
  match module.typeAttribute? value name with
  | some found => .ok found
  | none =>
    if name = abstractNamesAttribute && (module.ownAttribute? value name).isNone then
      .error (.hiddenAttribute name)
    else if value.metaclass = .enumeration then module.enumerationAttribute value name
    else match module.boundAttribute? value name with
      | some found => module.readFromClass value found
      | none =>
        match ofType? value name with
        | some found => .ok found
        | none => .error (.missingAttribute value.fullName name)

/-- What a value that a class keeps for questions about attributes gives when it is asked for the
attribute of an instance under a name, if that is known. -/
def answerTo? (module : Module) (asked value : Value) (name : String) :
    Option (Except Fault Value) :=
  match asked with
  | .function found => some (module.callFunction found (.ofList [value, .ofText name]))
  | .wrapped .static _ (.function found) =>
    some (module.callFunction found (.ofList [.ofText name]))
  | .wrapped .classBound _ (.function found) =>
    some (module.callFunction found (.ofList [.classValue value.classOf, .ofText name]))
  | .classValue (.standard .str) => some (.ok (.ofText name))
  | .constant _ | .string _ | .list _ | .tuple _ | .dictionary _ =>
    some (.error (.notCallable asked.typeName))
  | _ => none

/-- What a class does with a name under which its instances have nothing. -/
def missingAttribute (module : Module) (value : Value) (name : String) : Except Fault Value :=
  ((module.ownedAttribute? value.classOf "__getattr__").bind fun found =>
    module.answerTo? found value name).getD (.error (.missingValueAttribute value.typeName name))

/-- The attribute of an instance of a class with some attributes of its own. -/
def instanceAttribute (module : Module) (value : Value) (own : List (String × Value))
    (name : String) : Except Fault Value :=
  match own.lookup name, module.boundAttribute? value.classOf name with
  | some _, some (.wrapped .property isMarked inner) =>
    module.readFromInstance value name (.wrapped .property isMarked inner)
  | some found, _ => .ok found
  | none, some found => module.readFromInstance value name found
  | none, none =>
    if name = "__dict__" then
      .ok (.dictionary (own.map fun entry => (.ofText entry.1, entry.2)))
    else module.missingAttribute value name

/-- The attribute of a member of an enumeration. The name and the value of a member can be hidden
by what the classes before the class of enumerations bind. -/
def memberAttribute (module : Module) (owner : ClassRef) (memberName : Option String)
    (value : Value) (held : Option Value) (name : String) : Except Fault Value :=
  let member := Value.member owner memberName value held
  let ownName := memberName.elim Value.nothing .ofText
  let kept := (module.classAt owner.index).memberParts
  let parts := (memberName.bind fun memberName => kept.lookup memberName).getD []
  let own := [("_name_", ownName), ("_value_", value), ("__objclass__", .user owner)] ++ parts
  let hidesOwn := ((module.orderOf (.user owner)).takeWhile (· ≠ .standard .enum)).any fun owner =>
    (module.ownAttribute? owner name).isSome
  let isHidden := hidesOwn && ((module.classAt owner.index).members.lookup name).isNone
  match name, isHidden with
  | "name", false => .ok ownName
  | "value", false => .ok value
  | _, _ => module.instanceAttribute member own name

/-- What a value of a class gives that is asked for every attribute of a value, if the class has
one. -/
def askedAttribute? (module : Module) (value : Value) (name : String) :
    Option (Except Fault Value) :=
  match value with
  | .member _ _ _ _ | .instanceOf (.user _) _ _ _ _ =>
    (module.ownedAttribute? value.classOf "__getattribute__").bind fun found =>
      module.answerTo? found value name
  | _ => none

/-- Whether a name is that of a module of the standard library, or begins with one. -/
def isHostName (name : String) : Bool :=
  let first := (Text.cutAtFirst '.' name).1
  Text.opensWith "_" first || loadedModules.contains first || plainModules.contains first ||
    standardPackages.contains first

/-- The attribute of a value that is imported under a name: what is known of a module, and else a
value of which nothing is known. The names of a user's module are not kept for others. -/
def importedAttribute (module : Module) (moduleName name : String) : Except Fault Value :=
  let inner := moduleName ++ "." ++ name
  match module.others.lookup moduleName, standardName? moduleName name with
  | some names, _ =>
    match names.get? name with
    | some found => .ok found
    | none => .error (.missingName moduleName name)
  | none, some found => .ok found
  | none, none =>
    if loadedModules.contains moduleName then .ok (.imported inner)
    else if isHostName moduleName then .ok (.imported moduleName)
    else .error (.unexecuted ("The import of " ++ inner))

/-- The attribute of a value. -/
def attributeOf (module : Module) (name : String) : Value → Except Fault Value
  | .classValue value => module.classAttribute value name
  | .bound inner =>
    if name = "__class__" then .ok (.standard (.named "builtins" "method"))
    else if name = "__func__" then .ok inner
    else if name = "__self__" then .ok (.unknown name)
    else module.attributeOf name inner
  | .annotated inner notes =>
    if name = "__metadata__" then .ok (.tuple (notes.map .ofText))
    else if name = "__class__" then .ok (.standard (.named "typing" "_AnnotatedAlias"))
    else formAttribute (.annotated inner notes) "Annotated" "Annotated" name (some inner) [inner]
      (module.attributeOf name inner)
  | value =>
    if let some result := module.askedAttribute? value name then result
    else if name = "__class__" then .ok (.classValue value.classOf)
    else if let some moduleName := value.importedName? then
      if name = "__name__" then .ok (.ofText moduleName)
      else module.importedAttribute moduleName name
    else match value with
    | .function found => module.functionAttribute found name
    | .closure _ _ _ => closureAttribute value module.name name
    | .wrapped wrapper isMarked inner => wrapperAttribute value wrapper isMarked inner name
    | .typeVariable binder => module.variableAttribute binder name
    | .newType index moduleName typeName =>
      module.newTypeAttribute index moduleName typeName name
    | .member owner memberName given held => module.memberAttribute owner memberName given held name
    | .instanceOf _ _ _ _ attributes => module.instanceAttribute value attributes name
    | .qualifier word => formAttribute value word.name word.name name none []
      (.error (.hiddenAttribute name))
    | .form word => formAttribute value word word name none [] (.error (.hiddenAttribute name))
    | .bareAlias word =>
      formAttribute value word.name word.name name (some (.standard word.origin)) []
        (module.classAttribute (.standard word.origin) name)
    | .aliasOf word arguments =>
      formAttribute value word.name word.name name (some (.standard word.origin)) arguments
        (module.classAttribute (.standard word.origin) name)
    | .templateOf origin arguments =>
      formAttribute value origin.name origin.name name (some (.classValue origin)) arguments
        (module.classAttribute origin name)
    | .qualified word argument =>
      formAttribute value word.name word.name name (some (.qualifier word)) [argument]
        (.error (.hiddenAttribute name))
    | .union _ | .literal _ | .callable _ _ =>
      formAttribute value "Union" "Union" name none value.parts (.error (.hiddenAttribute name))
    | .builtinOf origin arguments => match name with
      | "__origin__" => .ok (.classValue origin)
      | "__args__" => .ok (.tuple arguments)
      | _ => module.classAttribute origin name
    | .alternatives members =>
      if name = "__args__" then .ok (.tuple members)
      else value.ordinaryAttribute (.named "types" "UnionType") name
    | .builtin found => match name with
      | "__name__" | "__qualname__" => .ok (.ofText found)
      | "__module__" => .ok (.ofText "builtins")
      | _ => value.ordinaryAttribute (.named "builtins" "builtin_function_or_method") name
    | .method owner found => match name with
      | "__name__" => .ok (.ofText found)
      | "__qualname__" => .ok (.ofText (owner.typeName ++ "." ++ found))
      | "__self__" => .ok owner
      | _ => value.ordinaryAttribute (.named "builtins" "builtin_function_or_method") name
    | .descriptor owner found => match name with
      | "__name__" => .ok (.ofText found)
      | "__qualname__" => .ok (.ofText (owner.name ++ "." ++ found))
      | "__objclass__" => .ok (.standard owner)
      | _ => value.ordinaryAttribute .object name
    | value => match value.classOf with
      | .standard owner => value.ordinaryAttribute owner name
      | .user _ => module.instanceAttribute value [] name

/-! ## Annotations -/

/-- Check that what stands in the place of annotations, if anything does, can list some. -/
def checkAnnotations (module : Module) (stray : Option Value) : Except Fault Unit :=
  stray.forM fun value => discard (module.attributeOf "items" value)

end Module

/-- The attribute that tells the module of a class. -/
def moduleAttribute : String := "__module__"

/-- The annotations that a class has of its own; its module has to be one that can be looked up. -/
def Class.listedAnnotations (declared : Class) (module : Module) :
    Except Fault (List (String × Value)) := do
  let owner := (declared.attributes.get? moduleAttribute).toList
  if let some fault := Value.firstKeyFault? owner then throw fault
  module.checkAnnotations declared.strayAnnotations
  return declared.annotations

end ServiceStubs.Source
