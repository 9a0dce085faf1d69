import ServiceStubs.Source.Method.Operator

/-!
# Instances of classes

Whether a value is an instance of a class, and whether a class derives from another one, as a call
asks it. Instead of a class there may be several in a tuple or a union; an interface also has the
classes that are known to fit it, and those that have the functions that it asks for. Constructions
of `typing` cannot be asked for.
-/

namespace ServiceStubs.Source

/-- The interfaces that fit every class with some functions. -/
def structuralInterfaces : List (String × List String) := [
  ("Hashable", ["__hash__"]), ("Iterable", ["__iter__"]), ("Iterator", ["__iter__", "__next__"]),
  ("Reversible", ["__reversed__", "__iter__"]), ("Sized", ["__len__"]),
  ("Container", ["__contains__"]), ("Collection", ["__len__", "__iter__", "__contains__"]),
  ("Callable", ["__call__"])]

/-- The classes that fit interfaces. -/
def interfaceClasses : List (String × List StandardClass) :=
  let range := StandardClass.named "builtins" "range"
  let changeable : List StandardClass := [.list, .bytearray, .deque]
  [ ("Sequence", [.tuple, .str, range, .bytes] ++ changeable), ("MutableSequence", changeable),
    ("Mapping", [.dict]), ("MutableMapping", [.dict]), ("Set", [.set, .frozenset]),
    ("MutableSet", [.set]), ("ByteString", [.bytes, .bytearray])]

namespace Module

section

variable (module : Module)

/-- Whether the instances of a class have a function. -/
def hasFunction (value : ClassValue) (name : String) : Bool :=
  match module.boundAttribute? value name with
  | none | some (.constant .missing) => false
  | some _ => true

/-- Whether a class fits an interface. -/
def fitsInterface (value : ClassValue) (name : String) : Bool :=
  match structuralInterfaces.lookup name, interfaceClasses.lookup name with
  | some functions, _ => functions.all (module.hasFunction value)
  | none, some classes => classes.any (module.isKindOf value)
  | none, none => false

/-- Whether a class counts as one that derives from another one. -/
def countsAs (value ancestor : ClassValue) : Except Fault Bool :=
  if module.derivesFrom value ancestor then .ok true
  else if ancestor.metaclass = .typedDict then
    .error (.wrongType "TypedDict does not support instance and class checks")
  else match ancestor with
    | .standard .protocol => .error protocolFault
    | .standard standard =>
      .ok (standard.moduleName = "collections.abc" && module.fitsInterface value standard.name)
    | .user reference =>
      if (module.classAt reference.index).isProtocol then .error protocolFault else .ok false
where
  protocolFault : Fault := .wrongType
    "Instance and class checks can only be used with @runtime_checkable protocols"

/-- What is asked for in a check. -/
inductive Check
  | instanceOf
  | subclassOf
deriving DecidableEq

/-- The name of the function that makes a check. -/
def Check.name : Check → String
  | instanceOf => "isinstance"
  | subclassOf => "issubclass"

/-- What is said of a value that is no class in a check. -/
def Check.fault : Check → Fault
  | instanceOf => .wrongType
      "isinstance() arg 2 must be a type, a tuple of types, or a union"
  | subclassOf => .wrongType
      "issubclass() arg 2 must be a class, a tuple of classes, or a union"

mutual

/-- Whether a class counts as one of the classes that a value stands for. -/
def countsAsAny (check : Check) (value : ClassValue) : Value → Except Fault Bool
  | .classValue (.standard .any) =>
    if check = .instanceOf then .error (.wrongType "typing.Any cannot be used with isinstance()")
    else .ok false
  | .classValue ancestor => module.countsAs value ancestor
  | .tuple items => countsAsSome check value items
  | .alternatives members => countsAsSome check value members
  | .union members => countsAsSome check value members
  | .constant .missing => .error check.fault
  | .bareAlias word => module.countsAs value (.standard word.origin)
  | .form name => .error (.wrongType ("typing." ++ name ++ " cannot be used with " ++ check.name ++
      "()"))
  | .qualifier word => .error (.wrongType (word.text ++ " cannot be used with " ++ check.name ++
      "()"))
  | .builtinOf _ _ => .error (.wrongType (check.name ++
      "() argument 2 cannot be a parameterized generic"))
  | .aliasOf _ _ | .templateOf _ _ | .qualified _ _ | .literal _ | .callable _ _
  | .annotated _ _ => .error (.wrongType
      "Subscripted generics cannot be used with class and instance checks")
  | _ => .error check.fault

/-- Whether a class counts as one of several values that stand for classes; the first one that it
counts as decides. -/
def countsAsSome (check : Check) (value : ClassValue) : List Value → Except Fault Bool
  | [] => .ok false
  | ancestor :: rest => do
    if ← countsAsAny check value ancestor then return true
    countsAsSome check value rest

end

/-- Whether a value is an instance of one of the classes that another value stands for. -/
def isInstanceOfAny (value classes : Value) : Except Fault Bool :=
  match classes with
  | .classValue owner =>
    if value.classOf.same owner then .ok true
    else module.countsAsAny .instanceOf value.classOf classes
  | classes => module.countsAsAny .instanceOf value.classOf classes

/-- Whether a value is a class that derives from one of the classes that another value stands
for. -/
def isSubclassOfAny (value classes : Value) : Except Fault Bool :=
  match value with
  | .classValue value => module.countsAsAny .subclassOf value classes
  | .builtinOf _ _ => (module.countsAsAny .subclassOf (.standard .object) classes).map fun _ =>
      false
  | _ => .error (.wrongType "issubclass() arg 1 must be a class")

/-- Whether a value can be called. -/
def isCallable (value : Value) : Bool :=
  match value with
  | .function _ | .closure _ _ _ | .bound _ | .builtin _ | .method _ _ | .classValue _
  | .wrapped .static _ _ | .newType _ _ _ | .qualifier _ | .form _ | .bareAlias _ | .aliasOf _ _
  | .templateOf _ _ | .qualified _ _ | .union _ | .literal _ | .callable _ _ | .annotated _ _
  | .builtinOf _ _ => true
  | .reference _ | .wrapped _ _ _ => false
  | .descriptor owner name => match owner.attributeKind name with
    | .computed | .kept | .value _ => false
    | _ => true
  | .member owner _ _ _ | .instanceOf (.user owner) _ _ _ _ =>
    module.hasFunction (.user owner) "__call__"
  | .object typeName _ => ["function", "method", "module"].contains typeName
  | _ => false

end

end Module

end ServiceStubs.Source
