import ServiceStubs.Source.Enumeration
import ServiceStubs.Source.Records

/-!
# Making classes

A class is prepared from its bases before its body is executed, and made from its bases and its
body afterwards. Making finds the layout and the resolution order of the class, tells attributes
the names that they have, and starts the class: the first of the classes that it derives from that
has something to say about those that derive from it does so. Enumerations, named tuples and typed
dictionaries are made in ways of their own; a data class is made like any other and then collects
its fields.
-/

namespace ServiceStubs.Source

/-! ## Drafts -/

/-- A class that is about to be made. -/
structure Draft where
  metaclass : Metaclass
  bases : List ClassValue
  /-- The bases as they are written, if they stand for others. -/
  written : Option (List Value)
  /-- The name of the class. -/
  name : String
  attributes : OrderedMap String Value
  annotations : List (String × Value)
  strayAnnotations : Option Value := none
  /-- The body has a place for annotations. -/
  hasAnnotations : Bool := false
  /-- The body may leave a place behind for its functions. -/
  mayLeaveCell : Bool := true
  /-- Whether the attribute of a name is told the name. -/
  tellsName : String → Bool := fun _ => true

/-- The attributes of a class without some of them. -/
def attributesWithout (names : List String) (attributes : OrderedMap String Value) :
    OrderedMap String Value :=
  .ofList (attributes.entries.filter fun entry => !names.contains entry.1)

/-- The attribute that tells the name of a class with the names of the enclosing classes. -/
def qualifiedNameAttribute : String := "__qualname__"

/-- The attribute that holds the bases of a class as they are written. -/
def writtenBasesAttribute : String := "__orig_bases__"

/-- The attribute that the body of a class leaves behind for its functions. -/
def cellAttribute : String := "__classcell__"

namespace Draft

/-- The place and the names of the class of a draft. -/
def reference (draft : Draft) (module : Module) : Except Fault ClassRef := do
  let moduleName ← match draft.attributes.get? moduleAttribute with
    | some value => module.told value
    | none => pure module.name
  let qualifiedName ← match draft.attributes.get? qualifiedNameAttribute with
    | none => pure draft.name
    | some value => match value.quotation? with
      | some quotation => pure quotation.text
      | none => throw (.wrongType ("type __qualname__ must be a str, not " ++ value.typeName))
  return {
    index := module.classes.size
    moduleName
    qualifiedName
    name := draft.name
    metaclass := draft.metaclass
    isFlag := draft.bases.any fun base => module.isKindOf base .flag }

/-- Whether the instances of a class differ in size. -/
def hasItems (module : Module) (value : ClassValue) : Bool :=
  [StandardClass.int, .tuple, .bytes, .type].any (module.isKindOf value)

/-- The classes of the standard library whose instances have a dictionary for values. -/
def hasStandardDictionary : StandardClass → Bool
  | .function | .type | .module | .exception _ | .enum | .any => true
  | .named "collections" name => name ≠ "defaultdict"
  | .named "contextlib" _ | .named "functools" "cached_property" => true
  | _ => false

/-- Whether a class gives its instances a place that their layout does not ask for, when `has?`
tells it of the classes of the standard library. -/
def hasFreePlace (module : Module) (has : StandardClass → Bool) (name : String)
    (value : ClassValue) : Bool :=
  (module.orderOf value).any fun
    | .standard owner => has owner
    | .user reference =>
      ((module.classAt reference.index).slots.map fun slots => slots.contains name).getD true

/-- Whether a text can be a name. -/
def isName (text : String) : Bool :=
  match text.toList with
  | [] => false
  | first :: rest => (first = '_' || Text.isNameStart first) && rest.all isWordCharacter

/-- What is wrong with a name among those that are listed before others, if anything is. -/
def slotFault? (module : Module) (base : ClassValue) (before : List Value) (item : Value) :
    Option Fault :=
  let isRepeated (name : String) : Bool :=
    before.any fun earlier => earlier.quotation?.any fun quotation => quotation.text = name
  match item.quotation?.map Quotation.text with
  | none => some (.wrongType ("__slots__ items must be strings, not '" ++ item.typeName ++ "'"))
  | some "__dict__" =>
    if isRepeated "__dict__" || hasFreePlace module hasStandardDictionary "__dict__" base then
      some (.wrongType "__dict__ slot disallowed: we already got one")
    else none
  | some "__weakref__" =>
    if isRepeated "__weakref__" || hasItems module base ||
        hasFreePlace module Module.isWeaklyClosed "__weakref__" base then
      some (.wrongType ("__weakref__ slot disallowed: either we already got one, or " ++
        "__itemsize__ != 0"))
    else none
  | some name =>
    if isName name then none else some (.wrongType "__slots__ must be identifiers")

/-- What is wrong with the first name of a list that something is wrong with. -/
def slotsFault? (module : Module) (base : ClassValue) (before : List Value) :
    List Value → Option Fault
  | [] => none
  | item :: rest =>
    (slotFault? module base before item).or (slotsFault? module base (item :: before) rest)

/-- The names of the values of instances that a draft lists, if it lists any. -/
def slotNames (draft : Draft) (module : Module) (base : ClassValue) :
    Except Fault (Option (List String)) := do
  let some listed := draft.attributes.get? slotsAttribute | return none
  let items ← match listed.quotation? with
    | some _ => pure [listed]
    | none => module.itemsOf listed
  if !items.isEmpty && hasItems module base then
    throw (.wrongType ("nonempty __slots__ not supported for subtype of '" ++ base.fullName ++
      "'"))
  if let some fault := slotsFault? module base [] items then throw fault
  let names := items.filterMap fun item => item.quotation?.map Quotation.text
  let bound := names.map (privateName draft.name)
  let isBound (name : String) : Bool :=
    !([qualifiedNameAttribute, cellAttribute].contains name) &&
      !Module.layoutFreeSlots.contains name &&
      (draft.attributes.contains name || (draft.hasAnnotations && name = annotationsName))
  match bound.find? isBound with
  | some name => throw (.wrongValue (Text.quoted name ++ " in __slots__ conflicts with class " ++
      "variable"))
  | none => return some bound

/-- The attributes of a draft as a class has them: functions that make and apply classes are no
plain functions, and instances that can be compared are no keys unless the class says so. -/
def ownAttributes (draft : Draft) : OrderedMap String Value :=
  let wrapped (name : String) (value : Value) : Value :=
    if !(value matches .function _ | .closure _ _ _) then value
    else if name = "__new__" then .wrapped .static false value
    else if name = "__init_subclass__" || name = acceptorName then
      .wrapped .classBound false value
    else value
  let own := attributesWithout [qualifiedNameAttribute, cellAttribute] draft.attributes
  let attributes := OrderedMap.ofList (own.entries.map fun (name, value) =>
    (name, wrapped name value))
  if attributes.contains "__eq__" && !attributes.contains keyName then
    attributes.put keyName .nothing
  else attributes

end Draft

/-! ## Attributes that know their names -/

/-- The function that wrappers are put around. -/
def Value.innerFunction? : Value → Option Nat
  | .function found => some found.index
  | .wrapped _ _ inner => inner.innerFunction?
  | _ => none

/-- The fault of an attribute that is bound to two names. -/
def sameAttributeText (first second : String) : String :=
  "Cannot assign the same cached_property to two different names (" ++ Text.quoted first ++
    " and " ++ Text.quoted second ++ ")."

/-- The function that tells a value of a class the name that a class has it under. -/
def namerName : String := "__set_name__"

/-- How a class tells that an attribute cannot be told its name. -/
def misnamedFault (owner : ClassRef) (typeName name : String) (fault : Fault) : Fault :=
  if owner.metaclass = .enumeration then fault
  else .misnamed ("Error calling __set_name__ on '" ++ typeName ++ "' instance " ++
    Text.quoted name ++ " in " ++ Text.quoted owner.name)

/-- Attributes of a class that know the names under which the class has them. An attribute that
the class has under two names is refused. -/
def nameAttributes (module : Module) (owner : ClassRef) (named : List (Nat × String)) :
    List (String × Value) → Evaluating (List (String × Value))
  | [] => pure []
  | (name, .wrapped (.cached known) isMarked inner) :: rest => do
    let earlier := known.or (inner.innerFunction?.bind fun place => named.lookup place)
    if let some other := earlier then
      if other ≠ name then
        throw (misnamedFault owner "cached_property" name
          (.wrongType (sameAttributeText other name)))
    let named := match inner.innerFunction? with
      | some place => (place, name) :: named
      | none => named
    let others ← nameAttributes module owner named rest
    return (name, .wrapped (.cached (some name)) isMarked inner) :: others
  | (name, value) :: rest => do
    let hasNamer := value matches .member _ _ _ _ | .instanceOf (.user _) _ _ _ _
    let namer? := if hasNamer then module.boundAttribute? value.classOf namerName else none
    if let some namer := namer? then
      let outcome ← Evaluating.outcome do
        let asked ← .ofExcept (module.readFromInstance value namerName namer)
        module.call asked (.ofList [.user owner, .ofText name])
      if let .error fault := outcome then
        throw (misnamedFault owner value.typeName name fault)
    let others ← nameAttributes module owner named rest
    return (name, value) :: others

/-! ## Type variables -/

/-- The displayed form of several type variables. -/
def variablesText (listed : List TypeVariable) : String :=
  Text.commaJoined (listed.map fun binder => "~" ++ binder.name)

/-- The lists of type variables that some bases state. -/
def statedVariables (bases : List Value) : List (List TypeVariable) :=
  bases.filterMap fun
    | .templateOf (.standard .generic) arguments => some (Value.freeVariablesOfAll arguments)
    | _ => none

/-- The type variables of a class: those that one of its bases states, or else those of all of its
bases. -/
def classVariables (bases : List Value) : Except Fault (List TypeVariable) :=
  let used := Value.freeVariablesOfAll bases
  match statedVariables bases with
  | [] => .ok used
  | [stated] =>
    match used.filter fun binder => !stated.contains binder with
    | [] => .ok stated
    | unlisted => .error (.wrongType ("Some type variables (" ++ variablesText unlisted ++
        ") are not listed in Generic[" ++ variablesText stated ++ "]"))
  | _ => .error (.wrongType "Cannot inherit from Generic[...] multiple times.")

/-! ## Starting classes -/

/-- The classes that a protocol may derive from although they are none, with their modules. -/
def protocolAllowances : List (String × List String) := [
  ("collections.abc", ["Callable", "Awaitable", "Iterable", "Iterator", "AsyncIterable",
    "Hashable", "Sized", "Container", "Collection", "Reversible"]),
  ("contextlib", ["AbstractContextManager", "AbstractAsyncContextManager"])]

/-- The attribute that tells whether a class only states what other classes have. -/
def protocolMark : String := "_is_protocol"

namespace Module

/-- Whether a class can be the base of a protocol. -/
def isProtocolBase (module : Module) (base : ClassValue) : Except Fault Bool := do
  if base = .standard .object || base = .standard .generic || base = .standard .protocol then
    return true
  let moduleName ← module.attributeOf moduleAttribute (.classValue base)
  if let some fault := moduleName.keyFault? then throw fault
  if (protocolAllowances.lookup base.moduleName).any (·.contains base.name) then return true
  if !module.isKindOf base .generic then return false
  module.isTrue (← module.attributeOf protocolMark (.classValue base))

/-- A class that is a protocol if it says so, or if it derives from the root of protocols. The bases
of a protocol are protocols. -/
def startedProtocol (module : Module) (declared : Class) : Except Fault Class := do
  let isStated ← match declared.attributes.get? protocolMark with
    | some stated => module.isTrue stated
    | none => pure false
  let isProtocol := isStated || declared.bases.contains (.standard .protocol)
  let started := { declared with
    isProtocol
    attributes := if isStated then declared.attributes
      else declared.attributes.put protocolMark (.ofBool isProtocol) }
  if !isProtocol then return started
  for base in declared.bases do
    if !(← module.isProtocolBase base) then
      throw (.wrongType ("Protocols can only inherit from other protocols, got " ++
        (← (Value.classValue base).displayed)))
  return started

/-- The bases that a class keeps as those that are written. -/
def keptBases (module : Module) (declared : Class) : Except Fault (List Value) :=
  match declared.attributes.get? writtenBasesAttribute with
  | none => .ok []
  | some kept => do
    match (← module.readFromClass (.user declared.reference) kept) with
    | .classValue owner => throw (.wrongType ("argument of type '" ++
        (Value.classValue owner).typeName ++ "' is not iterable"))
    | value => match module.itemsOf value with
      | .ok items => return items
      | .error _ => throw (.wrongType ("argument of type '" ++ value.typeName ++
          "' is not iterable"))

/-- A generic class with its type variables. -/
def startedGeneric (module : Module) (declared : Class) : Except Fault Class := do
  let parameters ← classVariables (← module.keptBases declared)
  return { declared with
    parameters
    attributes := declared.attributes.put parametersAttribute
      (.tuple (parameters.map .typeVariable)) }

/-- What is said of a class that derives from a new type. -/
def newTypeFault (name : String) (written : List Value) : Fault :=
  let original := (written.findSome? fun
    | .newType _ _ original => some original
    | _ => none).getD ""
  .wrongType ("Cannot subclass an instance of NewType. Perhaps you were looking for: `" ++ name ++
    " = NewType(" ++ Text.quoted name ++ ", " ++ original ++ ")`")

/-- The function of a class that starts those that derive from it. -/
def classStarterName : String := "__init_subclass__"

/-- A class that the classes in order that it derives from have started. -/
def started (module : Module) (written : Option (List Value)) (declared : Class) :
    List ClassValue → Evaluating Class
  | [] => pure declared
  | .standard .protocol :: rest => do
    let declared ← module.started written declared rest
    .ofExcept ((module.addClass declared).startedProtocol declared)
  | .standard .generic :: rest => do
    let declared ← module.started written declared rest
    .ofExcept (module.startedGeneric declared)
  | .standard value :: rest =>
    if value = .newTypeBase then
      throw (newTypeFault declared.reference.name (written.getD []))
    else module.started written declared rest
  | .user owner :: rest =>
    match (module.classAt owner.index).attributes.get? classStarterName with
    | some found => do
      let starter ← .ofExcept (module.readFromClass (.user declared.reference) found)
      discard (module.call starter {})
      return declared
    | none => module.started written declared rest

/-- The type variables of the first of some classes in order that has any of its own. -/
def inheritedParameters (module : Module) (order : List ClassValue) : List TypeVariable :=
  (order.findSome? fun
    | .standard _ => none
    | .user reference =>
      let declared := module.classAt reference.index
      if declared.attributes.contains parametersAttribute then some declared.parameters
      else none).getD []

/-! ## Classes -/

/-- What is wrong with what the body of a class leaves behind for its functions, if anything is. -/
def cellFault? (draft : Draft) : Option Fault :=
  (draft.attributes.get? cellAttribute).map fun value => .wrongType
    ("__classcell__ must be a nonlocal cell, not " ++ value.classOf.display)

/-- The class of a draft. `complete` may add to a class before it is started. -/
def assemble (module : Module) (draft : Draft) (complete : Class → Evaluating Class) :
    Evaluating Class := do
  let base ← .ofExcept (module.bestBase draft.bases)
  let slots ← .ofExcept (draft.slotNames module base)
  let reference ← .ofExcept (draft.reference module)
  if draft.mayLeaveCell then
    if let some fault := cellFault? draft then throw fault
  let bases := if draft.bases.isEmpty then [.standard .object] else draft.bases
  let order ← .ofExcept (module.orderAfter bases)
  let own := draft.ownAttributes
  let placed := ((slots.getD []).filter fun name => !layoutFreeSlots.contains name).map
    fun name => (name, Value.object "member_descriptor" ("<member '" ++ name ++ "'>"))
  let attributes := own.putAll (placed ++ draft.written.toList.map fun written =>
    (writtenBasesAttribute, .tuple written))
  let declared ← module.withFlaws {
    reference
    bases
    base
    order := .user reference :: order
    annotations := draft.annotations
    strayAnnotations := draft.strayAnnotations
    attributes
    slots
    parameters := module.inheritedParameters order }
  let told := attributes.entries.filter fun entry => draft.tellsName entry.1
  let named ← nameAttributes (module.addClass declared) declared.reference [] told
  let completed ← complete { declared with
    attributes := attributes.putAll named }
  .ofExcept (module.withAbstractNames (← module.started draft.written completed order))

/-! ## Enumerations -/

/-- The functions of an enumeration that do not come from the plain class of its members. -/
def memberFunctions : List String := ["__repr__", "__str__", "__format__", "__reduce_ex__"]

/-- An enumeration with the functions that its last base gives to it instead of those of the plain
class of its members. -/
def withMemberFunctions (module : Module) (last memberType : ClassValue) (declared : Class) :
    OrderedMap String Value :=
  let isOfPlain (name : String) (owner : ClassValue) : Bool :=
    owner = .standard .object || ((module.orderOf memberType).find? fun other =>
      (module.ownAttribute? other name).isSome).any owner.same
  let isReplaced (name : String) : Bool := !declared.attributes.contains name &&
    ((declared.order.drop 1).find? fun owner =>
      (module.ownAttribute? owner name).isSome).any (isOfPlain name)
  declared.attributes.putAll ((memberFunctions.filter isReplaced).filterMap fun name =>
    (module.boundAttribute? last name).map fun found => (name, found))

/-- An enumeration with its members. -/
def completeEnumeration (module : Module) (naming : MemberNaming) (draft : Draft)
    (declared : Class) : Evaluating Class := do
  let last := draft.bases.getLast?.getD (.standard .enum)
  let memberType ← .ofExcept (module.dataType draft.name draft.bases)
  let maker := module.memberMaker draft.attributes last memberType
  let values := naming.names.filterMap fun name =>
    (draft.attributes.get? name).map fun value => (name, value)
  let attributes := attributesWithout naming.names
    (module.withMemberFunctions last memberType declared)
  let declared ← module.withFlaws { declared with attributes, memberType }
  let table ← (module.addClass declared).memberTable declared.reference maker memberType values
  let kept := match maker, draft.attributes.get? makerName with
    | .called made, some _ => [(keptMakerName, made)]
    | _, _ => []
  return { declared with
    memberNames := table.names
    members := table.members
    memberParts := table.parts
    attributes := (attributes.put "_new_member_" (makerAttribute maker)).putAll
      (table.members ++ kept ++ [(makerName, .unknown makerName)]) }

/-- An enumeration. -/
def makeEnumeration (module : Module) (naming : MemberNaming) (draft : Draft) :
    Evaluating Class := do
  let names := naming.names.filter fun name => !naming.leftOut.contains name
  if names.contains "mro" then throw (.wrongValue "invalid enum member name(s) 'mro'")
  let order := draft.attributes.get? "_order_"
  let draft := { draft with
    attributes := attributesWithout ("_order_" :: naming.leftOut) draft.attributes
    tellsName := fun name => !names.contains name }
  let declared ← module.assemble draft (module.completeEnumeration { naming with names } draft)
  if let some stated := order then
    .ofExcept (MemberTable.checkOrder
      ⟨declared.memberNames, declared.members, declared.memberParts⟩ module stated)
  return declared

/-! ## Records -/

/-- A named tuple, and the module with its functions. -/
def makeNamedTuple (module : Module) (draft : Draft) (body : Body) :
    Evaluating (Module × Class) := do
  let isRoot (base : ClassValue) : Bool := base = .standard .namedTupleBase
  if draft.bases.any fun base => !isRoot base && base ≠ .standard .generic then
    throw (.wrongType "can only inherit from a NamedTuple type and Generic")
  let annotations ← body.tupleAnnotations module
  let (module, makers) := module.addFunctions (body.tupleMakers annotations)
  let own := body.tupleAttributes makers
  let attributes := match body.attributes.get? moduleAttribute with
    | some (.constant .missing) => own.put moduleAttribute (.ofText "typing")
    | _ => own
  let declared ← module.assemble
    { draft with
      metaclass := .plain
      bases := draft.bases.map fun base => if isRoot base then .standard .tuple else base
      attributes
      annotations
      mayLeaveCell := false
      tellsName := fun _ => false } pure
  return (module, declared)

/-- A typed dictionary. -/
def makeTypedDictionary (module : Module) (draft : Draft) (body : Body) : Evaluating Class := do
  if draft.bases.any fun base =>
      base.metaclass ≠ .typedDict && base ≠ .standard .generic then
    throw (.wrongType "cannot inherit from both a TypedDict type and a non-TypedDict base class")
  let isGeneric := draft.bases.any fun base => module.isKindOf base .generic
  let root : List ClassValue := if isGeneric then [.standard .generic] else []
  let declared ← module.assemble { draft with bases := root ++ [.standard .dict] } pure
  let own ← body.dictionaryAnnotations module declared.reference.moduleName
  return { declared with
    annotations := (OrderedMap.ofList (module.inheritedAnnotations draft.bases ++ own)).entries
    attributes := declared.attributes.putAll
      (["__annotations__", "__required_keys__", "__optional_keys__", "__total__"].map fun name =>
        (name, (declared.attributes.get? name).getD (.unknown name))) }

/-! ## Statements -/

/-- Prepare a class from its written bases: how it comes about, and its body so far. -/
def prepareClass (module : Module) (name qualifiedName : String) (hasAnnotations : Bool)
    (written : List Value) : Evaluating (Making × Body) := do
  let making ← .ofExcept (module.making (← module.resolveBases written written))
  let start : OrderedMap String Value := .ofList
    [(moduleAttribute, (module.global? "__name__").getD .nothing),
      (qualifiedNameAttribute, .ofText qualifiedName)]
  let body : Body :=
    { className := name, qualifiedName, attributes := start, hasAnnotations }
  match making with
  | .ofClasses .enumeration bases =>
    let numbering ← .ofExcept (module.inheritedNumbering name bases)
    return (making, { body with
      naming := some {}
      attributes := (OrderedMap.ofList [(numberingName, numbering)]).putAll start.entries })
  | _ => return (making, body)

/-- Check that something that is no class can be a record, as far as it can. -/
def checkRecord (module : Module) (value : Value) : Except Fault Unit := do
  discard (module.attributeOf moduleAttribute value)
  discard (module.attributeOf "__mro__" value)

/-- What the statement of a class gives, made from the written bases and the body, and the module
afterwards. -/
def makeClass (module : Module) (style : Style) (written : List Value) (making : Making)
    (body : Body) : Evaluating (Module × Value) := do
  let stated := if written.any isReplaced then some written else none
  match making with
  | .called owner bases =>
    let annotations := if body.hasAnnotations && !body.attributes.contains annotationsName
      then [(annotationsName, body.annotationTable)] else []
    let attributes := body.attributes.putAll (annotations ++ stated.toList.map fun written =>
      (writtenBasesAttribute, .tuple written))
    let made ← module.call (.classValue owner) (.ofList
      [.ofText body.className, .tuple bases, nameTable attributes.entries])
    if style = .dataclass then .ofExcept (module.checkRecord made)
    return (module, made)
  | .ofClasses metaclass bases =>
    let draft : Draft := {
      metaclass, bases
      written := stated
      name := body.className
      attributes := body.attributes
      annotations := body.annotations.entries
      strayAnnotations := body.strayAnnotations
      hasAnnotations := body.hasAnnotations }
    let (module, declared) ← match metaclass with
      | .enumeration => do
        pure (module, ← module.makeEnumeration (body.naming.getD {}) draft)
      | .namedTuple => module.makeNamedTuple draft body
      | .typedDict => do pure (module, ← module.makeTypedDictionary draft body)
      | _ => do pure (module, ← module.assemble draft pure)
    let module := module.addClass declared
    if style ≠ .dataclass then return (module, .user declared.reference)
    let (module, declared) ← module.asRecord declared
    return (module, .user declared.reference)

end Module

end ServiceStubs.Source
