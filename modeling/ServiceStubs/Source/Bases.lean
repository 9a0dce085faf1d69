import ServiceStubs.Source.Attributes
import ServiceStubs.Source.Body
import ServiceStubs.Source.ResolutionOrder

/-!
# Bases

What a class derives from. The bases that are written may be constructions, which stand for the
classes that they are made of; a class made with a style derives from the class of its framework
too. The bases decide on the type of the class, on the layout that it takes over, and on its
resolution order, and each of these may be impossible.
-/

namespace ServiceStubs.Source

/-! ## Written bases -/

/-- The class of a framework that a style adds to the bases that are written. Enumerations and
typed dictionaries with bases get it from them. -/
def Style.framework? (style : Style) (hasBases : Bool) : Option StandardClass :=
  match style with
  | .plain | .dataclass => none
  | .typedDict => if hasBases then none else some .typedDictBase
  | .namedTuple => some .namedTupleBase
  | .protocol => some .protocol
  | .abstractBase => some .abstractBase
  | .enum => if hasBases then none else some .enum
  | .intEnum => some .intEnum
  | .strEnum => some .strEnum
  | .flag => some .flag

/-- Whether a base is a construction of `typing`. -/
def Value.isTypingAlias : Value → Bool
  | .bareAlias _ | .aliasOf _ _ | .templateOf _ _ | .callable _ _ | .annotated _ _ | .union _
  | .qualified _ _ | .literal _ => true
  | _ => false

/-- Whether a base is a new type. -/
def Value.isNewType : Value → Bool
  | .newType _ _ _ => true
  | _ => false

/-- Whether a class is among some bases. -/
def isAmong (sought : ClassValue) (bases : List Value) : Bool :=
  bases.any fun
    | .classValue value => value.same sought
    | _ => false

/-- The fault of a construction that cannot be a base. -/
def Value.notBaseFault (value : Value) : Fault :=
  .wrongType ("Cannot subclass " ++ value.display)

namespace Module

/-- Whether one of some bases makes a class generic; only a construction of `typing` or a class
can be asked, and what named tuples and typed dictionaries are declared with is neither. -/
def makesGeneric (module : Module) : List Value → Except Fault Bool
  | [] => .ok false
  | base :: rest =>
    let fault : Except Fault Bool := .error (.wrongType "issubclass() arg 1 must be a class")
    if base.isTypingAlias then .ok true
    else match base with
      | .classValue value | .builtinOf value _ =>
        if value = .standard .namedTupleBase || value = .standard .typedDictBase then fault
        else if module.isKindOf value .generic then .ok true
        else module.makesGeneric rest
      | _ => fault

/-- The bases that an alias for a class stands for, between `written` ones and `later` ones. -/
def aliasEntries (module : Module) (written later : List Value) (origin : StandardClass) :
    Except Fault (List Value) := do
  let own := if isAmong (.standard origin) written then [] else [Value.standard origin]
  return if ← module.makesGeneric later then own else own ++ [.standard .generic]

/-- The bases that a base stands for. -/
def baseEntries (module : Module) (written later : List Value) :
    Value → Except Fault (List Value)
  | .bareAlias word | .aliasOf word _ => module.aliasEntries written later word.origin
  | .callable _ _ => module.aliasEntries written later .callable
  | .templateOf (.standard .generic) _ =>
    if isAmong (.standard .protocol) written || later.any Value.isTypingAlias then .ok []
    else .ok [.standard .generic]
  | .templateOf origin _ | .builtinOf origin _ => .ok [.classValue origin]
  | .annotated (.qualifier word) notes =>
    .error (Value.annotated (.qualifier word) notes).notBaseFault
  | .annotated inner _ => .ok [inner]
  | .newType _ _ _ =>
    .ok (if later.any Value.isNewType then [] else [.standard .newTypeBase])
  | .qualifier word => .error (Value.qualifier word).notBaseFault
  | .qualified word argument => .error (Value.qualified word argument).notBaseFault
  | .union members => .error (Value.union members).notBaseFault
  | .literal values => .error (Value.literal values).notBaseFault
  | .form word => .error (Value.form word).notBaseFault
  | base => .ok [base]

/-- The attribute of the function that gives the bases that a value stands for. -/
def standInName : String := "__mro_entries__"

/-- The bases that a value stands for that may have a function for it. -/
def standIns (module : Module) (written : List Value) (base : Value) :
    Evaluating (List Value) := do
  let asked? ← match base with
    | .member _ _ _ _ | .instanceOf _ _ _ _ _ =>
      match module.attributeOf standInName base with
      | .ok found => pure (some found)
      | .error fault =>
        if fault.kind = "AttributeError" then pure none else throw fault
    | _ => pure none
  match asked? with
  | none => return [base]
  | some asked =>
    match (← module.call asked (.ofList [.tuple written])).plain with
    | .tuple entries => return entries
    | _ => throw (.wrongType (standInName ++ " must return a tuple"))

/-- The bases that the last of the written bases stand for. -/
def resolveBases (module : Module) (written : List Value) :
    List Value → Evaluating (List Value)
  | [] => pure []
  | base :: later => do
    let entries ← (← .ofExcept (module.baseEntries written later base)).mapM
      (module.standIns written)
    let others ← module.resolveBases written later
    return entries.flatten ++ others

/-- Whether a base stands for others. -/
def isReplaced : Value → Bool
  | .classValue value =>
    value = .standard .typedDictBase || value = .standard .namedTupleBase
  | .bareAlias _ | .aliasOf _ _ | .callable _ _ | .templateOf _ _ | .builtinOf _ _
  | .annotated _ _ | .newType _ _ _ => true
  | _ => false

end Module

/-! ## Types of classes -/

/-- Whether classes of a type are classes of another one too. -/
def Metaclass.specializes (left right : Metaclass) : Bool :=
  left = right || right = .plain || (left = .protocol && right = .abstract)

/-- The fault of bases whose types cannot be combined. -/
def metaclassConflict : Fault := .wrongType
  ("metaclass conflict: the metaclass of a derived class must be a (non-strict) subclass of " ++
    "the metaclasses of all its bases")

/-- The type of a class with some bases: it specializes the types of all of them. -/
def metaclassOf (bases : List ClassValue) : Except Fault Metaclass :=
  bases.foldlM (fun found base =>
    if found.specializes base.metaclass then .ok found
    else if base.metaclass.specializes found then .ok base.metaclass
    else .error metaclassConflict) .plain

/-- The classes among some bases. -/
def classesAmong (bases : List Value) : List ClassValue :=
  bases.filterMap fun
    | .classValue value => some value
    | _ => none

/-- The class of some bases that are no classes. -/
def Module.classOfValues (module : Module) (bases : List Value) : Except Fault ClassValue :=
  (bases.drop 1).foldlM (fun found base =>
    if module.derivesFrom found base.classOf then .ok found
    else if module.derivesFrom base.classOf found then .ok base.classOf
    else .error metaclassConflict) ((bases.headD .nothing).classOf)

/-- How a class comes about. -/
inductive Making
  /-- It is a class of a type with some bases. -/
  | ofClasses (metaclass : Metaclass) (bases : List ClassValue)
  /-- It is what a class gives that is called with the name, the bases and the attributes. -/
  | called (owner : ClassValue) (bases : List Value)
deriving Inhabited

namespace Module

/-- How a class with some bases comes about. -/
def making (module : Module) (bases : List Value) : Except Fault Making := do
  let classes := classesAmong bases
  if classes.length = bases.length then return .ofClasses (← metaclassOf classes) classes
  if !classes.isEmpty then throw metaclassConflict
  let owner ← module.classOfValues bases
  if owner.metaclass = .enumeration then
    throw (.missingValueAttribute owner.name "__mro__")
  return .called owner bases

/-! ## Layouts -/

/-- The names that instances have places for whatever their layout is. -/
def layoutFreeSlots : List String := ["__dict__", "__weakref__"]

/-- The class that the layout of a class comes from. -/
def layoutOf (module : Module) (value : ClassValue) : ClassValue :=
  ((module.orderOf value).find? fun
    | .standard owner => owner.hasLayout
    | .user reference => ((module.classAt reference.index).slots.getD []).any fun name =>
        !layoutFreeSlots.contains name).getD (.standard .object)

/-- The base among those that are left whose layout a class takes over, after an earlier one. -/
def bestBaseFrom (module : Module) (best : ClassValue) :
    List ClassValue → Except Fault ClassValue
  | [] => .ok best
  | base :: rest =>
    if !isAcceptable base then .error (refusal base)
    else if module.derivesFrom (module.layoutOf best) (module.layoutOf base) then
      module.bestBaseFrom best rest
    else if module.derivesFrom (module.layoutOf base) (module.layoutOf best) then
      module.bestBaseFrom base rest
    else .error (.wrongType "multiple bases have instance lay-out conflict")
where
  isAcceptable : ClassValue → Bool
    | .standard value => !value.isFinal
    | .user _ => true
  refusal (base : ClassValue) : Fault :=
    .wrongType ("type '" ++ base.fullName ++ "' is not an acceptable base type")

/-- The base whose layout a class takes over. -/
def bestBase (module : Module) (bases : List ClassValue) : Except Fault ClassValue :=
  module.bestBaseFrom (bases.headD (.standard .object)) bases

/-! ## Resolution orders -/

/-- The resolution order of a class with some bases, without the class itself. -/
def orderAfter (module : Module) (bases : List ClassValue) : Except Fault (List ClassValue) :=
  match bases.find? fun base => bases.count base > 1 with
  | some repeated => .error (.wrongType ("duplicate base class " ++ repeated.name))
  | none =>
    match orderOfBases (bases.map module.orderOf) bases with
    | .ok rest => .ok rest
    | .error heads =>
      .error (.wrongType ("Cannot create a consistent method resolution\norder (MRO) for bases " ++
        Text.commaJoined ((firstOccurrences heads).map ClassValue.name)))

end Module

end ServiceStubs.Source
