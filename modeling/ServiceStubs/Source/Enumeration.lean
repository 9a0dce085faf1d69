import ServiceStubs.Source.Bases

/-!
# Enumerations

The members of an enumeration are made of the values that its body binds. An enumeration over a
plain class turns the values into values of that class; functions that make or start members are
called with them. Of several members with equal values the first one counts, and of flags those
with a single bit.
-/

namespace ServiceStubs.Source

/-! ## Enumerations as bases -/

namespace Module

/-- The plain class that the members of an enumeration belong to. -/
def memberTypeOf (module : Module) : ClassValue → ClassValue
  | .standard .intEnum => .standard .int
  | .standard .strEnum => .standard .str
  | .standard _ => .standard .object
  | .user reference => (module.classAt reference.index).memberType

/-- Whether a class says itself how its instances are made or started. -/
def makesInstances (module : Module) (owner : ClassValue) : Bool :=
  (module.ownAttribute? owner "__new__").isSome || (module.ownAttribute? owner "__init__").isSome

/-- The plain class that the classes of an order give to the members of an enumeration; a class
that takes over how another one makes its instances stands for it. -/
def dataTypeIn? (module : Module) (candidate : Option ClassValue) :
    List ClassValue → Option ClassValue
  | [] => none
  | owner :: rest =>
    if owner = .standard .object then module.dataTypeIn? candidate rest
    else if owner.metaclass = .enumeration then
      let found := module.memberTypeOf owner
      if found = .standard .object then module.dataTypeIn? candidate rest else some found
    else if module.makesInstances owner then some (candidate.getD owner)
    else module.dataTypeIn? (candidate.or (some owner)) rest

/-- The plain class that the members of an enumeration with some bases belong to. -/
def dataType (module : Module) (name : String) (bases : List ClassValue) :
    Except Fault ClassValue :=
  match firstOccurrences (bases.filterMap fun base =>
      module.dataTypeIn? none (module.orderOf base)) with
  | [] => .ok (.standard .object)
  | [found] => .ok found
  | found => .error (.wrongType ("too many data types for " ++ Text.quoted name ++ ": \x7b" ++
      Text.commaJoined (found.map ClassValue.display) ++ "\x7d"))

/-- The enumeration with members that a class with some bases would extend. -/
def extended? (module : Module) (bases : List ClassValue) : Option ClassValue :=
  (bases.flatMap module.orderOf).find? fun
    | .standard _ => false
    | .user reference => !(module.classAt reference.index).memberNames.isEmpty

/-- The last of the bases of an enumeration, which is an enumeration too. -/
def lastEnumeration (bases : List ClassValue) : Except Fault ClassValue :=
  match bases.getLast? with
  | some last =>
    if last.metaclass = .enumeration then .ok last
    else .error (.wrongType ("new enumerations should be created as " ++
      "`EnumName([mixin_type, ...] [data_type,] enum_type)`"))
  | none => .ok (.standard .enum)

/-- The name of the function that numbers members. -/
def numberingName : String := "_generate_next_value_"

/-- What an enumeration with some bases binds before its body is executed. -/
def inheritedNumbering (module : Module) (name : String) (bases : List ClassValue) :
    Except Fault Value := do
  if let some parent := module.extended? bases then
    throw (.wrongType ("<enum " ++ Text.quoted name ++ "> cannot extend " ++ parent.display))
  let last ← lastEnumeration bases
  discard (module.dataType name bases)
  match module.classAttribute last numberingName with
  | .ok found => return found
  | .error _ => return .nothing

end Module

/-! ## Making members -/

/-- What makes the members of an enumeration. -/
inductive MemberMaker
  /-- Members hold the values that they are given. -/
  | plain
  /-- Members are strings. -/
  | text
  /-- Members are values of the plain class. -/
  | converted
  /-- A value is called. -/
  | called (maker : Value)
deriving Inhabited

/-- The attribute that makes the instances of a class. -/
def makerName : String := "__new__"

/-- The attribute under which an enumeration keeps what makes members for those that derive from
it. -/
def keptMakerName : String := "__new_member__"

namespace Module

/-- What makes members for the enumerations that derive from some classes. -/
def keptMaker? (module : Module) : List ClassValue → Option MemberMaker
  | [] => none
  | .standard .strEnum :: _ => some .text
  | .standard _ :: rest => module.keptMaker? rest
  | .user reference :: rest =>
    match (module.classAt reference.index).attributes.get? keptMakerName with
    | some found => some (.called found)
    | none => module.keptMaker? rest

/-- What makes the values of a plain class. -/
def typeMaker (module : Module) : List ClassValue → MemberMaker
  | [] | .standard .object :: _ => .plain
  | .standard value :: rest =>
    if value.hasOwn makerName then .converted else module.typeMaker rest
  | .user reference :: rest =>
    match (module.classAt reference.index).attributes.get? makerName with
    | some found => .called found
    | none => module.typeMaker rest

/-- What makes the members of an enumeration that binds some attributes. -/
def memberMaker (module : Module) (attributes : OrderedMap String Value) (last : ClassValue)
    (memberType : ClassValue) : MemberMaker :=
  match attributes.get? makerName with
  | some (.constant .missing) | none =>
    (module.keptMaker? (module.orderOf last)).getD (module.typeMaker (module.orderOf memberType))
  | some found => .called found

end Module

namespace Module

/-- The values that a member is made of: the items of a tuple, or else one value. -/
def memberArguments (memberType : ClassValue) (value : Value) : List Value :=
  let values := match value.plain with
    | .tuple items => items
    | _ => [value]
  if memberType = .standard .tuple then [.tuple values] else values

section

variable (module : Module) (reference : ClassRef) (memberType : ClassValue)

/-- A member as a class of the standard library makes it, before it is started. -/
def convertedMember (values : List Value) : Evaluating Value := do
  let owner := module.makerOf memberType
  let place ← Evaluating.newPlace
  let member (held : Option Value) (attributes : List (String × Value)) : Value :=
    .instanceOf (.user reference) place held none attributes
  match owner, callSingular? owner (.ofList values) with
  | .exception name, _ =>
    return member none (exceptionAttributes (StandardClass.lineage name) values)
  | _, some result => return member (some (← .ofExcept result)) []
  | owner, none =>
    let given := if isMadeOfArguments owner then Arguments.ofList values else {}
    let arranged ← .ofExcept ((constructorSignature owner).arranged owner.name owner.name given)
    let made? := module.plainValue? (← get) owner arranged []
    return member (← made?.mapM fun result => Evaluating.ofExcept result) []

/-- Set an attribute of a member that is being made. The class of the member may have a say in
it, and then nothing is kept. -/
def keepsPart (raw : Value) (name : String) (value : Value) : Evaluating Bool :=
  match raw with
  | .instanceOf (.user _) _ _ _ _ =>
    match module.ownedAttribute? raw.classOf "__setattr__" with
    | some found => do
      let setter ← .ofExcept (module.readFromInstance raw "__setattr__" found)
      discard (module.call setter (.ofList [.ofText name, value]))
      return false
    | none => return true
  | raw => throw (.missingValueAttribute raw.typeName name)

/-- A member that is a string. -/
def textMember (values : List Value) : Evaluating Value := do
  let refused (role : String) (value : Value) : Evaluating Unit := do
    if value.quotation?.isNone then
      throw (.wrongType (role ++ (← .ofExcept value.displayed)))
  match values with
  | [] => pure ()
  | [value] =>
    if value.quotation?.isNone then
      throw (.wrongType ((← .ofExcept value.displayed) ++ " is not a string"))
  | [_, encoding] => refused "encoding must be a string, not " encoding
  | [_, encoding, errors] =>
    refused "encoding must be a string, not " encoding
    refused "errors must be a string, not " errors
  | values => throw (.wrongType ("too many arguments for str(): (" ++
      Text.commaJoined (Value.displays values) ++ ")"))
  let text ← .ofExcept (Value.textFrom module (values.headD (.ofText "")) values[1]? values[2]?)
  let raw := Value.instanceOf (.user reference) (← Evaluating.newPlace) (some (.ofText text)) none
  return if ← keepsPart module (raw []) "_value_" (.ofText text) then
    raw [("_value_", .ofText text)] else raw []

/-- A member as its maker makes it. -/
def rawMember (maker : MemberMaker) (values : List Value) : Evaluating Value :=
  match maker with
  | .plain => do return .instanceOf (.user reference) (← Evaluating.newPlace) none none []
  | .text => textMember module reference values
  | .converted => convertedMember module reference memberType values
  | .called made => makeWith module module.call reference made (.ofList values)

/-- The value of a member that has none yet. -/
def ownValue (raw value : Value) (values : List Value) : Evaluating Value := do
  let keep (value : Value) : Evaluating (Option Value) := do
    return if ← keepsPart module raw "_value_" value then some value else none
  let kept ←
    if memberType = .standard .object then keep value
    else
      match ← Evaluating.outcome (do
        keep (← module.call (.classValue memberType) (.ofList values))) with
      | .ok kept => pure kept
      | .error fault => throw (if fault.isOrdinary then
          .wrongType "_value_ not set in __new__, unable to create it" else fault)
  match kept with
  | some value => return value
  | none => module.read module.call "_value_" raw

/-- The value that a member has already, if it has one. -/
def givenValue? (raw : Value) : Evaluating (Option Value) := module.read? module.call "_value_" raw

/-- The names that members have for themselves and cannot bind, unless a class before the class of
enumerations has them. -/
def lockedMemberName? (parts : List (String × Value)) : Option String :=
  let order := (module.orderOf (.user reference)).takeWhile (· ≠ .standard .enum)
  (parts.map Prod.fst).find? fun name => ["name", "value"].contains name &&
    !order.any fun owner => (module.ownAttribute? owner name).isSome

/-- Start a member of an enumeration with some values, and give what it keeps under names. -/
def startMember (raw : Value) (values : List Value) : Evaluating (List (String × Value)) := do
  let owner := ClassValue.user reference
  match raw, module.ownedAttribute? owner "__getattribute__", module.starterOf? owner with
  | _, some _, _ => do
    discard (module.call (← module.read module.call "__init__" raw) (.ofList values))
    return []
  | .instanceOf (.user _) _ _ _ _, none, found => do
    startInstance module module.call owner raw (.ofList values)
    match found with
    | some (.function starter) =>
      let parts := module.keptAttributes .attributes starter (.ofList (raw :: values))
      if let some name := lockedMemberName? module reference parts then
        throw (.lockedAttribute ("<enum 'Enum'> cannot set attribute " ++ Text.quoted name))
      return parts
    | _ => return []
  | _, none, _ => return []

end

end Module

/-! ## Tables of members -/

/-- Whether a number is a single bit. -/
def isSingleBit (value : Int) : Bool :=
  0 < value && value.toNat = 1 <<< value.toNat.log2

/-- Whether a flag of a value is a member of its own: a single bit. -/
def isFlagValue (value : Value) : Except Fault Bool :=
  match value.whole?, value.datum? with
  | some number, _ => .ok (isSingleBit number)
  | none, some (.fraction number) =>
    if number.isZero then .ok false
    else .error (.wrongType "unsupported operand type(s) for &=: 'float' and 'float'")
  | none, _ => .error (.wrongType ("unsupported operand type(s) for -: '" ++ value.typeName ++
      "' and 'int'"))

/-- The members of an enumeration that are made so far. -/
structure MemberTable where
  /-- Those that do not repeat another one. -/
  names : List String := []
  /-- What all names stand for. -/
  members : List (String × Value) := []
  /-- What members keep under names of their own. -/
  parts : List (String × List (String × Value)) := []
deriving Inhabited

/-- The member of a table with a value. -/
def MemberTable.withValue? (table : MemberTable) (memory : Memory) (value : Value) :
    Option Value :=
  (table.members.find? fun
    | (_, .member _ _ given _) => Module.equal memory given value
    | _ => false).map Prod.snd

namespace Module

/-- Add a member that is made of a value to a table. -/
def addMember (module : Module) (reference : ClassRef) (maker : MemberMaker)
    (memberType : ClassValue) (table : MemberTable) (name : String) (value : Value) :
    Evaluating MemberTable := do
  let values := memberArguments memberType value
  let raw ← rawMember module reference memberType maker values
  let given ← match ← module.givenValue? raw with
    | some given => pure given
    | none => ownValue module memberType raw value values
  discard (keepsPart module raw "_name_" (.ofText name))
  discard (keepsPart module raw "__objclass__" (.user reference))
  let parts ← startMember module reference raw values
  let held := match raw with
    | .instanceOf _ _ (some held) _ _ => if isMadeOfArguments (module.makerOf memberType) ||
        (maker matches .called _) || (maker matches .text) then some held else some given.plain
    | _ => none
  match table.withValue? (← get) given with
  | some earlier => return { table with members := table.members ++ [(name, earlier)] }
  | none =>
    let isListed ← if reference.isFlag then .ofExcept (isFlagValue given) else pure true
    return {
      names := if isListed then table.names ++ [name] else table.names
      members := table.members ++ [(name, .member reference name given held)]
      parts := if parts.isEmpty then table.parts else table.parts ++ [(name, parts)] }

/-- The members of an enumeration, made of named values in order. -/
def memberTable (module : Module) (reference : ClassRef) (maker : MemberMaker)
    (memberType : ClassValue) (values : List (String × Value)) : Evaluating MemberTable :=
  values.foldlM (fun table entry =>
    module.addMember reference maker memberType table entry.1 entry.2) {}

/-- What an enumeration has under the name of the function that made its members. -/
def makerAttribute : MemberMaker → Value
  | .plain | .converted => .unknown "_new_member_"
  | .text => ((StandardClass.strEnum).attribute? "_new_member_").getD .nothing
  | .called made => made

end Module

/-! ## The order of members -/

/-- Check that an enumeration has its members in the order that it states. -/
def MemberTable.checkOrder (table : MemberTable) (module : Module) (stated : Value) :
    Except Fault Unit := do
  if !(← module.isTrue stated) then return
  let listed ← module.listedNames stated
  if let some fault := Value.firstKeyFault? listed then throw fault
  let isKept (item : Value) : Bool :=
    match item.quotation? with
    | some quotation => (table.members.lookup quotation.text).isNone ||
        table.names.contains quotation.text
    | none => true
  let kept := listed.filter isKept
  if kept.map (·.quotation?.map Quotation.text) ≠ table.names.map some then
    throw (.wrongType ("member order does not match _order_:\n  " ++
      (Datum.ofTexts table.names).display ++ "\n  " ++ (← (Value.list kept).displayed)))

end ServiceStubs.Source
