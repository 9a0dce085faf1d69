import ServiceStubs.Source.Bases

/-!
# Traits of classes

What follows from the attributes of a class for its instances. An instance is a key if the function
that gives its key number does, and it has a displayed form if the function for that gives a text;
a class without such functions takes those of the classes that it derives from. A class of an
abstract type has no instances as long as one of its functions is abstract.
-/

namespace ServiceStubs.Source

/-- The function that gives the key number of an instance. -/
def keyName : String := "__hash__"

/-- The function that gives the displayed form of an instance. -/
def displayName : String := "__repr__"

namespace Module

/-! ## Keys and displayed forms -/

/-- What is wrong with what the function of a class gives that its instances are asked with, if
anything is. -/
def answerFlaw? (module : Module) (owner : ClassValue) (name : String) (found : Value)
    (flaw? : Value → Option Fault) : Evaluating (Option Fault) := do
  let asked := Value.instanceOf owner 0 none none []
  let answer ← Evaluating.outcome do
    module.call (← .ofExcept (module.readFromInstance asked name found)) {}
  match answer with
  | .ok value => return flaw? value
  | .error fault => return some fault

/-- What keeps the instances of a class from being keys, if anything does. -/
def keyFlaw? (module : Module) (owner : ClassValue) : Evaluating (Option Fault) :=
  match module.boundAttribute? owner keyName with
  | none | some (.descriptor _ _) => pure none
  | some (.constant .missing) => pure (some (.notKey owner.name))
  | some found => module.answerFlaw? owner keyName found fun value =>
      if value.whole?.isSome then none
      else some (.wrongType "__hash__ method should return an integer")

/-- What is wrong with the displayed forms of the instances of a class, if anything is. -/
def displayFlaw? (module : Module) (owner : ClassValue) : Evaluating (Option Fault) := do
  let isMade : Bool := match module.boundAttribute? owner displayName with
    | some (.function found) => (module.functionAt found.index).purpose = some .display
    | _ => false
  match module.boundAttribute? owner displayName, isMade with
  | none, _ | some (.descriptor _ _), _ | _, true => return none
  | some found, false =>
    module.answerFlaw? owner displayName found fun value =>
      if value.quotation?.isSome then none
      else some (.wrongType ("__repr__ returned non-string (type " ++ value.typeName ++ ")"))

/-- A class that knows what is wrong with its instances as keys and in displayed forms. -/
def withFlaws (module : Module) (declared : Class) : Evaluating Class := do
  let reference := declared.reference
  let module := module.addClass declared
  let reference := { reference with
    keyFlaw := ← module.keyFlaw? (.user reference)
    displayFlaw := ← module.displayFlaw? (.user reference) }
  return { declared with reference, order := .user reference :: declared.order.drop 1 }

/-! ## Abstract functions -/

/-- Whether an attribute of a class is abstract. -/
def isAbstractValue (module : Module) : Value → Except Fault Bool
  | .wrapped (.cached _) _ _ => .ok false
  | .wrapped _ _ inner => module.isAbstractValue inner
  | .descriptor owner name => .ok (owner.abstractNames.contains name)
  | value =>
    match module.attributeOf abstractMark value with
    | .ok found => module.isTrue found
    | .error fault => if fault.kind = "AttributeError" then .ok false else .error fault

/-- The names that a class lists as those of abstract functions. -/
def listedAbstractNames (module : Module) (owner : ClassValue) : Except Fault (List String) :=
  match owner, module.ownAttribute? owner abstractNamesAttribute with
  | .user _, some listed => do
    (← module.itemsOf listed).mapM fun item => match item.quotation? with
      | some quotation => .ok quotation.text
      | none => .error (.wrongType ("attribute name must be string, not '" ++ item.typeName ++
          "'"))
  | _, _ => .ok (module.abstractNames owner)

/-- The names of the abstract functions of a class: those of its own, and those of the classes that
it derives from that it leaves abstract. -/
def abstractNamesOf (module : Module) (declared : Class) : Except Fault (List String) := do
  let own ← declared.attributes.entries.filterM fun entry => module.isAbstractValue entry.2
  let inherited ← declared.bases.mapM module.listedAbstractNames
  let kept ← inherited.flatten.filterM fun name =>
    match module.attributeIn? declared.order name with
    | none => .ok false
    | some found => module.isAbstractValue found
  return firstOccurrences (own.map Prod.fst ++ kept)

/-- A class that knows its abstract functions, if it is of an abstract type. -/
def withAbstractNames (module : Module) (declared : Class) : Except Fault Class := do
  if !([Metaclass.abstract, .protocol].contains declared.reference.metaclass) then return declared
  let names ← (module.addClass declared).abstractNamesOf declared
  return { declared with
    abstractNames := names
    attributes := declared.attributes.put abstractNamesAttribute
      (.set true (names.map .ofText)) }

end Module

end ServiceStubs.Source
