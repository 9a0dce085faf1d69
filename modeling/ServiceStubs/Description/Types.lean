import ServiceStubs.Description.Catalog
import ServiceStubs.Source.Hints
import ServiceStubs.Source.Records

/-!
# Types of annotations

The type that an annotation describes. Lists of every spelling are one template; a class with
fields is a composite, which enters the catalog before its fields are described, so that a class
may refer to itself; a generic class has to be applied. Whatever has no description of its own is
a primitive identified by its displayed form, after its parts have been described.

A class is entered only while it is missing in the catalog, so classes are never entered within
each other more often than the module has classes.
-/

namespace ServiceStubs

open Source

/-- The identity of the primitive that any value belongs to. -/
def objectIdentity : String := "object"

/-- The identity of the primitive that stands for no value. -/
def voidIdentity : String := "void"

/-- The shared primitive that a class of the standard library is described by. -/
def sharedIdentity? : StandardClass → Option String
  | .int => some "int"
  | .float => some "double"
  | .bool => some "bool"
  | .str => some "string"
  | .noneType => some voidIdentity
  | .object | .any => some objectIdentity
  | _ => none

/-- Whether a hint makes a name a variable of the class itself and no field. -/
def isClassVariable : Value → Bool
  | .qualified .classVar _ => true
  | _ => false

/-! ## Classes with fields -/

namespace Source

mutual

/-- A value as a plain value; of one that is none only its displayed form is left. -/
def Value.toDatum : Value → Datum
  | .constant datum => datum
  | .string quotation => .text quotation.text
  | .list items | .tuple items => .list (toData items)
  | .dictionary entries => .record (toEntries entries)
  | .instanceOf _ _ (some held) _ _ | .member _ _ _ (some held) => held.toDatum
  | value => .text value.display

/-- Several values as plain values. -/
def toData : List Value → List Datum
  | [] => []
  | value :: rest => value.toDatum :: toData rest

/-- Values under keys as plain values under names. -/
def toEntries : List (Value × Value) → List (String × Datum)
  | [] => []
  | (key, value) :: rest => (key.toDatum.told, value.toDatum) :: toEntries rest

end

end Source

namespace Source.Module

/-- How a fault in the annotations of a class is told. -/
def classFailure (value : ClassValue) (fault : Fault) : Failure :=
  if fault.isEvaluationFailure then
    .stub (.classAnnotations value.qualifiedName fault.message)
  else .host fault

/-- The hints of the fields of a class. -/
def fieldHints (module : Module) (value : ClassValue) : Describing (List (String × Value)) := do
  let hints ← .ofEvaluating (classFailure value) (module.classHints value)
  return hints.filter fun entry => !isClassVariable entry.2

/-- Whether a class is a record of any kind. -/
def isRecord (module : Module) (value : ClassValue) : Bool :=
  value.metaclass = .typedDict || (module.classAttribute value fieldsName).toOption.isSome

/-- Whether a class is described by its fields. -/
def isComposite (module : Module) (value : ClassValue) : Describing Bool := do
  if module.isRecord value then return true
  if frameworkModules.contains value.moduleName then return false
  return !(← module.fieldHints value).isEmpty

/-- The names of the type parameters that a class states. -/
def typeParameterNames (module : Module) (value : ClassValue) : Except Fault (List String) :=
  match module.attributeOf parametersAttribute (.classValue value) with
  | .ok stated => do
    (← module.itemsOf stated).mapM fun binder => do
      module.told (← module.attributeOf "__name__" binder)
  | .error fault => if fault.kind = "AttributeError" then .ok [] else .error fault

/-- The atom for a class with fields before any field is described. -/
def compositeAtom (module : Module) (reference : ClassRef) : Except Fault Atom := do
  let value := ClassValue.user reference
  return .composite reference.name value.identity (← module.typeParameterNames value)

/-- The atom for an enumeration, with the names that its members have for themselves. -/
def enumerationAtom (module : Module) (reference : ClassRef) : Evaluating Atom := do
  let names ← (module.listedMembers reference).mapM (module.read module.call "name")
  return .enumeration reference.name (names.map Value.toDatum) (ClassValue.user reference).identity

end Source.Module

/-! ## Annotations -/

/-- The outcome of a question whose fault is told as it is. -/
def Describing.ofHost {α : Type} (found : Except Fault α) : Describing α :=
  .ofExcept (found.mapError .host)

/-- The type of a value that is known by its displayed form alone. -/
def keepDisplayed (value : Value) : Describing TypeRef := do
  .keepAtom (.primitive (← .ofHost value.displayed))

/-- What every annotation is asked for: its class, and whether it equals one of the list types. -/
def Source.Module.seemsListLike (module : Module) (value : Value) : Evaluating Bool := do
  discard (module.read? module.call "__class__" value)
  [StandardClass.list, .sequence, .mutableSequence].anyM fun standard =>
    module.areEqual module.call (.standard standard) value

section

variable (module : Module) (describeClass : ClassRef → Describing TypeRef)

/-- The atom for a class that nothing is known of but its name. -/
def namedAtom (value : ClassValue) : Atom := .primitive value.identity value.name

/-- The type of a class that is not applied to arguments; a generic class has to be. -/
def describeBareClass : ClassValue → Describing TypeRef
  | .standard value =>
    match sharedIdentity? value with
    | some identity => .keepAtom (.primitive identity)
    | none =>
      if value.isListLike then .keepList []
      else if (ClassValue.standard value).metaclass = .enumeration then
        let names := value.written?.elim [] (·.members)
        .keepAtom (.enumeration value.name (names.map .text) (ClassValue.standard value).identity)
      else .keepAtom (namedAtom (.standard value))
  | .user reference => do
    let type ← describeClass reference
    let graph := (← Describing.catalog).graph
    if (graph.typeParameters type).isEmpty then return type
    else throw (.stub (.genericArity (graph.identity type) 0))

/-- The type of a class applied to described arguments; `shown` is the displayed form of the
application. -/
def describeApplication (shown : Value) (origin : ClassValue) (arguments : List TypeRef) :
    Describing TypeRef :=
  match origin with
  | .standard value => if value.isListLike then .keepList arguments else keepDisplayed shown
  | .user reference => do
    if ← module.isComposite origin then
      let template ← describeClass reference
      .keepGeneric template arguments
    else keepDisplayed shown

/-- The type of a plain value in the place of an annotation. -/
def describeDatum (datum : Datum) : Describing TypeRef :=
  match datum with
  | .missing => .keepAtom (.primitive voidIdentity)
  | datum => keepDisplayed (.ofDatum datum)

mutual

/-- The type of an annotation, when the types of classes are given. Arguments are described before
what they are applied to. -/
def describeValue : Value → Describing TypeRef
  | .constant datum => describeDatum datum
  | .typeVariable binder => .keepAtom (.parameter binder.name)
  | .classValue value => describeBareClass describeClass value
  | .bareAlias word =>
    if word.origin.isListLike then .keepList [] else .keepAtom (.primitive word.text)
  | .builtinOf origin arguments => do
    let types ← describeValues arguments
    describeApplication module describeClass (.builtinOf origin arguments) origin types
  | .templateOf origin arguments => do
    let types ← describeValues arguments
    describeApplication module describeClass (.templateOf origin arguments) origin types
  | .aliasOf word arguments => do
    let types ← describeValues arguments
    if word.origin.isListLike then .keepList types
    else keepDisplayed (.aliasOf word arguments)
  | .qualified word argument => do
    discard (describeValue argument)
    keepDisplayed (.qualified word argument)
  | .union members => do
    discard (describeValues members)
    keepDisplayed (.union members)
  | .alternatives members => do
    discard (describeValues members)
    keepDisplayed (.alternatives members)
  | .literal values => do
    values.forM fun datum => discard (describeDatum datum)
    keepDisplayed (.literal values)
  | .callable arguments result => do
    discard (keepDisplayed (.list arguments))
    discard (describeValue result)
    keepDisplayed (.callable arguments result)
  | .annotated inner notes => do
    discard (describeValue inner)
    notes.forM fun note => discard (describeDatum (.text note))
    keepDisplayed (.annotated inner notes)
  | value => do
    if ← .ofEvaluating .host (module.seemsListLike value) then .keepList []
    else keepDisplayed value

/-- The types of several annotations in order. -/
def describeValues : List Value → Describing (List TypeRef)
  | [] => pure []
  | value :: rest => do
    let type ← describeValue value
    let types ← describeValues rest
    return type :: types

end

/-- Describe fields in order and append each to a composite. -/
def describeFields (composite : TypeRef) : List (String × Value) → Describing Unit
  | [] => pure ()
  | (name, hint) :: rest => do
    let type ← describeValue module describeClass hint
    .ofCatalog fun catalog => ((), catalog.appendField composite ⟨name, type⟩)
    describeFields composite rest

end

/-! ## Classes -/

/-- The type of a class, when classes may be entered within each other `depth` times. -/
def describeClass (module : Module) : Nat → ClassRef → Describing TypeRef
  | depth, reference => do
    let value := ClassValue.user reference
    if reference.moduleName.isEmpty && module.classes.size ≤ reference.index then
      throw (.host (.hiddenAttribute moduleAttribute))
    if let some type := (← Describing.catalog).find? value.identity then return type
    if module.isKindOf value .enum then
      return ← .keepAtom (← .ofEvaluating .host (module.enumerationAtom reference))
    if !(← module.isComposite value) then return ← .keepAtom (namedAtom value)
    match depth with
    | 0 => throw (.host .tooDeep)
    | depth + 1 =>
      let type ← .keepAtom (← .ofHost (module.compositeAtom reference))
      let hints ← module.fieldHints value
      describeFields module (describeClass module depth) type hints
      return type

namespace Source.Module

/-- The type of an annotation of a module. -/
def describe (module : Module) (value : Value) : Describing TypeRef :=
  describeValue module (describeClass module module.classes.size) value

end Source.Module

end ServiceStubs
