import ServiceStubs.Source.StandardModules
import ServiceStubs.Source.Traits

/-!
# Fields of records

Annotated names of a class become fields of a record in three ways. A data class collects the
fields of the records that it derives from and its own; fields that need a value come before those
that do not. A named tuple has its own fields alone, in the same order, and keeps some names to
itself. A typed dictionary collects the annotations of the typed dictionaries that it derives from.
Data classes and named tuples get functions that make, display and compare their instances.
-/

namespace ServiceStubs.Source

/-- Add functions that are made for a class, and bind them to their names. -/
def Module.addFunctions (module : Module) :
    List (String × Function) → Module × List (String × Value)
  | [] => (module, [])
  | (name, function) :: rest =>
    let (found, module) := module.addFunction name function
    let (module, others) := module.addFunctions rest
    (module, (name, .function found) :: others)

/-! ## Fields of data classes -/

/-- The attribute that holds the fields of a data class. -/
def fieldsName : String := "__dataclass_fields__"

/-- The attribute that holds the options of a data class. -/
def optionsName : String := "__dataclass_params__"

/-- An annotated name of a data class. -/
structure RecordField where
  name : String
  /-- The annotation. -/
  type : Value
  /-- The value that instances have unless another one is given. -/
  default : Option Value
  /-- The name belongs to the class and not to its instances. -/
  isClassVariable : Bool
deriving Inhabited

/-- What stands for a value that is not given. -/
def noDefault : Value :=
  .object "_MISSING_TYPE" "<dataclasses._MISSING_TYPE object>"

/-- The kinds of fields, by whether they belong to the class. -/
def fieldKind (isClassVariable : Bool) : Value :=
  .object "_FIELD_BASE" (if isClassVariable then "_FIELD_CLASSVAR" else "_FIELD")

/-- What is kept of a data class, with parts under names. -/
def recordPart (place : Nat) (typeName : String) (parts : List (String × Value)) : Value :=
  .instanceOf (.standard (.named "dataclasses" typeName)) place none (some (typeName ++ "(" ++
    Text.commaJoined (parts.map fun part => part.1 ++ "=" ++ part.2.display) ++ ")")) parts

namespace RecordField

/-- A field as a data class keeps it. -/
def kept (field : RecordField) (place : Nat) : Value :=
  recordPart place "Field" [
    ("name", .ofText field.name), ("type", field.type),
    ("default", field.default.getD noDefault), ("default_factory", noDefault),
    ("init", .ofBool true), ("repr", .ofBool true), ("hash", .nothing),
    ("compare", .ofBool true), ("metadata", .object "mappingproxy" "mappingproxy(\x7b\x7d)"),
    ("kw_only", .ofBool false), ("_field_type", fieldKind field.isClassVariable)]

/-- The field that a value is kept for. -/
def ofKept (module : Module) (name : String) (value : Value) : Except Fault RecordField := do
  let kind ← module.attributeOf "_field_type" value
  let default ← module.attributeOf "default" value
  return {
    name
    type := ← module.attributeOf "type" value
    default := if default matches .object "_MISSING_TYPE" _ then none else some default
    isClassVariable := kind matches .object "_FIELD_BASE" "_FIELD_CLASSVAR" }

/-- The parameter that gives a field its value. -/
def parameter (field : RecordField) : Parameter :=
  { name := field.name, hasDefault := field.default.isSome }

/-- The values that fields have unless others are given. -/
def defaults (fields : List RecordField) : List (String × Value) :=
  fields.filterMap fun field => field.default.map fun value => (field.name, value)

end RecordField

/-- The options of a data class. -/
def recordOptions (place : Nat) : Value :=
  recordPart place "_DataclassParams" ((["init", "repr", "eq"].map fun name =>
      (name, .ofBool true)) ++
    ["order", "unsafe_hash", "frozen"].map fun name => (name, .ofBool false))

/-! ## Variables of classes -/

/-- Whether an annotation says that a name is a variable of the class. -/
def Value.isClassVariableForm : Value → Bool
  | .qualifier .classVar | .qualified .classVar _ => true
  | _ => false

/-- The word that an annotation begins with. -/
def Annotation.leadingWord? : Annotation → Option String
  | .name text => some text
  | .apply origin _ => origin.leadingWord?
  | _ => none

/-- The word that a string begins with, if there is no dot after it. -/
def leadingWordOf (text : String) : String :=
  let isBlank (character : Char) : Bool := " \t\n\r\x0b\x0c".toList.contains character
  let (word, rest) := (text.toList.dropWhile isBlank).span isWordCharacter
  if (rest.dropWhile isBlank).head? = some '.' then "" else String.ofList word

namespace Module

/-- Whether an annotation that is not evaluated yet makes a name a variable of the class: a string
does if it begins with a name of the module that stands for such an annotation. The module of the
class has to be there to be asked. -/
def isClassVariableWritten (module : Module) (owner : ClassRef) : Value → Except Fault Bool
  | .string quotation =>
    let word := leadingWordOf quotation.text
    let isThere := owner.moduleName = module.name || isLoaded owner.moduleName ||
      (module.others.lookup owner.moduleName).isSome
    if quotation.content.bind Annotation.leadingWord? = some Qualifier.classVar.name then .ok true
    else if word = "" then .ok false
    else if isThere then
      .ok ((module.globalOf? (.user owner) word).any Value.isClassVariableForm)
    else .error (.missingValueAttribute "NoneType" "__dict__")
  | type => .ok type.isClassVariableForm

/-- A field of a class of the table for an annotated name. All instances would share a value that
is no key. -/
def ownField (module : Module) (owner : ClassRef) (name : String) (type : Value) :
    Except Fault RecordField := do
  let default ← match module.classAttribute (.user owner) name with
    | .ok (.object "member_descriptor" _) => pure none
    | .ok value => pure (some value)
    | .error fault => if fault.kind = "AttributeError" then pure none else throw fault
  let isClassVariable ← module.isClassVariableWritten owner type
  if let some value := default then
    if !isClassVariable && value.keyFault? = some (.notKey value.typeName) then
      throw (.wrongValue ("mutable default " ++ (ClassValue.display value.classOf) ++
        " for field " ++ name ++ " is not allowed: use default_factory"))
  return { name, type, default, isClassVariable }

/-- What a class keeps of the fields that it has as a record, if it is one, under their names. -/
def keptFields (module : Module) (value : ClassValue) : Evaluating (List (Value × Value)) := do
  let kept ← match module.attributeOf fieldsName (.classValue value) with
    | .ok .nothing => return []
    | .ok kept => pure kept
    | .error fault => if fault.kind = "AttributeError" then return [] else throw fault
  let asked ← .ofExcept (module.attributeOf "values" kept)
  let fields ← .ofExcept (module.itemsOf (← module.call asked {}))
  let entries ← fields.mapM fun field => do
    return (← .ofExcept (module.attributeOf "name" field), field)
  let options ← .ofExcept (module.attributeOf optionsName (.classValue value))
  let isFrozen ← .ofExcept do module.isTrue (← module.attributeOf "frozen" options)
  if isFrozen then
    throw (.wrongType "cannot inherit non-frozen dataclass from a frozen one")
  return entries

end Module

/-! ## Data classes -/

/-- The first field without a value after one that has a value. -/
def firstLateField? (fields : List RecordField) : Option String :=
  let given := fields.dropWhile fun field => field.default.isNone
  (given.find? fun field => field.default.isNone).map RecordField.name

/-- The functions that a data class gets. -/
def recordFunctions (qualifiedName : String) (fields : List RecordField) :
    List (String × Function) :=
  let given := fields.filter fun field => !field.isClassVariable
  let maker : Parameter := { name := if fields.any fun field => field.name = "self"
    then "__dataclass_self__" else "self" }
  [ ("__init__", {
      qualifiedName := qualifiedName ++ ".__init__"
      parameters := maker :: given.map RecordField.parameter
      annotations := given.map fun field => (field.name, field.type)
      returns := some .nothing
      defaults := RecordField.defaults given
      purpose := some .attributes }),
    ("__repr__", {
      qualifiedName := qualifiedName ++ ".__repr__"
      parameters := [{ name := "self" }]
      purpose := some .display }),
    ("__eq__", {
      qualifiedName := qualifiedName ++ ".__eq__"
      parameters := [{ name := "self" }, { name := "other" }]
      purpose := some .equality })]

namespace Module

/-- A module in which a class of the table is changed. -/
def withClass (module : Module) (declared : Class) : Module :=
  { module with classes := module.classes.setIfInBounds declared.reference.index declared }

/-- A module in which a class of the table is a data class. -/
def asRecord (module : Module) (declared : Class) : Evaluating (Module × Class) := do
  let owner := (declared.attributes.get? moduleAttribute).toList
  if let some fault := Value.firstKeyFault? owner then throw fault
  let inherited ← (declared.order.drop 1).reverse.mapM module.keptFields
  let annotations ← .ofExcept (declared.listedAnnotations module)
  let own ← annotations.mapM fun (name, type) => do
    let field ← .ofExcept (module.ownField declared.reference name type)
    return (Value.ofText name, field.kept (← Evaluating.newPlace))
  let kept := Value.entriesOf (equal (← get)) (inherited.flatten ++ own)
  let fields ← kept.mapM fun (name, field) => do
    Evaluating.ofExcept (RecordField.ofKept module
      ((name.quotation?.map Quotation.text).getD name.display) field)
  let given := fields.filter fun field => !field.isClassVariable
  if let some field := firstLateField? given then
    throw (.wrongType ("non-default argument " ++ Text.quoted field ++
      " follows default argument"))
  let (module, functions) :=
    module.addFunctions (recordFunctions declared.reference.qualifiedName fields)
  let further := functions ++ [(keyName, .nothing),
    ("__match_args__", .tuple (given.map fun field => .ofText field.name))]
  let changed := (declared.attributes.put optionsName (recordOptions (← Evaluating.newPlace))).put
    fieldsName (.dictionary kept)
  let attributes := changed.putAll
    (further.filter fun entry => !declared.attributes.contains entry.1)
  let declared ← module.withFlaws { declared with attributes }
  let declared ← .ofExcept (module.withAbstractNames declared)
  return (module.withClass declared, declared)

end Module

/-! ## Named tuples -/

/-- The names that a named tuple keeps to itself. -/
def keptTupleNames : List String := [
  "__new__", "__init__", "__slots__", "__getnewargs__", "_fields", "_field_defaults",
  "_field_types", "_make", "_replace", "_asdict", "_source"]

/-- The function that every named tuple has under a name. -/
def tupleFunction (owner name : String) : Value :=
  let place := tupleFunctions.idxOf name
  .function ⟨standardFunctions.length + place, "collections", owner ++ "." ++ name, name⟩

/-- What a named tuple has under the name of a field. -/
def tupleField (place : Nat) : Value :=
  .object "_collections._tuplegetter"
    ("_tuplegetter(" ++ toString place ++ ", 'Alias for field number " ++ toString place ++ "')")

/-- What every class has under names that cannot be bound. -/
def fixedMemberNames : List String := [
  "__mro__", "__base__", "__basicsize__", "__itemsize__", "__flags__", "__weakrefoffset__",
  "__dictoffset__"]

/-- The attribute that lists the names of the values of instances. -/
def slotsAttribute : String := "__slots__"

/-- The fault of a field of a named tuple without a default after fields with defaults. -/
def tupleOrderFault (field : String) (defaults : List String) : Fault :=
  .wrongType ("Non-default namedtuple field " ++ field ++ " cannot follow default field" ++
    (if defaults.length > 1 then "s " else " ") ++ Text.commaJoined defaults)

namespace Body

/-- What is wrong with the order of the fields of a named tuple. -/
def tupleOrderFault? (body : Body) : Option Fault :=
  let names := body.annotations.keys
  let hasDefault (name : String) : Bool := body.attributes.contains name
  let late := (names.dropWhile fun name => !hasDefault name).dropWhile hasDefault
  late.head?.map fun field =>
    tupleOrderFault field ((names.takeWhile (· ≠ field)).filter hasDefault)

/-- What is wrong with binding a name to a value in a named tuple, which a class does not let be
bound to any value. -/
def tupleBindingFault? (body : Body) (name : String) (value : Value) : Option Fault :=
  let refusal (allowed : String) : Fault := .wrongType ("can only assign " ++ allowed ++ " to " ++
    body.className ++ "." ++ name ++ ", not " ++ value.typeName)
  if keptTupleNames.contains name then some (.reservedAttribute name)
  else match name, value with
    | "__qualname__", value =>
      if value.quotation?.isSome then none
      else some (.wrongType ("can only assign string to " ++ body.className ++ "." ++ name ++
        ", not '" ++ value.typeName ++ "'"))
    | "__bases__", _ => some (refusal "tuple")
    | "__class__", .classValue _ => some (.wrongType
        "__class__ assignment only supported for mutable types or ModuleType subclasses")
    | "__class__", value => some (.wrongType
        ("__class__ must be set to a class, not '" ++ value.typeName ++ "' object"))
    | name, _ =>
      if fixedMemberNames.contains name then some (.lockedAttribute "readonly attribute")
      else if name = "__dict__" || name = "__text_signature__" then
        some (.lockedAttribute
          ("attribute '" ++ name ++ "' of 'type' objects is not writable"))
      else none

/-- What is wrong with the names in a named tuple. -/
def tupleNameFault? (body : Body) : Option Fault :=
  match body.annotations.keys.find? (Text.opensWith "_") with
  | some field =>
    some (.wrongValue ("Field names cannot start with an underscore: " ++ Text.quoted field))
  | none => body.attributes.entries.findSome? fun (name, value) =>
      body.tupleBindingFault? name value

/-- The values that the fields of a named tuple have unless others are given. -/
def tupleDefaults (body : Body) : List (String × Value) :=
  body.annotations.keys.filterMap fun name =>
    (body.attributes.get? name).map fun value => (name, value)

/-- The functions that make and display a named tuple with some annotations. -/
def tupleMakers (body : Body) (annotations : List (String × Value)) :
    List (String × Function) :=
  let defaults := body.tupleDefaults
  let parameters : List Parameter := body.annotations.keys.map fun name =>
    { name, hasDefault := (defaults.lookup name).isSome }
  [ ("__new__", {
      qualifiedName := body.className ++ ".__new__"
      parameters := { name := "_cls" } :: parameters
      annotations
      defaults
      purpose := some .items }),
    ("__repr__", {
      qualifiedName := body.className ++ ".__repr__"
      parameters := [{ name := "self" }]
      purpose := some .display })]

/-- The attributes of a named tuple: its functions, its fields, which are no functions, and what
else its body binds. -/
def tupleAttributes (body : Body) (makers : List (String × Value)) : OrderedMap String Value :=
  let names := Value.tuple (body.annotations.keys.map .ofText)
  let own := [(slotsAttribute, Value.tuple []), ("_fields", names),
    ("_field_defaults", .dictionary (body.tupleDefaults.map fun entry =>
      (.ofText entry.1, entry.2))),
    ("_make", .wrapped .classBound false (.unknown "_make")), ("__match_args__", names)]
  let functions := tupleFunctions.map fun name => (name, tupleFunction body.className name)
  let fields := body.annotations.keys.zipIdx.map fun (name, place) => (name, tupleField place)
  (OrderedMap.ofList (makers ++ own ++ functions ++ fields)).putAll
    (body.attributes.entries.filter fun entry => !body.annotations.contains entry.1)

/-- The annotations of the fields of a record as types; each has to be one. -/
def checkedAnnotations (body : Body) (role : String → Value.Role) :
    Evaluating (List (String × Value)) :=
  body.annotations.entries.mapM fun (name, type) => do
    return (name, ← type.checked (role name))

/-- The annotations of the fields of a named tuple. -/
def tupleAnnotations (body : Body) (module : Module) : Evaluating (List (String × Value)) := do
  if let some value := body.strayAnnotations then discard (.ofExcept (module.itemsOf value))
  .ofExcept (module.checkAnnotations body.strayAnnotations)
  if let some fault := body.tupleOrderFault? then throw fault
  let own ← body.checkedAnnotations fun name =>
    { message := "field " ++ name ++ " annotation must be a type" }
  if let some fault := body.tupleNameFault? then throw fault
  return own

/-! ## Typed dictionaries -/

/-- The annotations of the fields of a typed dictionary in a module. -/
def dictionaryAnnotations (body : Body) (module : Module) (moduleName : String) :
    Evaluating (List (String × Value)) := do
  .ofExcept (module.checkAnnotations body.strayAnnotations)
  body.checkedAnnotations fun _ => {
    message := "TypedDict('Name', \x7bf0: t0, f1: t1, ...\x7d); each t must be a type"
    moduleName := some moduleName }

end Body

/-- The annotations that a typed dictionary has from its bases. -/
def Module.inheritedAnnotations (module : Module) (bases : List ClassValue) :
    List (String × Value) :=
  bases.flatMap fun
    | .standard _ => []
    | .user reference => (module.classAt reference.index).annotations

end ServiceStubs.Source
