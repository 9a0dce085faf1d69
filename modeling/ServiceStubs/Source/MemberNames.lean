import ServiceStubs.Source.Told
import ServiceStubs.Text.IntegerNumeral

/-!
# Names of the members of enumerations

Which of the names that the body of an enumeration binds become members. Names that the body keeps
private, names between single or double underscores, and names of functions and properties are
none; a member cannot be bound again.
-/

namespace ServiceStubs.Source

/-! ## Kinds of names -/

/-- Whether a name begins and ends with exactly one underscore. -/
def isSunder (name : String) : Bool :=
  match Text.trimmedOne '_' name.toList with
  | some inner => !inner.isEmpty && inner.head? ≠ some '_' && inner.getLast? ≠ some '_'
  | none => false

/-- Whether a name begins and ends with exactly two underscores. -/
def isStrictDunder (name : String) : Bool :=
  match Text.trimmedOne '_' name.toList with
  | some inner => isSunder (String.ofList inner)
  | none => false

/-- Whether the body of a class made a name private to the class of the given name. -/
def isPrivateTo (className name : String) : Bool :=
  match Text.afterOpening? ("_" ++ className ++ "__").toList name.toList with
  | some rest => !rest.isEmpty && !Text.endsWith "__" name
  | none => false

/-- The names that an enumeration may bind although they begin and end with one underscore. -/
def allowedSunders : List String := [
  "_order_", "_generate_next_value_", "_numeric_repr_", "_missing_", "_ignore_", "_iter_member_",
  "_iter_member_by_value_", "_iter_member_by_def_"]

/-! ## Values of names -/

/-- The attributes of which a value has one if it has a say in how it is read as an attribute. -/
def descriptorNames : List String := ["__get__", "__set__", "__delete__"]

/-- Whether an attribute of a class of the standard library is bound when it is read. -/
def StandardClass.AttributeKind.isBindable : StandardClass.AttributeKind → Bool
  | .classMethod | .free | .value _ => false
  | _ => true

/-- Whether a value has a say in how it is read as an attribute. -/
def Module.isDescriptor (module : Module) (value : Value) : Except Fault Bool :=
  match value with
  | .descriptor owner name => .ok (owner.attributeKind name).isBindable
  | value => descriptorNames.anyM fun name => match module.attributeOf name value with
    | .ok _ => .ok true
    | .error fault => if fault.kind = "AttributeError" then .ok false else .error fault

/-- The words of a text, which have commas or blanks between them. -/
def wordsOf (text : String) : List String :=
  (Text.pieces ' ' (String.ofList (text.toList.map fun character =>
      if character = ',' || Text.isNumeralBlank character then ' ' else character))).filter (· ≠ "")

/-- The names that a value lists: the words of a text, or the items of a list. -/
def Module.listedNames (module : Module) (value : Value) : Except Fault (List Value) :=
  match value.quotation? with
  | some quotation => .ok ((wordsOf quotation.text).map .ofText)
  | none => module.itemsOf value

/-- The names that are to be no members, as a value lists them. -/
def Module.ignoredNames (module : Module) (value : Value) : Except Fault (List String) := do
  let listed ← module.listedNames value
  match Value.firstKeyFault? listed with
  | some fault => throw fault
  | none => return listed.filterMap fun item => item.quotation?.map Quotation.text

/-! ## Binding names -/

/-- What the body of an enumeration has named so far. -/
structure MemberNaming where
  /-- The names of members in order. -/
  names : List String := []
  /-- Names that are to be no members. -/
  ignored : List String := []
deriving Inhabited

namespace MemberNaming

/-- The names that are left out of a class in the end. -/
def leftOut (naming : MemberNaming) : List String := "_ignore_" :: naming.ignored

/-- The name of a list of names that are to be no members. -/
def ignore (naming : MemberNaming) (module : Module) (value : Value) :
    Except Fault MemberNaming := do
  let ignored ← module.ignoredNames value
  match firstOccurrences (ignored.filter naming.names.contains) with
  | [] => return { naming with ignored }
  | taken => throw (.wrongValue ("_ignore_ cannot specify already set names: \x7b" ++
      Text.commaJoined (taken.map Text.quoted) ++ "\x7d"))

/-- Bind a name to a value, when `bound?` tells what the body has bound already. The name under
which the body keeps the value comes with what is named then. -/
def bind (naming : MemberNaming) (module : Module) (className : String)
    (bound? : String → Option Value) (name : String) (value : Value) :
    Except Fault (MemberNaming × String) := do
  let repeated (earlier : Value) : Except Fault (MemberNaming × String) := do
    throw (.wrongType (Text.quoted name ++ " already defined as " ++ (← earlier.displayed)))
  if isPrivateTo className name then return (naming, name)
  if isSunder name then
    if !allowedSunders.contains name then
      throw (.wrongValue ("_sunder_ names, such as " ++ Text.quoted name ++
        ", are reserved for future Enum use"))
    if name = "_ignore_" then return (← naming.ignore module value, name)
    return (naming, name)
  if isStrictDunder name then
    return (naming, if name = "__order__" then "_order_" else name)
  if naming.names.contains name then return ← repeated ((bound? name).getD .nothing)
  if naming.ignored.contains name then return (naming, name)
  if ← module.isDescriptor value then return (naming, name)
  match bound? name with
  | some earlier => repeated earlier
  | none => return ({ naming with names := naming.names ++ [name] }, name)

end MemberNaming

end ServiceStubs.Source
