import ServiceStubs.Source.Scope

/-!
# Classes of values

The class that a value belongs to, and the classes in which its attributes are looked for. A value
of a user class may be a value of a plain class too.
-/

namespace ServiceStubs.Source

namespace Value

/-- The class of the classes of a type. -/
def metaclassClass : Metaclass → StandardClass
  | .plain => .type
  | .abstract => .named "abc" "ABCMeta"
  | .enumeration => .named "enum" "EnumType"
  | metaclass => .named "typing" (metaclassWord metaclass)

/-- The class of a plain value. -/
def datumClass : Datum → StandardClass
  | .missing => .noneType
  | .flag _ => .bool
  | .number _ => .int
  | .fraction _ => .float
  | .text _ => .str
  | .list _ => .list
  | .record _ => .dict

/-- The class of a name that may have the name of its module before it. -/
def classNamed (typeName : String) : StandardClass :=
  match (Text.pieces '.' typeName).reverse with
  | name :: first :: rest => .ofName (Text.joined "." (first :: rest).reverse) name
  | _ => .ofName "builtins" typeName

/-- The names of the classes of constructions that the module `typing` makes. -/
def typingClass (value : Value) : StandardClass := .named "typing" value.typeName

/-- The class of a value. -/
def classOf (value : Value) : ClassValue :=
  match value with
  | .member owner _ _ _ => .user owner
  | .instanceOf owner _ _ _ _ => owner
  | .constant datum => .standard (datumClass datum)
  | .classValue owner => .standard (metaclassClass owner.metaclass)
  | .wrapped (.cached _) _ _ => .standard (.named "functools" "cached_property")
  | .object "module" _ => .standard .module
  | .typeVariable _ | .newType _ _ _ | .qualifier _ | .bareAlias _ | .reference _ | .form _
  | .templateOf _ _ | .aliasOf _ _ | .qualified _ _ | .union _ | .literal _ | .callable _ _
  | .annotated _ _ => .standard value.typingClass
  | .object typeName _ =>
    if Text.opensWith "_" typeName && !(typeName.toList.contains '.') then
      .standard value.typingClass
    else .standard (classNamed typeName)
  | value => .standard (classNamed value.typeName)

end Value

namespace Module

/-- Whether a value is of a class or of one that derives from it. -/
def isInstance (module : Module) (value : Value) (owner : ClassValue) : Bool :=
  module.derivesFrom value.classOf owner

/-- Whether a value is of a class of the standard library. -/
def isOf (module : Module) (value : Value) (owner : StandardClass) : Bool :=
  module.isInstance value (.standard owner)

/-- The attribute that a class or a class that it derives from binds, as it is bound. -/
def boundAttribute? (module : Module) (value : ClassValue) (name : String) : Option Value :=
  module.attributeIn? (module.orderOf value) name

/-- The attribute that the user classes among those that a class derives from bind under a name,
before any class of the standard library does. -/
def ownedAttribute? (module : Module) (value : ClassValue) (name : String) : Option Value :=
  match (module.orderOf value).find? fun owner => (module.ownAttribute? owner name).isSome with
  | some (.user reference) => module.ownAttribute? (.user reference) name
  | _ => none

end Module

end ServiceStubs.Source
