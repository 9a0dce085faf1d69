import ServiceStubs.OrderedMap
import ServiceStubs.Source.StandardAttributes
import ServiceStubs.Source.Value

/-!
# Classes, functions and modules

What a module holds once it is executed. A class has annotations of its own, attributes, and a
resolution order: the classes in which an attribute is looked for, the class itself first. The
attributes of a class keep the order in which they were first bound. Of the classes of the standard
library only the names of attributes are known, and those attributes that are functions.
-/

namespace ServiceStubs.Source

/-! ## Functions -/

/-- What a function that is made for a record does. -/
inductive Purpose
  /-- What its parameters stand for becomes the attributes of an instance. -/
  | attributes
  /-- What its parameters stand for becomes the items of a tuple. -/
  | items
  /-- It gives the displayed form of an instance. -/
  | display
  /-- It compares the attributes of two instances. -/
  | equality
deriving DecidableEq, Repr

/-- A function with the annotations that were evaluated when it was defined. -/
structure Function where
  /-- The name with the names of the enclosing classes before it. -/
  qualifiedName : String
  /-- Parameters in the order of the signature. -/
  parameters : List Parameter
  /-- Annotations of parameters in the order in which they are evaluated. -/
  annotations : List (String × Value) := []
  /-- The annotation of the result. -/
  returns : Option Value := none
  /-- The function is marked as an event. -/
  isEvent : Bool := false
  /-- A class that has the function has no instances. -/
  isAbstract : Bool := false
  /-- The values that parameters have unless others are given, where those are not `None`. -/
  defaults : List (String × Value) := []
  /-- What it does, if it is made for a record. -/
  purpose : Option Purpose := none
  /-- It does something that is not executed here. -/
  isUnexecuted : Bool := false
deriving Inhabited

/-- The functions of classes of the standard library, with the names of their parameters. -/
def standardFunctions : List (StandardClass × String × List String) := [
  (.sequence, "index", ["self", "value", "start", "stop"]),
  (.sequence, "count", ["self", "value"]),
  (.mutableSequence, "insert", ["self", "index", "value"]),
  (.mutableSequence, "append", ["self", "value"]),
  (.mutableSequence, "clear", ["self"]),
  (.mutableSequence, "reverse", ["self"]),
  (.mutableSequence, "extend", ["self", "values"]),
  (.mutableSequence, "pop", ["self", "index"]),
  (.mutableSequence, "remove", ["self", "value"]),
  (.mapping, "get", ["self", "key", "default"]),
  (.mapping, "keys", ["self"]),
  (.mapping, "items", ["self"]),
  (.mapping, "values", ["self"]),
  (.enum, "_generate_next_value_", ["name", "start", "count", "last_values"]),
  (.enum, "_new_member_", ["cls", "value"]),
  (.reprEnum, "_generate_next_value_", ["name", "start", "count", "last_values"]),
  (.intEnum, "_generate_next_value_", ["name", "start", "count", "last_values"]),
  (.strEnum, "_generate_next_value_", ["name", "start", "count", "last_values"]),
  (.strEnum, "_new_member_", ["cls"]),
  (.flag, "_generate_next_value_", ["name", "start", "count", "last_values"])]

/-- A parameter of a function of a library class; a star stands for any number of arguments. -/
def libraryParameter (text : String) : Parameter :=
  if text = "*" then { name := "args", kind := .restPositional } else { name := text }

/-- The function of a name that every named tuple gets, which takes named values at most. -/
def tupleFunctions : List String := ["_replace", "_asdict"]

/-- The functions that exist before any is defined. -/
def initialFunctions : Array Function :=
  (standardFunctions.map fun (owner, name, parameters) =>
      { qualifiedName := owner.name ++ "." ++ name
        parameters := parameters.map fun parameter => { name := parameter } }).toArray ++
    (tupleFunctions.map fun name =>
      { qualifiedName := name, parameters := [{ name := "self" }] : Function }).toArray ++
    (libraryFunctions.map fun (_, owner, name, parameters) =>
      { qualifiedName := owner ++ "." ++ name
        parameters := parameters.map libraryParameter : Function }).toArray

namespace StandardClass

/-- The place of a function of a class among the functions that exist before any is defined. -/
def functionPlace? (value : StandardClass) (functionName : String) : Option Nat :=
  match value with
  | named moduleName name =>
    (libraryFunctionPlace? moduleName name functionName).map fun place =>
      standardFunctions.length + tupleFunctions.length + place
  | value =>
    standardFunctions.findIdx? fun entry => entry.1 = value && entry.2.1 = functionName

/-- The attribute that a class of the standard library has under a name of its own. -/
def attribute? (value : StandardClass) (attributeName : String) : Option Value :=
  match value.functionPlace? attributeName with
  | some index =>
    some (.function ⟨index, value.moduleName, value.name ++ "." ++ attributeName, attributeName⟩)
  | none =>
    if !value.hasOwn attributeName then none
    else match value.attributeKind attributeName with
      | .value "NoneType" => some .nothing
      | .value typeName =>
        some (match attributeName with
          | "__module__" => .ofText value.moduleName
          | "__slots__" | "__parameters__" => .tuple []
          | "_is_protocol" => .ofBool (value ≠ .generic)
          | "_is_runtime_protocol" => .ofBool (value ≠ .protocol)
          | _ => .object typeName ("<" ++ attributeName ++ ">"))
      | _ => some (.descriptor value attributeName)

end StandardClass

/-! ## Classes -/

/-- A class of a module. -/
structure Class where
  reference : ClassRef
  /-- The classes that it derives from. -/
  bases : List ClassValue := []
  /-- The one of them whose layout it takes over. -/
  base : ClassValue := .standard .object
  /-- The classes in which attributes are looked for, its own first. -/
  order : List ClassValue
  /-- Annotations in the body of the class, or those that a typed dictionary collects. -/
  annotations : List (String × Value)
  /-- What stands in the place of annotations, if that holds none. -/
  strayAnnotations : Option Value := none
  /-- Attributes bound in the body of the class and when the class is made. -/
  attributes : OrderedMap String Value
  /-- Members of an enumeration in order, without those that repeat another one. -/
  memberNames : List String := []
  /-- What the names of an enumeration stand for. -/
  members : List (String × Value) := []
  /-- What the members of an enumeration keep under names of their own. -/
  memberParts : List (String × List (String × Value)) := []
  /-- The plain class that the members of an enumeration belong to. -/
  memberType : ClassValue := .standard .object
  /-- The names of values that its instances have fixed places for, if it lists any; instances of a
  class without a list have a dictionary for values. -/
  slots : Option (List String) := none
  /-- The names of the abstract functions, which keep a class of an abstract type from having
  instances. -/
  abstractNames : List String := []
  /-- The class only states what other classes have. -/
  isProtocol : Bool := false
  /-- Type variables that a use of the class has to give, if it derives from a generic class. -/
  parameters : List TypeVariable := []
deriving Inhabited

/-! ## Modules -/

/-- A module after its execution, or while it is executed. -/
structure Module where
  name : String
  /-- The names that the module binds. -/
  names : OrderedMap String Value := .empty
  /-- All classes, nested ones included. -/
  classes : Array Class := #[]
  /-- All functions, those of the standard library first. -/
  functions : Array Function := initialFunctions
  /-- How many type variables were made. -/
  variableCount : Nat := 0
  /-- What the new types are made of. -/
  newTypes : Array Value := #[]
  /-- Other modules whose classes are in the table, with the names that they bind. -/
  others : List (String × OrderedMap String Value) := []
  /-- The names that the module shows, if it does not show all. -/
  shown : Option (List String) := none
deriving Inhabited

/-- Modules whose classes contribute nothing to services and records. -/
def frameworkModules : List String := ["builtins", "typing", "typing_extensions", "abc"]

namespace Module

/-- The class at a place of the table. -/
def classAt (module : Module) (index : Nat) : Class := module.classes.getD index default

/-- The function at a place of the table. -/
def functionAt (module : Module) (index : Nat) : Function := module.functions.getD index default

/-- The classes in which attributes of a class are looked for, its own first. -/
def orderOf (module : Module) : ClassValue → List ClassValue
  | .standard value => value.order.map ClassValue.standard
  | .user reference => (module.classAt reference.index).order

/-- The attribute that a class has under a name of its own. -/
def ownAttribute? (module : Module) (owner : ClassValue) (name : String) : Option Value :=
  match owner with
  | .standard value => value.attribute? name
  | .user reference => (module.classAt reference.index).attributes.get? name

/-- The attribute that some classes in order have under a name. -/
def attributeIn? (module : Module) (order : List ClassValue) (name : String) : Option Value :=
  order.findSome? fun owner => module.ownAttribute? owner name

/-- Whether a class derives from another one. -/
def derivesFrom (module : Module) (value ancestor : ClassValue) : Bool :=
  (module.orderOf value).any ancestor.same

/-- Whether a class derives from a class of the standard library. -/
def isKindOf (module : Module) (value : ClassValue) (ancestor : StandardClass) : Bool :=
  module.derivesFrom value (.standard ancestor)

/-- Add a class to the table. -/
def addClass (module : Module) (declared : Class) : Module :=
  { module with classes := module.classes.push declared }

/-- Add a function to the table. -/
def addFunction (module : Module) (name : String) (declared : Function) :
    FunctionRef × Module :=
  (⟨module.functions.size, module.name, declared.qualifiedName, name⟩,
    { module with functions := module.functions.push declared })

/-- Bind a name of a module. -/
def bind (module : Module) (name : String) (value : Value) : Module :=
  { module with names := module.names.put name value }

end Module

end ServiceStubs.Source
