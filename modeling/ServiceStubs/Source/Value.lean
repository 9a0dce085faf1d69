import ServiceStubs.Number.Complex
import ServiceStubs.Source.Expression
import ServiceStubs.Source.Fault
import ServiceStubs.Source.StandardClass

/-!
# Values of a module

What names stand for and what annotations evaluate to: classes, functions, special forms, type
variables and the constructions made of them, and also every plain value, because nothing keeps a
module from using one as an annotation. Classes, functions, type variables, new types, references
and instances are told apart by their places; whatever else matters of them stands beside the place
or in the module.
-/

namespace ServiceStubs.Source

/-! ## Classes -/

/-- The type of a class. -/
inductive Metaclass
  | plain
  | abstract
  | protocol
  | enumeration
  | typedDict
  | namedTuple
  | any
deriving DecidableEq, Repr, Inhabited

/-- A class of a user module: its place in the table of classes, its names and its type. -/
structure ClassRef where
  index : Nat
  moduleName : String
  /-- The name with the names of the enclosing classes before it. -/
  qualifiedName : String
  /-- The name alone. -/
  name : String
  metaclass : Metaclass := .plain
  /-- Members of an enumeration are sets of flags. -/
  isFlag : Bool := false
  /-- What keeps its instances from being keys, if anything does. -/
  keyFlaw : Option Fault := none
  /-- What is wrong with the displayed forms of its instances, if they have none. -/
  displayFlaw : Option Fault := none
deriving DecidableEq, Repr, Inhabited

/-- A class of either origin. -/
inductive ClassValue
  | standard (value : StandardClass)
  | user (reference : ClassRef)
deriving DecidableEq, Repr, Inhabited

namespace ClassValue

/-- The module of a class. -/
def moduleName : ClassValue → String
  | .standard value => value.moduleName
  | .user reference => reference.moduleName

/-- The name of a class with the names of the enclosing classes before it. -/
def qualifiedName : ClassValue → String
  | .standard value => value.name
  | .user reference => reference.qualifiedName

/-- The name of a class alone. -/
def name : ClassValue → String
  | .standard value => value.name
  | .user reference => reference.name

/-- The name of a class in messages, in which a few classes have their module before it. -/
def fullName : ClassValue → String
  | .standard value => value.fullName
  | .user reference => reference.name

/-- The identity of a class. -/
def identity (value : ClassValue) : String := value.moduleName ++ "." ++ value.qualifiedName

/-- Whether two classes are one. -/
def same : ClassValue → ClassValue → Bool
  | .standard left, .standard right => left = right
  | .user left, .user right => left.index = right.index
  | _, _ => false

end ClassValue

/-! ## Functions -/

/-- A function: its place in the table of functions, its module and its names. -/
structure FunctionRef where
  index : Nat
  moduleName : String
  /-- The name with the names of the enclosing classes before it. -/
  qualifiedName : String
  /-- The name alone. -/
  name : String
deriving DecidableEq, Repr, Inhabited

/-- What makes an attribute of a class something else than a plain function. -/
inductive Wrapper
  | static
  | classBound
  | property
  /-- A property whose value is kept under a name; the class that has it tells it the name. -/
  | cached (name : Option String)
deriving DecidableEq, Repr, Inhabited

/-! ## Special forms -/

/-- A form that says something about a field beside its type. -/
inductive Qualifier
  | classVar
  | final
  | required
  | notRequired
deriving DecidableEq, Repr, Inhabited

namespace Qualifier

/-- The name of a qualifier. -/
def name : Qualifier → String
  | classVar => "ClassVar"
  | final => "Final"
  | required => "Required"
  | notRequired => "NotRequired"

/-- The displayed form of a qualifier. -/
def text (qualifier : Qualifier) : String := "typing." ++ qualifier.name

end Qualifier

/-- A generic alias of the module `typing`. -/
inductive TypingAlias
  | list | sequence | mutableSequence | dict | set | tuple | iterable | mapping
  /-- One that annotations have no word for. -/
  | further (name : String)
deriving DecidableEq, Repr, Inhabited

namespace TypingAlias

/-- The aliases that annotations have no word for, with the classes that they stand for and the
numbers of arguments that they take. -/
def furtherAliases : List (String × StandardClass × Nat) :=
  let ofCollections (name : String) : StandardClass := .named "collections" name
  let ofInterfaces (name : String) : StandardClass := .named "collections.abc" name
  [ ("Callable", .callable, 2), ("Type", .type, 1), ("FrozenSet", .frozenset, 1),
    ("Deque", .deque, 1), ("DefaultDict", ofCollections "defaultdict", 2),
    ("OrderedDict", ofCollections "OrderedDict", 2), ("Counter", ofCollections "Counter", 1),
    ("ChainMap", ofCollections "ChainMap", 2), ("Collection", .collection, 1),
    ("Container", .container, 1), ("Reversible", .reversible, 1), ("Sized", .sized, 0),
    ("Hashable", ofInterfaces "Hashable", 0), ("AbstractSet", ofInterfaces "Set", 1),
    ("ByteString", ofInterfaces "ByteString", 0), ("ItemsView", ofInterfaces "ItemsView", 2),
    ("Iterator", ofInterfaces "Iterator", 1), ("KeysView", ofInterfaces "KeysView", 1),
    ("MappingView", ofInterfaces "MappingView", 1),
    ("MutableMapping", ofInterfaces "MutableMapping", 2),
    ("MutableSet", ofInterfaces "MutableSet", 1), ("ValuesView", ofInterfaces "ValuesView", 1),
    ("Awaitable", ofInterfaces "Awaitable", 1), ("Coroutine", ofInterfaces "Coroutine", 3),
    ("AsyncIterable", ofInterfaces "AsyncIterable", 1),
    ("AsyncIterator", ofInterfaces "AsyncIterator", 1),
    ("AsyncGenerator", ofInterfaces "AsyncGenerator", 2),
    ("Generator", ofInterfaces "Generator", 3),
    ("ContextManager", .named "contextlib" "AbstractContextManager", 1),
    ("AsyncContextManager", .named "contextlib" "AbstractAsyncContextManager", 1),
    ("Match", .named "re" "Match", 1), ("Pattern", .named "re" "Pattern", 1)]

/-- The name of an alias. -/
def name : TypingAlias → String
  | list => "List"
  | sequence => "Sequence"
  | mutableSequence => "MutableSequence"
  | dict => "Dict"
  | set => "Set"
  | tuple => "Tuple"
  | iterable => "Iterable"
  | mapping => "Mapping"
  | further name => name

/-- The displayed form of an alias. -/
def text (word : TypingAlias) : String := "typing." ++ word.name

/-- The class that an alias stands for. -/
def origin : TypingAlias → StandardClass
  | list => .list
  | sequence => .sequence
  | mutableSequence => .mutableSequence
  | dict => .dict
  | set => .set
  | tuple => .tuple
  | iterable => .iterable
  | mapping => .mapping
  | further name => ((furtherAliases.lookup name).map Prod.fst).getD (.named "typing" name)

/-- How many arguments an alias takes; a tuple takes any number. -/
def argumentCount? : TypingAlias → Option Nat
  | tuple => none
  | dict | mapping => some 2
  | further name => some (((furtherAliases.lookup name).map Prod.snd).getD 1)
  | _ => some 1

/-- All aliases. -/
def all : List TypingAlias :=
  [list, sequence, mutableSequence, dict, set, tuple, iterable, mapping] ++
    furtherAliases.map fun entry => further entry.1

end TypingAlias

/-- The names of the forms of `typing` that are no qualifiers and no aliases. -/
def formNames : List String := [
  "Union", "Optional", "Literal", "Concatenate", "LiteralString", "Never", "NoReturn", "Self",
  "TypeAlias", "TypeGuard", "Unpack"]

/-- The forms that are types by themselves. -/
def typeForms : List String := ["LiteralString", "Never", "NoReturn", "Self", "TypeAlias"]

/-- A string, and the annotation that it was made from if there is one. -/
structure Quotation where
  text : String
  content : Option Annotation := none
deriving Inhabited, Repr

/-- A reference that a special form made of a string. -/
structure Reference where
  /-- The place among the references, where what it stands for is kept. -/
  index : Nat := 0
  quotation : Quotation
  /-- It annotates a field, where qualifiers may stand. -/
  isField : Bool := false
  /-- The module whose names alone it sees, if it is tied to one. -/
  moduleName : Option String := none
  /-- The form of the string, if it is a value of another class. -/
  shown : Option String := none
  /-- What keeps the string from being a key, if it is a value of another class. -/
  keyFlaw : Option Fault := none
deriving Inhabited, Repr

/-- A type variable: its place among the variables, and its name. -/
structure TypeVariable where
  index : Nat
  name : String
deriving DecidableEq, Repr, Inhabited

/-! ## Functions without a name -/

/-- Where a function without a name finds the names that are not its own. -/
inductive Surroundings
  /-- At the top of the module. -/
  | module
  /-- Among the attributes of a class. -/
  | attributesOf (owner : ClassValue)
deriving DecidableEq, Repr, Inhabited

/-- A function without a name as it is written, and where it finds names. -/
structure Lambda where
  parameters : List Parameter
  body : Expression
  surroundings : Surroundings
  /-- The places where names are bound on the way, the innermost first. -/
  places : List Nat
deriving Repr, Inhabited

/-! ## Values -/

/-- What a name stands for. -/
inductive Value
  /-- A plain value without parts that is no string. -/
  | constant (value : Datum)
  | string (quotation : Quotation)
  /-- Bytes by their codes; some of them can be changed. -/
  | bytes (isChangeable : Bool) (codes : List Nat)
  | complex (value : Complex)
  | ellipsis
  | classValue (value : ClassValue)
  | typeVariable (binder : TypeVariable)
  /-- A new type: its place among the new types, its module and its name. -/
  | newType (index : Nat) (moduleName name : String)
  /-- A qualifier without an argument. -/
  | qualifier (qualifier : Qualifier)
  /-- A generic alias without arguments. -/
  | bareAlias (word : TypingAlias)
  | reference (reference : Reference)
  /-- A class that takes any arguments, applied to some. -/
  | builtinOf (origin : ClassValue) (arguments : List Value)
  /-- A generic class applied to arguments. -/
  | templateOf (origin : ClassValue) (arguments : List Value)
  /-- A generic alias applied to arguments. -/
  | aliasOf (word : TypingAlias) (arguments : List Value)
  /-- A qualifier applied to its argument. -/
  | qualified (qualifier : Qualifier) (argument : Value)
  /-- Two or more alternatives in the form of `typing`. -/
  | union (members : List Value)
  /-- Two or more alternatives with bars between them. -/
  | alternatives (members : List Value)
  | literal (values : List Datum)
  | callable (arguments : List Value) (result : Value)
  | annotated (inner : Value) (notes : List String)
  | function (reference : FunctionRef)
  /-- A wrapped function; the wrapper may be marked as an event itself. -/
  | wrapped (wrapper : Wrapper) (isMarked : Bool) (inner : Value)
  /-- A function that is read from what it is bound to. -/
  | bound (inner : Value)
  /-- A member of an enumeration, with its name if it has one, the value that it was given, and the
  value of a plain class that it is itself, if it is one. -/
  | member (owner : ClassRef) (name : Option String) (value : Value) (held : Option Value)
  /-- An instance of a class: its place among the instances, the value of a plain class that it is
  itself, if it is one, its displayed form, if it has one of its own, and its attributes. -/
  | instanceOf (owner : ClassValue) (place : Nat) (held : Option Value) (shown : Option String)
    (attributes : List (String × Value))
  | tuple (items : List Value)
  | list (items : List Value)
  | set (isFrozen : Bool) (items : List Value)
  /-- Values under keys in order. -/
  | dictionary (entries : List (Value × Value))
  | range (start stop step : Int)
  /-- The ends and the step of a part of a sequence. -/
  | slice (start stop step : Value)
  /-- A source of items of a type, with those that are left. -/
  | iterator (typeName : String) (items : List Value)
  /-- A form of `typing` without arguments that is no qualifier. -/
  | form (name : String)
  /-- A built-in function. -/
  | builtin (name : String)
  /-- A function of a class of the standard library that is read from one of its values. -/
  | method (owner : Value) (name : String)
  /-- What a class of the standard library has under a name. -/
  | descriptor (owner : StandardClass) (name : String)
  /-- A function without a name: its place among such functions, and the values that its parameters
  have unless others are given. -/
  | closure (place : Nat) (code : Lambda) (defaults : List Value)
  /-- A value of which nothing but its type and a displayed form is known. -/
  | object (typeName text : String)
deriving Inhabited, Repr

namespace Value

/-- A class of the standard library as a value. -/
def standard (value : StandardClass) : Value := .classValue (.standard value)

/-- A class of a module as a value. -/
def user (reference : ClassRef) : Value := .classValue (.user reference)

/-- No value. -/
def nothing : Value := .constant .missing

/-- The class of `None`. -/
def noneType : Value := standard .noneType

mutual

/-- A plain value as a value. -/
def ofDatum : Datum → Value
  | .text text => .string { text }
  | .list values => .list (ofData values)
  | .record entries => .dictionary (ofEntries entries)
  | datum => .constant datum

/-- Plain values as values. -/
def ofData : List Datum → List Value
  | [] => []
  | datum :: rest => ofDatum datum :: ofData rest

/-- Plain values under names as values under keys. -/
def ofEntries : List (String × Datum) → List (Value × Value)
  | [] => []
  | (name, datum) :: rest => (.string { text := name }, ofDatum datum) :: ofEntries rest

end

/-- A string as a value. -/
def ofText (text : String) : Value := .string { text }

/-- A whole number as a value. -/
def ofInt (number : Int) : Value := .constant (.number number)

/-- A count as a value. -/
def ofNat (number : Nat) : Value := ofInt (Int.ofNat number)

/-- A truth value as a value. -/
def ofBool (flag : Bool) : Value := .constant (.flag flag)

/-- A number with a fraction as a value. -/
def ofFloating (number : Floating) : Value := .constant (.fraction number)

/-- The value of a plain class that a value is, which may be an instance of a class that derives
from that class. -/
def plain : Value → Value
  | .member _ _ _ (some held) | .instanceOf _ _ (some held) _ _ => held
  | value => value

/-- The plain value without parts that a value is. -/
def datum? (value : Value) : Option Datum :=
  match value.plain with
  | .constant datum => some datum
  | .string quotation => some (.text quotation.text)
  | _ => none

/-- The string that a value is. -/
def quotation? (value : Value) : Option Quotation :=
  match value.plain with
  | .string quotation => some quotation
  | _ => none

/-- The whole number that a value is. -/
def whole? (value : Value) : Option Int :=
  match value.datum? with
  | some (.number number) => some number
  | some (.flag flag) => some (if flag then 1 else 0)
  | _ => none

/-- The types of what shows the keys or the entries of a dictionary, which is like a set. -/
def keyViews : List String := ["dict_keys", "dict_items"]

/-- Whether a value is the class of `None`. -/
def isNoneType : Value → Bool
  | .classValue (.standard .noneType) => true
  | _ => false

/-- The values that a construction is made of. -/
def parts : Value → List Value
  | .builtinOf _ arguments | .templateOf _ arguments | .aliasOf _ arguments => arguments
  | .qualified _ argument => [argument]
  | .union members | .alternatives members => members
  | .literal values => values.map ofDatum
  | .callable arguments result => arguments ++ [result]
  | .annotated inner notes => inner :: notes.map ofText
  | _ => []

end Value

end ServiceStubs.Source
