import ServiceStubs.Source.StandardAttributes
import ServiceStubs.Source.Value
import ServiceStubs.Text.Quoted

/-!
# Displayed forms of values

A value that stands alone shows what kind of thing it is: a class is told as a class. As part of a
construction it is shorter: classes and functions are named there, and how they are named depends
on the construction. A form of `typing` names a function alone; brackets after a class, and bars
between classes, name its module too; and between bars the class of `None` is written as its value.
-/

namespace ServiceStubs.Source

/-- The form of a class that stands alone. -/
def ClassValue.display : ClassValue → String
  | .standard .any => "typing.Any"
  | .standard .flag => "<flag 'Flag'>"
  | .standard value =>
    if [.enum, .reprEnum, .intEnum, .strEnum].contains value then
      "<enum " ++ Text.quoted value.name ++ ">"
    else if value.moduleName = "builtins" then "<class '" ++ value.name ++ "'>"
    else "<class '" ++ (ClassValue.standard value).identity ++ "'>"
  | .user reference =>
    if reference.metaclass = .enumeration then
      (if reference.isFlag then "<flag " else "<enum ") ++ Text.quoted reference.name ++ ">"
    else if reference.moduleName = "builtins" then "<class '" ++ reference.name ++ "'>"
    else "<class '" ++ (ClassValue.user reference).identity ++ "'>"

/-- The form of a class inside other forms: the module is left out for the classes that need no
import. -/
def ClassValue.text (value : ClassValue) : String :=
  if value.moduleName = "builtins" then value.qualifiedName else value.identity

/-- A function with its module. -/
def FunctionRef.identity (reference : FunctionRef) : String :=
  if reference.moduleName = "builtins" then reference.qualifiedName
  else reference.moduleName ++ "." ++ reference.qualifiedName

/-- The constructions that values are parts of. -/
inductive Enclosure
  /-- A form of `typing`. -/
  | form
  /-- Brackets after a class that takes any arguments. -/
  | brackets
  /-- Bars between classes. -/
  | bars
deriving DecidableEq, Repr

namespace Value

/-- The form of a value inside a construction, if it is not the form that it has alone. -/
def shortText? (enclosure : Enclosure) : Value → Option String
  | .ellipsis => if enclosure = .bars then some "Ellipsis" else some "..."
  | .classValue value =>
    if enclosure = .bars && value = .standard .noneType then some "None" else some value.text
  | .function found => if enclosure = .form then some found.name else some found.identity
  | .wrapped .static _ (.function found) | .wrapped .classBound _ (.function found)
  | .bound (.function found) => if enclosure = .form then none else some found.identity
  | .builtin name =>
    if enclosure = .form then some ("<built-in function " ++ name ++ ">") else some name
  | .closure _ _ _ => if enclosure = .form then some "<lambda>" else none
  | _ => none

/-- The text between the brackets of an application. -/
def argumentsText (texts : List String) : String :=
  if texts.isEmpty then "()" else Text.commaJoined texts

/-- The form of a set. -/
def setText (isFrozen : Bool) (items : List String) : String :=
  if items.isEmpty then (if isFrozen then "frozenset()" else "set()")
  else
    let text := "\x7b" ++ Text.commaJoined items ++ "\x7d"
    if isFrozen then "frozenset(" ++ text ++ ")" else text

/-- The form of what a class of the standard library has under a name. -/
def descriptorText (owner : StandardClass) (name : String) : String :=
  let ending := " '" ++ name ++ "' of '" ++ owner.fullName ++ "' objects>"
  match owner.attributeKind name with
  | .slot => "<slot wrapper" ++ ending
  | .method => "<method" ++ ending
  | .computed => "<attribute" ++ ending
  | .kept => "<member" ++ ending
  | .function => "<function " ++ owner.name ++ "." ++ name ++ ">"
  | .value "NoneType" => "None"
  | _ => "<built-in method " ++ name ++ " of type object>"

/-- The form of what stands before the name of a member. -/
def memberOpening (owner : ClassRef) : Option String → String
  | some name => owner.name ++ "." ++ name
  | none => owner.name

/-- The form of a reference. -/
def referenceText (found : Reference) : String :=
  "ForwardRef(" ++ found.shown.getD (Text.quoted found.quotation.text) ++
    found.moduleName.elim "" (fun moduleName => ", module=" ++ Text.quoted moduleName) ++ ")"

/-- The short form of a value inside a construction, or else the given one. -/
def shortOr (enclosure : Enclosure) (value : Value) (display : String) : String :=
  (value.shortText? enclosure).getD display

mutual

/-- The form of a value that stands alone. -/
def display : Value → String
  | .constant datum => datum.display
  | .string quotation => Text.quoted quotation.text
  | .bytes isChangeable codes =>
    if isChangeable then "bytearray(" ++ Text.quotedBytes codes ++ ")" else Text.quotedBytes codes
  | .complex value => value.display
  | .ellipsis => "Ellipsis"
  | .classValue value => value.display
  | .typeVariable binder => "~" ++ binder.name
  | .newType _ moduleName name => moduleName ++ "." ++ name
  | .qualifier word => word.text
  | .bareAlias word => word.text
  | .reference found => referenceText found
  | .builtinOf origin arguments =>
    origin.text ++ "[" ++ argumentsText (texts .brackets arguments) ++ "]"
  | .templateOf origin arguments =>
    origin.text ++ "[" ++ argumentsText (texts .form arguments) ++ "]"
  | .aliasOf word arguments => word.text ++ "[" ++ argumentsText (texts .form arguments) ++ "]"
  | .qualified word argument =>
    word.text ++ "[" ++ shortOr .form argument argument.display ++ "]"
  | .union [first, second] =>
    let firstText := shortOr .form first first.display
    let secondText := shortOr .form second second.display
    if first.isNoneType then "typing.Optional[" ++ secondText ++ "]"
    else if second.isNoneType then "typing.Optional[" ++ firstText ++ "]"
    else "typing.Union[" ++ firstText ++ ", " ++ secondText ++ "]"
  | .union members => "typing.Union[" ++ Text.commaJoined (texts .form members) ++ "]"
  | .alternatives members => Text.joined " | " (texts .bars members)
  | .literal values => "typing.Literal[" ++ argumentsText (values.map Datum.display) ++ "]"
  | .callable [.ellipsis] result =>
    "typing.Callable[..., " ++ shortOr .form result result.display ++ "]"
  | .callable arguments result =>
    "typing.Callable[[" ++ Text.commaJoined (texts .form arguments) ++ "], " ++
      shortOr .form result result.display ++ "]"
  | .annotated inner notes =>
    "typing.Annotated[" ++
      Text.commaJoined (shortOr .form inner inner.display :: notes.map Text.quoted) ++ "]"
  | .function found => "<function " ++ found.qualifiedName ++ ">"
  | .wrapped .static _ inner => "<staticmethod(" ++ inner.display ++ ")>"
  | .wrapped .classBound _ inner => "<classmethod(" ++ inner.display ++ ")>"
  | .wrapped _ _ inner => "<wrapped " ++ inner.display ++ ">"
  | .bound inner => "<bound " ++ inner.display ++ ">"
  | .member owner name value _ => "<" ++ memberOpening owner name ++ ": " ++ value.display ++ ">"
  | .instanceOf owner _ held shown _ =>
    match shown, held with
    | some text, _ => text
    | none, some value => value.display
    | none, none => "<" ++ owner.identity ++ " object>"
  | .tuple [item] => "(" ++ item.display ++ ",)"
  | .tuple items => "(" ++ Text.commaJoined (displays items) ++ ")"
  | .list items => "[" ++ Text.commaJoined (displays items) ++ "]"
  | .set isFrozen items => setText isFrozen (displays items)
  | .dictionary entries => "\x7b" ++ Text.commaJoined (displaysOfEntries entries) ++ "\x7d"
  | .range start stop step =>
    "range(" ++ toString start ++ ", " ++ toString stop ++
      (if step = 1 then "" else ", " ++ toString step) ++ ")"
  | .slice start stop step =>
    "slice(" ++ start.display ++ ", " ++ stop.display ++ ", " ++ step.display ++ ")"
  | .iterator typeName items =>
    if typeName = "dict_values" || keyViews.contains typeName then
      typeName ++ "([" ++ Text.commaJoined (displays items) ++ "])"
    else "<" ++ typeName ++ " object>"
  | .form name => "typing." ++ name
  | .builtin name => "<built-in function " ++ name ++ ">"
  | .method _ name => "<built-in method " ++ name ++ ">"
  | .descriptor owner name => descriptorText owner name
  | .closure _ _ _ => "<function <lambda>>"
  | .object _ text => text

/-- The forms of several values inside a construction. -/
def texts (enclosure : Enclosure) : List Value → List String
  | [] => []
  | value :: rest => shortOr enclosure value value.display :: texts enclosure rest

/-- The forms of several values that stand alone. -/
def displays : List Value → List String
  | [] => []
  | value :: rest => value.display :: displays rest

/-- The forms of values under keys. -/
def displaysOfEntries : List (Value × Value) → List String
  | [] => []
  | (key, value) :: rest => (key.display ++ ": " ++ value.display) :: displaysOfEntries rest

end

/-- The form of a value inside a construction. -/
def text (enclosure : Enclosure) (value : Value) : String :=
  shortOr enclosure value value.display

/-! ## Types of values -/

/-- The word for the type of a class. -/
def metaclassWord : Metaclass → String
  | .plain => "type"
  | .abstract => "ABCMeta"
  | .protocol => "_ProtocolMeta"
  | .enumeration => "EnumType"
  | .typedDict => "_TypedDictMeta"
  | .namedTuple => "NamedTupleMeta"
  | .any => "_AnyMeta"

/-- The type of a class of the standard library. -/
def standardMetaclass : StandardClass → Metaclass
  | .sequence | .mutableSequence | .mapping | .collection | .reversible | .iterable | .sized
  | .container | .callable | .abstractBase => .abstract
  | .protocol => .protocol
  | .enum | .reprEnum | .intEnum | .strEnum | .flag => .enumeration
  | .any => .any
  | .named "typing" "_TypedDict" => .typedDict
  | .named "typing" "_NamedTuple" => .namedTuple
  | value =>
    if value.order.contains .enum then .enumeration
    else if value.order.contains .protocol then .protocol
    else if value.order.any fun ancestor => isAbstract ancestor then .abstract
    else .plain
where
  isAbstract : StandardClass → Bool
    | .abstractBase => true
    | .named "collections.abc" name => name ≠ "_CallableGenericAlias"
    | value => value.moduleName = "collections.abc"

end Value

/-- The type of a class. -/
def ClassValue.metaclass : ClassValue → Metaclass
  | .standard value => Value.standardMetaclass value
  | .user reference => reference.metaclass

/-- The word for the type of a value. -/
def Value.typeName : Value → String
  | .constant datum => datum.typeName
  | .string _ => "str"
  | .bytes isChangeable _ => if isChangeable then "bytearray" else "bytes"
  | .complex _ => "complex"
  | .ellipsis => "ellipsis"
  | .classValue value => metaclassWord value.metaclass
  | .typeVariable _ => "TypeVar"
  | .newType _ _ _ => "NewType"
  | .qualifier _ => "_SpecialForm"
  | .bareAlias .tuple => "_TupleType"
  | .bareAlias (.further "Callable") => "_CallableType"
  | .bareAlias _ => "_SpecialGenericAlias"
  | .reference _ => "ForwardRef"
  | .builtinOf _ _ => "types.GenericAlias"
  | .templateOf _ _ | .aliasOf _ _ | .qualified _ _ => "_GenericAlias"
  | .union _ => "_UnionGenericAlias"
  | .alternatives _ => "types.UnionType"
  | .literal _ => "_LiteralGenericAlias"
  | .callable _ _ => "_CallableGenericAlias"
  | .annotated _ _ => "_AnnotatedAlias"
  | .function _ => "function"
  | .wrapped .static _ _ => "staticmethod"
  | .wrapped .classBound _ _ => "classmethod"
  | .wrapped .property _ _ => "property"
  | .wrapped (.cached _) _ _ => "cached_property"
  | .bound _ => "method"
  | .member owner _ _ _ => owner.name
  | .instanceOf owner _ _ _ _ => owner.fullName
  | .tuple _ => "tuple"
  | .list _ => "list"
  | .set isFrozen _ => if isFrozen then "frozenset" else "set"
  | .dictionary _ => "dict"
  | .range _ _ _ => "range"
  | .slice _ _ _ => "slice"
  | .iterator typeName _ => typeName
  | .form _ => "_SpecialForm"
  | .builtin _ => "builtin_function_or_method"
  | .method owner name =>
    if isSlotOf owner name then "method-wrapper" else "builtin_function_or_method"
  | .descriptor owner name => (owner.attributeKind name).typeName
  | .closure _ _ _ => "function"
  | .object typeName _ => typeName
where
  isSlotOf (_ : Value) (name : String) : Bool :=
    Text.opensWith "__" name && Text.endsWith "__" name &&
      !(["__new__", "__init_subclass__", "__subclasshook__", "__class_getitem__"].contains name ||
        StandardClass.methodSlotNames.contains name)

end ServiceStubs.Source
