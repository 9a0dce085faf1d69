import ServiceStubs.Source.Instances

/-!
# Functions of built-in classes

A function of a built-in class is called with a value of that class, which comes before the other
arguments or has them bound to it. The signature of the function decides on the number of arguments;
then the function of the plain value is applied.
-/

namespace ServiceStubs.Source

/-! ## Signatures -/

/-- What the functions of texts take that strings and bytes share. -/
def textSignatures : List (Signature × String) := [
  (.exactly 0, "capitalize isalnum isalpha isascii isdigit islower isspace istitle isupper " ++
    "lower swapcase title upper"),
  (.exactly 1, "join partition removeprefix removesuffix rpartition zfill"),
  (.between 0 1, "lstrip rstrip strip"),
  (.between 1 2, "center ljust rjust"),
  (.between 2 3, "replace"),
  (.search, "count endswith find index rfind rindex startswith"),
  (.named ["tabsize"] 0 1, "expandtabs"),
  (.named ["sep", "maxsplit"] 0 2, "rsplit split"),
  (.named ["keepends"] 0 1, "splitlines")]

/-- What the functions of strings alone take. -/
def stringSignatures : List (Signature × String) := [
  (.exactly 0, "casefold isdecimal isidentifier isnumeric isprintable __getnewargs__"),
  (.exactly 1, "format_map translate"),
  (.between 1 3, "maketrans"),
  (.named ["encoding", "errors"] 0 2, "encode"),
  (.any, "format")]

/-- What the functions of bytes alone take. -/
def bytesSignatures : List (Signature × String) := [
  (.exactly 0, "clear copy reverse"),
  (.exactly 1, "append extend fromhex remove"),
  (.between 0 1, "pop"),
  (.between 2 2, "insert maketrans"),
  (.named ["encoding", "errors"] 0 2, "decode"),
  (.named ["sep", "bytes_per_sep"] 0 2, "hex")]

/-- What the functions of numbers take. -/
def numberSignatures : List (Signature × String) := [
  (.exactly 0, "as_integer_ratio bit_count bit_length conjugate hex is_integer __trunc__ " ++
    "__floor__ __ceil__ __getnewargs__"),
  (.exactly 1, "fromhex"),
  (.between 0 1, "__round__"),
  (.named ["length", "byteorder", "signed"] 0 2, "to_bytes"),
  (.named ["bytes", "byteorder", "signed"] 1 2, "from_bytes")]

/-- What the functions of sequences take. -/
def sequenceSignatures : List (Signature × String) := [
  (.exactly 0, "clear copy reverse __reversed__ __getnewargs__"),
  (.exactly 1, "append count extend remove __getitem__"),
  (.between 0 1, "pop"),
  (.between 1 3, "index"),
  (.between 2 2, "insert"),
  (.named ["key", "reverse"] 0 0, "sort")]

/-- What the functions of dictionaries take. -/
def dictionarySignatures : List (Signature × String) := [
  (.exactly 0, "clear copy items keys popitem values __reversed__"),
  (.exactly 1, "__contains__ __getitem__ __class_getitem__"),
  (.between 1 2, "fromkeys get pop setdefault"),
  (.any, "update")]

/-- What the functions of sets take. -/
def setSignatures : List (Signature × String) := [
  (.exactly 0, "clear copy pop"),
  (.exactly 1, "add discard isdisjoint issubset issuperset remove symmetric_difference " ++
    "symmetric_difference_update __contains__ __class_getitem__"),
  (.any, "difference difference_update intersection intersection_update union update")]

/-- What the functions of all values and of classes take. -/
def generalSignatures : List (Signature × String) := [
  (.exactly 0, "__reduce__ __getstate__ __sizeof__ __dir__ mro __subclasses__"),
  (.exactly 1, "__format__ __reduce_ex__ __subclasshook__ __instancecheck__ __subclasscheck__ " ++
    "__class_getitem__"),
  (.any, "__init_subclass__ __prepare__ __new__")]

/-- What the functions of a class take that no class has before it. -/
def classSignatures : StandardClass → List (Signature × String)
  | .str => textSignatures ++ stringSignatures
  | .bytes | .bytearray => textSignatures ++ bytesSignatures
  | .int | .bool | .float | .complex => numberSignatures
  | .list | .tuple => sequenceSignatures
  | .named "builtins" "range" => (.exactly 1, "index") :: sequenceSignatures
  | .dict => dictionarySignatures
  | .set | .frozenset => setSignatures
  | _ => []

/-- The signature of a function of a class, if it is known. -/
def methodSignature? (owner : StandardClass) (name : String) : Option Signature :=
  ((classSignatures owner ++ generalSignatures).find? fun entry =>
    (Text.pieces ' ' entry.2).contains name).map Prod.fst

/-! ## Calls -/

/-- How values are called. -/
abbrev Calling := Value → Arguments → Evaluating Value

namespace Module

section

variable (module : Module) (calling : Calling)

/-- The function that a plain value has under a name, applied to arguments in the order of its
parameters. -/
def plainMethod? (memory : Memory) (owner : StandardClass) (name : String) (value : Value)
    (arguments : List (Option Value)) (named : List (String × Value)) :
    Option (Except Fault Value) :=
  let general? : Option (Except Fault Value) := match name with
    | "__reduce__" | "__getstate__" | "__sizeof__" | "__dir__" | "__reduce_ex__" => none
    | _ => (module.loneFunction? name value).or
        (module.questionFunction? memory name value (((arguments[0]?).join).getD .nothing))
  let own? : Option (Except Fault Value) := match value.plain, value.scalar? with
    | .string quotation, _ =>
      Value.stringMethod? module memory name quotation.text.toList arguments named
    | .bytes isChangeable codes, _ =>
      (Value.bytesMethod? module isChangeable name codes arguments).or
        (if owner = .bytearray then Value.sequenceMethod? module memory "bytearray" name
            (codes.map .ofNat) arguments
          else none)
    | .list items, _ => Value.sequenceMethod? module memory "list" name items arguments
    | .tuple items, _ => Value.sequenceMethod? module memory "tuple" name items arguments
    | .range start stop step, _ =>
      Value.sequenceMethod? module memory "range" name
        ((Value.rangeItems start stop step).map .ofInt) arguments
    | .dictionary entries, _ => Value.dictionaryMethod? module memory name entries arguments
    | .set isFrozen items, _ => Value.setMethod? module memory isFrozen name items arguments
    | _, some (.whole number) => Value.wholeMethod? module name number arguments
    | _, some (.fraction number) => Value.fractionMethod? name number
    | _, some (.complex number) =>
      if name = "conjugate" then some (.ok (.complex ⟨number.real, number.imaginary.negated⟩))
      else none
    | _, _ => none
  own?.or general?

/-- What a function of classes gives for a class. -/
def classMethod? (name : String) (owner : ClassValue) (arguments : List (Option Value)) :
    Option (Except Fault Value) :=
  let first := ((arguments[0]?).join).getD .nothing
  match name with
  | "mro" => some (.ok (.list ((module.orderOf owner).map .classValue)))
  | "__subclasses__" => some (.ok (.list []))
  | "__instancecheck__" =>
    some ((module.isInstanceOfAny first (.classValue owner)).map .ofBool)
  | "__subclasscheck__" =>
    some ((module.isSubclassOfAny first (.classValue owner)).map .ofBool)
  | "__prepare__" => some (.ok (.dictionary []))
  | "__init_subclass__" => some (.ok .nothing)
  | "__subclasshook__" => some (.ok .notImplemented)
  | "__class_getitem__" => some (.ok (.builtinOf owner (match first with
      | .tuple items => items
      | argument => [argument])))
  | "from_bytes" => some (Value.wholeFromBytes module arguments)
  | "fromhex" => some (match first.quotation?, owner with
      | none, _ => .error (.wrongType ("fromhex() argument must be str, not " ++ first.namedType))
      | some quotation, .standard .float =>
        match unsignedFraction? false quotation.text.toList with
        | some number => .ok (.ofFloating number)
        | none => .error (.wrongValue "invalid hexadecimal floating-point string")
      | some quotation, owner =>
        (Value.fromHexadecimal quotation.text.toList).map
          (.bytes (owner = .standard .bytearray)))
  | "fromkeys" => some do
    let keys ← Value.keysOf module first
    let value := ((arguments[1]?).join).getD .nothing
    return .dictionary (Value.entriesOf (equal {}) (keys.map (·, value)))
  | _ => none

/-- The first class of the standard library from which a value has a function. -/
def methodOwner (value : Value) (name : String) : StandardClass :=
  let order : ClassValue → List StandardClass := fun owner =>
    (module.orderOf owner).filterMap fun
      | .standard owner => some owner
      | .user _ => none
  let ofItself := match value with
    | .classValue owner => order owner
    | _ => []
  ((ofItself ++ order value.classOf).find? (·.hasOwn name)).getD .object

/-- A call of the function of an operator, with a value before the arguments. -/
def callOperator (owner : StandardClass) (name : String) (value : Value)
    (arguments : Arguments) : Evaluating Value := do
  let callee := owner.name ++ "." ++ name
  if name = "__call__" then return ← calling value arguments
  if name = "__init__" then return .nothing
  let given ← .ofExcept ((operatorSignature name).arranged callee name arguments)
  let other := ((given[0]?).join).getD .nothing
  let memory ← get
  let asked? := if loneFunctions.contains name then module.loneFunction? name value else
    module.questionFunction? memory name value other
  match operatorOf? name, asked? with
  | some (operator, isSwapped), _ => module.operatorFunction owner operator isSwapped value other
  | none, some result => .ofExcept result
  | none, none =>
    if ["__setattr__", "__delattr__", "__setitem__", "__delitem__", "__set__", "__delete__",
        "__del__"].contains name then return .nothing
    return .unknown name

/-- A call of a function of a built-in class, with a value of the class before the arguments. -/
def callMethod (owner : StandardClass) (name : String) (value : Value) (arguments : Arguments) :
    Evaluating Value := do
  let callee := owner.name ++ "." ++ name
  match owner.attributeKind name with
  | .slot => callOperator module calling owner name value arguments
  | .function | .classFunction | .value _ => return .unknown name
  | .method | .classMethod | .free | .computed | .kept => do
    if name = "__new__" then
      match arguments.values with
      | made :: rest => return ← calling made { arguments with values := rest }
      | [] => throw (.wrongType (owner.name ++ ".__new__(): not enough arguments"))
    match methodSignature? owner name with
    | none => return .unknown name
    | some signature => do
      let given ← .ofExcept (signature.arranged callee name arguments)
      let memory ← get
      let ofClass? := match value with
        | .classValue made => module.classMethod? name made given
        | _ => none
      match ofClass?, module.plainMethod? memory owner name value given arguments.named with
      | some result, _ | none, some result => .ofExcept result
      | none, none => return .unknown name

/-- A call of what a built-in class has under a name, with a value of the class as the first
argument. -/
def callDescriptor (owner : StandardClass) (name : String) (arguments : Arguments) :
    Evaluating Value := do
  let isSlot := owner.attributeKind name matches .slot
  match owner.attributeKind name, arguments.values with
  | .computed, _ | .kept, _ =>
    throw (.notCallable (Value.descriptor owner name).typeName)
  | .function, _ | .classFunction, _ => return .unknown name
  | .value typeName, _ => throw (.notCallable typeName)
  | .classMethod, _ | .free, _ =>
    callMethod module calling owner name (.standard owner) arguments
  | _, [] => throw (.wrongType (if isSlot then "descriptor '" ++ name ++ "' of '" ++ owner.name ++
      "' object needs an argument" else "unbound method " ++ owner.name ++ "." ++ name ++
      "() needs an argument"))
  | _, value :: rest =>
    if !module.isOf value owner then
      throw (.wrongType (if isSlot then "descriptor '" ++ name ++ "' requires a '" ++ owner.name ++
        "' object but received a '" ++ value.typeName ++ "'" else "descriptor '" ++ name ++
        "' for '" ++ owner.name ++ "' objects doesn't apply to a '" ++ value.typeName ++
        "' object"))
    callMethod module calling owner name value { arguments with values := rest }

end

end Module

end ServiceStubs.Source
