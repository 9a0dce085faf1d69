import ServiceStubs.Source.Conversion
import ServiceStubs.Source.Signature

/-!
# Functions of operators

The functions that the built-in classes have for operators and for the questions that a value can
be asked. A function of an operator has an answer only for operands of the kinds that its class
knows; for other ones it gives a value that says so.
-/

namespace ServiceStubs.Source

/-- The value that says that an operator has no meaning for its operands. -/
def Value.notImplemented : Value := .object "NotImplementedType" "NotImplemented"

/-- Whether a value says that an operator has no meaning for its operands. -/
def Value.isNotImplemented : Value → Bool
  | .object typeName _ => typeName = "NotImplementedType"
  | _ => false

/-- The operator of a function, and whether the operands change places. -/
def operatorOf? (name : String) : Option (String × Bool) :=
  match operatorFunctions.find? fun entry => entry.2.1 = name || entry.2.2 = name with
  | some (operator, direct, _) => some (operator, direct ≠ name)
  | none => (comparisonFunctions.find? fun entry => entry.2.1 = name).map fun entry =>
      (entry.1, false)

/-- The functions that take no further operand. -/
def loneFunctions : List String := [
  "__abs__", "__bool__", "__float__", "__hash__", "__index__", "__int__", "__iter__", "__len__",
  "__next__", "__repr__", "__str__", "__neg__", "__pos__", "__invert__"]

/-- What the function of an operator takes. -/
def operatorSignature (name : String) : Signature :=
  if loneFunctions.contains name then .operands 0 0
  else match name with
    | "__pow__" | "__rpow__" => .operands 1 2
    | "__setitem__" | "__setattr__" => .operands 2 2
    | "__call__" | "__init__" => .any
    | "__get__" => .operands 1 2
    | "__set__" => .operands 2 2
    | _ => .operands 1 1

namespace Value

/-- The answer to a whole number of the same size in a field of hashes. -/
def hashModulus : Nat := Nat.pow 2 61 - 1

/-- The key number of a quotient. -/
def hashOfRatio (numerator : Int) (denominator : Nat) : Int :=
  let halves := denominator.log2
  let inverse := Nat.pow 2 ((61 - halves % 61) % 61)
  let magnitude := numerator.natAbs % hashModulus * inverse % hashModulus
  let signed : Int := if numerator < 0 then -Int.ofNat magnitude else Int.ofNat magnitude
  if signed = -1 then -2 else signed

/-- The key number of a value. Of a value that is no number it is not known. -/
def hashed (value : Value) : Except Fault Value :=
  match value.keyFault?, value.scalar? with
  | some fault, _ => .error fault
  | none, some (.whole number) => .ok (.ofInt (hashOfRatio number 1))
  | none, some (.fraction number) =>
    match number, number.ratio? with
    | _, some ratio => .ok (.ofInt (hashOfRatio ratio.numerator ratio.denominator))
    | .infinite isNegative, none => .ok (.ofInt (if isNegative then -314159 else 314159))
    | _, none => .ok (.unknown "hash")
  | none, _ => .ok (.unknown "hash")

/-- The name of the type of what goes through the items of a value. -/
def iteratorName (value : Value) : String :=
  match value.plain with
  | .string quotation =>
    if quotation.text.toList.all fun character => character.toNat < 128 then "str_ascii_iterator"
    else "str_iterator"
  | .dictionary _ => "dict_keyiterator"
  | .set _ _ => "set_iterator"
  | .iterator "dict_keys" _ => "dict_keyiterator"
  | .iterator "dict_values" _ => "dict_valueiterator"
  | .iterator "dict_items" _ => "dict_itemiterator"
  | .iterator typeName _ => typeName
  | plain => plain.typeName ++ "_iterator"

/-- Whether the functions of a class for operators know a value. -/
def isOperandOf (module : Module) (owner : StandardClass) (value : Value) : Bool :=
  let isNumber (least : Nat) : Bool := match value.scalar? with
    | some (.whole _) => true
    | some (.fraction _) => 1 ≤ least
    | some (.complex _) => 2 ≤ least
    | none => false
  match owner with
  | .int | .bool => isNumber 0
  | .float => isNumber 1
  | .complex => isNumber 2
  | .set | .frozenset => (value.plain matches .set _ _)
  | .bytes | .bytearray => (value.plain matches .bytes _ _)
  | .type => value.isBarOperand
  | owner => module.isOf value owner

end Value

namespace Module

section

variable (module : Module)

/-- The function of an operator with another operand. -/
def operatorFunction (owner : StandardClass) (operator : String) (isSwapped : Bool)
    (value other : Value) : Evaluating Value := do
  let memory ← get
  let isSequence := [StandardClass.str, .bytes, .bytearray, .list, .tuple].contains owner
  match operator, isSequence with
  | "+", true =>
    .ofExcept ((value.joined? other).getD (.ok .notImplemented))
  | "*", true => .ofExcept do
    return (value.repeated? (← other.integer)).getD .notImplemented
  | "%", true =>
    if isSwapped then return .notImplemented
    .ofExcept ((module.arithmetic? memory operator value other).getD (.ok .notImplemented))
  | _, _ =>
    let isComparison := (comparisonFunctions.lookup operator).isSome
    if owner = .object || owner = .type && isComparison then
      return if ["==", "!="].contains operator && same memory value other then
        .ofBool (operator = "==") else .notImplemented
    if !other.isOperandOf module owner then return .notImplemented
    let (left, right) := if isSwapped then (other, value) else (value, other)
    if owner = .type then
      return ← tryCatch (left.bar right) fun _ => pure .notImplemented
    if isComparison then
      return ← tryCatch (.ofExcept (module.compared memory operator left right))
        fun _ => pure .notImplemented
    .ofExcept ((module.arithmetic? memory operator left right).getD (.ok .notImplemented))

/-- The magnitude of a number. -/
def magnitudeOf (value : Value) : Except Fault Value :=
  match value.scalar? with
  | some (.whole number) => .ok (.ofNat number.natAbs)
  | some (.fraction number) => .ok (.ofFloating number.magnitude)
  | some (.complex number) => .ok (.ofFloating number.magnitude)
  | none => .error (.wrongType ("bad operand type for abs(): '" ++ value.typeName ++ "'"))

/-- The next item of what goes through items. -/
def nextOf (value : Value) : Except Fault Value :=
  match value with
  | .iterator typeName items =>
    if ["dict_keys", "dict_values", "dict_items"].contains typeName then
      .error (.wrongType ("'" ++ typeName ++ "' object is not an iterator"))
    else match items with
      | item :: _ => .ok item
      | [] => .error (.raised ["StopIteration", "Exception", "BaseException"] "")
  | value => .error (.wrongType ("'" ++ value.typeName ++ "' object is not an iterator"))

/-- What goes through the items of a value. -/
def iteratorOf (value : Value) : Except Fault Value :=
  (module.itemsOf value).map (.iterator value.iteratorName)

/-- A quotient rounded down, and the rest. -/
def dividedWithRest (left right : Value) : Except Fault Value :=
  let refused : Except Fault Value := .error (Value.operatorFault "divmod()" left right)
  match left.scalar?, right.scalar? with
  | some (.complex _), _ | _, some (.complex _) => refused
  | some first, some second =>
    match Scalar.operator? "//" first second, Scalar.operator? "%" first second with
    | some quotient, some rest => do
      let quotient ← quotient.mapError fun
        | .zeroDivision text => .zeroDivision (if text = "float floor division by zero" then
            "float divmod()" else text)
        | fault => fault
      return .tuple [quotient, ← rest]
    | _, _ => refused
  | _, _ => refused

/-- A whole number rounded to tens, hundreds and so on; a half goes to the even neighbour. -/
def wholeRounded (number : Int) (places : Int) : Int :=
  if 0 ≤ places then number
  else
    let unit := Nat.pow 10 (min places.natAbs 5000)
    let quotient := Dyadic.roundedQuotient number.natAbs unit
    if number < 0 then -Int.ofNat (quotient * unit) else Int.ofNat (quotient * unit)

/-- A number with a fraction rounded to a number of decimal places. -/
def fractionRounded (number : Floating) (places : Int) : Floating :=
  match number.ratio? with
  | none => number
  | some ratio =>
    let unit := Nat.pow 10 (min places.natAbs 400)
    let magnitude := ratio.numerator.natAbs
    let rounded := if 0 ≤ places then
        ⟨Int.ofNat (Dyadic.roundedQuotient (magnitude * unit) ratio.denominator), unit⟩
      else
        ⟨Int.ofNat (Dyadic.roundedQuotient magnitude (ratio.denominator * unit) * unit), 1⟩
    (Floating.ofRatio false rounded).withSign number.isNegative

/-- A number rounded, to a number of decimal places if one is given. -/
def roundedTo (value : Value) (places : Option Value) : Except Fault Value := do
  let places := match places with
    | some (.constant .missing) => none
    | places => places
  match value.scalar?, places with
  | some (.whole number), none => return .ofInt number
  | some (.whole number), some places => return .ofInt (wholeRounded number (← places.integer))
  | some (.fraction number), none =>
    match number.ratio? with
    | some ratio => return .ofInt ratio.rounded
    | none => throw (Value.unboundedFault number "integer")
  | some (.fraction number), some places =>
    return .ofFloating (fractionRounded number (← places.integer))
  | _, _ => throw (.wrongType ("type " ++ value.typeName ++ " doesn't define __round__ method"))

/-- The functions that answer a question about a value alone. -/
def loneFunction? (name : String) (value : Value) : Option (Except Fault Value) :=
  match name with
  | "__abs__" => some (magnitudeOf value)
  | "__bool__" => some ((module.isTrue value).map .ofBool)
  | "__float__" => some ((Value.fractionFrom value).map .ofFloating)
  | "__int__" | "__index__" | "__trunc__" => some ((Value.wholeFrom value).map .ofInt)
  | "__len__" => some ((module.lengthOf value).map .ofNat)
  | "__iter__" => some (module.iteratorOf value)
  | "__next__" => some (nextOf value)
  | "__repr__" => some (value.displayed.map .ofText)
  | "__str__" => some ((module.told value).map .ofText)
  | "__hash__" => some value.hashed
  | "__neg__" => some (module.signed "-" value)
  | "__pos__" => some (module.signed "+" value)
  | "__invert__" => some (module.signed "~" value)
  | "__reversed__" => some ((module.itemsOf value).map fun items =>
      .iterator (value.plain.typeName ++ "_reverseiterator") items.reverse)
  | "__round__" => some (roundedTo value none)
  | "__floor__" => some do
    match value.scalar? with
    | some (.fraction number) =>
      match number.ratio? with
      | some ratio => return .ofInt ratio.floor
      | none => throw (Value.unboundedFault number "integer")
    | _ => return .ofInt (← Value.wholeFrom value)
  | _ => none

/-- The functions that ask a value about another one. -/
def questionFunction? (memory : Memory) (name : String) (value other : Value) :
    Option (Except Fault Value) :=
  match name with
  | "__contains__" => some ((module.isAmongItems memory other value).map .ofBool)
  | "__getitem__" => some (module.indexed memory value other)
  | "__format__" => some do
    match other.quotation? with
    | some layout => return .ofText (← module.laidOut value layout.text)
    | none => throw (.wrongType ("__format__() argument must be str, not " ++ other.namedType))
  | "__getattribute__" => some do
    match other.quotation? with
    | some attributeName => module.attributeOf attributeName.text value
    | none => throw (.wrongType ("attribute name must be string, not '" ++ other.typeName ++ "'"))
  | "__divmod__" => some (dividedWithRest value other)
  | "__rdivmod__" => some (dividedWithRest other value)
  | "__round__" => some (roundedTo value (some other))
  | _ => none

end

end Module

end ServiceStubs.Source
