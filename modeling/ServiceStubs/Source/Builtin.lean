import ServiceStubs.Source.Instantiation

/-!
# Built-in functions

The functions that every module can use. Most of them ask a value what it is or make a value of it;
some call a function on each item. A value is never changed: a function that would change one gives
what it would give.
-/

namespace ServiceStubs.Source

/-- What the built-in functions take. -/
def builtinSignatures : List (Signature × String) := [
  (.exactly 0, "globals locals"),
  (.exactly 1, "abs aiter all any ascii bin callable chr hash hex id len oct ord repr"),
  (.between 0 1, "dir vars"),
  (.between 1 2, "anext format iter next"),
  (.between 1 3, "eval"),
  (.between 2 2, "delattr divmod hasattr isinstance issubclass"),
  (.between 2 3, "getattr"),
  (.between 3 3, "setattr"),
  (.named ["base", "exp", "mod"] 2 3, "pow"),
  (.named ["number", "ndigits"] 1 2, "round"),
  (.named ["name", "globals", "locals", "fromlist", "level"] 1 5, "__import__"),
  (.named ["source", "filename", "mode", "flags", "dont_inherit", "optimize"] 3 6, "compile")]

/-- The signature of a built-in function, if it is one of its own. -/
def builtinSignature (name : String) : Signature :=
  ((builtinSignatures.find? fun entry => (Text.pieces ' ' entry.2).contains name).map
    Prod.fst).getD .any

namespace Value

/-- A whole number in a base, with the mark of the base. -/
def inBase (base : Nat) (mark : String) (value : Value) : Except Fault Value := do
  let number ← value.integer
  return .ofText ((if number < 0 then "-" else "") ++ mark ++
    String.ofList (Number.inBase base number.natAbs))

/-- The character of a code. -/
def character (value : Value) : Except Fault Value := do
  let code ← value.integer
  if Nat.pow 2 31 ≤ code.natAbs then
    throw (.tooGreat "Python int too large to convert to C int")
  if code < 0 || 0x110000 ≤ code then
    throw (.wrongValue "chr() arg not in range(0x110000)")
  return .ofText (String.singleton (Char.ofNat code.toNat))

/-- The code of a character. -/
def codeOf (value : Value) : Except Fault Value :=
  let refused (length : Nat) : Except Fault Value :=
    .error (.wrongType ("ord() expected a character, but string of length " ++ toString length ++
      " found"))
  match value.plain with
  | .string quotation =>
    match quotation.text.toList with
    | [character] => .ok (.ofNat character.toNat)
    | text => refused text.length
  | .bytes _ [code] => .ok (.ofNat code)
  | .bytes _ codes => refused codes.length
  | _ => .error (.wrongType ("ord() expected string of length 1, but " ++ value.typeName ++
      " found"))

/-- A power in a field of remainders. -/
def powerModulo (base exponent modulus : Int) : Except Fault Value :=
  if modulus = 0 then .error (.wrongValue "pow() 3rd argument cannot be 0")
  else
    let size := modulus.natAbs
    let reduced := (base % Int.ofNat size).toNat
    let inverse? (number : Nat) : Option Nat :=
      (List.range (min size 10000)).find? fun candidate => number * candidate % size = 1 % size
    let power (number : Nat) : Nat := powerFrom size number (exponent.natAbs.log2 + 1)
      exponent.natAbs 1
    let signed (magnitude : Nat) : Value :=
      .ofInt (if modulus < 0 && magnitude ≠ 0 then Int.ofNat magnitude - Int.ofNat size
        else Int.ofNat magnitude)
    if 0 ≤ exponent then .ok (signed (power reduced % size))
    else match inverse? reduced with
      | some inverse => .ok (signed (power inverse % size))
      | none => .error (.wrongValue "base is not invertible for the given modulus")
where
  powerFrom (size base : Nat) : Nat → Nat → Nat → Nat
    | 0, _, result => result
    | tries + 1, exponent, result =>
      powerFrom size (base * base % size) tries (exponent / 2)
        (if exponent % 2 = 1 then result * base % size else result)

end Value

namespace Module

section

variable (module : Module)

/-! ## Attributes -/

/-- The name of an attribute. -/
def attributeName (value : Value) : Except Fault String :=
  match value.quotation? with
  | some quotation => .ok quotation.text
  | none => .error (.wrongType ("attribute name must be string, not '" ++ value.typeName ++ "'"))

/-- The attribute of a value, or another value if it has none. -/
def attributeOr (value name : Value) (other : Option Value) : Except Fault Value := do
  let name ← attributeName name
  match module.attributeOf name value, other with
  | .error fault, some other => if fault.kind = "AttributeError" then return other else throw fault
  | result, _ => result

/-- Whether a value has an attribute. -/
def hasAttribute (value name : Value) : Except Fault Value := do
  let name ← attributeName name
  match module.attributeOf name value with
  | .ok _ => return .ofBool true
  | .error fault => if fault.kind = "AttributeError" then return .ofBool false else throw fault

/-! ## Functions of one value -/

/-- The built-in functions that need nothing but their arguments. -/
def pureBuiltin? (name : String) (arguments : List (Option Value)) :
    Option (Except Fault Value) :=
  let argument (place : Nat) : Option Value := (arguments[place]?).join
  let first := (argument 0).getD .nothing
  let second := (argument 1).getD .nothing
  match name with
  | "abs" =>
    some (match module.questionOf? first "__abs__" with
      | some (.function found) => module.callFunction found (.ofList [first])
      | _ => magnitudeOf first)
  | "ascii" => some (module.converted first (some 'a'))
  | "repr" => some (first.displayed.map .ofText)
  | "bin" => some (first.inBase 2 "0b")
  | "oct" => some (first.inBase 8 "0o")
  | "hex" => some (first.inBase 16 "0x")
  | "callable" => some (.ok (.ofBool (module.isCallable first)))
  | "chr" => some first.character
  | "ord" => some first.codeOf
  | "hash" => some first.hashed
  | "id" => some (.ok (.ofInt 140000000000000))
  | "len" => some ((module.lengthOf first).map .ofNat)
  | "divmod" => some (dividedWithRest first second)
  | "round" => some (roundedTo first (argument 1))
  | "format" =>
    some (match argument 1, second.quotation? with
      | none, _ => (module.laidOut first "").map .ofText
      | some _, some layout => (module.laidOut first layout.text).map .ofText
      | some _, none =>
        .error (.wrongType ("format() argument 2 must be str, not " ++ second.namedType)))
  | "isinstance" => some ((module.isInstanceOfAny first second).map .ofBool)
  | "issubclass" => some ((module.isSubclassOfAny first second).map .ofBool)
  | "getattr" => some (module.attributeOr first second (argument 2))
  | "hasattr" => some (module.hasAttribute first second)
  | "setattr" | "delattr" => some do
    let name ← attributeName second
    match first with
    | .classValue (.user _) | .function _ | .instanceOf (.user _) _ _ _ _ => return .nothing
    | .classValue (.standard owner) => throw (.wrongType ("cannot set " ++ Text.quoted name ++
        " attribute of immutable type '" ++ owner.fullName ++ "'"))
    | value => throw (.missingValueAttribute value.typeName name)
  | "iter" =>
    some (match argument 1 with
      | some _ => if module.isCallable first then .ok (.iterator "callable_iterator" [])
        else .error (.wrongType "iter(v, w): v must be callable")
      | none => module.iteratorOf first)
  | "next" =>
    some (match nextOf first, argument 1 with
      | .error (.raised _ _), some other => .ok other
      | result, _ => result)
  | "aiter" => some (.error (.wrongType ("'" ++ first.typeName ++
      "' object is not an async iterable")))
  | "anext" => some (.error (.wrongType ("'" ++ first.typeName ++
      "' object is not an async iterator")))
  | "pow" =>
    some (match argument 2, first.whole?, second.whole?, (argument 2).bind Value.whole? with
      | some _, some base, some exponent, some modulus =>
        Value.powerModulo base exponent modulus
      | none, _, _, _ | some (.constant .missing), _, _, _ =>
        (module.arithmetic? {} "**" first second).getD
          (.error (Value.operatorFault (operatorWord "**") first second))
      | some third, _, _, _ =>
        .error (.wrongType ("unsupported operand type(s) for ** or pow(): '" ++
          first.typeName ++ "', '" ++ second.typeName ++ "', '" ++ third.typeName ++ "'")))
  | "vars" =>
    some (match first with
      | .classValue _ | .instanceOf (.user _) _ _ _ _ => module.attributeOf "__dict__" first
      | _ => .error (.wrongType "vars() argument must have __dict__ attribute"))
  | _ => none

/-! ## Functions of several values -/

/-- Whether all items, or any of them, count as true. -/
def counted (wanted : Bool) : List Value → Except Fault Bool
  | [] => .ok !wanted
  | item :: rest => do
    if (← module.isTrue item) = wanted then return wanted
    counted wanted rest

variable (calling : Calling)

/-- The sum of some items after a value. -/
def summed : Value → List Value → Evaluating Value
  | total, [] => pure total
  | total, item :: rest => do
    let total ← module.operated "+" total item
    summed total rest

/-- The key by which an item is compared. -/
def keyed (key : Option Value) (item : Value) : Evaluating Value :=
  match key with
  | none | some (.constant .missing) => pure item
  | some key => calling key (.ofList [item])

/-- The item whose key comes first in the order of an operator; of equal ones the first. -/
def extreme (operator : String) (best : Value × Value) :
    List (Value × Value) → Evaluating Value
  | [] => pure best.1
  | candidate :: rest => do
    let isBetter ← module.operated operator candidate.2 best.2
    extreme operator (if ← .ofExcept (module.isTrue isBetter) then candidate else best) rest

/-- The least or the greatest of some values. -/
def extremeOf (name : String) (arguments : Arguments) : Evaluating Value := do
  let unknown? := arguments.named.find? fun entry => !(["key", "default"].contains entry.1)
  if arguments.values.isEmpty then
    throw (.wrongType (name ++ " expected at least 1 argument, got 0"))
  if let some entry := unknown? then
    throw (.wrongType (Text.quoted entry.1 ++ " is an invalid keyword argument for " ++ name ++
      "()"))
  let default? := arguments.named.lookup "default"
  let items ← match arguments.values with
    | [value] => .ofExcept (module.itemsOf value)
    | values => do
      if default?.isSome then throw (.wrongType ("Cannot specify a default for " ++ name ++
        "() with multiple positional arguments"))
      pure values
  let pairs ← items.mapM fun item => do
    return (item, ← keyed calling (arguments.named.lookup "key") item)
  match pairs, default? with
  | first :: rest, _ => module.extreme (if name = "min" then "<" else ">") first rest
  | [], some value => return value
  | [], none => throw (.wrongValue (name ++ "() arg is an empty sequence"))

/-- Put an item among sorted ones, after those that it does not come before. -/
def insertSorted (item : Value × Value) : List (Value × Value) → Evaluating (List (Value × Value))
  | [] => pure [item]
  | other :: rest => do
    let isBefore ← module.operated "<" item.2 other.2
    if ← .ofExcept (module.isTrue isBefore) then return item :: other :: rest
    return other :: (← insertSorted item rest)

/-- Items in order of their keys. -/
def sortedItems (arguments : Arguments) : Evaluating (List Value) := do
  if arguments.values.length ≠ 1 then
    throw (.wrongType ("sorted expected 1 argument, got " ++ toString arguments.values.length))
  let items ← .ofExcept (module.itemsOf (arguments.values.headD .nothing))
  if let some entry := arguments.named.find? fun entry =>
      !(["key", "reverse"].contains entry.1) then
    throw (.wrongType (Text.quoted entry.1 ++ " is an invalid keyword argument for sort()"))
  let pairs ← items.mapM fun item => do
    return (item, ← keyed calling (arguments.named.lookup "key") item)
  let isReversed ← .ofExcept
    (((arguments.named.lookup "reverse").map module.isTrue).getD (.ok false))
  let given := if isReversed then pairs.reverse else pairs
  let sorted ← given.foldlM (fun sorted item => module.insertSorted item sorted) []
  let items := sorted.map Prod.fst
  return if isReversed then items.reverse else items

/-- The sum of the items of a value. -/
def sumOf (arguments : Arguments) : Evaluating Value := do
  let given := arguments.values.length + arguments.named.length
  if 2 < given && !arguments.values.isEmpty then
    throw (.wrongType ("sum() takes at most 2 arguments (" ++ toString given ++ " given)"))
  match arguments.values with
  | [] => throw (.wrongType "sum() takes at least 1 positional argument (0 given)")
  | [items] =>
    match arguments.named.find? fun entry => entry.1 ≠ "start" with
    | some entry => throw (.wrongType (Text.quoted entry.1 ++
        " is an invalid keyword argument for sum()"))
    | none =>
      let start := (arguments.named.lookup "start").getD (.ofInt 0)
      checked start items
  | items :: start :: _ => checked start items
where
  checked (start items : Value) : Evaluating Value := do
    let items ← .ofExcept (module.itemsOf items)
    match start.plain with
    | .string _ => throw (.wrongType "sum() can't sum strings [use ''.join(seq) instead]")
    | .bytes false _ => throw (.wrongType "sum() can't sum bytes [use b''.join(seq) instead]")
    | .bytes true _ =>
      throw (.wrongType "sum() can't sum bytearray [use b''.join(seq) instead]")
    | _ => module.summed start items

/-- Print values on a line. -/
def printed (arguments : Arguments) : Evaluating Value := do
  if let some entry := arguments.named.find? fun entry =>
      !(["sep", "end", "file", "flush"].contains entry.1) then
    throw (.wrongType (Text.quoted entry.1 ++ " is an invalid keyword argument for print()"))
  let texts ← .ofExcept (arguments.values.mapM module.told)
  let separator := match (arguments.named.lookup "sep").bind Value.quotation? with
    | some quotation => quotation.text
    | none => " "
  modify fun memory => { memory with
    printed := memory.printed ++ Text.pieces '\n' (Text.joined separator texts) }
  return .nothing

/-- The modules of the standard library that are not there when they are asked for. -/
def importedModule (name : Value) : Except Fault Value :=
  match name.quotation? with
  | none => .error (.wrongType ("__import__() argument 1 must be str, not " ++ name.typeName))
  | some quotation =>
    let first := (Text.pieces '.' quotation.text).headD ""
    if quotation.text.isEmpty then .error (.wrongValue "Empty module name")
    else if (standardClassNames.lookup first).isSome || first = "builtins" || first = "sys" ||
        first = "os" then .ok (.imported first)
    else .error (.missingModule ("No module named " ++ Text.quoted quotation.text))

/-- A call of a built-in function. -/
def callBuiltin (name : String) (arguments : Arguments) : Evaluating Value := do
  match name with
  | "min" | "max" => extremeOf module calling name arguments
  | "sorted" => return .list (← sortedItems module calling arguments)
  | "sum" => sumOf module arguments
  | "print" => printed module arguments
  | name =>
    let given ← .ofExcept ((builtinSignature name).arranged name name arguments)
    let first := ((given[0]?).join).getD .nothing
    match name with
    | "all" | "any" => do
      let items ← .ofExcept (module.itemsOf first)
      return .ofBool (← .ofExcept (module.counted (name = "any") items))
    | "__import__" => .ofExcept (importedModule first)
    | name =>
      match module.pureBuiltin? name given with
      | some result => .ofExcept result
      | none => return .unknown name

end

end Module

end ServiceStubs.Source
