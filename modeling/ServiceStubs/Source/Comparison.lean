import ServiceStubs.Source.Told

/-!
# Comparisons

Whether values are equal, how they are ordered, whether one is among the items of another, and
whether two are one and the same. Any two values can be compared for being equal. Numbers, texts and
bytes have an order, sequences are ordered by the first items in which they differ, and a set comes
before the sets that hold more. A class may have functions of its own for these questions; they
give nothing.
-/

namespace ServiceStubs.Source

/-! ## Operators with functions -/

/-- The names of the functions that classes have for comparisons, with those that the other operand
is asked for. -/
def comparisonFunctions : List (String × String × String) := [
  ("==", "__eq__", "__eq__"), ("!=", "__ne__", "__ne__"), ("<", "__lt__", "__gt__"),
  (">", "__gt__", "__lt__"), ("<=", "__le__", "__ge__"), (">=", "__ge__", "__le__")]

namespace Module

/-- Whether two records of one class have equal attributes. -/
def areEqualRecords : Value → Value → Option Bool
  | .instanceOf owner _ _ _ left, .instanceOf other _ _ _ right =>
    if owner.same other then
      some (Value.allEqual (fun first second => first.index = second.index)
        (left.map Prod.snd) (right.map Prod.snd))
    else none
  | _, _ => none

/-- What the function of a class gives that a value is asked with another one. -/
def askedOf? (module : Module) (value : Value) (name : String) (other : Value) :
    Option (Except Fault Value) :=
  match module.questionOf? value name with
  | some (.function found) =>
    if (module.functionAt found.index).purpose = some .equality then
      (areEqualRecords value other).map fun isEqual => .ok (.ofBool isEqual)
    else some (module.callFunction found (.ofList [value, other]))
  | _ => none

/-- What the functions of the classes of two operands give, if one of them has a function. -/
def askedOfBoth? (module : Module) (name reflected : String) (left right : Value) :
    Option (Except Fault Value) :=
  (module.askedOf? left name right).or (module.askedOf? right reflected left)

end Module

/-! ## Order -/

/-- Whether an order is the one that an operator asks for. -/
def isInOrder (operator : String) (order : Ordering) : Bool :=
  match operator with
  | "<" => order = .lt
  | ">" => order = .gt
  | "<=" => order ≠ .gt
  | _ => order ≠ .lt

/-- The fault of two values without an order. -/
def orderFault (operator : String) (left right : Value) : Fault :=
  .wrongType ("'" ++ operator ++ "' not supported between instances of '" ++ left.typeName ++
    "' and '" ++ right.typeName ++ "'")

/-- How two lists of codes are ordered. -/
def codeOrder : List Nat → List Nat → Ordering
  | [], [] => .eq
  | [], _ :: _ => .lt
  | _ :: _, [] => .gt
  | left :: lefts, right :: rights =>
    if left = right then codeOrder lefts rights else compare left right

/-- Whether two values that have no items stand in an order, if they can. -/
def atomsInOrder? (operator : String) (left right : Value) : Option Bool :=
  match left.plain, right.plain with
  | .string first, .string second =>
    some (isInOrder operator (codeOrder (first.text.toList.map Char.toNat)
      (second.text.toList.map Char.toNat)))
  | .bytes _ first, .bytes _ second => some (isInOrder operator (codeOrder first second))
  | first, second => do
    let first ← first.datum?.bind Datum.number?
    let second ← second.datum?.bind Datum.number?
    return (first.order? second).any (isInOrder operator)

section

variable (isEqual : Value → Value → Bool)

/-- Whether two sets stand in the order in which one holds the other. -/
def setsInOrder (operator : String) (left right : List Value) : Bool :=
  let holds (greater smaller : List Value) : Bool :=
    smaller.all fun item => greater.any (isEqual item)
  match operator with
  | "<" => left.length < right.length && holds right left
  | ">" => right.length < left.length && holds left right
  | "<=" => holds right left
  | _ => holds left right

/-- The items of two sequences of one type, or the ends and the steps of two slices. -/
def sequences? (left right : Value) : Option (List Value × List Value) :=
  match left.plain, right.plain with
  | .tuple first, .tuple second | .list first, .list second => some (first, second)
  | .slice start stop step, .slice otherStart otherStop otherStep =>
    some ([start, stop, step], [otherStart, otherStop, otherStep])
  | _, _ => none

/-- Whether two values stand in an order; sequences may be within each other as deep as `depth`
says. -/
def inOrder (operator : String) : Nat → Value → Value → Except Fault Bool
  | depth, left, right =>
    match atomsInOrder? operator left right, sequences? left right, depth with
    | some result, _, _ => .ok result
    | none, some (first, second), depth + 1 =>
      match (first.zip second).find? fun pair => !isEqual pair.1 pair.2 with
      | some (left, right) => inOrder operator depth left right
      | none => .ok (isInOrder operator (compare first.length second.length))
    | none, _, _ =>
      match left.setItems?, right.setItems? with
      | some first, some second => .ok (setsInOrder isEqual operator first second)
      | _, _ => .error (orderFault operator left right)

end

/-- How deep sequences are within each other at most. -/
def deepestSequence : Nat := 100

namespace Module

/-! ## Equality -/

/-- Whether two values are equal, when references are equal as they are remembered. -/
def equal (memory : Memory) (left right : Value) : Bool :=
  Value.equals memory.sameReference left right

/-! ## Membership -/

/-- Whether a text stands in another one. -/
def standsIn (part : List Nat) : List Nat → Bool
  | [] => part.isEmpty
  | code :: rest => part.isPrefixOf (code :: rest) || standsIn part rest

/-- Whether a value is among the items of another one. -/
def isAmongItems (module : Module) (memory : Memory) (item value : Value) : Except Fault Bool := do
  let among (items : List Value) : Except Fault Bool := .ok (items.any (equal memory item))
  let keyed (items : List Value) : Except Fault Bool :=
    match item.keyFault? with
    | some fault => .error fault
    | none => among items
  match module.questionOf? value "__contains__" with
  | some (.function found) => do
    module.isTrue (← module.callFunction found (.ofList [value, item]))
  | _ =>
    match value, value.plain with
    | .member owner _ given none, _ =>
      match item with
      | .member other _ flag _ =>
        if owner.isFlag && owner.index = other.index then
          let whole := flag.whole?.getD 0
          return bitwise Nat.land (given.whole?.getD 0) whole = whole
        else throw (refused owner item)
      | _ => if owner.isFlag then throw (refused owner item) else throw notIterable
    | .classValue (.user owner), _ =>
      if owner.metaclass = .enumeration then
        match item with
        | .member other _ _ _ => return owner.index = other.index
        | _ => throw (.wrongType ("unsupported operand type(s) for 'in': " ++
            Text.quoted item.typeName ++ " and 'EnumType'"))
      else throw notIterable
    | _, .string quotation =>
      match item.quotation? with
      | some part =>
        return standsIn (part.text.toList.map Char.toNat) (quotation.text.toList.map Char.toNat)
      | none => throw (.wrongType ("'in <string>' requires string as left operand, not " ++
          item.typeName))
    | _, .bytes _ codes =>
      match item.plain, item.whole? with
      | .bytes _ part, _ => return standsIn part codes
      | _, some code =>
        if 0 ≤ code && code < 256 then return codes.contains code.toNat
        else throw (.wrongValue "byte must be in range(0, 256)")
      | _, none =>
        throw (.wrongType ("a bytes-like object is required, not '" ++ item.typeName ++ "'"))
    | _, .set _ items => if item.plain matches .set _ _ then among items else keyed items
    | _, .dictionary entries => keyed (entries.map Prod.fst)
    | _, .iterator "dict_keys" items => keyed items
    | _, plain =>
      match plain.plainItems? with
      | some items => among items
      | none => throw notIterable
where
  notIterable : Fault :=
    .wrongType ("argument of type '" ++ value.typeName ++ "' is not iterable")
  refused (owner : ClassRef) (item : Value) : Fault :=
    .wrongType ("unsupported operand type(s) for 'in': " ++ Text.quoted item.typeName ++ " and " ++
      Text.quoted owner.name)

/-! ## Identity -/

/-- Whether a value that is made anew is still one and the same: there is only one of it. -/
def isUnique : Value → Bool
  | .tuple items => items.isEmpty
  | .list _ | .set _ _ | .dictionary _ | .bytes _ _ | .complex _ | .range _ _ _ | .slice _ _ _
  | .iterator _ _ | .builtinOf _ _ | .alternatives _ | .bound _ | .method _ _ | .wrapped _ _ _
  | .object _ _ | .reference _ | .instanceOf _ _ _ _ _ | .closure _ _ _ => false
  | .constant (.list _) | .constant (.record _) => false
  | _ => true

/-- Whether two values are one and the same. -/
def same (memory : Memory) (left right : Value) : Bool :=
  match left, right with
  | .constant first, .constant second => first.same second && isUnique left
  | .closure first _ _, .closure second _ _ => first = second
  | .instanceOf _ first _ _ _, .instanceOf _ second _ _ _ => first = second
  | left, right => isUnique left && left.typeName = right.typeName && equal memory left right

/-! ## Comparisons -/

/-- A comparison of two values. -/
def compared (module : Module) (memory : Memory) (operator : String) (left right : Value) :
    Except Fault Value :=
  let asked? := (comparisonFunctions.lookup operator).bind fun names =>
    module.askedOfBoth? names.1 names.2 left right
  match operator, asked? with
  | "is", _ => .ok (.ofBool (same memory left right))
  | "is not", _ => .ok (.ofBool !(same memory left right))
  | "in", _ => (module.isAmongItems memory left right).map .ofBool
  | "not in", _ => (module.isAmongItems memory left right).map fun found => .ofBool !found
  | _, some result => result
  | "==", none => .ok (.ofBool (equal memory left right))
  | "!=", none =>
    match module.askedOf? left "__eq__" right with
    | some result => result.bind fun value => (module.isTrue value).map fun found => .ofBool !found
    | none => .ok (.ofBool !(equal memory left right))
  | operator, none =>
    (inOrder (equal memory) operator deepestSequence left right).map .ofBool

/-- The operators that compare. -/
def comparisons : List String :=
  ["is", "is not", "in", "not in"] ++ comparisonFunctions.map Prod.fst

end Module

end ServiceStubs.Source
