import ServiceStubs.Source.Comparison
import ServiceStubs.Source.Template
import ServiceStubs.Source.Typing

/-!
# Operators

What operators between values of an expression mean. Bars make unions of types; numbers, sequences,
sets and dictionaries have their usual operators; flags are combined to flags. A class may have
functions of its own for operators, which give nothing. Everything else is a fault that names the
types of the operands.
-/

namespace ServiceStubs.Source

/-- The names of the functions that classes have for operators, with those that the right operand
is asked for. -/
def operatorFunctions : List (String × String × String) := [
  ("+", "__add__", "__radd__"), ("-", "__sub__", "__rsub__"), ("*", "__mul__", "__rmul__"),
  ("/", "__truediv__", "__rtruediv__"), ("//", "__floordiv__", "__rfloordiv__"),
  ("%", "__mod__", "__rmod__"), ("**", "__pow__", "__rpow__"),
  ("<<", "__lshift__", "__rlshift__"), (">>", "__rshift__", "__rrshift__"),
  ("&", "__and__", "__rand__"), ("|", "__or__", "__ror__"), ("^", "__xor__", "__rxor__"),
  ("@", "__matmul__", "__rmatmul__")]

/-- The names of the functions that classes have for signs. -/
def signFunctions : List (String × String) :=
  [("-", "__neg__"), ("+", "__pos__"), ("~", "__invert__")]

/-- How an operator is told in a message. -/
def operatorWord (operator : String) : String :=
  if operator = "**" then "** or pow()" else operator

namespace Value

/-! ## Sequences -/

/-- The most items of a sequence that is repeated. -/
def longestSequence : Nat := 100000

/-- Items repeated a number of times. -/
def repeated {α : Type} (items : List α) (count : Int) : List α :=
  if items.isEmpty then []
  else (List.replicate (min count.toNat (longestSequence / items.length + 1)) items).flatten

/-- A sequence repeated a number of times, if a value is one. -/
def repeated? (value : Value) (count : Int) : Option Value :=
  match value.plain with
  | .list items => some (.list (repeated items count))
  | .tuple items => some (.tuple (repeated items count))
  | .string quotation => some (.ofText (String.ofList (repeated quotation.text.toList count)))
  | .bytes isChangeable codes => some (.bytes isChangeable (repeated codes count))
  | _ => none

/-- Whether a value is a sequence that can be repeated. -/
def isSequence (value : Value) : Bool := (value.repeated? 0).isSome

/-- The word for the type of a sequence in a message. -/
def concatenationFault (left right : Value) : Fault :=
  if left.plain matches .bytes _ _ then
    .wrongType ("can't concat " ++ right.typeName ++ " to " ++ left.typeName)
  else .wrongType ("can only concatenate " ++ left.plain.typeName ++ " (not \"" ++
    right.typeName ++ "\") to " ++ left.plain.typeName)

/-- A sequence with the items of another value after its own, if a value is one. -/
def joined? (left right : Value) : Option (Except Fault Value) :=
  match left.plain, right.plain with
  | .list items, .list others => some (.ok (.list (items ++ others)))
  | .tuple items, .tuple others => some (.ok (.tuple (items ++ others)))
  | .string first, .string second => some (.ok (.ofText (first.text ++ second.text)))
  | .bytes isChangeable codes, .bytes _ others => some (.ok (.bytes isChangeable (codes ++ others)))
  | plain, _ => if plain.isSequence then some (.error (concatenationFault left right)) else none

/-- A sequence times a number, if one of two values is a sequence. -/
def multiplied? (left right : Value) : Option (Except Fault Value) :=
  let times (items other : Value) : Option (Except Fault Value) :=
    match other.whole? with
    | some count => (items.repeated? count).map .ok
    | none => some (.error (.wrongType
        ("can't multiply sequence by non-int of type '" ++ other.typeName ++ "'")))
  if left.isSequence then times left right
  else if right.isSequence then times right left
  else none

/-! ## Sets and dictionaries -/

section

variable (isEqual : Value → Value → Bool)

/-- Whether whole numbers are few and small, so that a set has them in their order. -/
def areSmall (items : List Value) : Bool :=
  let limit : Int := if items.length < 5 then 8 else 32
  items.all fun item => item.whole?.any fun number => 0 ≤ number && number < limit

/-- An item among others in the order of the numbers that they are. -/
def insertByNumber (item : Value) : List Value → List Value
  | [] => [item]
  | other :: rest =>
    if (item.whole?.getD 0) < (other.whole?.getD 0) then item :: other :: rest
    else other :: insertByNumber item rest

/-- The items of a set, of equal ones the first. -/
def setItems (items : List Value) : List Value :=
  let kept := items.foldl
    (fun kept item => if kept.any (isEqual item) then kept else kept ++ [item]) []
  if areSmall kept then kept.foldr insertByNumber [] else kept

/-- An operator between two sets, if it has a meaning for them. -/
def setOperator? (operator : String) (left right : List Value) : Option (List Value) :=
  let isIn (items : List Value) (item : Value) : Bool := items.any (isEqual item)
  match operator with
  | "|" => some (left ++ right)
  | "&" => some (left.filter (isIn right))
  | "-" => some (left.filter fun item => !isIn right item)
  | "^" => some ((left.filter fun item => !isIn right item) ++
      right.filter fun item => !isIn left item)
  | _ => none

/-- Entries with a value under a key. -/
def putUnder (key value : Value) : List (Value × Value) → List (Value × Value)
  | [] => [(key, value)]
  | entry :: rest =>
    if isEqual key entry.1 then (entry.1, value) :: rest else entry :: putUnder key value rest

/-- The dictionary of some entries; of equal keys the first one and the last value count. -/
def entriesOf (entries : List (Value × Value)) : List (Value × Value) :=
  entries.foldl (fun kept entry => putUnder isEqual entry.1 entry.2 kept) []

/-- Whether a value shows the keys or the entries of a dictionary. -/
def isKeyView : Value → Bool
  | .iterator typeName _ => keyViews.contains typeName
  | _ => false

/-- An operator between two collections with keys, if it has a meaning for them. -/
def collectionOperator? (operator : String) (left right : Value) : Option Value :=
  match left.plain, right.plain with
  | .set isFrozen first, .set _ second =>
    (setOperator? isEqual operator first second).map fun items =>
      .set isFrozen (setItems isEqual items)
  | .dictionary first, .dictionary second =>
    if operator = "|" then some (.dictionary (entriesOf isEqual (first ++ second))) else none
  | _, _ => none

end

end Value

namespace Module

/-! ## Flags -/

/-- The bits that the members of an enumeration of flags have. -/
def flagBits (module : Module) (owner : ClassRef) : Int :=
  (module.classAt owner.index).members.foldl (fun bits entry =>
    match entry.2 with
    | .member _ _ given _ => bitwise Nat.lor bits (given.whole?.getD 0)
    | _ => bits) 0

/-- The member of an enumeration that is given as a value. -/
def memberGiven? (module : Module) (owner : ClassRef) (value : Value) : Option Value :=
  ((module.classAt owner.index).members.find? fun
    | (_, .member _ _ given _) => Value.equals (fun left right => left.index = right.index) given
        value
    | _ => false).map Prod.snd

/-- The flags that a number stands for: a member, or a combination of members; other bits are left
out. -/
def flagsFor (module : Module) (owner : ClassRef) (number : Int) : Value :=
  let bits := module.flagBits owner
  let width := max bits.natAbs.log2 number.natAbs.log2 + 1
  let positive := if number < 0 then number + Int.ofNat (Nat.pow 2 width) else number
  let kept := bitwise Nat.land positive bits
  match module.memberGiven? owner (.ofInt kept) with
  | some member => member
  | none =>
    let names := (module.flagsOf owner (.ofInt kept)).filterMap fun
      | .member _ name _ _ => name
      | _ => none
    .member owner (if names.isEmpty then none else some (Text.joined "|" names)) (.ofInt kept) none

/-- An operator between two flags of one enumeration, if it has a meaning for them. -/
def flagOperator? (module : Module) (operator : String) (left right : Value) : Option Value :=
  match left, right with
  | .member owner _ first none, .member other _ second none =>
    if !owner.isFlag || owner.index ≠ other.index || !(["|", "&", "^"].contains operator) then none
    else do
      let number ← Value.whole? first
      let otherNumber ← Value.whole? second
      let combine : Nat → Nat → Nat :=
        if operator = "|" then Nat.lor else if operator = "&" then Nat.land else Nat.xor
      return module.flagsFor owner (bitwise combine number otherNumber)
  | _, _ => none

/-- An operator between two values of which one shows the keys or the entries of a dictionary, if
it has a meaning for them: both stand for the sets of their items. -/
def viewOperator? (module : Module) (memory : Memory) (operator : String) (left right : Value) :
    Option (Except Fault Value) :=
  if !(left.isKeyView || right.isKeyView) || !(["|", "&", "-", "^"].contains operator) then none
  else some do
    let first ← module.itemsOf left
    let second ← module.itemsOf right
    if let some fault := Value.firstKeyFault? (first ++ second) then throw fault
    return .set false (Value.setItems (equal memory)
      ((Value.setOperator? (equal memory) operator first second).getD []))

/-! ## Operators between two values -/

/-- An operator between two values that gives neither a truth value nor a union, if it has a
meaning for them. -/
def arithmetic? (module : Module) (memory : Memory) (operator : String) (left right : Value) :
    Option (Except Fault Value) :=
  let numbers? : Option (Except Fault Value) :=
    match left.plain.datum?, right.plain.datum?, left.scalar?, right.scalar? with
    | some (.flag first), some (.flag second), some number, some other =>
      ((Source.flagOperator? operator first second).map fun flag => .ok (.ofBool flag)).or
        (Scalar.operator? operator number other)
    | _, _, some number, some other => Scalar.operator? operator number other
    | _, _, _, _ => none
  match module.flagOperator? operator left right, numbers?,
      module.viewOperator? memory operator left right with
  | some flags, _, _ => some (.ok flags)
  | none, some result, _ | none, none, some result => some result
  | none, none, none =>
    match Value.collectionOperator? (equal memory) operator left right, operator with
    | some result, _ => some (.ok result)
    | none, "+" => left.joined? right
    | none, "*" => left.multiplied? right
    | none, "%" =>
      match left.plain with
      | .string template => some ((module.filledByMarks false template.text.toList right).map
          fun text => .ofText (String.ofList text))
      | .bytes isChangeable codes =>
        some ((module.filledByMarks true (codes.map Char.ofNat) right).map fun text =>
          .bytes isChangeable (text.map Char.toNat))
      | _ => none
    | none, _ => none

/-- An operator between two values. -/
def operated (module : Module) (operator : String) (left right : Value) : Evaluating Value := do
  let memory ← get
  if comparisons.contains operator then
    return ← .ofExcept (module.compared memory operator left right)
  let asked? := (operatorFunctions.lookup operator).bind fun names =>
    module.askedOfBoth? names.1 names.2 left right
  match asked?, module.arithmetic? memory operator left right with
  | some result, _ => .ofExcept result
  | none, some result => .ofExcept result
  | none, none =>
    if operator = "|" then left.bar right
    else throw (Value.operatorFault (operatorWord operator) left right)

/-! ## Signs -/

/-- A sign before a value. -/
def signed (module : Module) (operator : String) (operand : Value) : Except Fault Value := do
  if operator = "not" then return .ofBool !(← module.isTrue operand)
  let function? := (signFunctions.lookup operator).bind (module.questionOf? operand)
  match function?, operand.scalar?, operand with
  | some (.function found), _, _ => module.callFunction found (.ofList [operand])
  | _, some number, _ =>
    match number.signed? operator with
    | some result => return result
    | none => throw refused
  | _, none, .member owner _ given none =>
    match owner.isFlag && operator = "~", given.whole? with
    | true, some number =>
      return module.flagsFor owner (bitwise Nat.xor (module.flagBits owner) number)
    | _, _ => throw refused
  | _, none, _ => throw refused
where
  refused : Fault :=
    .wrongType ("bad operand type for unary " ++ operator ++ ": '" ++ operand.typeName ++ "'")

end Module

end ServiceStubs.Source
