import ServiceStubs.Source.Method.Text
import ServiceStubs.Source.Operators

/-!
# Functions of collections

The functions that lists, tuples, ranges, dictionaries and sets have. A value is never changed: a
function that would change its collection gives what it would give, and the collection stays as it
is.
-/

namespace ServiceStubs.Source

namespace Value

section

variable (module : Module) (memory : Memory)

/-! ## Sequences -/

/-- The first place between two ends at which a value stands among some items. -/
def placeAmong (items : List Value) (value : Value) (start stop : Option Value) :
    Except Fault (Option Nat) := do
  let given (argument : Option Value) (other : Int) : Except Fault Int :=
    match argument with
    | none => .ok other
    | some argument =>
      match argument.whole? with
      | some number => .ok number
      | none => .error (.wrongType "slice indices must be integers or have an __index__ method")
  let length := Int.ofNat items.length
  let from_ (place : Int) : Int := max 0 (if place < 0 then place + length else place)
  let first := from_ (← given start 0)
  let last := from_ (← given stop length)
  return (items.zipIdx.find? fun (item, place) =>
    first ≤ Int.ofNat place && Int.ofNat place < last &&
      Module.equal memory item value).map Prod.snd

/-- How often a value stands among some items. -/
def countAmong (items : List Value) (value : Value) : Nat :=
  items.countP fun item => Module.equal memory item value

/-- The functions of lists, tuples and ranges. -/
def sequenceMethod? (typeName name : String) (items : List Value)
    (arguments : List (Option Value)) : Option (Except Fault Value) :=
  let argument (place : Nat) : Option Value := (arguments[place]?).join
  let first := (argument 0).getD .nothing
  match name with
  | "count" => some (.ok (.ofNat (countAmong memory items first)))
  | "index" => some do
    match ← placeAmong memory items first (argument 1) (argument 2), typeName with
    | some place, _ => return .ofNat place
    | none, "tuple" => throw (.wrongValue "tuple.index(x): x not in tuple")
    | none, "range" =>
      if first.whole?.isSome then throw (.wrongValue ((← first.displayed) ++ " is not in range"))
      else throw (.wrongValue "sequence.index(x): x not in sequence")
    | none, _ => throw (.wrongValue ((← first.displayed) ++ " is not in list"))
  | "copy" => some (.ok (.list items))
  | "append" | "clear" | "reverse" | "sort" => some (.ok .nothing)
  | "insert" => some do
    discard first.integer
    return .nothing
  | "extend" => some do
    discard (module.itemsOf first)
    return .nothing
  | "pop" => some do
    let place ← integerOr (-1) (argument 0)
    if items.isEmpty then throw (.missingItem "pop from empty list")
    match itemAt? items place with
    | some item => return item
    | none => throw (.missingItem "pop index out of range")
  | "remove" => some do
    if (← placeAmong memory items first none none).isSome then return .nothing
    throw (.wrongValue "list.remove(x): x not in list")
  | _ => none

/-! ## Dictionaries -/

/-- The fault of an item that is no key with a value. -/
def entryFault (place : Nat) (length : Option Nat) : Fault :=
  match length with
  | none => .wrongType ("cannot convert dictionary update sequence element #" ++ toString place ++
      " to a sequence")
  | some length => .wrongValue ("dictionary update sequence element #" ++ toString place ++
      " has length " ++ toString length ++ "; 2 is required")

/-- The entries that a dictionary or the items of another value, which are keys with values, stand
for. -/
def entriesFrom (value : Value) : Except Fault (List (Value × Value)) := do
  match value.plain with
  | .dictionary entries => return entries
  | _ =>
    let items ← module.itemsOf value
    let entries ← items.zipIdx.mapM fun (item, place) =>
      match module.itemsOf item with
      | .ok [key, entry] => Except.ok (key, entry)
      | .ok items => .error (entryFault place (some items.length))
      | .error _ => .error (entryFault place none)
    match firstKeyFault? (entries.map Prod.fst) with
    | some fault => throw fault
    | none => return entries

/-- The key and the value of an entry as a tuple. -/
def entryTuple (entry : Value × Value) : Value := .tuple [entry.1, entry.2]

/-- The functions of dictionaries. -/
def dictionaryMethod? (name : String) (entries : List (Value × Value))
    (arguments : List (Option Value)) : Option (Except Fault Value) :=
  let argument (place : Nat) : Option Value := (arguments[place]?).join
  let key := (argument 0).getD .nothing
  let found (other : Except Fault Value) : Except Fault Value :=
    match Module.underKey memory entries key with
    | .ok value => .ok value
    | .error (.missingKey _) => other
    | .error fault => .error fault
  match name with
  | "get" | "setdefault" => some (found (.ok ((argument 1).getD .nothing)))
  | "pop" => some (match argument 1 with
      | some other => found (.ok other)
      | none => Module.underKey memory entries key)
  | "popitem" => some (match entries.getLast? with
      | some entry => .ok (entryTuple entry)
      | none => .error (.missingKey "'popitem(): dictionary is empty'"))
  | "keys" => some (.ok (.iterator "dict_keys" (entries.map Prod.fst)))
  | "values" => some (.ok (.iterator "dict_values" (entries.map Prod.snd)))
  | "items" => some (.ok (.iterator "dict_items" (entries.map entryTuple)))
  | "copy" => some (.ok (.dictionary entries))
  | "clear" => some (.ok .nothing)
  | "update" => some do
    discard ((argument 0).toList.mapM (entriesFrom module))
    return .nothing
  | _ => none

/-! ## Sets -/

/-- The items of a value, which have to be keys. -/
def keysOf (value : Value) : Except Fault (List Value) := do
  let items ← module.itemsOf value
  match firstKeyFault? items with
  | some fault => throw fault
  | none => return items

/-- The operator of a function that combines sets. -/
def setOperatorOf? : String → Option String
  | "union" | "update" => some "|"
  | "intersection" | "intersection_update" => some "&"
  | "difference" | "difference_update" => some "-"
  | "symmetric_difference" | "symmetric_difference_update" => some "^"
  | _ => none

/-- The functions of sets. -/
def setMethod? (isFrozen : Bool) (name : String) (items : List Value)
    (arguments : List (Option Value)) : Option (Except Fault Value) :=
  let isEqual := Module.equal memory
  let first := ((arguments[0]?).join).getD .nothing
  let holds (greater smaller : List Value) : Bool :=
    smaller.all fun item => greater.any (isEqual item)
  let keyed (give : Bool → Except Fault Value) : Except Fault Value :=
    match first.keyFault? with
    | some fault => .error fault
    | none => give (items.any (isEqual first))
  match setOperatorOf? name, name with
  | some operator, _ => some do
    let others ← arguments.reduceOption.mapM (keysOf module)
    if Text.endsWith "update" name then return .nothing
    let combined := others.foldl (fun items others =>
      (setOperator? isEqual operator items (setItems isEqual others)).getD items) items
    return .set isFrozen (setItems isEqual combined)
  | none, "issubset" => some ((keysOf module first).map fun others => .ofBool (holds others items))
  | none, "issuperset" =>
    some ((keysOf module first).map fun others => .ofBool (holds items others))
  | none, "isdisjoint" => some ((keysOf module first).map fun others =>
      .ofBool (!others.any fun item => items.any (isEqual item)))
  | none, "copy" => some (.ok (.set isFrozen items))
  | none, "clear" => some (.ok .nothing)
  | none, "add" | none, "discard" => some (keyed fun _ => .ok .nothing)
  | none, "remove" => some (keyed fun isItem =>
      if isItem then .ok .nothing
      else first.displayed.bind fun text => .error (.missingKey text))
  | none, "pop" => some (match items with
      | item :: _ => .ok item
      | [] => .error (.missingKey "'pop from an empty set'"))
  | none, _ => none

end

end Value

end ServiceStubs.Source
