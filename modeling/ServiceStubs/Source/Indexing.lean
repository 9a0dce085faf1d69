import ServiceStubs.Source.Comparison

/-!
# Items at places

What brackets after a plain value give: the item at a place of a sequence, the part of a sequence
that a slice names, or the value under a key. A negative place is counted from the end of the
sequence, and a slice may go backwards.
-/

namespace ServiceStubs.Source

namespace Value

/-! ## Places -/

/-- The greatest place that a sequence can have. -/
def greatestPlace : Int := 9223372036854775807

/-- The item at a place of some items; a negative place is counted from the end. -/
def itemAt? {α : Type} (items : List α) (place : Int) : Option α :=
  if place < 0 then
    if items.length < place.natAbs then none else items[items.length - place.natAbs]?
  else items[place.toNat]?

/-- What is said of a place that a sequence of a type does not have. -/
def placeText : String → String
  | "str" => "string index out of range"
  | "bytes" => "index out of range"
  | "range" => "range object index out of range"
  | typeName => typeName ++ " index out of range"

/-! ## Slices -/

/-- The places that a slice names: those from the first one to before the last one, with a step
between neighbours. -/
structure Span where
  first : Int
  last : Int
  step : Int
deriving Repr

/-- An end or the step of a slice as a number, if there is one. -/
def sliceEnd? (value : Value) : Except Fault (Option Int) :=
  match value, value.whole? with
  | .constant .missing, _ => .ok none
  | _, some number => .ok (some number)
  | _, none => .error
      (.wrongType "slice indices must be integers or None or have an __index__ method")

/-- The places that a slice names in a sequence of a length. -/
def spanOf (length : Nat) (start stop step : Value) : Except Fault Span := do
  let step := (← sliceEnd? step).getD 1
  if step = 0 then throw (.wrongValue "slice step cannot be zero")
  let length := Int.ofNat length
  let least : Int := if step < 0 then -1 else 0
  let most := if step < 0 then length - 1 else length
  let within (place : Int) : Int :=
    max least (min most (if place < 0 then place + length else place))
  let first := (← sliceEnd? start).elim (if step < 0 then most else least) within
  let last := (← sliceEnd? stop).elim (if step < 0 then least else most) within
  return ⟨first, last, step⟩

/-- The items at the places of a slice. -/
def slicedItems {α : Type} (items : List α) (span : Span) : List α :=
  let items := items.toArray
  (rangeItems span.first span.last span.step).filterMap fun place => items[place.toNat]?

/-- The part of a sequence that a slice names, if a value is a sequence. -/
def sliced? (value start stop step : Value) : Option (Except Fault Value) :=
  let part {α : Type} (items : List α) (make : List α → Value) : Except Fault Value :=
    (spanOf items.length start stop step).map fun span => make (slicedItems items span)
  match value.plain with
  | .string quotation =>
    some (part quotation.text.toList fun characters => .ofText (String.ofList characters))
  | .bytes isChangeable codes => some (part codes (.bytes isChangeable))
  | .list items => some (part items .list)
  | .tuple items => some (part items .tuple)
  | .range start' stop' step' =>
    some ((spanOf (rangeLength start' stop' step') start stop step).map fun span =>
      .range (start' + step' * span.first) (start' + step' * span.last) (step' * span.step))
  | _ => none

/-- The items of a sequence, as what they are alone. -/
def sequenceItems? (value : Value) : Option (List Value) :=
  match value.plain with
  | .string _ | .bytes _ _ | .list _ | .tuple _ | .range _ _ _ => value.plainItems?
  | _ => none

end Value

namespace Module

/-- The value under a key of a dictionary. -/
def underKey (memory : Memory) (entries : List (Value × Value)) (key : Value) :
    Except Fault Value :=
  match key.keyFault?, entries.find? fun entry => equal memory key entry.1 with
  | some fault, _ => .error fault
  | none, some entry => .ok entry.2
  | none, none => key.displayed.bind fun text => .error (.missingKey text)

/-- What brackets after a plain value give. -/
def indexed (module : Module) (memory : Memory) (value key : Value) : Except Fault Value :=
  match module.questionOf? value "__getitem__" with
  | some (.function found) => module.callFunction found (.ofList [value, key])
  | _ =>
    let typeName := value.plain.typeName
    match value.plain, value.sequenceItems?, key.plain, key.whole? with
    | .dictionary entries, _, _, _ => underKey memory entries key
    | _, some _, .slice start stop step, _ =>
      (value.sliced? start stop step).getD (.error (.notIndexed typeName "slice"))
    | _, some items, _, some place =>
      if typeName ≠ "range" &&
          (place < -Value.greatestPlace - 1 || Value.greatestPlace < place) then
        .error (.missingItem "cannot fit 'int' into an index-sized integer")
      else match Value.itemAt? items place with
        | some item => .ok item
        | none => .error (.missingItem (Value.placeText typeName))
    | _, _, _, _ => .error (.notIndexed (if value.plain.sequenceItems?.isSome then typeName
        else value.typeName) key.typeName)

end Module

end ServiceStubs.Source
