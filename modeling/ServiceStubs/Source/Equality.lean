import ServiceStubs.Source.Display
import ServiceStubs.Source.Fault

/-!
# Equality of values

Values are equal when their parts are. A union is equal to any union of the same alternatives,
whatever their order and the form of the unions, and literals are compared as sets too. Whether two
references are equal depends on what is known of them, so equality is given that of references.
-/

namespace ServiceStubs.Source

/-- Whether two literals hold the same values. -/
def sameLiterals (left right : List Datum) : Bool :=
  (left.all fun value => right.any value.same) && right.all fun value => left.any value.same

namespace Value

/-- Whether each test accepts the value at its place. -/
def acceptInOrder : List (Value → Bool) → List Value → Bool
  | [], [] => true
  | test :: tests, value :: values => test value && acceptInOrder tests values
  | _, _ => false

/-- Whether each test accepts some value and each value is accepted by some test. -/
def acceptAsSets (tests : List (Value → Bool)) (values : List Value) : Bool :=
  (tests.all fun test => values.any test) && values.all fun value => tests.any (· value)

/-- The complex number that a value is, which may be a number of any type. -/
def complex? (value : Value) : Option Complex :=
  match value.plain with
  | .complex value => some value
  | value => value.datum?.bind Datum.number? |>.map fun
    | .whole number => .ofFloating (.ofInt number)
    | .fraction number => .ofFloating number

/-- How many numbers a range holds. -/
def rangeLength (start stop step : Int) : Nat :=
  if 0 < step then ((stop - start + step - 1).fdiv step).toNat
  else if step < 0 then ((start - stop - step - 1).fdiv (-step)).toNat
  else 0

/-- Whether two ranges hold the same numbers. -/
def sameRanges (start stop step otherStart otherStop otherStep : Int) : Bool :=
  let length := rangeLength start stop step
  length = rangeLength otherStart otherStop otherStep &&
    (length = 0 || start = otherStart && (length = 1 || step = otherStep))

/-- The items of a set or of a value that is like one. -/
def setItems? (value : Value) : Option (List Value) :=
  match value.plain with
  | .set _ items => some items
  | .iterator typeName items => if keyViews.contains typeName then some items else none
  | _ => none

/-- Whether the tests of each entry accept an entry of some others. -/
def acceptEntries (tests : List ((Value → Bool) × (Value → Bool)))
    (entries : List (Value × Value)) : Bool :=
  tests.all fun test => entries.any fun entry => test.1 entry.1 && test.2 entry.2

/-- Whether two values that have no parts and are no constructions are equal. -/
def sameAtoms (sameReference : Reference → Reference → Bool) (left right : Value) : Bool :=
  match left.datum?, right.datum? with
  | some first, some second => first.equals second
  | some _, none | none, some _ =>
    match left.complex?, right.complex? with
    | some first, some second => first.equals second
    | _, _ => false
  | none, none =>
    match left, right with
    | .ellipsis, .ellipsis => true
    | .bytes _ first, .bytes _ second => first == second
    | .complex first, .complex second => first.equals second
    | .range start stop step, .range otherStart otherStop otherStep =>
      sameRanges start stop step otherStart otherStop otherStep
    | .instanceOf _ first _ _ _, .instanceOf _ second _ _ _ => first = second
    | .form first, .form second => first = second
    | .builtin first, .builtin second => first = second
    | .descriptor owner first, .descriptor other second => owner = other && first = second
    | .closure first _ _, .closure second _ _ => first = second
    | .classValue first, .classValue second => first.same second
    | .typeVariable first, .typeVariable second => first.index = second.index
    | .newType first _ _, .newType second _ _ => first = second
    | .qualifier first, .qualifier second => first = second
    | .bareAlias first, .bareAlias second => first = second
    | .reference first, .reference second => sameReference first second
    | .literal first, .literal second => sameLiterals first second
    | .function first, .function second => first.index = second.index
    | .member first name _ _, .member second other _ _ =>
      first.index = second.index && name = other
    | .object typeName first, .object other second => typeName = other && first = second
    | _, _ => false

section

variable (sameReference : Reference → Reference → Bool)

mutual

/-- Whether a value is equal to another one. -/
def equals : Value → Value → Bool
  | .builtinOf left arguments => fun
    | .builtinOf right others => left.same right && acceptInOrder (equalities arguments) others
    | _ => false
  | .templateOf left arguments => fun
    | .templateOf right others => left.same right && acceptInOrder (equalities arguments) others
    | _ => false
  | .aliasOf left arguments => fun
    | .aliasOf right others => left == right && acceptInOrder (equalities arguments) others
    | _ => false
  | .qualified left argument => fun
    | .qualified right other => left == right && equals argument other
    | _ => false
  | .union members => fun
    | .union others | .alternatives others => acceptAsSets (equalities members) others
    | _ => false
  | .alternatives members => fun
    | .union others | .alternatives others => acceptAsSets (equalities members) others
    | _ => false
  | .callable arguments result => fun
    | .callable others other => acceptInOrder (equalities arguments) others && equals result other
    | _ => false
  | .annotated inner notes => fun
    | .annotated other otherNotes => equals inner other && notes == otherNotes
    | _ => false
  | .wrapped wrapper isMarked inner => fun
    | .wrapped other isOtherMarked otherInner =>
      wrapper == other && isMarked == isOtherMarked && equals inner otherInner
    | _ => false
  | .bound inner => fun
    | .bound other => equals inner other
    | _ => false
  | .tuple items => fun other => match other.plain with
    | .tuple others => acceptInOrder (equalities items) others
    | _ => false
  | .list items => fun other => match other.plain with
    | .list others => acceptInOrder (equalities items) others
    | _ => false
  | .set _ items => fun other => match other.setItems? with
    | some others => items.length == others.length && acceptAsSets (equalities items) others
    | none => false
  | .iterator typeName items => fun other => match other.setItems? with
    | some others => keyViews.contains typeName && items.length == others.length &&
        acceptAsSets (equalities items) others
    | none => false
  | .dictionary entries => fun other => match other.plain with
    | .dictionary others => entries.length == others.length && acceptEntries
        (entryEqualities entries) others
    | _ => false
  | .slice start stop step => fun
    | .slice otherStart otherStop otherStep =>
      equals start otherStart && equals stop otherStop && equals step otherStep
    | _ => false
  | .method owner name => fun
    | .method other otherName => name == otherName && equals owner other
    | _ => false
  | .instanceOf owner place (some held) shown attributes => fun other =>
    equals held other.plain || sameAtoms sameReference
      (.instanceOf owner place none shown attributes) other
  | .member owner name value (some held) => fun other =>
    equals held other.plain || sameAtoms sameReference (.member owner name value none) other
  | left => fun right => sameAtoms sameReference left right.plain

/-- The equalities to several values. -/
def equalities : List Value → List (Value → Bool)
  | [] => []
  | value :: rest => equals value :: equalities rest

/-- The equalities to keys and to the values under them. -/
def entryEqualities : List (Value × Value) → List ((Value → Bool) × (Value → Bool))
  | [] => []
  | (key, value) :: rest => (equals key, equals value) :: entryEqualities rest

end

/-- Whether two lists hold equal values in the same order. -/
def allEqual (left right : List Value) : Bool := acceptInOrder (equalities sameReference left) right

/-- Values in order, of equal ones the first. -/
def withoutRepetitions (values : List Value) : List Value :=
  values.foldl
    (fun kept value => if kept.any fun earlier => equals sameReference earlier value then kept
      else kept ++ [value]) []

end

/-! ## Keys -/

/-- Literals in order, of equal ones the first. If one of them is no key, all are kept. -/
def literalsWithoutRepetitions (values : List Datum) : List Datum :=
  if values.all isKeyDatum then
    values.foldl (fun kept value => if kept.any (·.same value) then kept else kept ++ [value]) []
  else values
where
  isKeyDatum : Datum → Bool
    | .list _ | .record _ => false
    | _ => true

/-- What is wrong with a plain value as a key, if anything is. -/
def keyDatumFault? : Datum → Option Fault
  | .list _ => some (.notKey "list")
  | .record _ => some (.notKey "dict")
  | _ => none

/-- The types of which nothing but a displayed form is known whose values are no keys. -/
def changeableTypes : List String := ["dict", "mappingproxy", "collections.deque"]

mutual

/-- What keeps a value from being a key, if anything does. -/
def keyFault? : Value → Option Fault
  | .list _ => some (.notKey "list")
  | .set isFrozen _ => if isFrozen then none else some (.notKey "set")
  | .dictionary _ => some (.notKey "dict")
  | .bytes isChangeable _ => if isChangeable then some (.notKey "bytearray") else none
  | .slice _ _ _ => some (.notKey "slice")
  | .iterator typeName _ => if keyViews.contains typeName then some (.notKey typeName) else none
  | .object typeName _ =>
    if changeableTypes.contains typeName then some (.notKey typeName) else none
  | .member owner _ _ _ | .instanceOf (.user owner) _ none _ _ => owner.keyFlaw
  | .instanceOf (.user owner) _ (some held) _ _ =>
    owner.keyFlaw.or held.keyFault?
  | .instanceOf _ _ (some held) _ _ => held.keyFault?
  | .builtinOf _ arguments | .templateOf _ arguments | .aliasOf _ arguments
  | .union arguments | .alternatives arguments | .tuple arguments => firstKeyFault? arguments
  | .qualified _ argument => argument.keyFault?
  | .callable arguments result => (firstKeyFault? arguments).or result.keyFault?
  | .annotated inner _ => inner.keyFault?
  | .literal values => values.findSome? keyDatumFault?
  | _ => none

/-- What keeps the first value that is no key from being one, if there is such a value. -/
def firstKeyFault? : List Value → Option Fault
  | [] => none
  | value :: rest => value.keyFault?.or (firstKeyFault? rest)

end

end Value

end ServiceStubs.Source
