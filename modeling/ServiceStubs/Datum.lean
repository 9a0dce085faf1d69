import ServiceStubs.Number.Floating
import ServiceStubs.Text.Quoted

/-!
# Plain values

Values that need no declaration: numbers, strings, and lists and records of them. Modules hold
them, and errors tell them. In a log a value is shown on one line, each string quoted; in a message
a string that stands alone is told as it is. Values are equal across their types: truth values are
one and zero, and a number with a fraction equals the whole number that it is.
-/

namespace ServiceStubs

/-- A plain value. -/
inductive Datum
  /-- No value. -/
  | missing
  /-- A truth value. -/
  | flag (value : Bool)
  /-- A whole number. -/
  | number (value : Int)
  /-- A number with a fraction. -/
  | fraction (value : Floating)
  /-- A string. -/
  | text (value : String)
  /-- Values in order. -/
  | list (values : List Datum)
  /-- Named values in order. -/
  | record (values : List (String × Datum))
deriving Inhabited, Repr

namespace Datum

/-! ## Displayed forms -/

mutual

/-- The displayed form of a value. -/
def display : Datum → String
  | .missing => "None"
  | .flag value => if value then "True" else "False"
  | .number value => toString value
  | .fraction value => value.display
  | .text value => Text.quoted value
  | .list values => "[" ++ Text.commaJoined (displayValues values) ++ "]"
  | .record values => "\x7b" ++ Text.commaJoined (displayEntries values) ++ "\x7d"

/-- The displayed forms of several values. -/
def displayValues : List Datum → List String
  | [] => []
  | value :: rest => value.display :: displayValues rest

/-- The displayed forms of named values, each name quoted before its value. -/
def displayEntries : List (String × Datum) → List String
  | [] => []
  | (name, value) :: rest => (Text.quoted name ++ ": " ++ value.display) :: displayEntries rest

end

/-- A value as it is told in a message. -/
def told : Datum → String
  | .text value => value
  | value => value.display

/-- The word for the type of a value. -/
def typeName : Datum → String
  | .missing => "NoneType"
  | .flag _ => "bool"
  | .number _ => "int"
  | .fraction _ => "float"
  | .text _ => "str"
  | .list _ => "list"
  | .record _ => "dict"

/-! ## Emptiness -/

/-- Whether a value says nothing. -/
def isVoid : Datum → Bool
  | .missing => true
  | .flag value => !value
  | .number value => value = 0
  | .fraction value => value.isZero
  | .text value => value.isEmpty
  | .list values => values.isEmpty
  | .record values => values.isEmpty

/-- A value, or another one in its place when it says nothing. -/
def orElse (value other : Datum) : Datum := if value.isVoid then other else value

/-- A list of strings as a value. -/
def ofTexts (texts : List String) : Datum := .list (texts.map .text)

/-! ## Equality -/

/-- A number of any type. -/
inductive Numeric
  | whole (value : Int)
  | fraction (value : Floating)
deriving Inhabited, Repr

/-- How two numbers are ordered, if they are. -/
def Numeric.order? : Numeric → Numeric → Option Ordering
  | .whole left, .whole right => some (compare left right)
  | .fraction left, .fraction right => left.order? right
  | .whole left, .fraction right =>
    match right.ratio? with
    | some right => some ((Dyadic.Ratio.ofWhole left).order right)
    | none => zeroOrder right
  | .fraction left, .whole right =>
    match left.ratio? with
    | some left => some (left.order (.ofWhole right))
    | none => left.order? .zero
where
  zeroOrder (right : Floating) : Option Ordering := Floating.zero.order? right

/-- The number that a value stands for. -/
def number? : Datum → Option Numeric
  | .flag value => some (.whole (if value then 1 else 0))
  | .number value => some (.whole value)
  | .fraction value => some (.fraction value)
  | _ => none

/-- Whether a value is a number that equals another one. -/
def isNumber (number : Numeric) (value : Datum) : Bool :=
  value.number?.any fun other => number.order? other = some .eq

mutual

/-- Whether a value equals another one. -/
def equals : Datum → Datum → Bool
  | .missing => fun | .missing => true | _ => false
  | .flag value => isNumber (.whole (if value then 1 else 0))
  | .number value => isNumber (.whole value)
  | .fraction value => isNumber (.fraction value)
  | .text value => fun | .text other => value == other | _ => false
  | .list values => fun | .list others => acceptInOrder (equalities values) others | _ => false
  | .record values => fun
    | .record others => values.length == others.length && acceptEntries values others
    | _ => false

/-- The equalities to several values. -/
def equalities : List Datum → List (Datum → Bool)
  | [] => []
  | value :: rest => value.equals :: equalities rest

/-- Whether each test accepts the value at its place. -/
def acceptInOrder : List (Datum → Bool) → List Datum → Bool
  | [], [] => true
  | test :: tests, value :: values => test value && acceptInOrder tests values
  | _, _ => false

/-- Whether all entries have an equal one of their name among others. -/
def acceptEntries : List (String × Datum) → List (String × Datum) → Bool
  | [], _ => true
  | (name, value) :: rest, others =>
    (others.lookup name).any value.equals && acceptEntries rest others

end

/-- Whether two values are equal and of one type. -/
def same (left right : Datum) : Bool := left.equals right && left.typeName == right.typeName

end Datum

end ServiceStubs
