import ServiceStubs.Number.Dyadic
import ServiceStubs.Text.Lines

/-!
# Shortest decimal forms

A binary fraction is displayed by the fewest digits that read back as the same number; of several
numbers with so few digits the nearest one is taken. Digits are found on one decimal grid after
the other, the coarsest first: if any point of a grid reads back, so does one of the two next to
the number.
-/

namespace ServiceStubs.Dyadic

/-- A positive number as a multiple of one unit, with the distances to the ends of the interval of
numbers that read back as it. -/
structure Interval where
  /-- The parts that one is divided in. -/
  unit : Nat
  value : Nat
  below : Nat
  above : Nat
  /-- The ends of the interval belong to it. -/
  isClosed : Bool

/-- The interval of the numbers that read back as a positive number. -/
def interval (value : Dyadic) : Interval :=
  let parts := Nat.pow 2 (2 - value.exponent).toNat
  let step := Nat.pow 2 (value.exponent + Int.ofNat (2 - value.exponent).toNat).toNat
  let isNarrow := value.mantissa = Nat.pow 2 (precision - 1) && leastExponent < value.exponent
  { unit := parts
    value := value.mantissa * step
    below := if isNarrow then step / 4 else step / 2
    above := step / 2
    isClosed := value.mantissa % 2 = 0 }

/-- Whether `point / scale` lies in an interval. -/
def Interval.holds (interval : Interval) (scale point : Nat) : Bool :=
  let low := (interval.value - interval.below) * scale
  let high := (interval.value + interval.above) * scale
  if interval.isClosed then low ≤ point && point ≤ high else low < point && point < high

/-- The digits of a point of the grid 10^place that lies in an interval: the nearer one of the two
points next to the number, if it lies there. -/
def Interval.digitsAt? (interval : Interval) (place : Int) : Option Nat :=
  let scale := Nat.pow 10 (-place).toNat
  let step := interval.unit * Nat.pow 10 place.toNat
  let target := interval.value * scale
  let lower := target / step
  let isLower := interval.holds scale (lower * step)
  let isUpper := interval.holds scale ((lower + 1) * step)
  let nearest := roundedQuotient target step
  if isLower && isUpper then some nearest
  else if isLower then some lower
  else if isUpper then some (lower + 1)
  else none

/-- The digits and the place of the first grid from `place` downwards that reads back, among as
many as there are tries. -/
def Interval.shortestFrom (interval : Interval) : Nat → Int → Nat × Int
  | 0, place => (interval.value * Nat.pow 10 (-place).toNat / interval.unit, place)
  | tries + 1, place =>
    match interval.digitsAt? place with
    | some digits => (digits, place)
    | none => interval.shortestFrom tries (place - 1)

/-- Seventeen digits always read back. -/
def mostDigits : Nat := 17

/-- More places than any number of the form needs before its first digit. -/
def mostPlaces : Nat := 400

/-- The place of the first digit of a positive number. -/
def Interval.firstPlace (interval : Interval) : Int :=
  let shifted := interval.value * Nat.pow 10 mostPlaces / interval.unit
  Int.ofNat (toString shifted).length - 1 - Int.ofNat mostPlaces

/-- Digits without the zeros at their end, and the place of the last one. -/
def withoutZeros : Nat → Nat → Int → Nat × Int
  | 0, digits, place => (digits, place)
  | tries + 1, digits, place =>
    if digits % 10 = 0 && digits ≠ 0 then withoutZeros tries (digits / 10) (place + 1)
    else (digits, place)

/-- The shortest digits of a number and the place of the last one. -/
def shortest (value : Dyadic) : Nat × Int :=
  if value.mantissa = 0 then (0, 0)
  else
    let interval := value.interval
    let (digits, place) := interval.shortestFrom mostDigits interval.firstPlace
    withoutZeros mostDigits digits place

/-- The exponents of ten for which digits are written around a point. -/
def isPositional (exponent : Int) : Bool := -4 ≤ exponent && exponent < 16

/-- Digits around a point. -/
def positional (digits : String) (exponent : Int) : String :=
  let characters := digits.toList
  if exponent < 0 then
    "0." ++ String.ofList (List.replicate (-exponent - 1).toNat '0') ++ digits
  else
    let count := exponent.toNat + 1
    let whole := characters.take count ++ List.replicate (count - characters.length) '0'
    let fraction := characters.drop count
    String.ofList whole ++ "." ++ (if fraction.isEmpty then "0" else String.ofList fraction)

/-- Digits with an exponent of at least two digits. -/
def scientific (digits : String) (exponent : Int) : String :=
  let size := toString exponent.natAbs
  let power := (if exponent < 0 then "-" else "+") ++ (if size.length < 2 then "0" else "") ++ size
  match digits.toList with
  | first :: second :: rest =>
    String.ofList [first] ++ "." ++ String.ofList (second :: rest) ++ "e" ++ power
  | _ => digits ++ "e" ++ power

/-- The displayed form of a number without its sign. -/
def magnitudeText (value : Dyadic) : String :=
  if value.isInfinite then "inf"
  else
    let (digits, place) := value.shortest
    let text := toString digits
    let exponent := place + Int.ofNat text.length - 1
    if isPositional exponent then positional text exponent else scientific text exponent

/-- The displayed form of a number. -/
def display (value : Dyadic) : String :=
  (if value.isNegative then "-" else "") ++ value.magnitudeText

end ServiceStubs.Dyadic
