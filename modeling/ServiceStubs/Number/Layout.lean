import ServiceStubs.Number.Complex
import ServiceStubs.Number.Notation
import ServiceStubs.Text.Layout

/-!
# Layouts of numbers

A number is written as its layout says: in which kind of writing, with which sign, with how many
digits, and filled up to which width. A complex number is laid out as a whole, after its two parts
are written.
-/

namespace ServiceStubs.Text.Layout

open ServiceStubs.Dyadic (Ratio)

/-! ## Fractions -/

/-- The kinds of writing numbers with a fraction. -/
def fractionKinds : List Char := ['e', 'E', 'f', 'F', 'g', 'G', 'n', '%']

/-- The digits before the point of a quotient, and what comes after them; a number that is written
in its shortest form has a fraction if `hasFraction` says so. -/
def digitsOf (layout : Layout) (hasFraction : Bool) (value : Ratio) : List Char × List Char :=
  let places := layout.precision.getD 6
  let count := max places 1
  match layout.kind with
  | some 'f' | some 'F' =>
    let (before, after) := Number.fixed places value
    (before, Number.pointed layout.isAlternate after)
  | some '%' =>
    let (before, after) := Number.fixed places value
    (before, Number.pointed layout.isAlternate after ++ ['%'])
  | some 'e' => Number.scientific 'e' layout.isAlternate places value
  | some 'E' => Number.scientific 'E' layout.isAlternate places value
  | some 'G' => Number.general 'E' layout.isAlternate false count count value
  | some _ => Number.general 'e' layout.isAlternate false count count value
  | none =>
    Number.general 'e' layout.isAlternate hasFraction count
      (if hasFraction then count - 1 else count)
      value

/-- Whether written digits are all zero. -/
def isAllZero (digits : List Char) : Bool :=
  (digits.takeWhile fun character => !(['e', 'E'].contains character)).all fun character =>
    ['0', '.', '%'].contains character

/-- The parts of a written number with a fraction. -/
def fractionParts (layout : Layout) (hasFraction : Bool) (value : Floating) : NumberParts :=
  let value := if layout.kind = some '%' then value.multiply (.ofInt 100) else value
  let (before, after) := match value, value.ratio? with
    | .finite _, some ratio =>
      if layout.kind.isNone && layout.precision.isNone then
        let text := (if hasFraction then value.magnitude.display
          else Complex.partText value.magnitude).toList
        text.span Char.isDigit
      else layout.digitsOf hasFraction ratio
    | value, _ =>
      let text := if value matches .undefined then "nan" else "inf"
      let shown := if layout.kind.any Char.isUpper then text.toUpper else text
      ([], shown.toList ++ if layout.kind = some '%' then ['%'] else [])
  let isNegative := value.isNegative && !(value matches .undefined) &&
    !(layout.isZeroPlain && isAllZero (before ++ after))
  { sign := layout.signOf isNegative, digits := before, rest := after }

/-- A number with a fraction as it is laid out. -/
def laidFraction (layout : Layout) (typeName : String) (value : Floating) : Except Flaw String :=
  match layout.kind.filter fun kind => !fractionKinds.contains kind with
  | some kind => unknownKind kind typeName
  | none => .ok (layout.laidNumber 3 (layout.fractionParts true value))

/-- A complex number as it is laid out. -/
def laidComplex (layout : Layout) (value : Complex) : Except Flaw String := do
  if let some kind := layout.kind then
    if kind = '%' || !fractionKinds.contains kind then unknownKind kind "complex"
  if layout.hasZeros || layout.fill = some '0' then
    refused "Zero padding is not allowed in complex format specifier"
  if layout.alignment = some '=' then
    refused "'=' alignment flag is not allowed in complex format specifier"
  let isUsual := layout.kind.isNone
  let isReal := !(isUsual && value.real.isZero && !value.real.isNegative)
  let bare := { layout with fill := none, alignment := some '<', width := 0 }
  let imaginary := if isReal then { bare with sign := some '+' } else bare
  let written (layout : Layout) (part : Floating) : String :=
    layout.laidNumber 3 (layout.fractionParts false part)
  let text := (if isReal then written bare value.real else "") ++
    written imaginary value.imaginary ++ "j"
  let text := if isUsual && isReal then "(" ++ text ++ ")" else text
  return String.ofList (filled (layout.fill.getD ' ') layout.width (layout.alignment.getD '>')
    text.toList)

/-! ## Whole numbers -/

/-- The base of a kind of writing whole numbers, and its mark. -/
def baseOf? : Char → Option (Nat × String)
  | 'b' => some (2, "0b")
  | 'o' => some (8, "0o")
  | 'x' => some (16, "0x")
  | 'X' => some (16, "0X")
  | 'd' | 'n' => some (10, "")
  | _ => none

/-- A whole number as the character with its code, as it is laid out. -/
def laidCode (layout : Layout) (value : Int) : Except Flaw String := do
  if layout.sign.isSome then refused "Sign not allowed with integer format specifier 'c'"
  if layout.isAlternate then
    refused "Alternate form (#) not allowed with integer format specifier 'c'"
  if value.natAbs ≥ Nat.pow 2 63 then
    throw { message := "Python int too large to convert to C long", isTooGreat := true }
  if value < 0 || 0x110000 ≤ value then
    throw { message := "%c arg not in range(0x110000)", isTooGreat := true }
  return layout.laidNumber 3 { sign := [], digits := [], rest := [Char.ofNat value.toNat] }

/-- A whole number as it is laid out. -/
def laidWhole (layout : Layout) (typeName : String) (value : Int) : Except Flaw String := do
  let kind := layout.kind.getD 'd'
  if (baseOf? kind).isSome || kind = 'c' then
    if layout.precision.isSome then refused "Precision not allowed in integer format specifier"
    if layout.isZeroPlain then
      refused "Negative zero coercion (z) not allowed in integer format specifier"
  match baseOf? kind with
  | some (base, mark) =>
    let digits := Number.inBase base value.natAbs
    return layout.laidNumber (if base = 10 then 3 else 4) {
      sign := layout.signOf (value < 0)
      mark := if layout.isAlternate then mark.toList else []
      digits := if kind = 'X' then digits.map Char.toUpper else digits }
  | none =>
    if kind = 'c' then layout.laidCode value
    else if fractionKinds.contains kind then
      match Floating.ofInt value with
      | .infinite _ => throw { message := "int too large to convert to float", isTooGreat := true }
      | number => layout.laidFraction typeName number
    else unknownKind kind typeName

end ServiceStubs.Text.Layout
