import ServiceStubs.Source.Method.Collection
import ServiceStubs.Source.Token

/-!
# Functions of numbers

The functions that numbers have, and the numbers that texts are read as. A text is read as a number
with a fraction if it is the numeral of one, with blanks around it and a sign before it, or the
word for a number that is none or has no bound.
-/

namespace ServiceStubs.Source

/-! ## Numerals -/

/-- A text without the blanks around it, each of its digits as the one of the same value that is
written most often. -/
def plainNumeral (text : String) : List Char :=
  let blank := Text.isNumeralBlank
  ((Text.withoutTrailing blank (Text.withoutLeading blank text.toList))).map fun character =>
    match Text.digitValue? character with
    | some digit => Number.digitCharacter digit
    | none => character

/-- A sign before a numeral, and the numeral. -/
def takeSign : List Char → Bool × List Char
  | '-' :: rest => (true, rest)
  | '+' :: rest => (false, rest)
  | rest => (false, rest)

/-- Whether a digit comes first, after a point or without one. -/
def beginsWithDigit (text : List Char) : Bool :=
  (match text with | '.' :: rest => rest | text => text).head?.any Char.isDigit

/-- The number that digits without a sign are read as. -/
def unsignedFraction? (isNegative : Bool) (digits : List Char) : Option Floating := do
  if digits.any fun character => !"0123456789.eE+-_".toList.contains character then none
  let significant := digits.dropWhile (· = '0')
  if !beginsWithDigit digits then none
  match scanNumber (if beginsWithDigit significant then significant else digits) with
  | .ok (.number (.number value), []) =>
    some (.ofRatio isNegative ⟨if isNegative then -value else value, 1⟩)
  | .ok (.number (.fraction value), []) => some (value.withSign isNegative)
  | _ => none

/-- The number that a numeral is read as, with or without a fraction. -/
def fractionOf? (numeral : List Char) : Option Floating :=
  let (isNegative, digits) := takeSign numeral
  match String.ofList (digits.map Char.toLower) with
  | "inf" | "infinity" => some (.infinite isNegative)
  | "nan" => some .undefined
  | _ => unsignedFraction? isNegative digits

/-- The numeral at the beginning of a complex numeral, and what follows it. -/
def takeFraction (text : List Char) : Option (Floating × List Char) :=
  ((List.range text.length).reverse.map (· + 1)).findSome? fun count =>
    (fractionOf? (text.take count)).map (·, text.drop count)

/-- The imaginary part that ends a complex numeral. -/
def imaginaryOf? : List Char → Option Floating
  | ['j'] | ['J'] | ['+', 'j'] | ['+', 'J'] => some .one
  | ['-', 'j'] | ['-', 'J'] => some Floating.one.negated
  | text => do
    match ← takeFraction text with
    | (value, ['j']) | (value, ['J']) => some value
    | _ => none

/-- The complex number that a numeral is read as. -/
def complexOf? (numeral : List Char) : Option Complex :=
  let inner := match numeral with
    | '(' :: rest =>
      if rest.getLast? = some ')' then
        Text.withoutTrailing Text.isNumeralBlank
          (Text.withoutLeading Text.isNumeralBlank rest.dropLast)
      else numeral
    | _ => numeral
  match imaginaryOf? inner, takeFraction inner with
  | some imaginary, _ => some ⟨.zero, imaginary⟩
  | none, some (real, []) => some (.ofFloating real)
  | none, some (real, '+' :: rest) => (imaginaryOf? ('+' :: rest)).map (⟨real, ·⟩)
  | none, some (real, '-' :: rest) => (imaginaryOf? ('-' :: rest)).map (⟨real, ·⟩)
  | none, _ => none

/-! ## Functions -/

namespace Value

/-- The fault of a number that has no quotient of whole numbers, or no whole part. -/
def unboundedFault (value : Floating) (ending : String) : Fault :=
  match value with
  | .infinite _ => .tooGreat ("cannot convert float infinity to " ++ ending)
  | _ => .wrongValue ("cannot convert float NaN to " ++ ending)

/-- A number with a fraction as a quotient of whole numbers. -/
def ratioTuple (value : Floating) : Except Fault Value :=
  match value.ratio? with
  | none => .error (unboundedFault value "integer ratio")
  | some ratio =>
    let divisor := Nat.gcd ratio.numerator.natAbs ratio.denominator
    .ok (.tuple [.ofInt (ratio.numerator.tdiv (Int.ofNat divisor)),
      .ofNat (ratio.denominator / divisor)])

/-- How many bits of a number are set. -/
def setBits : Nat → Nat → Nat
  | 0, _ => 0
  | width + 1, number => number % 2 + setBits width (number / 2)

/-- The bytes of a number, the least first. -/
def bytesOf : Nat → Nat → List Nat
  | 0, _ => []
  | count + 1, number => number % 256 :: bytesOf count (number / 256)

/-- Whether an argument that names an order of bytes asks for the greatest first. -/
def isBigFirst (value : Option Value) : Except Fault Bool :=
  match value.map Value.quotation? with
  | none => .ok true
  | some (some quotation) =>
    if quotation.text = "big" then .ok true
    else if quotation.text = "little" then .ok false
    else .error (.wrongValue "byteorder must be either 'little' or 'big'")
  | some none => .error (.wrongType ("argument 'byteorder' must be str, not " ++
      (value.map typeName).getD ""))

/-- A whole number as bytes. -/
def wholeBytes (module : Module) (number : Int) (arguments : List (Option Value)) :
    Except Fault Value := do
  let length ← integerOr 1 (arguments[0]?).join
  let isBig ← isBigFirst (arguments[1]?).join
  let isSigned ← module.isTrue (((arguments[2]?).join).getD .nothing)
  if length < 0 then throw (.wrongValue "length argument must be non-negative")
  let width := 8 * min length.toNat 4096
  if number < 0 && !isSigned then throw (.tooGreat "can't convert negative int to unsigned")
  let bound := Nat.pow 2 (if isSigned then width - 1 else width)
  if (if number < 0 then bound < number.natAbs else bound ≤ number.natAbs) then
    throw (.tooGreat "int too big to convert")
  let bytes := bytesOf (width / 8) (lowBits width number)
  return .bytes false (if isBig then bytes.reverse else bytes)

/-- The whole number of some bytes. -/
def wholeFromBytes (module : Module) (arguments : List (Option Value)) : Except Fault Value := do
  let given := ((arguments[0]?).join).getD .nothing
  let codes ← match given.plain with
    | .bytes _ codes => pure codes
    | .string _ => throw (.wrongType "cannot convert 'str' object to bytes")
    | _ =>
      match module.itemsOf given with
      | .error _ => throw (.wrongType ("cannot convert '" ++ given.typeName ++ "' object to bytes"))
      | .ok items => items.mapM fun item => item.integer.map Int.toNat
  let isBig ← isBigFirst (arguments[1]?).join
  let isSigned ← module.isTrue (((arguments[2]?).join).getD .nothing)
  let ordered := if isBig then codes else codes.reverse
  let number := ordered.foldl (fun number code => number * 256 + code) 0
  let bound := Nat.pow 2 (8 * codes.length)
  return .ofInt (if isSigned && bound ≤ 2 * number && !codes.isEmpty then
    Int.ofNat number - Int.ofNat bound else Int.ofNat number)

/-- The functions of whole numbers. -/
def wholeMethod? (module : Module) (name : String) (number : Int)
    (arguments : List (Option Value)) : Option (Except Fault Value) :=
  let magnitude := number.natAbs
  match name with
  | "bit_length" => some (.ok (.ofNat (if magnitude = 0 then 0 else magnitude.log2 + 1)))
  | "bit_count" => some (.ok (.ofNat (setBits (magnitude.log2 + 1) magnitude)))
  | "conjugate" => some (.ok (.ofInt number))
  | "as_integer_ratio" => some (.ok (.tuple [.ofInt number, .ofInt 1]))
  | "to_bytes" => some (wholeBytes module number arguments)
  | _ => none

/-- The hexadecimal numeral of a number with a fraction. -/
def hexadecimalFraction (value : Floating) : String :=
  match value with
  | .finite number =>
    let sign := if number.isNegative then "-" else ""
    if number.mantissa = 0 then sign ++ "0x0.0p+0"
    else
      let width := number.mantissa.log2
      let isSmall := number.exponent + Int.ofNat width < -1022
      let shift := if isSmall then 0 else 52 - width
      let digits := Text.hexDigits 13 (number.mantissa * Nat.pow 2 shift % Nat.pow 2 52)
      let exponent := if isSmall then -1022 else number.exponent + Int.ofNat width
      sign ++ (if isSmall then "0x0." else "0x1.") ++ String.ofList digits ++ "p" ++
        (if exponent < 0 then "-" else "+") ++ toString exponent.natAbs
  | value => value.display

/-- The functions of numbers with a fraction. -/
def fractionMethod? (name : String) (value : Floating) : Option (Except Fault Value) :=
  match name with
  | "is_integer" => some (.ok (.ofBool value.isWhole))
  | "conjugate" => some (.ok (.ofFloating value))
  | "as_integer_ratio" => some (ratioTuple value)
  | "hex" => some (.ok (.ofText (hexadecimalFraction value)))
  | _ => none

end Value

end ServiceStubs.Source
