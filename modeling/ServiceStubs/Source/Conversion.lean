import ServiceStubs.Source.Method.Number

/-!
# Conversions

What the plain classes make of the values that they are called with: numbers of numerals and of
other numbers, texts of any values, bytes of codes, and collections of items. A call with other
values is refused.
-/

namespace ServiceStubs.Source

namespace Value

/-! ## Whole numbers -/

/-- The value of a digit in a base up to 36. -/
def digitIn? (base : Nat) (character : Char) : Option Nat :=
  let value? := match Text.digitValue? character with
    | some digit => some digit
    | none =>
      let lower := character.toLower
      if 'a' ≤ lower && lower ≤ 'z' then some (lower.toNat - 'a'.toNat + 10) else none
  value?.filter (· < base)

/-- The number that digits of a base write, with single underscores between them. -/
def naturalIn? (base : Nat) : Option Nat → Bool → List Char → Option Nat
  | value?, isAfterDigit, [] => if isAfterDigit then value? else none
  | value?, isAfterDigit, '_' :: rest =>
    if isAfterDigit && !rest.isEmpty then naturalIn? base value? false rest else none
  | value?, _, character :: rest =>
    match digitIn? base character with
    | some digit => naturalIn? base (some (value?.getD 0 * base + digit)) true rest
    | none => none

/-- The bases that numerals can name, with their letters. -/
def namedBases : List (Char × Nat) := [('x', 16), ('o', 8), ('b', 2)]

/-- The number that a numeral of a base writes; in base zero, the numeral names the base. -/
def integerIn? (base : Nat) (text : String) : Option Int := do
  let (isNegative, digits) := takeSign (plainNumeral text)
  let (named?, digits) := match digits with
    | '0' :: letter :: rest =>
      match namedBases.lookup letter.toLower with
      | some named => if base = 0 || base = named then (some named, rest) else (none, digits)
      | none => (none, digits)
    | digits => (none, digits)
  let digits := if named?.isSome && digits.head? = some '_' then digits.drop 1 else digits
  let isRefused := base = 0 && named?.isNone && digits.head? = some '0' &&
    digits.any fun character => character ≠ '0' && character ≠ '_'
  if isRefused then none
  let magnitude ← naturalIn? (named?.getD (if base = 0 then 10 else base)) none false digits
  return if isNegative then -Int.ofNat magnitude else Int.ofNat magnitude

/-- The fault of a text that is no numeral of a base. -/
def numeralFault (base : Nat) (shown : String) : Fault :=
  .wrongValue ("invalid literal for int() with base " ++ toString base ++ ": " ++ shown)

/-- The number of a numeral of a base. -/
def wholeFromText (base : Nat) (text shown : String) : Except Fault Int :=
  let digits := (plainNumeral text).filter Char.isDigit
  if base = 10 && Text.mostDigits < digits.length then
    .error (.wrongValue ("Exceeds the limit (4300 digits) for integer string conversion: value " ++
      "has " ++ toString digits.length ++ " digits; use sys.set_int_max_str_digits() to " ++
      "increase the limit"))
  else match if base = 10 then Text.integer? text else integerIn? base text with
    | some number => .ok number
    | none => .error (numeralFault base shown)

/-- The whole part of a number with a fraction. -/
def wholePart (value : Floating) : Except Fault Int :=
  match value.ratio? with
  | some ratio => .ok (ratio.numerator.tdiv (Int.ofNat ratio.denominator))
  | none => .error (unboundedFault value "integer")

/-- A value as a whole number. -/
def wholeFrom (value : Value) : Except Fault Int :=
  match value.plain, value.datum? with
  | .bytes _ codes, _ =>
    wholeFromText 10 (String.ofList (codes.map Char.ofNat)) (Text.quotedBytes codes)
  | _, some (.number number) => .ok number
  | _, some (.flag flag) => .ok (if flag then 1 else 0)
  | _, some (.fraction number) => wholePart number
  | _, some (.text text) => wholeFromText 10 text (Text.quoted text)
  | _, _ => .error (.wrongType ("int() argument must be a string, a bytes-like object or a real " ++
      "number, not '" ++ value.typeName ++ "'"))

/-- A text as a whole number of a base. -/
def wholeInBase (value base : Value) : Except Fault Int := do
  let base ← base.integer
  let text? := match value.plain with
    | .string quotation => some (quotation.text, Text.quoted quotation.text)
    | .bytes _ codes => some (String.ofList (codes.map Char.ofNat), Text.quotedBytes codes)
    | _ => none
  if base ≠ 0 && (base < 2 || 36 < base) then
    throw (.wrongValue "int() base must be >= 2 and <= 36, or 0")
  match text? with
  | some (text, shown) => wholeFromText base.toNat text shown
  | none => throw (.wrongType "int() can't convert non-string with explicit base")

/-! ## Numbers with a fraction -/

/-- A value as a number with a fraction. -/
def fractionFrom (value : Value) : Except Fault Floating :=
  let read (text shown : String) : Except Fault Floating :=
    match fractionOf? (plainNumeral text) with
    | some number => .ok number
    | none => .error (.wrongValue ("could not convert string to float: " ++ shown))
  match value.plain, value.datum? with
  | .bytes _ codes, _ => read (String.ofList (codes.map Char.ofNat)) value.display
  | _, some (.number number) => asFraction number
  | _, some (.flag flag) => .ok (.ofInt (if flag then 1 else 0))
  | _, some (.fraction number) => .ok number
  | _, some (.text text) => read text (Text.quoted text)
  | _, _ => .error (.wrongType ("float() argument must be a string or a real number, not '" ++
      value.typeName ++ "'"))

/-- A number as a complex one. -/
def complexPart (refused : Fault) (value : Value) : Except Fault Complex :=
  match value.scalar? with
  | some number => number.asComplex
  | none => .error refused

/-- One or two values as a complex number. -/
def complexFrom (real : Value) (imaginary : Option Value) : Except Fault Complex :=
  match real.quotation?, imaginary with
  | some quotation, none =>
    match complexOf? (plainNumeral quotation.text) with
    | some number => .ok number
    | none => .error (.wrongValue "complex() arg is a malformed string")
  | some _, some _ => .error (.wrongType "complex() can't take second arg if first is a string")
  | none, imaginary => do
    if imaginary.any fun value => value.quotation?.isSome then
      throw (.wrongType "complex() second arg can't be a string")
    let first ← complexPart (.wrongType ("complex() first argument must be a string or a " ++
      "number, not '" ++ real.typeName ++ "'")) real
    match imaginary with
    | none => return first
    | some value =>
      let second ← complexPart (.wrongType ("complex() second argument must be a number, not '" ++
        value.typeName ++ "'")) value
      return ⟨first.real.subtract second.imaginary, first.imaginary.add second.real⟩

/-! ## Texts and bytes -/

/-- Values as a text: one that is told, or bytes with the name of their encoding and of what is done
with errors in it. -/
def textFrom (module : Module) (value : Value) (encoding errors : Option Value) :
    Except Fault String := do
  let named ← codecArgument "str" "encoding" encoding
  let errors ← codecArgument "str" "errors" errors
  if named.isNone && errors.isNone then module.told value
  else match value.plain with
    | .bytes _ codes => decoded (← encodingNamed named) codes
    | .string _ => throw (.wrongType "decoding str is not supported")
    | _ => throw (.wrongType ("decoding to str: need a bytes-like object, " ++ value.typeName ++
        " found"))

/-- The code of a byte that a value is. -/
def byteOf (typeName : String) (value : Value) : Except Fault Nat := do
  let code ← value.integer
  if 0 ≤ code && code < 256 then return code.toNat
  throw (.wrongValue ((if typeName = "bytes" then "bytes" else "byte") ++
    " must be in range(0, 256)"))

/-- The greatest size that anything can have. -/
def greatestSize : Nat := Nat.pow 2 63 - 1

/-- The most bytes that are made of a number. -/
def mostBytes : Nat := 100000

/-- A value as bytes: a number of zeros, codes, other bytes, or a text in an encoding. -/
def bytesFrom (module : Module) (typeName : String) (value encoding errors : Option Value) :
    Except Fault (List Nat) := do
  let named ← codecArgument typeName "encoding" encoding
  let errors ← codecArgument typeName "errors" errors
  match value.map Value.plain, named, errors with
  | some (.string quotation), some _, _ => encoded (← encodingNamed named) quotation.text.toList
  | some (.string _), none, some _ | some (.string _), none, none =>
    throw (.wrongType "string argument without an encoding")
  | _, some _, _ => throw (.wrongType "encoding without a string argument")
  | _, none, some _ => throw (.wrongType "errors without a string argument")
  | some (.bytes _ codes), none, none => return codes
  | none, none, none => return []
  | some value, none, none =>
    match value.whole?, module.itemsOf value with
    | some count, _ =>
      if Value.greatestSize < count.natAbs then
        .error (.tooGreat "cannot fit 'int' into an index-sized integer")
      else if count < 0 then .error (.wrongValue "negative count")
      else .ok (List.replicate (min count.toNat mostBytes) 0)
    | none, .ok items => items.mapM (byteOf typeName)
    | none, .error _ =>
      .error (.wrongType ("cannot convert '" ++ value.typeName ++ "' object to " ++ typeName))

/-! ## Collections -/

/-- A dictionary of the entries of a value and of named values. -/
def dictionaryFrom (module : Module) (memory : Memory) (value : Option Value)
    (named : List (String × Value)) : Except Fault (List (Value × Value)) := do
  let entries ← match value with
    | some value => entriesFrom module value
    | none => pure []
  return entriesOf (Module.equal memory) (entries ++ named.map fun entry =>
    (.ofText entry.1, entry.2))

/-- The set of the items of a value. -/
def setFrom (module : Module) (memory : Memory) (isFrozen : Bool) (value : Option Value) :
    Except Fault Value := do
  let items ← match value with
    | some value => keysOf module value
    | none => pure []
  return .set isFrozen (setItems (Module.equal memory) items)

/-- The range that some values name. -/
def rangeFrom : List Value → Except Fault Value
  | [stop] => do return .range 0 (← stop.integer) 1
  | start :: stop :: rest => do
    let start ← start.integer
    let stop ← stop.integer
    let step ← integerOr 1 rest.head?
    if step = 0 then throw (.wrongValue "range() arg 3 must not be zero")
    return .range start stop step
  | [] => .error (.wrongType "range expected at least 1 argument, got 0")

/-- The slice that some values name. -/
def sliceFrom : List Value → Value
  | [stop] => .slice .nothing stop .nothing
  | [start, stop] => .slice start stop .nothing
  | start :: stop :: step :: _ => .slice start stop step
  | [] => .slice .nothing .nothing .nothing

/-- Lists cut to the length of the shortest, item by item. -/
def zipped : List (List Value) → List (List Value)
  | [] => []
  | lists => (List.range ((lists.map List.length).min?.getD 0)).map fun place =>
      lists.filterMap (·[place]?)

end Value

end ServiceStubs.Source
