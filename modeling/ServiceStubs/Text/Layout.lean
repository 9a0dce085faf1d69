import ServiceStubs.Text.IntegerNumeral

/-!
# Layouts of text

A layout says how the form of a value is laid out: which character fills it up to which width and
on which side, how a number is written, and how much of it. A layout is written as a word in which
every part has its place; all parts may be missing.
-/

namespace ServiceStubs.Text

/-- How the form of a value is laid out. -/
structure Layout where
  /-- The character that fills the form up, if one is chosen. -/
  fill : Option Char := none
  /-- Where the form stands in its width. -/
  alignment : Option Char := none
  sign : Option Char := none
  /-- A zero has no sign. -/
  isZeroPlain : Bool := false
  /-- Numbers tell the base in which they are written. -/
  isAlternate : Bool := false
  /-- Zeros come between the sign and the digits. -/
  hasZeros : Bool := false
  width : Nat := 0
  /-- What stands between groups of digits. -/
  separator : Option Char := none
  precision : Option Nat := none
  /-- How the value is written. -/
  kind : Option Char := none
deriving DecidableEq, Repr, Inhabited

namespace Layout

/-- The characters that say where a form stands. -/
def alignments : List Char := ['<', '>', '=', '^']

/-- The number that digits write, and what is left. -/
def takeNumber (text : List Char) : Option Nat × List Char :=
  match text.span isDecimalDigit with
  | ([], rest) => (none, rest)
  | (digits, rest) =>
    (some (digits.foldl (fun value digit => value * 10 + (digitValue? digit).getD 0) 0), rest)

/-- One of some characters at the beginning of a text, and what is left. -/
def takeOne (allowed : List Char) : List Char → Option Char × List Char
  | character :: rest =>
    if allowed.contains character then (some character, rest) else (none, character :: rest)
  | [] => (none, [])

/-- The filling character and the place at the beginning of a text, and what is left. -/
def takePlace : List Char → Option Char × Option Char × List Char
  | first :: second :: rest =>
    if alignments.contains second then (some first, some second, rest)
    else if alignments.contains first then (none, some first, second :: rest)
    else (none, none, first :: second :: rest)
  | [first] => if alignments.contains first then (none, some first, []) else (none, none, [first])
  | [] => (none, none, [])

/-- Why a form cannot be laid out. -/
structure Flaw where
  message : String
  /-- A number is too great for its place. -/
  isTooGreat : Bool := false
deriving DecidableEq, Repr, Inhabited

/-- The fault of a layout that says what cannot be. -/
def refused {α : Type} (message : String) : Except Flaw α := .error { message }

/-- The greatest number of a layout. -/
def greatestNumber : Nat := Nat.pow 2 63 - 1

/-- The number at the beginning of a text, which may not be too great, and what is left. -/
def takeBounded (text : List Char) : Except Flaw (Option Nat × List Char) :=
  let (number, rest) := takeNumber text
  if number.any fun number => greatestNumber < number then
    refused "Too many decimal digits in format string"
  else .ok (number, rest)

/-- The separator of groups at the beginning of a text, of which there may be one, and what is
left. -/
def takeSeparator (text : List Char) : Except Flaw (Option Char × List Char) :=
  match text with
  | ',' :: '_' :: _ | '_' :: ',' :: _ => refused "Cannot specify both ',' and '_'."
  | text => .ok (takeOne [',', '_'] text)

/-- The precision at the beginning of a text, and what is left. -/
def takePrecision (text : List Char) : Except Flaw (Option Nat × List Char) :=
  match text with
  | '.' :: rest => do
    match ← takeBounded rest with
    | (none, _) => refused "Format specifier missing precision"
    | found => return found
  | rest => .ok (none, rest)

/-- A character as a message tells it. -/
def toldCharacter (character : Char) : String :=
  if 32 < character.toNat && character.toNat < 128 then String.singleton character
  else "\\x" ++ String.ofList (Nat.toDigits 16 character.toNat)

/-- Whether a separator may stand between groups of digits of a kind of writing. -/
def isSeparable (separator : Char) (kind : Option Char) : Bool :=
  match kind with
  | none => true
  | some kind => ['d', 'e', 'f', 'g', 'E', 'G', '%', 'F'].contains kind ||
      separator = '_' && ['b', 'o', 'x', 'X'].contains kind

/-- The layout that a word writes, for a value of a type that is laid out in a kind of writing if
the word says none. -/
def ofText (text typeName : String) (usual : Option Char) : Except Flaw Layout := do
  let (fill, alignment, rest) := takePlace text.toList
  let (sign, rest) := takeOne ['+', '-', ' '] rest
  let (plainZero, rest) := takeOne ['z'] rest
  let (mark, rest) := takeOne ['#'] rest
  let (zero, rest) := if fill.isNone then takeOne ['0'] rest else (none, rest)
  let (width, rest) ← takeBounded rest
  let (separator, rest) ← takeSeparator rest
  let (precision, rest) ← takePrecision rest
  let kind ← match rest with
    | [] => pure usual
    | [kind] => pure (some kind)
    | _ => refused ("Invalid format specifier '" ++ text ++ "' for object of type '" ++ typeName ++
        "'")
  if let some separator := separator then
    if !isSeparable separator kind then
      refused ("Cannot specify '" ++ String.singleton separator ++ "' with '" ++
        toldCharacter (kind.getD 's') ++ "'.")
  return {
    fill, alignment, sign, separator, precision, kind
    isZeroPlain := plainZero.isSome
    isAlternate := mark.isSome
    hasZeros := zero.isSome
    width := width.getD 0 }

/-- What is said of a kind of writing that a type has not. -/
def unknownKind {α : Type} (kind : Char) (typeName : String) : Except Flaw α :=
  refused ("Unknown format code '" ++ toldCharacter kind ++ "' for object of type '" ++ typeName ++
    "'")

/-! ## Filling -/

/-- Characters before and after a form that fill it up to a width. -/
def filled (fill : Char) (width : Nat) (alignment : Char) (form : List Char) : List Char :=
  let count := width - form.length
  let before := match alignment with
    | '<' => 0
    | '^' => count / 2
    | _ => count
  List.replicate before fill ++ form ++ List.replicate (count - before) fill

/-- Digits with a separator between groups of a size. -/
def groupedFrom (separator : Char) (size : Nat) : List Char → List Char
  | [] => []
  | digit :: rest =>
    if rest.length % size = 0 && !rest.isEmpty then
      digit :: separator :: groupedFrom separator size rest
    else digit :: groupedFrom separator size rest

/-- Zeros before digits so that the groups of them fill a width. -/
def zeroGrouped (separator : Char) (size width : Nat) : Nat → List Char → List Char
  | 0, digits => groupedFrom separator size digits
  | tries + 1, digits =>
    let grouped := groupedFrom separator size digits
    if width ≤ grouped.length then grouped
    else zeroGrouped separator size width tries ('0' :: digits)

/-- The parts of a written number: the sign, the mark of the base, the digits before the point, and
what comes after them. -/
structure NumberParts where
  sign : List Char
  mark : List Char := []
  digits : List Char
  rest : List Char := []

/-- The sign of a number. -/
def signOf (layout : Layout) (isNegative : Bool) : List Char :=
  if isNegative then ['-']
  else match layout.sign with
    | some '+' => ['+']
    | some ' ' => [' ']
    | _ => []

/-- A written number as it is laid out. -/
def laidNumber (layout : Layout) (groupSize : Nat) (parts : NumberParts) : String :=
  let fill := layout.fill.getD (if layout.hasZeros then '0' else ' ')
  let alignment := layout.alignment.getD (if layout.hasZeros then '=' else '>')
  let opening := parts.sign ++ parts.mark
  let inner := layout.width - opening.length - parts.rest.length
  let digits := match layout.separator with
    | none => parts.digits
    | some separator =>
      if fill = '0' && alignment = '=' then
        zeroGrouped separator groupSize inner layout.width parts.digits
      else groupedFrom separator groupSize parts.digits
  let body := digits ++ parts.rest
  String.ofList (
    if alignment = '=' then opening ++ filled fill (layout.width - opening.length) '>' body
    else filled fill layout.width alignment (opening ++ body))

/-- A text as it is laid out. -/
def laidText (layout : Layout) (text : String) : Except Flaw String := do
  if let some kind := layout.kind then
    if kind ≠ 's' then unknownKind kind "str"
  if let some sign := layout.sign then
    refused (if sign = ' ' then "Space not allowed in string format specifier"
      else "Sign not allowed in string format specifier")
  if layout.isZeroPlain then
    refused "Negative zero coercion (z) not allowed in string format specifier"
  if layout.isAlternate then
    refused "Alternate form (#) not allowed in string format specifier"
  if layout.alignment = some '=' then
    refused "'=' alignment not allowed in string format specifier"
  let kept := match layout.precision with
    | some count => text.toList.take count
    | none => text.toList
  let fill := layout.fill.getD (if layout.hasZeros then '0' else ' ')
  return String.ofList (filled fill layout.width (layout.alignment.getD '<') kept)

end Layout

end ServiceStubs.Text
