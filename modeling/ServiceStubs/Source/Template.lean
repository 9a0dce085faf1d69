import ServiceStubs.Source.Indexing

/-!
# Templates

Texts with places for values. In one kind of template a place is a mark with a letter that says how
the value is written; in the other one it stands between braces, names the value and the parts that
lead from it to what is meant, and may hold a layout.
-/

namespace ServiceStubs.Source

namespace Module

/-! ## Places with marks -/

/-- What a place with a mark says: the key of its value, its layout, and its letter. -/
structure MarkedPlace where
  key : Option String := none
  flags : List Char := []
  width : Nat := 0
  precision : Option Nat := none
  letter : Char

/-- The values for the places of a template, and whether any is left. -/
structure Supply where
  /-- The template is made of bytes. -/
  isOfBytes : Bool
  /-- The values in order, if they are not all one. -/
  values : List Value
  /-- The value whose items have keys. -/
  keyed : Option Value

/-- The supply that a value stands for. -/
def Supply.ofValue (isOfBytes : Bool) (value : Value) : Supply :=
  match value.plain with
  | .tuple items => ⟨isOfBytes, items, none⟩
  | .dictionary _ | .list _ | .bytes _ _ | .range _ _ _ | .builtinOf _ _ | .templateOf _ _
  | .aliasOf _ _ | .union _ | .alternatives _ | .form _ | .bareAlias _ | .qualifier _ =>
    ⟨isOfBytes, [value], some value⟩
  | _ => ⟨isOfBytes, [value], none⟩

/-- The next value of a supply, and what is left of it. -/
def Supply.next (supply : Supply) : Except Fault (Value × Supply) :=
  match supply.values with
  | value :: rest => .ok (value, { supply with values := rest })
  | [] => .error (.wrongType "not enough arguments for format string")

/-- The value of a supply under a key. -/
def Supply.under (supply : Supply) (key : String) : Except Fault Value :=
  match supply.keyed.map Value.plain with
  | some (.dictionary entries) =>
    let codes := key.toList.map Char.toNat
    let isKey (value : Value) : Bool := match value.plain with
      | .string quotation => !supply.isOfBytes && quotation.text = key
      | .bytes _ found => supply.isOfBytes && found = codes
      | _ => false
    match entries.find? fun entry => isKey entry.1 with
    | some entry => .ok entry.2
    | none => .error (.missingKey
        (if supply.isOfBytes then Text.quotedBytes codes else Text.quoted key))
  | some value => .error (.notIndexed value.typeName "str")
  | none => .error (.wrongType "format requires a mapping")

/-- A width or a precision of a place, which may be a value of the supply; it has to fit the type
of a word. -/
def takeCount (word : String) (greatest : Nat) (supply : Supply) (text : List Char) :
    Except Fault (Option Int × Supply × List Char) :=
  match text with
  | '*' :: rest => do
    let (value, supply) ← supply.next
    match value.whole? with
    | some count =>
      if greatest < count.natAbs then
        throw (.tooGreat ("Python int too large to convert to C " ++ word))
      return (some count, supply, rest)
    | none => throw (.wrongType "* wants int")
  | text =>
    let (count, rest) := Text.Layout.takeNumber text
    .ok (count.map Int.ofNat, supply, rest)

/-- The place after a mark, and what is left of the supply and of the text. -/
def takeMarked (supply : Supply) (text : List Char) :
    Except Fault (MarkedPlace × Supply × List Char) := do
  let incomplete : Fault := .wrongValue "incomplete format"
  let (key, rest) ← match text with
    | '(' :: inner =>
      if supply.keyed.isNone then throw (.wrongType "format requires a mapping")
      let (key, rest) := inner.span (· ≠ ')')
      if rest.isEmpty then throw (.wrongValue "incomplete format key")
      else pure (some (String.ofList key), rest.drop 1)
    | text => pure (none, text)
  let (flags, rest) := rest.span fun character => ['#', '0', '-', ' ', '+'].contains character
  let (width, supply, rest) ← takeCount "ssize_t" (Nat.pow 2 63 - 1) supply rest
  let (precision, supply, rest) ← match rest with
    | '.' :: rest => do
      let (count, supply, rest) ← takeCount "int" (Nat.pow 2 31 - 1) supply rest
      pure (some ((count.getD 0).toNat), supply, rest)
    | rest => pure (none, supply, rest)
  let (_, rest) := Text.Layout.takeOne ['h', 'l', 'L'] rest
  match rest with
  | [] => throw incomplete
  | letter :: rest =>
    let isLeft := width.any (· < 0)
    return ({ key, flags := if isLeft then '-' :: flags else flags,
              width := (width.getD 0).natAbs, precision, letter }, supply, rest)

/-- The layout of a place with a mark for a kind of writing. -/
def MarkedPlace.layout (place : MarkedPlace) (kind : Option Char) : Text.Layout where
  alignment := if place.flags.contains '-' then some '<' else none
  hasZeros := place.flags.contains '0' && !place.flags.contains '-'
  sign := if place.flags.contains '+' then some '+'
    else if place.flags.contains ' ' then some ' ' else none
  isAlternate := place.flags.contains '#'
  width := place.width
  precision := place.precision
  kind

/-- A text in a place with a mark. -/
def MarkedPlace.ofText (place : MarkedPlace) (text : String) : String :=
  let kept := match place.precision with
    | some count => text.toList.take count
    | none => text.toList
  let alignment := if place.flags.contains '-' then '<' else '>'
  String.ofList (Text.Layout.filled ' ' place.width alignment kept)

/-- A whole number in a place with a mark; its precision is the least number of digits. -/
def MarkedPlace.ofWhole (place : MarkedPlace) (kind : Char) (number : Int) :
    Except Fault String := do
  let layout := { place.layout (some kind) with precision := none }
  let digits := Number.inBase ((Text.Layout.baseOf? kind).map Prod.fst |>.getD 10) number.natAbs
  let padded := List.replicate (place.precision.getD 0 - digits.length) '0'
  if padded.isEmpty then (layout.laidWhole "int" number).mapError Fault.ofLayout
  else
    let written := layout.signOf (number < 0) ++ padded ++ digits
    return { place with precision := none }.ofText (String.ofList written)

/-- A text with the characters written out that are not of seven bits. -/
def withEscapes (text : String) : String :=
  String.ofList (text.toList.flatMap fun character =>
    if character.toNat < 0x80 then [character] else Text.escapedCode character.toNat)

/-- A value in a place with a mark that only templates of bytes fill in ways of their own, if the
place is one. -/
def markedBytes? (place : MarkedPlace) (value : Value) : Option (Except Fault String) :=
  let ofCodes (codes : List Nat) : Except Fault String :=
    .ok (place.ofText (String.ofList (codes.map Char.ofNat)))
  match place.letter, value.plain with
  | 's', .bytes _ codes | 'b', .bytes _ codes => some (ofCodes codes)
  | 'c', .bytes _ [code] => some (ofCodes [code])
  | 's', _ | 'b', _ => some (.error (.wrongType ("%b requires a bytes-like object, or an object " ++
      "that implements __bytes__, not '" ++ value.typeName ++ "'")))
  | 'r', _ => some (value.displayed.map fun text => place.ofText (withEscapes text))
  | 'c', _ =>
    let refused : Fault :=
      .wrongType "%c requires an integer in range(256) or a single byte"
    some (match value.whole? with
      | some code =>
        if 0 ≤ code && code < 256 then ofCodes [code.toNat]
        else .error (.tooGreat "%c arg not in range(256)")
      | none => .error refused)
  | _, _ => none

/-- A value in a place with a mark. -/
def markedText (module : Module) (place : MarkedPlace) (position : Nat) (value : Value) :
    Except Fault String :=
  let letter := place.letter
  let wholeFault (wanted : String) : Fault :=
    .wrongType ("%" ++ String.singleton letter ++ " format: " ++ wanted ++ " is required, not " ++
      value.typeName)
  match letter with
  | 's' => (module.told value).map place.ofText
  | 'r' => value.displayed.map place.ofText
  | 'a' => value.displayed.map fun text => place.ofText (withEscapes text)
  | 'c' =>
    match value.quotation?.map fun text => text.text.toList, value.whole? with
    | some [character], _ => .ok (place.ofText (String.singleton character))
    | none, some code =>
      if 0 ≤ code && code < 0x110000 then
        .ok (place.ofText (String.singleton (Char.ofNat code.toNat)))
      else .error (.tooGreat "%c arg not in range(0x110000)")
    | _, _ => .error (.wrongType "%c requires int or char")
  | 'd' | 'i' | 'u' =>
    match value.scalar? with
    | some (.whole number) => place.ofWhole 'd' number
    | some (.fraction (.finite number)) => place.ofWhole 'd' number.truncated
    | some (.fraction .undefined) => .error (.wrongValue "cannot convert float NaN to integer")
    | some (.fraction _) => .error (.tooGreat "cannot convert float infinity to integer")
    | _ => .error (wholeFault "a real number")
  | 'o' | 'x' | 'X' =>
    match value.whole? with
    | some number => place.ofWhole letter number
    | none => .error (wholeFault "an integer")
  | 'e' | 'E' | 'f' | 'F' | 'g' | 'G' =>
    match value.scalar? with
    | some (.whole number) => do
      ((place.layout (some letter)).laidFraction "float" (← asFraction number)).mapError
        Fault.ofLayout
    | some (.fraction number) =>
      ((place.layout (some letter)).laidFraction "float" number).mapError Fault.ofLayout
    | _ => .error (.wrongType ("must be real number, not " ++ value.typeName))
  | _ => .error (.wrongValue ("unsupported format character '" ++ String.singleton letter ++
      "' (0x" ++ String.ofList (Number.inBase 16 letter.toNat) ++ ") at index " ++
      toString position))

/-- A template with marks, filled from a supply; each step takes at least one character. -/
def fillMarked (module : Module) (length : Nat) :
    Nat → Supply → List Char → Except Fault (List Char × Supply)
  | 0, supply, _ => .ok ([], supply)
  | _, supply, [] => .ok ([], supply)
  | steps + 1, supply, '%' :: '%' :: rest => do
    let (text, supply) ← fillMarked module length steps supply rest
    return ('%' :: text, supply)
  | steps + 1, supply, '%' :: rest => do
    let (place, supply, rest) ← takeMarked supply rest
    if place.letter = '%' then
      let (text, supply) ← fillMarked module length steps supply rest
      return ('%' :: text, supply)
    let (value, supply) ← match place.key with
      | some key => do pure (← supply.under key, { supply with values := [] })
      | none => supply.next
    let ofBytes? := if supply.isOfBytes then markedBytes? place value else none
    let shown ← ofBytes?.getD (module.markedText place (length - rest.length - 1) value)
    let (text, supply) ← fillMarked module length steps supply rest
    return (shown.toList ++ text, supply)
  | steps + 1, supply, character :: rest => do
    let (text, supply) ← fillMarked module length steps supply rest
    return (character :: text, supply)

/-- A template with marks, which is a text or made of bytes, filled with a value or with the values
of a tuple. -/
def filledByMarks (module : Module) (isOfBytes : Bool) (text : List Char) (value : Value) :
    Except Fault (List Char) := do
  let supply := Supply.ofValue isOfBytes value
  let (filled, left) ← module.fillMarked text.length (text.length + 1) supply text
  if !left.values.isEmpty && left.keyed.isNone then
    throw (.wrongType ("not all arguments converted during " ++
      (if isOfBytes then "bytes" else "string") ++ " formatting"))
  return filled

/-! ## Places between braces -/

/-- What stands between braces: what names the value and the steps from it, its conversion, and its
layout. -/
structure BracedPlace where
  name : List Char
  conversion : Option Char := none
  layout : List Char := []

/-- The name of a place up to the character that ends it, and what is left from that one on. What
stands in brackets belongs to the name. -/
def takeFieldName (isInBrackets : Bool) : List Char → Except Fault (List Char × List Char)
  | [] => .ok ([], [])
  | character :: rest =>
    if isInBrackets then
      (takeFieldName (character ≠ ']') rest).map fun found => (character :: found.1, found.2)
    else if character = '{' then .error (.wrongValue "unexpected '\x7b' in field name")
    else if ['}', ':', '!'].contains character then .ok ([], character :: rest)
    else (takeFieldName (character = '[') rest).map fun found => (character :: found.1, found.2)

/-- The text up to the brace that closes the one before it, and what is left after it. -/
def takeBraced : Nat → List Char → Option (List Char × List Char)
  | _, [] => none
  | 0, '}' :: rest => some ([], rest)
  | depth + 1, '}' :: rest => (takeBraced depth rest).map fun found => ('}' :: found.1, found.2)
  | depth, '{' :: rest => (takeBraced (depth + 1) rest).map fun found => ('{' :: found.1, found.2)
  | depth, character :: rest =>
    (takeBraced depth rest).map fun found => (character :: found.1, found.2)

/-- The layout of a place, and what is left after the brace that closes the place. -/
def takeLayout (place : BracedPlace) (text : List Char) :
    Except Fault (BracedPlace × List Char) :=
  match takeBraced 0 text with
  | some (layout, rest) => .ok ({ place with layout }, rest)
  | none => .error (.wrongValue "unmatched '\x7b' in format spec")

/-- The place after a brace, and what is left after the brace that closes it. -/
def takePlace (text : List Char) : Except Fault (BracedPlace × List Char) := do
  let (name, rest) ← takeFieldName false text
  match rest with
  | '}' :: rest => return ({ name }, rest)
  | ['!'] => throw (.wrongValue "end of string while looking for conversion specifier")
  | '!' :: conversion :: '}' :: rest => return ({ name, conversion := some conversion }, rest)
  | '!' :: conversion :: ':' :: rest => takeLayout { name, conversion := some conversion } rest
  | ['!', conversion] => takeLayout { name, conversion := some conversion } []
  | '!' :: _ => throw (.wrongValue "expected ':' after conversion specifier")
  | ':' :: rest => takeLayout { name } rest
  | _ => throw (.wrongValue "expected '\x7d' before end of string")

/-- How places without a name count the values that they stand for. -/
inductive Counting
  | undecided
  | counted (next : Nat)
  /-- Places tell the numbers of their values. -/
  | told

/-- What places are given: values in order, if there may be any, and the values of names. -/
structure Giving where
  values : Option (List Value)
  named : String → Except Fault Value

/-- The value at a place among those that are given in order. -/
def Giving.at (giving : Giving) (place : Nat) : Except Fault Value :=
  match giving.values with
  | none => .error (.wrongValue "Format string contains positional fields")
  | some values =>
    match values[place]? with
    | some value => .ok value
    | none => .error (.missingItem ("Replacement index " ++ toString place ++
        " out of range for positional args tuple"))

/-- The number that digits write, if there is nothing else. -/
def wholeNumber? (text : List Char) : Except Fault (Option Nat) :=
  match Text.Layout.takeNumber text with
  | (some number, []) =>
    if Text.Layout.greatestNumber < number then
      .error (.wrongValue "Too many decimal digits in format string")
    else .ok (some number)
  | _ => .ok none

/-- The value of a name in a template, and how places are counted afterwards. -/
def namedValue (giving : Giving) (counting : Counting) (name : List Char) :
    Except Fault (Value × Counting) := do
  match name.isEmpty, ← wholeNumber? name, counting with
  | true, _, .told =>
    throw (.wrongValue
      "cannot switch from manual field specification to automatic field numbering")
  | true, _, .undecided => return (← giving.at 0, .counted 1)
  | true, _, .counted next => return (← giving.at next, .counted (next + 1))
  | false, some _, .counted _ =>
    throw (.wrongValue
      "cannot switch from automatic field numbering to manual field specification")
  | false, some place, _ => return (← giving.at place, .told)
  | false, none, counting => return (← giving.named (String.ofList name), counting)

/-- The item of a value under a key in brackets, which is a number or a text. -/
def stepUnder (module : Module) (memory : Memory) (value : Value) (key : List Char) :
    Except Fault Value := do
  match ← wholeNumber? key with
  | some place => module.indexed memory value (.ofNat place)
  | none => module.indexed memory value (.ofText (String.ofList key))

/-- What steps from a value lead to; each of them takes at least one character. -/
def stepsFrom (module : Module) (memory : Memory) : Nat → Value → List Char → Except Fault Value
  | 0, value, _ | _, value, [] => .ok value
  | tries + 1, value, '.' :: rest => do
    let (name, rest) := rest.span fun character => character ≠ '.' && character ≠ '['
    if name.isEmpty then throw (.wrongValue "Empty attribute in format string")
    stepsFrom module memory tries (← module.attributeOf (String.ofList name) value) rest
  | tries + 1, value, '[' :: rest => do
    let (key, rest) := rest.span (· ≠ ']')
    if rest.isEmpty then throw (.wrongValue "Missing ']' in format string")
    if key.isEmpty then throw (.wrongValue "Empty attribute in format string")
    stepsFrom module memory tries (← module.stepUnder memory value key) (rest.drop 1)
  | _ + 1, _, _ =>
    .error (.wrongValue "Only '.' or '[' may follow ']' in format field specifier")

/-- The displayed form of a value that a conversion asks for, as a value. -/
def converted (module : Module) (value : Value) : Option Char → Except Fault Value
  | none => .ok value
  | some 's' => (module.told value).map .ofText
  | some 'r' => value.displayed.map .ofText
  | some 'a' => value.displayed.map fun text => .ofText (withEscapes text)
  | some letter =>
    .error (.wrongValue ("Unknown conversion specifier " ++ Text.Layout.toldCharacter letter))

/-- A template with braces, filled with values; templates in layouts are filled too, as deep as
`depth` says, and each step takes at least one character. -/
def fillBraced (module : Module) (memory : Memory) (giving : Giving) :
    Nat → Nat → Counting → List Char → Except Fault (List Char × Counting)
  | 0, _, _, _ => .error (.wrongValue "Max string recursion exceeded")
  | _, 0, counting, _ => .ok ([], counting)
  | _, _, counting, [] => .ok ([], counting)
  | depth, steps + 1, counting, '{' :: '{' :: rest => do
    let (text, counting) ← fillBraced module memory giving depth steps counting rest
    return ('{' :: text, counting)
  | depth, steps + 1, counting, '}' :: '}' :: rest => do
    let (text, counting) ← fillBraced module memory giving depth steps counting rest
    return ('}' :: text, counting)
  | _, _ + 1, _, '}' :: _ =>
    .error (.wrongValue "Single '\x7d' encountered in format string")
  | depth + 1, steps + 1, counting, '{' :: rest => do
    if rest.isEmpty then throw (.wrongValue "Single '\x7b' encountered in format string")
    let (place, rest) ← takePlace rest
    let (name, parts) := place.name.span fun character => character ≠ '.' && character ≠ '['
    let (value, counting) ← namedValue giving counting name
    let value ← module.stepsFrom memory parts.length value parts
    let value ← module.converted value place.conversion
    let (layout, counting) ←
      if place.layout.contains '{' then
        fillBraced module memory giving depth steps counting place.layout
      else pure (place.layout, counting)
    let shown ← module.laidOut value (String.ofList layout)
    let (text, counting) ← fillBraced module memory giving (depth + 1) steps counting rest
    return (shown.toList ++ text, counting)
  | depth, steps + 1, counting, character :: rest => do
    let (text, counting) ← fillBraced module memory giving depth steps counting rest
    return (character :: text, counting)

/-- A template with braces, filled with what is given. -/
def filledByBraces (module : Module) (memory : Memory) (giving : Giving) (text : List Char) :
    Except Fault Value := do
  let (filled, _) ← module.fillBraced memory giving 2 (text.length + 1) .undecided text
  return .ofText (String.ofList filled)

end Module

end ServiceStubs.Source
