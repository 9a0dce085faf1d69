import ServiceStubs.Source.Template
import ServiceStubs.Text.Parts

/-!
# Functions of texts

The functions that strings and bytes have: parts are found, cut off and replaced, letters change
their case, and the kinds of the characters are told. Strings and bytes share most of these
functions; what they are given has to be of their own kind.
-/

namespace ServiceStubs.Source

open ServiceStubs.Text (Alphabet)

namespace Value

/-! ## Strings and bytes -/

/-- What a text is made of. -/
inductive TextKind
  | string
  | bytes (isChangeable : Bool)
deriving DecidableEq, Repr

namespace TextKind

/-- What the characters of a text mean. -/
def alphabet : TextKind → Alphabet
  | string => Text.characters
  | bytes _ => Text.octets

/-- The value of a text. -/
def make (kind : TextKind) (text : List Char) : Value :=
  match kind with
  | string => .ofText (String.ofList text)
  | bytes isChangeable => .bytes isChangeable (text.map Char.toNat)

/-- The values of several texts. -/
def makeAll (kind : TextKind) (texts : List (List Char)) : List Value := texts.map kind.make

end TextKind

/-- The characters of a value that is a text of a kind, or of bytes. -/
def textOf? (kind : TextKind) (value : Value) : Option (List Char) :=
  match kind, value.plain with
  | .string, .string quotation => some quotation.text.toList
  | .bytes _, .bytes _ codes => some (codes.map Char.ofNat)
  | _, _ => none

/-- How a value is named where a text is wanted. -/
def namedType (value : Value) : String :=
  if value matches .constant .missing then "None" else value.typeName

/-- The fault of a value in the place of a whole number. -/
def notInteger (value : Value) : Fault :=
  .wrongType ("'" ++ value.typeName ++ "' object cannot be interpreted as an integer")

/-- The whole number that a value is. -/
def integer (value : Value) : Except Fault Int :=
  match value.whole? with
  | some number => .ok number
  | none => .error value.notInteger

/-- The whole number that a value is, or another one if it is not given. -/
def integerOr (other : Int) : Option Value → Except Fault Int
  | none => .ok other
  | some value => value.integer

/-- A number of cuts or of places, of which a negative one means any number. -/
def limit? (value : Option Value) : Except Fault (Option Nat) := do
  let number ← integerOr (-1) value
  return if number < 0 then none else some number.toNat

/-! ## Arguments -/

section

variable (kind : TextKind)

/-- The characters of an argument at a place of a function. -/
def textArgument (function : String) (place : Nat) (value : Value) : Except Fault (List Char) :=
  match value.textOf? kind, kind with
  | some text, _ => .ok text
  | none, .bytes _ => .error (.wrongType ("a bytes-like object is required, not '" ++
      value.typeName ++ "'"))
  | none, .string => .error (.wrongType (function ++ "() argument " ++
      (if place = 0 then "" else toString place ++ " ") ++ "must be str, not " ++ value.namedType))

/-- The characters of a part to look for; a whole number stands for the byte of its code. -/
def partArgument (value : Value) : Except Fault (List Char) :=
  match value.textOf? kind, kind, value.whole? with
  | some text, _, _ => .ok text
  | none, .string, _ => .error (.wrongType ("must be str, not " ++ value.typeName))
  | none, .bytes _, some code =>
    if 0 ≤ code && code < 256 then .ok [Char.ofNat code.toNat]
    else .error (.wrongValue "byte must be in range(0, 256)")
  | none, .bytes _, none => .error (.wrongType
      ("argument should be integer or bytes-like object, not '" ++ value.typeName ++ "'"))

/-- The characters of a separator, if one is given. -/
def separatorArgument (value : Option Value) : Except Fault (Option (List Char)) :=
  match value with
  | none | some (.constant .missing) => .ok none
  | some value =>
    match value.textOf? kind, kind with
    | some [], _ => .error (.wrongValue "empty separator")
    | some text, _ => .ok (some text)
    | none, .string => .error (.wrongType ("must be str or None, not " ++ value.typeName))
    | none, .bytes _ => .error (.wrongType ("a bytes-like object is required, not '" ++
        value.typeName ++ "'"))

/-- The unwanted characters at an end of a text. -/
def unwantedArgument (function : String) (value : Option Value) : Except Fault (Char → Bool) :=
  match value with
  | none | some (.constant .missing) => .ok kind.alphabet.isBlank
  | some value =>
    match value.textOf? kind, kind with
    | some text, _ => .ok text.contains
    | none, .string => .error (.wrongType (function ++ " arg must be None or str"))
    | none, .bytes _ => .error (.wrongType ("a bytes-like object is required, not '" ++
        value.typeName ++ "'"))

/-- The character that fills a text up. -/
def fillArgument (function : String) (value : Option Value) : Except Fault Char :=
  match value with
  | none => .ok ' '
  | some value =>
    match value.textOf? kind, kind with
    | some [fill], _ => .ok fill
    | some _, .string =>
      .error (.wrongType "The fill character must be exactly one character long")
    | none, .string => .error (.wrongType ("The fill character must be a unicode character, not " ++
        value.typeName))
    | _, .bytes _ => .error (.wrongType (function ++
        "() argument 2 must be a byte string of length 1, not " ++ value.namedType))

/-- The part of a text between two ends, and its place; there is none if the first end is behind
the text. -/
def windowOf (text : List Char) (start stop : Option Value) :
    Except Fault (Option (Nat × List Char)) := do
  let start := start.getD .nothing
  let span ← spanOf text.length start (stop.getD .nothing) .nothing
  let first := span.first.toNat
  if ((← sliceEnd? start).getD 0) > Int.ofNat text.length || span.last < span.first then
    return none
  return some (first, (text.take span.last.toNat).drop first)

/-! ## Functions -/

/-- The functions that look for a part of a text. -/
def searched (name : String) (text : List Char) (part : Value) (start stop : Option Value) :
    Except Fault Value := do
  let part ← partArgument kind part
  let window ← windowOf text start stop
  let found? := window.bind fun (first, text) =>
    (if name = "find" || name = "index" then Text.placeOf? part text
      else Text.lastPlaceOf? part text).map (· + first)
  match name, found? with
  | "count", _ => return .ofNat ((window.map fun (_, text) => Text.countOf part text).getD 0)
  | _, some place => return .ofNat place
  | "find", none | "rfind", none => return .ofInt (-1)
  | _, none => throw (.wrongValue (if kind = .string then "substring not found"
      else "subsection not found"))

/-- Whether a text begins or ends with one of some parts. -/
def hasEnd (name : String) (text : List Char) (part : Value) (start stop : Option Value) :
    Except Fault Value := do
  let isEnd (part text : List Char) : Bool :=
    if name = "startswith" then part.isPrefixOf text else part.isSuffixOf text
  let word := if kind = .string then "str" else "bytes"
  let parts ← match part.plain with
    | .tuple items => items.mapM fun item =>
        match item.textOf? kind, kind with
        | some text, _ => .ok text
        | none, .string => .error (.wrongType ("tuple for " ++ name ++
            " must only contain str, not " ++ item.typeName))
        | none, .bytes _ => .error (.wrongType ("a bytes-like object is required, not '" ++
            item.typeName ++ "'"))
    | plain =>
      match plain.textOf? kind with
      | some text => pure [text]
      | none => throw (.wrongType (name ++ " first arg must be " ++ word ++ " or a tuple of " ++
          word ++ ", not " ++ part.typeName))
  let window ← windowOf text start stop
  return .ofBool (window.any fun (_, text) => parts.any (isEnd · text))

/-- The pieces of a text between separators, or its words. -/
def split (isFromEnd : Bool) (text : List Char) (separator most : Option Value) :
    Except Fault Value := do
  let most ← limit? most
  let separator ← separatorArgument kind separator
  let cuts (text : List Char) : List (List Char) :=
    match separator with
    | some separator => Text.cut (if isFromEnd then separator.reverse else separator) text most
    | none => Text.wordsFrom kind.alphabet.isBlank (most.getD text.length) text
  return .list (kind.makeAll (if isFromEnd then Text.fromEnd text cuts else cuts text))

/-- The parts of a text before and after a separator, and the separator between them. -/
def parted (isFromEnd : Bool) (text : List Char) (separator : Value) : Except Fault Value := do
  let part ← match separator.textOf? kind, kind with
    | some text, _ => pure text
    | none, .string => throw (.wrongType ("must be str, not " ++ separator.typeName))
    | none, .bytes _ => throw (.wrongType ("a bytes-like object is required, not '" ++
        separator.typeName ++ "'"))
  if part.isEmpty then throw (.wrongValue "empty separator")
  let place? := if isFromEnd then Text.lastPlaceOf? part text else Text.placeOf? part text
  let parts := match place? with
    | some place => [text.take place, part, text.drop (place + part.length)]
    | none => if isFromEnd then [[], [], text] else [text, [], []]
  return .tuple (kind.makeAll parts)

/-- Texts joined with another one between neighbours. -/
def joinedTexts (module : Module) (text : List Char) (value : Value) : Except Fault Value := do
  let items ← match module.itemsOf value with
    | .ok items => pure items
    | .error _ => throw (.wrongType "can only join an iterable")
  let word := if kind = .string then "str instance" else "a bytes-like object"
  let texts ← items.zipIdx.mapM fun (item, place) =>
    match item.textOf? kind with
    | some text => Except.ok text
    | none => .error (.wrongType ("sequence item " ++ toString place ++ ": expected " ++ word ++
        ", " ++ item.typeName ++ " found"))
  return kind.make (Text.joinedBy text texts)

/-- What the functions without arguments say of the kinds of the characters of a text. -/
def kindTest? (name : String) (text : List Char) : Option Bool :=
  let alphabet := kind.alphabet
  match name with
  | "isalpha" => some (Alphabet.isAll alphabet.isLetter text)
  | "isdigit" | "isdecimal" | "isnumeric" => some (Alphabet.isAll alphabet.isDigit text)
  | "isalnum" => some (Alphabet.isAll
      (fun character => alphabet.isLetter character || alphabet.isDigit character) text)
  | "isspace" => some (Alphabet.isAll alphabet.isBlank text)
  | "isupper" => some (Alphabet.isOneCase alphabet.isUpper alphabet.isLower text)
  | "islower" => some (Alphabet.isOneCase alphabet.isLower alphabet.isUpper text)
  | "istitle" => some (alphabet.isTitled text)
  | "isascii" => some (text.all fun character => character.toNat < 128)
  | "isidentifier" => some (Text.isName (String.ofList text))
  | "isprintable" => some (text.all Text.isPrintable)
  | _ => none

/-- What the functions without arguments make of a text. -/
def recased? (name : String) (text : List Char) : Option (List Char) :=
  let alphabet := kind.alphabet
  match name with
  | "lower" => some (text.flatMap alphabet.lowered)
  | "upper" => some (text.flatMap alphabet.raised)
  | "casefold" => some (text.flatMap fun character =>
      if character = 'ß' then ['s', 's'] else alphabet.lowered character)
  | "capitalize" => some (alphabet.capitalized text)
  | "title" => some (alphabet.titled false text)
  | "swapcase" => some (alphabet.swapped text)
  | "copy" => some text
  | _ => none

/-- The functions that strings and bytes share, applied to arguments in the order of their
parameters. -/
def sharedTextMethod? (module : Module) (name : String) (text : List Char)
    (arguments : List (Option Value)) : Option (Except Fault Value) :=
  let argument (place : Nat) : Option Value := (arguments[place]?).join
  let first := (argument 0).getD .nothing
  let widened (lay : Char → Nat → List Char) : Except Fault Value := do
    let width ← first.integer
    let fill ← fillArgument kind name (argument 1)
    return kind.make (lay fill width.toNat)
  let stripped (strip : (Char → Bool) → List Char) : Except Fault Value := do
    return kind.make (strip (← unwantedArgument kind name (argument 0)))
  match kindTest? kind name text, recased? kind name text, name with
  | some result, _, _ => some (.ok (.ofBool result))
  | none, some text, _ => some (.ok (kind.make text))
  | none, none, "find" | none, none, "rfind" | none, none, "index" | none, none, "rindex"
  | none, none, "count" => some (searched kind name text first (argument 1) (argument 2))
  | none, none, "startswith" | none, none, "endswith" =>
    some (hasEnd kind name text first (argument 1) (argument 2))
  | none, none, "split" => some (split kind false text (argument 0) (argument 1))
  | none, none, "rsplit" => some (split kind true text (argument 0) (argument 1))
  | none, none, "splitlines" => some do
    let isKept ← integerOr 0 (argument 0)
    return .list (kind.makeAll (Text.linesOf kind.alphabet.isLineEnd (isKept ≠ 0) text))
  | none, none, "partition" => some (parted kind false text first)
  | none, none, "rpartition" => some (parted kind true text first)
  | none, none, "join" => some (joinedTexts kind module text first)
  | none, none, "strip" => some (stripped fun isUnwanted =>
      Text.withoutTrailing isUnwanted (Text.withoutLeading isUnwanted text))
  | none, none, "lstrip" => some (stripped fun isUnwanted => Text.withoutLeading isUnwanted text)
  | none, none, "rstrip" => some (stripped fun isUnwanted => Text.withoutTrailing isUnwanted text)
  | none, none, "ljust" => some (widened fun fill width =>
      text ++ List.replicate (width - text.length) fill)
  | none, none, "rjust" => some (widened fun fill width =>
      List.replicate (width - text.length) fill ++ text)
  | none, none, "center" => some (widened fun fill width => Text.centred fill width text)
  | none, none, "zfill" => some do
    return kind.make (Text.zeroFilled (← first.integer).toNat text)
  | none, none, "expandtabs" => some do
    return kind.make (Text.withoutTabs (← integerOr 8 (argument 0)).toNat 0 text)
  | none, none, "replace" => some do
    let part ← textArgument kind name 1 first
    let other ← textArgument kind name 2 ((argument 1).getD .nothing)
    return kind.make (Text.replaced part other text (← limit? (argument 2)))
  | none, none, "removeprefix" => some do
    let part ← textArgument kind name 0 first
    return kind.make ((Text.afterOpening? part text).getD text)
  | none, none, "removesuffix" => some do
    let part ← textArgument kind name 0 first
    return kind.make (if part.isSuffixOf text then text.take (text.length - part.length) else text)
  | none, none, _ => none

end

/-! ## Encodings -/

/-- How texts are written as bytes. -/
inductive Encoding
  | utf8
  | ascii
  | latin1
deriving DecidableEq, Repr

/-- The encoding of a name, if there is one. -/
def encodingOf? (name : String) : Option Encoding :=
  let plain := String.ofList ((name.toList.map Char.toLower).map fun character =>
    if character = '_' || character = ' ' then '-' else character)
  if ["utf-8", "utf8", "u8", "utf", "cp65001"].contains plain then some .utf8
  else if ["ascii", "us-ascii", "646"].contains plain then some .ascii
  else if ["latin-1", "latin1", "iso-8859-1", "iso8859-1", "8859", "cp819", "l1", "latin"].contains
      plain then some .latin1
  else none

/-- The text that an argument for an encoding is, if it is given; `name` is that of the
parameter. -/
def codecArgument (function name : String) (value : Option Value) :
    Except Fault (Option String) :=
  match value with
  | none => .ok none
  | some value =>
    match value.quotation? with
    | some quotation => .ok (some quotation.text)
    | none => .error (.wrongType (function ++ "() argument " ++ Text.quoted name ++
        " must be str, not " ++ value.namedType))

/-- The encoding of a name, if one is given. -/
def encodingNamed : Option String → Except Fault Encoding
  | none => .ok .utf8
  | some name =>
    match encodingOf? name with
    | some encoding => .ok encoding
    | none => .error (.raised ["LookupError", "Exception", "BaseException"]
        ("unknown encoding: " ++ name))

/-- The encoding that an argument names. -/
def encodingArgument (function : String) (value : Option Value) : Except Fault Encoding := do
  encodingNamed (← codecArgument function "encoding" value)

/-- A text as bytes. -/
def encoded (encoding : Encoding) (text : List Char) : Except Fault (List Nat) :=
  let limit := if encoding = .ascii then 128 else 256
  match encoding, text.findIdx? fun character => limit ≤ character.toNat with
  | .utf8, _ => .ok ((String.ofList text).toUTF8.toList.map UInt8.toNat)
  | _, none => .ok (text.map Char.toNat)
  | encoding, some place =>
    let name := if encoding = .ascii then "ascii" else "latin-1"
    let escape := String.ofList (Text.escapedCode ((text[place]?).elim 0 Char.toNat))
    .error (.raised ["UnicodeEncodeError", "UnicodeError", "ValueError", "Exception",
        "BaseException"]
      ("'" ++ name ++ "' codec can't encode character '" ++ escape ++ "' in position " ++
        toString place ++ ": ordinal not in range(" ++ toString limit ++ ")"))

/-- The fault of bytes that are no text. -/
def decodingFault (name : String) (code place : Nat) (reason : String) : Fault :=
  .raised ["UnicodeDecodeError", "UnicodeError", "ValueError", "Exception", "BaseException"]
    ("'" ++ name ++ "' codec can't decode byte 0x" ++ String.ofList (Text.hexDigits 2 code) ++
      " in position " ++ toString place ++ ": " ++ reason)

/-- Bytes as a text. -/
def decoded (encoding : Encoding) (codes : List Nat) : Except Fault String :=
  let firstHigh := codes.findIdx? (128 ≤ ·)
  match encoding, firstHigh with
  | .latin1, _ | _, none => .ok (String.ofList (codes.map Char.ofNat))
  | .ascii, some place =>
    .error (decodingFault "ascii" (codes.getD place 0) place "ordinal not in range(128)")
  | .utf8, some place =>
    match String.fromUTF8? (ByteArray.mk (codes.map UInt8.ofNat).toArray) with
    | some text => .ok text
    | none => .error (decodingFault "utf-8" (codes.getD place 0) place "invalid start byte")

/-- Bytes in hexadecimal digits. -/
def hexadecimal (codes : List Nat) : String := String.ofList (codes.flatMap (Text.hexDigits 2))

/-- The bytes of hexadecimal digits, with blanks between pairs of them. -/
def fromHexadecimal (text : List Char) : Except Fault (List Nat) :=
  go 0 text
where
  value? (character : Char) : Option Nat :=
    if character.isDigit then some (character.toNat - '0'.toNat)
    else if 'a' ≤ character.toLower && character.toLower ≤ 'f' then
      some (character.toLower.toNat - 'a'.toNat + 10)
    else none
  refused (place : Nat) : Except Fault (List Nat) :=
    .error (.wrongValue ("non-hexadecimal number found in fromhex() arg at position " ++
      toString place))
  go (place : Nat) : List Char → Except Fault (List Nat)
    | [] => .ok []
    | [character] =>
      if Text.octets.isBlank character then .ok []
      else refused (if (value? character).isSome then place + 1 else place)
    | first :: second :: rest =>
      if Text.octets.isBlank first then go (place + 1) (second :: rest)
      else match value? first, value? second with
        | some high, some low => (go (place + 2) rest).map ((high * 16 + low) :: ·)
        | some _, none => refused (place + 1)
        | none, _ => refused place

/-! ## Functions of strings -/

/-- The functions of strings, applied to arguments in the order of their parameters. -/
def stringMethod? (module : Module) (memory : Memory) (name : String) (text : List Char)
    (arguments : List (Option Value)) (named : List (String × Value)) :
    Option (Except Fault Value) :=
  let first := ((arguments[0]?).join).getD .nothing
  match name with
  | "encode" => some do
    let named ← codecArgument name "encoding" (arguments[0]?).join
    discard (codecArgument name "errors" (arguments[1]?).join)
    return .bytes false (← encoded (← encodingNamed named) text)
  | "format" =>
    some (module.filledByBraces memory {
      values := some arguments.reduceOption
      named := fun key => match named.lookup key with
        | some value => .ok value
        | none => .error (.missingKey (Text.quoted key)) } text)
  | "format_map" =>
    some (module.filledByBraces memory {
      values := none
      named := fun key => module.indexed memory first (.ofText key) } text)
  | _ => sharedTextMethod? .string module name text arguments

/-- The functions of bytes, applied to arguments in the order of their parameters. -/
def bytesMethod? (module : Module) (isChangeable : Bool) (name : String) (codes : List Nat)
    (arguments : List (Option Value)) : Option (Except Fault Value) :=
  match name with
  | "decode" => some do
    let encoding ← encodingArgument name (arguments[0]?).join
    return .ofText (← decoded encoding codes)
  | "hex" => some (.ok (.ofText (hexadecimal codes)))
  | _ => sharedTextMethod? (.bytes isChangeable) module name (codes.map Char.ofNat) arguments

end Value

end ServiceStubs.Source
