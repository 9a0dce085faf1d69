import ServiceStubs.Datum
import ServiceStubs.Source.Refusal
import ServiceStubs.Text.Lines
import ServiceStubs.Text.NameCharacters
import ServiceStubs.Text.Normalization

/-!
# Tokens

A text of code is taken apart into tokens: words, numbers, texts between quotes, and marks. A
token is the longest one that stands at its place; a word or a number that goes on with characters
that it cannot have is refused, and so is a character that belongs to no token.
-/

namespace ServiceStubs.Source

/-! ## Lexemes -/

/-- How a text between quotes is read. -/
structure QuoteStyle where
  /-- A backslash stands for itself. -/
  isRaw : Bool := false
  /-- The text stands for bytes. -/
  isBytes : Bool := false
  /-- The text has expressions between braces. -/
  isFormat : Bool := false
deriving DecidableEq, Repr, Inhabited

/-- What a token is. -/
inductive Lexeme
  /-- A name, or a word with a meaning of its own. -/
  | word (text : String)
  | number (value : Datum)
  /-- A number times the imaginary unit, with its digits. -/
  | imaginary (value : Dyadic)
  /-- A text between quotes, with the characters between them as they are written. -/
  | quoted (style : QuoteStyle) (content : List Char)
  /-- An operator, a bracket or another mark. -/
  | mark (text : String)
  /-- The end of a line that holds code. -/
  | lineEnd
  /-- The next line is indented more. -/
  | indent
  /-- The next line is indented less. -/
  | dedent
  | textEnd
deriving Repr, Inhabited

/-- Words with a meaning of their own, which name nothing. -/
def keywords : List String := [
  "False", "None", "True", "and", "as", "assert", "async", "await", "break", "class", "continue",
  "def", "del", "elif", "else", "except", "finally", "for", "from", "global", "if", "import",
  "in", "is", "lambda", "nonlocal", "not", "or", "pass", "raise", "return", "try", "while",
  "with", "yield"]

/-- Operators, brackets and other marks, longer ones before those that they begin with. -/
def marks : List String := [
  "...", "**=", "//=", "<<=", ">>=", "**", "//", "<<", ">>", "<=", ">=", "==", "!=", "<>", ":=",
  "->", "+=", "-=", "*=", "/=", "%=", "@=", "&=", "|=", "^=", "+", "-", "*", "/", "%", "@", "&",
  "|", "^", "~", "<", ">", "(", ")", "[", "]", "\x7b", "\x7d", ",", ":", ".", ";", "=", "!", "$",
  "?", "\x60"]

/-! ## Characters -/

/-- Whether a character of a text belongs to a word: it is no mark and no blank. -/
def isWordCharacter (character : Char) : Bool :=
  character.isAlphanum || character = '_' || 0x80 ≤ character.toNat

/-- Whether a character separates tokens on a line. -/
def isGap (character : Char) : Bool :=
  character = ' ' || character = '\t' || character = '\x0c'

/-- A code point with at least four digits. -/
def shownCode (code : Nat) : String :=
  let digits := (Nat.toDigits 16 code).map Char.toUpper
  String.ofList (List.replicate (4 - digits.length) '0' ++ digits)

/-- What is said of a character that belongs to no token. -/
def invisibleMessage (character : Char) : String :=
  "invalid non-printable character U+" ++ shownCode character.toNat

/-- What is said of a character that a word cannot have. -/
def strangeMessage (character : Char) : String :=
  if Text.isPrintable character then
    "invalid character '" ++ String.singleton character ++ "' (U+" ++
      shownCode character.toNat ++ ")"
  else invisibleMessage character

/-! ## Numbers -/

/-- A scan of something at the beginning of a text: what it is and the text after it, or what is
wrong with it. -/
abbrev Scan (α : Type) := Except String (α × List Char)

/-- The value of a digit of a base up to sixteen. -/
def digitOf (character : Char) : Nat :=
  if character.isDigit then character.toNat - '0'.toNat
  else if character.isLower then character.toNat - 'a'.toNat + 10
  else character.toNat - 'A'.toNat + 10

/-- Whether a character is a digit of a base. -/
def isDigitOf (base : Nat) (character : Char) : Bool :=
  (character.isDigit || ('a' ≤ character.toLower && character.toLower ≤ 'f')) &&
    digitOf character < base

/-- The number that digits of a base write. -/
def numberOf (base : Nat) (digits : List Char) : Nat :=
  digits.foldl (fun value digit => value * base + digitOf digit) 0

/-- What is said of a numeral of a kind. -/
def numeralMessage (kind : String) : String := "invalid " ++ kind ++ " literal"

/-- Decimal digits, with single underscores between them. -/
def scanDigits : List Char → Scan (List Char)
  | '_' :: next :: rest =>
    if next.isDigit then
      (scanDigits rest).map fun (digits, rest) => (next :: digits, rest)
    else .error (numeralMessage "decimal")
  | ['_'] => .error (numeralMessage "decimal")
  | character :: rest =>
    if character.isDigit then
      (scanDigits rest).map fun (digits, rest) => (character :: digits, rest)
    else .ok ([], character :: rest)
  | [] => .ok ([], [])

/-- A base with a letter of its own. -/
structure NumeralBase where
  size : Nat
  kind : String

/-- The base of a letter. -/
def NumeralBase.ofLetter? (letter : Char) : Option NumeralBase :=
  if letter.toLower = 'x' then some ⟨16, "hexadecimal"⟩
  else if letter.toLower = 'o' then some ⟨8, "octal"⟩
  else if letter.toLower = 'b' then some ⟨2, "binary"⟩
  else none

/-- What is said where a digit of a base is missing. -/
def NumeralBase.message (base : NumeralBase) : List Char → String
  | character :: _ =>
    if character.isDigit then
      "invalid digit '" ++ String.singleton character ++ "' in " ++ base.kind ++ " literal"
    else numeralMessage base.kind
  | [] => numeralMessage base.kind

/-- Digits of a base, with single underscores before and between them. A digit has to come next
unless one `isRead`. -/
def NumeralBase.scan (base : NumeralBase) (isRead : Bool) : List Char → Scan (List Char)
  | '_' :: next :: rest =>
    if isDigitOf base.size next then
      (base.scan true rest).map fun (digits, rest) => (next :: digits, rest)
    else .error (base.message (next :: rest))
  | ['_'] => .error (base.message [])
  | character :: rest =>
    if isDigitOf base.size character then
      (base.scan true rest).map fun (digits, rest) => (character :: digits, rest)
    else if isRead && !character.isDigit then .ok ([], character :: rest)
    else .error (base.message (character :: rest))
  | [] => if isRead then .ok ([], []) else .error (base.message [])

/-- Whether a word that may stand after a number stands at the beginning of a text. -/
def opensWithJoiningWord (text : List Char) : Bool :=
  ["and", "else", "for", "or", "not"].any (fun word =>
      match Text.afterOpening? word.toList text with
      | some rest => !rest.head?.any isWordCharacter
      | none => false) ||
    ["if", "in", "is"].any fun word => (Text.afterOpening? word.toList text).isSome

/-- A number that ends before a text, which goes on with no other word; a character outside of
ASCII begins something else. -/
def endNumber (kind : String) (value : Lexeme) (rest : List Char) : Scan Lexeme :=
  let goesOn := rest.head?.any fun character => isWordCharacter character && character.toNat < 0x80
  if goesOn && !opensWithJoiningWord rest then
    .error (numeralMessage kind)
  else .ok (value, rest)

/-- An exponent of ten, if there is one; a letter that no digits follow belongs to what comes
next. -/
def scanExponent (text : List Char) : Scan (Option Int) :=
  match text with
  | letter :: rest =>
    if letter.toLower ≠ 'e' then .ok (none, text)
    else
      let (sign, digits) := match rest with
        | '-' :: digits => (some true, digits)
        | '+' :: digits => (some false, digits)
        | digits => (none, digits)
      if digits.head?.any Char.isDigit then
        (scanDigits digits).map fun (digits, rest) =>
          let value := Int.ofNat (numberOf 10 digits)
          (some (if sign = some true then -value else value), rest)
      else if sign.isSome then .error (numeralMessage "decimal")
      else .ok (none, text)
  | [] => .ok (none, [])

/-- A number in decimal digits. A whole number begins with no zero but zero. -/
def scanDecimal (text : List Char) : Except String (Lexeme × List Char) := do
  let (whole, rest) ← match text with
    | '.' :: _ => .ok ([], text)
    | text => scanDigits text
  let (fraction, rest) ← match rest with
    | '.' :: rest =>
      if rest.head?.any Char.isDigit then
        (scanDigits rest).map fun (digits, rest) => (some digits, rest)
      else .ok (some [], rest)
    | rest => .ok (none, rest)
  let (exponent, rest) ← scanExponent rest
  let places := fraction.getD []
  let value := Dyadic.ofDecimal false (numberOf 10 (whole ++ places))
    (exponent.getD 0 - Int.ofNat places.length)
  let isWhole := fraction.isNone && exponent.isNone
  match rest with
  | letter :: after =>
    if letter.toLower = 'j' then return ← endNumber "imaginary" (.imaginary value) after
  | [] => pure ()
  if !isWhole then endNumber "decimal" (.number (.fraction (.ofDyadic value))) rest
  else if whole.head? = some '0' && whole.any (· ≠ '0') then
    .error ("leading zeros in decimal integer literals are not permitted; " ++
      "use an 0o prefix for octal integers")
  else endNumber "decimal" (.number (.number (Int.ofNat (numberOf 10 whole)))) rest

/-- A number. -/
def scanNumber (text : List Char) : Except String (Lexeme × List Char) :=
  match text with
  | '0' :: letter :: rest =>
    match NumeralBase.ofLetter? letter with
    | some base => do
      let (digits, rest) ← base.scan false rest
      endNumber base.kind (.number (.number (Int.ofNat (numberOf base.size digits)))) rest
    | none => scanDecimal text
  | _ => scanDecimal text

/-! ## Texts between quotes -/

/-- The quotes that a text begins with: three of a kind, or one. -/
def openingQuotes? : List Char → Option (List Char)
  | first :: rest =>
    if first = '\'' || first = '"' then
      if rest.take 2 = [first, first] then some [first, first, first] else some [first]
    else none
  | [] => none

/-- The characters up to closing quotes as they are written, and the text after the quotes; `ahead`
bounds their number. A character after a backslash closes nothing. A text between single quotes
ends on its line; where it does not close, the text that is left is given. -/
def scanQuoted (closing : List Char) : Nat → List Char → Except (List Char) (List Char × List Char)
  | 0, text => .error text
  | ahead + 1, text =>
    match Text.afterOpening? closing text with
    | some rest => .ok ([], rest)
    | none =>
      match text with
      | [] => .error []
      | '\\' :: character :: rest =>
        (scanQuoted closing ahead rest).map fun (content, rest) =>
          ('\\' :: character :: content, rest)
      | character :: rest =>
        if character = '\n' && closing.length = 1 then .error text
        else (scanQuoted closing ahead rest).map fun (content, rest) =>
          (character :: content, rest)

/-- How the letters before quotes say that the text between them is read, if they can stand
there. -/
def QuoteStyle.ofLetters? (letters : String) : Option QuoteStyle :=
  match letters.toLower with
  | "" | "u" => some {}
  | "r" => some { isRaw := true }
  | "b" => some { isBytes := true }
  | "br" | "rb" => some { isBytes := true, isRaw := true }
  | "f" => some { isFormat := true }
  | "fr" | "rf" => some { isFormat := true, isRaw := true }
  | _ => none

/-! ## Words -/

/-- What is wrong with a word, if anything is. -/
def wordFault? (word : String) : Option String :=
  match word.toList with
  | [] => none
  | first :: rest =>
    if !Text.isNameStart first then some (strangeMessage first)
    else (rest.find? fun character => !Text.isNameInner character).map strangeMessage

end ServiceStubs.Source
