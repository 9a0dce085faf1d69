import ServiceStubs.Text.Case
import ServiceStubs.Text.IntegerNumeral

/-!
# Parts of texts

Where a part stands in a text, a text cut at separators or at blanks, texts filled up to a width,
and texts with their letters in another case. Which characters are blanks and letters depends on
what the text is made of: characters, or bytes, of which only the first hundred and twenty-eight
have a meaning.
-/

namespace ServiceStubs.Text

/-! ## Alphabets -/

/-- What the characters of a text mean. -/
structure Alphabet where
  isBlank : Char → Bool
  isLineEnd : Char → Bool
  lowered : Char → List Char
  raised : Char → List Char
  isLower : Char → Bool
  isUpper : Char → Bool
  isLetter : Char → Bool
  isDigit : Char → Bool

/-- All characters. -/
def characters : Alphabet where
  isBlank character :=
    isNumeralBlank character || (0x1c ≤ character.toNat && character.toNat < 0x20)
  isLineEnd character :=
    [0xa, 0xb, 0xc, 0xd, 0x1c, 0x1d, 0x1e, 0x85, 0x2028, 0x2029].contains character.toNat
  lowered := Text.lowered
  raised := Text.raised
  isLower := Text.isLower
  isUpper := Text.isUpper
  isLetter := Text.isLetter
  isDigit := isDecimalDigit

/-- The characters of the codes of bytes. -/
def octets : Alphabet where
  isBlank character := [0x9, 0xa, 0xb, 0xc, 0xd, 0x20].contains character.toNat
  isLineEnd character := character = '\n' || character = '\r'
  lowered character := [character.toLower]
  raised character := [character.toUpper]
  isLower := Char.isLower
  isUpper := Char.isUpper
  isLetter := Char.isAlpha
  isDigit := Char.isDigit

/-! ## Places -/

/-- The first place at which a part stands in a text. -/
def placeOf? (part : List Char) : List Char → Option Nat
  | [] => if part.isEmpty then some 0 else none
  | character :: rest =>
    if part.isPrefixOf (character :: rest) then some 0 else (placeOf? part rest).map (· + 1)

/-- The last place at which a part stands in a text. -/
def lastPlaceOf? (part text : List Char) : Option Nat :=
  (placeOf? part.reverse text.reverse).map fun place => text.length - part.length - place

/-- How often a part stands in a text, after some characters are skipped; the places do not
overlap. -/
def countFrom (part : List Char) : Nat → List Char → Nat
  | _, [] => 0
  | skipped + 1, _ :: rest => countFrom part skipped rest
  | 0, character :: rest =>
    if part.isPrefixOf (character :: rest) then countFrom part (part.length - 1) rest + 1
    else countFrom part 0 rest

/-- How often a part stands in a text. -/
def countOf (part text : List Char) : Nat :=
  if part.isEmpty then text.length + 1 else countFrom part 0 text

/-! ## Cuts -/

/-- The pieces of a text between separators, after some characters are skipped, with at most `most`
cuts. -/
def cutFrom (separator : List Char) : Nat → Nat → List Char → List (List Char)
  | _, _, [] => [[]]
  | most, skipped + 1, _ :: rest => cutFrom separator most skipped rest
  | 0, 0, text => [text]
  | most + 1, 0, character :: rest =>
    if separator.isPrefixOf (character :: rest) then
      [] :: cutFrom separator most (separator.length - 1) rest
    else match cutFrom separator (most + 1) 0 rest with
      | [] => [[character]]
      | piece :: pieces => (character :: piece) :: pieces

/-- The pieces of a text between separators, cut from its beginning. -/
def cut (separator text : List Char) (most : Option Nat) : List (List Char) :=
  cutFrom separator (most.getD text.length) 0 text

/-- What is done from the end of a text instead of from its beginning. -/
def fromEnd (text : List Char) (cuts : List Char → List (List Char)) : List (List Char) :=
  ((cuts text.reverse).map List.reverse).reverse

/-- The words of a text between blanks, with at most `most` cuts. -/
def wordsFrom (isBlank : Char → Bool) : Nat → List Char → List (List Char)
  | most, text =>
    match text.dropWhile isBlank, most with
    | [], _ => []
    | text, 0 => [text]
    | text, most + 1 =>
      text.takeWhile (!isBlank ·) :: wordsFrom isBlank most (text.dropWhile (!isBlank ·))

/-- The lines of a text, with or without what ends them. -/
def linesOf (isLineEnd : Char → Bool) (isKept : Bool) : List Char → List (List Char)
  | [] => []
  | '\r' :: '\n' :: rest =>
    (if isKept then ['\r', '\n'] else []) :: linesOf isLineEnd isKept rest
  | character :: rest =>
    if isLineEnd character then
      (if isKept then [character] else []) :: linesOf isLineEnd isKept rest
    else match linesOf isLineEnd isKept rest, rest with
      | lines, [] => [character] :: lines
      | line :: lines, _ => (character :: line) :: lines
      | [], _ => [[character]]

/-- Words with a separator between neighbours. -/
def joinedBy (separator : List Char) (words : List (List Char)) : List Char :=
  (words.intersperse separator).flatten

/-- A text with a part replaced, at most a number of times. -/
def replaced (part other text : List Char) (most : Option Nat) : List Char :=
  if part.isEmpty then
    let count := min (most.getD (text.length + 1)) (text.length + 1)
    let opened := (text.take (count - 1)).flatMap (· :: other)
    if count = 0 then text else other ++ opened ++ text.drop (count - 1)
  else joinedBy other (cut part text most)

/-! ## Ends -/

/-- A text without the unwanted characters at its beginning. -/
def withoutLeading (isUnwanted : Char → Bool) (text : List Char) : List Char :=
  text.dropWhile isUnwanted

/-- A text without the unwanted characters at its end. -/
def withoutTrailing (isUnwanted : Char → Bool) (text : List Char) : List Char :=
  (text.reverse.dropWhile isUnwanted).reverse

/-! ## Case -/

namespace Alphabet

variable (alphabet : Alphabet)

/-- Whether a character is a letter in either case. -/
def isCased (character : Char) : Bool := alphabet.isLower character || alphabet.isUpper character

/-- A letter at the beginning of a word. -/
def opened (character : Char) : List Char :=
  match alphabet.raised character with
  | first :: rest => first :: rest.flatMap alphabet.lowered
  | [] => []

/-- A text with the first letter of each word in upper case; `isInside` says whether the text
goes on within a word. -/
def titled (isInside : Bool) : List Char → List Char
  | [] => []
  | character :: rest =>
    (if isInside then alphabet.lowered character else alphabet.opened character) ++
      titled (alphabet.isCased character) rest

/-- A text with its first letter in upper case. -/
def capitalized : List Char → List Char
  | [] => []
  | character :: rest => alphabet.opened character ++ rest.flatMap alphabet.lowered

/-- A text with its letters in the other case. -/
def swapped (text : List Char) : List Char :=
  text.flatMap fun character =>
    if alphabet.isUpper character then alphabet.lowered character else alphabet.raised character

/-- Whether the letters of a text are in upper case at the beginnings of words only; `isInside`
says whether the text goes on within a word. -/
def isTitledFrom (isInside : Bool) : List Char → Bool
  | [] => true
  | character :: rest =>
    (if alphabet.isUpper character then !isInside
      else if alphabet.isLower character then isInside else true) &&
      isTitledFrom (alphabet.isCased character) rest

/-- Whether a text has letters, and those in upper case at the beginnings of words only. -/
def isTitled (text : List Char) : Bool :=
  text.any alphabet.isCased && alphabet.isTitledFrom false text

/-- Whether a text is not empty and a test accepts all its characters. -/
def isAll (test : Char → Bool) (text : List Char) : Bool := !text.isEmpty && text.all test

/-- Whether a text has letters of one case and none of the other. -/
def isOneCase (wanted other : Char → Bool) (text : List Char) : Bool :=
  text.any wanted && !text.any other

end Alphabet

/-! ## Widths -/

/-- A text in the middle of a width. -/
def centred (fill : Char) (width : Nat) (text : List Char) : List Char :=
  let room := width - text.length
  let before := room / 2 + (if room % 2 = 1 && width % 2 = 1 then 1 else 0)
  List.replicate before fill ++ text ++ List.replicate (room - before) fill

/-- A numeral with zeros after its sign, up to a width. -/
def zeroFilled (width : Nat) (text : List Char) : List Char :=
  let zeros := List.replicate (width - text.length) '0'
  match text with
  | '+' :: rest => '+' :: (zeros ++ rest)
  | '-' :: rest => '-' :: (zeros ++ rest)
  | text => zeros ++ text

/-- A text with blanks in the place of tabs, from a column on. -/
def withoutTabs (size column : Nat) : List Char → List Char
  | [] => []
  | '\t' :: rest =>
    let count := if size = 0 then 0 else size - column % size
    List.replicate count ' ' ++ withoutTabs size (column + count) rest
  | character :: rest =>
    character :: withoutTabs size (if character = '\n' || character = '\r' then 0 else column + 1)
      rest

end ServiceStubs.Text
