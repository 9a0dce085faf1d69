/-!
# Integers written by people

The reading of an integer from text: blanks around it, a sign, and decimal digits of any script,
with single underscores allowed between digits. Leading zeros do not matter.
-/

namespace ServiceStubs.Text

/-- The code points of the digit zero of each script with decimal digits; the digits one to nine
follow each directly. -/
def zeroDigits : List Nat := [
  0x30, 0x660, 0x6f0, 0x7c0, 0x966, 0x9e6, 0xa66, 0xae6, 0xb66, 0xbe6, 0xc66, 0xce6, 0xd66,
  0xde6, 0xe50, 0xed0, 0xf20, 0x1040, 0x1090, 0x17e0, 0x1810, 0x1946, 0x19d0, 0x1a80, 0x1a90,
  0x1b50, 0x1bb0, 0x1c40, 0x1c50, 0xa620, 0xa8d0, 0xa900, 0xa9d0, 0xa9f0, 0xaa50, 0xabf0,
  0xff10, 0x104a0, 0x10d30, 0x11066, 0x110f0, 0x11136, 0x111d0, 0x112f0, 0x11450, 0x114d0,
  0x11650, 0x116c0, 0x11730, 0x118e0, 0x11950, 0x11c50, 0x11d50, 0x11da0, 0x16a60, 0x16ac0,
  0x16b50, 0x1d7ce, 0x1d7d8, 0x1d7e2, 0x1d7ec, 0x1d7f6, 0x1e140, 0x1e2f0, 0x1e950, 0x1fbf0]

/-- The value of a decimal digit of any script. -/
def digitValue? (character : Char) : Option Nat :=
  (zeroDigits.find? fun start => start ≤ character.toNat && character.toNat < start + 10).map
    (character.toNat - ·)

/-- Whether a character is a decimal digit of some script. -/
def isDecimalDigit (character : Char) : Bool := (digitValue? character).isSome

/-- The blanks allowed around a numeral. -/
def blankCodes : List Nat := [
  0x9, 0xa, 0xb, 0xc, 0xd, 0x20, 0x85, 0xa0, 0x1680, 0x2000, 0x2001, 0x2002, 0x2003, 0x2004,
  0x2005, 0x2006, 0x2007, 0x2008, 0x2009, 0x200a, 0x2028, 0x2029, 0x202f, 0x205f, 0x3000]

/-- Whether a character may stand around a numeral. -/
def isNumeralBlank (character : Char) : Bool := blankCodes.contains character.toNat

/-- The most digits a numeral may have. -/
def mostDigits : Nat := 4300

/-- Digits with single underscores between them. `afterDigit` says whether a digit was just
read: only then may an underscore or the end follow. -/
def digitsBetweenUnderscores? (afterDigit : Bool) : List Char → Option (List Nat)
  | [] => if afterDigit then some [] else none
  | character :: rest =>
    if character = '_' then
      if afterDigit then digitsBetweenUnderscores? false rest else none
    else do
      let digit ← digitValue? character
      let digits ← digitsBetweenUnderscores? true rest
      some (digit :: digits)

/-- The number written by decimal digits, highest first. -/
def valueOfDigits (digits : List Nat) : Nat :=
  digits.foldl (fun value digit => value * 10 + digit) 0

/-- A numeral without a sign. -/
def natural? (text : List Char) : Option Nat := do
  let digits ← digitsBetweenUnderscores? false text
  if digits.length ≤ mostDigits then some (valueOfDigits digits) else none

/-- The integer that a text writes, if it writes one. -/
def integer? (text : String) : Option Int :=
  let withoutFront := text.toList.dropWhile isNumeralBlank
  let bare := (withoutFront.reverse.dropWhile isNumeralBlank).reverse
  match bare with
  | '-' :: digits => (natural? digits).map fun value => -Int.ofNat value
  | '+' :: digits => (natural? digits).map Int.ofNat
  | digits => (natural? digits).map Int.ofNat

end ServiceStubs.Text
