import ServiceStubs.Text.Printable

/-!
# Quoted text

Text is displayed between quotes with escapes, so that it reads as one word whatever it holds.
Single quotes are used unless the text holds a single quote and no double quote. The quote in
use, backslashes and characters without a visible form are escaped.
-/

namespace ServiceStubs.Text

/-- One hexadecimal digit in lower case. -/
def hexDigit (value : Nat) : Char :=
  if value < 10 then Char.ofNat ('0'.toNat + value) else Char.ofNat ('a'.toNat + value - 10)

/-- The lowest hexadecimal digits of a number, highest first. -/
def hexDigits : Nat → Nat → List Char
  | 0, _ => []
  | width + 1, value => hexDigits width (value / 16) ++ [hexDigit (value % 16)]

/-- A character by its code point: two, four or eight digits, as few as hold it. -/
def escapedCode (code : Nat) : List Char :=
  if code < 0x100 then '\\' :: 'x' :: hexDigits 2 code
  else if code < 0x10000 then '\\' :: 'u' :: hexDigits 4 code
  else '\\' :: 'U' :: hexDigits 8 code

/-- One character as it is displayed between the given quotes. -/
def displayedCharacter (quote character : Char) : List Char :=
  if character = quote || character = '\\' then ['\\', character]
  else if character = '\n' then ['\\', 'n']
  else if character = '\r' then ['\\', 'r']
  else if character = '\t' then ['\\', 't']
  else if isPrintable character then [character]
  else escapedCode character.toNat

/-- The quote for a text: double if only single quotes occur in it, otherwise single. -/
def quoteFor (text : List Char) : Char :=
  if text.contains '\'' && !text.contains '"' then '"' else '\''

/-- The displayed form of a text, quotes included. -/
def quoted (text : String) : String :=
  let quote := quoteFor text.toList
  String.ofList (quote :: text.toList.flatMap (displayedCharacter quote) ++ [quote])

/-- The displayed form of bytes by their codes, quotes included. What is no visible character of
the first hundred and twenty-eight is escaped. -/
def quotedBytes (codes : List Nat) : String :=
  let characters := codes.map Char.ofNat
  let quote := quoteFor characters
  let displayed (character : Char) : List Char :=
    if character.toNat < 0x7f then displayedCharacter quote character
    else escapedCode character.toNat
  "b" ++ String.ofList (quote :: characters.flatMap displayed ++ [quote])

end ServiceStubs.Text
