import ServiceStubs.Source.Token

/-!
# Escapes in texts between quotes

A backslash between quotes makes a character that cannot be written as itself, or writes one by its
code. A line break after a backslash stands for nothing, and a backslash before any other character
for itself. An escape that is cut short is refused, with its place in the text; a character outside
of ASCII takes ten places there.
-/

namespace ServiceStubs.Source

/-- The character of an escape, if it is one that needs no digits. -/
def escaped? : Char → Option Char
  | 'n' => some '\n' | 't' => some '\t' | 'r' => some '\r' | '\\' => some '\\' | '\'' => some '\''
  | '"' => some '"' | 'a' => some '\x07' | 'b' => some '\x08' | 'f' => some '\x0c'
  | 'v' => some '\x0b'
  | _ => none

/-- An escape by the code of a character in digits of base sixteen. -/
structure CodeEscape where
  letter : Char
  digitCount : Nat

/-- The escapes by code. -/
def codeEscapes : List CodeEscape := [⟨'x', 2⟩, ⟨'u', 4⟩, ⟨'U', 8⟩]

/-- The escape by code with a letter; bytes have one alone. -/
def codeEscape? (isBytes : Bool) (letter : Char) : Option CodeEscape :=
  codeEscapes.find? fun escape => escape.letter = letter && (!isBytes || letter = 'x')

/-- The form of an escape in messages. -/
def CodeEscape.form (escape : CodeEscape) : String :=
  "\\" ++ String.singleton escape.letter ++ String.ofList (List.replicate escape.digitCount 'X')

/-- The greatest code of a character. -/
def greatestCode : Nat := 0x10FFFF

/-- The places that a character takes in the count of messages. -/
def placesOf (character : Char) : Nat := if character.toNat < 0x80 then 1 else 10

/-- What is said of an escape at some places of a text. -/
def escapeMessage (start count : Nat) (reason : String) : String :=
  "(unicode error) 'unicodeescape' codec can't decode bytes in position " ++ toString start ++
    "-" ++ toString (start + count - 1) ++ ": " ++ reason

/-- The character that an escape by code at a place writes before a text. -/
def CodeEscape.read (escape : CodeEscape) (isBytes : Bool) (place : Nat) (text : List Char) :
    Except String Char :=
  let digits := (text.take escape.digitCount).takeWhile (isDigitOf 16)
  let code := numberOf 16 digits
  if isBytes && digits.length < escape.digitCount then
    .error ("(value error) invalid \\x escape at position " ++ toString place)
  else if digits.length < escape.digitCount then
    .error (escapeMessage place (digits.length + 2) ("truncated " ++ escape.form ++ " escape"))
  else if greatestCode < code then
    .error (escapeMessage place (digits.length + 2) "illegal Unicode character")
  else .ok (Char.ofNat code)

/-- What stands for a character that is written by its name. -/
def unnamedCharacter : Char := '\ufffd'

/-- A text as it is meant, at a place of the whole text. The first `skipped` characters belong to an
escape before them. -/
def unescaped (isBytes : Bool) (place skipped : Nat) : List Char → Except String (List Char)
  | [] => .ok []
  | '\\' :: character :: rest =>
    if skipped = 0 then
      let go (length : Nat) (meant : List Char) : Except String (List Char) := do
        let others ← unescaped isBytes (place + 2) length rest
        return meant ++ others
      if character = '\n' then go 0 []
      else if character = 'N' && !isBytes then
        if (rest.dropWhile (· ≠ '\x7d')).isEmpty || rest.head? ≠ some '\x7b' then
          .error (escapeMessage place 2 "malformed \\N character escape")
        else go ((rest.takeWhile (· ≠ '\x7d')).length + 1) [unnamedCharacter]
      else match escaped? character, codeEscape? isBytes character with
        | some meant, _ => go 0 [meant]
        | none, some escape => do
          let meant ← escape.read isBytes place rest
          go escape.digitCount [meant]
        | none, none =>
          if isDigitOf 8 character then
            let digits := character :: (rest.take 2).takeWhile (isDigitOf 8)
            go (digits.length - 1) [Char.ofNat (numberOf 8 digits)]
          else do
            let others ← unescaped isBytes (place + 1) 0 (character :: rest)
            return '\\' :: others
    else unescaped isBytes (place + 1) (skipped - 1) (character :: rest)
  | character :: rest => do
    let others ← unescaped isBytes (place + placesOf character) (skipped - 1) rest
    return if skipped = 0 then character :: others else others

/-- What a text between quotes means, read in a style. -/
def QuoteStyle.meaning (style : QuoteStyle) (content : List Char) : Except String String :=
  if style.isBytes && content.any fun character => 0x80 ≤ character.toNat then
    .error "bytes can only contain ASCII literal characters"
  else if style.isRaw then .ok (String.ofList content)
  else (unescaped style.isBytes 0 0 content).map String.ofList

end ServiceStubs.Source
