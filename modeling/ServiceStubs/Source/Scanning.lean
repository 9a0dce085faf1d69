import ServiceStubs.Source.Token

/-!
# The tokens of a text

A text of code is scanned line by line. How far a line is indented opens and closes blocks; blank
lines, comments and line breaks between brackets do not count. A scan ends at the end of the text
or where the text shows that it is no code: some flaws count whatever stands before them, others
only if everything before them is code.
-/

namespace ServiceStubs.Source

/-- A token at its position in a text. -/
structure Token where
  lexeme : Lexeme
  line : Nat
  /-- How many brackets are open after it. -/
  depth : Nat := 0
deriving Repr, Inhabited

/-- Where a scan is stopped by a flaw of the text. -/
structure Stop where
  refusal : Refusal
  /-- The flaw counts whatever stands before it. -/
  isFinal : Bool := true
  /-- The innermost bracket that is open, and its line. -/
  bracket : Option (Char × Nat) := none
deriving Repr, Inhabited

/-- The tokens of a text, and what stopped the scan if the end of the text did not. -/
structure Scanned where
  tokens : List Token
  stop : Option Stop := none
deriving Repr, Inhabited

/-- Where a scan stands. -/
structure Position where
  /-- The line that is read. -/
  line : Nat := 1
  /-- How far the lines of the open blocks are indented, the innermost first: with tabs that lead
  to the next multiple of eight, and with tabs of one blank. -/
  blocks : List (Nat × Nat) := []
  /-- The open brackets with their lines, the innermost first. -/
  brackets : List (Char × Nat) := []
deriving Repr, Inhabited

namespace Position

/-- A token at a position. -/
def token (position : Position) (lexeme : Lexeme) : Token :=
  ⟨lexeme, position.line, position.brackets.length⟩

/-- A scan that a flaw stops at a position. -/
def stop (position : Position) (refusal : Refusal) (isFinal : Bool) : Stop :=
  ⟨refusal, isFinal, position.brackets.head?⟩

/-- A scan that is stopped by a token that cannot be. -/
def refuse (position : Position) (message : String) : Stop :=
  position.stop ⟨message, position.line, .grammar⟩ true

/-- A position some lines further on. -/
def after (position : Position) (lines : Nat) : Position :=
  { position with line := position.line + lines }

/-- The position after a line break before a text; no line follows the last break. -/
def afterBreak (position : Position) (rest : List Char) : Position :=
  if rest.isEmpty then position else position.after 1

end Position

/-! ## Indentation -/

/-- The most blocks that may be open within each other. -/
def mostBlocks : Nat := 99

/-- How far a line is indented. -/
structure Indentation where
  /-- With tabs that lead to the next multiple of eight. -/
  wide : Nat := 0
  /-- With tabs of one blank. -/
  narrow : Nat := 0
  /-- The indentation before the first line break that is taken back. -/
  first : Nat := 0

/-- The columns of an indentation. -/
def Indentation.columns (indentation : Indentation) : Nat × Nat :=
  if indentation.first = 0 then (indentation.wide, indentation.narrow)
  else (indentation.first, indentation.first)

/-- The stop at a backslash that no line follows. -/
def Position.continuationStop (position : Position) (rest : List Char) : Stop :=
  match rest with
  | ['\n'] | [] =>
    match position.brackets with
    | (bracket, line) :: _ =>
      position.stop ⟨"'" ++ String.singleton bracket ++ "' was never closed", line, .grammar⟩ false
    | [] => position.stop ⟨"unexpected EOF while parsing", position.line, .grammar⟩ false
  | _ =>
    position.stop
      ⟨"unexpected character after line continuation character", position.line, .grammar⟩
      false

/-- The indentation that a line begins with, the text after it, and the position of that text. A
line break after a backslash is taken back. -/
def scanIndentation (position : Position) (indentation : Indentation) :
    List Char → Except Stop (Indentation × Position × List Char)
  | ' ' :: rest =>
    scanIndentation position { indentation with
      wide := indentation.wide + 1, narrow := indentation.narrow + 1 } rest
  | '\t' :: rest =>
    scanIndentation position { indentation with
      wide := (indentation.wide / 8 + 1) * 8, narrow := indentation.narrow + 1 } rest
  | '\x0c' :: rest =>
    scanIndentation position { indentation with wide := 0, narrow := 0 } rest
  | '\\' :: '\n' :: next :: rest =>
    let first := if indentation.first = 0 then indentation.wide else indentation.first
    scanIndentation (position.after 1) { indentation with first } (next :: rest)
  | '\\' :: rest => .error (position.continuationStop rest)
  | text => .ok (indentation, position, text)

/-- The tokens that an indentation makes, and the position with the blocks that are open then. -/
def openBlocks (position : Position) (columns : Nat × Nat) : Except Stop (List Token × Position) :=
  let (wide, narrow) := columns
  let current := position.blocks.headD (0, 0)
  let mixed := position.stop
    ⟨"inconsistent use of tabs and spaces in indentation", position.line, .tabs⟩
    false
  if wide = current.1 then
    if narrow = current.2 then .ok ([], position) else .error mixed
  else if current.1 < wide then
    if mostBlocks ≤ position.blocks.length then
      .error (position.stop ⟨"too many levels of indentation", position.line, .indentation⟩ false)
    else if narrow ≤ current.2 then .error mixed
    else .ok ([position.token .indent], { position with blocks := columns :: position.blocks })
  else
    let blocks := position.blocks.dropWhile fun block => wide < block.1
    let closed := position.blocks.length - blocks.length
    let outer := blocks.headD (0, 0)
    if wide ≠ outer.1 then
      .error (position.stop
        ⟨"unindent does not match any outer indentation level", position.line, .indentation⟩ false)
    else if narrow ≠ outer.2 then .error mixed
    else .ok (List.replicate closed (position.token .dedent), { position with blocks })

/-! ## Brackets -/

/-- The bracket that a closing one belongs to. -/
def openingOf? : Char → Option Char
  | ')' => some '('
  | ']' => some '['
  | '\x7d' => some '\x7b'
  | _ => none

/-- The most brackets that may be open within each other. -/
def mostBrackets : Nat := 200

/-- The position after a mark, which may open or close a bracket. -/
def afterMark (position : Position) (mark : String) : Except Stop Position :=
  match mark.toList with
  | [character] =>
    if ['(', '[', '\x7b'].contains character then
      if mostBrackets ≤ position.brackets.length then
        .error (position.refuse "too many nested parentheses")
      else .ok { position with brackets := (character, position.line) :: position.brackets }
    else match openingOf? character, position.brackets with
      | none, _ => .ok position
      | some _, [] =>
        .error (position.refuse ("unmatched '" ++ String.singleton character ++ "'"))
      | some wanted, (found, line) :: outer =>
        let position := { position with brackets := outer }
        if found = wanted then .ok position
        else .error (position.refuse ("closing parenthesis '" ++ String.singleton character ++
          "' does not match opening parenthesis '" ++ String.singleton found ++ "'" ++
          (if line = position.line then "" else " on line " ++ toString line)))
  | _ => .ok position

/-! ## Tokens -/

/-- The lines that a text breaks into after its first one; a break at the end counts none. -/
def furtherLines (text : List Char) : Nat :=
  (text.dropLast.filter (· = '\n')).length

/-- What is said of a text between quotes that does not close; `text` is what stands after the
quotes, and `left` the part of it that is not in the text between them. -/
def unclosedMessage (position : Position) (closing text left : List Char) : String :=
  let read := text.take (text.length - left.length)
  let last := position.line + furtherLines (read ++ left.take 1)
  "unterminated " ++ (if closing.length = 3 then "triple-quoted " else "") ++
    "string literal (detected at line " ++ toString last ++ ")"

/-- A text between quotes at the beginning of a text. -/
def scanText (position : Position) (style : QuoteStyle) (text : List Char) :
    Except Stop (Token × Position × List Char) :=
  let closing := (openingQuotes? text).getD []
  let inner := text.drop closing.length
  match scanQuoted closing (inner.length + 1) inner with
  | .ok (content, rest) =>
    .ok (position.token (.quoted style content),
      position.after (content.filter (· = '\n')).length, rest)
  | .error left => .error (position.refuse (unclosedMessage position closing inner left))

/-- A token at the beginning of a text that begins with no gap, no comment and no line break. -/
def scanToken (position : Position) (text : List Char) :
    Except Stop (Token × Position × List Char) :=
  match text with
  | [] => .ok (position.token .textEnd, position, [])
  | first :: rest =>
    if first.isDigit || (first = '.' && rest.head?.any Char.isDigit) then
      match scanNumber text with
      | .ok (lexeme, rest) => .ok (position.token lexeme, position, rest)
      | .error message => .error (position.refuse message)
    else if (openingQuotes? text).isSome then scanText position {} text
    else if isWordCharacter first then
      let word := String.ofList (text.takeWhile isWordCharacter)
      let rest := text.dropWhile isWordCharacter
      match QuoteStyle.ofLetters? word, openingQuotes? rest with
      | some style, some _ => scanText position style rest
      | _, _ =>
        match wordFault? word with
        | some message => .error (position.refuse message)
        | none => .ok (position.token (.word word), position, rest)
    else
      let found := marks.findSome? fun mark =>
        (Text.afterOpening? mark.toList text).map fun rest => (mark, rest)
      match found with
      | some (mark, rest) => (afterMark position mark).map fun position =>
          (position.token (.mark mark), position, rest)
      | none => .error (position.refuse (invisibleMessage first))

/-- A text without the comment that it begins with, if it does. -/
def afterComment (text : List Char) : List Char :=
  match text with
  | '#' :: rest => rest.dropWhile (· ≠ '\n')
  | text => text

/-- The tokens of a text, which is scanned from the beginning of a line or from within a line;
`ahead` bounds the number of steps. -/
def scanFrom : Nat → Bool → Position → List Char → List Token → Scanned
  | 0, _, _, _, tokens => ⟨tokens.reverse, none⟩
  | ahead + 1, true, position, text, tokens =>
    match scanIndentation position {} text with
    | .error stop => ⟨tokens.reverse, some stop⟩
    | .ok (indentation, position, rest) =>
      let isIdle := rest.head? = some '#' || rest.head? = some '\n'
      if isIdle then
        match afterComment rest with
        | '\n' :: rest => scanFrom ahead true (position.afterBreak rest) rest tokens
        | rest => scanFrom ahead false position rest tokens
      else if !position.brackets.isEmpty then scanFrom ahead false position rest tokens
      else match openBlocks position indentation.columns with
        | .error stop => ⟨tokens.reverse, some stop⟩
        | .ok (made, position) => scanFrom ahead false position rest (made ++ tokens)
  | ahead + 1, false, position, text, tokens =>
    match afterComment (text.dropWhile isGap) with
    | [] =>
      match position.brackets with
      | (bracket, line) :: _ =>
        ⟨tokens.reverse, some (position.stop
          ⟨"'" ++ String.singleton bracket ++ "' was never closed", line, .grammar⟩ false)⟩
      | [] => ⟨(position.token .textEnd :: tokens).reverse, none⟩
    | '\n' :: rest =>
      let made := if position.brackets.isEmpty then [position.token .lineEnd] else []
      scanFrom ahead true (position.afterBreak rest) rest (made ++ tokens)
    | '\\' :: '\n' :: next :: rest => scanFrom ahead false (position.after 1) (next :: rest) tokens
    | '\\' :: rest => ⟨tokens.reverse, some (position.continuationStop rest)⟩
    | text =>
      match scanToken position text with
      | .error stop => ⟨tokens.reverse, some stop⟩
      | .ok (token, position, rest) => scanFrom ahead false position rest (token :: tokens)

/-- A text in which every line ends with a line feed alone. -/
def withLineFeeds : List Char → List Char
  | '\r' :: '\n' :: rest => '\n' :: withLineFeeds rest
  | '\r' :: rest => '\n' :: withLineFeeds rest
  | character :: rest => character :: withLineFeeds rest
  | [] => []

/-- A text whose last line ends. -/
def withLastLine (text : List Char) : List Char :=
  if text.isEmpty || text.getLast? = some '\n' then text else text ++ ['\n']

/-- The tokens of a text with line feeds. -/
def scan (text : List Char) : Scanned := scanFrom (2 * text.length + 2) true {} text []

end ServiceStubs.Source
