import ServiceStubs.Source.Scanning

/-!
# Readers of tokens

A reader takes tokens from the front of those that are left. It fails where a token does not fit,
and then another reader may be tried from the same place, or it refuses the text, and then no other
reader is tried. A failure keeps the tokens that are left where the reading came furthest.
-/

namespace ServiceStubs.Source

/-- Why tokens cannot be read. -/
inductive Complaint
  /-- A token does not fit; it is the first of those that are left. -/
  | misfit (left : List Token)
  /-- The text is no code, which is found when the reading has come as far as a line. -/
  | refused (refusal : Refusal) (reached : Nat)

/-- A reader of tokens from the front. -/
abbrev Reader := StateT (List Token) (Except Complaint)

namespace Reader

variable {α : Type}

/-- The next token does not fit. -/
def misfit : Reader α := do throw (.misfit (← get))

/-- The next token, if the scan came as far. -/
def next? : Reader (Option Lexeme) := do return (← get).head?.map Token.lexeme

/-- The line of the next token. -/
def line : Reader Nat := do return ((← get).head?.map Token.line).getD 0

/-- The text is no code, which shows on a line, unless the scan is stopped here. -/
def refuse (message : String) (line : Nat) (flaw : Flaw := .grammar) : Reader α := do
  if (← get).isEmpty then misfit
  throw (.refused ⟨message, line, flaw⟩ (← Reader.line))

/-- Pass over the next token. -/
def skip : Reader Unit := modify (·.drop 1)

/-- Whether the next token is a mark. -/
def isAtMark (text : String) : Reader Bool := do
  return (← next?).any fun
    | .mark found => found = text
    | _ => false

/-- Whether the next token is a word. -/
def isAtWord (text : String) : Reader Bool := do
  return (← next?).any fun
    | .word found => found = text
    | _ => false

/-- Take a mark if it is the next token, and tell whether it is. -/
def takeMark (text : String) : Reader Bool := do
  if ← isAtMark text then
    skip
    return true
  return false

/-- Take a word if it is the next token, and tell whether it is. -/
def takeWord (text : String) : Reader Bool := do
  if ← isAtWord text then
    skip
    return true
  return false

/-- Take a mark. -/
def mark (text : String) : Reader Unit := do
  unless ← takeMark text do misfit

/-- Take a word. -/
def word (text : String) : Reader Unit := do
  unless ← takeWord text do misfit

/-- Take the end of a line. -/
def lineEnd : Reader Unit := do
  match ← next? with
  | some .lineEnd => skip
  | _ => misfit

/-- Take a name, in normal form. -/
def name : Reader String := do
  match ← next? with
  | some (.word text) =>
    if keywords.contains text then misfit
    else
      skip
      return Text.normalized text
  | _ => misfit

/-- Whether a reader can read on, which takes nothing. No reader reads on where the scan is
stopped. -/
def canRead (reader : Reader α) : Reader Bool := fun tokens =>
  match reader tokens with
  | .ok (_, []) | .error (.misfit []) => .error (.misfit [])
  | .ok _ => .ok (true, tokens)
  | .error _ => .ok (false, tokens)

/-- Whether a reader can read on, which takes nothing; what it refuses is refused. -/
def lookThrough (reader : Reader α) : Reader Bool := fun tokens =>
  match reader tokens with
  | .ok (_, []) | .error (.misfit []) => .error (.misfit [])
  | .ok _ => .ok (true, tokens)
  | .error (.misfit _) => .ok (false, tokens)
  | .error refused => .error refused

/-- Read with the first of two readers that can. -/
def either (first second : Reader α) : Reader α := fun tokens =>
  match first tokens with
  | .error (.misfit left) =>
    match second tokens with
    | .error (.misfit others) =>
      .error (.misfit (if left.length < others.length then left else others))
    | result => result
  | result => result

/-- Read again and again while there is something; `ahead` bounds how often. -/
def manyWithin (step : Reader (Option α)) : List Token → Reader (List α)
  | [] => pure []
  | _ :: ahead => do
    match ← step with
    | none => return []
    | some item => do
      let items ← manyWithin step ahead
      return item :: items

/-- Read again and again while there is something. -/
def many (step : Reader (Option α)) : Reader (List α) := do manyWithin step (← get)

/-- What comes after a mark, if the mark comes next. -/
def after (text : String) (reader : Reader α) : Reader (Option α) := do
  if ← takeMark text then return some (← reader)
  return none

/-- What comes after a word, if the word comes next. -/
def afterWord (text : String) (reader : Reader α) : Reader (Option α) := do
  if ← takeWord text then return some (← reader)
  return none

/-- The items after the first one, with a comma before each of them, and whether a comma ends them;
`starts` tells whether an item comes next. -/
def furtherItems (starts : Reader Bool) (item : Reader α) : Reader (List α × Bool) := do
  let items ← many do
    if ← isAtMark "," <&&> canRead (do skip; unless ← starts do misfit) then
      skip
      return some (← item)
    return none
  return (items, ← takeMark ",")

/-- Items with commas between them, and whether a comma ends them; `starts` tells whether an item
comes next. -/
def commaSeparated (starts : Reader Bool) (item : Reader α) : Reader (List α × Bool) := do
  let first ← item
  let (others, hasComma) ← furtherItems starts item
  return (first :: others, hasComma)

end Reader

/-! ## Refusals of texts -/

/-- A refusal of a text that was read as far as a line, or in its place that of the stop of the
scan: one that counts whatever stands before it, or one within brackets that were opened before. -/
def overridden (stop : Option Stop) (refusal : Refusal) (reached : Nat) : Refusal :=
  match stop with
  | some ⟨other, true, _⟩ => other
  | some ⟨_, false, some (bracket, opened)⟩ =>
    if opened < reached then
      ⟨"'" ++ String.singleton bracket ++ "' was never closed", opened, .grammar⟩
    else refusal
  | _ => refusal

/-- The refusal of a text where a token does not fit, with the tokens from it on. Whatever is wrong
further on matters more, unless the token changes the indentation. -/
def misfitRefusal (stop : Option Stop) : List Token → Refusal
  | [] => (stop.map Stop.refusal).getD ⟨"invalid syntax", 0, .grammar⟩
  | token :: _ =>
    match token.lexeme with
    | .indent => ⟨"unexpected indent", token.line, .indentation⟩
    | .dedent => ⟨"unexpected unindent", token.line, .indentation⟩
    | _ => overridden stop ⟨"invalid syntax", token.line, .grammar⟩ token.line

end ServiceStubs.Source
