import ServiceStubs.Source.Escapes
import ServiceStubs.Source.Parameters
import ServiceStubs.Source.Reader
import ServiceStubs.Text.IntegerNumeral

/-!
# The grammar of expressions

Expressions are read from tokens, operators from the loosest to the tightest. A reader of a part of
an expression is given readers of expressions, which it uses within brackets and after words; how
often those are entered within each other is bounded by the number of tokens. A text that is almost
an expression is refused with what it lacks.
-/

namespace ServiceStubs.Source

/-- How much of an expression a reader takes. -/
inductive Extent
  /-- All of it. -/
  | whole
  /-- No condition in its middle and no function without a name. -/
  | condition
  /-- Nothing looser than a bar. -/
  | operand

/-- The operators of binary levels, from the loosest level to the tightest. -/
def binaryLevels : List (List String) :=
  [["|"], ["^"], ["&"], ["<<", ">>"], ["+", "-"], ["*", "/", "//", "%", "@"]]

/-- Marks that compare. -/
def comparisonMarks : List String := ["==", "!=", "<", ">", "<=", ">="]

/-- Words that an expression can begin with although they name nothing. -/
def openingWords : List String := ["None", "True", "False", "not", "lambda", "await"]

/-- Marks that an expression can begin with. -/
def openingMarks : List String := ["(", "[", "\x7b", "-", "+", "~", "..."]

/-- Words that name things in some places only; what begins such a word is not taken for a name
either. -/
def softKeywords : List String := ["_", "case", "match"]

/-- What is said of a comparison that is written as an assignment. -/
def mistakenAssignment : String :=
  "invalid syntax. Maybe you meant '==' or ':=' instead of '='?"

/-- What is said of an expression that nothing can be bound to. -/
def unboundMessage (part : Expression) : String := "cannot assign to " ++ part.formWord

namespace Reader

/-- Whether an expression can begin with the next token. -/
def startsExpression : Reader Bool := do
  return (← next?).any fun
    | .word text => !keywords.contains text || openingWords.contains text
    | .mark text => openingMarks.contains text
    | .number _ | .imaginary _ | .quoted _ _ => true
    | _ => false

/-- Whether an expression or a star before one comes next. -/
def startsItem : Reader Bool := isAtMark "*" <||> startsExpression

/-- One value is that value; several values, or one before a comma, are a tuple. -/
def tupled : List Expression × Bool → Expression
  | ([value], false) => value
  | (values, _) => .tuple values

/-! ## Texts between quotes -/

/-- The texts between quotes that come next, with their lines. -/
def quotedTexts : Reader (List (QuoteStyle × List Char × Nat)) := many do
  let line ← line
  match ← next? with
  | some (.quoted style content) =>
    skip
    return some (style, content, line)
  | _ => return none

/-! ## Texts with values in them -/

/-- What is said of a text with values in it. -/
def formatMessage (reason : String) : String := "f-string: " ++ reason

/-- Brackets that are open in a text, and the quotes that it is between, if it is between some. -/
structure Nesting where
  depth : Nat := 0
  quote : Option Char := none

/-- The nesting after a character. -/
def Nesting.after (nesting : Nesting) (character : Char) : Nesting :=
  match nesting.quote with
  | some quote => if character = quote then { nesting with quote := none } else nesting
  | none =>
    if character = '\'' || character = '"' then { nesting with quote := some character }
    else if "([\x7b".toList.contains character then { nesting with depth := nesting.depth + 1 }
    else if ")]\x7d".toList.contains character then { nesting with depth := nesting.depth - 1 }
    else nesting

/-- The characters of an expression in a text, up to what can follow it there, and the text from
there on. -/
def spanField : Nesting → List Char → List Char × List Char
  | _, [] => ([], [])
  | nesting, character :: rest =>
    let isOuter := nesting.depth = 0 && nesting.quote.isNone
    let isComparison := rest.head? = some '='
    if isOuter && (character = '\x7d' || character = ':' ||
        (character = '!' && !isComparison)) then ([], character :: rest)
    else
      let (inner, rest) := spanField (nesting.after character) rest
      (character :: inner, rest)

/-- The text up to a brace that stands alone, with those that are written twice once, and the text
from that brace on. -/
def spanText : List Char → List Char × List Char
  | [] => ([], [])
  | '\x7b' :: '\x7b' :: rest =>
    let (text, rest) := spanText rest
    ('\x7b' :: text, rest)
  | '\x7d' :: '\x7d' :: rest =>
    let (text, rest) := spanText rest
    ('\x7d' :: text, rest)
  | character :: rest =>
    if character = '\x7b' || character = '\x7d' then ([], character :: rest)
    else
      let (text, rest) := spanText rest
      (character :: text, rest)

section

variable (inner : Extent → Reader Expression)

/-- The expression that some characters in a text hold. -/
def fieldExpression (characters : List Char) : Except String Expression :=
  if (characters.dropWhile Text.isNumeralBlank).isEmpty then
    .error (formatMessage "empty expression not allowed")
  else if characters.contains '\\' then
    .error (formatMessage "expression part cannot include a backslash")
  else
    let scanned := scan (('(' :: characters) ++ [')'])
    let read : Reader Expression := do
      mark "("
      let value := tupled (← commaSeparated startsExpression (inner .whole))
      mark ")"
      return value
    match scanned.stop, read scanned.tokens with
    | none, .ok (value, _) => .ok value
    | _, _ => .error (formatMessage "invalid syntax")

/-- The pieces of a text with values in it, as it is written in a style; `ahead` bounds their
number, and a layout is inside a piece. -/
def fieldPieces (style : QuoteStyle) (isLayout : Bool) :
    Nat → List Char → Except String (List Expression × List Char)
  | 0, _ => .error (formatMessage "expressions nested too deeply")
  | ahead + 1, text => do
    let (plain, rest) := if isLayout then
        text.span fun character => character ≠ '\x7b' && character ≠ '\x7d'
      else spanText text
    let meant ← { style with isFormat := false : QuoteStyle }.meaning plain
    let before := if meant.isEmpty then [] else [Expression.constant (.text meant)]
    match rest with
    | [] => return (before, [])
    | '\x7d' :: _ =>
      if isLayout then return (before, rest)
      throw (formatMessage "single '\x7d' is not allowed")
    | _ :: rest => do
      let (characters, rest) := spanField {} rest
      let isTold := characters.reverse.dropWhile Text.isNumeralBlank |>.head? |>.any (· = '=')
      let value ← fieldExpression inner (if isTold then
        ((characters.reverse.dropWhile Text.isNumeralBlank).drop 1).reverse else characters)
      let (conversion, rest) := match rest with
        | '!' :: letter :: rest => (some letter, rest)
        | rest => (none, rest)
      let (layout, rest) ← match rest with
        | ':' :: rest => fieldPieces style true ahead rest
        | rest => pure ([], rest)
      let told := if isTold then [Expression.constant (.text (String.ofList characters))] else []
      let conversion :=
        if isTold && conversion.isNone && layout.isEmpty then some 'r' else conversion
      match rest with
      | '\x7d' :: rest => do
        let (others, rest) ← fieldPieces style isLayout ahead rest
        return (before ++ told ++ [.field value conversion layout] ++ others, rest)
      | _ => throw (formatMessage "expecting '\x7d'")

/-- What texts between quotes that follow each other stand for. -/
def quotedValue : Reader Expression := do
  let line ← line
  let texts ← quotedTexts
  let isBytes (entry : QuoteStyle × List Char × Nat) : Bool := entry.1.isBytes
  if texts.any isBytes && !texts.all isBytes then
    refuse "cannot mix bytes and nonbytes literals" line
  if texts.any fun entry => entry.1.isFormat then
    let pieces ← texts.mapM fun (style, content, line) =>
      let pieces := if style.isFormat then
          (fieldPieces inner style false (content.length + 1) content).map Prod.fst
        else (style.meaning content).map fun text => [Expression.constant (.text text)]
      match pieces with
      | .ok pieces => pure pieces
      | .error message => refuse message line
    return .formatted pieces.flatten
  let meanings ← texts.mapM fun (style, content, line) =>
    match style.meaning content with
    | .ok text => pure text
    | .error message => refuse message line
  let text := String.join meanings
  return if texts.any isBytes then .bytes text else .constant (.text text)

end

/-! ## Chains of operands -/

/-- Operands with operators of a level between them. -/
def operatorChain (operators : List String) (operand : Reader Expression) :
    Reader Expression := do
  let first ← operand
  let rest ← many do
    match ← next? with
    | some (.mark text) =>
      if operators.contains text then
        skip
        return some (text, ← operand)
      return none
    | _ => return none
  return rest.foldl (fun left (operator, right) => .binary operator left right) first

/-- Operands with a word between them. -/
def wordChain (operator : String) (operand : Reader Expression) : Reader Expression := do
  let first ← operand
  let rest ← many do afterWord operator operand
  return rest.foldl (fun left right => .binary operator left right) first

/-- Operands with operators of some levels between them, the first level being the loosest. -/
def levelChain (operand : Reader Expression) : List (List String) → Reader Expression
  | [] => operand
  | operators :: tighter => operatorChain operators (levelChain operand tighter)

/-- An operator that compares, if one comes next. -/
def comparisonOperator? : Reader (Option String) := do
  match ← next? with
  | some (.mark text) =>
    if comparisonMarks.contains text then
      skip
      return some text
    return none
  | some (.word "in") =>
    skip
    return some "in"
  | some (.word "is") =>
    skip
    return some (if ← takeWord "not" then "is not" else "is")
  | some (.word "not") =>
    if ← canRead (do skip; word "in") then
      skip
      skip
      return some "not in"
    return none
  | _ => return none

/-- Operands with comparisons between neighbours. -/
def comparison (operand : Reader Expression) : Reader Expression := do
  let first ← operand
  let rest ← many do
    match ← comparisonOperator? with
    | some operator => return some (operator, ← operand)
    | none => return none
  if rest.isEmpty then return first
  return .compared (first :: rest.map Prod.snd) (rest.map Prod.fst)

/-- A comparison after any number of negations. -/
def negation (operand : Reader Expression) : Reader Expression := do
  let negations ← many do
    if ← takeWord "not" then return some ()
    return none
  let value ← comparison operand
  return negations.foldl (fun value _ => .unary "not" value) value

/-- A sign before an operand, if one comes next. -/
def sign? : Reader (Option String) := do
  match ← next? with
  | some (.mark text) =>
    if ["+", "-", "~"].contains text then
      skip
      return some text
    return none
  | _ => return none

/-- Operands with signs before them and powers between them; a power binds its right operand
first. -/
def powers (primary : Reader Expression) : Reader Expression := do
  let factor : Reader (List String × Expression) := do
    let signs ← many sign?
    let value ← primary
    return (signs, value)
  let signed (signs : List String) (value : Expression) : Expression :=
    signs.foldr (fun sign value => .unary sign value) value
  let first ← factor
  let rest ← many do after "**" factor
  match (first :: rest).reverse with
  | [] => misfit
  | (signs, last) :: earlier =>
    return earlier.foldl (fun right (signs, value) => signed signs (.binary "**" value right))
      (signed signs last)

/-! ## Values and names that are bound -/

section

variable (inner : Extent → Reader Expression)

/-- A whole expression, or the items of an operand after a star. -/
def starred : Reader Expression := do
  if ← takeMark "*" then return .spread (← inner .operand)
  inner .whole

/-- Values with commas between them. -/
def values : Reader Expression := do return tupled (← commaSeparated startsItem (starred inner))

/-- What is written where a function is left for a while. -/
def yielded : Reader Expression := do
  let line ← line
  word "yield"
  if ← takeWord "from" then return .suspended line "yield from" (some (← inner .whole))
  if ← startsItem then return .suspended line "yield" (some (← values inner))
  return .suspended line "yield" none

/-- Whether an assignment to an operand follows, which another assignment does not follow. -/
def isSingleAssignment : Reader Bool := canRead do
  mark "="
  discard (inner .operand)
  if ← isAtMark "=" <||> isAtMark ":=" then misfit

/-- Refuse an assignment in the place of a comparison, after the value that began with some
tokens. -/
def refuseAssignment (start : List Token) (value : Expression) : Reader Unit := do
  let line := (start.head?.map Token.line).getD 0
  if ← isAtMark ":=" <&&> canRead (do skip; inner .whole) then
    refuse ("cannot use assignment expressions with " ++ value.formWord) line
  if !(← isSingleAssignment inner) then return
  match start with
  | ⟨.word _, _, _⟩ :: ⟨.mark "=", _, _⟩ :: _ =>
    if value matches .name _ then refuse mistakenAssignment line
  | _ => pure ()
  let left := (← get).length
  let isOperand := match inner .operand start with
    | .ok (_, rest) => rest.length = left
    | .error _ => false
  let isAllowed := match value with
    | .tuple _ | .list _ | .comprehension .generator _ _ | .constant .missing
    | .constant (.flag _) => true
    | _ => false
  if isOperand && !isAllowed then
    refuse (unboundMessage value ++ " here. Maybe you meant '==' instead of '='?") line

/-- A whole expression that may be bound to a name. -/
def named : Reader Expression := do
  let start ← get
  match start with
  | ⟨.word text, _, _⟩ :: ⟨.mark ":=", _, _⟩ :: _ =>
    if !keywords.contains text then
      let name ← name
      skip
      return .named name (← inner .whole)
  | _ => pure ()
  let value ← inner .whole
  refuseAssignment inner start value
  return value

/-- An item between brackets. -/
def item : Reader Expression := do
  if ← takeMark "*" then return .spread (← inner .operand)
  named inner

/-- Refuse an expression that nothing can be bound to. -/
def checkBound (binding : Expression.Binding) (value : Expression) (line : Nat) :
    Reader Unit := do
  match value.unboundPart? binding with
  | none => pure ()
  | some part =>
    if binding = .deleted then refuse ("cannot delete " ++ part.formWord) line
    else refuse (unboundMessage part) line

/-- What is bound to each item in turn, up to the items. -/
def loopTarget : Reader Expression := do
  let start ← get
  let line ← line
  let target := tupled (← commaSeparated startsItem do
    if ← takeMark "*" then return .spread (← inner .operand)
    inner .operand)
  if target matches .spread _ then misfit
  checkBound .looped target line
  unless ← isAtWord "in" do
    let left ← get
    set start
    discard (lookThrough (values inner))
    set left
    misfit
  skip
  return target

/-! ## Comprehensions -/

/-- Whether items are made for those of a source. -/
def isAtClause : Reader Bool :=
  isAtWord "for" <||> (isAtWord "async" <&&> canRead (do skip; word "for"))

/-- The clauses of a comprehension; there is at least one. -/
def clauses : Reader (List Expression) := do
  let clauses ← many do
    if !(← isAtClause) then return none
    discard (takeWord "async")
    word "for"
    let target ← loopTarget inner
    let source ← inner .condition
    return some (Expression.clause target source
      (← many do afterWord "if" (inner .condition)))
  if clauses.isEmpty then misfit
  return clauses

/-- A comprehension after its item. -/
def comprehension (collection : Collection) (item : Expression) (line : Nat) :
    Reader Expression := do
  let clauses ← clauses inner
  if item matches .spread _ then
    refuse "iterable unpacking cannot be used in comprehension" line
  return .comprehension collection item clauses

/-! ## Between brackets -/

/-- What stands between round brackets after the first one. -/
def grouped : Reader Expression := do
  if ← takeMark ")" then return .tuple []
  if ← isAtWord "yield" then
    let value ← yielded inner
    mark ")"
    return value
  let line ← line
  if ← isAtMark "**" <&&> canRead (do skip; discard (inner .operand); mark ")") then
    refuse "cannot use double starred expression here" line
  let first ← item inner
  if ← isAtClause then
    let value ← comprehension inner .generator first line
    mark ")"
    return value
  if ← takeMark ")" then
    if first matches .spread _ then refuse "cannot use starred expression here" line
    return first
  mark ","
  let rest ← if ← startsItem then (do return (← commaSeparated startsItem (item inner)).1)
    else pure []
  mark ")"
  return .tuple (first :: rest)

/-- Items up to a closing bracket, or a comprehension. -/
def collected (collection : Collection) (closing : String)
    (make : List Expression → Expression) (first : Expression) (line : Nat) :
    Reader Expression := do
  if ← isAtClause then
    let value ← comprehension inner collection first line
    mark closing
    return value
  let rest ← if ← takeMark "," then
      if ← startsItem then (do return (← commaSeparated startsItem (item inner)).1) else pure []
    else pure []
  if ← pure !rest.isEmpty <&&> isAtClause <&&> canRead (clauses inner) then
    refuse "did you forget parentheses around the comprehension target?" line
  mark closing
  return make (first :: rest)

/-- What stands between square brackets after the first one. -/
def listed : Reader Expression := do
  if ← takeMark "]" then return .list []
  let line ← line
  let first ← item inner
  collected inner .list "]" .list first line

/-- A value after its key. -/
def entryValue : Reader Expression := do
  let line ← line
  mark ":"
  let valueLine ← Reader.line
  if ← isAtMark "*" <&&> canRead (do skip; inner .operand) then
    refuse "cannot use a starred expression in a dictionary value" valueLine
  if ← isAtMark "\x7d" <||> isAtMark "," then
    refuse "expression expected after dictionary key and ':'" line
  inner .whole

/-- A key with its value, or all entries of another dictionary, after the first ones. -/
def entry : Reader (List Expression) := do
  if ← takeMark "**" then return [.entries (← inner .operand)]
  let line ← line
  let message := "':' expected after dictionary key"
  let key ← fun tokens => match inner .whole tokens with
    | .error (.refused _ _) => refuse message line .grammar tokens
    | result => result
  unless ← isAtMark ":" do refuse message line
  return [key, ← entryValue inner]

/-- Whether an entry comes next. -/
def startsEntry : Reader Bool := isAtMark "**" <||> startsExpression

/-- Further entries up to the closing bracket. -/
def furtherEntries (first : List Expression) (line : Nat) : Reader Expression := do
  if ← isAtClause then
    if first matches [.entries _] then
      refuse "dict unpacking cannot be used in dict comprehension" line
    let clauses ← clauses inner
    mark "\x7d"
    return .comprehension .dictionary (.tuple first) clauses
  let rest ← if ← takeMark "," then
      if ← startsEntry then (do return (← commaSeparated startsEntry (entry inner)).1)
      else pure []
    else pure []
  mark "\x7d"
  return .dictionary (first ++ rest.flatten)

/-- What stands between braces after the first one. -/
def braced : Reader Expression := do
  if ← takeMark "\x7d" then return .dictionary []
  let line ← line
  if ← isAtMark "**" then
    let first ← entry inner
    furtherEntries inner first line
  else
    let first ← item inner
    if (← isAtMark ":") && !(first matches .spread _) && !(first matches .named _ _) then
      let value ← entryValue inner
      furtherEntries inner [first, value] line
    else collected inner .set "\x7d" .set first line

/-! ## After a value -/

/-- Refuse an argument that cannot come after some others. -/
def checkArgument (earlier : List Expression) (argument : Expression) (line : Nat) :
    Reader Unit := do
  let hasEntries := earlier.any (· matches .entries _)
  let hasKeyword := earlier.any (· matches .keyword _ _)
  match argument with
  | .entries _ => pure ()
  | .keyword name _ =>
    let isRepeated := earlier.any fun
      | .keyword other _ => other = name
      | _ => false
    if isRepeated then refuse ("keyword argument repeated: " ++ name) line
  | .spread _ =>
    if hasEntries then
      refuse "iterable argument unpacking follows keyword argument unpacking" line
  | _ =>
    if hasEntries then
      refuse "positional argument follows keyword argument unpacking" line
    if hasKeyword then refuse "positional argument follows keyword argument" line

/-- An argument of a call, and whether it makes items without brackets of its own. -/
def argument : Reader (Expression × Bool) := do
  let line ← line
  if ← takeMark "*" then return (.spread (← inner .whole), false)
  if ← takeMark "**" then return (.entries (← inner .whole), false)
  match ← get with
  | ⟨.word text, _, _⟩ :: ⟨.mark "=", _, _⟩ :: _ =>
    if ["None", "True", "False"].contains text then refuse ("cannot assign to " ++ text) line
    let name ← name
    skip
    let value ← inner .whole
    if ← isAtClause <&&> canRead (clauses inner) then refuse mistakenAssignment line
    return (.keyword name value, false)
  | ⟨.word text, _, _⟩ :: ⟨.mark ":=", _, _⟩ :: _ =>
    if keywords.contains text then misfit
    let name ← name
    skip
    return (.named name (← inner .whole), false)
  | _ =>
    let value ← inner .whole
    if ← isAtMark "=" then
      refuse "expression cannot contain assignment, perhaps you meant \"==\"?" line
    if ← isAtClause then return (← comprehension inner .generator value line, true)
    return (value, false)

/-- Whether an argument comes next. -/
def startsArgument : Reader Bool := isAtMark "**" <||> startsItem

/-- The arguments of a call up to the closing bracket. -/
def arguments : Reader (List Expression) := do
  if ← takeMark ")" then return []
  let line ← line
  let (found, hasComma) ← commaSeparated startsArgument (argument inner)
  if found.any Prod.snd && (1 < found.length || hasComma) then
    refuse "Generator expression must be parenthesized" line
  let found := found.map Prod.fst
  for place in List.range found.length do
    match found[place]? with
    | some argument => checkArgument (found.take place) argument line
    | none => pure ()
  mark ")"
  return found

/-- What stands between the commas of square brackets after a value. -/
def subscriptItem : Reader Expression := do
  if ← takeMark "*" then return .spread (← inner .operand)
  let lower ← if ← isAtMark ":" then pure none else do pure (some (← named inner))
  let ending : Reader (Option Expression) := do
    if ← startsExpression then return some (← inner .whole)
    return none
  if !(← takeMark ":") then return lower.getD .ellipsis
  let upper ← ending
  let step ← after ":" ending
  return .slice lower upper step.join

/-- What stands between square brackets after a value, up to the closing one. -/
def subscripts : Reader Expression := do
  let starts : Reader Bool := isAtMark ":" <||> startsItem
  let (items, hasComma) ← commaSeparated starts (subscriptItem inner)
  mark "]"
  match items, hasComma with
  | [.spread value], false => return .tuple [.spread value]
  | items, hasComma => return tupled (items, hasComma)

/-! ## Operands -/

/-- A value without what follows it. -/
def atom : Reader Expression := do
  match ← next? with
  | some (.word "None") => skip; return .constant .missing
  | some (.word "True") => skip; return .constant (.flag true)
  | some (.word "False") => skip; return .constant (.flag false)
  | some (.word _) => return .name (← name)
  | some (.number value) => skip; return .constant value
  | some (.imaginary value) => skip; return .imaginary value
  | some (.quoted _ _) => quotedValue inner
  | some (.mark "...") => skip; return .ellipsis
  | some (.mark "(") => skip; grouped inner
  | some (.mark "[") => skip; listed inner
  | some (.mark "\x7b") => skip; braced inner
  | _ => misfit

/-- What may follow a value: an attribute, a call, or brackets. -/
def trailer : Reader (Option (Expression → Expression)) := do
  if ← takeMark "." then
    let name ← name
    return some fun owner => .attribute owner name
  if ← takeMark "(" then
    let arguments ← arguments inner
    return some fun function => .call function arguments
  if ← takeMark "[" then
    let index ← subscripts inner
    return some fun owner => .subscript owner index
  return none

/-- A value with what follows it. -/
def primary : Reader Expression := do
  let line ← line
  let isAwaited ← takeWord "await"
  let first ← atom inner
  let trailers ← many (trailer inner)
  let value := trailers.foldl (fun value make => make value) first
  return if isAwaited then .suspended line "await" (some value) else value

/-- An operand with nothing looser than a bar. -/
def operand : Reader Expression := levelChain (powers (primary inner)) binaryLevels

/-- A condition: comparisons with words between them. -/
def condition : Reader Expression :=
  wordChain "or" (wordChain "and" (negation (operand inner)))

/-! ## Functions without a name -/

/-- The word for a function, with or without a name. -/
def functionWord (isNamed : Bool) : String :=
  if isNamed then "Function" else "Lambda expression"

/-- A piece of a list of parameters. -/
def parameterPiece (hasTypes : Bool) : Reader ParameterPiece := do
  let type : Reader (Option Expression) :=
    if hasTypes then after ":" (inner .whole) else pure none
  if ← takeMark "/" then return .slash
  if ← isAtMark "(" <&&> canRead (do
      skip
      discard (commaSeparated (canRead name) name)
      mark ")") then
    refuse (functionWord hasTypes ++ " parameters cannot be parenthesized") (← line)
  if ← takeMark "**" then
    let name ← name
    let type ← type
    if (← isAtMark "=") then
      refuse "var-keyword argument cannot have default value" (← line)
    return .keywords name type
  if ← takeMark "*" then
    if ← isAtMark "," <||> isAtMark ")" <||> isAtMark ":" then return .star
    let name ← name
    let type ← if hasTypes then after ":" (starred inner) else pure none
    if (← isAtMark "=") then
      refuse "var-positional argument cannot have default value" (← line)
    return .rest name type
  let name ← name
  let type ← type
  return .plain name type (← after "=" do
    if ← isAtMark ")" <||> isAtMark "," then
      refuse "expected default value expression" (← line)
    inner .whole)

/-- The parameters of a function up to a mark, which is left. -/
def parameters (hasTypes : Bool) (closing : String) : Reader (List WrittenParameter) := do
  if ← isAtMark closing then return []
  let line ← line
  let starts : Reader Bool :=
    isAtMark "*" <||> isAtMark "**" <||> isAtMark "/" <||> isAtMark "(" <||> canRead name
  let (pieces, hasComma) ← commaSeparated starts (parameterPiece inner hasTypes)
  let isClosed ← isAtMark closing
  if pieces matches [.slash] && !hasComma then misfit
  match arrangedParameters (if hasComma || isClosed then pieces else pieces.dropLast) with
  | .error message => refuse message line
  | .ok arrangement =>
    unless isClosed do misfit
    if arrangement.isBare then refuse bareStarMessage line
    return arrangement.parameters

/-- A function without a name. -/
def lambda : Reader Expression := do
  word "lambda"
  let line ← line
  let parameters ← parameters inner false ":"
  mark ":"
  let body ← inner .whole
  if let some name := repeatedParameter? parameters then
    refuse ("duplicate argument '" ++ name ++ "' in function definition") line
  return .lambda (parameters.map WrittenParameter.plain)
    (parameters.filterMap WrittenParameter.default) body

/-! ## Whole expressions -/

/-- The depth of brackets after the tokens of a list that are not in a later part of it. -/
def depthBefore (start rest : List Token) : Nat :=
  ((start[start.length - rest.length - 1]?).map Token.depth).getD 0

/-- Refuse an expression after another one, which began with some tokens, for what it lacks. -/
def refuseNeighbours (start : List Token) : Reader Unit := do
  let line := (start.head?.map Token.line).getD 0
  let opening? : Option String := start.head?.bind fun
    | ⟨.word text, _, _⟩ => if keywords.contains text then none else some text
    | _ => none
  let isStatement := opening?.any ["print", "exec"].contains
  let second? := (start[1]?).map Token.lexeme
  let isApart := opening?.any (fun text => softKeywords.any (Text.opensWith text)) ||
    opening?.isSome && second?.any (· matches .quoted _ _)
  let tokens ← get
  let reading := inner .whole tokens
  if !isApart then
    let found? ← match reading with
      | .ok (_, []) | .error (.misfit []) => throw (.misfit [])
      | .ok (_, rest) =>
        pure (some (depthBefore start rest, (rest.head?.map Token.line).getD 0))
      | .error (.refused _ reached) =>
        pure (some ((tokens.head?.map Token.depth).getD 0, reached))
      | .error (.misfit _) => pure none
    if let some (depth, reached) := found? then
      if !isStatement && depth ≠ 0 then
        throw (.refused ⟨"invalid syntax. Perhaps you forgot a comma?", line, .grammar⟩ reached)
  if let some text := opening? then
    let isAlone := (start.drop 1).length = tokens.length
    if !isAlone || second?.any fun | .mark "(" => true | _ => false then return
    let canFollow ← lookThrough do
      discard (fun _ => reading)
      furtherItems startsItem (starred inner)
    if canFollow && isStatement then
      refuse ("Missing parentheses in call to '" ++ text ++ "'. Did you mean " ++ text ++
        "(...)?") line

/-- A whole expression. -/
def expression : Reader Expression := do
  if ← isAtWord "lambda" then return ← lambda inner
  let start ← get
  let line ← line
  let value ← condition inner
  if ← isAtWord "if" then
    let afterValue ← get
    skip
    let test ← condition inner
    if ← takeWord "else" then return .conditional test value (← inner .whole)
    if !(← isAtMark ":") then refuse "expected 'else' after 'if' expression" line
    set afterValue
    return value
  if ← startsExpression then refuseNeighbours inner start
  return value

/-- A reader of as much of an expression as is wanted. -/
def ofExtent : Extent → Reader Expression
  | .whole => expression inner
  | .condition => condition inner
  | .operand => operand inner

end

/-- Read an expression; `depth` bounds how often expressions are entered within each other. -/
def expressionWithin : Nat → Extent → Reader Expression
  | 0, _, tokens => misfit tokens
  | depth + 1, extent, tokens => ofExtent (expressionWithin depth) extent tokens

/-- Expressions that end a text, with commas between them and no star before any. -/
def lastExpression (inner : Extent → Reader Expression) : Reader Expression := do
  let value := tupled (← commaSeparated startsExpression (inner .whole))
  discard (many do
    if (← next?) matches some .lineEnd then
      skip
      return some ()
    return none)
  match ← next? with
  | some .textEnd => return value
  | _ => misfit

end Reader

namespace Expression

/-! ## Expressions that only functions hold -/

mutual

/-- The lines where an expression leaves a function, with the words for it; what other functions
hold is not counted. -/
def leavings : Expression → List (Nat × String)
  | .suspended line word operand => leavingsOfMaybe operand ++ [(line, word)]
  | .lambda _ defaults _ => leavingsOf defaults
  | .attribute owner _ => leavings owner
  | .subscript owner index => leavings owner ++ leavings index
  | .slice lower upper step =>
    leavingsOfMaybe lower ++ leavingsOfMaybe upper ++ leavingsOfMaybe step
  | .call function arguments => leavings function ++ leavingsOf arguments
  | .keyword _ value | .named _ value => leavings value
  | .entries operand | .unary _ operand | .spread operand => leavings operand
  | .tuple items | .list items | .set items | .dictionary items => leavingsOf items
  | .binary _ left right => leavings left ++ leavings right
  | .compared operands _ => leavingsOf operands
  | .conditional test whenTrue whenFalse =>
    leavings test ++ leavings whenTrue ++ leavings whenFalse
  | .comprehension _ item clauses => leavingsOf clauses ++ leavings item
  | .clause target source conditions =>
    leavings target ++ leavings source ++ leavingsOf conditions
  | .formatted parts => leavingsOf parts
  | .field value _ layout => leavings value ++ leavingsOf layout
  | .name _ | .constant _ | .ellipsis | .bytes _ | .imaginary _ => []

/-- The lines where some expressions leave a function. -/
def leavingsOf : List Expression → List (Nat × String)
  | [] => []
  | item :: rest => leavings item ++ leavingsOf rest

/-- The lines where an expression leaves a function, if there is an expression. -/
def leavingsOfMaybe : Option Expression → List (Nat × String)
  | none => []
  | some operand => leavings operand

end

/-- The expression that a text holds, or why it is none. -/
def read (text : String) : Except Refusal Expression :=
  let scanned := scan (withLineFeeds text.toList)
  match Reader.lastExpression (Reader.expressionWithin (text.length + 2)) scanned.tokens with
  | .ok (value, _) =>
    match value.leavings with
    | [] => .ok value
    | (line, word) :: _ => .error ⟨"'" ++ word ++ "' outside function", line, .grammar⟩
  | .error (.refused refusal reached) => .error (overridden scanned.stop refusal reached)
  | .error (.misfit left) =>
    if text.isEmpty then .error ⟨"invalid syntax", 0, .grammar⟩
    else .error (misfitRefusal scanned.stop left)

/-- The expression that a text holds, if it holds one. -/
def ofText? (text : String) : Option Expression := (read text).toOption

end Expression

end ServiceStubs.Source
