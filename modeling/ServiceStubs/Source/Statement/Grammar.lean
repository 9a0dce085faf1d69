import ServiceStubs.Source.Expression.Grammar
import ServiceStubs.Source.Statement

/-!
# The grammar of statements

Statements are read from the tokens of a text, those on one line with semicolons between them, and
those of a block with the same indentation. A reader of a statement that holds blocks is given a
reader of the statements in them. A text that is almost a statement is refused with what it lacks.
-/

namespace ServiceStubs.Source

/-- Marks of assignments that work out what an operator makes of the earlier value. -/
def augmentedMarks : List String := [
  "+=", "-=", "*=", "@=", "/=", "%=", "&=", "|=", "^=", "<<=", ">>=", "**=", "//="]

namespace Reader

section

variable (inner : Extent → Reader Expression)

/-! ## Assignments -/

/-- A value that is left for a while, or values. -/
def valuesOrYield : Reader Expression := do
  if ← isAtWord "yield" then yielded inner else values inner

/-- Refuse a target that cannot be annotated. -/
def checkAnnotated (target : Expression) (line : Nat) : Reader Unit := do
  if target.isPlace then return
  if !(← canRead (do skip; inner .whole)) then misfit
  match target with
  | .tuple _ => refuse "only single target (not tuple) can be annotated" line
  | .list _ => refuse "only single target (not list) can be annotated" line
  | _ => refuse "illegal target for annotation" line

/-- Refuse targets that nothing can be bound to; the statement began with some tokens. -/
def checkTargets (start : List Token) (targets : List Expression) (line : Nat) :
    Reader Unit := do
  match targets.findSome? (Expression.unboundPart? .assigned) with
  | none => pure ()
  | some part =>
    match commaSeparated startsItem (item inner) start with
    | .error (.refused refusal reached) => throw (.refused refusal reached)
    | _ => pure ()
    if part matches .suspended _ _ _ then
      refuse "assignment to yield expression not possible" line
    refuse (unboundMessage part) line

/-- A statement that begins with an expression. -/
def expressionStatement : Reader Statement := do
  let start ← get
  let line ← line
  let first ← valuesOrYield inner
  if ← isAtMark ":" then
    checkAnnotated inner first line
    skip
    let type ← inner .whole
    return .annotated line first type (← after "=" (valuesOrYield inner))
  match ← next? with
  | some (.mark text) =>
    if augmentedMarks.contains text then
      skip
      if ← pure !first.isPlace <&&> canRead (valuesOrYield inner) then
        refuse ("'" ++ first.formWord ++ "' is an illegal expression for augmented assignment")
          line
      let operator := String.ofList text.toList.dropLast
      return .augmented line first operator (← valuesOrYield inner)
  | _ => pure ()
  let others ← many do
    if ← isAtMark "=" <&&> lookThrough (do skip; valuesOrYield inner) then
      skip
      return some (← valuesOrYield inner)
    return none
  if ← isAtMark "=" then
    checkTargets inner start (first :: others) line
    skip
    discard (valuesOrYield inner)
  match others.getLast? with
  | none => return .value line first
  | some value =>
    let targets := first :: others.dropLast
    checkTargets inner start targets line
    return .assigned line targets value

/-! ## Imports -/

/-- A name of a module, with dots between its parts. -/
def dottedName : Reader String := do
  let first ← name
  let rest ← many (after "." name)
  return ".".intercalate (first :: rest)

/-- Another name for something, if it gets one. -/
def otherName : Reader (Option String) := afterWord "as" name

/-- The names of modules to import. -/
def importStatement : Reader Statement := do
  let (modules, hasComma) ← commaSeparated (canRead name) do
    let path ← dottedName
    return (path, ← otherName)
  if hasComma then misfit
  return .imported modules

/-- The dots that a relative name begins with. -/
def levelDots : Reader Nat := do
  let dots ← many do
    if ← takeMark "." then return some 1
    if ← takeMark "..." then return some 3
    return none
  return dots.foldl Nat.add 0

/-- The names to import from a module. -/
def gatherStatement : Reader Statement := do
  let line ← line
  let levels ← levelDots
  let path ← if levels ≠ 0 && (← isAtWord "import") then pure "" else dottedName
  word "import"
  if ← takeMark "*" then return .gathered line levels path none
  let isEnclosed ← takeMark "("
  let (names, hasComma) ← commaSeparated (canRead name) do
    let found ← name
    return (found, ← otherName)
  if isEnclosed then mark ")"
  else if hasComma then
    if (← next?) matches some .lineEnd then
      refuse "trailing comma not allowed without surrounding parentheses" line
    misfit
  return .gathered line levels path (some names)

/-! ## Statements on a line -/

/-- A statement that ends on its line. -/
def simpleStatement : Reader Statement := do
  let line ← line
  let opening : String := ((← next?).bind fun
    | .word text => some text
    | _ => none).getD ""
  let maybe (reader : Reader Expression) : Reader (Option Expression) := do
    if ← startsItem then return some (← reader)
    return none
  match opening with
  | "pass" => skip; return .nothing
  | "break" | "continue" => skip; return .interrupted line opening
  | "return" => skip; return .returned line (← maybe (values inner))
  | "raise" =>
    skip
    let error ← if ← startsExpression then (do return some (← inner .whole)) else pure none
    let cause ← if error.isSome then afterWord "from" (inner .whole) else pure none
    return .raised line error cause
  | "global" | "nonlocal" =>
    skip
    let (names, hasComma) ← commaSeparated (canRead name) name
    if hasComma then misfit
    return .outer line opening names
  | "del" =>
    skip
    let target ← values inner
    if target matches .spread _ then refuse "cannot delete starred" line
    checkBound .deleted target line
    return .deleted line [target]
  | "assert" =>
    skip
    let test ← inner .whole
    return .asserted line test (← after "," (inner .whole))
  | "import" => skip; importStatement
  | "from" => skip; gatherStatement
  | _ => expressionStatement inner

/-- Statements with semicolons between them up to the end of their line. -/
def simpleStatements : Reader (List Statement) := do
  let first ← simpleStatement inner
  let others ← many do
    if ← takeMark ";" then
      if (← next?) matches some .lineEnd then return none
      return some (← simpleStatement inner)
    return none
  lineEnd
  return first :: others

/-! ## Blocks -/

variable (statement : Reader (List Statement))

/-- The colon before a block. Where it is missing, the text is refused whatever stands in its
place, or only if the line ends there. -/
def blockColon (isStrict : Bool) : Reader Unit := do
  if ← takeMark ":" then return
  match ← next? with
  | none => misfit
  | some .lineEnd => refuse "expected ':'" (← line)
  | some _ => if isStrict then refuse "expected ':'" (← line) else misfit

/-- The statements of a block after its colon; `holder` tells what holds it. -/
def blockBody (holder : String) (holderLine : Nat) : Reader (List Statement) := do
  if !((← next?) matches some .lineEnd) then return ← simpleStatements inner
  skip
  match ← next? with
  | none => misfit
  | some .indent =>
    skip
    let statements ← many do
      match ← next? with
      | some .dedent =>
        skip
        return none
      | _ => return some (← statement)
    return statements.flatten
  | some _ =>
    refuse ("expected an indented block after " ++ holder ++ " on line " ++ toString holderLine)
      (← line) .indentation

/-- A block with its colon. -/
def block (isStrict : Bool) (holder : String) (holderLine : Nat) : Reader (List Statement) := do
  blockColon isStrict
  blockBody inner statement holder holderLine

/-- What is said of a statement in messages. -/
def statementWord (opening : String) : String := "'" ++ opening ++ "' statement"

/-- The block after a word, if the word comes next. -/
def blockAfter (opening : String) : Reader (Option (List Statement)) := do
  let line ← line
  afterWord opening (block inner statement true (statementWord opening) line)

/-! ## Choices and loops -/

/-- A test and its block. -/
def testedBlock (opening : String) (line : Nat) : Reader (Nat × Expression × List Statement) := do
  let test ← named inner
  let body ← block inner statement false (statementWord opening) line
  return (line, test, body)

/-- A choice after its first word. -/
def choice (line : Nat) : Reader Statement := do
  let first ← testedBlock inner statement "if" line
  let others ← many do
    let line ← Reader.line
    afterWord "elif" (testedBlock inner statement "elif" line)
  let last := (← blockAfter inner statement "else").getD []
  let rest := others.foldr (fun (line, test, body) next => [Statement.choice line test body next])
    last
  return .choice line first.2.1 first.2.2 rest

/-- A loop while a test holds. -/
def whileLoop (line : Nat) : Reader Statement := do
  let (_, test, body) ← testedBlock inner statement "while" line
  return .loop line false [test] body ((← blockAfter inner statement "else").getD [])

/-- A loop over items. -/
def forLoop (line : Nat) (isAsynchronous : Bool) : Reader Statement := do
  let target ← loopTarget inner
  let source ← values inner
  let body ← block inner statement false (statementWord "for") line
  return .loop line isAsynchronous [target, source] body
    ((← blockAfter inner statement "else").getD [])

/-! ## Faults and managers -/

/-- A block for faults. -/
def handler (line : Nat) : Reader Statement := do
  let isGroup ← takeMark "*"
  let holder := if isGroup then "'except*' statement" else statementWord "except"
  if !isGroup && (← isAtMark ":") then
    return .handler line none none (← block inner statement false holder line)
  if isGroup && !(← startsExpression) then
    if ← isAtMark ":" <||> canRead lineEnd then
      refuse "expected one or more exception types" (← Reader.line)
  if (← next?) matches some .lineEnd then refuse "expected ':'" (← Reader.line)
  let kindLine ← Reader.line
  let kind ← inner .whole
  if ← isAtMark "," <&&> canRead (do skip; inner .whole) then
    refuse "multiple exception types must be parenthesized" kindLine
  let name ← otherName
  return .handler line (some kind) name (← block inner statement false holder line)

/-- A block whose faults are handled. -/
def guarded (line : Nat) : Reader Statement := do
  let body ← block inner statement true (statementWord "try") line
  let handlers ← many do
    let line ← Reader.line
    afterWord "except" (handler inner statement line)
  let next ← if handlers.isEmpty then pure none else blockAfter inner statement "else"
  let last ← blockAfter inner statement "finally"
  if handlers.isEmpty && last.isNone && (← next?).isSome then
    refuse "expected 'except' or 'finally' block" (← Reader.line)
  return .guarded body handlers (next.getD []) (last.getD [])

/-- A value that is managed, and the place that it is bound to. -/
def managedValue : Reader (List Expression) := do
  let value ← inner .whole
  let line ← line
  if ← takeWord "as" then
    let target ← starred inner
    unless ← isAtMark "," <||> isAtMark ")" <||> isAtMark ":" do misfit
    checkBound .assigned target line
    return [value, target]
  return [value]

/-- A block with what some values provide. -/
def managed (line : Nat) (isAsynchronous : Bool) : Reader Statement := do
  let items : Reader (List (List Expression) × Bool) :=
    commaSeparated startsExpression (managedValue inner)
  let enclosed : Reader (List (List Expression)) := do
    mark "("
    let (values, _) ← items
    mark ")"
    unless (← isAtMark ":") do misfit
    return values
  let values ← either enclosed do
    let (values, hasComma) ← items
    if hasComma then misfit
    return values
  return .managed line isAsynchronous values.flatten
    (← block inner statement false (statementWord "with") line)

/-! ## Functions and classes -/

/-- A function after its first word. -/
def function (line : Nat) (isAsynchronous : Bool) (decorators : List Expression) :
    Reader Statement := do
  let name ← name
  unless ← takeMark "(" do
    if (← next?).isNone then misfit
    refuse "expected '('" (← Reader.line)
  let parameters ← parameters inner true ")"
  mark ")"
  if ← isAtMark "->" <&&> not <$> canRead (do skip; inner .whole) then
    refuse "expected ':'" (← Reader.line)
  let returns ← after "->" (inner .whole)
  let body ← block inner statement true "function definition" line
  return .function line isAsynchronous name parameters returns decorators body

/-- A class after its first word. -/
def classMade (line : Nat) (decorators : List Expression) : Reader Statement := do
  let name ← name
  let arguments ← if ← takeMark "(" then arguments inner else pure []
  let body ← block inner statement false "class definition" line
  return .classMade line name arguments decorators body

/-- A decorator on its line, if one comes next. -/
def decorator : Reader (Option Expression) := do
  if ← takeMark "@" then
    let value ← named inner
    lineEnd
    return some value
  return none

/-- A function or a class after its decorators. -/
def decorated : Reader Statement := do
  let decorators ← many (decorator inner)
  let line ← line
  if ← takeWord "def" then return ← function inner statement line false decorators
  if ← takeWord "class" then return ← classMade inner statement line decorators
  word "async"
  word "def"
  function inner statement line true decorators

/-! ## Patterns -/

/-- Pass over a pattern and its condition up to the colon after them. -/
def pattern : Reader Unit := do
  let depth := ((← get).head?.map Token.depth).getD 0
  let passed ← many do
    match ← get with
    | ⟨.mark ":", _, found⟩ :: _ =>
      if found < depth || found = 0 then return none
      skip
      return some ()
    | ⟨.lineEnd, _, _⟩ :: _ | ⟨.textEnd, _, _⟩ :: _ => return none
    | _ =>
      skip
      return some ()
  if passed.isEmpty then misfit

/-- A pattern and its block. -/
def caseBlock : Reader (Option (List Statement)) := do
  let line ← line
  if ← takeWord "case" then
    pattern
    return some (← block inner statement false (statementWord "case") line)
  return none

/-- Blocks with patterns for a value. -/
def cases : Reader Statement := do
  let line ← line
  word "match"
  let subject := tupled (← commaSeparated startsItem (item inner))
  mark ":"
  lineEnd
  match ← next? with
  | some .indent => skip
  | none => misfit
  | _ =>
    refuse ("expected an indented block after 'match' statement on line " ++ toString line)
      (← Reader.line) .indentation
  let blocks ← many (caseBlock inner statement)
  match ← next? with
  | some .dedent => skip
  | _ => misfit
  return .cases line subject blocks

/-! ## All statements -/

/-- A statement that holds blocks, if one comes next. -/
def compoundStatement : Reader (Option Statement) := do
  let line ← line
  if ← isAtMark "@" then return some (← decorated inner statement)
  let opening : String := ((← next?).bind fun
    | .word text => some text
    | _ => none).getD ""
  match opening with
  | "def" => skip; return some (← function inner statement line false [])
  | "class" => skip; return some (← classMade inner statement line [])
  | "if" => skip; return some (← choice inner statement line)
  | "while" => skip; return some (← whileLoop inner statement line)
  | "for" => skip; return some (← forLoop inner statement line false)
  | "with" => skip; return some (← managed inner statement line false)
  | "try" => skip; return some (← guarded inner statement line)
  | "async" =>
    skip
    if ← takeWord "def" then return some (← function inner statement line true [])
    if ← takeWord "with" then return some (← managed inner statement line true)
    word "for"
    return some (← forLoop inner statement line true)
  | "match" =>
    if ← canRead (do
        skip
        discard (commaSeparated startsItem (item inner))
        mark ":"
        lineEnd) then
      return some (← cases inner statement)
    if ← canRead (do
        skip
        discard (commaSeparated startsItem (item inner))
        lineEnd) <&&> not <$> canRead (simpleStatements inner) then
      refuse "expected ':'" line
    return none
  | _ => return none

/-- A statement, or several on one line. -/
def statements : Reader (List Statement) := do
  match ← compoundStatement inner statement with
  | some found => return [found]
  | none => simpleStatements inner

end

/-- Read a statement; `depth` bounds how often statements are entered within each other. -/
def statementWithin (inner : Extent → Reader Expression) : Nat → Reader (List Statement)
  | 0, tokens => misfit tokens
  | depth + 1, tokens => statements inner (statementWithin inner depth) tokens

/-- All statements of a text. -/
def allStatements (statement : Reader (List Statement)) : Reader (List Statement) := do
  let found ← many do
    match ← next? with
    | some .textEnd => return none
    | some .lineEnd =>
      skip
      return some []
    | _ => return some (← statement)
  return found.flatten

end Reader

/-! ## Texts -/

/-- The statements of a text with line feeds, or why it is no code. -/
def readStatements (text : List Char) : Except Refusal (List Statement) :=
  let scanned := scan (withLastLine text)
  let depth := text.length + 2
  let statement := Reader.statementWithin (Reader.expressionWithin depth) depth
  match Reader.allStatements statement scanned.tokens with
  | .ok (_, []) => .error (misfitRefusal scanned.stop [])
  | .ok (statements, _) => .ok statements
  | .error (.refused refusal reached) => .error (overridden scanned.stop refusal reached)
  | .error (.misfit left) => .error (misfitRefusal scanned.stop left)

end ServiceStubs.Source
