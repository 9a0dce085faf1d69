import ServiceStubs.Source.Statement.Grammar

/-!
# Where statements may stand

A function alone is returned from or left for a while, a loop alone is interrupted, and an
asynchronous function alone waits. What some statements name is restricted too: parameters differ
from each other, and all names of a module are imported at the top alone. The names of the whole
text are looked at first, then the places of its statements.
-/

namespace ServiceStubs.Source

/-- What holds a statement most closely. -/
inductive Holder
  | module
  | classBody
  | function (isAsynchronous : Bool)
deriving DecidableEq, Repr

/-- The place of a statement. -/
structure Placement where
  holder : Holder := .module
  /-- A loop holds it, inside its holder. -/
  isLooped : Bool := false
deriving DecidableEq, Repr

namespace Placement

/-- Whether a function holds the statement. -/
def isInFunction (placement : Placement) : Bool := placement.holder matches .function _

/-- Whether an asynchronous function holds the statement. -/
def isAsynchronous (placement : Placement) : Bool := placement.holder = .function true

/-- A refusal of what stands on a line. -/
def refusal? (isWrong : Bool) (message : String) (line : Nat) : Option Refusal :=
  if isWrong then some ⟨message, line, .grammar⟩ else none

/-- What is wrong with leaving a function for a while at a place. -/
def leavingFault? (placement : Placement) (line : Nat) (word : String) : Option Refusal :=
  if word = "await" then
    (refusal? (!placement.isInFunction) "'await' outside function" line).or
      (refusal? (!placement.isAsynchronous) "'await' outside async function" line)
  else
    (refusal? (!placement.isInFunction) "'yield' outside function" line).or
      (refusal? (word = "yield from" && placement.isAsynchronous)
        "'yield from' inside async function" line)

/-- What is wrong with expressions at a place. -/
def expressionFault? (placement : Placement) (values : List Expression) : Option Refusal :=
  (Expression.leavingsOf values).findSome? fun (line, word) => placement.leavingFault? line word

/-- What is wrong with a value at a place: a star before it, or what it holds. -/
def valueFault? (placement : Placement) (line : Nat) (value : Expression) : Option Refusal :=
  (refusal? (value matches .spread _) "can't use starred expression here" line).or
    (placement.expressionFault? [value])

/-- What is wrong with the stars of a target. -/
def starFault? (line : Nat) (target : Expression) : Option Refusal :=
  match target with
  | .spread _ =>
    some ⟨"starred assignment target must be in a list or tuple", line, .grammar⟩
  | .tuple items | .list items =>
    refusal? (1 < (items.filter (· matches .spread _)).length)
      "multiple starred expressions in assignment" line
  | _ => none

end Placement

/-! ## Names -/

mutual

/-- What is wrong with the names of a statement, which stands at the top of the text or not. -/
def Statement.nameFault? (isTop : Bool) : Statement → Option Refusal
  | .gathered line _ _ names =>
    Placement.refusal? (names.isNone && !isTop) "import * only allowed at module level" line
  | .function line _ _ parameters _ _ body =>
    match repeatedParameter? parameters with
    | some name =>
      some ⟨"duplicate argument '" ++ name ++ "' in function definition", line, .grammar⟩
    | none => nameFaultOf? false body
  | .classMade _ _ _ _ body => nameFaultOf? false body
  | .choice _ _ whenTrue whenFalse =>
    (nameFaultOf? isTop whenTrue).or (nameFaultOf? isTop whenFalse)
  | .loop _ _ _ body next => (nameFaultOf? isTop body).or (nameFaultOf? isTop next)
  | .guarded body handlers next last =>
    (nameFaultOf? isTop body).or ((nameFaultOf? isTop handlers).or
      ((nameFaultOf? isTop next).or (nameFaultOf? isTop last)))
  | .handler _ _ _ body | .managed _ _ _ body => nameFaultOf? isTop body
  | .cases _ _ blocks => nameFaultOfBlocks? isTop blocks
  | .outer line word _ =>
    Placement.refusal? (word = "nonlocal" && isTop)
      "nonlocal declaration not allowed at module level" line
  | _ => none

/-- What is wrong with the names of some statements. -/
def nameFaultOf? (isTop : Bool) : List Statement → Option Refusal
  | [] => none
  | statement :: rest => (statement.nameFault? isTop).or (nameFaultOf? isTop rest)

/-- What is wrong with the names of some blocks. -/
def nameFaultOfBlocks? (isTop : Bool) : List (List Statement) → Option Refusal
  | [] => none
  | block :: rest => (nameFaultOf? isTop block).or (nameFaultOfBlocks? isTop rest)

end

/-! ## Places -/

/-- Whether one of some handlers for all faults is not the last one. -/
def earlyDefault? (handlers : List Statement) : Option Refusal :=
  handlers.dropLast.findSome? fun
    | .handler line none _ _ => some ⟨"default 'except:' must be last", line, .grammar⟩
    | _ => none

/-- The expressions of parameters: their values for want of others, and their annotations. -/
def parameterExpressions (parameters : List WrittenParameter) : List Expression :=
  parameters.filterMap WrittenParameter.default ++ parameters.filterMap WrittenParameter.type

mutual

/-- What is wrong with a statement at a place. -/
def Statement.placeFault? (placement : Placement) : Statement → Option Refusal
  | .value line value => placement.valueFault? line value
  | .assigned line targets value =>
    (placement.valueFault? line value).or ((targets.findSome? (Placement.starFault? line)).or
      (placement.expressionFault? targets))
  | .annotated _ target type value =>
    placement.expressionFault? (value.toList ++ [target, type])
  | .augmented _ target _ value => placement.expressionFault? [target, value]
  | .returned line value =>
    (Placement.refusal? (!placement.isInFunction) "'return' outside function" line).or
      (value.toList.findSome? (placement.valueFault? line))
  | .interrupted line word =>
    Placement.refusal? (!placement.isLooped)
      (if word = "break" then "'break' outside loop" else "'continue' not properly in loop") line
  | .raised _ error cause => placement.expressionFault? (error.toList ++ cause.toList)
  | .deleted _ targets => placement.expressionFault? targets
  | .asserted _ test message => placement.expressionFault? (test :: message.toList)
  | .function _ isAsynchronous _ parameters returns decorators body =>
    (placement.expressionFault?
      (decorators ++ parameterExpressions parameters ++ returns.toList)).or
      (placeFaultOf? { holder := .function isAsynchronous } body)
  | .classMade _ _ arguments decorators body =>
    (placement.expressionFault? (decorators ++ arguments)).or
      (placeFaultOf? { holder := .classBody } body)
  | .choice _ test whenTrue whenFalse =>
    (placement.expressionFault? [test]).or
      ((placeFaultOf? placement whenTrue).or (placeFaultOf? placement whenFalse))
  | .loop line isAsynchronous heads body next =>
    (Placement.refusal? (isAsynchronous && !placement.isAsynchronous)
      "'async for' outside async function" line).or
      ((placement.expressionFault? heads).or
        ((placeFaultOf? { placement with isLooped := true } body).or
          (placeFaultOf? placement next)))
  | .guarded body handlers next last =>
    (placeFaultOf? placement body).or ((earlyDefault? handlers).or
      ((placeFaultOf? placement handlers).or
        ((placeFaultOf? placement next).or (placeFaultOf? placement last))))
  | .handler _ kind _ body =>
    (placement.expressionFault? kind.toList).or (placeFaultOf? placement body)
  | .managed line isAsynchronous values body =>
    (Placement.refusal? (isAsynchronous && !placement.isAsynchronous)
      "'async with' outside async function" line).or
      ((placement.expressionFault? values).or (placeFaultOf? placement body))
  | .cases _ subject blocks =>
    (placement.expressionFault? [subject]).or (placeFaultOfBlocks? placement blocks)
  | .nothing | .imported _ | .gathered _ _ _ _ | .outer _ _ _ => none

/-- What is wrong with some statements at a place. -/
def placeFaultOf? (placement : Placement) : List Statement → Option Refusal
  | [] => none
  | statement :: rest => (statement.placeFault? placement).or (placeFaultOf? placement rest)

/-- What is wrong with some blocks at a place. -/
def placeFaultOfBlocks? (placement : Placement) : List (List Statement) → Option Refusal
  | [] => none
  | block :: rest => (placeFaultOf? placement block).or (placeFaultOfBlocks? placement rest)

end

/-- The statements of a text with line feeds that can all stand where they do, or why the text is
no code. -/
def statementsOf (text : List Char) : Except Refusal (List Statement) := do
  let statements ← readStatements text
  match (nameFaultOf? true statements).or (placeFaultOf? {} statements) with
  | some refusal => throw refusal
  | none => return statements

end ServiceStubs.Source
