import ServiceStubs.Writing.Emission

/-!
# Programs of writing steps

A program writes text step by step. A step may fail with a message, or because a line that it
writes cannot be indented; either failure leaves every enclosing block and scope at once. An attempt
catches the failure of its body, of whatever kind or only if it is told with a message. Whichever
way a block or a scope is left, the depth is what it was before. A run is told as the events it
makes: text that is added, and steps that complete. A step that is left by a failure does not
complete.
-/

namespace ServiceStubs.Writing

/-- What leaves a step before it completes. -/
inductive Interruption
  /-- A step fails with a message. -/
  | raised (message : String)
  /-- A line cannot be indented. -/
  | refused
deriving DecidableEq, Repr, Inhabited

/-- The failures that an attempt catches. -/
inductive Catching
  /-- Those with a message. -/
  | raised
  /-- All. -/
  | every
deriving DecidableEq, Repr, Inhabited

/-- Whether an attempt catches a failure. -/
def Catching.catches : Catching → Interruption → Bool
  | every, _ | raised, .raised _ => true
  | raised, .refused => false

/-- One step of a program. -/
inductive Step
  /-- Write text and end the line. -/
  | line (text : String)
  /-- Write text. -/
  | write (text : String)
  /-- End the line. -/
  | newLine
  /-- A block whose body is given as text. -/
  | textBlock (text : String)
  /-- A block whose body is a program. -/
  | block (body : List Step)
  /-- A program one level deeper. -/
  | indented (body : List Step)
  /-- Fail with a message. -/
  | fail (message : String)
  /-- A program whose failures of some kind are caught. -/
  | attempt (catching : Catching) (body : List Step)
deriving Inhabited

/-- The kinds of steps that can complete. -/
inductive StepKind
  | line
  | write
  | newLine
  | block
  | indented
  | attempt
deriving DecidableEq, Repr, Inhabited

/-- Something that happens in a run. -/
inductive Event
  /-- Text is added. -/
  | added (text : List Char)
  /-- A step completes at a depth; an attempt tells the failure it caught. -/
  | completed (step : StepKind) (depth : Nat) (caught : Option Interruption)
deriving DecidableEq, Repr, Inhabited

/-- What a run makes of a cursor. -/
structure Run where
  /-- Events in order. -/
  events : List Event
  /-- The cursor when the run ends. -/
  cursor : Cursor
  /-- The failure that ends the run, if one does. -/
  failure : Option Interruption := none
deriving DecidableEq, Repr, Inhabited

namespace Run

/-- A run that does nothing. -/
def idle (cursor : Cursor) : Run := { events := [], cursor }

/-- A run that adds the text of an emission, and fails where that is refused. -/
def emit (emission : Emission) (cursor : Cursor) : Run :=
  let written := emission cursor
  { events := [.added written.text]
    cursor := written.cursor
    failure := if written.isRefused then some .refused else none }

/-- A run followed by another one, unless it failed. -/
def andThen (first : Run) (second : Cursor → Run) : Run :=
  match first.failure with
  | some _ => first
  | none =>
    let next := second first.cursor
    { next with events := first.events ++ next.events }

/-- A run followed by the completion of its step, unless it failed. -/
def complete (run : Run) (step : StepKind) : Run :=
  run.andThen fun cursor => { events := [.completed step cursor.depth none], cursor }

/-- A run of a body one level deeper; the depth is restored even when the body fails. -/
def indented (body : Cursor → Run) (cursor : Cursor) : Run :=
  let run := body { cursor with depth := cursor.depth + 1 }
  { run with cursor := { run.cursor with depth := run.cursor.depth - 1 } }

/-- A run whose failure, if there is one of a kind, is caught; unless another one leaves it, it
completes. -/
def caught (catching : Catching) (run : Run) : Run :=
  if run.failure.all catching.catches then
    { events := run.events ++ [.completed .attempt run.cursor.depth run.failure]
      cursor := run.cursor }
  else run

/-- The run of a block around a body. -/
def block (layout : Layout) (body : Cursor → Run) (cursor : Cursor) : Run :=
  let opened := emit (Writing.line layout "\x7b") cursor
  let inside := opened.andThen <| indented fun inner =>
    (body inner).andThen (emit (finishLine layout))
  (inside.andThen (emit (Writing.line layout "\x7d"))).complete .block

/-- All text added by a run. -/
def text (run : Run) : List Char :=
  run.events.flatMap fun
    | .added text => text
    | .completed _ _ _ => []

end Run

mutual

/-- The run of one step. -/
def Step.run (layout : Layout) : Step → Cursor → Run
  | .line text, cursor => (Run.emit (Writing.line layout text) cursor).complete .line
  | .write text, cursor => (Run.emit (Writing.write layout text) cursor).complete .write
  | .newLine, cursor => (Run.emit (Writing.newLine layout) cursor).complete .newLine
  | .textBlock text, cursor => Run.block layout (Run.emit (Writing.write layout text)) cursor
  | .block body, cursor => Run.block layout (runSteps layout body) cursor
  | .indented body, cursor => (Run.indented (runSteps layout body) cursor).complete .indented
  | .fail message, cursor => { events := [], cursor, failure := some (.raised message) }
  | .attempt catching body, cursor => (runSteps layout body cursor).caught catching

/-- The run of steps in order, up to the first that fails. -/
def runSteps (layout : Layout) : List Step → Cursor → Run
  | [], cursor => Run.idle cursor
  | step :: rest, cursor => (step.run layout cursor).andThen (runSteps layout rest)

end

/-- A completed step with the text added since the step that completed before it. -/
structure TraceEntry where
  step : StepKind
  added : List Char
  depth : Nat
  caught : Option Interruption
deriving DecidableEq, Repr, Inhabited

/-- The completed steps among some events. `pending` is text that was added before the events and
after the last completed step. -/
def traceFrom (pending : List Char) : List Event → List TraceEntry
  | [] => []
  | .added text :: rest => traceFrom (pending ++ text) rest
  | .completed step depth caught :: rest => ⟨step, pending, depth, caught⟩ :: traceFrom [] rest

/-- The completed steps of a run in order. -/
def Run.trace (run : Run) : List TraceEntry := traceFrom [] run.events

end ServiceStubs.Writing
