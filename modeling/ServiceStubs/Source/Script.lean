import ServiceStubs.Source.Frame
import ServiceStubs.Source.Statement.Placement

/-!
# Executing a text

The statements of a text are executed in order, at the top of a module or in the body of a class.
A statement is left before its end by a fault, or because a loop is left or goes on; what it has
bound until then stays. A handler takes a fault, and a last block is executed however the others are
left. What is not executed gives a fault that no handler takes: a managed block, a choice among
patterns, a loop of too many rounds, and whatever the place of execution does not execute. The
bodies of functions are not entered when they are defined.
-/

namespace ServiceStubs.Source

/-! ## Statements -/

mutual

/-- Whether a statement of the body of a class annotates something. -/
def Statement.annotates : Statement → Bool
  | .annotated _ _ _ _ => true
  | .choice _ _ first second => anyAnnotates first || anyAnnotates second
  | .loop _ _ _ body next => anyAnnotates body || anyAnnotates next
  | .guarded body handlers next last =>
    anyAnnotates body || anyAnnotates handlers || anyAnnotates next || anyAnnotates last
  | .handler _ _ _ body | .managed _ _ _ body => anyAnnotates body
  | _ => false

/-- Whether one of some statements of the body of a class annotates something. -/
def anyAnnotates : List Statement → Bool
  | [] => false
  | statement :: rest => statement.annotates || anyAnnotates rest

end

/-! ## Progress -/

/-- How a statement is left before its end. -/
inductive Leaving
  | failed (fault : Fault)
  /-- A loop is left or goes on, as a word says. -/
  | interrupted (word : String)
deriving DecidableEq, Repr, Inhabited

/-- Where the execution of statements has led. -/
structure Progress where
  frame : Frame
  /-- How the statements were left, unless they came to their end. -/
  leaving : Option Leaving := none
deriving Inhabited

/-- What comes after some statements, unless they were left. -/
def Progress.andThen (progress : Progress) (next : Frame → Evaluating Progress) :
    Evaluating Progress :=
  match progress.leaving with
  | none => next progress.frame
  | some _ => pure progress

namespace Frame

/-- A place that is left with a fault. -/
def failed (frame : Frame) (fault : Fault) : Progress := ⟨frame, some (.failed fault)⟩

/-- Use the value of a request, or leave the place with its fault. -/
def withValue {α : Type} (frame : Frame) (request : Evaluating α) (use : α → Evaluating Progress) :
    Evaluating Progress := do
  match ← request.caught with
  | .ok value => use value
  | .error fault => return frame.failed fault

/-- What a change of the place leads to; a fault leaves it as it was. -/
def attempt (frame : Frame) (change : Evaluating Frame) : Evaluating Progress :=
  frame.withValue change fun changed => return { frame := changed }

/-- Steps for values in order, up to the first that is left. -/
def forEach {α : Type} (step : Frame → α → Evaluating Progress) (frame : Frame) :
    List α → Evaluating Progress
  | [] => pure { frame }
  | value :: rest => do (← step frame value).andThen fun frame => forEach step frame rest

/-! ## Loops -/

/-- What comes after a round of a loop: another round, unless the loop is left. -/
def afterRound (progress : Progress) (next : Frame → Evaluating Progress) : Evaluating Progress :=
  match progress.leaving with
  | none | some (.interrupted "continue") => next progress.frame
  | some _ => pure progress

/-- A round for each of some values in order. -/
def rounds (round : Frame → Value → Evaluating Progress) (frame : Frame) :
    List Value → Evaluating Progress
  | [] => pure { frame }
  | item :: rest => do afterRound (← round frame item) fun frame => rounds round frame rest

/-- How many rounds of a loop with a test are executed. -/
def roundLimit : Nat := 10000

/-- Rounds while a test holds, up to a number of rounds. -/
def roundsWhile (test : Frame → Evaluating Bool) (round : Frame → Evaluating Progress) :
    Nat → Frame → Evaluating Progress
  | 0, _ => throw (.unexecuted ("A loop of more than " ++ toString roundLimit ++ " rounds"))
  | count + 1, frame =>
    frame.withValue (test frame) fun
      | true => do afterRound (← round frame) fun frame => roundsWhile test round count frame
      | false => pure { frame }

/-- What comes after the rounds of a loop: a further block, unless the loop was left. -/
def afterLoop (progress : Progress) (next : Frame → Evaluating Progress) : Evaluating Progress :=
  match progress.leaving with
  | none => next progress.frame
  | some (.interrupted "break") => pure { frame := progress.frame }
  | some _ => pure progress

end Frame

/-! ## Handlers -/

/-- Whether a class is one of exceptions. -/
def Module.isExceptionClass (module : Module) : Value → Bool
  | .classValue value => module.derivesFrom value (.standard (.exception "BaseException"))
  | _ => false

/-- Whether a handler for some value takes a fault. -/
def Module.takes (module : Module) (fault : Fault) (kind : Value) : Except Fault Bool :=
  let kinds := match kind with
    | .tuple items => items
    | value => [value]
  if kinds.all module.isExceptionClass then
    .ok (kinds.any fun
      | .classValue value => fault.lineage.contains value.name
      | _ => false)
  else .error (.wrongType
    "catching classes that do not inherit from BaseException is not allowed")

/-- Whether a handler takes a fault. -/
def Frame.takes (frame : Frame) (fault : Fault) : Option Expression → Evaluating Bool
  | none => pure true
  | some kind => do .ofExcept (frame.module.takes fault (← frame.evaluate kind))

/-! ## Imports -/

/-- What the import of a name gives, which may fail. -/
abbrev Importing := String → Evaluating Value

namespace Frame

/-- Bind a module of an import: under its other name, or else the outermost module that it is
inside under the name of that. -/
def importModule (importing : Importing) (frame : Frame) :
    String × Option String → Evaluating Frame
  | (path, some name) => do .ofExcept (frame.bind name (← importing path))
  | (path, none) => do
    discard (importing path)
    let first := (Text.cutAtFirst '.' path).1
    .ofExcept (frame.bind first (.imported first))

/-- Bind a name of an imported module. -/
def gather (imported : Value) (frame : Frame) : String × Option String → Evaluating Frame
  | (name, other) => do
    match frame.module.attributeOf name imported with
    | .ok value => .ofExcept (frame.bind (other.getD name) value)
    | .error (.missingName moduleName _) =>
      throw (exceptionFault "ImportError" ("cannot import name " ++ Text.quoted name ++ " from " ++
        Text.quoted moduleName ++ " (unknown location)"))
    | .error fault => throw fault

/-- Whether the module may be inside a package. -/
def mayBeInside (frame : Frame) : Bool :=
  frame.module.name.toList.contains '.' ||
    ((frame.module.names.get? "__file__").bind Value.quotation?).any fun quotation =>
      Text.endsWith "__init__.py" quotation.text

/-- The module that names are imported of. -/
def importedModule (importing : Importing) (frame : Frame) (levels : Nat) (path : String) :
    Evaluating Value := do
  if levels = 0 then importing path
  else if frame.mayBeInside then throw (.unexecuted "A relative import")
  else
    throw (exceptionFault "ImportError" "attempted relative import with no known parent package")

/-! ## Classes -/

/-- What the statement of a class has evaluated before its body is executed. -/
structure ClassStart where
  decorators : List Value
  written : List Value
  making : Making
  body : Body

/-- Whether an argument of a class is one of its bases. -/
def isBase (argument : Expression) : Bool :=
  !(argument matches .keyword _ _ | .entries _ | .spread _)

/-- The base that a value is in the statement of a class. Records are named after functions of the
library, and of other imported values nothing is known. -/
def baseOf (value : Value) : Evaluating Value :=
  match value.importedName? with
  | none => pure value
  | some "typing.TypedDict" => pure (.standard .typedDictBase)
  | some "typing.NamedTuple" => pure (.standard .namedTupleBase)
  | some name => throw (.unexecuted ("A class of the base " ++ name))

/-- Check that what the arguments of a class say beside its bases can be followed. -/
def checkArguments (making : Making) (arguments : List Expression) : Evaluating Unit :=
  arguments.forM fun
    | .keyword "total" _ => match making with
      | .ofClasses .typedDict _ => pure ()
      | _ => throw (.unexecuted "A class with an argument total")
    | .keyword name _ => throw (.unexecuted ("A class with an argument " ++ name))
    | .entries _ | .spread _ => throw (.unexecuted "A class with a list of arguments")
    | _ => pure ()

/-- Start the statement of a class. Without bases, named arguments are refused when the body is
executed. -/
def startClass (frame : Frame) (name : String) (arguments decorators : List Expression)
    (statements : List Statement) : Evaluating ClassStart := do
  let decorators ← decorators.mapM frame.evaluateDecorator
  let written ← (← frame.evaluateAll (arguments.filter isBase)).mapM baseOf
  let (making, body) ← frame.module.prepareClass name (frame.qualified name)
    (anyAnnotates statements) written
  if !written.isEmpty || arguments.any namesType then checkArguments making arguments
  return { decorators, written, making, body }
where
  namesType (argument : Expression) : Bool :=
    argument matches .keyword "metaclass" _ | .entries _ | .spread _

/-- Make a class of its executed body, and bind it. -/
def finishClass (frame : Frame) (name : String) (arguments : List Expression) (start : ClassStart)
    (body : Body) : Evaluating Frame := do
  if start.written.isEmpty && arguments.any (· matches .keyword _ _) then
    throw (.wrongType (name ++ ".__init_subclass__() takes no keyword arguments"))
  -- The decorator that stands closest to a class is applied first.
  let isRecord := start.decorators.getLast?.any isRecordDecorator
  let style : Style := if isRecord then .dataclass else .plain
  let (module, value) ← frame.module.makeClass style start.written start.making body
  let decorators := if isRecord then start.decorators.dropLast else start.decorators
  let (value, frame) ← { frame with module }.decorate value decorators
  .ofExcept ((← frame.settled).bind name value)

end Frame

/-! ## Execution -/

section

variable (importing : Importing)

mutual

/-- Execute a statement. -/
def Statement.execute (frame : Frame) : Statement → Evaluating Progress
  | .value _ value => frame.attempt do
    discard (frame.evaluateUnchanging value)
    frame.settled
  | .assigned _ targets value =>
    frame.withValue (frame.evaluateAssigned value) fun (value, frame) =>
    Frame.forEach (fun frame target => frame.attempt (frame.assign value target)) frame targets
  | .annotated _ target type value => do
    let assigned ← match value with
      | none => pure { frame }
      | some value => frame.attempt do
        let (value, frame) ← frame.evaluateAssigned value
        frame.assign value target
    assigned.andThen fun frame => frame.attempt do
      let type ← frame.evaluate type
      match frame.body, target with
      | some body, .name name =>
        return { frame with body := some (← .ofExcept (body.annotate name type)) }
      | _, _ => return frame
  | .augmented _ target operator value => frame.attempt do
    let left ← frame.evaluate target
    let right ← frame.evaluateUnchanging value
    frame.assign (← frame.module.operated operator left right) target
  | .raised _ error cause => frame.attempt do
    let fault ← frame.raisedFault error
    discard (cause.mapM frame.evaluate)
    throw fault
  | .deleted _ targets => frame.attempt (frame.deleteAll targets)
  | .asserted _ test message => frame.attempt do
    if ← frame.decide test then return frame
    let told ← message.mapM fun message => do
      Evaluating.ofExcept (frame.module.told (← frame.evaluate message))
    throw (exceptionFault "AssertionError" (told.getD ""))
  | .imported modules =>
    Frame.forEach (fun frame entry => frame.attempt (frame.importModule importing entry)) frame
      modules
  | .gathered _ levels path names =>
    frame.withValue (frame.importedModule importing levels path) fun imported =>
      match names with
      | none => throw (.unexecuted "The import of all names of a module")
      | some names =>
        Frame.forEach (fun frame entry => frame.attempt (frame.gather imported entry)) frame names
  | .function _ isAsynchronous name parameters returns decorators body => frame.attempt do
    let decorators ← decorators.mapM frame.evaluateDecorator
    let (value, frame) ← frame.defineFunction isAsynchronous name parameters returns body
    let (value, frame) ← frame.decorate value decorators
    .ofExcept ((← frame.settled).bind name value)
  | .classMade _ name arguments decorators statements =>
    frame.withValue (frame.startClass name arguments decorators statements) fun start => do
      let inner ← Frame.executeAll
        { module := frame.module, body := some start.body, handled := frame.handled } statements
      let outer := { frame with module := inner.frame.module }
      match inner.leaving with
      | some leaving => return ⟨outer, some leaving⟩
      | none =>
        outer.attempt
          (outer.finishClass name arguments start (inner.frame.body.getD start.body))
  | .choice _ test whenTrue whenFalse => frame.withValue (frame.decide test) fun
    | true => Frame.executeAll frame whenTrue
    | false => Frame.executeAll frame whenFalse
  | .loop _ _ [target, source] body next => frame.withValue (frame.items source) fun items => do
    let round (frame : Frame) (item : Value) : Evaluating Progress := do
      let assigned ← frame.attempt (frame.assign item target)
      assigned.andThen fun frame => Frame.executeAll frame body
    Frame.afterLoop (← frame.rounds round items) fun frame => Frame.executeAll frame next
  | .loop _ _ [test] body next => do
    let round (frame : Frame) : Evaluating Progress := Frame.executeAll frame body
    let progress ← Frame.roundsWhile (fun frame => frame.decide test) round Frame.roundLimit frame
    Frame.afterLoop progress fun frame => Frame.executeAll frame next
  | .loop _ _ _ _ _ => throw (.unexecuted "A loop")
  | .guarded body handlers next last => do
    let tried ← Frame.executeAll frame body
    let handled ← match tried.leaving with
      | none => Frame.executeAll tried.frame next
      | some (.failed fault) => Frame.executeFirst tried.frame fault handlers
      | some (.interrupted _) => pure tried
    let ended ← Frame.executeAll handled.frame last
    return { ended with leaving := ended.leaving.or handled.leaving }
  | .handler _ _ _ body => Frame.executeAll frame body
  | .managed _ _ _ _ => throw (.unexecuted "A managed block")
  | .cases _ _ _ => throw (.unexecuted "A choice among patterns")
  | .outer _ word _ =>
    if frame.body.isSome then throw (.unexecuted ("A statement " ++ word)) else pure { frame }
  | .interrupted _ word => pure ⟨frame, some (.interrupted word)⟩
  | .nothing | .returned _ _ => pure { frame }

/-- Execute statements in order, up to the first that is left. -/
def Frame.executeAll (frame : Frame) : List Statement → Evaluating Progress
  | [] => pure { frame }
  | statement :: rest => do
    (← statement.execute frame).andThen fun frame => Frame.executeAll frame rest

/-- Execute the first of some handlers that takes a fault. While it is executed, the fault is being
handled. -/
def Frame.executeFirst (frame : Frame) (fault : Fault) : List Statement → Evaluating Progress
  | [] => pure (frame.failed fault)
  | .handler _ kind name body :: rest => frame.withValue (frame.takes fault kind) fun
    | true => do
      if name.isSome then throw (.unexecuted "The name of a fault that is handled")
      let progress ← Frame.executeAll { frame with handled := some fault } body
      return { progress with frame := { progress.frame with handled := frame.handled } }
    | false => Frame.executeFirst frame fault rest
  | _ :: rest => Frame.executeFirst frame fault rest

end

end

/-! ## Texts -/

/-- The mark that a text may begin with to tell how its characters are stored. -/
def orderMark : Char := '\ufeff'

/-- The statements of the text of a file. -/
def fileStatements (fileName text : String) : Except Fault (List Statement) :=
  let characters := match text.toList with
    | first :: rest => if first = orderMark then rest else first :: rest
    | [] => []
  if characters.contains '\x00' then .error .nullCharacter
  else (statementsOf (withLineFeeds characters)).mapError (Fault.brokenText fileName)

/-- A module in which the text of a file is executed. -/
def Module.executeText (importing : Importing) (module : Module) (fileName text : String) :
    Evaluating Module := do
  let statements ← .ofExcept (fileStatements fileName text)
  let module := module.bind "__file__" (.ofText fileName)
  let progress ← Frame.executeAll importing { module } statements
  match progress.leaving with
  | some (.failed fault) => throw fault
  | _ => return (← progress.frame.settled).module

end ServiceStubs.Source
