import ServiceStubs.Source.Evaluation

/-!
# Hints

The hints of a class or of a function are its annotations with every string in them evaluated too,
in the module as it is when the hints are asked for, and with notes and the requirements of typed
dictionaries taken off. What does not change is kept as it is.

A string may lead to an alias that holds the same string again: a string that is being evaluated
is not entered a second time.
-/

namespace ServiceStubs.Source

namespace Value

/-! ## Opening references -/

/-- What a reference is replaced by. -/
abbrev Opening := Reference → Evaluating Value

/-- A construction made anew of parts, unless the parts are as they were. -/
def remade (construction : Value) (parts remadeParts : List Value) (make : Evaluating Value) :
    Evaluating Value := do
  if ← Evaluating.areEqual remadeParts parts then return construction else make

/-- The references for the strings among the arguments of a class. -/
def referAll : List Value → Evaluating (List (Option Reference))
  | [] => pure []
  | value :: rest => do
    let first ← match value.quotation? with
      | none => pure none
      | some quotation => do
        match ← Evaluating.refer Quotation.check { quotation, keyFlaw := value.keyFault? } with
        | .reference found => pure (some found)
        | _ => pure none
    let others ← referAll rest
    return first :: others

section

variable (opening : Opening)

mutual

/-- A value with the references in it opened. Strings inside the brackets of a class are
references too. -/
def openReferences : Value → Evaluating Value
  | .reference found => opening found
  | .builtinOf origin arguments => do
    let references ← referAll arguments
    return .builtinOf origin (← openArguments references arguments)
  | .templateOf origin arguments => do
    let opened ← openAll arguments
    remade (.templateOf origin arguments) arguments opened (pure (.templateOf origin opened))
  | .aliasOf word arguments => do
    let opened ← openAll arguments
    remade (.aliasOf word arguments) arguments opened (pure (.aliasOf word opened))
  | .qualified word argument => do
    let opened ← openReferences argument
    remade (.qualified word argument) [argument] [opened] (pure (.qualified word opened))
  | .union members => do
    let opened ← openAll members
    remade (.union members) members opened (makeUnion opened)
  | .alternatives members => do
    let opened ← openAll members
    remade (.alternatives members) members opened (barAll opened)
  | .callable arguments result => do
    let opened ← openAll arguments
    let openedResult ← openReferences result
    remade (.callable arguments result) (arguments ++ [result]) (opened ++ [openedResult])
      (pure (.callable opened openedResult))
  | .annotated inner notes => do
    let opened ← openReferences inner
    remade (.annotated inner notes) [inner] [opened] (annotate opened notes)
  | value => pure value

/-- Several values with the references in them opened. -/
def openAll : List Value → Evaluating (List Value)
  | [] => pure []
  | value :: rest => do
    let first ← openReferences value
    let others ← openAll rest
    return first :: others

/-- The arguments of a class with the references in them opened, given those for strings. -/
def openArguments : List (Option Reference) → List Value → Evaluating (List Value)
  | some found :: references, _ :: rest => do
    let first ← opening found
    let others ← openArguments references rest
    return first :: others
  | _ :: references, value :: rest => do
    let first ← openReferences value
    let others ← openArguments references rest
    return first :: others
  | _, _ => pure []

end

end

/-! ## Taking off notes -/

mutual

/-- A value without notes and without the requirements of typed dictionaries. -/
def bare : Value → Evaluating Value
  | .annotated inner _ => inner.bare
  | .qualified word argument => do
    let bared ← argument.bare
    if word = .required || word = .notRequired then return bared
    remade (.qualified word argument) [argument] [bared] (pure (.qualified word bared))
  | .builtinOf origin arguments => do
    let bared ← bareAll arguments
    remade (.builtinOf origin arguments) arguments bared (pure (.builtinOf origin bared))
  | .templateOf origin arguments => do
    let bared ← bareAll arguments
    remade (.templateOf origin arguments) arguments bared (pure (.templateOf origin bared))
  | .aliasOf word arguments => do
    let bared ← bareAll arguments
    remade (.aliasOf word arguments) arguments bared (pure (.aliasOf word bared))
  | .union members => do
    let bared ← bareAll members
    remade (.union members) members bared (makeUnion bared)
  | .alternatives members => do
    let bared ← bareAll members
    remade (.alternatives members) members bared (barAll bared)
  | .callable arguments result => do
    let bared ← bareAll arguments
    let baredResult ← result.bare
    remade (.callable arguments result) (arguments ++ [result]) (bared ++ [baredResult])
      (pure (.callable bared baredResult))
  | value => pure value

/-- Several values without notes and requirements. -/
def bareAll : List Value → Evaluating (List Value)
  | [] => pure []
  | value :: rest => do
    let first ← value.bare
    let others ← bareAll rest
    return first :: others

end

end Value

/-! ## Hints -/

/-- Strings that are evaluated within each other, at most. -/
def deepestString : Nat := 1000

namespace Module

/-- What a reference stands for, when `depth` more references may be entered. A string that is
being evaluated already stays a reference. What a reference in a lasting scope stands for is
found once; a reference that is tied to its module sees nothing else. -/
def openReference (module : Module) :
    Nat → Scope → List String → Reference → Evaluating Value
  | 0, _, _, _ => throw .tooDeep
  | depth + 1, scope, entered, found => do
    if let some fault := found.keyFlaw then throw fault
    if entered.contains found.quotation.text then return .reference found
    if scope.isLasting then
      if let some known := (← get).resolved? found then return known
    let scope := if found.moduleName = some module.name then Module.scope else scope
    let value ← evaluateQuotation module scope found.quotation
    let type ← value.checked
      { message := "Forward references must evaluate to types.", isField := found.isField }
    let opened ← type.openReferences
      (module.openReference depth scope (found.quotation.text :: entered))
    .resolve found opened
    return opened

/-- One annotation as a hint. -/
def hint (module : Module) (scope : Scope) (isField : Bool) (type : Value) :
    Evaluating Value := do
  (← type.converted isField none).openReferences (module.openReference deepestString scope [])

/-- Annotations as hints, in order. -/
def hints (module : Module) (scope : Scope) (isField : Bool) :
    List (String × Value) → Evaluating (List (String × Value))
  | [] => pure []
  | (name, annotation) :: rest => do
    let first ← module.hint scope isField annotation
    let others ← module.hints scope isField rest
    return (name, first) :: others

/-- Hints without notes and requirements. -/
def bareHints : List (String × Value) → Evaluating (List (String × Value))
  | [] => pure []
  | (name, hint) :: rest => do
    let first ← hint.bare
    let others ← bareHints rest
    return (name, first) :: others

/-- The annotations that a class has of its own. -/
def ownAnnotations (module : Module) :
    ClassValue → Except Fault (List (String × Value))
  | .standard _ => .ok []
  | .user reference => (module.classAt reference.index).listedAnnotations module

/-- The hints that the classes of an order contribute, the last class first. -/
def hintsOfOrder (module : Module) : List ClassValue → Evaluating (List (String × Value))
  | [] => pure []
  | owner :: rest => do
    let earlier ← module.hintsOfOrder rest
    let annotations ← .ofExcept (module.ownAnnotations owner)
    let own ← module.hints (fieldScope owner) true annotations
    return earlier ++ own

/-- Whether a class says that its annotations are no hints. -/
def hasNoHints (module : Module) (value : ClassValue) : Except Fault Bool :=
  match module.attributeOf "__no_type_check__" (.classValue value) with
  | .ok found => module.isTrue found
  | .error fault => if fault.kind = "AttributeError" then .ok false else .error fault

/-- The hints of a class: over its bases first, each name at the place of its first annotation
and with its last one. -/
def classHints (module : Module) (value : ClassValue) : Evaluating (List (String × Value)) := do
  if ← .ofExcept (module.hasNoHints value) then return []
  let hints ← module.hintsOfOrder (module.orderOf value)
  bareHints (OrderedMap.ofList hints).entries

/-- The hints of the parameters of a function, and of its result. -/
def functionHints (module : Module) (function : Function) :
    Evaluating (List (String × Value) × Option Value) := do
  let parameters ← module.hints Module.scope false function.annotations
  let returns ← match function.returns with
    | none => pure none
    | some annotation => do pure (some (← module.hint Module.scope false annotation))
  let parameters ← bareHints parameters
  let returns ← match returns with
    | none => pure none
    | some hint => do pure (some (← hint.bare))
  return (parameters, returns)

end Module

end ServiceStubs.Source
