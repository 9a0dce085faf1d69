import ServiceStubs.Source.Asking
import ServiceStubs.Source.Brackets

/-!
# Evaluating annotations

An annotation is evaluated in a scope, which gives names their meaning; parts are evaluated from
left to right before the whole is built. A string stays a string. A name that is no word of
annotations is read as an expression, which is evaluated in the same scope. A function without a
name is evaluated when it is called, with its parameters bound at a place of their own.
-/

namespace ServiceStubs.Source

/-- How a function is told in messages about its arguments. -/
def calleeText : Value → String
  | .builtin name => name ++ "()"
  | .classValue value => value.text ++ "()"
  | .function found => found.identity ++ "()"
  | .closure _ _ _ => "<lambda>()"
  | .method owner name => owner.typeName ++ "." ++ name ++ "()"
  | .descriptor owner name => owner.name ++ "." ++ name ++ "()"
  | value => value.display

/-- Whether two expressions are one name. -/
def isSameName : Expression → Expression → Bool
  | .name left, .name right => left = right
  | _, _ => false

namespace Module

/-! ## Binding targets -/

/-- The values of a target that holds several, of which one may take those that are left. -/
def spreadOver (before after : Nat) (values : List Value) : Except Fault (List Value) :=
  if values.length < before + after then
    .error (.wrongValue ("not enough values to unpack (expected at least " ++
      toString (before + after) ++ ", got " ++ toString values.length ++ ")"))
  else
    let count := values.length - before - after
    .ok (values.take before ++ [.list ((values.drop before).take count)] ++
      values.drop (before + count))

/-- The values that a target that holds several gives to its parts. -/
def unpackedFor (module : Module) (targets : List Expression) (value : Value) :
    Except Fault (List Value) := do
  let values ← (module.itemsOf value).mapError fun fault =>
    if fault.kind = "TypeError" then
      .wrongType ("cannot unpack non-iterable " ++ value.typeName ++ " object") else fault
  let count := targets.length
  match targets.findIdx? (· matches .spread _) with
  | some place => spreadOver place (count - place - 1) values
  | none =>
    if count < values.length then
      throw (.wrongValue ("too many values to unpack (expected " ++ toString count ++ ")"))
    else if values.length < count then
      throw (.wrongValue ("not enough values to unpack (expected " ++ toString count ++ ", got " ++
        toString values.length ++ ")"))
    else return values

mutual

/-- Bind the names in a target at a place. -/
def bindTarget (module : Module) (place : Nat) : Expression → Value → Evaluating Unit
  | .name name, value => Evaluating.bindAt place name value
  | .tuple items, value => do
    bindTargets module place items (← .ofExcept (module.unpackedFor items value))
  | .list items, value => do
    bindTargets module place items (← .ofExcept (module.unpackedFor items value))
  | .spread target, value => bindTarget module place target value
  | _, _ => pure ()

/-- Bind the names in several targets at a place. -/
def bindTargets (module : Module) (place : Nat) : List Expression → List Value → Evaluating Unit
  | target :: targets, value :: values => do
    bindTarget module place target value
    bindTargets module place targets values
  | _, _ => pure ()

end

/-! ## Calls in a scope -/

/-- The names that are seen without being looked up further out, with their values. -/
def namesHere (module : Module) (memory : Memory) (scope : Scope) : List (String × Value) :=
  let ofModule := (module.withBound memory).names.entries
  let own := match scope.outline with
    | .body _ attributes => attributes.entries
    | .attributesOf _ | .module | .top => ofModule
  match scope.places with
  | [] => own
  | place :: _ => memory.bound.entries.filterMap fun entry =>
      if entry.1.1 = place then some (entry.1.2, entry.2) else none

/-- The names of the outermost scope, with their values. -/
def globalNames (module : Module) (memory : Memory) (scope : Scope) : List (String × Value) :=
  match scope.outline with
  | .attributesOf (.user owner) => (module.classAt owner.index).attributes.entries
  | _ => ("__name__", .ofText module.name) :: (module.withBound memory).names.entries

/-- Names and values as a dictionary. -/
def nameTable (names : List (String × Value)) : Value :=
  .dictionary (names.map fun entry => (.ofText entry.1, entry.2))

/-- The function that evaluates a text in a scope. -/
def evaluator (scope : Scope) (text : String) : Except Fault Value :=
  match Expression.read text with
  | .ok body => .ok (.closure 0 ⟨[], body, scope.surroundings, scope.places⟩ [])
  | .error refusal => .error (.brokenText "<string>" refusal)

section

variable (module : Module) (calling : Calling)

/-- The value of a text that is evaluated in a scope, or among the names of a table. -/
def evaluateHere (scope : Scope) (arguments : Arguments) : Evaluating Value := do
  discard (.ofExcept ((builtinSignature "eval").arranged "eval" "eval" arguments))
  let text ← match (arguments.values.headD .nothing).plain with
    | .string quotation => pure quotation.text
    | .bytes _ codes => pure (String.ofList (codes.map Char.ofNat))
    | .object "code" _ => return .nothing
    | _ => throw (.wrongType "eval() arg 1 must be a string, bytes or code object")
  let scope ← match arguments.values[1]? with
    | none | some (.constant .missing) => pure scope
    | some table =>
      match table.plain with
      | .dictionary entries => do
        let place ← Evaluating.newPlace
        for entry in entries do
          if let some quotation := entry.1.quotation? then
            Evaluating.bindAt place quotation.text entry.2
        pure { scope with places := [place] }
      | _ => throw (.wrongType "globals must be a dict")
  calling (← .ofExcept (evaluator scope (String.ofList
    (text.toList.dropWhile fun character => character = ' ' || character = '\t')))) {}

/-- A call of a value in a scope, which a few functions look at. -/
def callHere (scope : Scope) (called : Value) (arguments : Arguments) : Evaluating Value := do
  let hasNone := arguments.values.isEmpty && arguments.named.isEmpty
  let memory ← get
  match called, hasNone with
  | .builtin "globals", true => return nameTable (module.globalNames memory scope)
  | .builtin "locals", true | .builtin "vars", true =>
    return nameTable (module.namesHere memory scope)
  | .builtin "dir", true =>
    return .list ((((module.namesHere memory scope).map Prod.fst).mergeSort (· ≤ ·)).map .ofText)
  | .builtin "eval", _ => evaluateHere calling scope arguments
  | .classValue (.standard .type), _ =>
    match ← calling called arguments, scope.outline with
    | .classValue (.user made), .attributesOf _ =>
      if module.classes.size ≤ made.index then return .user { made with moduleName := "" }
      else return .user made
    | result, _ => return result
  | called, _ => calling called arguments

/-! ## Expressions -/

/-- Keep a value that is bound to a name on the way. -/
def bindOnTheWay (scope : Scope) (name : String) (value : Value) : Evaluating Value := do
  if let some place := scope.home then Evaluating.bindAt place (scope.bound name) value
  return value

/-- A scope with a place of its own, in which a comprehension binds names. -/
def innerScope (scope : Scope) : Evaluating (Nat × Scope) := do
  let place ← Evaluating.newPlace
  let keepsNames := match scope.outline with
    | .attributesOf _ | .body _ _ => !scope.places.isEmpty
    | .top | .module => true
  return (place, { scope with
    outline := match scope.outline with
      | .body _ _ => .module
      | outline => outline
    places := place :: scope.places
    home := if keepsNames then scope.home else none })

/-- What a comprehension makes of the values of its items. -/
def collected (memory : Memory) (collection : Collection) (values : List Value) :
    Except Fault Value :=
  match collection with
  | .list => .ok (.list values)
  | .generator => .ok (.iterator "generator" values)
  | .set =>
    match Value.firstKeyFault? values with
    | some fault => .error fault
    | none => .ok (.set false (Value.setItems (equal memory) values))
  | .dictionary =>
    let entries := values.filterMap fun
      | .tuple [key, value] => some (key, value)
      | _ => none
    match Value.firstKeyFault? (entries.map Prod.fst) with
    | some fault => .error fault
    | none => .ok (.dictionary (Value.entriesOf (equal memory) entries))

/-- The value of an operator between two values other than the words that choose one of them. -/
def operatedOrSame (operator : String) (isSame : Bool) (left right : Value) : Evaluating Value :=
  match operator, isSame with
  | "is", true => pure (.ofBool true)
  | "is not", true => pure (.ofBool false)
  | operator, _ => module.operatedBy calling operator left right

/-- The named values of a value in the place of several arguments. -/
def namedEntries (callee : Value) (value : Value) : Except Fault (List (String × Value)) :=
  match value.plain with
  | .dictionary entries => entries.mapM fun entry =>
      match entry.1.quotation? with
      | some quotation => .ok (quotation.text, entry.2)
      | none => .error (.wrongType "keywords must be strings")
  | _ => .error (.wrongType (calleeText callee ++ " argument after ** must be a mapping, not " ++
      value.typeName))

/-- Arguments with further named ones, none of which may be named twice. -/
def withNamed (callee : Value) (arguments : Arguments) (named : List (String × Value)) :
    Except Fault Arguments :=
  match named.find? fun entry => (arguments.named.lookup entry.1).isSome with
  | some entry => .error (.wrongType (calleeText callee ++
      " got multiple values for keyword argument " ++ Text.quoted entry.1))
  | none => .ok { arguments with named := arguments.named ++ named }

/-- The items of a value in the place of several values. -/
def unpacked (isAlone : Bool) (callee : Option Value) (value : Value) :
    Except Fault (List Value) :=
  (module.itemsOf value).mapError fun fault =>
    if fault.kind ≠ "TypeError" then fault
    else match isAlone, callee with
      | true, some callee => .wrongType (calleeText callee ++
          " argument after * must be an iterable, not " ++ value.typeName)
      | _, _ => .wrongType ("Value after * must be an iterable, not " ++ value.typeName)

mutual

/-- The value of an expression. -/
def evaluateIn (scope : Scope) : Expression → Evaluating Value
  | .name name => module.lookUp scope name
  | .constant datum => pure (.ofDatum datum)
  | .ellipsis => pure .ellipsis
  | .bytes content => pure (.bytes false (content.toList.map Char.toNat))
  | .imaginary value => pure (.complex ⟨.zero, .ofDyadic value⟩)
  | .formatted parts => do return .ofText (String.join (← evaluateTexts scope parts))
  | .field value conversion layout => do
    let value ← evaluateIn scope value
    let value ← .ofExcept (module.converted value conversion)
    let layout := String.join (← evaluateTexts scope layout)
    return .ofText (← .ofExcept (module.laidOut value layout))
  | .attribute owner name => do
    let value ← evaluateIn scope owner
    module.read calling (scope.bound name) value
  | .subscript owner index => do
    let value ← evaluateIn scope owner
    module.apply calling value (← evaluateIn scope index)
  | .slice lower upper step => do
    let first ← evaluateEnd scope lower
    let second ← evaluateEnd scope upper
    return .slice first second (← evaluateEnd scope step)
  | .call function arguments => do
    let called ← evaluateIn scope function
    callHere module calling scope called
      (← evaluateArguments scope called (arguments.length = 1) {} arguments)
  | .keyword _ value | .entries value | .spread value => evaluateIn scope value
  | .named name value => do bindOnTheWay scope name (← evaluateIn scope value)
  | .tuple items => do return .tuple (← evaluateItems scope items)
  | .list items => do return .list (← evaluateItems scope items)
  | .set items => do .ofExcept (collected (← get) .set (← evaluateItems scope items))
  | .dictionary items => do
    let entries ← evaluateEntries scope items
    .ofExcept (collected (← get) .dictionary entries)
  | .unary operator operand => do
    .ofExcept (module.signed operator (← evaluateIn scope operand))
  | .binary operator left right => do
    let first ← evaluateIn scope left
    if operator = "or" || operator = "and" then
      if (← .ofExcept (module.isTrue first)) = (operator = "or") then return first
      return ← evaluateIn scope right
    module.operatedBy calling operator first (← evaluateIn scope right)
  | .compared [] _ => pure (.ofBool true)
  | .compared (first :: rest) operators => do
    evaluateComparisons scope first (← evaluateIn scope first) operators rest
  | .conditional test whenTrue whenFalse => do
    if ← .ofExcept (module.isTrue (← evaluateIn scope test)) then evaluateIn scope whenTrue
    else evaluateIn scope whenFalse
  | .lambda parameters defaults body => do
    let values ← evaluateItems scope defaults
    let place ← Evaluating.newPlace
    return .closure place ⟨parameters, body, scope.surroundings, scope.places⟩ values
  | .comprehension collection item clauses => do
    let (place, inner) ← innerScope scope
    let values ← evaluateClauses scope inner place (fun scope => evaluateIn scope item) clauses
    .ofExcept (collected (← get) collection values)
  | .clause _ source _ => evaluateIn scope source
  | .suspended _ _ operand => do
    discard (evaluateEnd scope operand)
    return .nothing

/-- The texts of the parts of a text with values. -/
def evaluateTexts (scope : Scope) : List Expression → Evaluating (List String)
  | [] => pure []
  | part :: rest => do
    let value ← evaluateIn scope part
    let texts ← evaluateTexts scope rest
    return ((value.quotation?.map Quotation.text).getD "") :: texts

/-- The values of several expressions, those of a value that is unpacked each on its own. -/
def evaluateItems (scope : Scope) : List Expression → Evaluating (List Value)
  | [] => pure []
  | .spread operand :: rest => do
    let values ← Evaluating.ofExcept (unpacked module false none (← evaluateIn scope operand))
    let others ← evaluateItems scope rest
    return values ++ others
  | expression :: rest => do
    let value ← evaluateIn scope expression
    let values ← evaluateItems scope rest
    return value :: values

/-- The entries of a dictionary as pairs of keys and values. -/
def evaluateEntries (scope : Scope) : List Expression → Evaluating (List Value)
  | .entries operand :: rest => do
    let value ← evaluateIn scope operand
    let entries ← match value.plain with
      | .dictionary entries => pure (entries.map fun entry => Value.tuple [entry.1, entry.2])
      | _ => throw (.wrongType ("'" ++ value.typeName ++ "' object is not a mapping"))
    let others ← evaluateEntries scope rest
    return entries ++ others
  | key :: value :: rest => do
    let first ← evaluateIn scope key
    let second ← evaluateIn scope value
    let others ← evaluateEntries scope rest
    return .tuple [first, second] :: others
  | _ => pure []

/-- The arguments of a call, after those that come before them. -/
def evaluateArguments (scope : Scope) (callee : Value) (isAlone : Bool) (given : Arguments) :
    List Expression → Evaluating Arguments
  | [] => pure given
  | .spread operand :: rest => do
    let value ← evaluateIn scope operand
    let values ← .ofExcept (unpacked module isAlone (some callee) value)
    evaluateArguments scope callee isAlone { given with values := given.values ++ values } rest
  | .keyword name value :: rest => do
    let value ← evaluateIn scope value
    let given ← .ofExcept (withNamed callee given [(name, value)])
    evaluateArguments scope callee isAlone given rest
  | .entries operand :: rest => do
    let value ← evaluateIn scope operand
    let given ← .ofExcept do withNamed callee given (← namedEntries callee value)
    evaluateArguments scope callee isAlone given rest
  | expression :: rest => do
    let value ← evaluateIn scope expression
    evaluateArguments scope callee isAlone { given with values := given.values ++ [value] } rest

/-- The value of an expression that may be missing. -/
def evaluateEnd (scope : Scope) : Option Expression → Evaluating Value
  | none => pure .nothing
  | some expression => evaluateIn scope expression

/-- The value of comparisons of a value with the first of some expressions, of that one with the
next, and so on until one fails. -/
def evaluateComparisons (scope : Scope) (first : Expression) (left : Value)
    (operators : List String) : List Expression → Evaluating Value
  | [] => pure left
  | expression :: rest => do
    let right ← evaluateIn scope expression
    let result ← operatedOrSame module calling (operators.headD "==")
      (isSameName first expression) left right
    if rest.isEmpty then return result
    if !(← .ofExcept (module.isTrue result)) then return result
    evaluateComparisons scope expression right (operators.drop 1) rest

/-- The values of an item within clauses, of which the first one is evaluated in the scope around
them and the others within. -/
def evaluateClauses (scope inner : Scope) (place : Nat) (item : Scope → Evaluating Value) :
    List Expression → Evaluating (List Value)
  | [] => do return [← item inner]
  | .clause target source conditions :: rest => do
    let values ← .ofExcept (module.itemsOf (← evaluateIn scope source))
    let found ← values.mapM fun value => do
      module.bindTarget place target value
      if ← evaluateConditions inner conditions then evaluateClauses inner inner place item rest
      else return []
    return found.flatten
  | _ :: rest => evaluateClauses scope inner place item rest

/-- Whether all of some conditions hold. -/
def evaluateConditions (scope : Scope) : List Expression → Evaluating Bool
  | [] => pure true
  | condition :: rest => do
    if !(← .ofExcept (module.isTrue (← evaluateIn scope condition))) then return false
    evaluateConditions scope rest

end

/-- A call of a function without a name. -/
def callClosure (code : Lambda) (defaults : List Value) (arguments : Arguments) :
    Evaluating Value := do
  let assignment ← .ofExcept (arguments.assign "<lambda>" code.parameters defaults)
  let place ← Evaluating.newPlace
  for entry in assignment do
    Evaluating.bindAt place entry.1 entry.2
  evaluateIn module calling (code.surroundings.scope (place :: code.places) (some place)) code.body

end

/-! ## Calls -/

/-- Calls within each other, at most. -/
def deepestCall : Nat := 900

/-- A call of a value, within which `depth` more calls may be entered. -/
def callWithin (module : Module) : Nat → Calling
  | 0, _, _ => throw .tooDeep
  | depth + 1, .closure _ code defaults, arguments =>
    callClosure module (module.callWithin depth) code defaults arguments
  | depth + 1, called, arguments => module.callValue (module.callWithin depth) called arguments

section

variable (module : Module)

/-- A call of a value. -/
def call : Calling := module.callWithin deepestCall

variable (scope : Scope)

/-- The value of an expression. -/
def evaluateExpression (expression : Expression) : Evaluating Value :=
  evaluateIn module module.call scope expression

/-! ## Annotations -/

/-- The value of a name that may be a word of annotations or an expression. -/
def evaluateText (text : String) : Evaluating Value :=
  match vocabulary.lookup text with
  | some value => pure value
  | none =>
    match Expression.ofText? text with
    | some expression => evaluateExpression module scope expression
    | none => throw (.notAnExpression text)

mutual

/-- The value of an annotation. -/
def evaluate : Annotation → Evaluating Value
  | .name text => evaluateText module scope text
  | .apply origin arguments => do
    let value ← evaluate origin
    match ← evaluateAll arguments with
    | [argument] => module.apply module.call value argument
    | values => module.apply module.call value (.tuple values)
  | .quoted inner => pure (.string ⟨inner.spelling, some inner⟩)
  | .quotedText text => pure (.string { text })
  | .union members => do Value.makeUnion (← evaluateAll members)
  | .optional member => do Value.makeOptional (← evaluate member)
  | .alternatives [] => Value.barAll []
  | .alternatives (first :: rest) => do evaluateBars (← evaluate first) rest
  | .literal values => Value.makeLiteral values
  | .callable arguments result => do
    let values ← evaluateAll arguments
    Value.makeCallable values (← evaluate result)
  | .annotated inner note => do Value.makeAnnotated (← evaluate inner) [note]

/-- The values of several annotations. -/
def evaluateAll : List Annotation → Evaluating (List Value)
  | [] => pure []
  | annotation :: rest => do
    let value ← evaluate annotation
    let values ← evaluateAll rest
    return value :: values

/-- The value of annotations after bars; each bar is applied before the next annotation is
evaluated. -/
def evaluateBars (left : Value) : List Annotation → Evaluating Value
  | [] => pure left
  | annotation :: rest => do
    let right ← evaluate annotation
    let joined ← module.operatedBy module.call "|" left right
    evaluateBars joined rest

end

/-- The value of what a string holds. -/
def evaluateQuotation (quotation : Quotation) : Evaluating Value :=
  match quotation.content with
  | some annotation => evaluate module scope annotation
  | none =>
    match quotation.expression? with
    | some expression => evaluateExpression module scope expression
    | none => throw (.notAnExpression quotation.text)

end

end Module

end ServiceStubs.Source
