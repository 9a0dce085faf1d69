import ServiceStubs.OrderedMap
import ServiceStubs.Source.Equality
import ServiceStubs.Source.Fault

/-!
# What is remembered of constructions

A form of `typing` that is applied to equal arguments again gives the construction that it gave
the first time, so the order in which a union is written first is the order that it keeps. Forms of
a kind share one cache, which holds a number of constructions: the one that was asked for least
recently is forgotten first. What a reference was found to stand for is kept as well, and so are the
values that expressions bind to names on the way. All this is the memory of an evaluation, which
lasts as long as the module does; it also holds what statements print.
-/

namespace ServiceStubs.Source

/-- What is applied to arguments. -/
inductive Head
  | union
  | optional
  | qualifier (word : Qualifier)
  | word (word : TypingAlias)
  | callable
  | template (origin : ClassValue)
  /-- A construction with type variables, which is the first of the arguments. -/
  | construction
  | annotated
  | literal
deriving DecidableEq, Repr, Inhabited

/-- The forms that share a cache. -/
inductive Cache
  | specialForms
  | aliases
  | tuples
  | callables
  | templates
  | constructions
  | annotated
  | literals
deriving DecidableEq, Repr

/-- The cache of what is applied to arguments. -/
def Head.cache : Head → Cache
  | union | optional | qualifier _ => .specialForms
  | word .tuple => .tuples
  | word _ => .aliases
  | callable => .callables
  | template _ => .templates
  | construction => .constructions
  | annotated => .annotated
  | literal => .literals

/-- How many constructions a cache holds. -/
def cacheSize : Nat := 128

/-- A construction that was made. -/
structure Application where
  head : Head
  arguments : List Value
  result : Value
deriving Inhabited

/-- What is remembered of an evaluation. -/
structure Memory where
  /-- The constructions that are kept, the one that was asked for most recently first. -/
  applications : List Application := []
  /-- What the references stand for, as far as it is known. -/
  resolved : Array (Option Value) := #[]
  /-- The lines that statements print. -/
  printed : List String := []
  /-- The values that expressions bind to names, with the places of the names. -/
  bound : OrderedMap (Nat × String) Value := .empty
  /-- How many places there are for names and values; the first one is the top of the module. -/
  placeCount : Nat := 1
deriving Inhabited

namespace Memory

/-- What a reference is known to stand for. -/
def resolved? (memory : Memory) (found : Reference) : Option Value :=
  (memory.resolved[found.index]?).join

/-- Whether two references are equal, when references are compared within each other `depth`
times. References that are both known are equal if what they stand for is. -/
def sameReferenceWithin (memory : Memory) : Nat → Reference → Reference → Bool
  | 0, left, right => left.index = right.index
  | depth + 1, left, right =>
    left.index = right.index || left.quotation.text = right.quotation.text &&
      match memory.resolved? left, memory.resolved? right with
      | some first, some second => Value.equals (memory.sameReferenceWithin depth) first second
      | _, _ => left.moduleName = right.moduleName

/-- Whether two references are equal. -/
def sameReference (memory : Memory) (left right : Reference) : Bool :=
  memory.sameReferenceWithin (memory.resolved.size + 1) left right

/-- Whether two literals are written alike: value by value equal and of one type. -/
def sameWritten : List Value → List Value → Bool
  | [], [] => true
  | left :: lefts, right :: rights =>
    (match left.datum?, right.datum? with
      | some first, some second => first.same second
      | _, _ => false) && sameWritten lefts rights
  | _, _ => false

/-- Whether a construction was made of a head and equal arguments. -/
def isOf (memory : Memory) (head : Head) (arguments : List Value) (made : Application) : Bool :=
  made.head = head &&
    if head = .literal then sameWritten made.arguments arguments
    else Value.allEqual memory.sameReference made.arguments arguments

/-- Constructions without those of a cache that are too many for it. -/
def withinSize (cache : Cache) : Nat → List Application → List Application
  | _, [] => []
  | 0, made :: rest =>
    if made.head.cache = cache then withinSize cache 0 rest else made :: withinSize cache 0 rest
  | size + 1, made :: rest =>
    made :: withinSize cache (if made.head.cache = cache then size else size + 1) rest

/-- Keep a construction as the one that was asked for most recently. -/
def keep (memory : Memory) (made : Application) : Memory :=
  { memory with
    applications := withinSize made.head.cache cacheSize (made :: memory.applications) }

/-- The value that is bound to a name at the first of some places that binds it. -/
def boundAt? (memory : Memory) (places : List Nat) (name : String) : Option Value :=
  places.findSome? fun place => memory.bound.get? (place, name)

end Memory

/-- An evaluation, which reads and extends what is remembered and may fail. -/
abbrev Evaluating (α : Type) := EStateM Fault Memory α

namespace Evaluating

/-- The outcome of an evaluation that remembers nothing. -/
def ofExcept {α : Type} : Except Fault α → Evaluating α
  | .ok value => pure value
  | .error fault => throw fault

/-- The construction of a head and equal arguments that was made earlier, if it is kept. -/
def earlier? (head : Head) (arguments : List Value) : Evaluating (Option Value) := do
  let memory ← get
  match memory.applications.find? (memory.isOf head arguments) with
  | none => return none
  | some made =>
    let others := memory.applications.eraseP (memory.isOf head arguments)
    set { memory with applications := made :: others }
    return some made.result

/-- The construction of a head and arguments: one that was made of equal arguments, or else a new
one, which is remembered unless the arguments cannot be keys. -/
def remembered (head : Head) (arguments : List Value) (make : Evaluating Value) :
    Evaluating Value := do
  if (Value.firstKeyFault? arguments).isSome then return ← make
  if let some earlier := ← earlier? head arguments then return earlier
  let result ← make
  modify (·.keep ⟨head, arguments, result⟩)
  return result

/-- A new reference to what a string stands for, if it holds an expression. The place is its own,
whatever place the description has. -/
def refer (isExpression : Quotation → Except Fault Unit) (described : Reference) :
    Evaluating Value := do
  ofExcept (isExpression described.quotation)
  let memory ← get
  set { memory with resolved := memory.resolved.push none }
  return .reference { described with index := memory.resolved.size }

/-- Keep what a reference stands for. -/
def resolve (found : Reference) (value : Value) : Evaluating Unit :=
  modify fun memory => { memory with
    resolved := memory.resolved.setIfInBounds found.index (some value) }

/-- Whether two lists hold equal values in the same order. -/
def areEqual (left right : List Value) : Evaluating Bool := do
  return Value.allEqual (← get).sameReference left right

/-- A place that no name and no value has yet. -/
def newPlace : Evaluating Nat :=
  modifyGet fun memory =>
    (memory.placeCount, { memory with placeCount := memory.placeCount + 1 })

/-- Bind a name at a place. -/
def bindAt (place : Nat) (name : String) (value : Value) : Evaluating Unit :=
  modify fun memory => { memory with bound := memory.bound.put (place, name) value }

/-- Run an evaluation and give its outcome, whatever that is. -/
def outcome {α : Type} (request : Evaluating α) : Evaluating (Except Fault α) :=
  tryCatch (do return .ok (← request)) fun fault => pure (.error fault)

end Evaluating

end ServiceStubs.Source
