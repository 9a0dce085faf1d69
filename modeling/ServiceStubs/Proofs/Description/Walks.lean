import ServiceStubs.Description.Types

/-!
# Walks

The description of an annotation walks the fields of classes: it enters a class in the catalog and
then describes the hints of its fields, which may lead to further classes. Here a description keeps
a journal of the classes that it began to walk, in order, whether it succeeds or fails in the end.
It is the description otherwise, except that what it does when classes are walked within each other
as often as it may is left open.
-/

namespace ServiceStubs

open Source (ClassRef ClassValue Failure Value Module)

/-- What is known in the course of a description, and the classes that it began to walk. -/
structure Journal where
  known : Knowledge
  walked : List ClassRef := []

/-- A request that keeps a journal. -/
abbrev Walking (α : Type) := EStateM Failure Journal α

/-- The outcome of a request with the classes that were walked until then. -/
def journaled {α : Type} (walked : List ClassRef) :
    EStateM.Result Failure Knowledge α → EStateM.Result Failure Journal α
  | .ok value known => .ok value ⟨known, walked⟩
  | .error failure known => .error failure ⟨known, walked⟩

namespace Walking

/-- A request that walks no class. -/
def ofDescribing {α : Type} (request : Describing α) : Walking α := fun journal =>
  journaled journal.walked (request journal.known)

/-- Note that a class is walked from now on. -/
def note (reference : ClassRef) : Walking Unit :=
  modify fun journal => { journal with walked := journal.walked ++ [reference] }

end Walking

/-! ## Annotations -/

/-- The description of classes that is never asked for. -/
def noClass : ClassRef → Describing TypeRef := fun _ => throw (.host .tooDeep)

section

variable (module : Module) (walk : ClassRef → Walking TypeRef)

/-- Walk a class that is not applied to arguments. -/
def walkBareClass : ClassValue → Walking TypeRef
  | .standard value => .ofDescribing (describeBareClass noClass (.standard value))
  | .user reference => do
    let type ← walk reference
    let graph := (← Walking.ofDescribing .catalog).graph
    if (graph.typeParameters type).isEmpty then return type
    else throw (.stub (.genericArity (graph.identity type) 0))

/-- Walk a class that is applied to described arguments. -/
def walkApplication (shown : Value) (origin : ClassValue) (arguments : List TypeRef) :
    Walking TypeRef :=
  match origin with
  | .standard value =>
    .ofDescribing (describeApplication module noClass shown (.standard value) arguments)
  | .user reference => do
    if ← .ofDescribing (module.isComposite origin) then
      let template ← walk reference
      .ofDescribing (.keepGeneric template arguments)
    else .ofDescribing (keepDisplayed shown)

mutual

/-- Walk the classes in an annotation. -/
def walkValue : Value → Walking TypeRef
  | .classValue value => walkBareClass walk value
  | .builtinOf origin arguments => do
    let types ← walkValues arguments
    walkApplication module walk (.builtinOf origin arguments) origin types
  | .templateOf origin arguments => do
    let types ← walkValues arguments
    walkApplication module walk (.templateOf origin arguments) origin types
  | .aliasOf word arguments => do
    let types ← walkValues arguments
    if word.origin.isListLike then .ofDescribing (.keepList types)
    else .ofDescribing (keepDisplayed (.aliasOf word arguments))
  | .qualified word argument => do
    discard (walkValue argument)
    .ofDescribing (keepDisplayed (.qualified word argument))
  | .union members => do
    discard (walkValues members)
    .ofDescribing (keepDisplayed (.union members))
  | .alternatives members => do
    discard (walkValues members)
    .ofDescribing (keepDisplayed (.alternatives members))
  | .callable arguments result => do
    .ofDescribing (discard (keepDisplayed (.list arguments)))
    discard (walkValue result)
    .ofDescribing (keepDisplayed (.callable arguments result))
  | .annotated inner notes => do
    discard (walkValue inner)
    .ofDescribing (notes.forM fun note => discard (describeDatum (.text note)))
    .ofDescribing (keepDisplayed (.annotated inner notes))
  | value => .ofDescribing (describeValue module noClass value)

/-- Walk the classes in several annotations. -/
def walkValues : List Value → Walking (List TypeRef)
  | [] => pure []
  | value :: rest => do
    let type ← walkValue value
    let types ← walkValues rest
    return type :: types

end

/-- Walk the classes in fields, and append each field to a composite. -/
def walkFields (composite : TypeRef) : List (String × Value) → Walking Unit
  | [] => pure ()
  | (name, hint) :: rest => do
    let type ← walkValue module walk hint
    .ofDescribing (.ofCatalog fun catalog => ((), catalog.appendField composite ⟨name, type⟩))
    walkFields composite rest

end

/-! ## Classes -/

/-- Walk a class, when classes may be walked within each other `depth` times; `stop` is asked for
the classes beyond. -/
def walkClass (module : Module) (stop : ClassRef → Walking TypeRef) :
    Nat → ClassRef → Walking TypeRef
  | depth, reference => do
    let value := ClassValue.user reference
    if reference.moduleName.isEmpty && module.classes.size ≤ reference.index then
      throw (.host (.hiddenAttribute Source.moduleAttribute))
    if let some type := (← Walking.ofDescribing .catalog).find? value.identity then return type
    if module.isKindOf value .enum then
      let atom ← .ofDescribing (.ofEvaluating .host (module.enumerationAtom reference))
      return ← .ofDescribing (.keepAtom atom)
    if !(← .ofDescribing (module.isComposite value)) then
      return ← .ofDescribing (.keepAtom (namedAtom value))
    match depth with
    | 0 => stop reference
    | depth + 1 =>
      let atom ← .ofDescribing (.ofHost (module.compositeAtom reference))
      let type ← .ofDescribing (.keepAtom atom)
      .note reference
      let hints ← .ofDescribing (module.fieldHints value)
      walkFields module (walkClass module stop depth) type hints
      return type

end ServiceStubs
