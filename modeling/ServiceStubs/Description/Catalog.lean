import ServiceStubs.OrderedMap
import ServiceStubs.Source.Memory
import ServiceStubs.Types.Graph

/-!
# Catalogs of described types

A catalog holds the types described so far and finds them by identity, so that the same class is
always described by the same type. Its entries only grow: a request that fails leaves in the
catalog what it had described before it failed.
-/

namespace ServiceStubs

/-- The types described so far. -/
structure Catalog where
  /-- The table of atoms that the entries refer to. -/
  graph : TypeGraph := {}
  /-- The types by identity. -/
  known : OrderedMap String TypeRef := .empty
deriving Inhabited

namespace Catalog

/-- The type that an identity has in the catalog. -/
def find? (catalog : Catalog) (identity : String) : Option TypeRef := catalog.known.get? identity

/-- Enter a type under its identity. -/
def enter (catalog : Catalog) (type : TypeRef) : Catalog :=
  { catalog with known := catalog.known.put (catalog.graph.identity type) type }

/-- The type with the identity of an atom, and the catalog that has it: an earlier entry, or the
atom itself. -/
def keepAtom (catalog : Catalog) (atom : Atom) : TypeRef × Catalog :=
  match catalog.find? atom.identity with
  | some type => (type, catalog)
  | none =>
    let (type, graph) := catalog.graph.add atom
    (type, { graph, known := catalog.known.put atom.identity type })

/-- The type with the composed identity of a base and its arguments, and the catalog that has it:
an earlier entry, or a new construction. -/
def keepGeneric (catalog : Catalog) (base : TypeRef) (arguments : List TypeRef) :
    TypeRef × Catalog :=
  let type := catalog.graph.generic base arguments
  match catalog.find? (catalog.graph.identity type) with
  | some earlier => (earlier, catalog)
  | none => (type, catalog.enter type)

/-- Append a field to a type that stands for itself. -/
def appendField (catalog : Catalog) (type : TypeRef) (field : Field) : Catalog :=
  match type with
  | .atom index =>
    { catalog with graph := catalog.graph.modify index fun atom =>
        { atom with fields := atom.fields ++ [field] } }
  | .apply _ _ _ _ => catalog

end Catalog

/-- What is known in the course of a description: the types described so far, and what is
remembered of the evaluation of annotations. -/
structure Knowledge where
  catalog : Catalog := {}
  memory : Source.Memory
deriving Inhabited

/-- A request that reads and extends a catalog and may fail; what it has entered before a failure
stays. -/
abbrev Describing (α : Type) := EStateM Source.Failure Knowledge α

namespace Describing

/-- A change of the catalog. -/
def ofCatalog {α : Type} (change : Catalog → α × Catalog) : Describing α :=
  modifyGet fun knowledge =>
    let (value, catalog) := change knowledge.catalog
    (value, { knowledge with catalog })

/-- The types described so far. -/
def catalog : Describing Catalog := do return (← get).catalog

/-- The type for an atom. -/
def keepAtom (atom : Atom) : Describing TypeRef := ofCatalog fun catalog => catalog.keepAtom atom

/-- The type for a base applied to arguments. -/
def keepGeneric (base : TypeRef) (arguments : List TypeRef) : Describing TypeRef :=
  ofCatalog fun catalog => catalog.keepGeneric base arguments

/-- The type for lists of an argument, or for lists of which nothing more is known. -/
def keepList (arguments : List TypeRef) : Describing TypeRef := do
  let base ← keepAtom (.primitive listIdentity)
  keepGeneric base arguments

/-- The outcome of a request that reads no catalog. -/
def ofExcept {α : Type} : Except Source.Failure α → Describing α
  | .ok value => pure value
  | .error failure => throw failure

/-- The outcome of an evaluation; `told` says how its fault is told. -/
def ofEvaluating {α : Type} (told : Source.Fault → Source.Failure)
    (request : Source.Evaluating α) : Describing α := fun knowledge =>
  match request knowledge.memory with
  | .ok value memory => .ok value { knowledge with memory }
  | .error fault memory => .error (told fault) { knowledge with memory }

end Describing

end ServiceStubs
