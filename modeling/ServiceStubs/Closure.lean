import ServiceStubs.Registry

/-!
# The closure of a set of types

Starting from seed types, every type is found that a generated text has to declare. The search
keeps a stack of frames; a frame holds the part of a frontier that is still to be visited and the
type that is emitted once the frontier is exhausted. All types of a frontier are registered before
the fields of any of them are inspected, so a type that is met again through a cycle is already
known and is neither visited nor emitted twice. A type is emitted after everything that was first
found under it.

Each round of the search either visits one registered atom or leaves one frame. An atom is visited
at most once for its identity, which bounds the number of rounds by the size of the graph.
-/

namespace ServiceStubs

/-- The types to declare in order, and the registry that names them all. -/
structure Closure where
  types : List Nat
  registry : Registry
deriving Inhabited

namespace Closure

/-- The unknown atoms under several types in order. -/
def unknownAtomsOfAll (registry : Registry) (graph : TypeGraph) :
    List TypeRef → Except StubError (List Nat)
  | [] => .ok []
  | seed :: rest => do
    let here ← registry.unknownAtoms graph seed
    let later ← unknownAtomsOfAll registry graph rest
    return here ++ later

/-- Atoms in order, of those with one identity the first. -/
def distinctAtoms (graph : TypeGraph) : List Nat → List Nat
  | [] => []
  | index :: rest =>
    index :: (distinctAtoms graph rest).filter fun other =>
      !graph.same (.atom index) (.atom other)

/-- Register atoms in turn. -/
def registerAll (registry : Registry) (graph : TypeGraph) (frontier : List Nat) : Registry :=
  frontier.foldl (fun current index => current.register graph (.atom index)) registry

/-- The frontier of unknown atoms under some types, and the registry that knows all of it. -/
def advance (registry : Registry) (graph : TypeGraph) (seeds : List TypeRef) :
    Except StubError (List Nat × Registry) := do
  let found ← unknownAtomsOfAll registry graph seeds
  let frontier := distinctAtoms graph found
  return (frontier, registerAll registry graph frontier)

/-- The types that a visit to an atom leads to: the field types of a composite. -/
def nextSeeds (graph : TypeGraph) (index : Nat) : List TypeRef :=
  match (graph.atom index).kind with
  | .composite => (graph.atom index).fields.map Field.type
  | _ => []

/-- Whether a kind of atom can be declared. -/
def isDeclarable : AtomKind → Bool
  | .composite | .enumeration => true
  | .primitive | .parameter => false

/-- A suspended frontier and the atom to emit after it. -/
structure Frame where
  pending : List Nat
  owner : Option Nat
deriving Inhabited

/-- A search that is under way. -/
structure Search where
  registry : Registry
  /-- Suspended frontiers, the innermost first. -/
  frames : List Frame
  /-- Atoms emitted so far in order. -/
  emitted : List Nat
deriving Inhabited

/-- Emit the owner of an exhausted frontier, if it can be declared. -/
def emit (graph : TypeGraph) (emitted : List Nat) : Option Nat → Except StubError (List Nat)
  | none => .ok emitted
  | some index =>
    let atom := graph.atom index
    if isDeclarable atom.kind then .ok (emitted ++ [index])
    else .error (.unmappableType atom.identity atom.kind.kind.word)

/-- One round of a search: leave an exhausted frame, or visit the next atom of a frontier. -/
def Search.step (graph : TypeGraph) (search : Search) : Except StubError Search :=
  match search.frames with
  | [] => .ok search
  | ⟨[], owner⟩ :: rest => do
    let emitted ← emit graph search.emitted owner
    return { search with frames := rest, emitted }
  | ⟨current :: pending, owner⟩ :: rest => do
    let (children, registry) ← advance search.registry graph (nextSeeds graph current)
    return { search with
      registry, frames := ⟨children, some current⟩ :: ⟨pending, owner⟩ :: rest }

/-- Rounds of a search until its frames are exhausted or no rounds are left. -/
def Search.run (graph : TypeGraph) : Nat → Search → Except StubError Search
  | 0, search => .ok search
  | rounds + 1, search =>
    if search.frames.isEmpty then .ok search
    else do
      let next ← search.step graph
      Search.run graph rounds next

/-- A search before its first round. -/
def Search.start (registry : Registry) (graph : TypeGraph) (seeds : List TypeRef) :
    Except StubError Search := do
  let (frontier, registry) ← advance registry graph seeds
  return { registry, frames := [⟨frontier, none⟩], emitted := [] }

/-- Enough rounds for every search of a graph: two for each atom, the one beyond the table
included, and one for the seeds. -/
def enoughRounds (graph : TypeGraph) : Nat := 2 * (graph.size + 1) + 1

end Closure

/-- The closure of some seed types under the fields of composites. -/
def Registry.resolve (registry : Registry) (graph : TypeGraph) (seeds : List TypeRef) :
    Except StubError Closure := do
  let start ← Closure.Search.start registry graph seeds
  let finished ← start.run graph (Closure.enoughRounds graph)
  return ⟨finished.emitted, finished.registry⟩

end ServiceStubs
