import ServiceStubs.Proofs.Closure.Rounds

/-!
# What a closure holds

A resolved closure emits one atom for every identity that has to be declared: an atom that the
seeds lead to, that is no parameter and that the first registry does not know. Completeness needs
the identity contract, because of two references to one type only the first is followed. The
registry of the closure has one new entry for each emitted atom, after the entries that were there
before.
-/

namespace ServiceStubs.Closure

variable {registry : Registry} {graph : TypeGraph} {seeds : List TypeRef}
variable {registered types : List Nat} {later : Registry}

/-- In the end every registered atom has been emitted. -/
theorem Search.Progress.emitted
    (finished : Search.Progress registry graph seeds registered ⟨later, [], types⟩) :
    registered.Perm types := by
  simpa [Search.owners, Search.pending] using finished.placed

/-- In the end the known identities are those of the emitted atoms and those known before. -/
theorem Search.Progress.contains_iff
    (finished : Search.Progress registry graph seeds registered ⟨later, [], types⟩)
    (identity : String) :
    later.contains identity ↔
      identity ∈ graph.identities types ∨ registry.contains identity := by
  have grown : later = registerAll registry graph registered := finished.grown
  rw [grown, contains_registerAll]
  exact or_congr_left (finished.emitted.map _).mem_iff

/-- In the end an identity that became known is that of an emitted atom. -/
theorem Search.Progress.mem_of_contains
    (finished : Search.Progress registry graph seeds registered ⟨later, [], types⟩)
    {identity : String} (named : later.contains identity)
    (unknown : registry.contains identity = false) : identity ∈ graph.identities types :=
  ((finished.contains_iff identity).mp named).resolve_right (by simp [unknown])

/-- In the end an emitted atom stands for every atom with its identity that the seeds lead to, or
that other seeds lead to which lead to these as well: the contract gives both the same shape. -/
theorem Search.Progress.exists_twin
    (finished : Search.Progress registry graph seeds registered ⟨later, [], types⟩)
    {others : List TypeRef} (ofSeeds : ∀ type ∈ seeds, registry.Reaches graph others type)
    (contract : graph.IdentityContract (registry.Reaches graph others)) {index : Nat}
    (reached : registry.Reaches graph others (.atom index))
    (emitted : (graph.atom index).identity ∈ graph.identities types) :
    ∃ twin ∈ types, registry.Reaches graph others (.atom twin) ∧
      registry.contains (graph.atom twin).identity = false ∧
      graph.SameShape (.atom twin) (.atom index) := by
  obtain ⟨twin, listed, sameIdentity⟩ := List.mem_map.mp emitted
  have inRegistered := finished.emitted.mem_iff.mpr listed
  have twinReached := (finished.reached twin inRegistered).mono (fun _ => id) ofSeeds
  have unknown := (registry.isKnown_atom_eq_false graph).mp (finished.unknown twin inRegistered)
  exact ⟨twin, listed, twinReached, unknown.2, contract _ _ twinReached reached sameIdentity⟩

/-- In the end the fields of a composite are covered for which an atom was emitted: the fields of
this atom were followed when it was visited. -/
theorem Search.Progress.covers_field
    (finished : Search.Progress registry graph seeds registered ⟨later, [], types⟩)
    {others : List TypeRef} (ofSeeds : ∀ type ∈ seeds, registry.Reaches graph others type)
    (contract : graph.IdentityContract (registry.Reaches graph others)) {index : Nat}
    {field : Field} (owner : registry.Reaches graph others (.atom index))
    (composite : (graph.atom index).kind = .composite)
    (unknown : registry.contains (graph.atom index).identity = false)
    (member : field ∈ (graph.atom index).fields)
    (emitted : (graph.atom index).identity ∈ graph.identities types) :
    later.Covers graph field.type := by
  obtain ⟨twin, listed, twinReached, twinUnknown, shape⟩ :=
    finished.exists_twin ofSeeds contract owner emitted
  have twinComposite : (graph.atom twin).kind = .composite := shape.atomKind.trans composite
  obtain ⟨counterpart, inTwin, sameField⟩ := shape.counterpart member
  have followed : later.Covers graph counterpart.type := by
    apply finished.fieldsCovered twin (List.mem_append_left _ listed)
    rw [nextSeeds, twinComposite]
    exact List.mem_map_of_mem inTwin
  exact Registry.covers_of_same_identity contract
    (twinReached.field twinComposite twinUnknown inTwin)
    (owner.field composite unknown member) sameField followed

/-- In the end every reached type is covered. The types of the fields of a composite are covered
because an atom with its identity was visited. -/
theorem Search.Progress.covers
    (finished : Search.Progress registry graph seeds registered ⟨later, [], types⟩)
    (contract : graph.IdentityContract (registry.Reaches graph seeds)) {type : TypeRef}
    (reached : registry.Reaches graph seeds type) : later.Covers graph type := by
  induction reached with
  | seed member => exact finished.seedsCovered _ member
  | base _ whole => exact ((later.covers_apply graph).mp whole).1
  | argument _ whole => exact ((later.covers_apply graph).mp whole).2
  | @field index field owner composite unknown member ownerCovered =>
    have named := ownerCovered.contains (by simp [composite])
    exact finished.covers_field (fun _ => .seed) contract owner composite unknown member
      (finished.mem_of_contains named unknown)

/-- In the end no two emitted atoms share an identity. -/
theorem Search.Progress.identities_nodup
    (finished : Search.Progress registry graph seeds registered ⟨later, [], types⟩) :
    (graph.identities types).Nodup :=
  (finished.emitted.map _).nodup_iff.mp finished.distinct

/-- In the end the emitted identities are those of the reached atoms that the first registry does
not know, parameters apart. -/
theorem Search.Progress.mem_identities
    (finished : Search.Progress registry graph seeds registered ⟨later, [], types⟩)
    (contract : graph.IdentityContract (registry.Reaches graph seeds)) (identity : String) :
    identity ∈ graph.identities types ↔
      ∃ index, registry.Reaches graph seeds (.atom index) ∧
        (graph.atom index).kind ≠ .parameter ∧ registry.contains identity = false ∧
        (graph.atom index).identity = identity := by
  constructor
  · intro member
    obtain ⟨index, listed, rfl⟩ := List.mem_map.mp member
    have inRegistered := finished.emitted.mem_iff.mpr listed
    obtain ⟨kind, unnamed⟩ := (registry.isKnown_atom_eq_false graph).mp
      (finished.unknown index inRegistered)
    exact ⟨index, finished.reached index inRegistered, kind, unnamed, rfl⟩
  · rintro ⟨index, reached, kind, unnamed, rfl⟩
    exact finished.mem_of_contains ((finished.covers contract reached).contains kind) unnamed

/-- Every registered atom has an entry after the old ones, with the name by which it is written. -/
theorem Search.Progress.entries {search : Search}
    (progress : search.Progress registry graph seeds registered) :
    search.registry.entries = registry.entries ++ registered.map fun index =>
      ((graph.atom index).identity, search.registry.nameOf graph index) := by
  have new : ∀ index ∈ registered, registry.contains (graph.atom index).identity = false :=
    fun index member =>
      ((registry.isKnown_atom_eq_false graph).mp (progress.unknown index member)).2
  rw [progress.grown]
  exact entries_registerAll progress.distinct new

/-- What a closure of some seeds has to hold, no more and no less. -/
structure Exact (registry : Registry) (graph : TypeGraph) (seeds : List TypeRef)
    (closure : Closure) : Prop where
  /-- No identity is declared twice. -/
  distinct : (graph.identities closure.types).Nodup
  /-- The identities declared are those of the unknown atoms that the seeds lead to, parameters
  apart. -/
  complete : ∀ identity, identity ∈ graph.identities closure.types ↔
    ∃ index, registry.Reaches graph seeds (.atom index) ∧
      (graph.atom index).kind ≠ .parameter ∧ registry.contains identity = false ∧
      (graph.atom index).identity = identity
  /-- After the old entries there is one for each declared atom, with the name by which the atom
  is written. -/
  entries : ∃ added : List Nat, added.Perm closure.types ∧
    closure.registry.entries = registry.entries ++ added.map fun index =>
      ((graph.atom index).identity, closure.registry.nameOf graph index)

/-- Under the identity contract, every closure that is resolved is exact. -/
theorem resolve_exact {closure : Closure}
    (contract : graph.IdentityContract (registry.Reaches graph seeds))
    (resolved : registry.resolve graph seeds = .ok closure) :
    closure.Exact registry graph seeds := by
  obtain ⟨registered, finished⟩ := resolve_progress resolved
  exact ⟨finished.identities_nodup, finished.mem_identities contract,
    registered, finished.emitted, finished.entries⟩

/-- A composite that leads to itself and, in a list, to an enumeration. -/
def selfLeading (itself : Nat) : Atom :=
  .composite "Node" "" [] [⟨"next", .atom itself⟩,
    ⟨"tags", .apply "list[Tag]" "list" (.atom 3) [.atom 1]⟩]

/-- A graph in which two places hold one composite. -/
def repeatedNode : TypeGraph where
  atoms := #[selfLeading 2, .enumeration "Tag" [], selfLeading 0, .primitive listIdentity]

/-- The types that either reference to the composite leads to. -/
theorem repeatedNode_reached {type : TypeRef}
    (reached : Registry.typescript.Reaches repeatedNode [.atom 0, .atom 2] type) :
    type ∈ [.atom 0, .atom 1, .atom 2, .atom 3,
      .apply "list[Tag]" "list" (.atom 3) [.atom 1]] := by
  refine reached.mem_of_closed (by simp) ?_
  simp [TypeGraph.successors, Closure.nextSeeds, repeatedNode, selfLeading, TypeGraph.atom,
    Atom.composite, Atom.enumeration, Atom.primitive]

/-- Two references to one composite are emitted once. -/
theorem resolve_repeatedNode :
    repeatedNode.IdentityContract
      (Registry.typescript.Reaches repeatedNode [.atom 0, .atom 2]) ∧
    ∃ closure, Registry.typescript.resolve repeatedNode [.atom 0, .atom 2] = .ok closure ∧
      repeatedNode.identities closure.types = ["Tag", "Node"] ∧
      closure.Exact Registry.typescript repeatedNode [.atom 0, .atom 2] := by
  have contract : repeatedNode.IdentityContract
      (Registry.typescript.Reaches repeatedNode [.atom 0, .atom 2]) := by
    intro left right leftReached rightReached same
    have leftPlace := repeatedNode_reached leftReached
    have rightPlace := repeatedNode_reached rightReached
    simp only [List.mem_cons, List.not_mem_nil, or_false] at leftPlace rightPlace
    rcases leftPlace with rfl | rfl | rfl | rfl | rfl <;>
      rcases rightPlace with rfl | rfl | rfl | rfl | rfl <;>
      first | exact ⟨rfl, rfl, rfl, rfl⟩ | exact absurd same (by decide)
  exact ⟨contract, _, rfl, rfl, resolve_exact contract rfl⟩

end ServiceStubs.Closure
