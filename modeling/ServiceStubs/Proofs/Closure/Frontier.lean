import ServiceStubs.Proofs.Types.Reachability

/-!
# Frontiers

Advancing from some types finds the unknown atoms under them, keeps one for each identity and
registers all of these before anything else happens. So afterwards the types are covered, the new
entries are those of the frontier in order, and names that were apart still are.
-/

namespace ServiceStubs

/-- The identities of atoms in order. -/
def TypeGraph.identities (graph : TypeGraph) (atoms : List Nat) : List String :=
  atoms.map fun index => (graph.atom index).identity

namespace Closure

variable {registry : Registry} {graph : TypeGraph}

/-- The atoms kept of a list have the identities of the list, each once. -/
theorem identities_distinctAtoms (graph : TypeGraph) (atoms : List Nat) :
    graph.identities (distinctAtoms graph atoms) = firstOccurrences (graph.identities atoms) := by
  simp only [TypeGraph.identities]
  induction atoms with
  | nil => rfl
  | cons index rest ih =>
    rw [distinctAtoms, List.map_cons, List.map_cons, firstOccurrences, ← ih, List.filter_map]
    congr 2
    apply List.filter_congr
    intro other _
    simp [TypeGraph.same, TypeGraph.identity, beq_eq_decide, eq_comm]

/-- The atoms kept of a list are atoms of the list. -/
theorem distinctAtoms_subset (graph : TypeGraph) (atoms : List Nat) :
    distinctAtoms graph atoms ⊆ atoms := by
  induction atoms with
  | nil => exact List.Subset.refl []
  | cons index rest ih =>
    intro other member
    rcases List.mem_cons.mp member with rfl | inRest
    · exact List.mem_cons_self
    · exact List.mem_cons_of_mem index (ih (List.mem_of_mem_filter inRest))

/-- Registering two lists of atoms one after the other registers the whole list. -/
theorem registerAll_append (registry : Registry) (graph : TypeGraph) (first second : List Nat) :
    registerAll registry graph (first ++ second) =
      registerAll (registerAll registry graph first) graph second :=
  List.foldl_append

/-- Registering atoms leaves the built-in names alone. -/
theorem registerAll_builtins (registry : Registry) (graph : TypeGraph) (atoms : List Nat) :
    (registerAll registry graph atoms).builtins = registry.builtins := by
  induction atoms generalizing registry with
  | nil => rfl
  | cons index rest ih => exact ih (registry.register graph (.atom index))

/-- Registering atoms leaves the reserved names alone. -/
theorem registerAll_reserved (registry : Registry) (graph : TypeGraph) (atoms : List Nat) :
    (registerAll registry graph atoms).reserved = registry.reserved := by
  induction atoms generalizing registry with
  | nil => rfl
  | cons index rest ih => exact ih (registry.register graph (.atom index))

/-- Registering atoms makes their identities known and forgets none. -/
theorem contains_registerAll (registry : Registry) (graph : TypeGraph) (atoms : List Nat)
    (other : String) :
    (registerAll registry graph atoms).contains other ↔
      other ∈ graph.identities atoms ∨ registry.contains other := by
  induction atoms generalizing registry with
  | nil => simp [registerAll, TypeGraph.identities]
  | cons index rest ih =>
    have step := registry.contains_register graph (.atom index) other
    simp only [registerAll, List.foldl_cons] at ih ⊢
    rw [ih, step, TypeGraph.identity]
    simp only [TypeGraph.identities, List.map_cons, List.mem_cons]
    tauto

/-- Registering atoms keeps names apart. -/
theorem namesApart_registerAll (apart : registry.NamesApart) (graph : TypeGraph)
    (atoms : List Nat) : (registerAll registry graph atoms).NamesApart := by
  induction atoms generalizing registry with
  | nil => exact apart
  | cons index rest ih => exact ih (apart.register graph (.atom index))

/-- Registering new atoms with different identities adds one entry for each at the end, under the
name by which the atom is written from then on. -/
theorem entries_registerAll {atoms : List Nat} (distinct : (graph.identities atoms).Nodup)
    (new : ∀ index ∈ atoms, registry.contains (graph.atom index).identity = false) :
    (registerAll registry graph atoms).entries = registry.entries ++ atoms.map fun index =>
      ((graph.atom index).identity, (registerAll registry graph atoms).nameOf graph index) := by
  induction atoms using List.reverseRecOn with
  | nil => simp [registerAll]
  | append_singleton atoms index ih =>
    rw [TypeGraph.identities, List.map_append, List.nodup_append] at distinct
    obtain ⟨distinctBefore, _, apart⟩ := distinct
    have newBefore : ∀ other ∈ atoms, registry.contains (graph.atom other).identity = false :=
      fun other member => new other (List.mem_append_left _ member)
    let before := registerAll registry graph atoms
    have step : registerAll registry graph (atoms ++ [index]) =
        before.register graph (.atom index) := registerAll_append registry graph atoms [index]
    have absent : ∀ other ∈ atoms, (graph.atom other).identity ≠ (graph.atom index).identity :=
      fun other member => apart _ (List.mem_map.mpr ⟨other, member, rfl⟩) _ (by simp)
    have unnamed : before.contains (graph.identity (.atom index)) = false := by
      rw [← Bool.not_eq_true, contains_registerAll, not_or]
      refine ⟨fun member => ?_, by simp [TypeGraph.identity, new index]⟩
      obtain ⟨other, inAtoms, same⟩ := List.mem_map.mp member
      exact absent other inAtoms same
    obtain ⟨name, _, grown⟩ := before.entries_register_of_new graph unnamed
    have found : Registry.entry? (before.register graph (.atom index))
        (graph.atom index).identity = some name := by
      rw [← Registry.mem_entries, grown]
      exact List.mem_append_right _ (List.mem_singleton_self _)
    have plain : (before.register graph (.atom index)).builtin? (graph.atom index).identity =
        none := ((before.contains_eq_false).mp unnamed).1
    rw [step, grown, ih distinctBefore newBefore, List.map_append, List.append_assoc]
    congr 2
    · apply List.map_congr_left
      intro other member
      rw [before.nameOf_register graph (absent other member)]
    · rw [List.map_singleton, Registry.nameOf_of_entry _ graph plain found]
      rfl

/-- What advancing from some types returns: new atoms under the types, one for each identity, and
the registry that has them all and so covers the types. -/
structure Advanced (registry : Registry) (graph : TypeGraph) (seeds : List TypeRef)
    (frontier : List Nat) (later : Registry) : Prop where
  registered : later = registerAll registry graph frontier
  distinct : (graph.identities frontier).Nodup
  unknown : ∀ index ∈ frontier, registry.isKnown graph (.atom index) = false
  under : ∀ index ∈ frontier, ∃ seed ∈ seeds, ∃ atoms, seed.leaves = .ok atoms ∧ index ∈ atoms
  covered : later.CoversAll graph seeds

/-- Advancing succeeds when no type is malformed, and then returns what it should. -/
theorem advance_ok {seeds : List TypeRef} {frontier : List Nat} {later : Registry}
    (advanced : advance registry graph seeds = .ok (frontier, later)) :
    Advanced registry graph seeds frontier later := by
  rw [advance, registry.unknownAtomsOfAll_eq] at advanced
  obtain ⟨unknowns, sorted, kept⟩ := bind_eq_ok.mp advanced
  obtain ⟨rfl, rfl⟩ := Prod.mk.inj (Except.ok.inj kept)
  obtain ⟨atoms, found, rest⟩ := map_eq_ok.mp sorted
  have inside : ∀ index ∈ distinctAtoms graph unknowns,
      index ∈ atoms ∧ registry.isKnown graph (.atom index) = false := by
    intro index member
    simpa [← rest] using distinctAtoms_subset graph unknowns member
  refine ⟨rfl, ?_, fun index member => (inside index member).2, ?_, ?_⟩
  · rw [identities_distinctAtoms]
    exact firstOccurrences_nodup _
  · intro index member
    exact TypeRef.mem_leavesOfAll found (inside index member).1
  · intro seed member
    obtain ⟨here, located, part⟩ := TypeRef.leavesOfAll_mem found member
    refine ⟨here, located, fun index underSeed => ?_⟩
    by_cases known : registry.isKnown graph (.atom index)
    · exact Registry.isKnown_mono
        (fun identity old => (contains_registerAll _ _ _ _).mpr (.inr old)) known
    · -- The atom itself may have been dropped for another one with its identity.
      have listed : (graph.atom index).identity ∈
          graph.identities (distinctAtoms graph unknowns) := by
        rw [identities_distinctAtoms, mem_firstOccurrences]
        exact List.mem_map.mpr ⟨index, by simpa [← rest, known] using part underSeed, rfl⟩
      rw [Registry.isKnown, Bool.or_eq_true]
      exact .inr ((contains_registerAll _ _ _ _).mpr (.inl listed))

end Closure

end ServiceStubs
