import ServiceStubs.Proofs.Stub.Names

/-!
# Names that types are given

A type of a closure is given its own name, or its own name with a numeral when that one is taken. A
name is taken when it is built in, when it is one of the service's, or when another type of the
closure was given it before. So a name that is neither built in nor the service's is always given
away when a type of the closure has it as its own, to this type or to another one.
-/

namespace ServiceStubs

/-- A numeral holds digits alone. -/
theorem isDigit_of_mem_numeral {number : Nat} {character : Char}
    (member : character ∈ (toString number).toList) : character.isDigit := by
  rw [Nat.toString_eq_ofList_toDigits, String.toList_ofList] at member
  exact Nat.isDigit_of_mem_toDigits (by decide) (by decide) member

/-- Whether a name is another name, or that name with a numeral from two on after it. -/
inductive DerivedName (own : String) : String → Prop
  /-- The name itself. -/
  | own : DerivedName own own
  /-- The name with a numeral. -/
  | numbered {counter : Nat} (atLeast : 2 ≤ counter) : DerivedName own (own ++ toString counter)

/-- A name made free is derived from the name. -/
theorem freeName_derived (taken : List String) (name : String) :
    DerivedName name (freeName taken name) := by
  by_cases used : name ∈ taken
  · obtain ⟨offset, _, found, _, _⟩ := firstFreeNumbered_stops taken name taken.length 2
    rw [freeName, if_pos (List.contains_iff_mem.mpr used), found]
    exact .numbered (Nat.le_add_right 2 offset)
  · rw [freeName, if_neg (by simpa using used)]
    exact .own

/-- A name that is not taken is free as it is. -/
theorem freeName_of_not_mem {taken : List String} {name : String} (free : name ∉ taken) :
    freeName taken name = name := by
  rw [freeName, if_neg (by simpa using free)]

/-- No name is freed by registering a type. -/
theorem Registry.takenNames_subset_register (registry : Registry) (graph : TypeGraph)
    (type : TypeRef) : registry.takenNames ⊆ (registry.register graph type).takenNames := by
  intro name member
  rw [takenNames, entryNames_register]
  split_ifs
  · exact member
  · rw [takenNames] at member
    simp only [List.mem_append] at member ⊢
    exact member.imp_left (Or.imp_left .inl)

namespace Closure

variable {registry : Registry} {graph : TypeGraph}

/-- No name is freed by registering atoms. -/
theorem takenNames_subset_registerAll (registry : Registry) (graph : TypeGraph)
    (atoms : List Nat) : registry.takenNames ⊆ (registerAll registry graph atoms).takenNames := by
  induction atoms generalizing registry with
  | nil => exact List.Subset.refl _
  | cons index rest ih =>
    exact List.Subset.trans (registry.takenNames_subset_register graph (.atom index)) (ih _)

/-- Registering atoms changes the text of no atom with another identity. -/
theorem nameOf_registerAll {atoms : List Nat} {index : Nat}
    (absent : (graph.atom index).identity ∉ graph.identities atoms) :
    (registerAll registry graph atoms).nameOf graph index = registry.nameOf graph index := by
  induction atoms generalizing registry with
  | nil => rfl
  | cons other rest ih =>
    rw [TypeGraph.identities, List.map_cons, List.mem_cons, not_or] at absent
    exact (ih absent.2).trans (registry.nameOf_register graph absent.1)

/-- A new atom is given its own name, made free of names that are still taken in the end. -/
theorem nameOf_given {atoms : List Nat} (distinct : (graph.identities atoms).Nodup)
    (new : ∀ index ∈ atoms, registry.contains (graph.atom index).identity = false) {index : Nat}
    (member : index ∈ atoms) :
    ∃ taken ⊆ (registerAll registry graph atoms).takenNames,
      (registerAll registry graph atoms).nameOf graph index =
        freeName taken (graph.atom index).name := by
  induction atoms generalizing registry with
  | nil => simp at member
  | cons head rest ih =>
    rw [TypeGraph.identities, List.map_cons, List.nodup_cons] at distinct
    have unnamed := (registry.contains_eq_false).mp (new head List.mem_cons_self)
    rcases List.mem_cons.mp member with rfl | later
    · have found : Registry.entry? (registry.register graph (.atom index))
          (graph.atom index).identity =
            some (freeName registry.takenNames (graph.atom index).name) := by
        rw [registry.entry?_register]
        exact (if_pos rfl).trans (by rw [Registry.targetName, TypeGraph.identity, unnamed.2]; rfl)
      have named := (registry.register graph (.atom index)).nameOf_of_entry graph unnamed.1 found
      have kept := List.Subset.trans (registry.takenNames_subset_register graph (.atom index))
        (takenNames_subset_registerAll _ graph rest)
      exact ⟨_, kept, (nameOf_registerAll distinct.1).trans named⟩
    · refine ih distinct.2 (fun other inRest => ?_) later
      rw [← Bool.not_eq_true, registry.contains_register, not_or, Bool.not_eq_true]
      refine ⟨fun same => distinct.1 ?_, new other (List.mem_cons_of_mem head inRest)⟩
      exact List.mem_map.mpr ⟨other, inRest, same⟩

end Closure

namespace Stub

variable {graph : TypeGraph} {serviceName : String} {seeds : List TypeRef} {closure : Closure}

/-- Every type of a closure is given its own name, made free of names that are built in, the
service's or given to other types of the closure. -/
theorem resolve_given
    (resolved : (startingRegistry serviceName).resolve graph seeds = .ok closure) {index : Nat}
    (member : index ∈ closure.types) :
    ∃ taken, (∀ name ∈ taken, name ∈ typeNames graph closure ∨
        name ∈ Registry.typescriptNames.values ∨ name ∈ ownNames serviceName) ∧
      closure.registry.nameOf graph index = freeName taken (graph.atom index).name := by
  have named := resolve_named resolved
  obtain ⟨registered, progress⟩ := Closure.resolve_progress resolved
  have grown : closure.registry =
      Closure.registerAll (startingRegistry serviceName) graph registered := progress.grown
  have new : ∀ other ∈ registered,
      (startingRegistry serviceName).contains (graph.atom other).identity = false :=
    fun other listed => ((Registry.isKnown_atom_eq_false _ graph).mp
      (progress.unknown other listed)).2
  obtain ⟨taken, below, given⟩ :=
    Closure.nameOf_given progress.distinct new (progress.emitted.mem_iff.mpr member)
  rw [← grown] at below given
  refine ⟨taken, fun name used => ?_, given⟩
  have inAll := below used
  rw [Registry.takenNames, named.builtins, named.reserved, List.mem_append, List.mem_append,
    named.entryNames_perm.mem_iff, or_assoc] at inAll
  exact inAll

/-- A name that is given to a type of a closure is derived from the own name of the type. -/
theorem exists_derived_of_mem_typeNames
    (resolved : (startingRegistry serviceName).resolve graph seeds = .ok closure) {name : String}
    (member : name ∈ typeNames graph closure) :
    ∃ index ∈ closure.types, closure.registry.nameOf graph index = name ∧
      DerivedName (graph.atom index).name name := by
  obtain ⟨index, listed, rfl⟩ := List.mem_map.mp member
  obtain ⟨taken, _, given⟩ := resolve_given resolved listed
  exact ⟨index, listed, rfl, given ▸ freeName_derived taken _⟩

/-- The own name of a type of a closure is given away when it is neither built in nor one of the
service's. -/
theorem own_mem_typeNames
    (resolved : (startingRegistry serviceName).resolve graph seeds = .ok closure) {index : Nat}
    (member : index ∈ closure.types)
    (plain : (graph.atom index).name ∉ Registry.typescriptNames.values)
    (foreign : (graph.atom index).name ∉ ownNames serviceName) :
    (graph.atom index).name ∈ typeNames graph closure := by
  obtain ⟨taken, sources, given⟩ := resolve_given resolved member
  by_cases used : (graph.atom index).name ∈ taken
  · rcases sources _ used with others | builtin | own
    · exact others
    · exact absurd builtin plain
    · exact absurd own foreign
  · rw [freeName_of_not_mem used] at given
    exact given ▸ List.mem_map_of_mem member

end Stub

end ServiceStubs
