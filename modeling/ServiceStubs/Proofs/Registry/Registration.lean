import ServiceStubs.Proofs.Registry.Entries

/-!
# Registering types

Registering a type makes its identity known and forgets no other. A type whose identity was not
known gets one entry at the end, under a name that nothing had. In a registry whose names are
apart, no two entries share a name and no entry has the name of a built-in type or a reserved
name; registering any type keeps names apart.
-/

namespace ServiceStubs.Registry

variable (registry : Registry) (graph : TypeGraph)

/-- An identity is known after a layer is added when it is the one named or was known before. -/
theorem contains_extend (identity name other : String) :
    (registry.extend identity name).contains other ↔
      other = identity ∨ registry.contains other := by
  have builtins : (registry.extend identity name).builtin? other = registry.builtin? other := rfl
  rw [contains, contains, name?, name?, builtins, entry?_extend]
  by_cases same : other = identity
  · simp [same]
  · simp [same]

/-- An identity is known after a registration when it is the registered one or was known before. -/
theorem contains_register (type : TypeRef) (other : String) :
    (registry.register graph type).contains other ↔
      other = graph.identity type ∨ registry.contains other :=
  registry.contains_extend _ _ other

/-- An identity without a name has neither a built-in nor a registered one. -/
theorem contains_eq_false {identity : String} :
    registry.contains identity = false ↔
      registry.builtin? identity = none ∧ registry.entry? identity = none := by
  simp only [contains, name?, Option.isSome_eq_false_iff, Option.isNone_iff_eq_none,
    Option.or_eq_none_iff]

/-- An atom is known when it is a parameter or its identity has a name. -/
theorem isKnown_atom {index : Nat} :
    registry.isKnown graph (.atom index) ↔
      (graph.atom index).kind = .parameter ∨
        registry.contains (graph.atom index).identity := by
  have kinds : graph.kind (.atom index) = .parameter ↔ (graph.atom index).kind = .parameter := by
    show (graph.atom index).kind.kind = .parameter ↔ _
    cases (graph.atom index).kind <;> simp [AtomKind.kind]
  simp only [isKnown, Bool.or_eq_true, decide_eq_true_eq, kinds, TypeGraph.identity]

/-- An atom is unknown when it is no parameter and its identity has no name. -/
theorem isKnown_atom_eq_false {index : Nat} :
    registry.isKnown graph (.atom index) = false ↔
      (graph.atom index).kind ≠ .parameter ∧
        registry.contains (graph.atom index).identity = false := by
  rw [← Bool.not_eq_true, isKnown_atom, not_or, Bool.not_eq_true]

/-- A registry that knows at least the same identities knows at least the same types. -/
theorem isKnown_mono {registry later : Registry} {graph : TypeGraph} {type : TypeRef}
    (grown : ∀ identity, registry.contains identity → later.contains identity)
    (known : registry.isKnown graph type) : later.isKnown graph type := by
  rw [isKnown, Bool.or_eq_true] at known ⊢
  exact known.imp_right (grown _)

/-- The entries after a type is registered: one more, under a name that is free, when its identity
has no registered name. -/
theorem entries_register (type : TypeRef) :
    (registry.register graph type).entries =
      if (registry.entry? (graph.identity type)).isSome then registry.entries
      else registry.entries ++
        [(graph.identity type, freeName registry.takenNames (graph.name type))] := by
  cases found : registry.entry? (graph.identity type) with
  | some name =>
    rw [register, targetName, found, Option.getD_some, entries_extend_same registry found]
    rfl
  | none =>
    rw [register, targetName, found, Option.getD_none, entries_extend_of_new registry _ found]
    rfl

/-- A type whose identity has no name is registered under a name that is not taken. -/
theorem entries_register_of_new {type : TypeRef}
    (new : registry.contains (graph.identity type) = false) :
    ∃ name, name ∉ registry.takenNames ∧
      (registry.register graph type).entries =
        registry.entries ++ [(graph.identity type, name)] := by
  have unnamed := ((registry.contains_eq_false).mp new).2
  refine ⟨freeName registry.takenNames (graph.name type), freeName_not_mem _ _, ?_⟩
  rw [entries_register, unnamed, Option.isSome_none, if_neg Bool.false_ne_true]

/-- The text of an atom: the name of its identity, or its own name when that has none. -/
def nameOf (index : Nat) : String :=
  (registry.name? (graph.atom index).identity).getD (graph.atom index).name

/-- An atom is written by its text. -/
theorem map_atom (index : Nat) :
    registry.map graph (.atom index) = .ok (registry.nameOf graph index) := rfl

/-- An atom with a registered name is written by it when its identity is not built in. -/
theorem nameOf_of_entry {index : Nat} {name : String}
    (plain : registry.builtin? (graph.atom index).identity = none)
    (found : registry.entry? (graph.atom index).identity = some name) :
    registry.nameOf graph index = name := by
  rw [nameOf, name?, plain, found, Option.none_or, Option.getD_some]

/-- Registering an atom changes the text of no atom with another identity. -/
theorem nameOf_register {index other : Nat}
    (different : (graph.atom other).identity ≠ (graph.atom index).identity) :
    (registry.register graph (.atom index)).nameOf graph other = registry.nameOf graph other := by
  have same : Registry.entry? (registry.register graph (.atom index)) (graph.atom other).identity =
      registry.entry? (graph.atom other).identity := by
    rw [register, entry?_extend]
    exact if_neg different
  rw [nameOf, nameOf, name?, name?, same]
  rfl

/-- No two entries share a name, and no entry has a built-in or a reserved name. -/
structure NamesApart : Prop where
  /-- Registered names are not repeated. -/
  distinct : registry.entryNames.Nodup
  /-- Registered names are neither built in nor reserved. -/
  free : ∀ name ∈ registry.entryNames, name ∉ registry.builtins.values ++ registry.reserved

/-- Names are apart in a registry without layers. -/
theorem namesApart_of_no_layers (bare : registry.layers = []) : registry.NamesApart := by
  have empty : registry.entryNames = [] := by
    simp [entryNames, entryIdentities, bare, firstOccurrences]
  constructor <;> simp [empty]

/-- The name of an identity after a type is registered. -/
theorem entry?_register (type : TypeRef) (other : String) :
    Registry.entry? (registry.register graph type) other =
      if other = graph.identity type then
        some (registry.targetName (graph.identity type) (graph.name type))
      else registry.entry? other :=
  registry.entry?_extend _ _ other

/-- The registered names after a type is registered: a type without a name gets one that is free. -/
theorem entryNames_register (type : TypeRef) :
    (registry.register graph type).entryNames =
      if (registry.entry? (graph.identity type)).isSome then registry.entryNames
      else registry.entryNames ++ [freeName registry.takenNames (graph.name type)] := by
  rw [← entries_map_snd, ← entries_map_snd, entries_register]
  split
  · rfl
  · rw [List.map_append]
    rfl

/-- Registering any type keeps names apart. -/
theorem NamesApart.register {registry : Registry} (apart : registry.NamesApart)
    (graph : TypeGraph) (type : TypeRef) : (registry.register graph type).NamesApart := by
  have names := registry.entryNames_register graph type
  cases found : registry.entry? (graph.identity type) with
  | some name =>
    rw [found, Option.isSome_some, if_pos rfl] at names
    exact ⟨names ▸ apart.distinct, names ▸ apart.free⟩
  | none =>
    let name := freeName registry.takenNames (graph.name type)
    have fresh : name ∉ registry.takenNames := freeName_not_mem _ _
    rw [found, Option.isSome_none, if_neg Bool.false_ne_true] at names
    change (registry.register graph type).entryNames = registry.entryNames ++ [name] at names
    simp only [takenNames, List.append_assoc, List.mem_append (s := registry.entryNames),
      not_or] at fresh
    constructor
    · rw [names, List.nodup_append]
      refine ⟨apart.distinct, List.nodup_singleton name, fun left member right single => ?_⟩
      rintro rfl
      exact fresh.1 (List.mem_singleton.mp single ▸ member)
    · intro other member
      rw [names, List.mem_append, List.mem_singleton] at member
      rcases member with old | rfl
      · exact apart.free other old
      · exact fresh.2

end ServiceStubs.Registry
