import ServiceStubs.Proofs.OrderedMap
import ServiceStubs.Proofs.Registry.FreeName

/-!
# Entries of a registry

The layers of a registry are read together as one list of entries, the registered identities in
order of first registration with their names. A layer for a new identity adds one entry at the
end and leaves the others as they are. Registering a type whose identity has an entry changes
nothing that can be read; registering any other type adds a name that no entry, no built-in type
and no reservation has. So a registry in which names are apart stays one.
-/

namespace ServiceStubs.Registry

/-- The registered identities with their names, in order of first registration. -/
def entries (registry : Registry) : List (String × String) :=
  registry.entryIdentities.filterMap fun identity =>
    (registry.entry? identity).map fun name => (identity, name)

variable (registry : Registry)

/-- The name of an identity after a layer is added. -/
theorem entry?_extend (identity name other : String) :
    Registry.entry? (registry.extend identity name) other =
      if other = identity then some name else registry.entry? other := by
  by_cases same : other = identity
  · simp [ entry?, extend, OrderedMap.get?_put, same]
  · simp [ entry?, extend, OrderedMap.get?_put, OrderedMap.get?_empty, same]

/-- The registered identities are those that have a name. -/
theorem mem_entryIdentities (identity : String) :
    identity ∈ registry.entryIdentities ↔ (registry.entry? identity).isSome := by
  rw [entryIdentities, mem_firstOccurrences, entry?, List.findSome?_isSome_iff]
  simp only [List.mem_flatMap, List.mem_reverse, OrderedMap.isSome_get?]

/-- A layer for a new identity adds it to the registered identities at the end. -/
theorem entryIdentities_extend (identity name : String) :
    (registry.extend identity name).entryIdentities =
      if (registry.entry? identity).isSome then registry.entryIdentities
      else registry.entryIdentities ++ [identity] := by
  have keys : (OrderedMap.empty.put identity name).keys = [identity] := by
    rw [OrderedMap.keys_put, OrderedMap.keys_empty]
    rfl
  have listed : (registry.entry? identity).isSome ↔
      identity ∈ registry.layers.reverse.flatMap OrderedMap.keys := by
    rw [← mem_entryIdentities, entryIdentities, mem_firstOccurrences]
  simp only [entryIdentities, extend, List.reverse_cons, List.flatMap_append, List.flatMap_cons,
    List.flatMap_nil, List.append_nil, keys, firstOccurrences_concat, listed]

/-- The second parts of the entries are the registered names. -/
theorem entries_map_snd : registry.entries.map Prod.snd = registry.entryNames := by
  simp only [entries, entryNames, List.map_filterMap, Option.map_map]
  congr 1
  funext identity
  cases registry.entry? identity <;> rfl

/-- An entry is an identity with its name. -/
theorem mem_entries (identity name : String) :
    (identity, name) ∈ registry.entries ↔ registry.entry? identity = some name := by
  simp only [entries, List.mem_filterMap, mem_entryIdentities, Option.map_eq_some_iff,
    Prod.mk.injEq]
  constructor
  · rintro ⟨other, _, text, found, rfl, rfl⟩
    exact found
  · intro found
    exact ⟨identity, by simp [found], name, found, rfl, rfl⟩

/-- A layer for a new identity adds one entry at the end. -/
theorem entries_extend_of_new {identity : String} (name : String)
    (new : registry.entry? identity = none) :
    (registry.extend identity name).entries = registry.entries ++ [(identity, name)] := by
  have listed : (registry.extend identity name).entryIdentities =
      registry.entryIdentities ++ [identity] := by
    rw [entryIdentities_extend, new]
    rfl
  rw [entries, listed, List.filterMap_append, entries]
  congr 1
  · apply List.filterMap_congr
    intro other member
    have named := (registry.mem_entryIdentities other).mp member
    have different : other ≠ identity := by
      rintro rfl
      simp [new] at named
    rw [entry?_extend, if_neg different]
  · simp [entry?_extend]

/-- A layer that repeats an entry changes no entry. -/
theorem entries_extend_same {identity name : String}
    (found : registry.entry? identity = some name) :
    (registry.extend identity name).entries = registry.entries := by
  have listed : (registry.extend identity name).entryIdentities = registry.entryIdentities := by
    rw [entryIdentities_extend, found]
    rfl
  rw [entries, listed, entries]
  apply List.filterMap_congr
  intro other _
  rw [entry?_extend]
  by_cases same : other = identity
  · rw [if_pos same, same, found]
  · rw [if_neg same]

end ServiceStubs.Registry
