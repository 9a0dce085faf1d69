import ServiceStubs.Proofs.Registry.History

/-!
# Registries in one dictionary

The layers of a registry are read newest first and listed oldest first, and a name is read back
through all of them. To everything that asks a registry this is one dictionary that keeps the order
of first insertion: it holds the layers, the oldest first, and then what was registered since.
Inserting an identity again replaces its name and leaves its place, so a name that a newer layer
hides is neither listed nor taken any more. Each change of a registry in layers makes the same
change of the one dictionary, and whole histories of changes follow by induction, from any layers,
built-in names and reserved names at the start.
-/

namespace ServiceStubs

/-- The names of types in one dictionary. -/
structure FlatRegistry where
  /-- Names that the target language has already, by identity. -/
  builtins : OrderedMap String String
  /-- Registered names by identity, in order of first registration. -/
  entries : OrderedMap String String
  /-- Names that no type may be given. -/
  reserved : List String

namespace FlatRegistry

/-- The name of an identity, built-in names first. -/
def name? (registry : FlatRegistry) (identity : String) : Option String :=
  (registry.builtins.get? identity).or (registry.entries.get? identity)

/-- Whether an identity has a built-in or a registered name. -/
def contains (registry : FlatRegistry) (identity : String) : Bool :=
  registry.builtins.contains identity || registry.entries.contains identity

/-- Whether a type needs no declaration: it has a name, or it is a type parameter. -/
def isKnown (registry : FlatRegistry) (graph : TypeGraph) (type : TypeRef) : Bool :=
  graph.kind type = .parameter || registry.contains (graph.identity type)

/-- The text of a type: the name of its identity, or else the text that its parts make. -/
def map (registry : FlatRegistry) (graph : TypeGraph) : TypeRef → Except StubError String
  | .atom index =>
    .ok ((registry.name? (graph.atom index).identity).getD (graph.atom index).name)
  | .apply identity _ base [argument] =>
    match registry.name? identity with
    | some name => .ok name
    | none => do
      let baseText ← registry.map graph base
      let argumentText ← registry.map graph argument
      return Registry.composeGeneric baseText argumentText
  | .apply identity _ _ arguments =>
    match registry.name? identity with
    | some name => .ok name
    | none => .error (.genericArity identity arguments.length)

/-- The names that a newly registered type may not have. -/
def takenNames (registry : FlatRegistry) : List String :=
  registry.entries.values ++ registry.builtins.values ++ registry.reserved

/-- The name under which an identity would be registered when `name` is proposed: the one it has
already, or the proposal made free. -/
def targetName (registry : FlatRegistry) (identity name : String) : String :=
  (registry.entries.get? identity).getD (freeName registry.takenNames name)

/-- The dictionary with a name for an identity. An identity that has a name already gets the new one
in its old place. -/
def extend (registry : FlatRegistry) (identity name : String) : FlatRegistry :=
  { registry with entries := registry.entries.put identity name }

/-- The dictionary in which no type is newly given one of some names. -/
def reserve (registry : FlatRegistry) (names : List String) : FlatRegistry :=
  { registry with reserved := registry.reserved ++ names }

/-- The dictionary in which a type has a name derived from its own. -/
def register (registry : FlatRegistry) (graph : TypeGraph) (type : TypeRef) : FlatRegistry :=
  registry.extend (graph.identity type)
    (registry.targetName (graph.identity type) (graph.name type))

end FlatRegistry

namespace Registry

/-- A change of a registry: an identity is given a name outright, or a step in the history of the
registry is taken. -/
inductive Change where
  | extend (identity name : String)
  | step (step : Step)

/-- The registry after a change. -/
def change (registry : Registry) : Change → Registry
  | .extend identity name => registry.extend identity name
  | .step step => registry.apply step

/-- The registry after changes in turn. -/
def afterChanges (registry : Registry) (changes : List Change) : Registry :=
  changes.foldl change registry

end Registry

/-- The dictionary after a change. -/
def FlatRegistry.change (registry : FlatRegistry) : Registry.Change → FlatRegistry
  | .extend identity name => registry.extend identity name
  | .step (.reserve names) => registry.reserve names
  | .step (.register graph type) => registry.register graph type

/-- The dictionary after changes in turn. -/
def FlatRegistry.afterChanges (registry : FlatRegistry) (changes : List Registry.Change) :
    FlatRegistry := changes.foldl change registry

namespace Registry

/-- The dictionary of a registry: the entries of its layers are inserted in turn, those of the
oldest layer first. -/
def flatten (registry : Registry) : FlatRegistry where
  builtins := registry.builtins
  entries := .ofList (registry.layers.reverse.flatMap OrderedMap.entries)
  reserved := registry.reserved

/-- What can be observed of a registry in layers is what can be observed of a dictionary. -/
structure Observes (layered : Registry) (flat : FlatRegistry) : Prop where
  contains : ∀ identity, layered.contains identity = flat.contains identity
  isKnown : ∀ graph type, layered.isKnown graph type = flat.isKnown graph type
  map : ∀ graph type, layered.map graph type = flat.map graph type
  targetName : ∀ identity name, layered.targetName identity name = flat.targetName identity name
  /-- The registered names are listed in the same order. -/
  entryNames : layered.entryNames = flat.entries.values

variable (registry : Registry)

/-- A name is read from the dictionary as it is read through the layers. -/
theorem get?_flatten (identity : String) :
    registry.flatten.entries.get? identity = registry.entry? identity := by
  have layerwise (layer : Layer) :
      (layer.entries.reverse.find? fun entry => entry.1 = identity).map Prod.snd =
        layer.get? identity := layer.find?_entries_reverse identity
  simp only [flatten, OrderedMap.get?_ofList, List.reverse_flatMap, List.reverse_reverse,
    List.find?_flatMap, List.map_findSome?, Function.comp_def, layerwise]
  rfl

/-- The identities in the dictionary are the registered ones in order of first registration. -/
theorem keys_flatten : registry.flatten.entries.keys = registry.entryIdentities := by
  rw [flatten, OrderedMap.keys_ofList, List.map_flatMap]
  rfl

/-- The names in the dictionary are the registered ones in the order of their identities. -/
theorem values_flatten : registry.flatten.entries.values = registry.entryNames := by
  rw [OrderedMap.values_eq_keys, keys_flatten]
  exact List.filterMap_congr fun identity _ => registry.get?_flatten identity

/-- The dictionary gives an identity the name that the layers give it. -/
theorem name?_flatten (identity : String) :
    registry.flatten.name? identity = registry.name? identity := by
  rw [FlatRegistry.name?, get?_flatten]
  rfl

/-- The dictionary has a name for the same identities. -/
theorem contains_flatten (identity : String) :
    registry.flatten.contains identity = registry.contains identity := by
  rw [FlatRegistry.contains, OrderedMap.contains, OrderedMap.contains, get?_flatten, contains,
    name?, Option.isSome_or]
  rfl

/-- The dictionary would give a newly registered type the same name. -/
theorem targetName_flatten (identity name : String) :
    registry.flatten.targetName identity name = registry.targetName identity name := by
  rw [FlatRegistry.targetName, get?_flatten, FlatRegistry.takenNames, values_flatten]
  rfl

/-- Types are written alike with the dictionary. -/
theorem map_flatten (graph : TypeGraph) (type : TypeRef) :
    registry.flatten.map graph type = registry.map graph type := by
  induction type using Registry.map.induct registry with
  | case1 index => rw [FlatRegistry.map, map, name?_flatten]
  | case2 identity _ base argument name named => rw [FlatRegistry.map, map, name?_flatten, named]
  | case3 identity _ base argument unnamed inBase inArgument =>
    rw [FlatRegistry.map, map, name?_flatten, unnamed, inBase, inArgument]
  | case4 identity _ base arguments malformed name named =>
    rw [FlatRegistry.map.eq_3 _ _ _ _ _ _ malformed, map.eq_3 _ _ _ _ _ _ malformed,
      name?_flatten, named]
  | case5 identity _ base arguments malformed unnamed =>
    rw [FlatRegistry.map.eq_3 _ _ _ _ _ _ malformed, map.eq_3 _ _ _ _ _ _ malformed,
      name?_flatten, unnamed]

/-- All that can be observed of a registry can be observed of its dictionary. -/
theorem observes_flatten : Observes registry registry.flatten where
  contains identity := (registry.contains_flatten identity).symm
  isKnown graph type := by rw [isKnown, FlatRegistry.isKnown, contains_flatten]
  map graph type := (registry.map_flatten graph type).symm
  targetName identity name := (registry.targetName_flatten identity name).symm
  entryNames := registry.values_flatten.symm

/-- A layer on top of the others is one more insertion into the dictionary. -/
theorem flatten_extend (identity name : String) :
    (registry.extend identity name).flatten = registry.flatten.extend identity name := by
  have added : (registry.extend identity name).layers.reverse.flatMap OrderedMap.entries =
      registry.layers.reverse.flatMap OrderedMap.entries ++ [(identity, name)] := by
    rw [extend, List.reverse_cons, List.flatMap_append]
    rfl
  rw [flatten, added, OrderedMap.ofList_concat]
  rfl

/-- Each change of a registry makes the same change of its dictionary. -/
theorem flatten_change (change : Change) :
    (registry.change change).flatten = registry.flatten.change change := by
  cases change with
  | extend identity name => exact registry.flatten_extend identity name
  | step step =>
    cases step with
    | reserve names => rfl
    | register graph type =>
      calc
        (registry.register graph type).flatten
          = registry.flatten.extend (graph.identity type)
              (registry.targetName (graph.identity type) (graph.name type)) :=
            registry.flatten_extend _ _
        _ = registry.flatten.register graph type := by
          rw [← targetName_flatten, FlatRegistry.register]

/-- Any changes of a registry make the same changes of its dictionary. -/
theorem flatten_afterChanges (changes : List Change) :
    (registry.afterChanges changes).flatten = registry.flatten.afterChanges changes := by
  induction changes generalizing registry with
  | nil => rfl
  | cons change rest ih =>
    have later := ih (registry.change change)
    rw [flatten_change] at later
    exact later

/-- Whatever layers, built-in names and reserved names a registry starts with, after any changes all
that can be observed of it is what can be observed of the dictionary that holds its first layers
and went through the same changes. -/
theorem observes_afterChanges (changes : List Change) :
    Observes (registry.afterChanges changes) (registry.flatten.afterChanges changes) := by
  rw [← flatten_afterChanges]
  exact (registry.afterChanges changes).observes_flatten

/-- A name that a newer layer hides is free again, and the identity keeps its first place. -/
example :
    let older : Layer := .ofList [("a", "Page"), ("b", "Item")]
    let newer : Layer := .ofList [("c", "Tag"), ("a", "Sheet")]
    let layered : Registry := { builtins := .empty, layers := [newer, older] }
    layered.entryNames = ["Sheet", "Item", "Tag"] ∧ layered.targetName "d" "Page" = "Page" := by
  decide

end Registry

end ServiceStubs
