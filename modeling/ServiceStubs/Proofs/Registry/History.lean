import ServiceStubs.Proofs.Registry.Registration

/-!
# Histories of a registry

A registry is built up by steps of two kinds: names are reserved for declarations outside it, and
types are registered. Types of different graphs may be registered in any order, any number of
times, and under identities and names that other types have.

A step adds at most one entry, at the end, and only a registration of an identity without an
entry adds one. The name of the new entry is taken by nothing at that time: not by an earlier
entry, not by a built-in type and not by what is reserved. Reserving a name later does not take
it away from the type that has it, so the names of entries avoid what was reserved before them
and not all that is reserved. What one step preserves carries over to whole histories: registered
names stay distinct and apart from the built-in ones, and entries neither change nor move.
-/

namespace ServiceStubs.Registry

/-- A step in the history of a registry. -/
inductive Step where
  /-- Names are reserved for declarations outside the registry. -/
  | reserve (names : List String)
  /-- A type of a graph is registered. -/
  | register (graph : TypeGraph) (type : TypeRef)

/-- The registry after a step. -/
def apply (registry : Registry) : Step → Registry
  | .reserve names => registry.reserve names
  | .register graph type => registry.register graph type

/-- The registry after steps in turn. -/
def afterSteps (registry : Registry) (steps : List Step) : Registry := steps.foldl apply registry

/-- The names that a step reserves. -/
def Step.reserved : Step → List String
  | .reserve names => names
  | .register _ _ => []

/-- The names that some of the steps reserve. -/
def reservedBy (steps : List Step) : List String := steps.flatMap Step.reserved

variable (registry : Registry)

/-- Steps in two parts are taken one part after the other. -/
theorem afterSteps_append (earlier later : List Step) :
    registry.afterSteps (earlier ++ later) = (registry.afterSteps earlier).afterSteps later :=
  List.foldl_append

/-- No step changes the built-in names. -/
theorem builtins_afterSteps (steps : List Step) :
    (registry.afterSteps steps).builtins = registry.builtins := by
  induction steps generalizing registry with
  | nil => rfl
  | cons step rest ih =>
    have kept : (registry.apply step).builtins = registry.builtins := by cases step <;> rfl
    exact (ih (registry.apply step)).trans kept

/-- The reserved names after steps are those from before with those that the steps reserve. -/
theorem reserved_afterSteps (steps : List Step) :
    (registry.afterSteps steps).reserved = registry.reserved ++ reservedBy steps := by
  induction steps generalizing registry with
  | nil => exact (List.append_nil _).symm
  | cons step rest ih =>
    have added : (registry.apply step).reserved = registry.reserved ++ step.reserved := by
      cases step with
      | reserve names => rfl
      | register graph type => exact (List.append_nil _).symm
    calc
      (registry.afterSteps (step :: rest)).reserved
        = (registry.apply step).reserved ++ reservedBy rest := ih (registry.apply step)
      _ = registry.reserved ++ reservedBy (step :: rest) := by
        rw [added, List.append_assoc]
        rfl

/-- A step changes no entry, or it registers an identity that had none and adds its entry at the
end under a name that was not taken. -/
theorem entries_apply (step : Step) :
    (registry.apply step).entries = registry.entries ∨
      ∃ graph type name, step = .register graph type ∧
        registry.entry? (graph.identity type) = none ∧ name ∉ registry.takenNames ∧
        (registry.apply step).entries = registry.entries ++ [(graph.identity type, name)] := by
  cases step with
  | reserve names => exact .inl rfl
  | register graph type =>
    have listed : (registry.apply (.register graph type)).entries = _ :=
      registry.entries_register graph type
    cases found : registry.entry? (graph.identity type) with
    | some name =>
      rw [found, Option.isSome_some, if_pos rfl] at listed
      exact .inl listed
    | none =>
      rw [found, Option.isSome_none, if_neg Bool.false_ne_true] at listed
      exact .inr ⟨graph, type, _, rfl, found, freeName_not_mem _ _, listed⟩

/-- The entries before a step are the first of the entries after it. -/
theorem entries_prefix_apply (step : Step) :
    registry.entries <+: (registry.apply step).entries := by
  rcases registry.entries_apply step with same | ⟨graph, type, name, _, _, _, longer⟩
  · rw [same]
  · rw [longer]
    exact List.prefix_append _ _

/-- The entries before any steps are the first of the entries after them. -/
theorem entries_prefix_afterSteps (steps : List Step) :
    registry.entries <+: (registry.afterSteps steps).entries := by
  induction steps generalizing registry with
  | nil => exact List.prefix_rfl
  | cons step rest ih =>
    exact (registry.entries_prefix_apply step).trans (ih (registry.apply step))

/-- An identity keeps its registered name through any steps. -/
theorem entry?_afterSteps (steps : List Step) {identity name : String}
    (found : registry.entry? identity = some name) :
    Registry.entry? (registry.afterSteps steps) identity = some name := by
  rw [← mem_entries] at found ⊢
  exact (registry.entries_prefix_afterSteps steps).subset found

/-- Registered names are not repeated, and none is a built-in name. -/
structure NamesDistinct : Prop where
  /-- No two entries share a name. -/
  distinct : registry.entryNames.Nodup
  /-- No entry has a built-in name. -/
  foreign : ∀ name ∈ registry.entryNames, name ∉ registry.builtins.values

/-- Any step keeps registered names distinct and apart from the built-in ones. -/
theorem NamesDistinct.apply {registry : Registry} (names : registry.NamesDistinct) (step : Step) :
    (registry.apply step).NamesDistinct := by
  have builtins : (registry.apply step).builtins = registry.builtins :=
    registry.builtins_afterSteps [step]
  rcases registry.entries_apply step with same | ⟨graph, type, name, _, _, fresh, longer⟩
  · have kept : (registry.apply step).entryNames = registry.entryNames := by
      rw [← entries_map_snd, ← entries_map_snd, same]
    exact ⟨kept ▸ names.distinct, builtins ▸ kept ▸ names.foreign⟩
  · have listed : (registry.apply step).entryNames = registry.entryNames ++ [name] := by
      rw [← entries_map_snd, ← entries_map_snd, longer, List.map_append]
      rfl
    simp only [takenNames, List.append_assoc, List.mem_append, not_or] at fresh
    obtain ⟨unused, foreign, _⟩ := fresh
    constructor
    · rw [listed]
      refine List.nodup_append.mpr ⟨names.distinct, List.nodup_singleton name, ?_⟩
      rintro other member _ single rfl
      exact unused (List.mem_singleton.mp single ▸ member)
    · rw [listed, builtins]
      intro other member
      rcases List.mem_append.mp member with old | new
      · exact names.foreign other old
      · rwa [List.mem_singleton.mp new]

/-- Any steps keep registered names distinct and apart from the built-in ones. -/
theorem NamesDistinct.afterSteps {registry : Registry} (names : registry.NamesDistinct)
    (steps : List Step) : (registry.afterSteps steps).NamesDistinct := by
  induction steps generalizing registry with
  | nil => exact names
  | cons step rest ih => exact ih (names.apply step)

/-- A name is given to an identity at one of the steps, which registers the identity when it has
no entry; the name is then neither reserved from before nor reserved by an earlier step. -/
def NamedDuring (steps : List Step) (identity name : String) : Prop :=
  ∃ earlier graph type later, steps = earlier ++ .register graph type :: later ∧
    graph.identity type = identity ∧
    Registry.entry? (registry.afterSteps earlier) identity = none ∧
    name ∉ registry.reserved ++ reservedBy earlier

/-- A name given during some steps is given during any continuation of them. -/
theorem NamedDuring.append {registry : Registry} {steps : List Step} {identity name : String}
    (named : registry.NamedDuring steps identity name) (more : List Step) :
    registry.NamedDuring (steps ++ more) identity name := by
  obtain ⟨earlier, graph, type, later, rfl, same, new, unreserved⟩ := named
  have split : earlier ++ .register graph type :: later ++ more =
      earlier ++ .register graph type :: (later ++ more) := by
    rw [List.append_assoc, List.cons_append]
  exact ⟨earlier, graph, type, later ++ more, split, same, new, unreserved⟩

/-- An entry after steps was there before them or was named during them. -/
theorem entries_afterSteps (steps : List Step) {identity name : String}
    (member : (identity, name) ∈ (registry.afterSteps steps).entries) :
    (identity, name) ∈ registry.entries ∨ registry.NamedDuring steps identity name := by
  induction steps using List.reverseRecOn with
  | nil => exact .inl member
  | append_singleton earlier step ih =>
    have last : registry.afterSteps (earlier ++ [step]) =
        (registry.afterSteps earlier).apply step := registry.afterSteps_append earlier [step]
    have carried : (identity, name) ∈ (registry.afterSteps earlier).entries →
        (identity, name) ∈ registry.entries ∨
          registry.NamedDuring (earlier ++ [step]) identity name :=
      fun before => (ih before).imp_right fun named => named.append [step]
    rw [last] at member
    rcases (registry.afterSteps earlier).entries_apply step with
      same | ⟨graph, type, given, rfl, new, fresh, longer⟩
    · exact carried (same ▸ member)
    · rw [longer, List.mem_append, List.mem_singleton, Prod.mk.injEq] at member
      rcases member with old | ⟨rfl, rfl⟩
      · exact carried old
      · have unreserved : name ∉ registry.reserved ++ reservedBy earlier := by
          rw [← reserved_afterSteps]
          exact fun reserved => fresh (List.mem_append_right _ reserved)
        exact .inr ⟨earlier, graph, type, [], rfl, rfl, new, unreserved⟩

/-- Nothing is registered in the registry of built-in names alone. -/
theorem entryNames_typescript : typescript.entryNames = [] := rfl

/-- After any history the registered names are distinct and none is built in. Each of them belongs
to an identity that got it when it was first registered, and nothing had reserved it before. What
was registered at any earlier point of the history comes first, in the same order and under the
same names. -/
theorem names_of_history (steps : List Step) :
    (typescript.afterSteps steps).entryNames.Nodup ∧
      (∀ name ∈ (typescript.afterSteps steps).entryNames, name ∉ typescriptNames.values) ∧
      (∀ name ∈ (typescript.afterSteps steps).entryNames,
        ∃ earlier graph type later, steps = earlier ++ .register graph type :: later ∧
          Registry.entry? (typescript.afterSteps earlier) (graph.identity type) = none ∧
          Registry.entry? (typescript.afterSteps steps) (graph.identity type) = some name ∧
          name ∉ reservedBy earlier) ∧
      ∀ earlier later, steps = earlier ++ later →
        (typescript.afterSteps earlier).entryNames <+: (typescript.afterSteps steps).entryNames ∧
        ∀ identity name, Registry.entry? (typescript.afterSteps earlier) identity = some name →
          Registry.entry? (typescript.afterSteps steps) identity = some name := by
  have start : typescript.NamesDistinct := by
    constructor <;> simp [entryNames_typescript]
  have names := start.afterSteps steps
  have builtins : (typescript.afterSteps steps).builtins = typescriptNames :=
    typescript.builtins_afterSteps steps
  refine ⟨names.distinct, builtins ▸ names.foreign, fun name member => ?_, ?_⟩
  · rw [← entries_map_snd] at member
    obtain ⟨⟨identity, _⟩, entered, rfl⟩ := List.mem_map.mp member
    rcases typescript.entries_afterSteps steps entered with old | named
    · exact absurd old List.not_mem_nil
    · obtain ⟨earlier, graph, type, later, split, rfl, new, unreserved⟩ := named
      exact ⟨earlier, graph, type, later, split, new, (mem_entries _ _ _).mp entered, unreserved⟩
  · rintro earlier later rfl
    rw [afterSteps_append]
    refine ⟨?_, fun identity name found => entry?_afterSteps _ later found⟩
    rw [← entries_map_snd, ← entries_map_snd]
    exact (entries_prefix_afterSteps _ later).map Prod.snd

/-- Three types, two of which are named alike and one like the name that a clash makes up. -/
def widgets : TypeGraph where
  atoms := #[.composite "Widget" "first.Widget", .composite "Widget2", .composite "Widget"]

/-- A name is reserved before a type of that name is registered and again after it, a type is
registered twice, and types arrive that have the names made up for others. -/
def clashes : List Step :=
  [.reserve ["Widget"], .register widgets (.atom 0), .register widgets (.atom 1),
    .reserve ["Widget2", "Widget3"], .register widgets (.atom 0), .register widgets (.atom 2)]

/-- The clashing types keep the names that they first got, and these are distinct. -/
theorem names_of_clashes :
    (typescript.afterSteps clashes).entryNames = ["Widget2", "Widget22", "Widget4"] ∧
      (typescript.afterSteps clashes).entryNames.Nodup ∧
      (typescript.afterSteps (clashes.take 3)).entryNames <+:
        (typescript.afterSteps clashes).entryNames :=
  ⟨by decide +kernel, (names_of_history clashes).1,
    ((names_of_history clashes).2.2.2 (clashes.take 3) (clashes.drop 3) rfl).1⟩

end ServiceStubs.Registry
