import ServiceStubs.Proofs.Stub.Readings
import ServiceStubs.Proofs.Text.Words

/-!
# Names that are words

When the names of a service and of all types it reaches are words, so are the names that the types
are given: numerals hold digits alone. The text of a type then holds no line breaks, and that of a
type that stands for itself is a word.
-/

namespace ServiceStubs

/-- A name derived from a word is a word. -/
theorem DerivedName.isWord {own name : String} (derived : DerivedName own name)
    (word : Text.IsWord own) : Text.IsWord name := by
  cases derived with
  | own => exact word
  | numbered atLeast =>
    refine word.append fun character member => ?_
    simp [Text.isWordCharacter, Char.isAlphanum, isDigit_of_mem_numeral member]

/-- Whether all names that an atom holds are words. -/
structure Atom.InWords (atom : Atom) : Prop where
  name : Text.IsWord atom.name
  fields : ∀ field ∈ atom.fields, Text.IsWord field.name
  members : ∀ member ∈ atom.members, Text.IsWord member.told
  typeParameters : ∀ parameter ∈ atom.typeParameters, Text.IsWord parameter

namespace Stub

/-- Whether all names that the stub of a service is made of are words: those of the service and its
members, the promise template, and all names of the types that the service reaches. -/
structure InWords (options : Options) (graph : TypeGraph) (service : Service) : Prop where
  own : Text.IsWord service.name
  promise : Text.IsWord options.promiseType
  operations : ∀ operation ∈ service.members.operations,
    Text.IsWord operation.name ∧ ∀ param ∈ operation.params, Text.IsWord param.name
  events : ∀ event ∈ service.members.events,
    Text.IsWord event.name ∧ ∀ param ∈ event.params, Text.IsWord param.name
  atoms : ∀ index, (startingRegistry service.name).Reaches graph service.members.types
    (.atom index) → (graph.atom index).InWords

/-- The names of a service are words when its own is one. -/
theorem isWord_ownNames {serviceName : String} (word : Text.IsWord serviceName) :
    ∀ name ∈ ownNames serviceName, Text.IsWord name := by
  intro name member
  simp only [ownNames, methodsName, argumentsName, List.mem_cons, List.not_mem_nil, or_false]
    at member
  rcases member with rfl | rfl | rfl
  · exact word
  · exact word.append (by decide)
  · exact word.append (by decide)

variable {graph : TypeGraph} {serviceName : String} {seeds : List TypeRef} {closure : Closure}

/-- A template applied to an argument is written without line breaks when both are. -/
theorem unbroken_composeGeneric {base argument : String} (first : Text.Unbroken base)
    (second : Text.Unbroken argument) :
    Text.Unbroken (Registry.composeGeneric base argument) := by
  simp only [Registry.composeGeneric, Text.unbroken_append]
  exact ⟨⟨⟨first, by decide⟩, second⟩, by decide⟩

/-- What a text holds that a type is written by, where all names are words. -/
structure Spells (type : TypeRef) (text : String) : Prop where
  unbroken : Text.Unbroken text
  /-- A type that stands for itself is written by a word. -/
  word : ∀ index, type = .atom index → Text.IsWord text

/-- The types of a closure are reached from its seeds and are new. -/
theorem reached_of_emitted
    (resolved : (startingRegistry serviceName).resolve graph seeds = .ok closure) {index : Nat}
    (listed : index ∈ closure.types) :
    (startingRegistry serviceName).Reaches graph seeds (.atom index) ∧
      (startingRegistry serviceName).contains (graph.atom index).identity = false := by
  obtain ⟨registered, progress⟩ := Closure.resolve_progress resolved
  have member := progress.emitted.mem_iff.mpr listed
  exact ⟨progress.reached index member,
    ((Registry.isKnown_atom_eq_false _ graph).mp (progress.unknown index member)).2⟩

section

variable (resolved : (startingRegistry serviceName).resolve graph seeds = .ok closure)
variable (words : ∀ index, (startingRegistry serviceName).Reaches graph seeds (.atom index) →
  (graph.atom index).InWords)

include resolved words

/-- The names of all types of a closure are words. -/
theorem isWord_typeNames : ∀ name ∈ typeNames graph closure, Text.IsWord name := by
  intro name member
  obtain ⟨index, listed, _, derived⟩ := exists_derived_of_mem_typeNames resolved member
  exact derived.isWord (words index (reached_of_emitted resolved listed).1).name

/-- Every name that the registry of a closure has is a word. -/
theorem isWord_name {identity name : String}
    (named : closure.registry.name? identity = some name) : Text.IsWord name := by
  have known := resolve_named resolved
  rw [Registry.name?, known.builtin?_eq, Option.or_eq_some_iff] at named
  rcases named with builtin | ⟨_, registered⟩
  · have builtins : ∀ text ∈ Registry.typescriptNames.values, Text.IsWord text := by decide
    exact builtins name (mem_typescriptNames builtin)
  · obtain ⟨index, member, _, rfl⟩ := (known.registered_iff identity name).mp registered
    exact isWord_typeNames resolved words _ (List.mem_map.mpr ⟨index, member, rfl⟩)

/-- The text of a type that is reached holds no line breaks. The induction follows the structure of
the type; a construction with a name of its own is written by it. -/
theorem spells_of_map {type : TypeRef}
    (reached : (startingRegistry serviceName).Reaches graph seeds type) {text : String}
    (mapped : closure.registry.map graph type = .ok text) : Spells type text := by
  induction type using TypeRef.leaves.induct generalizing text with
  | case1 index =>
    have word : Text.IsWord text := by
      cases found : closure.registry.name? (graph.atom index).identity with
      | some name =>
        rw [Registry.map, found, Option.getD_some] at mapped
        exact Except.ok.inj mapped ▸ isWord_name resolved words found
      | none =>
        rw [Registry.map, found, Option.getD_none] at mapped
        exact Except.ok.inj mapped ▸ (words index reached).name
    exact ⟨word.unbroken, fun _ _ => word⟩
  | case2 identity name base argument inBase inArgument =>
    refine ⟨?_, by simp⟩
    rw [Registry.map] at mapped
    split at mapped
    · rename_i found
      exact Except.ok.inj mapped ▸ (isWord_name resolved words found).unbroken
    · obtain ⟨baseText, baseMapped, rest⟩ := bind_eq_ok.mp mapped
      obtain ⟨argumentText, argumentMapped, same⟩ := bind_eq_ok.mp rest
      obtain rfl := Except.ok.inj same
      exact unbroken_composeGeneric (inBase reached.base baseMapped).unbroken
        (inArgument reached.argument argumentMapped).unbroken
  | case3 identity name base arguments malformed =>
    refine ⟨?_, by simp⟩
    rw [Registry.map] at mapped
    · split at mapped
      · rename_i found
        exact Except.ok.inj mapped ▸ (isWord_name resolved words found).unbroken
      · cases mapped
    · exact malformed

end

end Stub

end ServiceStubs
