import ServiceStubs.Proofs.Description.Accounts
import ServiceStubs.Proofs.Types.Identities

/-!
# Names that tell annotations apart

An annotation is mistaken for another one only where both have one identity. Identities are composed
from names by brackets and commas, so a name without these marks is the identity of no construction,
and the identity of a construction over such names is that of no other construction. So where no
name has a mark, classes have names of their own, and what is kept by its name alone is called like
nothing else, no annotation is mistaken.
-/

namespace ServiceStubs

open Source

namespace Source.Module

section

variable (module : Module) (occasion : Occasion)

/-- Whether a name is that of nothing but what is kept by its name alone. -/
structure OwnName (name : String) : Prop where
  unmarked : IsAtomic name
  foreign : Registry.typescript.isBuiltin name = false
  parameter : ∀ {binder : TypeVariable}, occasion.involved (.typeVariable binder) →
    (Atom.parameter binder.name).identity ≠ name
  declarable : ∀ {atom : Atom} {owner : ClassValue}, occasion.involved (.classValue owner) →
    module.MadeFor occasion atom owner → owner.identity ≠ name

/-- Whether what an occasion involves is told apart by names. -/
structure NamesApart (catalog : Catalog) : Prop where
  atoms : ∀ {index : Nat} {atom : Atom}, catalog.atomAt? index = some atom →
    IsAtomic atom.identity
  names : ∀ {value : Value} {name : String}, occasion.involved value →
    module.NamedOnly occasion value name → module.OwnName occasion name
  classes : ∀ {reference : ClassRef}, occasion.involved (.user reference) →
    IsAtomic (ClassValue.user reference).identity
  parameters : ∀ {reference : ClassRef} {binder : TypeVariable},
    occasion.involved (.user reference) → occasion.involved (.typeVariable binder) →
    (Atom.parameter binder.name).identity ≠ (ClassValue.user reference).identity
  homonyms : ∀ {reference : ClassRef} {owner : ClassValue}, occasion.involved (.user reference) →
    occasion.involved (.classValue owner) →
    owner.identity = (ClassValue.user reference).identity → owner = .user reference

end

variable {module : Module} {occasion : Occasion} {catalog : Catalog}

namespace Accounts

variable (accounts : module.Accounts occasion catalog)

include accounts

/-- A place that has an entry has an atom. -/
theorem exists_atom {index : Nat} {identity : String}
    (entry : catalog.find? identity = some (.atom index)) :
    ∃ atom, catalog.atomAt? index = some atom ∧ atom.identity = identity := by
  obtain ⟨_, shown, named⟩ := accounts.entries entry
  obtain ⟨atom, standing, rfl⟩ := Catalog.sketch?_atom.mp shown
  exact ⟨atom, standing, named⟩

/-- The entry of an identity without marks is an atom. -/
theorem atom_of_unmarked {identity : String} {type : TypeRef} (unmarked : IsAtomic identity)
    (entry : catalog.find? identity = some type) : ∃ index, type = .atom index := by
  cases type with
  | atom index => exact ⟨index, rfl⟩
  | apply key name base arguments =>
    have composed := accounts.identity_eq entry
    rw [(accounts.constructions entry).2] at composed
    refine absurd (by decide) (unmarked.unmarked '[' ?_)
    rw [← composed]
    simp [TypeGraph.generic, TypeGraph.identity, TypeGraph.composedIdentity]

variable (atoms : ∀ {index : Nat} {atom : Atom}, catalog.atomAt? index = some atom →
  IsAtomic atom.identity)

include atoms

/-- Entries are composed of atoms when no atom has a mark in its identity. -/
theorem composed (type : TypeRef) (held : catalog.Holds type) : catalog.graph.Composed type := by
  obtain ⟨identity, entry⟩ := held
  cases type with
  | atom index =>
    obtain ⟨atom, standing, _⟩ := accounts.exists_atom entry
    refine .atom ?_
    rw [Catalog.graph_atom standing]
    exact atoms standing
  | apply key name base arguments =>
    obtain ⟨constructed, same⟩ := accounts.constructions entry
    obtain ⟨baseHeld, argumentsHeld⟩ := constructed.holds
    rw [same]
    exact .generic (composed base baseHeld) fun argument member =>
      composed argument (argumentsHeld argument member)

/-- Constructions over entries have one identity only if they are one construction. -/
theorem eq_of_composedIdentity_eq {first second : TypeRef} {before after : List TypeRef}
    (firstHeld : catalog.Holds first) (beforeHeld : ∀ type ∈ before, catalog.Holds type)
    (secondHeld : catalog.Holds second) (afterHeld : ∀ type ∈ after, catalog.Holds type)
    (same : catalog.graph.composedIdentity first before =
      catalog.graph.composedIdentity second after) : first = second ∧ before = after := by
  have composed := fun type => accounts.composed atoms type
  have whole := (TypeGraph.identity_eq_iff_structure_eq
    (.generic (composed first firstHeld) fun type member => composed type (beforeHeld type member))
    (.generic (composed second secondHeld) fun type member =>
      composed type (afterHeld type member))).mp same
  obtain ⟨base, parts⟩ := Structure.apply.inj whole
  rw [TypeGraph.structuresOf_eq_map, TypeGraph.structuresOf_eq_map] at parts
  -- An entry is found by the identity that its structure has.
  have found {type : TypeRef} (held : catalog.Holds type) :
      catalog.find? (catalog.graph.structureOf type).identity = some type := by
    rw [← (composed type held).identity_eq, accounts.find?_identity held]
  refine ⟨?_, ?_⟩
  · exact Option.some.inj ((found firstHeld).symm.trans (base ▸ found secondHeld))
  · refine List.map_injective_iff.mpr (fun _ _ => Option.some.inj) ?_
    have lists := congrArg (List.map fun whole => catalog.find? whole.identity) parts
    rw [List.map_map, List.map_map] at lists
    calc
      before.map some = before.map _ := (List.map_congr_left fun type member =>
        found (beforeHeld type member)).symm
      _ = after.map _ := lists
      _ = after.map some := List.map_congr_left fun type member => found (afterHeld type member)

end Accounts

/-! ## No mistakes -/

section

variable (accounts : module.Accounts occasion catalog)
  (apart : module.NamesApart occasion catalog)

include accounts apart

/-- The entry of a name is a name alone. -/
theorem NamesApart.kind_of_named {value : Value} {name : String} {type : TypeRef}
    (source : occasion.involved value) (named : module.NamedOnly occasion value name)
    (entry : catalog.find? name = some type) : catalog.graph.kind type = .primitive := by
  have own := apart.names source named
  obtain ⟨index, rfl⟩ := accounts.atom_of_unmarked own.unmarked entry
  obtain ⟨atom, standing, rfl⟩ := accounts.exists_atom entry
  have made := accounts.made standing
  have declared (kind : atom.kind = .composite ∨ atom.kind = .enumeration) : False := by
    obtain ⟨owner, involved, madeFor⟩ := made.declarable kind
    exact own.declarable involved madeFor madeFor.identity_eq.symm
  rw [TypeGraph.kind, Catalog.graph_atom standing]
  cases kind : atom.kind with
  | primitive => rfl
  | composite => exact absurd (.inl kind) declared
  | enumeration => exact absurd (.inr kind) declared
  | parameter =>
    obtain ⟨_, involved, same⟩ := made.parameter kind
    exact absurd same.symm (own.parameter involved)

/-- The entry of a class was made for nothing else. -/
theorem NamesApart.not_mistakenClass {reference : ClassRef}
    (source : occasion.involved (.user reference)) :
    ¬ module.MistakenClass occasion catalog reference := by
  intro mistaken
  cases mistaken with
  | homonym _ involved _ same other => exact other (apart.homonyms source involved same)
  | foreign entry kind =>
    obtain ⟨index, rfl⟩ := accounts.atom_of_unmarked (apart.classes source) entry
    obtain ⟨atom, standing, named⟩ := accounts.exists_atom entry
    rw [TypeGraph.kind, Catalog.graph_atom standing] at kind
    cases shape : atom.kind with
    | parameter =>
      obtain ⟨_, involved, same⟩ := (accounts.made standing).parameter shape
      exact apart.parameters source involved (same.symm.trans named)
    | primitive | composite | enumeration => simp [shape, AtomKind.kind] at kind

/-- Where names tell annotations apart, nothing is mistaken. -/
theorem NamesApart.not_mistaken (closes : module.Closes occasion) {value : Value}
    (source : occasion.involved value) : ¬ module.Mistaken occasion catalog value := by
  intro mistaken
  cases mistaken with
  | builtin named builtin => cases builtin.symm.trans (apart.names source named).foreign
  | named named entry kind => exact kind (apart.kind_of_named accounts source named entry)
  | ofClass leads mistaken =>
    exact apart.not_mistakenClass accounts (leads.involved closes source) mistaken
  | @construction _ _ base type types _ based parts entry other =>
    have identity := accounts.identity_eq entry
    have typesHeld : ∀ type ∈ types, catalog.Holds type := fun _ => holds_of_recorded parts
    have composed := accounts.composed apart.atoms
    cases type with
    | atom index =>
      have structures := (TypeGraph.identity_eq_iff_structure_eq (composed _ ⟨_, entry⟩)
        (.generic (composed base ⟨_, based⟩) fun type member =>
          composed type (typesHeld type member))).mp identity
      cases structures
    | apply key name applied arguments =>
      obtain ⟨constructed, same⟩ := accounts.constructions entry
      obtain ⟨appliedHeld, argumentsHeld⟩ := constructed.holds
      rw [same] at identity
      obtain ⟨rfl, rfl⟩ := accounts.eq_of_composedIdentity_eq apart.atoms appliedHeld argumentsHeld
        ⟨_, based⟩ typesHeld identity
      exact other ⟨rfl, rfl⟩

end

end Source.Module

end ServiceStubs
