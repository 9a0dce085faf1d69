import ServiceStubs.Proofs.Description.Recording
import ServiceStubs.Proofs.Stub.References

/-!
# Supported annotations

A type that was made for an unsupported annotation is never covered by the registry of a closure:
nothing but a name is known of it, or it has no argument or several. So a recorded annotation whose
type is covered is supported, unless it is mistaken for something else that has its identity. Then
its parts and the classes that it leads to are covered as well.
-/

namespace ServiceStubs

open Source
open Source.Module

/-- The identity of a class is not built in. -/
theorem isBuiltin_identity (owner : ClassValue) :
    Registry.typescript.isBuiltin owner.identity = false := by
  have dotless : ∀ key ∈ Registry.typescriptNames.keys, '.' ∉ key.toList := by decide
  rw [← Bool.not_eq_true]
  intro builtin
  have member := (OrderedMap.isSome_get? _ _).mp builtin
  refine dotless _ member ?_
  simp [ClassValue.identity]

/-- A class that is said to be described by its fields has fields. -/
theorem Source.Module.FieldsTold.hasFields {module : Module} {occasion : Occasion}
    {reference : ClassRef} (told : module.FieldsTold occasion reference true) :
    module.HasFields occasion reference := by
  obtain ⟨before, after, usual, done⟩ := told
  unfold isComposite at done
  split_ifs at done with record framework
  · exact .inl record
  · cases done
  · obtain ⟨hints, _, found, rest⟩ := run_bind_eq_ok.mp done
    obtain ⟨given, _⟩ := EStateM.Result.ok.inj rest
    refine .inr ⟨Bool.eq_false_iff.mpr framework, hints, ⟨_, _, usual, found⟩, ?_⟩
    rintro rfl
    cases given

/-- An elementary annotation is applied to nothing. -/
theorem Elementary.arguments_eq {value : Value} {identity : String}
    (elementary : Elementary value identity) {origin : Option ClassRef} {arguments : List Value}
    (form : value.construction? = some (origin, arguments)) : origin = none ∧ arguments = [] := by
  cases elementary with
  | nothing | parameter => cases form
  | shared | enumeration =>
    change (if _ then some (none, []) else none) = _ at form
    split_ifs at form
    obtain ⟨rfl, rfl⟩ := Prod.mk.inj (Option.some.inj form)
    exact ⟨rfl, rfl⟩

namespace Stub

/-! ## Covered entries -/

section

variable {module : Module} {occasion : Occasion} {catalog : Catalog} {closure : Closure}
variable {serviceName : String} {seeds : List TypeRef}
variable (accounts : module.Accounts occasion catalog)
  (resolved : (startingRegistry serviceName).resolve catalog.graph seeds = .ok closure)

include accounts resolved

/-- A covered atom is a parameter, built in, or declared. -/
theorem covered_atom {identity : String} {index : Nat}
    (entry : catalog.find? identity = some (.atom index))
    (covered : closure.registry.Covers catalog.graph (.atom index)) :
    (catalog.graph.atom index).kind = .parameter ∨ Registry.typescript.isBuiltin identity ∨
      index ∈ closure.types := by
  have known := (closure.registry.isKnown_atom catalog.graph).mp
    ((closure.registry.covers_atom catalog.graph).mp covered)
  refine known.imp_right fun contained => ?_
  have same : (catalog.graph.atom index).identity = identity := accounts.identity_eq entry
  rw [(resolve_named resolved).contains_iff, same] at contained
  refine contained.imp_right fun listed => ?_
  obtain ⟨place, member, named⟩ := List.mem_map.mp listed
  have standing := accounts.atoms (Catalog.atomAt?_of_lt (lt_size_of_emitted resolved member))
  rw [named, entry] at standing
  obtain rfl := TypeRef.atom.inj (Option.some.inj standing)
  exact member

/-- A covered entry of an annotation of which nothing but a name is known belongs to something
else. -/
theorem mistaken_of_named {value : Value} {name : String} {type : TypeRef}
    (named : module.NamedOnly occasion value name) (entry : catalog.find? name = some type)
    (covered : closure.registry.Covers catalog.graph type) :
    module.Mistaken occasion catalog value := by
  by_cases primitive : catalog.graph.kind type = AtomKind.primitive.kind
  · obtain ⟨index, rfl⟩ := Registry.eq_atom_of_kind primitive
    have kind : (catalog.graph.atom index).kind = .primitive := by
      change (catalog.graph.atom index).kind.kind = AtomKind.primitive.kind at primitive
      cases shape : (catalog.graph.atom index).kind <;> simp [shape, AtomKind.kind] at primitive ⊢
    rcases covered_atom accounts resolved entry covered with parameter | builtin | member
    · cases kind.symm.trans parameter
    · exact .builtin named builtin
    · exact absurd kind (not_primitive_of_emitted resolved member)
  · exact .named named entry primitive

/-- A covered entry of a class that is not mistaken was made for the class: it is an enumeration, or
a composite that is declared. -/
theorem made_of_class {reference : ClassRef} {type : TypeRef}
    (entry : catalog.find? (ClassValue.user reference).identity = some type)
    (covered : closure.registry.Covers catalog.graph type)
    (clear : ¬ module.MistakenClass occasion catalog reference) :
    ∃ index, type = .atom index ∧
      ((catalog.graph.atom index).kind = .enumeration ∧ module.IsEnumeration (.user reference) ∨
        (catalog.graph.atom index).kind = .composite ∧ index ∈ closure.types ∧
          module.EnteredFor reference (catalog.graph.atom index) ∧
          module.FieldsTold occasion reference true) := by
  cases type with
  | apply identity name base arguments => exact absurd (.foreign entry (.inr rfl)) clear
  | atom index =>
    refine ⟨index, rfl, ?_⟩
    obtain ⟨sketch, shown, _⟩ := accounts.entries entry
    obtain ⟨atom, standing, _⟩ := Catalog.sketch?_atom.mp shown
    obtain rfl := Catalog.graph_atom standing
    have same : (catalog.graph.atom index).identity = (ClassValue.user reference).identity :=
      accounts.identity_eq entry
    have placed := covered_atom accounts resolved entry covered
    rw [isBuiltin_identity] at placed
    have owned {owner : ClassValue} (involved : occasion.involved (.classValue owner))
        (made : module.MadeFor occasion (catalog.graph.atom index) owner) :
        owner = .user reference := by
      by_contra other
      exact clear (.homonym entry involved made (made.identity_eq.symm.trans same) other)
    cases kind : (catalog.graph.atom index).kind with
    | parameter =>
      refine absurd (.foreign entry (.inl ?_)) clear
      rw [TypeGraph.kind, kind]
      rfl
    | primitive =>
      rcases placed with parameter | builtin | member
      · cases kind.symm.trans parameter
      · cases builtin
      · exact absurd kind (not_primitive_of_emitted resolved member)
    | composite =>
      obtain ⟨owner, involved, made⟩ := (accounts.made standing).declarable (.inl kind)
      obtain rfl := owned involved made
      cases made with
      | composite entered told =>
        rcases placed with parameter | builtin | member
        · cases kind.symm.trans parameter
        · cases builtin
        · exact .inr ⟨rfl, member, entered, told⟩
      | enumeration _ other _ => cases kind.symm.trans other
    | enumeration =>
      obtain ⟨owner, involved, made⟩ := (accounts.made standing).declarable (.inr kind)
      obtain rfl := owned involved made
      cases made with
      | composite entered _ => cases kind.symm.trans (compositeAtom_ok entered).1
      | enumeration isEnumeration _ _ => exact .inl ⟨rfl, isEnumeration⟩

/-- What follows of a covered annotation that is not mistaken: it is supported, its arguments are
covered as well, and so is the entry of the class that it leads to. -/
structure Passes (module : Module) (occasion : Occasion) (catalog : Catalog) (closure : Closure)
    (declared : ClassRef → Prop) (value : Value) : Prop where
  supported : module.Supported occasion declared value
  arguments : ∀ {origin : Option ClassRef} {arguments : List Value},
    value.construction? = some (origin, arguments) → ∀ part ∈ arguments,
      ∃ type, module.Recorded occasion catalog part type ∧
        closure.registry.Covers catalog.graph type
  classes : ∀ {reference : ClassRef}, module.LeadsTo occasion value reference →
    ∃ type, catalog.find? (ClassValue.user reference).identity = some type ∧
      closure.registry.Covers catalog.graph type

/-- A recorded annotation that is covered and not mistaken passes, when composites are declared. -/
theorem passes_of_covered {declared : ClassRef → Prop}
    (declares : ∀ {reference : ClassRef} {index : Nat},
      ¬ module.MistakenClass occasion catalog reference →
      catalog.find? (ClassValue.user reference).identity = some (.atom index) →
      (catalog.graph.atom index).kind = .composite → index ∈ closure.types →
      module.EnteredFor reference (catalog.graph.atom index) → declared reference)
    {value : Value} {type : TypeRef} (recorded : module.Recorded occasion catalog value type)
    (covered : closure.registry.Covers catalog.graph type)
    (clear : ¬ module.Mistaken occasion catalog value) :
    Passes module occasion catalog closure declared value := by
  cases recorded with
  | elementary elementary entry =>
    refine ⟨.elementary elementary, fun form => ?_, fun leads => ?_⟩
    · obtain ⟨_, rfl⟩ := elementary.arguments_eq form
      exact List.forall_mem_nil _
    · cases leads with
      | itself => cases elementary
      | application constructs =>
        cases constructs with
        | form form _ => cases (elementary.arguments_eq form).1
  | named named entry =>
    exact absurd (mistaken_of_named accounts resolved named entry covered) clear
  | @ofClass reference type entry plain =>
    have unmistaken : ¬ module.MistakenClass occasion catalog reference :=
      fun mistaken => clear (.ofClass .itself mistaken)
    refine ⟨?_, nofun, fun leads => ?_⟩
    · obtain ⟨index, rfl, ⟨_, enumeration⟩ | ⟨composite, member, entered, told⟩⟩ :=
        made_of_class accounts resolved entry covered unmistaken
      · exact .enumeration enumeration
      · refine .composite told.hasFields (declares unmistaken entry composite member entered) ?_
        rw [entered.parameters]
        exact congrArg Except.ok plain
    · cases leads with
      | itself => exact ⟨type, entry, covered⟩
      | application constructs =>
        cases constructs with
        | form form _ => cases form
  | @construction value origin arguments base type types constructs based parts entry =>
    have own : type.base? = some base ∧ type.arguments = types :=
      of_not_not fun other => clear (.construction constructs based parts entry other)
    cases type with
    | atom index => cases own.1
    | apply identity name base arguments =>
      obtain ⟨rfl, rfl⟩ : base = _ ∧ arguments = types := ⟨Option.some.inj own.1, own.2⟩
      obtain ⟨argument, rfl⟩ := covered.one_argument
      obtain ⟨baseCovered, argumentCovered⟩ :=
        (closure.registry.covers_apply catalog.graph).mp covered
      cases parts with
      | @cons part _ _ _ here nothing =>
        cases nothing
        cases constructs with
        | form form fields =>
          refine ⟨?_, fun also => ?_, fun leads => ?_⟩
          · cases origin with
            | none => exact .list form
            | some reference =>
              have told := fields reference rfl
              have unmistaken : ¬ module.MistakenClass occasion catalog reference := fun mistaken =>
                clear (.ofClass (.application (.form form fields)) mistaken)
              refine .application form told.hasFields ?_
              obtain ⟨index, rfl, ⟨_, enumeration⟩ | ⟨composite, member, entered, _⟩⟩ :=
                made_of_class accounts resolved based baseCovered unmistaken
              · exact .inr enumeration
              · exact .inl (declares unmistaken based composite member entered)
          · obtain ⟨_, rfl⟩ := Prod.mk.inj (Option.some.inj (form.symm.trans also))
            exact List.forall_mem_singleton.mpr ⟨argument, here, argumentCovered⟩
          · cases leads with
            | itself => cases form
            | application constructs =>
              cases constructs with
              | form also _ =>
                obtain ⟨rfl, _⟩ := Prod.mk.inj (Option.some.inj (form.symm.trans also))
                exact ⟨_, based, baseCovered⟩

end

end Stub

end ServiceStubs
