import ServiceStubs.Proofs.Description.Occasions
import ServiceStubs.Proofs.Description.Sketches
import ServiceStubs.Registry

/-!
# Recorded annotations

A catalog records an annotation by the entry that it has under the identity of the annotation. Some
annotations are elementary, others are constructed from parts that are recorded as well, classes
have their qualified names, and of all others nothing but a name is kept. An entry is found by its
identity alone, so an annotation may be mistaken: its name is built in, or its entry was made for
something else.

An annotation is supported when it is elementary, an enumeration, a class with fields that states no
type parameter, or lists or a class with fields applied to exactly one argument.
-/

namespace ServiceStubs

open Source

/-! ## Forms of annotations -/

namespace Source.Value

/-- What an annotation applies to arguments: the list template or a class of a module. -/
def construction? : Value → Option (Option ClassRef × List Value)
  | .classValue (.standard value) => if value.isListLike then some (none, []) else none
  | .bareAlias word => if word.origin.isListLike then some (none, []) else none
  | .builtinOf (.standard origin) arguments | .templateOf (.standard origin) arguments =>
    if origin.isListLike then some (none, arguments) else none
  | .aliasOf word arguments => if word.origin.isListLike then some (none, arguments) else none
  | .builtinOf (.user origin) arguments | .templateOf (.user origin) arguments =>
    some (some origin, arguments)
  | _ => none

/-- Whether an annotation has parts and is known by its displayed form all the same. -/
def isSealed : Value → Bool
  | .builtinOf (.standard origin) _ | .templateOf (.standard origin) _ => !origin.isListLike
  | .aliasOf word _ => !word.origin.isListLike
  | .qualified _ _ | .union _ | .alternatives _ | .literal _ | .callable _ _
  | .annotated _ _ => true
  | _ => false

end Source.Value

/-- Annotations whose types take no look at a module, with their identities: no value, the shared
primitives, type variables and the enumerations of the standard library. -/
inductive Elementary : Value → String → Prop
  | nothing : Elementary .nothing voidIdentity
  | shared {value : StandardClass} {identity : String}
      (shared : sharedIdentity? value = some identity) : Elementary (.standard value) identity
  | parameter {binder : TypeVariable} :
      Elementary (.typeVariable binder) (Atom.parameter binder.name).identity
  | enumeration {value : StandardClass}
      (kind : (ClassValue.standard value).metaclass = .enumeration) :
      Elementary (.standard value) (ClassValue.standard value).identity

/-- The identity of what a construction is over. -/
def originIdentity : Option ClassRef → String
  | none => listIdentity
  | some reference => (ClassValue.user reference).identity

namespace Source.Module

section

variable (module : Module) (occasion : Occasion)

/-- Whether a class is described by its fields: it is a record of any kind, or it belongs to no
framework and is told to have a field. -/
def HasFields (reference : ClassRef) : Prop :=
  module.isRecord (.user reference) ∨
    frameworkModules.contains reference.moduleName = false ∧
      ∃ hints, module.FieldHintsTold occasion reference hints ∧ hints ≠ []

/-- Whether a class is an enumeration. -/
def IsEnumeration : ClassValue → Prop
  | .standard value => (ClassValue.standard value).metaclass = .enumeration
  | .user reference => module.isKindOf (.user reference) .enum

/-- How an annotation is taken for a construction: by its form, or because it equals a list type. -/
inductive Constructs : Value → Option ClassRef → List Value → Prop
  | form {value : Value} {origin : Option ClassRef} {arguments : List Value}
      (form : value.construction? = some (origin, arguments))
      (fields : ∀ reference ∈ origin, module.FieldsTold occasion reference true) :
      Constructs value origin arguments
  | alike {value : Value} (unusual : value.isUnusual)
      (alike : module.LikenessTold occasion value true) : Constructs value none []

/-- The name of an annotation of which nothing else is kept. -/
inductive NamedOnly : Value → String → Prop
  /-- A plain value. -/
  | constant {datum : Datum} {name : String} (given : datum ≠ .missing)
      (shown : (Value.ofDatum datum).displayed = .ok name) : NamedOnly (.constant datum) name
  /-- A class of the standard library that is described by nothing else. -/
  | standard {value : StandardClass} (own : sharedIdentity? value = none)
      (other : value.isListLike = false)
      (kind : (ClassValue.standard value).metaclass ≠ .enumeration) :
      NamedOnly (.standard value) (ClassValue.standard value).identity
  /-- A generic alias without arguments that stands for no list type. -/
  | bareAlias {word : TypingAlias} (other : word.origin.isListLike = false) :
      NamedOnly (.bareAlias word) word.text
  /-- A construction whose parts are lost. -/
  | sealed {value : Value} {name : String} (isSealed : value.isSealed)
      (shown : value.displayed = .ok name) : NamedOnly value name
  /-- An application of a class without fields. -/
  | fieldless {value : Value} {reference : ClassRef} {arguments : List Value} {name : String}
      (form : value.construction? = some (some reference, arguments))
      (fieldless : module.FieldsTold occasion reference false)
      (shown : value.displayed = .ok name) : NamedOnly value name
  /-- A value that equals no list type. -/
  | unusual {value : Value} {name : String} (unusual : value.isUnusual)
      (unlike : module.LikenessTold occasion value false) (shown : value.displayed = .ok name) :
      NamedOnly value name

/-- The identity under which an annotation is described. -/
inductive Identified : Value → String → Prop
  /-- An elementary annotation. -/
  | elementary {value : Value} {identity : String} (elementary : Elementary value identity) :
      Identified value identity
  /-- An annotation of which nothing but a name is kept. -/
  | named {value : Value} {name : String} (named : module.NamedOnly occasion value name) :
      Identified value name
  /-- A class of a module. -/
  | ofClass {reference : ClassRef} :
      Identified (.user reference) (ClassValue.user reference).identity
  /-- A construction has the identity that is composed from those of its parts. -/
  | construction {value : Value} {origin : Option ClassRef} {arguments : List Value}
      {identities : List String} (constructs : module.Constructs occasion value origin arguments)
      (parts : List.Forall₂ Identified arguments identities) :
      Identified value (originIdentity origin ++ "[" ++ Text.joined "," identities ++ "]")

/-- The class that an annotation leads to. -/
inductive LeadsTo : Value → ClassRef → Prop
  /-- A class leads to itself. -/
  | itself {reference : ClassRef} : LeadsTo (.user reference) reference
  /-- An application leads to the class that is applied. -/
  | application {value : Value} {reference : ClassRef} {arguments : List Value}
      (constructs : module.Constructs occasion value (some reference) arguments) :
      LeadsTo value reference

/-- Whether an annotation is supported, when it is known which classes are declared. -/
inductive Supported (declared : ClassRef → Prop) : Value → Prop
  /-- An elementary annotation. -/
  | elementary {value : Value} {identity : String} (elementary : Elementary value identity) :
      Supported declared value
  /-- Lists of one argument. -/
  | list {value argument : Value} (form : value.construction? = some (none, [argument])) :
      Supported declared value
  /-- An enumeration of a module. -/
  | enumeration {reference : ClassRef} (kind : module.IsEnumeration (.user reference)) :
      Supported declared (.user reference)
  /-- A class with fields that states no type parameter. -/
  | composite {reference : ClassRef} (fields : module.HasFields occasion reference)
      (isDeclared : declared reference)
      (plain : module.typeParameterNames (.user reference) = .ok []) :
      Supported declared (.user reference)
  /-- A class with fields that is applied to one argument. -/
  | application {value argument : Value} {reference : ClassRef}
      (form : value.construction? = some (some reference, [argument]))
      (fields : module.HasFields occasion reference)
      (isDescribed : declared reference ∨ module.IsEnumeration (.user reference)) :
      Supported declared value

/-! ## Entries -/

/-- How an annotation is recorded in a catalog. -/
inductive Recorded (catalog : Catalog) : Value → TypeRef → Prop
  /-- An elementary annotation is recorded under its identity. -/
  | elementary {value : Value} {identity : String} {type : TypeRef}
      (elementary : Elementary value identity) (entry : catalog.find? identity = some type) :
      Recorded catalog value type
  /-- A name alone is recorded under the name. -/
  | named {value : Value} {name : String} {type : TypeRef}
      (named : module.NamedOnly occasion value name) (entry : catalog.find? name = some type) :
      Recorded catalog value type
  /-- A class is recorded under its qualified name. -/
  | ofClass {reference : ClassRef} {type : TypeRef}
      (entry : catalog.find? (ClassValue.user reference).identity = some type)
      (plain : catalog.graph.typeParameters type = []) : Recorded catalog (.user reference) type
  /-- A construction is recorded under the identity that is composed from its parts. -/
  | construction {value : Value} {origin : Option ClassRef} {arguments : List Value}
      {base type : TypeRef} {types : List TypeRef}
      (constructs : module.Constructs occasion value origin arguments)
      (based : catalog.find? (originIdentity origin) = some base)
      (parts : List.Forall₂ (Recorded catalog) arguments types)
      (entry : catalog.find? (catalog.graph.composedIdentity base types) = some type) :
      Recorded catalog value type

/-- Whether a type was made for a class, as far as can be seen without its fields. -/
inductive MadeFor (atom : Atom) : ClassValue → Prop
  /-- The composite of a class with fields. -/
  | composite {reference : ClassRef} (entered : module.EnteredFor reference atom)
      (fields : module.FieldsTold occasion reference true) : MadeFor atom (.user reference)
  /-- The enumeration of a class. -/
  | enumeration {owner : ClassValue} (isEnumeration : module.IsEnumeration owner)
      (kind : atom.kind = .enumeration) (identity : atom.identity = owner.identity) :
      MadeFor atom owner

/-- What an atom was made for: a type variable if it is a parameter, and a class if it can be
declared. -/
structure MadeOn (atom : Atom) : Prop where
  parameter : atom.kind = .parameter → ∃ binder, occasion.involved (.typeVariable binder) ∧
    atom.identity = (Atom.parameter binder.name).identity
  declarable : atom.kind = .composite ∨ atom.kind = .enumeration →
    ∃ owner, occasion.involved (.classValue owner) ∧ module.MadeFor occasion atom owner

/-- Whether a type is what an annotation is recorded as. -/
def Kept (catalog : Catalog) (type : TypeRef) : Prop :=
  ∃ value, occasion.involved value ∧ module.Recorded occasion catalog value type

/-- Whether a construction was made for an annotation that constructs it, over the entry of what the
annotation applies and over what its arguments are recorded as. -/
inductive Constructed (catalog : Catalog) (base : TypeRef) (types : List TypeRef) : Prop
  | of {value : Value} {origin : Option ClassRef} {arguments : List Value}
      (source : occasion.involved value)
      (constructs : module.Constructs occasion value origin arguments)
      (based : catalog.find? (originIdentity origin) = some base)
      (parts : List.Forall₂ (module.Recorded occasion catalog) arguments types) :
      Constructed catalog base types

/-- Whether every type of a catalog is accounted for: its entries are found by the identities that
they have, each atom is the entry of its identity, and everything was made for an annotation that is
involved. -/
structure Accounts (catalog : Catalog) : Prop where
  entries : ∀ {identity : String} {type : TypeRef}, catalog.find? identity = some type →
    ∃ sketch, catalog.sketch? type = some sketch ∧ sketch.identity = identity
  atoms : ∀ {index : Nat} {atom : Atom}, catalog.atomAt? index = some atom →
    catalog.find? atom.identity = some (.atom index)
  made : ∀ {index : Nat} {atom : Atom}, catalog.atomAt? index = some atom →
    module.MadeOn occasion atom
  fields : ∀ {index : Nat} {atom : Atom}, catalog.atomAt? index = some atom →
    ∀ field ∈ atom.fields, module.Kept occasion catalog field.type
  constructions : ∀ {identity key name : String} {base : TypeRef} {types : List TypeRef},
    catalog.find? identity = some (.apply key name base types) →
    module.Constructed occasion catalog base types ∧
      TypeRef.apply key name base types = catalog.graph.generic base types

/-- Whether the entry of a class was made for something else. -/
inductive MistakenClass (catalog : Catalog) (reference : ClassRef) : Prop
  /-- The entry was made for another class of the same qualified name. -/
  | homonym {index : Nat} {owner : ClassValue}
      (entry : catalog.find? (ClassValue.user reference).identity = some (.atom index))
      (involved : occasion.involved (.classValue owner))
      (made : module.MadeFor occasion (catalog.graph.atom index) owner)
      (same : owner.identity = (ClassValue.user reference).identity)
      (other : owner ≠ .user reference)
  /-- The entry is a type parameter or a construction. -/
  | foreign {type : TypeRef}
      (entry : catalog.find? (ClassValue.user reference).identity = some type)
      (kind : catalog.graph.kind type = .parameter ∨ catalog.graph.kind type = .generic)

/-- Whether an annotation is mistaken for something else that has its identity. -/
inductive Mistaken (catalog : Catalog) : Value → Prop
  /-- The name is that of a built-in type. -/
  | builtin {value : Value} {name : String} (named : module.NamedOnly occasion value name)
      (builtin : Registry.typescript.isBuiltin name) : Mistaken catalog value
  /-- The entry of the name is more than a name. -/
  | named {value : Value} {name : String} {type : TypeRef}
      (named : module.NamedOnly occasion value name) (entry : catalog.find? name = some type)
      (kind : catalog.graph.kind type ≠ .primitive) : Mistaken catalog value
  /-- The class that the annotation leads to is mistaken. -/
  | ofClass {value : Value} {reference : ClassRef}
      (leads : module.LeadsTo occasion value reference)
      (mistaken : module.MistakenClass occasion catalog reference) : Mistaken catalog value
  /-- The entry of a construction is constructed from other parts. -/
  | construction {value : Value} {origin : Option ClassRef} {arguments : List Value}
      {base type : TypeRef} {types : List TypeRef}
      (constructs : module.Constructs occasion value origin arguments)
      (based : catalog.find? (originIdentity origin) = some base)
      (parts : List.Forall₂ (module.Recorded occasion catalog) arguments types)
      (entry : catalog.find? (catalog.graph.composedIdentity base types) = some type)
      (other : ¬ (type.base? = some base ∧ type.arguments = types)) : Mistaken catalog value

end

variable {module : Module} {occasion : Occasion}

/-! ## Forms and their parts -/

/-- A class alone is no construction. -/
theorem not_constructs_class {reference : ClassRef} {origin : Option ClassRef}
    {arguments : List Value} : ¬ module.Constructs occasion (.user reference) origin arguments := by
  intro constructs
  cases constructs with
  | form form => cases form
  | alike unusual => cases unusual

/-- A class of a module is never known by its name alone. -/
theorem not_namedOnly_class {reference : ClassRef} {name : String} :
    ¬ module.NamedOnly occasion (.user reference) name := by
  intro named
  cases named with
  | sealed isSealed => cases isSealed
  | fieldless form => cases form
  | unusual unusual => cases unusual

/-- What a form applies, and what it is applied to, are parts of it. -/
theorem construction_parts {value : Value} {origin : Option ClassRef} {arguments : List Value}
    (form : value.construction? = some (origin, arguments)) :
    arguments ⊆ value.innerAnnotations ∧
      ∀ reference ∈ origin, Value.user reference ∈ value.innerAnnotations := by
  unfold Value.construction? at form
  split at form
  case h_1 | h_2 =>
    split_ifs at form
    cases form
    exact ⟨List.nil_subset _, fun _ none => by cases none⟩
  case h_3 | h_4 =>
    split_ifs at form
    cases form
    exact ⟨List.subset_cons_self _ arguments, fun _ none => by cases none⟩
  case h_5 =>
    split_ifs at form
    cases form
    exact ⟨List.Subset.refl _, fun _ none => by cases none⟩
  case h_6 | h_7 =>
    cases form
    refine ⟨List.subset_cons_self _ arguments, fun reference same => ?_⟩
    obtain rfl := Option.some.inj same
    exact List.mem_cons_self
  case h_8 => cases form

/-- The arguments of a construction are parts of it. -/
theorem Constructs.arguments_subset {value : Value} {origin : Option ClassRef}
    {arguments : List Value} (constructs : module.Constructs occasion value origin arguments) :
    arguments ⊆ value.innerAnnotations := by
  cases constructs with
  | form form => exact (construction_parts form).1
  | alike => exact List.nil_subset _

/-- The class that an annotation applies is a part of it. -/
theorem Constructs.origin_mem {value : Value} {reference : ClassRef} {arguments : List Value}
    (constructs : module.Constructs occasion value (some reference) arguments) :
    .user reference ∈ value.innerAnnotations := by
  cases constructs with
  | form form => exact (construction_parts form).2 reference rfl

/-- The class that an involved annotation leads to is involved. -/
theorem LeadsTo.involved {value : Value} {reference : ClassRef} (closes : module.Closes occasion)
    (leads : module.LeadsTo occasion value reference) (source : occasion.involved value) :
    occasion.involved (.user reference) := by
  cases leads with
  | itself => exact source
  | application constructs => exact closes.part source constructs.origin_mem

end Source.Module

end ServiceStubs
