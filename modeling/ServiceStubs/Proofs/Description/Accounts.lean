import ServiceStubs.Proofs.Description.Recorded
import ServiceStubs.Proofs.Description.Soundness

/-!
# Catalogs that are accounted for

Whatever is entered, a catalog stays accounted for as long as a new atom has an identity that is not
known yet, what can be declared was made for a class, and constructions are over entries. Entries
are never taken back, so what is composed from them keeps its identity in every continuation.
-/

namespace ServiceStubs

open Source Describing

namespace Catalog

/-- How a catalog continues an earlier one: every type stands where it stood with at least its
fields, and every entry is as it was. -/
structure Continues (later earlier : Catalog) : Prop where
  extension : later.Extends earlier
  entries : ∀ {identity : String} {type : TypeRef}, earlier.find? identity = some type →
    later.find? identity = some type

/-- Whether a type is an entry of a catalog. -/
def Holds (catalog : Catalog) (type : TypeRef) : Prop :=
  ∃ identity, catalog.find? identity = some type

namespace Continues

variable {first second third : Catalog}

/-- What leaves everything as it was takes nothing back. -/
theorem of_keeps (keeps : first.Keeps second) : second.Continues first :=
  ⟨keeps.grown.extension, keeps.entries⟩

/-- A catalog continues itself. -/
theorem refl (catalog : Catalog) : catalog.Continues catalog := of_keeps (.refl catalog)

/-- What continues a continuation continues the beginning. -/
theorem trans (later : third.Continues second) (earlier : second.Continues first) :
    third.Continues first where
  extension := later.extension.trans earlier.extension
  entries found := later.entries (earlier.entries found)

/-- Appended fields take nothing back. -/
theorem appendFields (catalog : Catalog) (index : Nat) (fields : List Field) :
    (catalog.appendFields index fields).Continues catalog where
  extension := catalog.extends_appendFields index fields
  entries found := (catalog.find?_appendFields index fields _).trans found

/-- A new atom takes nothing back. -/
theorem push {catalog : Catalog} {atom : Atom} (unknown : catalog.find? atom.identity = none) :
    (catalog.push atom).Continues catalog :=
  of_keeps (.push unknown)

/-- A new entry takes nothing back. -/
theorem enter {catalog : Catalog} {type : TypeRef}
    (unknown : catalog.find? (catalog.graph.identity type) = none) :
    (catalog.enter type).Continues catalog :=
  of_keeps (.enter unknown)

end Continues

end Catalog

namespace Source.Module

variable {module : Module} {occasion : Occasion} {catalog later : Catalog}

/-! ## Entries -/

/-- What was made for a class has its identity. -/
theorem MadeFor.identity_eq {atom : Atom} {owner : ClassValue}
    (made : module.MadeFor occasion atom owner) : atom.identity = owner.identity := by
  cases made with
  | composite entered _ => exact (compositeAtom_ok entered).2.2
  | enumeration _ _ identity => exact identity

/-- What an annotation is recorded as is an entry. -/
theorem Recorded.holds {value : Value} {type : TypeRef}
    (recorded : module.Recorded occasion catalog value type) : catalog.Holds type := by
  cases recorded with
  | elementary _ entry | named _ entry | ofClass entry _ | construction _ _ _ entry =>
    exact ⟨_, entry⟩

/-- A class is recorded by a type without type parameters. -/
theorem Recorded.typeParameters_eq_nil {reference : ClassRef} {type : TypeRef}
    (recorded : module.Recorded occasion catalog (.user reference) type) :
    catalog.graph.typeParameters type = [] := by
  cases recorded with
  | elementary elementary => cases elementary
  | named named => exact absurd named not_namedOnly_class
  | ofClass _ plain => exact plain
  | construction constructs => exact absurd constructs not_constructs_class

/-- What annotations are recorded as are entries. -/
theorem holds_of_recorded {values : List Value} {types : List TypeRef}
    (recorded : List.Forall₂ (module.Recorded occasion catalog) values types) {type : TypeRef}
    (member : type ∈ types) : catalog.Holds type := by
  obtain ⟨_, _, here⟩ := exists_of_forall₂ recorded.flip member
  exact here.holds

namespace Accounts

variable {identity : String} {type base : TypeRef} {types : List TypeRef}

/-- An empty catalog is accounted for. -/
theorem empty : module.Accounts occasion {} where
  entries found := by cases found
  atoms entered := by cases entered
  made entered := by cases entered
  fields entered := by cases entered
  constructions found := by cases found

variable (accounts : module.Accounts occasion catalog)

include accounts

/-- An entry has the identity by which it is found. -/
theorem identity_eq (entry : catalog.find? identity = some type) :
    catalog.graph.identity type = identity := by
  obtain ⟨sketch, shown, named⟩ := accounts.entries entry
  exact (Catalog.identity_of_sketch? shown).trans named

/-- An entry is found by its identity. -/
theorem find?_identity (held : catalog.Holds type) :
    catalog.find? (catalog.graph.identity type) = some type := by
  obtain ⟨identity, entry⟩ := held
  rw [accounts.identity_eq entry, entry]

/-- An entry keeps its sketch. -/
theorem exists_sketch? (held : catalog.Holds type) (continues : later.Continues catalog) :
    ∃ sketch, catalog.sketch? type = some sketch ∧ later.sketch? type = some sketch := by
  obtain ⟨identity, entry⟩ := held
  obtain ⟨sketch, shown, _⟩ := accounts.entries entry
  exact ⟨sketch, shown, Catalog.sketch?_extend continues.extension type shown⟩

/-- The type parameters of an entry do not change. -/
theorem typeParameters_eq (held : catalog.Holds type) (continues : later.Continues catalog) :
    later.graph.typeParameters type = catalog.graph.typeParameters type := by
  obtain ⟨sketch, shown, kept⟩ := accounts.exists_sketch? held continues
  rw [Catalog.typeParameters_of_sketch? kept, Catalog.typeParameters_of_sketch? shown]

/-- A construction over entries does not change. -/
theorem generic_eq (continues : later.Continues catalog) (baseHeld : catalog.Holds base)
    (typesHeld : ∀ type ∈ types, catalog.Holds type) :
    later.graph.generic base types = catalog.graph.generic base types := by
  have same : ∀ {type : TypeRef}, catalog.Holds type →
      later.graph.identity type = catalog.graph.identity type := by
    intro type held
    obtain ⟨sketch, shown, kept⟩ := accounts.exists_sketch? held continues
    rw [Catalog.identity_of_sketch? kept, Catalog.identity_of_sketch? shown]
  obtain ⟨sketch, shown, kept⟩ := accounts.exists_sketch? baseHeld continues
  rw [TypeGraph.generic, TypeGraph.generic, TypeGraph.composedIdentity, TypeGraph.composedIdentity,
    same baseHeld, List.map_congr_left fun type member => same (typesHeld type member),
    Catalog.name_of_sketch? kept, Catalog.name_of_sketch? shown]

/-- The identity that is composed from entries does not change. -/
theorem composedIdentity_eq (continues : later.Continues catalog) (baseHeld : catalog.Holds base)
    (typesHeld : ∀ type ∈ types, catalog.Holds type) :
    later.graph.composedIdentity base types = catalog.graph.composedIdentity base types :=
  (TypeRef.apply.inj (accounts.generic_eq continues baseHeld typesHeld)).1

/-- A construction over entries has a sketch. -/
theorem sketch?_generic (baseHeld : catalog.Holds base)
    (typesHeld : ∀ type ∈ types, catalog.Holds type) :
    ∃ sketch, catalog.sketch? (catalog.graph.generic base types) = some sketch := by
  obtain ⟨_, baseEntry⟩ := baseHeld
  obtain ⟨first, baseShown, _⟩ := accounts.entries baseEntry
  have arguments : ∃ rest, catalog.sketches? types = some rest := by
    induction types with
    | nil => exact ⟨[], rfl⟩
    | cons type others ih =>
      obtain ⟨later, shown⟩ := ih fun other member =>
        typesHeld other (List.mem_cons_of_mem type member)
      obtain ⟨_, entry⟩ := typesHeld type List.mem_cons_self
      obtain ⟨here, shownHere, _⟩ := accounts.entries entry
      exact ⟨_, Catalog.sketches?_cons.mpr ⟨here, later, shownHere, shown, rfl⟩⟩
  obtain ⟨rest, argumentsShown⟩ := arguments
  exact ⟨_, Catalog.sketch?_generic baseShown argumentsShown⟩

/-- A construction is an entry of an annotation that is recorded by it. -/
theorem recorded_of_apply {key name : String}
    (entry : catalog.find? identity = some (.apply key name base types)) :
    ∃ value origin arguments, occasion.involved value ∧
      module.Constructs occasion value origin arguments ∧
      module.Recorded occasion catalog value (.apply key name base types) := by
  obtain ⟨⟨source, constructs, based, parts⟩, same⟩ := accounts.constructions entry
  have own : identity = catalog.graph.composedIdentity base types :=
    (accounts.identity_eq entry).symm.trans (TypeRef.apply.inj same).1
  exact ⟨_, _, _, source, constructs, .construction constructs based parts (own ▸ entry)⟩

/-- An annotation is identified by the identity of what it is recorded as. -/
theorem identified {value : Value} (recorded : module.Recorded occasion catalog value type) :
    module.Identified occasion value (catalog.graph.identity type) := by
  refine @Recorded.rec module occasion catalog
    (fun value type _ => module.Identified occasion value (catalog.graph.identity type))
    (fun values types _ => List.Forall₂ (module.Identified occasion) values
      (types.map catalog.graph.identity))
    ?elementary ?named ?ofClass ?construction ?nil ?cons value type recorded
  case elementary =>
    intro value identity type elementary entry
    rw [accounts.identity_eq entry]
    exact .elementary elementary
  case named =>
    intro value name type named entry
    rw [accounts.identity_eq entry]
    exact .named named
  case ofClass =>
    intro reference type entry _
    rw [accounts.identity_eq entry]
    exact .ofClass
  case construction =>
    intro value origin arguments base type types constructs based _ entry identified
    rw [accounts.identity_eq entry, TypeGraph.composedIdentity, accounts.identity_eq based]
    exact .construction constructs identified
  case nil => exact .nil
  case cons => exact fun _ _ first rest => .cons first rest

end Accounts

/-! ## Continuations -/

section

variable (accounts : module.Accounts occasion catalog) (continues : later.Continues catalog)

include accounts continues

/-- An annotation stays recorded. -/
theorem Recorded.keep {value : Value} {type : TypeRef}
    (recorded : module.Recorded occasion catalog value type) :
    module.Recorded occasion later value type := by
  -- The parts of a construction are recorded one by one, so they have a motive of their own.
  refine @Recorded.rec module occasion catalog
    (fun value type _ => module.Recorded occasion later value type)
    (fun values types _ => List.Forall₂ (module.Recorded occasion later) values types)
    ?elementary ?named ?ofClass ?construction ?nil ?cons value type recorded
  case elementary => exact fun known entry => .elementary known (continues.entries entry)
  case named => exact fun only entry => .named only (continues.entries entry)
  case ofClass =>
    intro reference type entry plain
    refine .ofClass (continues.entries entry) ?_
    rw [accounts.typeParameters_eq ⟨_, entry⟩ continues, plain]
  case construction =>
    intro value origin arguments base type types constructs based parts entry kept
    refine .construction constructs (continues.entries based) kept ?_
    rw [accounts.composedIdentity_eq continues ⟨_, based⟩ fun _ => holds_of_recorded parts]
    exact continues.entries entry
  case nil => exact .nil
  case cons => exact fun _ _ first rest => .cons first rest

/-- Annotations stay recorded. -/
theorem Recorded.keepAll {values : List Value} {types : List TypeRef}
    (recorded : List.Forall₂ (module.Recorded occasion catalog) values types) :
    List.Forall₂ (module.Recorded occasion later) values types :=
  recorded.imp fun _ _ here => here.keep accounts continues

/-- A type stays one that an annotation is recorded as. -/
theorem Kept.keep {type : TypeRef} (kept : module.Kept occasion catalog type) :
    module.Kept occasion later type := by
  obtain ⟨value, source, recorded⟩ := kept
  exact ⟨value, source, recorded.keep accounts continues⟩

/-- A construction stays one that was made for its annotation. -/
theorem Constructed.keep {base : TypeRef} {types : List TypeRef}
    (constructed : module.Constructed occasion catalog base types) :
    module.Constructed occasion later base types := by
  obtain ⟨source, constructs, based, parts⟩ := constructed
  exact .of source constructs (continues.entries based) (Recorded.keepAll accounts continues parts)

end

/-- What a construction is over are entries. -/
theorem Constructed.holds {base : TypeRef} {types : List TypeRef}
    (constructed : module.Constructed occasion catalog base types) :
    catalog.Holds base ∧ ∀ type ∈ types, catalog.Holds type := by
  obtain ⟨_, _, based, parts⟩ := constructed
  exact ⟨⟨_, based⟩, fun _ => holds_of_recorded parts⟩

/-- The arguments of a construction are what annotations are recorded as. -/
theorem Constructed.kept (closes : module.Closes occasion) {base : TypeRef} {types : List TypeRef}
    (constructed : module.Constructed occasion catalog base types) :
    ∀ type ∈ types, module.Kept occasion catalog type := by
  obtain ⟨source, constructs, _, parts⟩ := constructed
  intro type member
  obtain ⟨argument, among, recorded⟩ := exists_of_forall₂ parts.flip member
  exact ⟨argument, closes.part source (constructs.arguments_subset among), recorded⟩

/-! ## Changes -/

namespace Accounts

variable (accounts : module.Accounts occasion catalog)

include accounts

/-- A construction that is accounted for is so in every continuation. -/
theorem constructions_keep (continues : later.Continues catalog) {identity key name : String}
    {base : TypeRef} {types : List TypeRef}
    (entry : catalog.find? identity = some (.apply key name base types)) :
    module.Constructed occasion later base types ∧
      TypeRef.apply key name base types = later.graph.generic base types := by
  obtain ⟨constructed, same⟩ := accounts.constructions entry
  obtain ⟨baseHeld, typesHeld⟩ := constructed.holds
  exact ⟨constructed.keep accounts continues,
    same.trans (accounts.generic_eq continues baseHeld typesHeld).symm⟩

/-- A new atom without fields is accounted for when it was made for an annotation. -/
theorem push {atom : Atom} (unknown : catalog.find? atom.identity = none)
    (bare : atom.fields = []) (made : module.MadeOn occasion atom) :
    module.Accounts occasion (catalog.push atom) := by
  have continues := Catalog.Continues.push unknown
  have standing := catalog.atomAt?_push atom
  constructor
  case entries =>
    intro identity type entry
    rcases Catalog.eq_or_find?_of_push entry with ⟨rfl, rfl⟩ | earlier
    · exact ⟨.atom atom.bare, Catalog.sketch?_atom.mpr ⟨atom, by rw [standing, if_pos rfl], rfl⟩,
        rfl⟩
    · obtain ⟨sketch, shown, named⟩ := accounts.entries earlier
      exact ⟨sketch, Catalog.sketch?_extend continues.extension type shown, named⟩
  case atoms =>
    intro index other entered
    rw [standing] at entered
    split_ifs at entered with last
    · obtain rfl := Option.some.inj entered
      rw [last]
      exact catalog.find?_push_self _
    · exact continues.entries (accounts.atoms entered)
  case made =>
    intro index other entered
    rw [standing] at entered
    split_ifs at entered
    · exact Option.some.inj entered ▸ made
    · exact accounts.made entered
  case fields =>
    intro index other entered field member
    rw [standing] at entered
    split_ifs at entered
    · rw [← Option.some.inj entered, bare] at member
      cases member
    · exact (accounts.fields entered field member).keep accounts continues
  case constructions =>
    intro identity key name base types entry
    rcases Catalog.eq_or_find?_of_push entry with ⟨_, none⟩ | earlier
    · cases none
    · exact accounts.constructions_keep continues earlier

/-- A construction that was made for an annotation is accounted for. -/
theorem enter {base : TypeRef} {types : List TypeRef}
    (unknown : catalog.find? (catalog.graph.composedIdentity base types) = none)
    (constructed : module.Constructed occasion catalog base types) :
    module.Accounts occasion (catalog.enter (catalog.graph.generic base types)) := by
  have continues : (catalog.enter (catalog.graph.generic base types)).Continues catalog :=
    .enter unknown
  obtain ⟨baseHeld, typesHeld⟩ := constructed.holds
  constructor
  case entries =>
    intro identity type entry
    rcases Catalog.eq_or_find?_of_enter entry with ⟨rfl, rfl⟩ | earlier
    · obtain ⟨sketch, shown⟩ := accounts.sketch?_generic baseHeld typesHeld
      exact ⟨sketch, Catalog.sketch?_extend continues.extension _ shown,
        (Catalog.identity_of_sketch? shown).symm⟩
    · obtain ⟨sketch, shown, named⟩ := accounts.entries earlier
      exact ⟨sketch, Catalog.sketch?_extend continues.extension type shown, named⟩
  case atoms =>
    intro index atom entered
    exact continues.entries (accounts.atoms entered)
  case made => exact accounts.made
  case fields =>
    intro index atom entered field member
    exact (accounts.fields entered field member).keep accounts continues
  case constructions =>
    intro identity key name other parts entry
    rcases Catalog.eq_or_find?_of_enter entry with ⟨_, same⟩ | earlier
    · obtain ⟨_, _, rfl, rfl⟩ := TypeRef.apply.inj same
      exact ⟨constructed.keep accounts continues, same⟩
    · exact accounts.constructions_keep continues earlier

/-- A type may get fields that annotations are recorded as. -/
theorem appendFields (index : Nat) {fields : List Field}
    (kept : ∀ field ∈ fields, module.Kept occasion catalog field.type) :
    module.Accounts occasion (catalog.appendFields index fields) := by
  have continues := Catalog.Continues.appendFields catalog index fields
  have found {identity : String} {type : TypeRef}
      (entry : (catalog.appendFields index fields).find? identity = some type) :
      catalog.find? identity = some type :=
    (catalog.find?_appendFields index fields _).symm.trans entry
  have standing {place : Nat} {atom : Atom}
      (entered : (catalog.appendFields index fields).atomAt? place = some atom) :
      ∃ earlier, catalog.atomAt? place = some earlier ∧ ∃ added ⊆ fields,
        atom = { earlier with fields := earlier.fields ++ added } := by
    rw [Catalog.atomAt?_appendFields] at entered
    split_ifs at entered
    · obtain ⟨earlier, here, rfl⟩ := Option.map_eq_some_iff.mp entered
      exact ⟨earlier, here, fields, List.Subset.refl _, rfl⟩
    · exact ⟨atom, entered, [], List.nil_subset _, by rw [List.append_nil]⟩
  constructor
  case entries =>
    intro identity type entry
    obtain ⟨sketch, shown, named⟩ := accounts.entries (found entry)
    exact ⟨sketch, Catalog.sketch?_extend continues.extension type shown, named⟩
  case atoms =>
    intro place atom entered
    obtain ⟨earlier, here, _, _, rfl⟩ := standing entered
    have entry := accounts.atoms here
    exact continues.entries entry
  case made =>
    intro place atom entered
    obtain ⟨earlier, here, _, _, rfl⟩ := standing entered
    refine ⟨(accounts.made here).parameter, fun kind => ?_⟩
    obtain ⟨owner, involved, made⟩ := (accounts.made here).declarable kind
    refine ⟨owner, involved, ?_⟩
    cases made with
    | composite entered told => exact .composite entered told
    | enumeration isEnumeration kind identity => exact .enumeration isEnumeration kind identity
  case fields =>
    intro place atom entered field member
    obtain ⟨earlier, here, added, among, rfl⟩ := standing entered
    rcases List.mem_append.mp member with old | new
    · exact (accounts.fields here field old).keep accounts continues
    · exact (kept field (among new)).keep accounts continues
  case constructions =>
    intro identity key name base types entry
    exact accounts.constructions_keep continues (found entry)

end Accounts

end Source.Module

end ServiceStubs
