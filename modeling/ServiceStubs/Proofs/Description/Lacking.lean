import ServiceStubs.Proofs.Description.Accounts
import ServiceStubs.Proofs.Description.Wholeness

/-!
# Classes without an entry

Nothing that a request enters is taken back, whether the request succeeds or fails, and only a class
with fields enters a composite. A catalog lacks no more classes of a module than an earlier one, and
less when one of them was entered since. Only these have fields, as a class that a call makes has no
place in the module and says nothing of itself.
-/

namespace ServiceStubs

open Source (ClassRef ClassValue Failure Value Module)

/-! ## Entries and composites of a catalog -/

namespace Catalog

variable {earlier later : Catalog}

/-- What has an entry has one in every continuation. -/
theorem Continues.isSome_find? (continues : later.Continues earlier) {identity : String}
    (entered : (earlier.find? identity).isSome) : (later.find? identity).isSome := by
  obtain ⟨type, entry⟩ := Option.isSome_iff_exists.mp entered
  exact Option.isSome_of_eq_some (continues.entries entry)

/-- What was entered has an entry. -/
theorem isSome_find?_push (catalog : Catalog) (atom : Atom) :
    ((catalog.push atom).find? atom.identity).isSome :=
  Option.isSome_of_eq_some (catalog.find?_push_self atom)

/-- The identities of the composites in the table of a catalog, in order. -/
def composites (catalog : Catalog) : List String :=
  (catalog.graph.atoms.toList.filter fun atom => atom.kind = .composite).map (·.identity)

/-- A new atom is the last composite, if it is one. -/
theorem composites_push (catalog : Catalog) (atom : Atom) :
    (catalog.push atom).composites =
      catalog.composites ++ if atom.kind = .composite then [atom.identity] else [] := by
  have table : (catalog.push atom).graph.atoms = catalog.graph.atoms.push atom := rfl
  rw [composites, table, Array.toList_push, List.filter_append, List.map_append, ← composites]
  split_ifs with composite <;> simp [composite]

/-- A field of a type changes no composite. -/
theorem composites_appendField (catalog : Catalog) (type : TypeRef) (field : Field) :
    (catalog.appendField type field).composites = catalog.composites := by
  have modified : ∀ (atoms : List Atom) (index : Nat),
      ((atoms.modify index fun atom => { atom with fields := atom.fields ++ [field] }).filter
        fun atom => atom.kind = .composite).map (·.identity) =
      (atoms.filter fun atom => atom.kind = .composite).map (·.identity) := by
    intro atoms
    induction atoms with
    | nil => intro index; simp
    | cons atom rest ih =>
      intro index
      cases index with
      | zero => by_cases composite : atom.kind = .composite <;> simp [composite]
      | succ index => by_cases composite : atom.kind = .composite <;> simp [composite, ih index]
  cases type with
  | atom index =>
    rw [composites, appendField, TypeGraph.modify, Array.toList_modify, modified, ← composites]
  | apply => rfl

/-- Whether a catalog continues an earlier one without a new composite. -/
structure ContinuesPlainly (later earlier : Catalog) : Prop where
  continues : later.Continues earlier
  composites : later.composites = earlier.composites

namespace ContinuesPlainly

/-- A catalog continues itself. -/
theorem refl (catalog : Catalog) : catalog.ContinuesPlainly catalog := ⟨.refl _, rfl⟩

/-- What continues a continuation continues the beginning. -/
theorem trans {last : Catalog} (second : last.ContinuesPlainly later)
    (first : later.ContinuesPlainly earlier) : last.ContinuesPlainly earlier :=
  ⟨second.continues.trans first.continues, second.composites.trans first.composites⟩

end ContinuesPlainly

end Catalog

/-! ## Requests that enter no composite -/

namespace Describing

variable {α β : Type} {request : Describing α} {before between : Knowledge}

/-- What is known after a sequence whose first request succeeds. -/
theorem knowledgeAfter_bind_of_ok {next : α → Describing β} {value : α}
    (done : request before = .ok value between) :
    (request >>= next).knowledgeAfter before = (next value).knowledgeAfter between := by
  rw [knowledgeAfter, run_bind_of_ok done, knowledgeAfter]

/-- What is known after a sequence whose first request fails. -/
theorem knowledgeAfter_bind_of_error {next : α → Describing β} {failure : Failure}
    (failed : request before = .error failure between) :
    (request >>= next).knowledgeAfter before = request.knowledgeAfter before := by
  rw [knowledgeAfter, run_bind_eq_error.mpr (.inl failed), knowledgeAfter, failed]

/-- Whether a request takes nothing back and enters no composite. -/
def Plain (request : Describing α) (before : Knowledge) : Prop :=
  (request.knowledgeAfter before).catalog.ContinuesPlainly before.catalog

namespace Plain

/-- A request that only reads a catalog. -/
theorem of_reads (reads : request.Reads) : Plain request before := by
  rw [Plain, reads before]
  exact .refl _

/-- Requests in sequence. -/
theorem bind {next : α → Describing β} (first : Plain request before)
    (rest : ∀ value between, Plain (next value) between) : Plain (request >>= next) before := by
  cases outcome : request before with
  | ok value between =>
    rw [Plain, knowledgeAfter, outcome] at first
    rw [Plain, knowledgeAfter_bind_of_ok outcome]
    exact (rest value between).trans first
  | error failure between =>
    rw [Plain, knowledgeAfter_bind_of_error outcome]
    exact first

/-- A request without its result. -/
theorem discard (plain : Plain request before) : Plain (discard request) before := by
  rw [discard_eq]
  exact plain.bind fun _ _ => of_reads (.pure ())

/-- An atom is kept. -/
theorem keepAtom (atom : Atom) (plain : atom.kind ≠ .composite) :
    Plain (keepAtom atom) before := by
  change (before.catalog.keepAtom atom).2.ContinuesPlainly before.catalog
  cases found : before.catalog.find? atom.identity with
  | some type =>
    rw [Catalog.keepAtom_of_known found]
    exact .refl _
  | none =>
    rw [Catalog.keepAtom_of_unknown found]
    exact ⟨.push found, by rw [Catalog.composites_push, if_neg plain, List.append_nil]⟩

/-- A name is kept. -/
theorem keepPrimitive {identity name : String} :
    Plain (.keepAtom (.primitive identity name)) before := keepAtom _ nofun

/-- A construction is kept. -/
theorem keepGeneric (base : TypeRef) (arguments : List TypeRef) :
    Plain (keepGeneric base arguments) before := by
  change (before.catalog.keepGeneric base arguments).2.ContinuesPlainly before.catalog
  cases found : before.catalog.find? (before.catalog.graph.composedIdentity base arguments) with
  | some type =>
    rw [Catalog.keepGeneric_of_known found]
    exact .refl _
  | none =>
    rw [Catalog.keepGeneric_of_unknown found]
    exact ⟨.enter found, rfl⟩

/-- A list is kept. -/
theorem keepList (arguments : List TypeRef) : Plain (keepList arguments) before :=
  keepPrimitive.bind fun _ _ => keepGeneric _ _

/-- A displayed form is kept. -/
theorem keepDisplayed (value : Value) : Plain (ServiceStubs.keepDisplayed value) before :=
  (of_reads (.ofHost _)).bind fun _ _ => keepPrimitive

/-- A plain value is described. -/
theorem describeDatum (datum : Datum) : Plain (ServiceStubs.describeDatum datum) before := by
  cases datum with
  | missing => exact keepPrimitive
  | _ => exact keepDisplayed _

/-- A field is appended. -/
theorem appendField (type : TypeRef) (field : Field) :
    Plain (.ofCatalog fun catalog => ((), catalog.appendField type field)) before := by
  refine ⟨?_, Catalog.composites_appendField before.catalog type field⟩
  cases type with
  | atom index => exact .appendFields _ index [field]
  | apply => exact .refl _

/-- A request for each of some values. -/
theorem forM {values : List α} {request : α → Describing Unit}
    (each : ∀ value between, Plain (request value) between) :
    Plain (values.forM request) before := by
  induction values generalizing before with
  | nil => exact of_reads (.pure ())
  | cons value rest ih => exact (each value before).bind fun _ _ => ih

/-- A class of the standard library is described. -/
theorem describeBareClass {describeClass : ClassRef → Describing TypeRef}
    (value : Source.StandardClass) :
    Plain (ServiceStubs.describeBareClass describeClass (.standard value)) before := by
  unfold ServiceStubs.describeBareClass
  dsimp only
  split
  · exact keepPrimitive
  · split_ifs
    · exact keepList _
    · exact keepAtom _ nofun
    · exact keepPrimitive

end Plain

end Describing

/-! ## Classes without an entry -/

/-- The identities of some classes. -/
def identities (references : List ClassRef) : List String :=
  references.map fun reference => (ClassValue.user reference).identity

/-- The identities of classes before others and of those. -/
theorem identities_append (first second : List ClassRef) :
    identities (first ++ second) = identities first ++ identities second := List.map_append

namespace Source.Module

variable (module : Module)

/-- The identities of the classes of a module that a catalog has no entry for. -/
def lacking (catalog : Catalog) : List String :=
  (identities (module.classes.toList.map (·.reference))).filter
    fun identity => (catalog.find? identity).isNone

/-- Whether a class is described by its fields at some time. -/
def SeemsComposite (reference : ClassRef) : Prop :=
  ∃ before after, module.isComposite (.user reference) before = .ok true after

/-- Whether a class, if it has fields, goes by the identity of one that a module declares. -/
def Houses (reference : ClassRef) : Prop :=
  module.SeemsComposite reference →
    (ClassValue.user reference).identity ∈ identities (module.classes.toList.map (·.reference))

variable {module} {earlier later : Catalog} {identity : String} {reference : ClassRef}

/-- A later catalog lacks what an earlier one lacks, without what was entered since. -/
theorem lacking_eq_filter (continues : later.Continues earlier) :
    module.lacking later =
      (module.lacking earlier).filter fun identity => (later.find? identity).isNone := by
  rw [lacking, lacking, List.filter_filter]
  refine List.filter_congr fun identity _ => ?_
  cases found : earlier.find? identity with
  | none => simp
  | some type => simp [continues.entries found]

/-- A later catalog lacks nothing new. -/
theorem lacking_subset (continues : later.Continues earlier) :
    module.lacking later ⊆ module.lacking earlier := by
  rw [lacking_eq_filter continues]
  exact List.filter_subset_self _

/-- A later catalog lacks no more. -/
theorem length_lacking_le (continues : later.Continues earlier) {room : Nat}
    (within : (module.lacking earlier).length ≤ room) : (module.lacking later).length ≤ room := by
  rw [lacking_eq_filter continues]
  exact Nat.le_trans (List.length_filter_le _ _) within

/-- A later catalog lacks less when a class was entered. -/
theorem length_lacking_lt (continues : later.Continues earlier)
    (lacked : identity ∈ module.lacking earlier) (entered : (later.find? identity).isSome) :
    (module.lacking later).length < (module.lacking earlier).length := by
  rw [lacking_eq_filter continues]
  refine List.length_filter_lt_length_iff_exists.mpr ⟨identity, lacked, ?_⟩
  simpa [Option.isSome_iff_ne_none] using entered

/-- A catalog lacks no more classes than the module has. -/
theorem length_lacking_le_size (catalog : Catalog) :
    (module.lacking catalog).length ≤ module.classes.size := by
  have filtered := List.length_filter_le (fun identity => (catalog.find? identity).isNone)
    (identities (module.classes.toList.map (·.reference)))
  rwa [identities, List.length_map, List.length_map, Array.length_toList] at filtered

/-- A class that has fields and no entry is among those that are lacking. -/
theorem mem_lacking (housed : module.Houses reference) (told : module.SeemsComposite reference)
    (unknown : earlier.find? (ClassValue.user reference).identity = none) :
    (ClassValue.user reference).identity ∈ module.lacking earlier :=
  List.mem_filter.mpr ⟨housed told, by rw [unknown]; rfl⟩

/-- What is lacking has no entry. -/
theorem find?_of_mem_lacking (lacked : identity ∈ module.lacking earlier) :
    earlier.find? identity = none :=
  Option.isNone_iff_eq_none.mp (List.mem_filter.mp lacked).2

/-! ## Classes that a call makes -/

/-- What every class has as a class does not include the fields of a record. -/
theorem hasOwn_type_fieldsName : StandardClass.hasOwn .type fieldsName = false := by
  have names : StandardClass.ownNames .type = Text.pieces ' ' (_ ++ _ ++ _ ++ _ ++ _) := rfl
  -- The kernel is slow on literals, so the names are looked for among characters.
  rw [StandardClass.hasOwn, names, Text.pieces]
  simp only [String.toList_append]
  repeat rw [String.toList_ofList]
  decide +kernel

/-- A class without a place in the module is as a class that says nothing of itself. -/
theorem classAt_of_unplaced (unplaced : module.classes.size ≤ reference.index) :
    module.classAt reference.index = default := by
  rw [classAt, Array.getD_eq_getD_getElem?, Array.getElem?_eq_none unplaced]
  rfl

/-- A class without a place in the module is not a record. -/
theorem isRecord_of_unplaced (unplaced : module.classes.size ≤ reference.index)
    (plain : reference.metaclass = .plain) : module.isRecord (.user reference) = false := by
  have metaclass : (ClassValue.user reference).metaclass = .plain := plain
  have bound : module.boundAttribute? (.user reference) fieldsName = none := by
    rw [boundAttribute?, orderOf, classAt_of_unplaced unplaced]
    rfl
  have missing : module.classAttribute (.user reference) fieldsName =
      .error (.missingAttribute (ClassValue.user reference).fullName fieldsName) := by
    have hosted : ofType? (.user reference) fieldsName = none := by
      rw [ofType?, hasOwn_type_fieldsName, if_neg Bool.false_ne_true]
    have typed : module.typeAttribute? (.user reference) fieldsName = none := rfl
    have other : fieldsName ≠ abstractNamesAttribute := by decide
    rw [classAttribute, typed, bound, hosted, metaclass]
    simp [other]
  simp [isRecord, missing, metaclass, Except.toOption]

/-- A class without a place in the module has no hints. -/
theorem eq_nil_of_unplaced {hints : List (String × Value)}
    (unplaced : module.classes.size ≤ reference.index) (told : module.HintsOf reference hints) :
    hints = [] := by
  obtain ⟨before, after, found⟩ := told
  obtain ⟨all, between, asked, kept⟩ := run_bind_eq_ok.mp found
  obtain ⟨rfl, _⟩ := EStateM.Result.ok.inj kept
  have evaluated := Describing.ofEvaluating_ok asked
  rw [classHints, orderOf, classAt_of_unplaced unplaced] at evaluated
  obtain ⟨silent, _, _, rest⟩ := run_bind_eq_ok.mp evaluated
  split_ifs at rest
  · cases rest
    rfl
  · cases rest
    rfl

/-- A class without a place in the module has no fields, so it need not be declared. -/
theorem houses_of_unplaced (unplaced : module.classes.size ≤ reference.index)
    (plain : reference.metaclass = .plain) : module.Houses reference := by
  rintro ⟨before, after, composite⟩
  rw [isComposite, if_neg (by simp [isRecord_of_unplaced unplaced plain])] at composite
  split_ifs at composite
  · cases composite
  · obtain ⟨hints, between, told, nonempty⟩ := run_bind_eq_ok.mp composite
    rw [eq_nil_of_unplaced unplaced ⟨_, _, told⟩] at nonempty
    cases nonempty

end Source.Module

end ServiceStubs
