import ServiceStubs.Proofs.Description.Requests

/-!
# Whole composites

The requests of a description add whole composites when they succeed and interrupted ones at worst
when they fail. What a hint is described as follows the shape of the hint; how deep classes are
entered within each other is bounded, and the bound carries the induction over classes. While the
fields of a class are described, its composite is the only type that changes.
-/

namespace ServiceStubs

open Source Describing

namespace Source.Module

variable {module : Module}

/-- The hints of a class are found without a look into the catalog. -/
theorem reads_fieldHints (value : ClassValue) : (module.fieldHints value).Reads :=
  .bind (.ofEvaluating _ _) fun _ => .pure _

/-- Whether a class has fields is found without a look into the catalog. -/
theorem reads_isComposite (value : ClassValue) : (module.isComposite value).Reads := by
  unfold isComposite
  split_ifs
  · exact .pure _
  · exact .pure _
  · exact .bind (reads_fieldHints value) fun _ => .pure _

namespace Adds

variable {before : Knowledge}

/-! ## Types without fields -/

/-- A type that is no composite. -/
theorem keepAtom {atom : Atom} (plain : atom.kind ≠ .composite) :
    module.Adds (.keepAtom atom) before where
  ok done := by
    have kept := ofCatalog_ok done
    cases found : before.catalog.find? atom.identity with
    | some type =>
      rw [Catalog.keepAtom_of_known found] at kept
      exact (Prod.mk.inj kept).2 ▸ .refl _
    | none =>
      rw [Catalog.keepAtom_of_unknown found] at kept
      exact (Prod.mk.inj kept).2 ▸ .of_push [] (.refl _) fun composite => absurd composite plain
  error failed := by cases failed

/-- A constructed type. -/
theorem keepGeneric (base : TypeRef) (arguments : List TypeRef) :
    module.Adds (.keepGeneric base arguments) before where
  ok done := by
    have kept := before.catalog.graph_keepGeneric base arguments
    rw [ofCatalog_ok done] at kept
    exact .of_graph kept
  error failed := by cases failed

/-- A type of lists. -/
theorem keepList (arguments : List TypeRef) : module.Adds (.keepList arguments) before :=
  bind (keepAtom nofun) fun _ => keepGeneric _ arguments

/-- A type that is known by its displayed form. -/
theorem keepDisplayed (value : Value) : module.Adds (keepDisplayed value) before :=
  bind (of_reads (.ofExcept _) _) fun _ => keepAtom nofun

/-- A plain value. -/
theorem describeDatum (datum : Datum) : module.Adds (describeDatum datum) before := by
  unfold ServiceStubs.describeDatum
  split
  · exact keepAtom nofun
  · exact keepDisplayed _

/-- A request for each of some values. -/
theorem forM {α : Type} {request : α → Describing PUnit}
    (adds : ∀ value before, module.Adds (request value) before) (values : List α) :
    module.Adds (values.forM request) before := by
  induction values generalizing before with
  | nil => exact of_reads (.pure _) _
  | cons value rest ih => exact bind (adds value _) fun _ => ih

/-! ## Annotations -/

section

variable {describeClass : ClassRef → Describing TypeRef}
  (classes : ∀ reference before, module.Adds (describeClass reference) before)

include classes

/-- A class that is not applied. -/
theorem describeBareClass (value : ClassValue) :
    module.Adds (describeBareClass describeClass value) before := by
  unfold ServiceStubs.describeBareClass
  split
  · split
    · exact keepAtom nofun
    · split_ifs
      · exact keepList []
      · exact keepAtom nofun
      · exact keepAtom nofun
  · refine bind (classes _ _) fun _ => bind (of_reads .catalog _) fun _ => ?_
    dsimp only
    split_ifs
    · exact of_reads (.pure _) _
    · exact of_reads (.throw _) _

/-- A class that is applied. -/
theorem describeApplication (shown : Value) (origin : ClassValue) (arguments : List TypeRef) :
    module.Adds (describeApplication module describeClass shown origin arguments) before := by
  unfold ServiceStubs.describeApplication
  split
  · split_ifs
    · exact keepList arguments
    · exact keepDisplayed shown
  · refine bind (of_reads (reads_isComposite _) _) fun _ => ?_
    split_ifs
    · exact bind (classes _ _) fun _ => keepGeneric _ arguments
    · exact keepDisplayed shown

end

mutual

/-- An annotation adds what its parts add, and what it is kept as. -/
theorem describeValue {describeClass : ClassRef → Describing TypeRef}
    (classes : ∀ reference before, module.Adds (describeClass reference) before)
    (value : Value) (before : Knowledge) :
    module.Adds (describeValue module describeClass value) before := by
  cases value with
  | constant datum => exact describeDatum datum
  | typeVariable binder => exact keepAtom nofun
  | classValue value => exact describeBareClass classes value
  | bareAlias word =>
    rw [ServiceStubs.describeValue]
    split_ifs
    · exact keepList []
    · exact keepAtom nofun
  | builtinOf origin arguments =>
    exact bind (describeValues classes arguments _) fun _ => describeApplication classes _ origin _
  | templateOf origin arguments =>
    exact bind (describeValues classes arguments _) fun _ => describeApplication classes _ origin _
  | aliasOf word arguments =>
    refine bind (describeValues classes arguments _) fun _ => ?_
    split_ifs
    · exact keepList _
    · exact keepDisplayed _
  | qualified word argument =>
    exact bind (discard (describeValue classes argument _)) fun _ => keepDisplayed _
  | union members =>
    exact bind (discard (describeValues classes members _)) fun _ => keepDisplayed _
  | alternatives members =>
    exact bind (discard (describeValues classes members _)) fun _ => keepDisplayed _
  | literal values =>
    exact bind (forM (fun datum _ => discard (describeDatum datum)) values) fun _ => keepDisplayed _
  | callable arguments result =>
    exact bind (discard (keepDisplayed _)) fun _ =>
      bind (discard (describeValue classes result _)) fun _ => keepDisplayed _
  | annotated inner notes =>
    exact bind (discard (describeValue classes inner _)) fun _ =>
      bind (forM (fun note _ => discard (describeDatum (.text note))) notes) fun _ =>
        keepDisplayed _
  | _ =>
    refine bind (of_reads (.ofEvaluating _ _) _) fun _ => ?_
    split_ifs
    · exact keepList []
    · exact keepDisplayed _

/-- Several annotations add what each of them adds. -/
theorem describeValues {describeClass : ClassRef → Describing TypeRef}
    (classes : ∀ reference before, module.Adds (describeClass reference) before)
    (values : List Value) (before : Knowledge) :
    module.Adds (describeValues module describeClass values) before := by
  cases values with
  | nil => exact of_reads (.pure _) _
  | cons value rest =>
    exact bind (describeValue classes value _) fun _ =>
      bind (describeValues classes rest _) fun _ => of_reads (.pure _) _

end

end Adds

/-! ## Classes -/

variable {depth : Nat}

/-- A described field may be appended before the catalog grows, and what its hint was described as
is not lost by appending it. -/
theorem appendField_described
    (classes : ∀ reference before, module.Adds (describeClass module depth reference) before)
    {before between : Knowledge} {index : Nat} (name : String) {hint : Value} {type : TypeRef}
    (early : index < before.catalog.size)
    (described : describeValue module (describeClass module depth) hint before = .ok type between) :
    (before.catalog.appendFields index [⟨name, type⟩]).Grown module.Whole
        (between.catalog.appendFields index [⟨name, type⟩]) ∧
      module.DescribedAs (between.catalog.appendFields index [⟨name, type⟩]) hint type :=
  have grown := (Adds.describeValue classes hint before).ok described
  ⟨grown.appendFields lasting_whole early _,
    depth, before, between, described, between.catalog.extends_appendFields index _⟩

/-- Fields that are described are appended to their composite, one for each hint. -/
theorem describeFields_ok
    (classes : ∀ reference before, module.Adds (describeClass module depth reference) before)
    {index : Nat} {hints : List (String × Value)} (before : Knowledge) {after : Knowledge}
    (early : index < before.catalog.size)
    (done : describeFields module (describeClass module depth) (.atom index) hints before =
      .ok () after) :
    ∃ fields, module.FieldsFor after.catalog hints fields ∧
      (before.catalog.appendFields index fields).Grown module.Whole after.catalog := by
  -- The catalog is compared with the one in which the composite has all its fields already, so that
  -- every later field leaves what was described before it as it is.
  induction hints generalizing before with
  | nil =>
    cases done
    exact ⟨[], .nil, .refl _⟩
  | cons entry rest ih =>
    obtain ⟨type, between, described, others⟩ := run_bind_eq_ok.mp done
    obtain ⟨first, kept⟩ := appendField_described classes entry.1 early described
    have stillEarly : index < (before.catalog.appendFields index [⟨entry.1, type⟩]).size := by
      rwa [Catalog.size_appendFields]
    obtain ⟨fields, complete, since⟩ := ih _ (Nat.lt_of_lt_of_le stillEarly first.size_le) others
    refine ⟨⟨entry.1, type⟩ :: fields, .cons ⟨rfl, kept.extend ?_⟩ complete, ?_⟩
    · exact since.extension.trans (Catalog.extends_appendFields _ index fields)
    · exact (first.appendFields lasting_whole stillEarly fields).trans lasting_whole since

/-- A field that cannot be described leaves its composite with the fields before it. -/
theorem describeFields_error
    (classes : ∀ reference before, module.Adds (describeClass module depth reference) before)
    {index : Nat} {hints : List (String × Value)} (before : Knowledge) {after : Knowledge}
    {failure : Source.Failure} (early : index < before.catalog.size)
    (failed : describeFields module (describeClass module depth) (.atom index) hints before =
      .error failure after) :
    ∃ described hint remaining fields, hints = described ++ hint :: remaining ∧
      module.FieldsFor after.catalog described fields ∧
      (before.catalog.appendFields index fields).Grown module.Begun after.catalog := by
  induction hints generalizing before with
  | nil => cases failed
  | cons entry rest ih =>
    rcases run_bind_eq_error.mp failed with here | ⟨type, between, described, others⟩
    · have grown := (Adds.describeValue classes entry.2 before).error here
      exact ⟨[], entry, rest, [], rfl, .nil, grown⟩
    · obtain ⟨first, kept⟩ := appendField_described classes entry.1 early described
      have stillEarly : index < (before.catalog.appendFields index [⟨entry.1, type⟩]).size := by
        rwa [Catalog.size_appendFields]
      obtain ⟨done, hint, remaining, fields, rfl, complete, since⟩ :=
        ih _ (Nat.lt_of_lt_of_le stillEarly first.size_le) others
      refine ⟨entry :: done, hint, remaining, ⟨entry.1, type⟩ :: fields, rfl,
        .cons ⟨rfl, kept.extend ?_⟩ complete, ?_⟩
      · exact since.extension.trans (Catalog.extends_appendFields _ index fields)
      · exact ((first.mono fun _ _ => .inl).appendFields lasting_begun stillEarly fields).trans
          lasting_begun since

/-- The identity of a class is not empty. -/
theorem identity_ne_empty (value : ClassValue) : value.identity ≠ "" := by
  intro empty
  have lengths := congrArg String.length empty
  simp [ClassValue.identity] at lengths

/-- The composite that a class is entered as has no field, and the identity of the class. -/
theorem compositeAtom_ok {reference : ClassRef} {atom : Atom}
    (made : module.compositeAtom reference = .ok atom) :
    atom.kind = .composite ∧ atom.fields = [] ∧
      atom.identity = (ClassValue.user reference).identity := by
  obtain ⟨names, _, rest⟩ := bind_eq_ok.mp made
  cases rest
  exact ⟨rfl, rfl, if_neg (identity_ne_empty _)⟩

/-- The composite of a class that is not in the catalog is entered at the end of the table. -/
theorem enter_ok {before told entered : Knowledge} {reference : ClassRef} {atom : Atom}
    {type : TypeRef} (fresh : before.catalog.find? (ClassValue.user reference).identity = none)
    (made : Describing.ofHost (module.compositeAtom reference) before = .ok atom told)
    (kept : Describing.keepAtom atom told = .ok type entered) :
    type = .atom before.catalog.size ∧
      entered.catalog = before.catalog.push atom := by
  have same := (Reads.ofHost _).ok made
  obtain ⟨_, _, identity⟩ := compositeAtom_ok (ofHost_ok made)
  rw [← same] at fresh ⊢
  obtain ⟨rfl, rfl⟩ :=
    EStateM.Result.ok.inj ((keepAtom_of_unknown (identity ▸ fresh)).symm.trans kept)
  exact ⟨rfl, rfl⟩

/-- A composite was entered for a class whatever fields it gets. -/
theorem EnteredFor.withFields {reference : ClassRef} {atom : Atom}
    (made : module.compositeAtom reference = .ok atom) (fields : List Field) :
    module.EnteredFor reference { atom with fields := atom.fields ++ fields } := by
  obtain ⟨_, bare, _⟩ := compositeAtom_ok made
  rw [EnteredFor, made, ← bare]

/-- The type parameters of a composite are those that its class states. -/
theorem EnteredFor.parameters {reference : ClassRef} {atom : Atom}
    (entered : module.EnteredFor reference atom) :
    module.typeParameterNames (.user reference) = .ok atom.typeParameters := by
  obtain ⟨names, stated, rest⟩ := bind_eq_ok.mp entered
  rw [stated]
  exact congrArg Except.ok (congrArg Atom.typeParameters (Except.ok.inj rest))

/-- A class with fields that is not in the catalog. Its composite is entered without fields, and is
whole when all of them are described. -/
theorem Adds.enterClass
    (classes : ∀ reference before, module.Adds (describeClass module depth reference) before)
    {before : Knowledge} {reference : ClassRef}
    (fresh : before.catalog.find? (ClassValue.user reference).identity = none) :
    module.Adds (do
      let type ← .keepAtom (← .ofHost (module.compositeAtom reference))
      let hints ← module.fieldHints (.user reference)
      describeFields module (ServiceStubs.describeClass module depth) type hints
      return type) before where
  ok done := by
    obtain ⟨atom, told, made, rest⟩ := run_bind_eq_ok.mp done
    obtain ⟨type, entered, kept, rest⟩ := run_bind_eq_ok.mp rest
    obtain ⟨hints, hinted, found, rest⟩ := run_bind_eq_ok.mp rest
    obtain ⟨_, filled, described, rest⟩ := run_bind_eq_ok.mp rest
    obtain ⟨rfl, rfl⟩ := EStateM.Result.ok.inj rest
    obtain ⟨rfl, pushed⟩ := enter_ok fresh made kept
    rw [← (reads_fieldHints _).ok found] at pushed
    obtain ⟨fields, complete, since⟩ :=
      describeFields_ok classes hinted (pushed ▸ before.catalog.size_lt_push atom) described
    rw [pushed] at since
    obtain ⟨_, bare, _⟩ := compositeAtom_ok (ofHost_ok made)
    -- Besides what the fields entered, only the composite itself is new.
    refine .of_push fields since fun _ => ⟨reference, hints,
      .withFields (ofHost_ok made) fields, ⟨entered, hinted, found⟩, ?_⟩
    rwa [bare]
  error failed := by
    rcases run_bind_eq_error.mp failed with refused | ⟨atom, told, made, rest⟩
    · exact (of_reads (.ofHost _) _).error refused
    rcases run_bind_eq_error.mp rest with impossible | ⟨type, entered, kept, rest⟩
    · cases impossible
    obtain ⟨rfl, pushed⟩ := enter_ok fresh made kept
    obtain ⟨composite, bare, _⟩ := compositeAtom_ok (ofHost_ok made)
    rcases run_bind_eq_error.mp rest with hintless | ⟨hints, hinted, found, rest⟩
    · have unchanged := (reads_fieldHints _).error hintless
      rw [unchanged, pushed]
      refine .of_push [] (.refl _) (.inr ⟨composite, reference,
        .withFields (ofHost_ok made) [], .inl ⟨⟨entered, _, _, hintless⟩, ?_⟩⟩)
      rw [bare]
      rfl
    · rw [← (reads_fieldHints _).ok found] at pushed
      rcases run_bind_eq_error.mp rest with stopped | ⟨_, _, _, impossible⟩
      · obtain ⟨described, hint, remaining, fields, rfl, complete, since⟩ :=
          describeFields_error classes hinted (pushed ▸ before.catalog.size_lt_push atom) stopped
        rw [pushed] at since
        refine .of_push fields since (.inr ⟨composite, reference,
          .withFields (ofHost_ok made) fields,
          .inr ⟨described, hint, remaining, ⟨entered, hinted, found⟩, ?_⟩⟩)
        rwa [bare]
      · cases impossible

/-- An enumeration is no composite. -/
theorem enumerationAtom_ok {reference : ClassRef} {memory later : Memory} {atom : Atom}
    (made : module.enumerationAtom reference memory = .ok atom later) :
    atom.kind = .enumeration := by
  obtain ⟨names, _, _, rest⟩ := run_bind_eq_ok.mp made
  cases rest
  rfl

/-- An enumeration has the identity of its class. -/
theorem enumerationAtom_identity {reference : ClassRef} {memory later : Memory} {atom : Atom}
    (made : module.enumerationAtom reference memory = .ok atom later) :
    atom.identity = (ClassValue.user reference).identity := by
  obtain ⟨names, _, _, rest⟩ := run_bind_eq_ok.mp made
  cases rest
  exact if_neg (identity_ne_empty _)

/-- An enumeration has no fields. -/
theorem enumerationAtom_fields {reference : ClassRef} {memory later : Memory} {atom : Atom}
    (made : module.enumerationAtom reference memory = .ok atom later) : atom.fields = [] := by
  obtain ⟨names, _, _, rest⟩ := run_bind_eq_ok.mp made
  cases rest
  rfl

/-- A class, when the classes in it are entered at a smaller depth. -/
theorem Adds.describeClass_of_inner
    (inner : ∀ smaller, depth = smaller + 1 → ∀ reference before,
      module.Adds (ServiceStubs.describeClass module smaller reference) before)
    (reference : ClassRef) (before : Knowledge) :
    module.Adds (ServiceStubs.describeClass module depth reference) before := by
  unfold ServiceStubs.describeClass
  dsimp only
  split
  · exact of_reads (.throw _) _
  · refine bind (of_reads .catalog _) fun found => ?_
    cases found
    split
    · exact of_reads (.pure _) _
    · rename_i missing
      split
      · refine bind (of_reads (.ofEvaluating _ _) _) fun made => keepAtom ?_
        rw [enumerationAtom_ok (ofEvaluating_ok made)]
        exact nofun
      · refine bind (of_reads (reads_isComposite _) _) fun found => ?_
        split
        · exact keepAtom nofun
        -- Only here is a class entered, and the classes in its fields within it.
        · cases depth with
          | zero => exact of_reads (.throw _) _
          | succ smaller =>
            refine enterClass (inner smaller rfl) ?_
            rw [(reads_isComposite _).ok found]
            exact Option.eq_none_iff_forall_ne_some.mpr missing

/-- A class, at any depth: a class that is entered is whole when no description in it fails. -/
theorem Adds.describeClass (depth : Nat) (reference : ClassRef) (before : Knowledge) :
    module.Adds (ServiceStubs.describeClass module depth reference) before := by
  induction depth generalizing reference before with
  | zero => exact describeClass_of_inner (fun _ same => by cases same) reference before
  | succ depth ih =>
    refine describeClass_of_inner (fun smaller same => ?_) reference before
    obtain rfl := Nat.succ.inj same
    exact ih

end Source.Module

end ServiceStubs
