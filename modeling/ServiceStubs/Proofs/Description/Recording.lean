import ServiceStubs.Members
import ServiceStubs.Proofs.Description.Accounts

/-!
# What requests record

A request that succeeds on some occasion accounts for every type that it enters, takes no entry
back, and leaves a memory of the occasion. Its result is what the annotation that was described is
recorded as. A class with fields is complete once its description has ended, with a recorded type
for each of its hints.
-/

namespace ServiceStubs

open Source Describing

namespace Source.Module

variable {module : Module} {occasion : Occasion}

/-! ## Requests -/

section

variable (module occasion)

/-- Whether fields are recorded for hints: one for each hint in order, with its name and a type that
the hint is recorded as. -/
def FieldsRecorded (catalog : Catalog) (hints : List (String × Value)) (fields : List Field) :
    Prop :=
  List.Forall₂ (fun hint field =>
    field.name = hint.1 ∧ module.Recorded occasion catalog hint.2 field.type) hints fields

/-- Whether a type, if it is a composite, has a recorded field for each hint of its class. -/
def Complete (catalog : Catalog) (atom : Atom) : Prop :=
  atom.kind = .composite → ∃ reference hints, occasion.involved (.user reference) ∧
    module.EnteredFor reference atom ∧ module.FieldsTold occasion reference true ∧
    module.FieldHintsTold occasion reference hints ∧
    module.FieldsRecorded occasion catalog hints atom.fields

/-- What is left when something was recorded: everything is accounted for, the types that are new
are complete in every continuation, and it is told what the result is. -/
structure Recording (before after : Knowledge) (shown : Prop) : Prop where
  accounts : module.Accounts occasion after.catalog
  usual : occasion.usual after.memory
  continues : after.catalog.Continues before.catalog
  complete : ∀ {final : Catalog}, final.Continues after.catalog →
    before.catalog.Grown (fun _ => module.Complete occasion final) after.catalog
  shown : shown

/-- Whether a request records something where it succeeds. -/
structure Records {α : Type} (shown : α → Catalog → Prop) (request : Describing α)
    (before : Knowledge) : Prop where
  ok : ∀ {value : α} {after : Knowledge}, module.Accounts occasion before.catalog →
    occasion.usual before.memory → request before = .ok value after →
    module.Recording occasion before after (shown value after.catalog)

/-- Whether the types of the classes that are involved are recorded under their qualified names. -/
def RecordsClasses (describeClass : ClassRef → Describing TypeRef) : Prop :=
  ∀ reference before, occasion.involved (.user reference) → module.Records occasion
    (fun type final => final.find? (ClassValue.user reference).identity = some type)
    (describeClass reference) before

end

/-- Fields stay recorded. -/
theorem FieldsRecorded.keep {catalog later : Catalog} {hints : List (String × Value)}
    {fields : List Field} (recorded : module.FieldsRecorded occasion catalog hints fields)
    (accounts : module.Accounts occasion catalog) (continues : later.Continues catalog) :
    module.FieldsRecorded occasion later hints fields :=
  recorded.imp fun _ _ here => here.imp_right (Recorded.keep accounts continues)

/-- Whether a type is complete does not depend on the catalog in which it stands. -/
theorem lasting_complete (final : Catalog) :
    Catalog.Lasting fun _ => module.Complete occasion final := fun _ _ _ _ => id

/-- A primitive is made for nothing in particular. -/
theorem madeOn_primitive (identity name : String) :
    module.MadeOn occasion (.primitive identity name) := ⟨nofun, nofun⟩

namespace Records

variable {α β : Type} {shown : α → Catalog → Prop} {laterShown : β → Catalog → Prop}
variable {request : Describing α} {before : Knowledge}

/-- A request may be taken to start with a catalog that is accounted for. -/
theorem of_accounts (given : module.Accounts occasion before.catalog →
    occasion.usual before.memory → module.Records occasion shown request before) :
    module.Records occasion shown request before where
  ok accounts usual done := (given accounts usual).ok accounts usual done

/-- A request that only reads a catalog. -/
theorem of_reads (reads : request.Reads)
    (recalls : ∀ {value : α} {after : Knowledge}, occasion.usual before.memory →
      request before = .ok value after → occasion.usual after.memory)
    (given : ∀ {value : α} {after : Knowledge}, request before = .ok value after →
      shown value before.catalog) : module.Records occasion shown request before where
  ok accounts usual done := by
    have same := reads.ok done
    refine ⟨?_, recalls usual done, ?_, fun _ => ?_, ?_⟩ <;> rw [same]
    · exact accounts
    · exact .refl _
    · exact .refl _
    · exact given done

/-- A request of which nothing is told. -/
theorem silent (reads : request.Reads)
    (recalls : ∀ {value : α} {after : Knowledge}, occasion.usual before.memory →
      request before = .ok value after → occasion.usual after.memory) :
    module.Records occasion (fun _ _ => True) request before :=
  of_reads reads recalls fun _ => trivial

/-- A question that the host need not remember anything for. -/
theorem ofExcept (found : Except Failure α) :
    module.Records occasion (fun _ _ => True) (.ofExcept found) before := by
  refine silent (.ofExcept found) fun usual done => ?_
  cases found with
  | ok value =>
    cases done
    exact usual
  | error failure => cases done

/-- An evaluation that leaves a memory of the occasion. -/
theorem ofEvaluating {told : Fault → Failure} {evaluation : Evaluating α}
    (recalls : ∀ {value : α} {after : Memory}, occasion.usual before.memory →
      evaluation before.memory = .ok value after → occasion.usual after) :
    module.Records occasion (fun _ _ => True) (.ofEvaluating told evaluation) before :=
  silent (.ofEvaluating told evaluation) fun usual done => recalls usual (ofEvaluating_ok done)

/-- The types described so far. -/
theorem catalog : module.Records occasion (fun _ _ => True) .catalog before :=
  silent .catalog fun usual done => by
    cases done
    exact usual

/-- A result without a request. -/
theorem pure {value : α} (given : shown value before.catalog) :
    module.Records occasion shown (Pure.pure value) before := by
  refine of_reads (.pure value) (fun usual done => ?_) fun done => ?_
  · cases done
    exact usual
  · cases done
    exact given

/-- A request that fails. -/
theorem throw {failure : Failure} :
    module.Records occasion shown (MonadExcept.throw failure) before where
  ok _ _ done := by cases done

/-- What is told of the result may be weakened. -/
theorem mono {weaker : α → Catalog → Prop}
    (records : module.Records occasion shown request before)
    (implies : ∀ value final, shown value final → weaker value final) :
    module.Records occasion weaker request before where
  ok accounts usual done :=
    have recording := records.ok accounts usual done
    { recording with shown := implies _ _ recording.shown }

/-- Requests in sequence. -/
theorem bind {next : α → Describing β} (first : module.Records occasion shown request before)
    (rest : ∀ {value : α} {between : Knowledge}, request before = .ok value between →
      module.Accounts occasion between.catalog → between.catalog.Continues before.catalog →
      shown value between.catalog →
      module.Records occasion laterShown (next value) between) :
    module.Records occasion laterShown (request >>= next) before where
  ok accounts usual done := by
    obtain ⟨value, between, started, finished⟩ := run_bind_eq_ok.mp done
    have here := first.ok accounts usual started
    have there := (rest started here.accounts here.continues here.shown).ok here.accounts
      here.usual finished
    exact {
      accounts := there.accounts
      usual := there.usual
      continues := there.continues.trans here.continues
      complete := fun since => (here.complete (since.trans there.continues)).trans
        (lasting_complete _) (there.complete since)
      shown := there.shown }

/-- A request before one of which nothing is used. -/
theorem andThen {next : α → Describing β} (first : module.Records occasion shown request before)
    (rest : ∀ value between, module.Records occasion laterShown (next value) between) :
    module.Records occasion laterShown (request >>= next) before :=
  first.bind fun _ _ _ _ => rest _ _

/-- A request for the sake of what it enters. -/
theorem discard (records : module.Records occasion shown request before) :
    module.Records occasion (fun _ _ => True) (discard request) before := by
  rw [discard_eq]
  exact records.andThen fun _ _ => pure trivial

/-- A request for each of some values. -/
theorem forM {visit : β → Describing PUnit}
    (records : ∀ value before, module.Records occasion (fun _ _ => True) (visit value) before)
    (values : List β) :
    module.Records occasion (fun _ _ => True) (values.forM visit) before := by
  induction values generalizing before with
  | nil => exact pure trivial
  | cons value rest ih => exact (records value _).andThen fun _ _ => ih

/-! ## Entries -/

/-- An atom without fields that is no composite is recorded under its identity. -/
theorem keepAtom {atom : Atom} (bare : atom.fields = []) (plain : atom.kind ≠ .composite)
    (made : module.MadeOn occasion atom) :
    module.Records occasion (fun type final => final.find? atom.identity = some type)
      (.keepAtom atom) before where
  ok {_ after} accounts usual done := by
    have kept := ofCatalog_ok done
    have memory : after.memory = before.memory := by
      cases done
      rfl
    cases known : before.catalog.find? atom.identity with
    | some earlier =>
      rw [Catalog.keepAtom_of_known known] at kept
      obtain ⟨rfl, same⟩ := Prod.mk.inj kept
      refine ⟨?_, memory ▸ usual, ?_, fun _ => ?_, ?_⟩ <;> rw [← same]
      · exact accounts
      · exact .refl _
      · exact .refl _
      · exact known
    | none =>
      rw [Catalog.keepAtom_of_unknown known] at kept
      obtain ⟨rfl, same⟩ := Prod.mk.inj kept
      refine ⟨?_, memory ▸ usual, ?_, fun _ => ?_, ?_⟩ <;> rw [← same]
      · exact accounts.push known bare made
      · exact .push known
      · exact .of_push [] (.refl _) fun composite => absurd composite plain
      · exact before.catalog.find?_push_self atom

/-- A name is recorded under its identity. -/
theorem keepPrimitive {identity name : String} :
    module.Records occasion (fun type final => final.find? identity = some type)
      (.keepAtom (.primitive identity name)) before :=
  @keepAtom _ _ _ (.primitive identity name) rfl nofun (madeOn_primitive identity name)

/-- An annotation is recorded as a construction over what its arguments are recorded as. -/
theorem keepGeneric {value : Value} {origin : Option ClassRef} {arguments : List Value}
    {base : TypeRef} {types : List TypeRef} (source : occasion.involved value)
    (constructs : module.Constructs occasion value origin arguments)
    (based : before.catalog.find? (originIdentity origin) = some base)
    (parts : List.Forall₂ (module.Recorded occasion before.catalog) arguments types) :
    module.Records occasion (fun type final => module.Recorded occasion final value type)
      (.keepGeneric base types) before where
  ok {_ after} accounts usual done := by
    have kept := ofCatalog_ok done
    have memory : after.memory = before.memory := by
      cases done
      rfl
    cases known : before.catalog.find? (before.catalog.graph.composedIdentity base types) with
    | some earlier =>
      rw [Catalog.keepGeneric_of_known known] at kept
      obtain ⟨rfl, same⟩ := Prod.mk.inj kept
      refine ⟨?_, memory ▸ usual, ?_, fun _ => ?_, ?_⟩ <;> rw [← same]
      · exact accounts
      · exact .refl _
      · exact .refl _
      · exact .construction constructs based parts known
    | none =>
      rw [Catalog.keepGeneric_of_unknown known] at kept
      obtain ⟨rfl, same⟩ := Prod.mk.inj kept
      have continues :
          (before.catalog.enter (before.catalog.graph.generic base types)).Continues
            before.catalog := .enter known
      refine ⟨?_, memory ▸ usual, ?_, fun _ => ?_, ?_⟩ <;> rw [← same]
      · exact accounts.enter known (.of source constructs based parts)
      · exact continues
      · exact .of_graph rfl
      · exact .construction constructs (continues.entries based)
          (Recorded.keepAll accounts continues parts)
          (before.catalog.find?_enter_self _)

/-- A list is recorded over the list template when its arguments are recorded. -/
theorem keepList {value : Value} {arguments : List Value} {types : List TypeRef}
    (source : occasion.involved value)
    (constructs : module.Constructs occasion value none arguments)
    (parts : List.Forall₂ (module.Recorded occasion before.catalog) arguments types) :
    module.Records occasion (fun type final => module.Recorded occasion final value type)
      (.keepList types) before :=
  of_accounts fun accounts _ => bind keepPrimitive fun _ _ continues entry =>
    keepGeneric source constructs entry (Recorded.keepAll accounts continues parts)

/-- What is known by its displayed form is recorded under it. -/
theorem keepDisplayed (value : Value) :
    module.Records occasion (fun type final => ∃ name, value.displayed = .ok name ∧
        final.find? name = some type) (keepDisplayed value) before :=
  bind (ofExcept _) fun told _ _ _ =>
    mono keepPrimitive fun _ _ entry => ⟨_, ofHost_ok told, entry⟩

/-- An annotation of which nothing but a displayed form is kept is recorded under that. -/
theorem keepNamed {value given : Value}
    (named : ∀ {name}, given.displayed = .ok name → module.NamedOnly occasion value name) :
    module.Records occasion (fun type final => module.Recorded occasion final value type)
      (ServiceStubs.keepDisplayed given) before :=
  mono (keepDisplayed given) fun _ _ ⟨_, shown, entry⟩ => .named (named shown) entry

/-- A form that is known by its displayed form is recorded under it. -/
theorem sealed {value : Value} (isSealed : value.isSealed) :
    module.Records occasion (fun type final => module.Recorded occasion final value type)
      (ServiceStubs.keepDisplayed value) before :=
  keepNamed (.sealed isSealed)

/-- A plain value is recorded. -/
theorem describeDatum (datum : Datum) :
    module.Records occasion
      (fun type final => module.Recorded occasion final (.constant datum) type)
      (describeDatum datum) before := by
  unfold ServiceStubs.describeDatum
  split
  · exact mono keepPrimitive fun _ _ entry => .elementary .nothing entry
  · rename_i given
    exact keepNamed (.constant given)

/-! ## Annotations -/

section

variable {describeClass : ClassRef → Describing TypeRef}
  (closes : module.Closes occasion)
  (classes : module.RecordsClasses occasion describeClass)

include classes

/-- A class that is not applied is recorded. -/
theorem describeBareClass {value : ClassValue} (source : occasion.involved (.classValue value)) :
    module.Records occasion
      (fun type final => module.Recorded occasion final (.classValue value) type)
      (describeBareClass describeClass value) before := by
  unfold ServiceStubs.describeBareClass
  split
  · rename_i standard
    split
    · rename_i shared
      exact mono keepPrimitive fun _ _ entry => .elementary (.shared shared) entry
    · rename_i own
      split_ifs with list enumeration
      · exact keepList source (.form (if_pos list) fun _ member => by cases member) .nil
      · have identity : (Atom.enumeration standard.name
            ((standard.written?.elim [] (·.members)).map .text)
            (ClassValue.standard standard).identity).identity =
              (ClassValue.standard standard).identity := if_neg (identity_ne_empty _)
        have made : module.MadeOn occasion (.enumeration standard.name
            ((standard.written?.elim [] (·.members)).map .text)
            (ClassValue.standard standard).identity) :=
          ⟨fun parameter => (by cases parameter),
            fun _ => ⟨.standard standard, source, .enumeration enumeration rfl identity⟩⟩
        refine mono (keepAtom rfl (fun composite => by cases composite) made) fun _ _ entry => ?_
        rw [identity] at entry
        exact .elementary (.enumeration enumeration) entry
      · exact mono keepPrimitive fun _ _ entry =>
          .named (.standard own (Bool.eq_false_iff.mpr list) enumeration) entry
  · refine bind (classes _ _ source) fun {type between} _ _ _ entry => ?_
    refine bind catalog fun {catalog same} done _ _ _ => ?_
    obtain ⟨rfl, rfl⟩ := EStateM.Result.ok.inj done
    dsimp only
    split_ifs with plain
    · exact pure (.ofClass entry (List.isEmpty_iff.mp plain))
    · exact throw

include closes

/-- An application is recorded when its arguments are. -/
theorem describeApplication {value : Value} {origin : ClassValue} {arguments : List Value}
    (form : value = .builtinOf origin arguments ∨ value = .templateOf origin arguments)
    (source : occasion.involved value) {types : List TypeRef}
    (parts : List.Forall₂ (module.Recorded occasion before.catalog) arguments types) :
    module.Records occasion (fun type final => module.Recorded occasion final value type)
      (describeApplication module describeClass value origin types) before := by
  unfold ServiceStubs.describeApplication
  split
  · rename_i standard
    split_ifs with list
    · have construction : value.construction? = some (none, arguments) := by
        rcases form with rfl | rfl <;> exact if_pos list
      exact keepList source (.form construction fun _ member => by cases member) parts
    · have isSealed : value.isSealed := by
        rcases form with rfl | rfl <;> simp [Value.isSealed, list]
      exact sealed isSealed
  · rename_i reference
    have construction : value.construction? = some (some reference, arguments) := by
      rcases form with rfl | rfl <;> rfl
    have applied : occasion.involved (.user reference) :=
      closes.part source ((construction_parts construction).2 reference rfl)
    refine of_accounts fun accounts usual => ?_
    refine bind (silent (reads_isComposite _) (closes.usual_isComposite applied))
      fun {told between} done _ continues _ => ?_
    split_ifs with fields
    · have constructs : module.Constructs occasion value (some reference) arguments := by
        refine .form construction fun other member => ?_
        obtain rfl := Option.some.inj member
        exact ⟨_, _, usual, fields ▸ done⟩
      refine bind (classes _ _ applied) fun {template last} _ _ since entry => ?_
      exact keepGeneric source constructs entry
        (Recorded.keepAll accounts (since.trans continues) parts)
    · have noFields : module.FieldsTold occasion reference false :=
        ⟨_, _, usual, Bool.eq_false_iff.mpr fields ▸ done⟩
      exact keepNamed (.fieldless construction noFields)

end

mutual

/-- An annotation is recorded by what it is kept as. -/
theorem describeValue (closes : module.Closes occasion)
    {describeClass : ClassRef → Describing TypeRef}
    (classes : module.RecordsClasses occasion describeClass) (value : Value)
    (source : occasion.involved value) (before : Knowledge) :
    module.Records occasion (fun type final => module.Recorded occasion final value type)
      (describeValue module describeClass value) before := by
  -- Every form is described after its parts, which are involved as well.
  have inner {part : Value} (member : part ∈ value.innerAnnotations) : occasion.involved part :=
    closes.part source member
  cases value with
  | constant datum => exact describeDatum datum
  | typeVariable binder =>
    have made : module.MadeOn occasion (.parameter binder.name) :=
      ⟨fun _ => ⟨binder, source, rfl⟩, nofun⟩
    exact mono (keepAtom rfl nofun made) fun _ _ entry => .elementary .parameter entry
  | classValue value => exact describeBareClass classes source
  | bareAlias word =>
    rw [ServiceStubs.describeValue]
    split_ifs with list
    · exact keepList source (.form (if_pos list) fun _ member => by cases member) .nil
    · exact mono keepPrimitive fun _ _ entry =>
        .named (.bareAlias (Bool.eq_false_iff.mpr list)) entry
  | builtinOf origin arguments =>
    refine bind (describeValues closes classes arguments (fun part member => ?_) _)
      fun _ _ _ parts => describeApplication closes classes (.inl rfl) source parts
    exact inner (List.mem_cons_of_mem _ member)
  | templateOf origin arguments =>
    refine bind (describeValues closes classes arguments (fun part member => ?_) _)
      fun _ _ _ parts => describeApplication closes classes (.inr rfl) source parts
    exact inner (List.mem_cons_of_mem _ member)
  | aliasOf word arguments =>
    refine bind (describeValues closes classes arguments (fun part member => inner member) _)
      fun _ _ _ parts => ?_
    split_ifs with list
    · exact keepList source (.form (if_pos list) fun _ member => by cases member) parts
    · exact sealed (by simp [Value.isSealed, list])
  | qualified word argument =>
    exact andThen (discard (describeValue closes classes argument (inner List.mem_cons_self) _))
      fun _ _ => sealed rfl
  | union members =>
    exact andThen (discard (describeValues closes classes members (fun _ member => inner member) _))
      fun _ _ => sealed rfl
  | alternatives members =>
    exact andThen (discard (describeValues closes classes members (fun _ member => inner member) _))
      fun _ _ => sealed rfl
  | literal values =>
    exact andThen (forM (fun datum _ => discard (describeDatum datum)) values)
      fun _ _ => sealed rfl
  | callable arguments result =>
    exact andThen (discard (keepDisplayed _)) fun _ _ =>
      andThen (discard (describeValue closes classes result (inner List.mem_cons_self) _))
        fun _ _ => sealed rfl
  | annotated inside notes =>
    exact andThen (discard (describeValue closes classes inside (inner List.mem_cons_self) _))
      fun _ _ => andThen (forM (fun note _ => discard (describeDatum (.text note))) notes)
        fun _ _ => sealed rfl
  | _ =>
    refine of_accounts fun _ usual => ?_
    refine bind (ofEvaluating (closes.likeness source)) fun {told between} done _ _ _ => ?_
    have likeness := ofEvaluating_ok done
    split_ifs with alike
    · exact keepList source (.alike rfl ⟨_, _, usual, alike ▸ likeness⟩) .nil
    · have notAlike : module.LikenessTold occasion _ false :=
        ⟨_, _, usual, Bool.eq_false_iff.mpr alike ▸ likeness⟩
      exact keepNamed (.unusual rfl notAlike)

/-- Several annotations are recorded one by one. -/
theorem describeValues (closes : module.Closes occasion)
    {describeClass : ClassRef → Describing TypeRef}
    (classes : module.RecordsClasses occasion describeClass) (values : List Value)
    (sources : ∀ value ∈ values, occasion.involved value) (before : Knowledge) :
    module.Records occasion
      (fun types final => List.Forall₂ (module.Recorded occasion final) values types)
      (describeValues module describeClass values) before := by
  cases values with
  | nil => exact pure .nil
  | cons value rest =>
    refine bind (describeValue closes classes value (sources value List.mem_cons_self) _)
      fun _ accounts _ recorded => ?_
    refine bind (describeValues closes classes rest
      (fun other member => sources other (List.mem_cons_of_mem value member)) _)
      fun _ _ continues others => ?_
    exact pure (.cons (recorded.keep accounts continues) others)

end

end Records

/-! ## Classes -/

section

variable {depth : Nat} (closes : module.Closes occasion)

include closes

/-- Fields that are described are appended to their composite, with a recorded type for each
hint. -/
theorem describeFields_recorded
    (classes : module.RecordsClasses occasion (describeClass module depth))
    {index : Nat} {hints : List (String × Value)}
    (sources : ∀ hint ∈ hints, occasion.involved hint.2) (before : Knowledge) {after : Knowledge}
    (accounts : module.Accounts occasion before.catalog) (usual : occasion.usual before.memory)
    (early : index < before.catalog.size)
    (done : describeFields module (describeClass module depth) (.atom index) hints before =
      .ok () after) :
    module.Accounts occasion after.catalog ∧ occasion.usual after.memory ∧
      after.catalog.Continues before.catalog ∧
      ∃ fields, module.FieldsRecorded occasion after.catalog hints fields ∧
        ∀ {final : Catalog}, final.Continues after.catalog →
          (before.catalog.appendFields index fields).Grown
            (fun _ => module.Complete occasion final) after.catalog := by
  induction hints generalizing before with
  | nil =>
    cases done
    exact ⟨accounts, usual, .refl _, [], .nil, fun _ => .refl _⟩
  | cons entry rest ih =>
    obtain ⟨type, between, described, others⟩ := run_bind_eq_ok.mp done
    have source := sources entry List.mem_cons_self
    have recording := (Records.describeValue closes classes entry.2 source before).ok accounts usual
      described
    have appended := Catalog.Continues.appendFields between.catalog index [⟨entry.1, type⟩]
    have sizes := (Adds.describeValue (fun _ _ => Adds.describeClass depth _ _) entry.2 before).ok
      described
    have stillEarly : index <
        (before.catalog.appendFields index [⟨entry.1, type⟩]).size := by
      rwa [Catalog.size_appendFields]
    have earlyBetween : index <
        (between.catalog.appendFields index [⟨entry.1, type⟩]).size := by
      rw [Catalog.size_appendFields]
      exact Nat.lt_of_lt_of_le early sizes.size_le
    have kept : ∀ field ∈ [(⟨entry.1, type⟩ : Field)],
        module.Kept occasion between.catalog field.type := by
      intro field member
      rw [List.mem_singleton.mp member]
      exact ⟨entry.2, source, recording.shown⟩
    obtain ⟨accountsAfter, usualAfter, continues, fields, recorded, later⟩ :=
      ih (fun hint member => sources hint (List.mem_cons_of_mem entry member))
        { between with catalog := between.catalog.appendFields index [⟨entry.1, type⟩] }
        (recording.accounts.appendFields index kept) recording.usual earlyBetween others
    have since := continues.trans appended
    refine ⟨accountsAfter, usualAfter, since.trans recording.continues, ⟨entry.1, type⟩ :: fields,
      .cons ⟨rfl, recording.shown.keep recording.accounts since⟩ recorded,
      fun {final} afterwards => ?_⟩
    -- The fields may be appended before what was entered between them, which they leave as it is.
    have moved := ((recording.complete (afterwards.trans since)).appendFields (lasting_complete _)
      early [⟨entry.1, type⟩]).appendFields (lasting_complete _) stillEarly fields
    exact moved.trans (lasting_complete _) (later afterwards)

/-- A class with fields that is not in the catalog is recorded by its composite, which is complete
when all fields are described. -/
theorem Records.enterClass
    (classes : module.RecordsClasses occasion (ServiceStubs.describeClass module depth))
    {before : Knowledge} {reference : ClassRef} (source : occasion.involved (.user reference))
    (fresh : before.catalog.find? (ClassValue.user reference).identity = none)
    (fieldsTold : module.FieldsTold occasion reference true) :
    module.Records occasion (fun type final =>
        final.find? (ClassValue.user reference).identity = some type)
      (do
        let type ← .keepAtom (← .ofHost (module.compositeAtom reference))
        let hints ← module.fieldHints (.user reference)
        describeFields module (ServiceStubs.describeClass module depth) type hints
        return type) before where
  ok accounts usual done := by
    obtain ⟨atom, told, made, rest⟩ := run_bind_eq_ok.mp done
    obtain ⟨type, entered, kept, rest⟩ := run_bind_eq_ok.mp rest
    obtain ⟨hints, hinted, found, rest⟩ := run_bind_eq_ok.mp rest
    obtain ⟨_, filled, described, rest⟩ := run_bind_eq_ok.mp rest
    obtain ⟨rfl, rfl⟩ := EStateM.Result.ok.inj rest
    obtain ⟨_, bare, identity⟩ := compositeAtom_ok (ofHost_ok made)
    have usualTold := ((Records.ofExcept _).ok accounts usual made).usual
    have usualEntered : occasion.usual entered.memory := by
      cases kept
      exact usualTold
    obtain ⟨usualHinted, sources⟩ := closes.hints source usualEntered found
    have same := (Reads.ofHost _).ok made
    have unknown : told.catalog.find? atom.identity = none := by rwa [same, identity]
    have change := ofCatalog_ok kept
    rw [Catalog.keepAtom_of_unknown unknown] at change
    obtain ⟨rfl, pushed⟩ := Prod.mk.inj change
    have unchanged := (reads_fieldHints _).ok found
    rw [same] at unknown pushed described ⊢
    rw [← pushed] at unchanged
    have enteredFor : module.EnteredFor reference atom := by
      rw [EnteredFor, ofHost_ok made, ← bare]
    have madeOn : module.MadeOn occasion atom :=
      ⟨fun parameter => (by cases (compositeAtom_ok (ofHost_ok made)).1.symm.trans parameter),
        fun _ => ⟨_, source, .composite enteredFor fieldsTold⟩⟩
    have accountsPushed := accounts.push unknown bare madeOn
    have continuesPushed := Catalog.Continues.push unknown
    have entry : (before.catalog.push atom).find? (ClassValue.user reference).identity =
        some (.atom before.catalog.size) := by
      rw [← identity]
      exact before.catalog.find?_push_self atom
    have early := before.catalog.size_lt_push atom
    obtain ⟨accountsAfter, usualAfter, continues, fields, recorded, later⟩ :=
      describeFields_recorded closes classes sources hinted (unchanged ▸ accountsPushed)
        usualHinted (unchanged ▸ early) described
    rw [unchanged] at continues later
    refine ⟨accountsAfter, usualAfter, continues.trans continuesPushed, fun since => ?_,
      continues.entries entry⟩
    refine .of_push fields (later since) fun _ => ?_
    refine ⟨reference, hints, source, .withFields (ofHost_ok made) fields, fieldsTold,
      ⟨_, hinted, usualEntered, found⟩, ?_⟩
    rw [bare]
    exact recorded.keep accountsAfter since

/-- Classes are recorded under their qualified names, when the classes in them are at a smaller
depth. -/
theorem Records.describeClass_of_inner
    (inner : ∀ smaller, depth = smaller + 1 →
      module.RecordsClasses occasion (ServiceStubs.describeClass module smaller)) :
    module.RecordsClasses occasion (ServiceStubs.describeClass module depth) := by
  intro reference before source
  unfold ServiceStubs.describeClass
  dsimp only
  split
  · exact throw
  · refine bind catalog fun {catalog same} done _ _ _ => ?_
    obtain ⟨rfl, rfl⟩ := EStateM.Result.ok.inj done
    split
    · rename_i type found
      exact pure found
    · rename_i missing
      split
      · rename_i enumeration
        refine bind (ofEvaluating (closes.enumeration source)) fun {atom between} made _ _ _ => ?_
        have kind := enumerationAtom_ok (ofEvaluating_ok made)
        have identity := enumerationAtom_identity (ofEvaluating_ok made)
        have madeOn : module.MadeOn occasion atom :=
          ⟨fun parameter => (by cases kind.symm.trans parameter),
            fun _ => ⟨.user reference, source, .enumeration enumeration kind identity⟩⟩
        refine mono (keepAtom (enumerationAtom_fields (ofEvaluating_ok made)) ?_ madeOn)
          fun _ _ entry => ?_
        · rw [kind]
          exact nofun
        · rwa [identity] at entry
      · refine of_accounts fun _ usual => ?_
        refine bind (silent (reads_isComposite _) (closes.usual_isComposite source))
          fun {told between} done _ _ _ => ?_
        split
        · exact keepPrimitive
        · rename_i fields
          cases depth with
          | zero => exact throw
          | succ smaller =>
            refine enterClass closes (inner smaller rfl) source ?_ ?_
            · rw [(reads_isComposite _).ok done]
              exact Option.eq_none_iff_forall_ne_some.mpr missing
            · cases told with
              | false => exact absurd rfl fields
              | true => exact ⟨_, _, usual, done⟩

/-- Classes, at any depth, are recorded under their qualified names. -/
theorem Records.describeClass (depth : Nat) :
    module.RecordsClasses occasion (ServiceStubs.describeClass module depth) := by
  induction depth with
  | zero => exact describeClass_of_inner closes fun _ same => by cases same
  | succ depth ih =>
    refine describeClass_of_inner closes fun smaller same => ?_
    obtain rfl := Nat.succ.inj same
    exact ih

end

end Source.Module

/-! ## Services -/

/-- The types of the methods and the events of a service, whether they are offered or not. -/
def Service.types (service : Service) : List TypeRef :=
  service.methods.flatMap (fun method => method.params.map Param.type ++ [method.returnType]) ++
    service.events.flatMap Event.types

/-- The members of a service have types of its methods and events. -/
theorem Service.members_types_subset (service : Service) :
    service.members.types ⊆ service.types := by
  refine List.append_subset.mpr ⟨fun type member => List.mem_append_left _ ?_,
    List.subset_append_right _ _⟩
  obtain ⟨operation, listed, inOperation⟩ := List.mem_flatMap.mp member
  obtain ⟨method, kept, rfl⟩ := List.mem_map.mp listed
  exact List.mem_flatMap.mpr ⟨method, (List.mem_filter.mp kept).1, inOperation⟩

/-- A service with one more method has no types but its own and those of the method. -/
theorem Service.mem_types_method {service : Service} {method : Method} {type : TypeRef}
    (member : type ∈ { service with methods := service.methods ++ [method] }.types) :
    type ∈ service.types ∨ type ∈ method.params.map Param.type ++ [method.returnType] := by
  simp only [Service.types, List.flatMap_append, List.flatMap_singleton, List.mem_append]
    at member ⊢
  tauto

/-- A service with one more event has no types but its own and those of the event. -/
theorem Service.mem_types_event {service : Service} {event : Event} {type : TypeRef}
    (member : type ∈ { service with events := service.events ++ [event] }.types) :
    type ∈ service.types ∨ type ∈ event.types := by
  simp only [Service.types, List.flatMap_append, List.flatMap_singleton, List.mem_append]
    at member ⊢
  tauto

namespace Source.Module

variable {module : Module} {occasion : Occasion}

section

variable (module occasion)

/-- Whether types are recorded for parameters, one by one. -/
def ParamsRecorded (catalog : Catalog) (hints : FunctionHints) (parameters : List Parameter)
    (params : List Param) : Prop :=
  List.Forall₂ (fun parameter param =>
    module.Recorded occasion catalog (hints.annotation parameter) param.type) parameters params

/-- How a function is recorded in a service: as an event or as a method, with the types of its
parameters and of its result. -/
structure MemberRecorded (catalog : Catalog) (service : Service) (member : String × Function)
    (hints : FunctionHints) : Prop where
  hintsTold : module.FunctionHintsTold occasion member.2 hints
  event : member.2.isEvent → ∃ params, ⟨member.1, params⟩ ∈ service.events ∧
    module.ParamsRecorded occasion catalog hints (describedParameters member.2) params
  method : member.2.isEvent = false → ∃ params returnType,
    { name := member.1, params, returnType : Method } ∈ service.methods ∧
    module.ParamsRecorded occasion catalog hints (describedParameters member.2) params ∧
    module.Recorded occasion catalog hints.result returnType

/-- How a service is extended by members of which none is special: its types are its own and those
of annotations. -/
structure ServiceExtended (catalog : Catalog) (before after : Service) : Prop where
  name : after.name = before.name
  methods : before.methods ⊆ after.methods
  events : before.events ⊆ after.events
  plain : ∀ method ∈ after.methods, method ∈ before.methods ∨ method.isSpecialName = false
  types : ∀ type ∈ after.types, type ∈ before.types ∨ module.Kept occasion catalog type

end

/-- Parameters stay recorded. -/
theorem ParamsRecorded.keep {catalog later : Catalog} {hints : FunctionHints}
    {parameters : List Parameter} {params : List Param}
    (recorded : module.ParamsRecorded occasion catalog hints parameters params)
    (accounts : module.Accounts occasion catalog) (continues : later.Continues catalog) :
    module.ParamsRecorded occasion later hints parameters params :=
  recorded.imp fun _ _ here => here.keep accounts continues

namespace Records

variable {before : Knowledge} (closes : module.Closes occasion)

include closes

/-- An annotation of a module is recorded. -/
theorem describe {value : Value} (source : occasion.involved value) :
    module.Records occasion (fun type final => module.Recorded occasion final value type)
      (module.describe value) before :=
  describeValue closes (describeClass closes module.classes.size) value source before

/-- Parameters are recorded one by one. -/
theorem describeParameters {hints : FunctionHints} {parameters : List Parameter}
    (sources : ∀ parameter ∈ parameters, occasion.involved (hints.annotation parameter)) :
    module.Records occasion
      (fun params final => module.ParamsRecorded occasion final hints parameters params)
      (module.describeParameters hints.1 parameters) before := by
  induction parameters generalizing before with
  | nil => exact pure .nil
  | cons parameter rest ih =>
    refine bind (describe closes (sources parameter List.mem_cons_self))
      fun _ accounts _ recorded => ?_
    exact bind (ih fun other member => sources other (List.mem_cons_of_mem parameter member))
      fun _ _ continues others => pure (.cons (recorded.keep accounts continues) others)

/-- A function is recorded with its hints. -/
theorem describeFunction {function : Function} (admits : module.Admits occasion function) :
    module.Records occasion (fun described final => ∃ hints,
        module.FunctionHintsTold occasion function hints ∧
        (∀ parameter ∈ describedParameters function,
          occasion.involved (hints.annotation parameter)) ∧ occasion.involved hints.result ∧
        module.ParamsRecorded occasion final hints (describedParameters function) described.1 ∧
        module.Recorded occasion final hints.result described.2)
      (module.describeFunction function) before := by
  refine of_accounts fun _ usual => ?_
  refine bind (ofEvaluating fun usual told => (admits usual told).1)
    fun {hints between} told _ _ _ => ?_
  have asked := ofEvaluating_ok told
  obtain ⟨_, params, result⟩ := admits usual asked
  refine bind (describeParameters closes params) fun _ accounts _ shown => ?_
  refine bind (describe closes result) fun _ _ continues returned => pure ?_
  exact ⟨hints, ⟨_, _, usual, asked⟩, params, result, shown.keep accounts continues, returned⟩

/-- Functions are recorded in the service that they are appended to. -/
theorem describeFunctions (service : Service) {functions : List (String × Function)}
    (admits : ∀ entry ∈ functions, module.Admits occasion entry.2) :
    module.Records occasion (fun result final =>
        module.ServiceExtended occasion final service result ∧ ∃ functionHints,
          List.Forall₂ (module.MemberRecorded occasion final result) functions functionHints)
      (module.describeFunctions service functions) before := by
  induction functions generalizing service before with
  | nil =>
    exact pure ⟨⟨rfl, List.Subset.refl _, List.Subset.refl _, fun _ => .inl, fun _ => .inl⟩, [],
      .nil⟩
  | cons member rest ih =>
    refine bind (describeFunction closes (admits member List.mem_cons_self))
      fun {described between} _ accounts _ shown => ?_
    obtain ⟨hints, hintsTold, sources, resultSource, params, returned⟩ := shown
    refine ⟨fun {result after} accountsHere usual done => ?_⟩
    have others : ∀ entry ∈ rest, module.Admits occasion entry.2 := fun other inRest =>
      admits other (List.mem_cons_of_mem member inRest)
    have recording := (ih _ others).ok accountsHere usual done
    obtain ⟨extended, functionHints, others⟩ := recording.shown
    have params := params.keep accounts recording.continues
    have returned := returned.keep accounts recording.continues
    -- The types of the function are those that its annotations are recorded as.
    have kept : ∀ type ∈ described.1.map Param.type ++ [described.2],
        module.Kept occasion after.catalog type := by
      intro type listed
      rcases List.mem_append.mp listed with inParams | inResult
      · obtain ⟨param, inside, rfl⟩ := List.mem_map.mp inParams
        obtain ⟨parameter, among, here⟩ := exists_of_forall₂ params.flip inside
        exact ⟨_, sources parameter among, here⟩
      · rw [List.mem_singleton.mp inResult]
        exact ⟨_, resultSource, returned⟩
    refine { recording with shown := ?_ }
    split at extended
    · rename_i isEvent
      have new := extended.events (List.mem_append_right _ List.mem_cons_self)
      refine ⟨⟨extended.name, extended.methods,
        fun _ old => extended.events (List.mem_append_left _ old), extended.plain,
        fun type listed => ?_⟩,
        hints :: functionHints, .cons ⟨hintsTold, fun _ => ⟨_, new, params⟩, ?_⟩ others⟩
      · refine (extended.types type listed).elim (fun inside => ?_) .inr
        refine (Service.mem_types_event inside).imp_right fun added => ?_
        exact kept type (List.mem_append_left _ added)
      · exact fun isMethod => absurd isEvent (by rw [isMethod]; exact Bool.false_ne_true)
    · rename_i isMethod
      have new := extended.methods (List.mem_append_right _ List.mem_cons_self)
      refine ⟨⟨extended.name, fun _ old => extended.methods (List.mem_append_left _ old),
        extended.events, fun method listed => ?_, fun type listed => ?_⟩,
        hints :: functionHints, .cons ⟨hintsTold, fun isEvent => absurd isEvent isMethod,
          fun _ => ⟨_, _, new, params, returned⟩⟩ others⟩
      · rcases extended.plain method listed with old | plain
        · rcases List.mem_append.mp old with earlier | here
          · exact .inl earlier
          · obtain rfl := List.mem_singleton.mp here
            exact .inr rfl
        · exact .inr plain
      · refine (extended.types type listed).elim (fun inside => ?_) .inr
        exact (Service.mem_types_method inside).imp_right (kept type)

end Records

/-- The description of a service records its functions on the occasion of the service. -/
theorem Records.describeService {owner : ClassValue} {start : Memory} {before : Knowledge} :
    module.Records (module.occasion owner start) (fun service final =>
        module.ServiceExtended (module.occasion owner start) final { name := owner.name } service ∧
        ∃ functionHints, List.Forall₂
          (module.MemberRecorded (module.occasion owner start) final service)
          (module.declaredFunctions owner) functionHints)
      (module.describeService owner) before :=
  describeFunctions closes_occasion _ admits_occasion

end Source.Module

end ServiceStubs
