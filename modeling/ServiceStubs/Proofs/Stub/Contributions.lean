import ServiceStubs.Proofs.Description.Mistakes
import ServiceStubs.Proofs.Stub.Support

/-!
# Contributions to a stub

What stands in a stub comes from annotations: those of the members of the service, the parts of
those, and the hints of the classes that they lead to. A stub is generated only when the closure of
its types is covered, so each annotation that contributes to a stub is supported, unless it is
mistaken for something else that has its identity. That happens only where names do not tell
annotations apart: identities are composed with commas, and a comma may stand in the name of a type
variable.
-/

namespace ServiceStubs.Stub

open Source
open Source.Module

/-! ## Contributions -/

/-- The hints that a host tells in a run: of the functions of a service in order, and of classes. -/
structure ToldHints where
  functions : List FunctionHints
  fields : ClassRef → List (String × Value)

/-- Whether a function stands in the stub of a service: as an event or as an operation. -/
def Offered (service : Service) (member : String × Function) : Prop :=
  member.2.isEvent ∨ member.1 ∈ service.members.operations.map Operation.name

section

variable (module : Module) (occasion : Occasion) (catalog : Catalog) (owner : ClassValue)
  (service : Service) (told : ToldHints)

/-- The annotations that contribute to a stub. What is mistaken for something else contributes
nothing but itself. -/
inductive Contributes : Value → Prop
  /-- The annotation of a parameter of an operation or an event. -/
  | parameter {member : String × Function} {hints : FunctionHints} {parameter : Parameter}
      (listed : (member, hints) ∈ (module.declaredFunctions owner).zip told.functions)
      (offered : Offered service member) (described : parameter ∈ describedParameters member.2) :
      Contributes (hints.annotation parameter)
  /-- The annotation of the result of an operation. -/
  | result {member : String × Function} {hints : FunctionHints}
      (listed : (member, hints) ∈ (module.declaredFunctions owner).zip told.functions)
      (offered : Offered service member) (method : member.2.isEvent = false) :
      Contributes hints.result
  /-- What an annotation is applied to. -/
  | part {value part : Value} {origin : Option ClassRef} {arguments : List Value}
      (whole : Contributes value) (clear : ¬ module.Mistaken occasion catalog value)
      (form : value.construction? = some (origin, arguments)) (member : part ∈ arguments) :
      Contributes part
  /-- The hint of a field of a class that an annotation leads to. -/
  | field {value : Value} {reference : ClassRef} {hint : String × Value}
      (leading : Contributes value) (clear : ¬ module.Mistaken occasion catalog value)
      (leads : module.LeadsTo occasion value reference) (listed : hint ∈ told.fields reference) :
      Contributes hint.2

/-- Whether a class is declared by one of some types, and its fields have the hints that were
told. -/
structure DeclaredAs (types : List Nat) (reference : ClassRef) : Prop where
  declared : ∃ index ∈ types, module.EnteredFor reference (catalog.graph.atom index)
  hints : module.FieldHintsTold occasion reference (told.fields reference)

/-- Whether a class has a composite whose fields are recorded for some hints. -/
def RecordsFields (reference : ClassRef) (hints : List (String × Value)) : Prop :=
  ∃ index, catalog.find? (ClassValue.user reference).identity = some (.atom index) ∧
    (catalog.graph.atom index).kind = .composite ∧
    module.FieldHintsTold occasion reference hints ∧
    module.FieldsRecorded occasion catalog hints (catalog.graph.atom index).fields

end

variable {options : Options} {module : Module} {occasion : Occasion} {memory : Memory}
variable {owner : ClassValue} {service : Service} {known : Knowledge} {stub : Stub}

/-- A member that is offered has its types among those of the members of its service. -/
theorem types_of_offered {catalog : Catalog} {member : String × Function} {hints : FunctionHints}
    (recorded : module.MemberRecorded occasion catalog service member hints)
    (plain : ∀ method ∈ service.methods, method.isSpecialName = false)
    (offered : Offered service member) :
    ∃ params,
      module.ParamsRecorded occasion catalog hints (describedParameters member.2) params ∧
      (∀ param ∈ params, param.type ∈ service.members.types) ∧
      (member.2.isEvent = false → ∃ type ∈ service.members.types,
        module.Recorded occasion catalog hints.result type) := by
  cases isEvent : member.2.isEvent with
  | true =>
    obtain ⟨params, listed, shown⟩ := recorded.event isEvent
    refine ⟨params, shown, fun param inParams => List.mem_append_right _ ?_, nofun⟩
    exact List.mem_flatMap.mpr ⟨_, listed, List.mem_map_of_mem inParams⟩
  | false =>
    obtain ⟨params, returnType, listed, shown, result⟩ := recorded.method isEvent
    have named : member.1 ∈ service.members.operations.map Operation.name :=
      offered.resolve_left (by rw [isEvent]; exact Bool.false_ne_true)
    have operation : ⟨member.1, params, returnType⟩ ∈ service.members.operations := by
      obtain ⟨operation, inOperations, same⟩ := List.mem_map.mp named
      obtain ⟨method, kept, rfl⟩ := List.mem_map.mp inOperations
      obtain ⟨inMethods, isOperation⟩ := List.mem_filter.mp kept
      refine List.mem_map.mpr ⟨_, List.mem_filter.mpr ⟨listed, ?_⟩, rfl⟩
      have ownName : method.name = member.1 := same
      rw [Method.isOperation, plain method inMethods, ownName] at isOperation
      exact isOperation
    have inside {type : TypeRef} (among : type ∈ params.map Param.type ++ [returnType]) :
        type ∈ service.members.types :=
      List.mem_append_left _ (List.mem_flatMap.mpr ⟨_, operation, among⟩)
    exact ⟨params, shown,
      fun param inParams => inside (List.mem_append_left _ (List.mem_map_of_mem inParams)),
      fun _ => ⟨returnType, inside (List.mem_append_right _ List.mem_cons_self), result⟩⟩

/-- What is known of a run that described a service on some occasion and resolved its closure: how
its catalog is filled, how its functions are recorded, and which hints were told. -/
structure Run (module : Module) (occasion : Occasion) (catalog : Catalog) (owner : ClassValue)
    (service : Service) (closure : Closure) (told : ToldHints) : Prop where
  accounts : module.Accounts occasion catalog
  complete : ∀ {index : Nat} {atom : Atom}, catalog.atomAt? index = some atom →
    module.Complete occasion catalog atom
  members : List.Forall₂ (module.MemberRecorded occasion catalog service)
    (module.declaredFunctions owner) told.functions
  plain : ∀ method ∈ service.methods, method.isSpecialName = false
  /-- Of a class that was described by its fields those hints were told that it was described
  with. -/
  read : ∀ reference,
    (told.fields reference ≠ [] ∨
        ∃ hints, RecordsFields module occasion catalog reference hints) →
      RecordsFields module occasion catalog reference (told.fields reference)
  resolved : (startingRegistry service.name).resolve catalog.graph service.members.types =
    .ok closure

/-- A service that is described and has a closure has a run. -/
theorem exists_run {closure : Closure}
    (described : module.describeService owner { memory } = .ok service known)
    (resolved : (startingRegistry service.name).resolve known.catalog.graph service.members.types =
      .ok closure) :
    ∃ told, Run module (module.occasion owner memory) known.catalog owner service closure told := by
  have recording := Records.describeService.ok .empty .start described
  obtain ⟨extended, functions, members⟩ := recording.shown
  have reading : ∀ reference, ∃ hints,
      (hints ≠ [] ∨ ∃ hints, RecordsFields module (module.occasion owner memory) known.catalog
        reference hints) →
        RecordsFields module (module.occasion owner memory) known.catalog reference hints := by
    intro reference
    by_cases entered : ∃ hints, RecordsFields module (module.occasion owner memory) known.catalog
      reference hints
    · exact entered.imp fun _ given _ => given
    · exact ⟨[], fun given => absurd (given.resolve_left fun some => some rfl) entered⟩
  choose fields read using reading
  exact ⟨⟨functions, fields⟩, {
    accounts := recording.accounts
    complete := fun entered => (recording.complete (.refl _)).added (Nat.zero_le _) entered
    members := members
    plain := fun method listed =>
      (extended.plain method listed).resolve_left List.not_mem_nil
    read := read
    resolved := resolved }⟩

namespace Run

variable {catalog : Catalog} {closure : Closure} {told : ToldHints}
variable (run : Run module occasion catalog owner service closure told)

include run

/-- A class that is not mistaken has been told the hints of the fields of its composite. -/
theorem recordsFields {reference : ClassRef} {index : Nat}
    (clear : ¬ module.MistakenClass occasion catalog reference)
    (entry : catalog.find? (ClassValue.user reference).identity = some (.atom index))
    (composite : (catalog.graph.atom index).kind = .composite) :
    RecordsFields module occasion catalog reference (told.fields reference) := by
  obtain ⟨other, hints, involved, entered, fieldsTold, hintsTold, recorded⟩ :=
    run.complete (Catalog.atomAt?_of_composite composite) composite
  have made : module.MadeFor occasion (catalog.graph.atom index) (.user other) :=
    .composite entered fieldsTold
  have same : ClassValue.user other = .user reference := by
    by_contra different
    exact clear (.homonym entry involved made
      (made.identity_eq.symm.trans (run.accounts.identity_eq entry)) different)
  obtain rfl := ClassValue.user.inj same
  exact run.read other (.inr ⟨hints, index, entry, composite, hintsTold, recorded⟩)

/-- A recorded annotation that is covered and not mistaken passes. -/
theorem passes {value : Value} {type : TypeRef}
    (recorded : module.Recorded occasion catalog value type)
    (covered : closure.registry.Covers catalog.graph type)
    (clear : ¬ module.Mistaken occasion catalog value) :
    Passes module occasion catalog closure
      (DeclaredAs module occasion catalog told closure.types) value := by
  refine passes_of_covered run.accounts run.resolved ?_ recorded covered clear
  intro reference index unmistaken entry composite member entered
  obtain ⟨_, _, _, hintsTold, _⟩ := run.recordsFields unmistaken entry composite
  exact ⟨⟨index, member, entered⟩, hintsTold⟩

/-- The hints that are told of a class are recorded, and covered when the entry of the class is. -/
theorem covered_field {reference : ClassRef} {type : TypeRef} {hint : String × Value}
    (entry : catalog.find? (ClassValue.user reference).identity = some type)
    (covered : closure.registry.Covers catalog.graph type)
    (listed : hint ∈ told.fields reference) :
    ∃ type, module.Recorded occasion catalog hint.2 type ∧
      closure.registry.Covers catalog.graph type := by
  obtain ⟨index, standing, composite, _, shown⟩ :=
    run.read reference (.inl (List.ne_nil_of_mem listed))
  obtain rfl := Option.some.inj (standing.symm.trans entry)
  obtain ⟨field, inFields, _, recorded⟩ := exists_of_forall₂ shown listed
  have member : index ∈ closure.types := by
    rcases covered_atom run.accounts run.resolved entry covered with other | other | here
    · cases composite.symm.trans other
    · rw [isBuiltin_identity] at other
      cases other
    · exact here
  have kind : (catalog.graph.atom index).kind ≠ .enumeration := by
    rw [composite]
    exact nofun
  have fieldsCovered := ((resolve_covers run.resolved).2 index member).2 kind
  exact ⟨field.type, recorded, fieldsCovered _ (List.mem_map_of_mem inFields)⟩

/-- Every annotation that contributes is recorded by a type that is covered. -/
theorem covered {value : Value}
    (contributes : Contributes module occasion catalog owner service told value) :
    ∃ type, module.Recorded occasion catalog value type ∧
      closure.registry.Covers catalog.graph type := by
  have seedsCovered := (resolve_covers run.resolved).1
  induction contributes with
  | parameter listed offered inside =>
    obtain ⟨params, shown, among, _⟩ :=
      types_of_offered (List.forall₂_zip run.members listed) run.plain offered
    obtain ⟨param, inParams, recorded⟩ := exists_of_forall₂ shown inside
    exact ⟨param.type, recorded, seedsCovered _ (among param inParams)⟩
  | result listed offered method =>
    obtain ⟨_, _, _, result⟩ :=
      types_of_offered (List.forall₂_zip run.members listed) run.plain offered
    obtain ⟨type, member, recorded⟩ := result method
    exact ⟨type, recorded, seedsCovered type member⟩
  | part _ clear form member ih =>
    obtain ⟨type, recorded, covered⟩ := ih
    exact (run.passes recorded covered clear).arguments form _ member
  | field _ clear leads listed ih =>
    obtain ⟨type, recorded, covered⟩ := ih
    obtain ⟨_, entry, entryCovered⟩ := (run.passes recorded covered clear).classes leads
    exact run.covered_field entry entryCovered listed

/-- Every annotation that contributes is involved. -/
theorem involved (closes : module.Closes occasion)
    (admits : ∀ entry ∈ module.declaredFunctions owner, module.Admits occasion entry.2)
    {value : Value}
    (contributes : Contributes module occasion catalog owner service told value) :
    occasion.involved value := by
  induction contributes with
  | parameter listed _ described =>
    obtain ⟨_, _, usual, asked⟩ := (List.forall₂_zip run.members listed).hintsTold
    exact (admits _ (List.of_mem_zip listed).1 usual asked).2.1 _ described
  | result listed _ _ =>
    obtain ⟨_, _, usual, asked⟩ := (List.forall₂_zip run.members listed).hintsTold
    exact (admits _ (List.of_mem_zip listed).1 usual asked).2.2
  | part _ _ form member ih => exact closes.part ih ((construction_parts form).1 member)
  | @field _ reference _ _ _ leads listed ih =>
    obtain ⟨_, _, _, ⟨_, _, usual, asked⟩, _⟩ :=
      run.read reference (.inl (List.ne_nil_of_mem listed))
    exact (closes.hints (leads.involved closes ih) usual asked).2 _ listed

end Run

/-- Every annotation that contributes to the stub of a class is supported, or it is mistaken for
something else: its name is built in, or the entry of its identity was not made for it. The second
one happens only where names do not tell apart what the class involves. -/
theorem contributing_supported
    (described : module.describeService owner { memory } = .ok service known)
    (generated : generate options known.catalog.graph service = .ok stub) :
    ∃ closure constructs told,
      BuiltFrom options known.catalog.graph service stub closure constructs ∧
      List.Forall₂ (fun member hints =>
          module.FunctionHintsTold (module.occasion owner memory) member.2 hints)
        (module.declaredFunctions owner) told.functions ∧
      ∀ value, Contributes module (module.occasion owner memory) known.catalog owner service told
          value →
        module.Supported (module.occasion owner memory)
          (DeclaredAs module (module.occasion owner memory) known.catalog told closure.types)
          value ∨
        module.Mistaken (module.occasion owner memory) known.catalog value ∧
          ¬ module.NamesApart (module.occasion owner memory) known.catalog := by
  obtain ⟨closure, declarations, methods, events, built, _⟩ := generate_ok generated
  obtain ⟨told, run⟩ := exists_run described built.resolved
  refine ⟨closure, _, told, built, run.members.imp fun _ _ shown => shown.hintsTold,
    fun value contributes => ?_⟩
  obtain ⟨type, recorded, covered⟩ := run.covered contributes
  by_cases mistaken : module.Mistaken (module.occasion owner memory) known.catalog value
  · refine .inr ⟨mistaken, fun apart => ?_⟩
    exact apart.not_mistaken run.accounts closes_occasion
      (run.involved closes_occasion admits_occasion contributes) mistaken
  · exact .inl (run.passes recorded covered mistaken).supported

/-! ## A list with two arguments -/

/-- A class with two methods. -/
def sorter : ClassRef := { index := 0, moduleName := "svc", qualifiedName := "S", name := "S" }

/-- Lists of a type variable whose name reads like two. -/
def listOfLongName : Value := .builtinOf (.standard .list) [.typeVariable ⟨0, "T,~U"⟩]

/-- Lists applied to two type variables. -/
def listOfPair : Value :=
  .builtinOf (.standard .list) [.typeVariable ⟨1, "T"⟩, .typeVariable ⟨2, "U"⟩]

/-- A module with the class, whose methods return the lists. -/
def sorters : Module where
  name := "svc"
  classes := #[
    { reference := sorter, order := [.user sorter, .standard .object], annotations := []
      attributes := .ofList [("a", .function ⟨0, "svc", "S.a", "a"⟩),
        ("b", .function ⟨1, "svc", "S.b", "b"⟩)] }]
  functions := #[
    { qualifiedName := "S.a", parameters := [{ name := "self" }], returns := some listOfLongName },
    { qualifiedName := "S.b", parameters := [{ name := "self" }], returns := some listOfPair }]

/-- The service of the class. -/
def sorterService : Service :=
  ((sorters.describeService (.user sorter)).result? { memory := {} }).getD { name := "" }

/-- What is known after the service is described. -/
def sorterKnown : Knowledge :=
  (sorters.describeService (.user sorter)).knowledgeAfter { memory := {} }

/-- The hints that are told of the methods. -/
def sorterHints : ToldHints where
  functions := [([], some listOfLongName), ([], some listOfPair)]
  fields := fun _ => []

/-- The class is described and a stub is generated for it. -/
theorem sorter_generated :
    (sorters.describeService (.user sorter)).result? { memory := {} } = some sorterService ∧
      ∃ stub, generate {} sorterKnown.catalog.graph sorterService = .ok stub := by
  have described : ((sorters.describeService (.user sorter)).result? { memory := {} }).isSome := by
    decide +kernel
  have generated : (generate {} sorterKnown.catalog.graph sorterService).toOption.isSome := by
    decide +kernel
  constructor
  · obtain ⟨service, found⟩ := Option.isSome_iff_exists.mp described
    rw [sorterService, found]
    rfl
  · obtain ⟨stub, made⟩ := Option.isSome_iff_exists.mp generated
    exact ⟨stub, eq_ok_of_toOption made⟩

/-- The occasion on which the class is described. -/
def sorterOccasion : Occasion := sorters.occasion (.user sorter) {}

/-- What contributes to the stub of the class is supported or mistaken. -/
theorem contributing_supported_sorter :
    ∃ stub, generate {} sorterKnown.catalog.graph sorterService = .ok stub ∧
      ∃ closure constructs told,
        BuiltFrom {} sorterKnown.catalog.graph sorterService stub closure constructs ∧
        List.Forall₂ (fun member hints =>
            sorters.FunctionHintsTold sorterOccasion member.2 hints)
          (sorters.declaredFunctions (.user sorter)) told.functions ∧
        ∀ value,
          Contributes sorters sorterOccasion sorterKnown.catalog (.user sorter) sorterService told
            value →
          sorters.Supported sorterOccasion
              (DeclaredAs sorters sorterOccasion sorterKnown.catalog told closure.types) value ∨
            sorters.Mistaken sorterOccasion sorterKnown.catalog value ∧
              ¬ sorters.NamesApart sorterOccasion sorterKnown.catalog := by
  obtain ⟨given, stub, generated⟩ := sorter_generated
  exact ⟨stub, generated,
    contributing_supported (Describing.eq_ok_of_result? given) generated⟩

/-- A list with two arguments contributes to the stub of the class, although it is supported by no
declarations and no two classes of the module share a name: it has the identity of the other list
and is described by its type. -/
theorem unsupported_contributes :
    sorters.classes.size = 1 ∧ sorters.newTypes = #[] ∧
    (∃ stub, generate {} sorterKnown.catalog.graph sorterService = .ok stub) ∧
    ∃ told,
      List.Forall₂ (fun member hints =>
          sorters.FunctionHintsTold sorterOccasion member.2 hints)
        (sorters.declaredFunctions (.user sorter)) told.functions ∧
      Contributes sorters sorterOccasion sorterKnown.catalog (.user sorter) sorterService told
        listOfPair ∧
      ∀ declared, ¬ sorters.Supported sorterOccasion declared listOfPair := by
  have functions : sorters.declaredFunctions (.user sorter) =
      [("a", sorters.functionAt 0), ("b", sorters.functionAt 1)] := rfl
  have operations : sorterService.members.operations.map Operation.name = ["a", "b"] := by
    decide +kernel
  refine ⟨rfl, rfl, sorter_generated.2, sorterHints, ?_, ?_, ?_⟩
  · rw [functions]
    exact .cons ⟨{}, _, .start, rfl⟩ (.cons ⟨{}, _, .start, rfl⟩ .nil)
  · have listed : (("b", sorters.functionAt 1), sorterHints.functions[1]) ∈
        (sorters.declaredFunctions (.user sorter)).zip sorterHints.functions := by
      rw [functions]
      exact List.mem_cons_of_mem _ List.mem_cons_self
    change Contributes _ _ _ _ _ _ (FunctionHints.result sorterHints.functions[1])
    refine .result listed (.inr ?_) rfl
    rw [operations]
    exact List.mem_cons_of_mem _ List.mem_cons_self
  · intro declared supported
    cases supported with
    | elementary elementary => cases elementary
    | list form | application form => cases form

end ServiceStubs.Stub
