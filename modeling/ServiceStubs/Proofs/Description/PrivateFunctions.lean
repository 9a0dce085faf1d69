import ServiceStubs.Proofs.Description.PlainAnnotations

/-!
# Private functions

The functions of a class whose names begin with an underscore are described like all others and are
left out only when the operations of the service are selected, unless they are events. In between
they leave types behind, which later functions share, but a stub says nothing of how types are
shared. So classes whose other functions are the same have one stub, or fail with one error,
provided that the private functions of both can be described at all: one that cannot be described
makes the description of its class fail.

The proof compares the description of all functions with that of the offered ones alone. What both
know stays sound, and the services that they build up stay alike but for private methods.
-/

namespace ServiceStubs

open Source (ClassRef ClassValue Failure Function Memory Module Value)
open Describing

/-! ## Services without private methods -/

/-- Whether a function of a class may reach a stub: it is an event, or its name does not begin with
an underscore. -/
def isOfferedFunction (entry : String × Function) : Bool :=
  entry.2.isEvent || !Text.opensWith "_" entry.1

/-- Whether the name of a method does not begin with an underscore. -/
def Method.isPublic (method : Method) : Bool := !Text.opensWith "_" method.name

/-- A service without its private methods. -/
def Service.offered (service : Service) : Service :=
  { service with methods := service.methods.filter Method.isPublic }

/-- Private methods are no operations. -/
theorem Service.members_offered (service : Service) :
    service.offered.members = service.members := by
  have operations : (service.methods.filter Method.isPublic).filter
      (Method.isOperation (service.events.map Event.name)) =
        service.methods.filter (Method.isOperation (service.events.map Event.name)) := by
    rw [List.filter_filter]
    refine List.filter_congr fun method _ => ?_
    unfold Method.isOperation Method.isPublic
    cases Text.opensWith "_" method.name <;> simp
  rw [members, members, offered, operations]

/-- A service with the description of one more function. -/
def Service.withFunction (service : Service) (name : String) (isEvent : Bool)
    (described : List Param × TypeRef) : Service :=
  if isEvent then { service with events := service.events ++ [⟨name, described.1⟩] }
  else { service with
    methods := service.methods ++ [{ name, params := described.1, returnType := described.2 }] }

/-- A service is described function by function. -/
theorem Source.Module.describeFunctions_cons (module : Module) (service : Service) (name : String)
    (function : Function) (rest : List (String × Function)) :
    module.describeFunctions service ((name, function) :: rest) =
      module.describeFunction function >>= fun described =>
        module.describeFunctions (service.withFunction name function.isEvent described) rest := rfl

/-- A private function leaves what a service offers as it is. -/
theorem Service.offered_withFunction {service : Service} {name : String} {function : Function}
    {described : List Param × TypeRef} (hidden : isOfferedFunction (name, function) = false) :
    (service.withFunction name function.isEvent described).offered = service.offered := by
  simp only [isOfferedFunction, Bool.or_eq_false_iff, Bool.not_eq_false'] at hidden
  simp [withFunction, offered, Method.isPublic, hidden.1, hidden.2]

/-- Services stay alike when one function is added to both that is described alike. -/
theorem ServicesAlike.withFunction {related : TypeRef → TypeRef → Prop} {service other : Service}
    (alike : ServicesAlike related service.offered other.offered) {name : String} {isEvent : Bool}
    {described counterpart : List Param × TypeRef}
    (params : List.Forall₂ (ParamsAlike related) described.1 counterpart.1)
    (result : related described.2 counterpart.2) :
    ServicesAlike related (service.withFunction name isEvent described).offered
      (other.withFunction name isEvent counterpart).offered := by
  obtain ⟨named, methods, events⟩ := alike
  simp only [Service.offered] at named methods events
  cases isEvent with
  | true => exact ⟨named, methods, List.rel_append events (.cons ⟨rfl, params⟩ .nil)⟩
  | false =>
    refine ⟨named, ?_, events⟩
    simp only [Service.withFunction, Service.offered, if_neg Bool.false_ne_true,
      List.filter_append]
    refine List.rel_append methods (List.rel_filter (fun first second same => ?_)
      (.cons ⟨rfl, params, result, rfl⟩ .nil))
    simp only [Method.isPublic, same.name]

/-! ## Descriptions with and without private functions -/

variable {module : Module} {answers : Answers} {asked : Describing.Call → Prop}
variable {usual : Memory → Prop}

/-- Whether a function is described by a describer that knows nothing yet. -/
def Source.Module.describesAlone (module : Module) (usual : Memory → Prop) (function : Function) :
    Prop :=
  ∃ memory, usual memory ∧ ((module.describeFunction function).result? { memory }).isSome

/-- A request before one of two that run in parallel may be made first. -/
theorem Parallel.after {α β : Type} {alike : Catalog → Catalog → β → β → Prop}
    {first : Describing α} {next : α → Describing β} {other : Describing β}
    {left between right : Knowledge} {value : α} (done : first left = .ok value between)
    (keeps : left.catalog.Keeps between.catalog)
    (rest : Parallel module answers asked usual alike (next value) other between right) :
    Parallel module answers asked usual alike (first >>= next) other left right := by
  cases rest with
  | ok last alsoLast sound alsoSound keepsLast alsoKeeps same =>
    exact .ok (run_bind_eq_ok.mpr ⟨_, _, done, last⟩) alsoLast sound alsoSound
      (keeps.trans keepsLast) alsoKeeps same
  | error failed alsoFailed =>
    exact .error (run_bind_eq_error.mpr (.inr ⟨_, _, done, failed⟩)) alsoFailed

section

variable (orderly : Orderly module answers asked usual)

include orderly

/-- A function that is described alone is described whatever else is known. -/
theorem describeFunction_of_alone {known : Knowledge}
    (sound : Sound module answers asked usual [] known) {owner : ClassValue} {name : String}
    {function : Function} (call : asked (.serviceOf owner))
    (member : (name, function) ∈ module.declaredFunctions owner)
    (alone : module.describesAlone usual function) :
    ∃ described after, module.describeFunction function known = .ok described after ∧
      Sound module answers asked usual [] after ∧ known.catalog.Keeps after.catalog := by
  obtain ⟨memory, recalled, given⟩ := alone
  obtain ⟨found, result⟩ := Option.isSome_iff_exists.mp given
  cases describeFunction_parallel orderly sound (.fresh recalled) call member with
  | ok done _ after _ keeps _ _ => exact ⟨_, _, done, after, keeps⟩
  | error _ failed => cases failed.symm.trans (eq_ok_of_result? result)

/-- The description of all functions runs in parallel to that of the offered ones. -/
theorem describeFunctions_offered {owner : ClassValue} (call : asked (.serviceOf owner))
    {functions : List (String × Function)} (members : functions ⊆ module.declaredFunctions owner)
    (hidden : ∀ entry ∈ functions, isOfferedFunction entry = false →
      module.describesAlone usual entry.2)
    {left right : Knowledge} (first : Sound module answers asked usual [] left)
    (second : Sound module answers asked usual [] right) {service other : Service}
    (alike : ServicesAlike (left.catalog.SameSketch right.catalog) service.offered
      other.offered) :
    Parallel module answers asked usual
      (fun left right value counterpart =>
        ServicesAlike (left.SameSketch right) value.offered counterpart.offered)
      (module.describeFunctions service functions)
      (module.describeFunctions other (functions.filter isOfferedFunction)) left right := by
  -- On the functions. A private one is described on one side only, and what it leaves is sound.
  induction functions generalizing service other left right with
  | nil => exact .pure first second alike
  | cons entry rest ih =>
    obtain ⟨name, function⟩ := entry
    have member := members List.mem_cons_self
    have later : rest ⊆ module.declaredFunctions owner :=
      fun _ inRest => members (List.mem_cons_of_mem _ inRest)
    have laterHidden : ∀ entry ∈ rest, isOfferedFunction entry = false →
        module.describesAlone usual entry.2 :=
      fun entry inRest => hidden entry (List.mem_cons_of_mem _ inRest)
    rw [List.filter_cons, module.describeFunctions_cons]
    cases offers : isOfferedFunction (name, function) with
    | true =>
      rw [if_pos rfl, module.describeFunctions_cons]
      refine (describeFunction_parallel orderly first second call member).bind
        fun sound alsoSound same keeps alsoKeeps => ?_
      have kept := alike.imp fun _ _ types => types.keep keeps alsoKeeps
      exact ih later laterHidden sound alsoSound (kept.withFunction same.1 same.2)
    | false =>
      rw [if_neg Bool.false_ne_true]
      have alone : module.describesAlone usual function :=
        hidden (name, function) List.mem_cons_self offers
      obtain ⟨described, between, done, sound, keeps⟩ :=
        describeFunction_of_alone orderly first call member alone
      have kept := alike.imp fun _ _ types => types.keep keeps (.refl _)
      rw [← Service.offered_withFunction offers] at kept
      exact (ih later laterHidden sound second kept).after done keeps

end

/-! ## Stubs of classes -/

/-- The stub of a service that is requested of a describer that knows nothing yet. -/
def Describing.stub (request : Describing Service) (options : Options) (memory : Memory) :
    Except Failure Stub :=
  match request { memory } with
  | .ok service known => (Stub.generate options known.catalog.graph service).mapError .stub
  | .error failure _ => .error failure

/-- Requests in parallel whose services offer the same have one stub. -/
theorem Parallel.stub_eq (orderly : Orderly module answers asked usual)
    {request other : Describing Service} {memory otherMemory : Memory}
    (parallel : Parallel module answers asked usual
      (fun left right value counterpart =>
        ServicesAlike (left.SameSketch right) value.offered counterpart.offered)
      request other { memory } { memory := otherMemory }) (options : Options) :
    request.stub options memory = other.stub options otherMemory := by
  cases parallel with
  | @ok value counterpart _ _ done alsoDone sound alsoSound _ _ alike =>
    have names : value.name = counterpart.name := alike.name
    have members := alike.members
    rw [value.members_offered, counterpart.members_offered] at members
    rw [Describing.stub, Describing.stub, done, alsoDone]
    exact congrArg (Except.mapError Failure.stub)
      (generate_eq_of_sound orderly sound alsoSound names members options)
  | error failed alsoFailed => rw [Describing.stub, Describing.stub, failed, alsoFailed]

/-- A class has the stub of its offered functions, when its private functions are described
alone. -/
theorem stub_offered (orderly : Orderly module answers asked usual) {owner : ClassValue}
    (call : asked (.serviceOf owner))
    (described : ∀ entry ∈ module.declaredFunctions owner, isOfferedFunction entry = false →
      module.describesAlone usual entry.2)
    {memory otherMemory : Memory} (recalled : usual memory) (alsoRecalled : usual otherMemory)
    (options : Options) :
    (module.describeService owner).stub options memory =
      (module.describeFunctions { name := owner.name }
        ((module.declaredFunctions owner).filter isOfferedFunction)).stub options otherMemory :=
  Parallel.stub_eq orderly
    (describeFunctions_offered orderly call (List.Subset.refl _) described (.fresh recalled)
      (.fresh alsoRecalled) ⟨rfl, .nil, .nil⟩) options

/-- Classes of one name that offer the same functions have one stub, or fail with one error, when
the private functions of both can be described: neither their presence nor their parameters nor
their annotations matter. -/
theorem stub_eq_of_offered (orderly : Orderly module answers asked usual) {owner other : ClassValue}
    (call : asked (.serviceOf owner)) (alsoCall : asked (.serviceOf other))
    (names : owner.name = other.name)
    (same : (module.declaredFunctions owner).filter isOfferedFunction =
      (module.declaredFunctions other).filter isOfferedFunction)
    (described : ∀ entry ∈ module.declaredFunctions owner ++ module.declaredFunctions other,
      isOfferedFunction entry = false → module.describesAlone usual entry.2)
    {memory otherMemory : Memory} (recalled : usual memory) (alsoRecalled : usual otherMemory)
    (options : Options) :
    (module.describeService owner).stub options memory =
      (module.describeService other).stub options otherMemory := by
  have first := stub_offered orderly call
    (fun entry member => described entry (List.mem_append_left _ member)) recalled recalled options
  have second := stub_offered orderly alsoCall
    (fun entry member => described entry (List.mem_append_right _ member)) alsoRecalled recalled
    options
  rw [first, second, names, same]

/-! ## A class with and without a private function -/

/-- A class with a field of its own type. -/
def journalEntry : ClassRef :=
  { index := 0, moduleName := "svc", qualifiedName := "Entry", name := "Entry" }

/-- A service with a private function before its other functions. -/
def fullJournal : ClassRef :=
  { index := 1, moduleName := "svc", qualifiedName := "S", name := "S" }

/-- The service without the private function. -/
def plainJournal : ClassRef :=
  { index := 2, moduleName := "svc", qualifiedName := "S", name := "S" }

/-- A module with both services. The private function leads to the class that a later function
gives. -/
def journals : Module where
  name := "svc"
  classes := #[
    { reference := journalEntry, order := [.user journalEntry, .standard .object]
      annotations := [("next", .user journalEntry), ("size", .standard .int)]
      attributes := recordAttributes [] },
    { reference := fullJournal, order := [.user fullJournal, .standard .object], annotations := []
      attributes := .ofList [("_load", .function ⟨0, "svc", "S._load", "_load"⟩),
        ("ping", .function ⟨1, "svc", "S.ping", "ping"⟩),
        ("latest", .function ⟨2, "svc", "S.latest", "latest"⟩)] },
    { reference := plainJournal, order := [.user plainJournal, .standard .object], annotations := []
      attributes := .ofList [("ping", .function ⟨1, "svc", "S.ping", "ping"⟩),
        ("latest", .function ⟨2, "svc", "S.latest", "latest"⟩)] }]
  functions := #[
    { qualifiedName := "S._load", parameters := [{ name := "self" }, { name := "key" }]
      annotations := [("key", .standard .int)], returns := some (.user journalEntry) },
    { qualifiedName := "S.ping", parameters := [{ name := "self" }]
      returns := some (.standard .int) },
    { qualifiedName := "S.latest", parameters := [{ name := "self" }]
      returns := some (.user journalEntry) }]

/-- The calls for both services. -/
def journalCalls : Call → Prop
  | .typeOf _ => False
  | .serviceOf owner => owner = .user fullJournal ∨ owner = .user plainJournal

/-- The class with fields is the only one that the annotations of the module name. -/
theorem journals_plainlyAnnotated : PlainlyAnnotated journals [journalEntry] where
  listed := by decide +kernel
  classHints := by decide +kernel
  fieldHints := by decide +kernel
  enumerations := by decide +kernel
  unmarked := by decide +kernel
  untilded := by decide +kernel
  distinct := by decide +kernel

/-- Both services have one stub, whose interface has the two functions. -/
theorem stub_eq_of_offered_journals :
    (journals.describeService (.user fullJournal)).stub {} {} =
        (journals.describeService (.user plainJournal)).stub {} {} ∧
      ((journals.describeService (.user fullJournal)).stub {} {}).toOption.map
        (fun stub => (stub.methodCount, stub.typeCount)) = some (2, 1) := by
  have orderly : Orderly journals journals.firstAnswers journalCalls (· = {}) := by
    refine journals_plainlyAnnotated.orderly (fun value call => ?_) fun owner call => ?_
    · exact call.elim
    · obtain rfl | rfl := call <;> decide +kernel
  have alone : ((journals.describeFunction (journals.functionAt 0)).result?
      { memory := {} }).isSome := by decide +kernel
  refine ⟨stub_eq_of_offered orderly (.inl rfl) (.inr rfl) rfl rfl ?_ rfl rfl {}, by decide +kernel⟩
  rintro ⟨name, function⟩ member hidden
  have functions : journals.declaredFunctions (.user fullJournal) ++
      journals.declaredFunctions (.user plainJournal) =
        [("_load", journals.functionAt 0), ("ping", journals.functionAt 1),
          ("latest", journals.functionAt 2), ("ping", journals.functionAt 1),
          ("latest", journals.functionAt 2)] := rfl
  rw [functions] at member
  simp only [List.mem_cons, Prod.mk.injEq, List.not_mem_nil, or_false] at member
  obtain ⟨rfl, rfl⟩ | ⟨rfl, rfl⟩ | ⟨rfl, rfl⟩ | ⟨rfl, rfl⟩ | ⟨rfl, rfl⟩ := member
  · exact ⟨{}, rfl, alone⟩
  all_goals cases hidden

/-! ## A private function that cannot be described -/

/-- A generic class. -/
def ledgerPage : ClassRef :=
  { index := 0, moduleName := "svc", qualifiedName := "Page", name := "Page" }

/-- A service with a private function that gives the generic class without an argument. -/
def fullLedger : ClassRef := { index := 1, moduleName := "svc", qualifiedName := "S", name := "S" }

/-- The service without the private function. -/
def plainLedger : ClassRef := { index := 2, moduleName := "svc", qualifiedName := "S", name := "S" }

/-- A module with both services. -/
def ledgers : Module where
  name := "svc"
  classes := #[
    { reference := ledgerPage, order := [.user ledgerPage, .standard .generic, .standard .object]
      annotations := [("item", .typeVariable ⟨0, "T"⟩)]
      attributes := recordAttributes [.typeVariable ⟨0, "T"⟩] },
    { reference := fullLedger, order := [.user fullLedger, .standard .object], annotations := []
      attributes := .ofList [("ping", .function ⟨0, "svc", "S.ping", "ping"⟩),
        ("_load", .function ⟨1, "svc", "S._load", "_load"⟩)] },
    { reference := plainLedger, order := [.user plainLedger, .standard .object], annotations := []
      attributes := .ofList [("ping", .function ⟨0, "svc", "S.ping", "ping"⟩)] }]
  functions := #[
    { qualifiedName := "S.ping", parameters := [{ name := "self" }]
      returns := some (.standard .int) },
    { qualifiedName := "S._load", parameters := [{ name := "self" }]
      returns := some (.user ledgerPage) }]

/-- A private function that gives a generic class without an argument keeps its class from having a
stub, although the class offers nothing but what the class without the function offers. -/
theorem private_function_fails :
    (ClassValue.user fullLedger).name = (ClassValue.user plainLedger).name ∧
      (ledgers.declaredFunctions (.user fullLedger)).filter isOfferedFunction =
        ledgers.declaredFunctions (.user plainLedger) ∧
      (ledgers.declaredFunctions (.user fullLedger)).map Prod.fst = ["ping", "_load"] ∧
      (match (ledgers.describeService (.user fullLedger)).stub {} {} with
        | .error (.stub (.genericArity identity count)) => identity = "svc.Page" && count = 0
        | _ => false) = true ∧
      ((ledgers.describeService (.user plainLedger)).stub {} {}).toOption.isSome ∧
      (ledgers.describeService (.user fullLedger)).stub {} {} ≠
        (ledgers.describeService (.user plainLedger)).stub {} {} := by
  have made : ((ledgers.describeService (.user plainLedger)).stub {} {}).toOption.isSome := by
    decide +kernel
  have refused : ((ledgers.describeService (.user fullLedger)).stub {} {}).toOption.isSome =
      false := by decide +kernel
  refine ⟨rfl, rfl, rfl, by decide +kernel, made, fun same => ?_⟩
  rw [same, made] at refused
  cases refused

end ServiceStubs
