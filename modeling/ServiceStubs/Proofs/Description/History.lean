import ServiceStubs.Proofs.Description.Wholeness

/-!
# Composites after any history of calls

A describer answers calls one after another and keeps what it knows, also of a call that failed.
After any history each composite that it knows either is whole or was entered in the course of a
call that failed, and then it has the fields before the one at which it was left. So composites are
whole as long as no call has failed. A failed call is not always noticed again: its class is found
the next time, with the fields it has.
-/

namespace ServiceStubs

open Source Describing

namespace Source.Module

variable {module : Module} {before : Knowledge}

/-! ## Services -/

/-- An annotation of a module. -/
theorem Adds.describe (value : Value) : module.Adds (module.describe value) before :=
  describeValue (describeClass module.classes.size) value before

/-- The parameters of a function. -/
theorem Adds.describeParameters (hints : List (String × Value)) (parameters : List Parameter) :
    module.Adds (module.describeParameters hints parameters) before := by
  induction parameters generalizing before with
  | nil => exact of_reads (.pure _) _
  | cons parameter rest ih =>
    exact bind (describe _) fun _ => bind ih fun _ => of_reads (.pure _) _

/-- A function adds what its parameters and its result add. -/
theorem Adds.describeFunction (function : Function) :
    module.Adds (module.describeFunction function) before := by
  refine bind (of_reads (.ofEvaluating _ _) _) fun _ => ?_
  exact bind (describeParameters _ _) fun _ => bind (describe _) fun _ => of_reads (.pure _) _

/-- Functions that are appended to a service. -/
theorem Adds.describeFunctions (service : Service) (functions : List (String × Function)) :
    module.Adds (module.describeFunctions service functions) before := by
  induction functions generalizing service before with
  | nil => exact of_reads (.pure _) _
  | cons entry rest ih => exact bind (describeFunction entry.2) fun _ => ih _

end Source.Module

/-! ## Calls -/

/-- A call on a describer. -/
inductive Describing.Call
  /-- The type of an annotation is asked for. -/
  | typeOf (value : Value)
  /-- The service of a class is asked for. -/
  | serviceOf (value : ClassValue)

/-- What a call requests, but for its answer. -/
def Describing.Call.request (module : Module) : Call → Describing Unit
  | typeOf value => discard (module.describe value)
  | serviceOf value => discard (module.describeService value)

namespace Source.Module

variable {module : Module} {before : Knowledge}

/-- What is known after some calls in order, whether they succeed or fail. -/
def afterCalls (module : Module) (known : Knowledge) (calls : List Call) : Knowledge :=
  calls.foldl (fun known call => (call.request module).knowledgeAfter known) known

/-- A call adds what the description adds that it asks for. -/
theorem Adds.call (module : Module) (call : Call) (before : Knowledge) :
    module.Adds (call.request module) before := by
  cases call with
  | typeOf value => exact discard (describe value)
  | serviceOf value => exact discard (describeFunctions _ _)

/-- A call that succeeds adds whole types, and any call adds types that are at least begun. -/
theorem grown_call (module : Module) (call : Call) (before : Knowledge) :
    (((call.request module).result? before).isSome →
      before.catalog.Grown module.Whole ((call.request module).knowledgeAfter before).catalog) ∧
    before.catalog.Grown module.Begun ((call.request module).knowledgeAfter before).catalog := by
  have adds := Adds.call module call before
  unfold result? knowledgeAfter
  cases outcome : call.request module before with
  | ok value after => exact ⟨fun _ => adds.ok outcome, (adds.ok outcome).mono fun _ _ => .inl⟩
  | error failure after => exact ⟨nofun, adds.error outcome⟩

/-- Calls add types that are at least begun. -/
theorem grown_afterCalls (module : Module) (calls : List Call) (before : Knowledge) :
    before.catalog.Grown module.Begun (module.afterCalls before calls).catalog := by
  induction calls generalizing before with
  | nil => exact .refl _
  | cons call rest ih => exact (grown_call module call before).2.trans lasting_begun (ih _)

/-- Whether a type was entered by one of some calls that failed. -/
def EnteredByFailure (module : Module) (known : Knowledge) (calls : List Call) (index : Nat) :
    Prop :=
  ∃ earlier call later, calls = earlier ++ call :: later ∧
    ((call.request module).result? (module.afterCalls known earlier)).isNone ∧
    (module.afterCalls known earlier).catalog.size ≤ index ∧
    index < (module.afterCalls known (earlier ++ [call])).catalog.size

/-- A type that is new after some calls is whole, or it is interrupted and was entered by one of
them that failed. -/
theorem whole_or_interrupted (calls : List Call) (before : Knowledge) {index : Nat} {atom : Atom}
    (new : before.catalog.size ≤ index)
    (entered : (module.afterCalls before calls).catalog.atomAt? index = some atom) :
    module.Whole (module.afterCalls before calls).catalog atom ∨
      module.Interrupted (module.afterCalls before calls).catalog atom ∧
        module.EnteredByFailure before calls index := by
  induction calls generalizing before with
  | nil => exact absurd (Catalog.lt_size entered) (Nat.not_lt.mpr new)
  | cons call rest ih =>
    let between := (call.request module).knowledgeAfter before
    obtain ⟨succeeds, grown⟩ := grown_call module call before
    have since := grown_afterCalls module rest between
    -- A type is new with this call or with a later one. What this call has entered stays as it is
    -- in the course of the later ones.
    by_cases early : index < between.catalog.size
    · have standing : between.catalog.atomAt? index = some atom :=
        (since.kept early).symm.trans entered
      cases outcome : (call.request module).result? before with
      | some _ =>
        have grownWhole := succeeds (by rw [outcome]; rfl)
        exact .inl (lasting_whole since.extension (grownWhole.added new standing))
      | none =>
        refine (lasting_begun since.extension (grown.added new standing)).imp_right
          fun stopped => ⟨stopped, [], call, rest, rfl, ?_, new, early⟩
        rw [afterCalls, List.foldl_nil, outcome]
        rfl
    · refine (ih between (Nat.not_lt.mp early) entered).imp_right ?_
      rintro ⟨stopped, earlier, failing, later, rfl, failed, since, till⟩
      exact ⟨stopped, call :: earlier, failing, later, rfl, failed, since, till⟩

/-- Whatever calls a describer has answered, every composite that it knows has all fields of its
class, unless a call that failed has entered it; then it has the fields before the one at which that
call left it. -/
theorem afterCalls_whole (module : Module) (memory : Memory) (calls : List Call) {index : Nat}
    {atom : Atom}
    (entered : (module.afterCalls { memory } calls).catalog.atomAt? index = some atom) :
    module.Whole (module.afterCalls { memory } calls).catalog atom ∨
      module.Interrupted (module.afterCalls { memory } calls).catalog atom ∧
        module.EnteredByFailure { memory } calls index :=
  whole_or_interrupted calls { memory } (Nat.zero_le index) entered

end Source.Module

/-! ## A call that fails only once -/

/-- The attributes of a class with fields, with the type parameters that it states. -/
def recordAttributes (parameters : List Value) : OrderedMap String Value :=
  .ofList [(fieldsName, .dictionary []), (parametersAttribute, .tuple parameters),
    ("__no_type_check__", .ofBool false)]

/-- A generic class. -/
def page : ClassRef := { index := 0, moduleName := "svc", qualifiedName := "Page", name := "Page" }

/-- A class with a field of a generic class that is not applied. -/
def holder : ClassRef :=
  { index := 1, moduleName := "svc", qualifiedName := "Holder", name := "Holder" }

/-- A module with both classes. -/
def holders : Module where
  name := "svc"
  classes := #[
    { reference := page, order := [.user page, .standard .object]
      annotations := [("item", .typeVariable ⟨0, "T"⟩)]
      attributes := recordAttributes [.typeVariable ⟨0, "T"⟩] },
    { reference := holder, order := [.user holder, .standard .object]
      annotations := [("a", .standard .int), ("page", .user page), ("b", .standard .str)]
      attributes := recordAttributes [] }]

/-- Two calls for the type of the second class. -/
def holderTwice : List Call := [.typeOf (.user holder), .typeOf (.user holder)]

/-- The composite of the second class is whole or interrupted after the calls. -/
theorem afterCalls_whole_holders :
    let known := holders.afterCalls { memory := {} } holderTwice
    let atom := known.catalog.graph.atom 0
    known.catalog.atomAt? 0 = some atom ∧
    (holders.Whole known.catalog atom ∨
      holders.Interrupted known.catalog atom ∧
        holders.EnteredByFailure { memory := {} } holderTwice 0) :=
  have entered := Catalog.atomAt?_of_lt (by decide +kernel)
  ⟨entered, Module.afterCalls_whole holders {} holderTwice entered⟩

/-- The class is refused the first time, because its second field needs an argument. The second time
it is described by a composite with the first field alone. -/
theorem holder_described_again :
    let request := holders.describe (.user holder)
    let failed := request.knowledgeAfter { memory := {} }
    let again := request.knowledgeAfter failed
    (request.result? { memory := {} }).isNone ∧
    (request.result? failed).map (fun type => (again.catalog.graph.fields type).map Field.name) =
      some ["a"] ∧
    ((holders.fieldHints (.user holder)).result? failed).map (fun hints => hints.map Prod.fst) =
      some ["a", "page", "b"] := by
  decide +kernel

end ServiceStubs
