import ServiceStubs.Description.Service
import ServiceStubs.Proofs.Description.Growth
import ServiceStubs.Proofs.Results

/-!
# What requests enter

A composite that was entered for a class is whole when it has one field for each hint of the class,
and it is interrupted when the description of a field, or the evaluation of the hints, failed before
that. A request adds, to what is known before it, whole composites only when it succeeds and at
worst interrupted ones when it fails.
-/

namespace ServiceStubs

open Source

/-! ## Outcomes of requests -/

namespace Describing

variable {α β : Type} {before after : Knowledge}

/-- What is known after a request, whether it succeeds or fails. -/
def knowledgeAfter (request : Describing α) (before : Knowledge) : Knowledge :=
  match request before with
  | .ok _ after | .error _ after => after

/-- What a request gives, if it succeeds. -/
def result? (request : Describing α) (before : Knowledge) : Option α :=
  match request before with
  | .ok value _ => some value
  | .error _ _ => none

/-- A request that gives something succeeds with it. -/
theorem eq_ok_of_result? {request : Describing α} {value : α}
    (given : request.result? before = some value) :
    request before = .ok value (request.knowledgeAfter before) := by
  unfold result? at given
  unfold knowledgeAfter
  cases outcome : request before with
  | ok found after =>
    rw [outcome] at given
    exact congrArg (EStateM.Result.ok · after) (Option.some.inj given)
  | error failure after =>
    rw [outcome] at given
    cases given

/-- A request without its result is a sequence. -/
theorem discard_eq (request : Describing α) :
    Functor.discard request = request >>= fun _ => pure () := by
  rw [Functor.discard, map_const, bind_pure_comp]
  rfl

/-- A change of the catalog gives what it says and leaves what it makes. -/
theorem ofCatalog_ok {change : Catalog → α × Catalog} {value : α}
    (done : ofCatalog change before = .ok value after) :
    change before.catalog = (value, after.catalog) := by
  cases done
  rfl

/-- An atom with an unknown identity is kept at the end of the table. -/
theorem keepAtom_of_unknown {atom : Atom} (unknown : before.catalog.find? atom.identity = none) :
    keepAtom atom before = .ok (.atom before.catalog.size)
      { before with catalog := before.catalog.push atom } := by
  change EStateM.Result.ok (before.catalog.keepAtom atom).1
    { before with catalog := (before.catalog.keepAtom atom).2 } = _
  rw [Catalog.keepAtom_of_unknown unknown]

/-- An evaluation succeeds in what is remembered. -/
theorem ofEvaluating_ok {told : Fault → Source.Failure} {evaluation : Evaluating α} {value : α}
    (done : ofEvaluating told evaluation before = .ok value after) :
    evaluation before.memory = .ok value after.memory := by
  unfold ofEvaluating at done
  cases outcome : evaluation before.memory with
  | ok found memory =>
    rw [outcome] at done
    cases done
    rfl
  | error fault memory =>
    rw [outcome] at done
    cases done

/-- A question of the host has an answer. -/
theorem ofHost_ok {found : Except Fault α} {value : α}
    (done : ofHost found before = .ok value after) : found = .ok value := by
  cases found with
  | ok answer =>
    cases done
    rfl
  | error fault => cases done

/-- Whether a request leaves every catalog as it is. -/
def Reads (request : Describing α) : Prop :=
  ∀ before, (request.knowledgeAfter before).catalog = before.catalog

namespace Reads

variable {request : Describing α}

/-- The catalog after a successful request that only reads it. -/
theorem ok (reads : Reads request) {value : α} (done : request before = .ok value after) :
    after.catalog = before.catalog := by
  simpa [knowledgeAfter, done] using reads before

/-- The catalog after a failed request that only reads it. -/
theorem error (reads : Reads request) {failure : Source.Failure}
    (failed : request before = .error failure after) : after.catalog = before.catalog := by
  simpa [knowledgeAfter, failed] using reads before

/-- A result that is given. -/
theorem pure (value : α) : Reads (pure value) := fun _ => rfl

/-- A failure that is given. -/
theorem throw (failure : Source.Failure) : Reads (throw failure : Describing α) := fun _ => rfl

/-- Requests in sequence. -/
theorem bind {next : α → Describing β} (reads : Reads request)
    (rest : ∀ value, Reads (next value)) : Reads (request >>= next) := by
  intro before
  cases outcome : (request >>= next) before with
  | ok result last =>
    obtain ⟨value, between, first, second⟩ := run_bind_eq_ok.mp outcome
    rw [knowledgeAfter, outcome]
    exact ((rest value).ok second).trans (reads.ok first)
  | error failure last =>
    rw [knowledgeAfter, outcome]
    rcases run_bind_eq_error.mp outcome with first | ⟨value, between, first, second⟩
    · exact reads.error first
    · exact ((rest value).error second).trans (reads.ok first)

/-- The types described so far. -/
theorem catalog : Reads catalog := fun _ => rfl

/-- An outcome that is given. -/
theorem ofExcept (outcome : Except Source.Failure α) : Reads (ofExcept outcome) := by
  cases outcome with
  | ok value => exact pure value
  | error failure => exact throw failure

/-- A question of the host. -/
theorem ofHost (found : Except Fault α) : Reads (ofHost found) := ofExcept _

/-- An evaluation. -/
theorem ofEvaluating (told : Fault → Source.Failure) (evaluation : Evaluating α) :
    Reads (ofEvaluating told evaluation) := by
  intro before
  unfold knowledgeAfter Describing.ofEvaluating
  cases evaluation before.memory <;> rfl

end Reads

end Describing

/-! ## Hints and composites of classes -/

namespace Source.Module

variable (module : Module)

/-- Whether some hints are, at some time, those of the fields of a class. -/
def HintsOf (reference : ClassRef) (hints : List (String × Value)) : Prop :=
  ∃ before after, module.fieldHints (.user reference) before = .ok hints after

/-- Whether the hints of a class cannot be evaluated at some time. -/
def HintsFail (reference : ClassRef) : Prop :=
  ∃ before failure after, module.fieldHints (.user reference) before = .error failure after

/-- Whether a hint was described as a type on the way to a catalog. -/
def DescribedAs (catalog : Catalog) (hint : Value) (type : TypeRef) : Prop :=
  ∃ depth before after, describeValue module (describeClass module depth) hint before =
    .ok type after ∧ catalog.Extends after.catalog

/-- Whether fields are those for some hints: one for each hint in order, with its name and the type
that it was described as. -/
def FieldsFor (catalog : Catalog) (hints : List (String × Value)) (fields : List Field) : Prop :=
  List.Forall₂ (fun hint field =>
    field.name = hint.1 ∧ module.DescribedAs catalog hint.2 field.type) hints fields

/-- Whether a composite was entered for a class: all but its fields is as the class tells it. -/
def EnteredFor (reference : ClassRef) (atom : Atom) : Prop :=
  module.compositeAtom reference = .ok { atom with fields := [] }

/-- Whether a type, if it is a composite, has a field for each hint of its class. -/
def Whole (catalog : Catalog) (atom : Atom) : Prop :=
  atom.kind = .composite → ∃ reference hints, module.EnteredFor reference atom ∧
    module.HintsOf reference hints ∧ module.FieldsFor catalog hints atom.fields

/-- Whether a type is a composite whose description ended too early: it has no field because the
hints of its class could not be evaluated, or it has the fields before one that could not be
described. -/
def Interrupted (catalog : Catalog) (atom : Atom) : Prop :=
  atom.kind = .composite ∧ ∃ reference, module.EnteredFor reference atom ∧
    ((module.HintsFail reference ∧ atom.fields = []) ∨
      ∃ described hint remaining, module.HintsOf reference (described ++ hint :: remaining) ∧
        module.FieldsFor catalog described atom.fields)

/-- Whether a type is whole or interrupted. -/
def Begun (catalog : Catalog) (atom : Atom) : Prop :=
  module.Whole catalog atom ∨ module.Interrupted catalog atom

variable {module}

/-- What a hint was described as is not forgotten. -/
theorem DescribedAs.extend {earlier later : Catalog} (extended : later.Extends earlier)
    {hint : Value} {type : TypeRef} (described : module.DescribedAs earlier hint type) :
    module.DescribedAs later hint type := by
  obtain ⟨depth, before, after, done, since⟩ := described
  exact ⟨depth, before, after, done, extended.trans since⟩

/-- Fields stay those for their hints. -/
theorem FieldsFor.extend {earlier later : Catalog} (extended : later.Extends earlier)
    {hints : List (String × Value)} {fields : List Field}
    (complete : module.FieldsFor earlier hints fields) : module.FieldsFor later hints fields :=
  complete.imp fun _ _ ⟨named, described⟩ => ⟨named, described.extend extended⟩

/-- A whole composite stays whole. -/
theorem lasting_whole : Catalog.Lasting module.Whole := by
  intro earlier later atom extended whole composite
  obtain ⟨reference, hints, entered, ofClass, complete⟩ := whole composite
  exact ⟨reference, hints, entered, ofClass, complete.extend extended⟩

/-- An interrupted composite stays as it is. -/
theorem lasting_begun : Catalog.Lasting module.Begun := by
  rintro earlier later atom extended (whole | ⟨composite, reference, entered, stopped⟩)
  · exact .inl (lasting_whole extended whole)
  · refine .inr ⟨composite, reference, entered, stopped.imp_right ?_⟩
    rintro ⟨described, hint, remaining, ofClass, complete⟩
    exact ⟨described, hint, remaining, ofClass, complete.extend extended⟩

/-! ## What requests add -/

variable (module) in
/-- What a request adds to what is known before it: whole types when it succeeds, and types that are
at least begun when it fails. -/
structure Adds {α : Type} (request : Describing α) (before : Knowledge) : Prop where
  ok : ∀ {value after}, request before = .ok value after →
    before.catalog.Grown module.Whole after.catalog
  error : ∀ {failure after}, request before = .error failure after →
    before.catalog.Grown module.Begun after.catalog

namespace Adds

variable {α β : Type} {request : Describing α} {before : Knowledge}

/-- A request that only reads a catalog adds nothing to it. -/
theorem of_reads (reads : request.Reads) (before : Knowledge) : module.Adds request before where
  ok done := reads.ok done ▸ .refl _
  error failed := reads.error failed ▸ .refl _

/-- Requests in sequence. -/
theorem bind {next : α → Describing β} (first : module.Adds request before)
    (rest : ∀ {value between}, request before = .ok value between →
      module.Adds (next value) between) : module.Adds (request >>= next) before where
  ok done := by
    obtain ⟨value, between, started, finished⟩ := run_bind_eq_ok.mp done
    exact (first.ok started).trans lasting_whole ((rest started).ok finished)
  error failed := by
    rcases run_bind_eq_error.mp failed with started | ⟨value, between, started, finished⟩
    · exact first.error started
    · exact ((first.ok started).mono fun _ _ => .inl).trans lasting_begun
        ((rest started).error finished)

/-- A request for the sake of what it enters. -/
theorem discard (adds : module.Adds request before) : module.Adds (discard request) before := by
  have sequence : Functor.discard request = request >>= fun _ => pure () := by
    rw [Functor.discard, map_const, bind_pure_comp]
    rfl
  rw [sequence]
  exact adds.bind fun _ => of_reads (.pure ()) _

end Adds

end Source.Module

end ServiceStubs
