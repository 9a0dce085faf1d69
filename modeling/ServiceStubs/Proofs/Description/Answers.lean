import ServiceStubs.Proofs.Description.Comparison

/-!
# Answers after other answers

Calls that succeed leave a sound catalog sound, so a describer answers the next call as one that
knows nothing yet: with the same failure, or with types that are equal up to sharing. What a host
tells is a function of what it is asked as long as no evaluation remembers anything.
-/

namespace ServiceStubs

open Source (ClassValue Evaluating Failure Fault Memory Module)
open Describing

/-! ## Answers up to sharing -/

/-- Whether related types of two graphs are the same but for how their parts are shared. -/
structure TypeGraph.EqualUpToSharing (left right : TypeGraph)
    (related : TypeRef → TypeRef → Prop) : Prop where
  corresponds : left.Correspondence right related
  identity : ∀ {first second : TypeRef}, related first second →
    left.identity first = right.identity second

/-- Whether a request has one outcome on two states of knowledge: one failure, or results that are
alike over types that are equal up to sharing. -/
inductive Describing.SameOutcome {α : Type} (alike : (TypeRef → TypeRef → Prop) → α → α → Prop)
    (request : Describing α) (left right : Knowledge) : Prop
  /-- Both times there is a result. -/
  | ok {value other : α} {leftAfter rightAfter : Knowledge} {related : TypeRef → TypeRef → Prop}
      (done : request left = .ok value leftAfter) (alsoDone : request right = .ok other rightAfter)
      (types : leftAfter.catalog.graph.EqualUpToSharing rightAfter.catalog.graph related)
      (results : alike related value other)
  /-- Both times there is a failure. -/
  | error {failure : Failure} {leftAfter rightAfter : Knowledge}
      (failed : request left = .error failure leftAfter)
      (alsoFailed : request right = .error failure rightAfter)

/-- Whether a call has one answer on two states of knowledge, up to sharing. -/
def Describing.Call.SameAnswer (module : Module) (left right : Knowledge) : Call → Prop
  | typeOf value => SameOutcome (fun related => related) (module.describe value) left right
  | serviceOf value => SameOutcome ServicesAlike (module.describeService value) left right

/-- Whether some calls in order all succeed. -/
def Source.Module.answersAll (module : Module) : Knowledge → List Call → Bool
  | _, [] => true
  | known, call :: rest =>
    ((call.request module).result? known).isSome &&
      module.answersAll ((call.request module).knowledgeAfter known) rest

/-! ## Histories -/

variable {module : Module} {answers : Answers} {asked : Describing.Call → Prop}
variable {usual : Memory → Prop}

/-- A describer that knows nothing yet has a sound catalog. -/
theorem Sound.fresh {memory : Memory} (recalled : usual memory) :
    Sound module answers asked usual [] { memory } where
  usual := recalled
  entries found := by cases found
  plain entered := by cases entered
  composites entered := by cases entered
  begun := List.forall_mem_nil _

/-- Requests in parallel have one outcome. -/
theorem Parallel.sameOutcome (orderly : Orderly module answers asked usual) {α : Type}
    {alike : (TypeRef → TypeRef → Prop) → α → α → Prop} {request : Describing α}
    {left right : Knowledge}
    (parallel : Parallel module answers asked usual
      (fun left right => alike (left.SameSketch right)) request request left right) :
    SameOutcome alike request left right := by
  cases parallel with
  | ok done alsoDone sound alsoSound _ _ same =>
    exact .ok done alsoDone ⟨Sound.corresponds orderly sound alsoSound, (·.identity_eq)⟩ same
  | error failed alsoFailed => exact .error failed alsoFailed

/-- A request that succeeds leaves a sound catalog when its outcome is told. -/
theorem Parallel.sound_discard {α : Type} {alike : Catalog → Catalog → α → α → Prop}
    {request : Describing α} {known : Knowledge}
    (parallel : Parallel module answers asked usual alike request request known known)
    (answered : ((discard request).result? known).isSome) :
    Sound module answers asked usual [] ((discard request).knowledgeAfter known) := by
  obtain ⟨_, given⟩ := Option.isSome_iff_exists.mp answered
  have outcome := eq_ok_of_result? given
  rw [discard_eq] at outcome
  obtain ⟨_, between, first, last⟩ := run_bind_eq_ok.mp outcome
  obtain ⟨_, rfl⟩ := EStateM.Result.ok.inj last
  cases parallel with
  | ok done _ sound _ _ _ _ =>
    obtain ⟨_, rfl⟩ := EStateM.Result.ok.inj (done.symm.trans first)
    exact sound
  | error failed _ => cases failed.symm.trans first

section

variable (orderly : Orderly module answers asked usual)

include orderly

/-- A call is answered alike by any two describers. -/
theorem sameAnswer {left right : Knowledge} (first : Sound module answers asked usual [] left)
    (second : Sound module answers asked usual [] right) {call : Call} (isAsked : asked call) :
    call.SameAnswer module left right := by
  cases call with
  | typeOf value =>
    exact (describe_parallel orderly first second (.wanted isAsked)).sameOutcome orderly
  | serviceOf owner =>
    exact (describeService_parallel orderly first second isAsked).sameOutcome orderly

/-- A call that succeeds leaves a sound catalog. -/
theorem Sound.afterCall {known : Knowledge} (sound : Sound module answers asked usual [] known)
    {call : Call} (isAsked : asked call) (answered : ((call.request module).result? known).isSome) :
    Sound module answers asked usual [] ((call.request module).knowledgeAfter known) := by
  cases call with
  | typeOf value =>
    exact (describe_parallel orderly sound sound (.wanted isAsked)).sound_discard answered
  | serviceOf owner =>
    exact (describeService_parallel orderly sound sound isAsked).sound_discard answered

/-- Calls that succeed leave a sound catalog. -/
theorem Sound.afterCalls {known : Knowledge} (sound : Sound module answers asked usual [] known)
    {calls : List Call} (areAsked : ∀ call ∈ calls, asked call)
    (answered : module.answersAll known calls) :
    Sound module answers asked usual [] (module.afterCalls known calls) := by
  induction calls generalizing known with
  | nil => exact sound
  | cons call rest ih =>
    obtain ⟨here, later⟩ := Bool.and_eq_true_iff.mp answered
    exact ih (sound.afterCall orderly (areAsked call List.mem_cons_self) here)
      (fun other member => areAsked other (List.mem_cons_of_mem call member)) later

end

/-- Errors that tell the same of types with one sketch are equal. -/
theorem error_eq_of_sameSketch {left right : Catalog} {failure other : StubError}
    (same : TypeGraph.SameError left.graph right.graph (left.SameSketch right) failure other) :
    failure = other := by
  cases same with
  | genericArity types count => rw [types.identity_eq]
  | unmappableType types kind => rw [types.identity_eq]

/-- Services that are alike over types with the same sketches have one stub, or fail with one
error. -/
theorem generate_eq_of_sound (orderly : Orderly module answers asked usual)
    {left right : Knowledge} (first : Sound module answers asked usual [] left)
    (second : Sound module answers asked usual [] right) {service other : Service}
    (names : service.name = other.name)
    (alike : MembersAlike (left.catalog.SameSketch right.catalog) service.members other.members)
    (options : Options) :
    Stub.generate options left.catalog.graph service =
      Stub.generate options right.catalog.graph other := by
  have agree : Agree _ Eq (Stub.generate options left.catalog.graph service)
      (Stub.generate options right.catalog.graph other) :=
    Stub.generate_agree (Sound.corresponds orderly first second)
      (fun same => congrArg Registry.typescript.builtin? same.identity_eq) names alike
  generalize Stub.generate options left.catalog.graph service = outcome at agree ⊢
  generalize Stub.generate options right.catalog.graph other = counterpart at agree ⊢
  cases agree with
  | ok same => rw [same]
  | error same => rw [error_eq_of_sameSketch same]

/-! ## Evaluations that remember nothing -/

/-- Whether nothing is remembered. -/
def Source.Memory.isBlank (memory : Memory) : Bool :=
  memory.applications.isEmpty && memory.resolved.isEmpty && memory.printed.isEmpty &&
    memory.bound.entries.isEmpty && memory.placeCount = 1

/-- There is one memory of nothing. -/
theorem eq_of_isBlank {memory : Memory} (blank : memory.isBlank) : memory = {} := by
  obtain ⟨applications, resolved, printed, ⟨entries, distinct⟩, placeCount⟩ := memory
  simp only [Memory.isBlank, Bool.and_eq_true, List.isEmpty_iff, Array.isEmpty_iff,
    decide_eq_true_eq] at blank
  obtain ⟨⟨⟨⟨rfl, rfl⟩, rfl⟩, rfl⟩, rfl⟩ := blank
  rfl

/-- What an evaluation tells when nothing is remembered. -/
def Source.Evaluating.told {α : Type} (evaluation : Evaluating α) : Except Fault α :=
  match evaluation {} with
  | .ok value _ => .ok value
  | .error fault _ => .error fault

/-- Whether an evaluation remembers nothing. -/
def Source.Evaluating.isForgetful {α : Type} (evaluation : Evaluating α) : Bool :=
  match evaluation {} with
  | .ok _ later | .error _ later => later.isBlank

/-- An evaluation that remembers nothing tells the same as long as nothing is remembered. -/
theorem tells_of_isForgetful {α : Type} {evaluation : Evaluating α}
    (forgetful : evaluation.isForgetful) : Tells (· = {}) evaluation.told evaluation := by
  rintro _ rfl
  unfold Evaluating.isForgetful at forgetful
  unfold Evaluating.told
  cases outcome : evaluation {} with
  | ok value later | error fault later =>
    rw [outcome] at forgetful
    obtain rfl := eq_of_isBlank forgetful
    exact ⟨{}, rfl, rfl⟩

/-- The answers of a module as long as nothing is remembered. -/
def Source.Module.firstAnswers (module : Module) : Answers where
  classHints reference := (module.classHints (.user reference)).told
  functionHints function := (module.functionHints function).told
  enumeration reference := (module.enumerationAtom reference).told
  listLike value := (module.seemsListLike value).told

end ServiceStubs
