import ServiceStubs.Command.Run
import ServiceStubs.Proofs.Description.PlainAnnotations

/-!
# Stubs that do not depend on each other

The stubs of a run are generated from services that one describer describes one after the other. A
stub says nothing of how types are shared, so each symbol of a run that succeeds has the file that
it has alone.
-/

namespace ServiceStubs

open Source (ClassRef ClassValue Failure Function Value Memory Module)
open Describing

variable {module : Module} {answers : Answers} {asked : Describing.Call → Prop}
variable {usual : Memory → Prop}

/-! ## Stubs of a run -/

/-- Whether a symbol stands for a class whatever is remembered. -/
def Source.Module.Finds (module : Module) (usual : Memory → Prop) (symbol : String)
    (owner : ClassValue) : Prop :=
  ∀ known : Knowledge, usual known.memory → ∃ memory, usual memory ∧
    module.findService symbol known = .ok owner { known with memory }

/-- A symbol is found as long as nothing is remembered when it leads to a class then. -/
theorem finds_of_valueAt {module : Module} {symbol : String} {owner : ClassValue}
    (found : (match (module.withBound {}).valueAt (Text.pieces '.' symbol) {} with
      | .ok (.classValue value) later => value = owner && later.isBlank
      | _ => false) = true) : module.Finds (· = {}) symbol owner := by
  rintro ⟨catalog, _⟩ rfl
  refine ⟨{}, rfl, ?_⟩
  split at found
  · rename_i value later outcome
    obtain ⟨same, blank⟩ := Bool.and_eq_true_iff.mp found
    obtain rfl := of_decide_eq_true same
    obtain rfl := eq_of_isBlank blank
    refine run_bind_eq_ok.mpr ⟨_, _, rfl, ?_⟩
    refine run_bind_eq_ok.mpr ⟨.classValue value, ⟨catalog, {}⟩, ?_, rfl⟩
    simp only [Describing.ofEvaluating, outcome]
  · cases found

namespace Command

variable {request : Request} {generator : Generator} {options : Options} {symbol : String}

/-- A session in which something else is known knows that. -/
@[simp] theorem Session.knowledge_knowing (session : Session) (knowledge : Knowledge) :
    (session.knowing knowledge).knowledge = knowledge := rfl

/-- A part of a run that describes types succeeds when the description does. -/
theorem Working.describe_eq_ok {α : Type} {description : Describing α} {session after : Session}
    {value : α} :
    Working.describe description session = .ok value after ↔
      ∃ knowledge, description session.knowledge = .ok value knowledge ∧
        after = session.knowing knowledge := by
  rw [Working.describe]
  cases description session.knowledge with
  | ok found knowledge =>
    simp only [EStateM.Result.ok.injEq]
    constructor
    · rintro ⟨rfl, rfl⟩
      exact ⟨knowledge, ⟨rfl, rfl⟩, rfl⟩
    · rintro ⟨_, ⟨rfl, rfl⟩, rfl⟩
      exact ⟨rfl, rfl⟩
  | error failure knowledge => simp

/-- The outcome of a request in a run. -/
theorem Working.ofExcept_eq_ok {α : Type} {found : Except Failure α} {session after : Session}
    {value : α} :
    Working.ofExcept found session = .ok value after ↔ found = .ok value ∧ after = session := by
  cases found with
  | ok given =>
    refine ⟨fun done => ?_, ?_⟩
    · obtain ⟨rfl, rfl⟩ := EStateM.Result.ok.inj done
      exact ⟨rfl, rfl⟩
    · rintro ⟨same, rfl⟩
      obtain rfl := Except.ok.inj same
      rfl
  | error failure => exact ⟨fun done => (nomatch done), fun same => (nomatch same.1)⟩

/-- A symbol has files when its service is found and described and its generator makes them; from
then on the run knows what the description has left. -/
theorem generateFiles_eq_ok {session after : Session} {files : List StubFile}
    (done : request.generateFiles generator module symbol session = .ok files after) :
    ∃ owner between service, module.findService symbol session.knowledge = .ok owner between ∧
      module.describeService owner between = .ok service after.knowledge ∧
      (request.generation generator after.knowledge.catalog.graph service).files = .ok files := by
  obtain ⟨owner, _, first, rest⟩ := run_bind_eq_ok.mp done
  obtain ⟨between, found, rfl⟩ := Working.describe_eq_ok.mp first
  obtain ⟨service, _, second, rest⟩ := run_bind_eq_ok.mp rest
  obtain ⟨known, described, rfl⟩ := Working.describe_eq_ok.mp second
  obtain ⟨_, _, current, rest⟩ := run_bind_eq_ok.mp rest
  obtain ⟨rfl, rfl⟩ := EStateM.Result.ok.inj current
  obtain ⟨_, _, third, rest⟩ := run_bind_eq_ok.mp rest
  obtain ⟨_, rfl⟩ := EStateM.Result.ok.inj third
  obtain ⟨_, _, fourth, rest⟩ := run_bind_eq_ok.mp rest
  obtain ⟨made, rfl⟩ := Working.ofExcept_eq_ok.mp fourth
  obtain ⟨_, _, last, rest⟩ := run_bind_eq_ok.mp rest
  obtain ⟨_, rfl⟩ := EStateM.Result.ok.inj last
  obtain ⟨rfl, rfl⟩ := EStateM.Result.ok.inj rest
  exact ⟨owner, between, service, found, described, made⟩

/-- A symbol has the files that its generator makes of its described service. -/
theorem exists_generateFiles {session : Session} {files : List StubFile} {owner : ClassValue}
    {between known : Knowledge} {service : Service}
    (found : module.findService symbol session.knowledge = .ok owner between)
    (described : module.describeService owner between = .ok service known)
    (made : (request.generation generator known.catalog.graph service).files = .ok files) :
    ∃ after, request.generateFiles generator module symbol session = .ok files after := by
  have first := Working.describe_eq_ok.mpr ⟨between, found, rfl⟩
  have second : Working.describe (module.describeService owner) (session.knowing between) = _ :=
    Working.describe_eq_ok.mpr ⟨known, described, rfl⟩
  have current (state : Session) : (get : Working Session) state = .ok state state := rfl
  have logged (lines : List String) (state : Session) : request.log lines state =
      .ok () { state with errors := state.errors ++ request.logged lines } := rfl
  have given (state : Session) : Working.ofExcept
      (request.generation generator known.catalog.graph service).files state = .ok files state :=
    Working.ofExcept_eq_ok.mpr ⟨made, rfl⟩
  rw [Request.generateFiles, run_bind_of_ok first, run_bind_of_ok second,
    run_bind_of_ok (current _)]
  simp only [Session.knowledge_knowing]
  rw [run_bind_of_ok (logged _ _), run_bind_of_ok (given _), run_bind_of_ok (logged _ _)]
  exact ⟨_, rfl⟩

/-- Of services that are alike over types with the same sketches the same is made by stubs. -/
theorem generation_same (orderly : Orderly module answers asked usual) {left right : Knowledge}
    (first : Sound module answers asked usual [] left)
    (second : Sound module answers asked usual [] right) {service other : Service}
    (alike : ServicesAlike (left.catalog.SameSketch right.catalog) service other) :
    request.generation (.typescript options) right.catalog.graph other =
      request.generation (.typescript options) left.catalog.graph service := by
  have same : Stub.generation options right.catalog.graph other =
      Stub.generation options left.catalog.graph service := by
    unfold Stub.generation
    rw [generate_eq_of_sound orderly first second alike.name alike.members options]
  simp only [Request.generation, Generator.generate, same]

/-- A symbol has the files in one run that it has in another. -/
theorem generateFiles_same (orderly : Orderly module answers asked usual) {owner : ClassValue}
    (call : asked (.serviceOf owner)) (finds : module.Finds usual symbol owner)
    {session other after : Session} (sound : Sound module answers asked usual [] session.knowledge)
    (alsoSound : Sound module answers asked usual [] other.knowledge) {files : List StubFile}
    (done : request.generateFiles (.typescript options) module symbol session =
      .ok files after) :
    Sound module answers asked usual [] after.knowledge ∧
      ∃ otherAfter, request.generateFiles (.typescript options) module symbol other =
        .ok files otherAfter := by
  obtain ⟨memory, recalled, first⟩ := finds session.knowledge sound.usual
  obtain ⟨otherMemory, alsoRecalled, second⟩ := finds other.knowledge alsoSound.usual
  obtain ⟨_, _, service, found, described, made⟩ := generateFiles_eq_ok done
  obtain ⟨rfl, rfl⟩ := EStateM.Result.ok.inj (first.symm.trans found)
  have parallel := describeService_parallel orderly (sound.withMemory recalled)
    (alsoSound.withMemory alsoRecalled) call
  cases parallel with
  | ok here there last alsoLast _ _ alike =>
    obtain ⟨rfl, rfl⟩ := EStateM.Result.ok.inj (here.symm.trans described)
    rw [← generation_same orderly last alsoLast alike] at made
    exact ⟨last, exists_generateFiles second there made⟩
  | error failed _ => cases failed.symm.trans described

/-- A part of a run that changes files does nothing else. -/
theorem Working.file_eq_ok {α : Type} {filing : Filing α} {session after : Session} {value : α} :
    Working.file filing session = .ok value after ↔
      ∃ workspace, filing session.workspace = .ok value workspace ∧
        after = { session with workspace } := by
  rw [Working.file]
  cases filing session.workspace with
  | ok found workspace =>
    simp only [EStateM.Result.ok.injEq]
    constructor
    · rintro ⟨rfl, rfl⟩
      exact ⟨workspace, ⟨rfl, rfl⟩, rfl⟩
    · rintro ⟨_, ⟨rfl, rfl⟩, rfl⟩
      exact ⟨rfl, rfl⟩
  | error fault workspace => simp

/-- Writing files changes nothing that is known. -/
theorem knowledge_writeFiles {directory : Path} {files : List StubFile} {session after : Session}
    (done : Request.writeFiles directory files session = .ok () after) :
    after.knowledge = session.knowledge := by
  induction files generalizing session with
  | nil =>
    obtain ⟨_, rfl⟩ := EStateM.Result.ok.inj done
    rfl
  | cons file rest ih =>
    obtain ⟨_, between, first, others⟩ := run_bind_eq_ok.mp done
    obtain ⟨_, _, wrote, printed⟩ := run_bind_eq_ok.mp first
    obtain ⟨workspace, _, rfl⟩ := Working.file_eq_ok.mp wrote
    obtain ⟨_, rfl⟩ := EStateM.Result.ok.inj printed
    have kept := ih others
    exact kept

/-- In a run over several symbols each symbol has the files that it has in some other session,
whatever symbols come before it. -/
theorem generateAll_same (orderly : Orderly module answers asked usual) {directory : Path}
    {start session final : Session} (fresh : Sound module answers asked usual [] start.knowledge)
    (sound : Sound module answers asked usual [] session.knowledge) {earlier later : List String}
    (named : ∀ other ∈ earlier ++ symbol :: later, ∃ owner, asked (.serviceOf owner) ∧
      module.Finds usual other owner)
    (done : request.generateAll directory (.typescript options) module
      (earlier ++ symbol :: later) session = .ok () final) :
    ∃ between files after alone,
      request.generateAll directory (.typescript options) module earlier session =
        .ok () between ∧
      request.generateFiles (.typescript options) module symbol between = .ok files after ∧
      request.generateFiles (.typescript options) module symbol start = .ok files alone := by
  -- On the symbols before it. The session they leave is another one than that at the start; all
  -- that the two share, and all that is needed of them, is that their catalogs are sound.
  induction earlier generalizing session with
  | nil =>
    obtain ⟨owner, isAsked, finds⟩ := named symbol List.mem_cons_self
    obtain ⟨files, after, generated, _⟩ := run_bind_eq_ok.mp done
    obtain ⟨_, alone, alsoGenerated⟩ :=
      generateFiles_same orderly isAsked finds sound fresh generated
    exact ⟨session, files, after, alone, rfl, generated, alsoGenerated⟩
  | cons first rest ih =>
    obtain ⟨owner, isAsked, finds⟩ := named first List.mem_cons_self
    obtain ⟨firstFiles, after, generated, others⟩ := run_bind_eq_ok.mp done
    obtain ⟨_, written, wrote, others⟩ := run_bind_eq_ok.mp others
    obtain ⟨last, _⟩ := generateFiles_same orderly isAsked finds sound fresh generated
    rw [← knowledge_writeFiles wrote] at last
    obtain ⟨between, files, later, alone, before, here, there⟩ := ih last
      (fun other member => named other (List.mem_cons_of_mem first member)) others
    refine ⟨between, files, later, alone, ?_, here, there⟩
    exact run_bind_eq_ok.mpr ⟨firstFiles, after, generated,
      run_bind_eq_ok.mpr ⟨(), written, wrote, before⟩⟩

end Command

open Command (Request Session) in
/-- After calls that succeed, a describer answers the next call as one that knows nothing yet does,
with the same failure or with types that are equal up to sharing. So in a run that succeeds each
symbol has the file with its stub that it has alone: it depends neither on the symbols before it nor
on their order. -/
theorem answered_as_fresh (orderly : Orderly module answers asked usual) :
    (∀ (memory other : Memory) (calls : List Call) (call : Call), usual memory → usual other →
      (∀ earlier ∈ calls, asked earlier) → module.answersAll { memory } calls → asked call →
      call.SameAnswer module (module.afterCalls { memory } calls) { memory := other }) ∧
    ∀ (request : Request) (directory : Path) (options : Options) (earlier later : List String)
      (symbol : String) (session final : Session),
      session.knowledge.catalog = {} → usual session.knowledge.memory →
      (∀ other ∈ earlier ++ symbol :: later, ∃ owner, asked (.serviceOf owner) ∧
        module.Finds usual other owner) →
      request.generateAll directory (.typescript options) module (earlier ++ symbol :: later)
          session = .ok () final →
      ∃ between files after alone,
        request.generateAll directory (.typescript options) module earlier session =
          .ok () between ∧
        request.generateFiles (.typescript options) module symbol between = .ok files after ∧
        request.generateFiles (.typescript options) module symbol session = .ok files alone := by
  constructor
  · intro memory other calls call recalled alsoRecalled areAsked answered isAsked
    exact sameAnswer orderly ((Sound.fresh recalled).afterCalls orderly areAsked answered)
      (.fresh alsoRecalled) isAsked
  · intro request directory options earlier later symbol session final unknown recalled named done
    have fresh : Sound module answers asked usual [] session.knowledge := by
      have same : session.knowledge = { memory := session.knowledge.memory } := by rw [← unknown]
      rw [same]
      exact .fresh recalled
    exact Command.generateAll_same orderly fresh fresh named done

/-! ## A run over two services -/

/-- A class with a field of its own type. -/
def chainLink : ClassRef :=
  { index := 0, moduleName := "svc", qualifiedName := "Link", name := "Link" }

/-- A service with a function that gives a link. -/
def chainReader : ClassRef :=
  { index := 1, moduleName := "svc", qualifiedName := "Reader", name := "Reader" }

/-- A service with a function that takes a link. -/
def chainCounter : ClassRef :=
  { index := 2, moduleName := "svc", qualifiedName := "Counter", name := "Counter" }

/-- A module with two services that share a class. -/
def chains : Module where
  name := "svc"
  names := .ofList [("Reader", .user chainReader), ("Counter", .user chainCounter)]
  classes := #[
    { reference := chainLink, order := [.user chainLink, .standard .object]
      annotations := [("next", .user chainLink), ("size", .standard .int)]
      attributes := recordAttributes [] },
    { reference := chainReader, order := [.user chainReader, .standard .object], annotations := []
      attributes := .ofList [("first", .function ⟨0, "svc", "Reader.first", "first"⟩)] },
    { reference := chainCounter, order := [.user chainCounter, .standard .object], annotations := []
      attributes := .ofList [("count", .function ⟨1, "svc", "Counter.count", "count"⟩)] }]
  functions := #[
    { qualifiedName := "Reader.first", parameters := [{ name := "self" }]
      returns := some (.user chainLink) },
    { qualifiedName := "Counter.count", parameters := [{ name := "self" }, { name := "link" }]
      annotations := [("link", .user chainLink)], returns := some (.standard .int) }]

/-- Whether an annotation is one of the module. -/
def isChained : Value → Bool
  | .classValue (.standard .object) | .classValue (.standard .int) => true
  | .classValue (.user reference) => reference = chainLink
  | _ => false

/-- The calls for annotations and services of the module. -/
def chainCalls : Call → Prop
  | .typeOf value => isChained value
  | .serviceOf owner => owner = .user chainReader ∨ owner = .user chainCounter

/-- The class with fields is the only one that the annotations of the module name. -/
theorem chains_plainlyAnnotated : PlainlyAnnotated chains [chainLink] where
  listed := by decide +kernel
  classHints := by decide +kernel
  fieldHints := by decide +kernel
  enumerations := by decide +kernel
  unmarked := by decide +kernel
  untilded := by decide +kernel
  distinct := by decide +kernel

/-- The annotations of the module are plain. -/
theorem isPlain_of_isChained {value : Value} (chained : isChained value) :
    isPlain chains [chainLink] value := by
  unfold isChained at chained
  split at chained
  · rfl
  · rfl
  · exact decide_eq_true (List.mem_singleton.mpr (of_decide_eq_true chained))
  · cases chained

/-- The module tells what it is asked, and identities tell apart what is drawn. -/
theorem chains_orderly : Orderly chains chains.firstAnswers chainCalls (· = {}) := by
  refine chains_plainlyAnnotated.orderly (fun value call => ?_) fun owner call => ?_
  · exact isPlain_of_isChained call
  · obtain rfl | rfl := call <;> decide +kernel

/-- A request for both services. -/
def chainRequest : Command.Request := { source := "svc", symbols := ["Reader", "Counter"] }

/-- A session in which nothing is described yet. -/
def chainSession : Command.Session := { workspace := {}, knowledge := { memory := {} } }

/-- The calls for the class and for the first service leave the second service as it is, and so do
the symbols before it. -/
theorem answered_as_fresh_chains :
    Orderly chains chains.firstAnswers chainCalls (· = {}) ∧
    (Call.serviceOf (.user chainCounter)).SameAnswer chains
      (chains.afterCalls { memory := {} }
        [.typeOf (.user chainLink), .serviceOf (.user chainReader)]) { memory := {} } ∧
    ∃ between files after alone,
      chainRequest.generateAll (.ofText ".") (.typescript {}) chains ["Reader"] chainSession =
        .ok () between ∧
      chainRequest.generateFiles (.typescript {}) chains "Counter" between = .ok files after ∧
      chainRequest.generateFiles (.typescript {}) chains "Counter" chainSession =
        .ok files alone := by
  refine ⟨chains_orderly, ?_, ?_⟩
  · refine (answered_as_fresh chains_orderly).1 {} {} _ _ rfl rfl ?_ (by decide +kernel) (.inr rfl)
    exact List.forall_mem_cons.mpr ⟨rfl, List.forall_mem_singleton.mpr (.inl rfl)⟩
  · have succeeds : (match chainRequest.generateAll (.ofText ".") (.typescript {}) chains
        ["Reader", "Counter"] chainSession with
        | .ok _ _ => true
        | .error _ _ => false) = true := by decide +kernel
    split at succeeds
    · rename_i final done
      refine (answered_as_fresh chains_orderly).2 chainRequest (.ofText ".") {}
        ["Reader"] [] "Counter" chainSession final rfl rfl ?_ done
      refine List.forall_mem_cons.mpr ⟨⟨_, .inl rfl, finds_of_valueAt (by decide +kernel)⟩, ?_⟩
      exact List.forall_mem_singleton.mpr ⟨_, .inr rfl, finds_of_valueAt (by decide +kernel)⟩
    · cases succeeds

/-! ## Two types with one identity -/

/-- A module without classes. -/
def classless : Module := { name := "svc" }

/-- Lists of a type variable whose name holds a comma. -/
def listOfOne : Value := .builtinOf (.standard .list) [.typeVariable ⟨0, "T,~U"⟩]

/-- Lists with two type variables. -/
def listOfTwo : Value :=
  .builtinOf (.standard .list) [.typeVariable ⟨1, "T"⟩, .typeVariable ⟨2, "U"⟩]

/-- What is known when the first of both was described. -/
def afterListOfOne : Knowledge := classless.afterCalls { memory := {} } [.typeOf listOfOne]

/-- Both lists have one identity, so the second is answered by the first although no two classes
share a name: it has one argument then, and two if it is described first. -/
theorem answer_depends_on_history :
    classless.classes = #[] ∧ classless.newTypes = #[] ∧
    classless.answersAll { memory := {} } [.typeOf listOfOne] ∧
    ¬ (Call.typeOf listOfTwo).SameAnswer classless afterListOfOne { memory := {} } := by
  refine ⟨rfl, rfl, by decide +kernel, fun same => ?_⟩
  have shared : ((classless.describe listOfTwo).result? afterListOfOne).map
      (·.arguments.length) = some 1 := by decide +kernel
  have fresh : ((classless.describe listOfTwo).result? { memory := {} }).map
      (·.arguments.length) = some 2 := by decide +kernel
  unfold result? at shared fresh
  cases same with
  | ok done alsoDone types results =>
    have counted := (types.corresponds.alike results).arguments.length_eq
    rw [done] at shared
    rw [alsoDone] at fresh
    exact absurd ((Option.some.inj shared).symm.trans (counted.trans (Option.some.inj fresh)))
      (by decide)
  | error failed _ =>
    rw [failed] at shared
    cases shared

end ServiceStubs
