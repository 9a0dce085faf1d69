import ServiceStubs.Proofs.Command.Independence
import ServiceStubs.Proofs.Files.Writing

/-!
# Runs service by service

A run that gets as far as its services has made the output directory, found its generator and
loaded its module. From there it takes one service after the other: it finds the class of a symbol,
has the files of the class made and writes them. Only the last of these three changes files or tells
of them; whatever the other two do, also when they fail, they add to what is known, to what modules
have printed and to the log alone.
-/

namespace ServiceStubs.Command

open Source (ClassValue Failure Module)

/-! ## Parts of a run that write no file -/

/-- Whether a session differs from an earlier one in what is known, in what modules have printed and
in the log alone. Nothing is added to the log unless it is kept. -/
structure Session.OnlyTells (isKept : Bool) (before after : Session) : Prop where
  /-- Files and directories are as they were. -/
  workspace : after.workspace = before.workspace
  /-- Modules have printed lines, and no line is the run's own. -/
  output : ∃ texts : List String, after.output = before.output ++ texts.map Line.printed
  /-- Lines are added to the log at its end. -/
  errors : ∃ lines, after.errors = before.errors ++ lines ∧ (isKept = false → lines = [])

namespace Session.OnlyTells

variable {isKept : Bool} {before between after : Session}

/-- Nothing is told. -/
theorem refl (session : Session) : session.OnlyTells isKept session :=
  ⟨rfl, ⟨[], (List.append_nil _).symm⟩, [], (List.append_nil _).symm, fun _ => rfl⟩

/-- The output and the log grow at their ends. -/
theorem trans (first : before.OnlyTells isKept between) (second : between.OnlyTells isKept after) :
    before.OnlyTells isKept after := by
  obtain ⟨lines, added, unkept⟩ := first.errors
  obtain ⟨others, alsoAdded, alsoUnkept⟩ := second.errors
  obtain ⟨texts, printed⟩ := first.output
  obtain ⟨more, alsoPrinted⟩ := second.output
  refine ⟨second.workspace.trans first.workspace, ⟨texts ++ more, ?_⟩, lines ++ others, ?_,
    fun dropped => ?_⟩
  · rw [alsoPrinted, printed, List.append_assoc, List.map_append]
  · rw [alsoAdded, added, List.append_assoc]
  · rw [unkept dropped, alsoUnkept dropped, List.append_nil]

/-- What is known may change, and what modules have printed on the way is shown. -/
theorem knowing (session : Session) (knowledge : Knowledge) :
    session.OnlyTells isKept (session.knowing knowledge) :=
  ⟨rfl, ⟨_, rfl⟩, [], (List.append_nil _).symm, fun _ => rfl⟩

/-- No line of the output that is the run's own is added or lost. -/
theorem own (tells : before.OnlyTells isKept after) :
    after.output.filter Line.isOwn = before.output.filter Line.isOwn := by
  obtain ⟨texts, printed⟩ := tells.output
  have others : (texts.map Line.printed).filter Line.isOwn = [] :=
    List.filter_eq_nil_iff.mpr (List.forall_mem_map.mpr fun _ _ => Bool.false_ne_true)
  rw [printed, List.filter_append, others, List.append_nil]

end Session.OnlyTells

namespace Working

variable {α β : Type} {isKept : Bool}

/-- The session that a part of a run leaves, with a result or with a failure. -/
def left (part : Working α) (session : Session) : Session :=
  match part session with
  | .ok _ after | .error _ after => after

/-- Whether a part of a run only tells something, with a result or with a failure. -/
def OnlyTells (isKept : Bool) (part : Working α) : Prop :=
  ∀ session : Session, session.OnlyTells isKept (part.left session)

/-- What a part of a run leaves with a result. -/
theorem OnlyTells.of_ok {part : Working α} (quiet : part.OnlyTells isKept) {session after : Session}
    {value : α} (done : part session = .ok value after) : session.OnlyTells isKept after := by
  have kept := quiet session
  rwa [left, done] at kept

/-- What a part of a run leaves with a failure. -/
theorem OnlyTells.of_error {part : Working α} (quiet : part.OnlyTells isKept)
    {session after : Session} {failure : Failure} (failed : part session = .error failure after) :
    session.OnlyTells isKept after := by
  have kept := quiet session
  rwa [left, failed] at kept

/-- Two parts of a run that only tell something are one that does. -/
theorem OnlyTells.bind {first : Working α} {next : α → Working β} (start : first.OnlyTells isKept)
    (rest : ∀ value, (next value).OnlyTells isKept) : (first >>= next).OnlyTells isKept := by
  intro session
  cases outcome : first session with
  | error failure between =>
    have ended : (first >>= next).left session = between := by
      simp [left, Bind.bind, EStateM.bind, outcome]
    exact ended ▸ start.of_error outcome
  | ok value between =>
    have continued : (first >>= next).left session = (next value).left between := by
      rw [left, run_bind_of_ok outcome, left]
    exact continued ▸ (start.of_ok outcome).trans (rest value between)

/-- A result without a step tells nothing. -/
theorem OnlyTells.pure (value : α) : (Pure.pure value : Working α).OnlyTells isKept :=
  fun session => .refl session

/-- A failure without a step tells nothing. -/
theorem OnlyTells.throw (failure : Failure) :
    (MonadExcept.throw failure : Working α).OnlyTells isKept :=
  fun session => .refl session

/-- Reading the session tells nothing. -/
theorem OnlyTells.get : (MonadState.get : Working Session).OnlyTells isKept :=
  fun session => .refl session

/-- The outcome of a request that changes nothing tells nothing. -/
theorem OnlyTells.ofExcept (found : Except Failure α) : (ofExcept found).OnlyTells isKept := by
  cases found with
  | ok value => exact .pure value
  | error failure => exact .throw failure

/-- Describing types changes what is known, and modules may print. -/
theorem OnlyTells.describe (description : Describing α) :
    (describe description).OnlyTells isKept := by
  intro session
  rw [left, Working.describe]
  cases description session.knowledge with
  | ok value knowledge => exact .knowing session knowledge
  | error failure knowledge => exact .knowing session knowledge

end Working

namespace Request

variable (request : Request)

/-- Logging only adds to the log. -/
theorem log_onlyTells (lines : List String) :
    (request.log lines).OnlyTells request.isVerbose := by
  intro session
  refine ⟨rfl, ⟨[], (List.append_nil _).symm⟩, request.logged lines, rfl, fun dropped => ?_⟩
  rw [logged, dropped]
  rfl

/-- Finding the generator writes no file. -/
theorem findGenerator_onlyTells (creation : Creation) :
    (request.findGenerator creation).OnlyTells request.isVerbose :=
  .bind (.ofExcept _) fun _ => .bind .get fun _ => .bind (.describe _) fun _ =>
    .bind (request.log_onlyTells _) fun _ => .ofExcept _

/-- Loading the module writes no file. -/
theorem loadModule_onlyTells : request.loadModule.OnlyTells request.isVerbose :=
  .bind .get fun _ => .describe _

/-- Making the files of a symbol writes none of them, whether or not they are made. -/
theorem generateFiles_onlyTells (generator : Generator) (module : Module) (symbol : String) :
    (request.generateFiles generator module symbol).OnlyTells request.isVerbose :=
  .bind (.describe _) fun _ => .bind (.describe _) fun _ => .bind .get fun _ =>
    .bind (request.log_onlyTells _) fun _ => .bind (.ofExcept _) fun files =>
      .bind (request.log_onlyTells _) fun _ => .pure files

end Request

/-! ## Written files -/

/-- Write files to a directory in order. -/
def storeFiles (directory : Path) : List StubFile → Filing Unit
  | [] => pure ()
  | file :: rest => do
    Filing.write (directory.join (.ofText file.name)) file.content
    storeFiles directory rest

/-- Files after other files are written when those are. -/
theorem storeFiles_append {directory : Path} {files more : List StubFile}
    {before between : Workspace} (stored : storeFiles directory files before = .ok () between) :
    storeFiles directory (files ++ more) before = storeFiles directory more between := by
  induction files generalizing before with
  | nil =>
    obtain ⟨_, rfl⟩ := EStateM.Result.ok.inj stored
    rfl
  | cons file rest ih =>
    obtain ⟨_, written, first, others⟩ := run_bind_eq_ok.mp stored
    rw [List.cons_append, storeFiles, run_bind_of_ok first, ih others]

/-- The line that tells of a written file. -/
def writtenLine (directory : Path) (file : StubFile) : Line :=
  .generated (directory.join (.ofText file.name))

/-- Writing a file prints one line. -/
theorem writeFile_eq_ok {directory : Path} {file : StubFile} {session after : Session} :
    Request.writeFile directory file session = .ok () after ↔
      ∃ workspace, Filing.write (directory.join (.ofText file.name)) file.content
          session.workspace = .ok () workspace ∧
        after = { session with
          workspace, output := session.output ++ [writtenLine directory file] } := by
  constructor
  · intro done
    obtain ⟨_, _, wrote, rest⟩ := run_bind_eq_ok.mp done
    obtain ⟨workspace, written, rfl⟩ := Working.file_eq_ok.mp wrote
    obtain ⟨_, rfl⟩ := EStateM.Result.ok.inj rest
    exact ⟨workspace, written, rfl⟩
  · rintro ⟨workspace, written, rfl⟩
    exact run_bind_eq_ok.mpr ⟨(), _, Working.file_eq_ok.mpr ⟨workspace, written, rfl⟩, rfl⟩

/-- Writing files prints one line for each. -/
theorem writeFiles_eq_ok {directory : Path} {files : List StubFile} {session after : Session} :
    Request.writeFiles directory files session = .ok () after ↔
      ∃ workspace, storeFiles directory files session.workspace = .ok () workspace ∧
        after = { session with
          workspace, output := session.output ++ files.map (writtenLine directory) } := by
  induction files generalizing session with
  | nil =>
    constructor
    · intro done
      obtain ⟨_, rfl⟩ := EStateM.Result.ok.inj done
      exact ⟨session.workspace, rfl, by rw [List.map_nil, List.append_nil]⟩
    · rintro ⟨workspace, stored, rfl⟩
      obtain ⟨_, rfl⟩ := EStateM.Result.ok.inj stored
      rw [List.map_nil, List.append_nil]
      rfl
  | cons file rest ih =>
    constructor
    · intro done
      obtain ⟨_, _, first, others⟩ := run_bind_eq_ok.mp done
      obtain ⟨between, written, rfl⟩ := writeFile_eq_ok.mp first
      obtain ⟨workspace, stored, rfl⟩ := ih.mp others
      refine ⟨workspace, run_bind_eq_ok.mpr ⟨(), between, written, stored⟩, ?_⟩
      simp only [List.map_cons, List.append_assoc, List.singleton_append]
    · rintro ⟨workspace, stored, rfl⟩
      obtain ⟨_, between, written, others⟩ := run_bind_eq_ok.mp stored
      refine run_bind_eq_ok.mpr
        ⟨(), _, writeFile_eq_ok.mpr ⟨between, written, rfl⟩, ih.mpr ⟨workspace, others, ?_⟩⟩
      simp only [List.map_cons, List.append_assoc, List.singleton_append]

/-! ## Services in order -/

namespace Request

/-- The services of some symbols are generated and written in order. For each symbol its class and
the files of the class are listed. -/
inductive Generates (request : Request) (directory : Path) (generator : Generator)
    (module : Module) :
    Session → List String → List (ClassValue × List StubFile) → Session → Prop
  /-- No symbol is left. -/
  | nil (session : Session) : Generates request directory generator module session [] [] session
  /-- The class of the first symbol is found, and its files are made and written. -/
  | cons {start between written final : Session} {symbol : String} {symbols : List String}
      {owner : ClassValue} {known : Knowledge} {files : List StubFile}
      {services : List (ClassValue × List StubFile)}
      (found : module.findService symbol start.knowledge = .ok owner known)
      (generated : request.generateFiles generator module symbol start = .ok files between)
      (wrote : writeFiles directory files between = .ok () written)
      (others : Generates request directory generator module written symbols services final) :
      Generates request directory generator module start (symbol :: symbols)
        ((owner, files) :: services) final

variable {request : Request} {directory : Path} {generator : Generator} {module : Module}
variable {start final : Session} {symbols : List String}
variable {services : List (ClassValue × List StubFile)}

/-- The services of all symbols are generated when the run gets to its end. -/
theorem exists_generates
    (done : request.generateAll directory generator module symbols start = .ok () final) :
    ∃ services, request.Generates directory generator module start symbols services final := by
  induction symbols generalizing start with
  | nil =>
    obtain ⟨_, rfl⟩ := EStateM.Result.ok.inj done
    exact ⟨[], .nil _⟩
  | cons symbol rest ih =>
    obtain ⟨files, between, generated, others⟩ := run_bind_eq_ok.mp done
    obtain ⟨_, written, wrote, others⟩ := run_bind_eq_ok.mp others
    obtain ⟨owner, known, _, found, _⟩ := generateFiles_eq_ok generated
    obtain ⟨services, later⟩ := ih others
    exact ⟨(owner, files) :: services, .cons found generated wrote later⟩

namespace Generates

/-- The run goes on with the symbols that follow. -/
theorem generateAll_append
    (generates : request.Generates directory generator module start symbols services final)
    (later : List String) :
    request.generateAll directory generator module (symbols ++ later) start =
      request.generateAll directory generator module later final := by
  induction generates with
  | nil => rfl
  | cons found generated wrote _ ih =>
    rw [List.cons_append, Request.generateAll, run_bind_of_ok generated, run_bind_of_ok wrote, ih]

/-- The files that are written are those of the services in order. -/
theorem workspace
    (generates : request.Generates directory generator module start symbols services final) :
    storeFiles directory (services.flatMap Prod.snd) start.workspace =
      .ok () final.workspace := by
  induction generates with
  | nil => rfl
  | @cons start between written final symbol symbols owner known files services found generated
      wrote _ ih =>
    have kept := (request.generateFiles_onlyTells generator module symbol).of_ok generated
    obtain ⟨workspace, stored, rfl⟩ := writeFiles_eq_ok.mp wrote
    rw [kept.workspace] at stored
    rw [List.flatMap_cons, storeFiles_append stored]
    exact ih

/-- The lines that are the run's own are those of the written files in order. -/
theorem output
    (generates : request.Generates directory generator module start symbols services final) :
    final.output.filter Line.isOwn = start.output.filter Line.isOwn ++
      (services.flatMap Prod.snd).map (writtenLine directory) := by
  induction generates with
  | nil => simp
  | @cons start between written final symbol symbols owner known files services found generated
      wrote _ ih =>
    have kept := (request.generateFiles_onlyTells generator module symbol).of_ok generated
    obtain ⟨workspace, _, rfl⟩ := writeFiles_eq_ok.mp wrote
    have own : (files.map (writtenLine directory)).filter Line.isOwn =
        files.map (writtenLine directory) :=
      List.filter_eq_self.mpr (List.forall_mem_map.mpr fun _ _ => rfl)
    rw [ih, List.filter_append, kept.own, own, List.flatMap_cons, List.map_append,
      List.append_assoc]

/-- The log grows at its end. -/
theorem errors
    (generates : request.Generates directory generator module start symbols services final) :
    ∃ lines, final.errors = start.errors ++ lines ∧ (request.isVerbose = false → lines = []) := by
  induction generates with
  | nil => exact ⟨[], (List.append_nil _).symm, fun _ => rfl⟩
  | @cons start between written final symbol symbols owner known files services found generated
      wrote _ ih =>
    obtain ⟨lines, added, unkept⟩ :=
      ((request.generateFiles_onlyTells generator module symbol).of_ok generated).errors
    obtain ⟨workspace, _, rfl⟩ := writeFiles_eq_ok.mp wrote
    obtain ⟨others, alsoAdded, alsoUnkept⟩ := ih
    refine ⟨lines ++ others, ?_, fun dropped => ?_⟩
    · rw [alsoAdded, added, List.append_assoc]
    · rw [unkept dropped, alsoUnkept dropped, List.append_nil]

end Generates

/-! ## Whole runs -/

/-- A run that got as far as its services: its output directory is made, its generator is found and
its module is loaded. -/
structure Prepared (request : Request) (creation : Creation) (workspace : Workspace)
    (directory : Path) (generator : Generator) (module : Module) (start : Session) : Prop where
  /-- The request names the output directory. -/
  named : request.directory = .ok directory
  /-- The steps before the first service. -/
  steps : ∃ made found, Filing.makeDirectories directory workspace = .ok () made ∧
    request.findGenerator creation { workspace := made } = .ok generator found ∧
    request.loadModule found = .ok module start

variable {creation : Creation} {workspace : Workspace}

/-- Whatever is made before the first service, it is no more than the output directory. -/
theorem Prepared.before_services
    (prepared : request.Prepared creation workspace directory generator module start) :
    Filing.makeDirectories directory workspace = .ok () start.workspace ∧
      start.output.filter Line.isOwn = [] ∧ (request.isVerbose = false → start.errors = []) := by
  obtain ⟨made, found, directories, generatorFound, loaded⟩ := prepared.steps
  have kept := ((request.findGenerator_onlyTells creation).of_ok generatorFound).trans
    (request.loadModule_onlyTells.of_ok loaded)
  obtain ⟨lines, added, unkept⟩ := kept.errors
  refine ⟨kept.workspace ▸ directories, kept.own, fun dropped => ?_⟩
  rw [added, unkept dropped]
  rfl

/-- A run goes on with one generator. -/
theorem Prepared.generator_eq {other : Path} {found : Generator} {loaded : Module} {ready : Session}
    (prepared : request.Prepared creation workspace directory generator module start)
    (again : request.Prepared creation workspace other found loaded ready) : found = generator := by
  obtain ⟨made, _, directories, generatorFound, _⟩ := prepared.steps
  obtain ⟨alsoMade, _, alsoDirectories, alsoFound, _⟩ := again.steps
  obtain rfl := Except.ok.inj (prepared.named.symm.trans again.named)
  obtain ⟨_, rfl⟩ := EStateM.Result.ok.inj (directories.symm.trans alsoDirectories)
  exact (EStateM.Result.ok.inj (alsoFound.symm.trans generatorFound)).1

/-- From its first service on, a run generates one service after the other. -/
theorem Prepared.perform
    (prepared : request.Prepared creation workspace directory generator module start) :
    request.perform creation { workspace } =
      (do
        request.generateAll directory generator module request.symbols
        Working.print .completed : Working Unit) start := by
  obtain ⟨made, found, directories, generatorFound, loaded⟩ := prepared.steps
  have named (session : Session) : Working.ofExcept (request.directory.mapError .host) session =
      .ok directory session :=
    Working.ofExcept_eq_ok.mpr ⟨mapError_eq_ok.mpr prepared.named, rfl⟩
  have filed : Working.file (Filing.makeDirectories directory) { workspace } =
      .ok () { workspace := made } := Working.file_eq_ok.mpr ⟨made, directories, rfl⟩
  rw [Request.perform, run_bind_of_ok (named _), run_bind_of_ok filed,
    run_bind_of_ok generatorFound, run_bind_of_ok loaded]

/-- A run that gets to its end was prepared and generated the services of all its symbols. -/
theorem perform_eq_ok (done : request.perform creation { workspace } = .ok () final) :
    ∃ directory generator module start services last,
      request.Prepared creation workspace directory generator module start ∧
      request.Generates directory generator module start request.symbols services last ∧
      final = { last with output := last.output ++ [.completed] } := by
  obtain ⟨directory, _, named, rest⟩ := run_bind_eq_ok.mp done
  obtain ⟨found, rfl⟩ := Working.ofExcept_eq_ok.mp named
  obtain ⟨_, _, filed, rest⟩ := run_bind_eq_ok.mp rest
  obtain ⟨made, directories, rfl⟩ := Working.file_eq_ok.mp filed
  obtain ⟨generator, ready, generatorFound, rest⟩ := run_bind_eq_ok.mp rest
  obtain ⟨module, start, loaded, rest⟩ := run_bind_eq_ok.mp rest
  obtain ⟨_, last, generated, rest⟩ := run_bind_eq_ok.mp rest
  obtain ⟨_, rfl⟩ := EStateM.Result.ok.inj rest
  obtain ⟨services, generates⟩ := exists_generates generated
  exact ⟨directory, generator, module, start, services, last,
    ⟨mapError_eq_ok.mp found, made, ready, directories, generatorFound, loaded⟩, generates, rfl⟩

/-- A run that was prepared and generated the services of all its symbols gets to its end. -/
theorem Prepared.perform_eq_ok
    (prepared : request.Prepared creation workspace directory generator module start)
    (generated : request.Generates directory generator module start request.symbols services
      final) :
    request.perform creation { workspace } =
      .ok () { final with output := final.output ++ [.completed] } := by
  have all := generated.generateAll_append []
  rw [List.append_nil] at all
  have finished : request.generateAll directory generator module request.symbols start =
      .ok () final := all
  rw [prepared.perform, run_bind_of_ok finished]
  rfl

/-- A request was fulfilled exactly when its run ends with the status of success. -/
theorem run_status_eq_success :
    (request.run creation workspace).status = .ok successStatus ↔
      ∃ session, request.perform creation { workspace } = .ok () session := by
  rw [Request.run]
  split
  case h_1 session done => exact ⟨fun _ => ⟨session, done⟩, fun _ => rfl⟩
  case h_2 fault session failed =>
    simp [Session.outcome, failed]
  case h_3 error session failed =>
    simp [Session.outcome, failed, successStatus, failureStatus]

/-! ## Steps that succeed whatever is known -/

/-- A run is prepared when its directory can be made and, whatever is known then, its generator is
found and its module is loaded. -/
theorem exists_prepared {made : Workspace} (named : request.directory = .ok directory)
    (directories : Filing.makeDirectories directory workspace = .ok () made)
    (finds : ∀ knowledge output errors, ∃ later,
      request.findGenerator creation ⟨made, knowledge, output, errors⟩ = .ok generator later)
    (loads : ∀ knowledge output errors, ∃ module later,
      request.loadModule ⟨made, knowledge, output, errors⟩ = .ok module later) :
    ∃ module start, request.Prepared creation workspace directory generator module start ∧
      start.workspace = made := by
  obtain ⟨⟨_, knowledge, output, errors⟩, found⟩ := finds { memory := Loading.initialMemory } [] []
  obtain rfl := ((request.findGenerator_onlyTells creation).of_ok found).workspace
  obtain ⟨module, start, loaded⟩ := loads knowledge output errors
  exact ⟨module, start, ⟨named, _, _, directories, found, loaded⟩,
    (request.loadModule_onlyTells.of_ok loaded).workspace⟩

/-- A service without members is the first of a run when, whatever is known, its class is found and
described and has files, which can be written. -/
theorem exists_first {symbol : String} {owner : ClassValue} {files : List StubFile}
    {left : Workspace}
    (finds : ∀ known, ∃ later, module.findService symbol known = .ok owner later)
    (describes : ∀ known, ∃ later,
      module.describeService owner known = .ok { name := owner.name } later)
    (made : ∀ graph, (request.generation generator graph { name := owner.name }).files =
      .ok files)
    (stored : storeFiles directory files start.workspace = .ok () left) :
    ∃ written : Session, written.workspace = left ∧ ∀ {symbols services final},
      request.Generates directory generator module written symbols services final →
      request.Generates directory generator module start (symbol :: symbols)
        ((owner, files) :: services) final := by
  obtain ⟨known, found⟩ := finds start.knowledge
  obtain ⟨later, described⟩ := describes known
  obtain ⟨between, generated⟩ := exists_generateFiles found described (made _)
  rw [← ((request.generateFiles_onlyTells generator module symbol).of_ok generated).workspace]
    at stored
  exact ⟨_, rfl, .cons found generated (writeFiles_eq_ok.mpr ⟨left, stored, rfl⟩)⟩

end Request

end ServiceStubs.Command
