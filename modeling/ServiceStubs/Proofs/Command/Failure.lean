import ServiceStubs.Proofs.Command.Generation

/-!
# Runs that fail at a service

A service can fail while its class is looked for, while the class is described, or while its files
are made: whichever it is, the run has not begun to write them. So a run that fails at a service
leaves the files of the services before it and no others, has told of these alone, and ends with
the message of the failure.
-/

namespace ServiceStubs.Command

open Source (ClassValue Failure Module)

variable {request : Request} {directory : Path} {generator : Generator} {module : Module}
variable {start between : Session} {creation : Creation} {workspace : Workspace}
variable {error : StubError} {symbol : String} {symbols earlier : List String}
variable {services : List (ClassValue × List StubFile)}

/-- The ways in which a service fails with a failure that the generator tells: its class is not
found, or is not described, or has no files. -/
inductive Request.Fails (request : Request) (generator : Generator) (module : Module)
    (symbol : String) (known : Knowledge) (error : StubError) : Prop
  /-- The symbol stands for no class. -/
  | notFound {later : Knowledge}
      (missing : module.findService symbol known = .error (.stub error) later) :
      Fails request generator module symbol known error
  /-- The class that the symbol stands for is not described. -/
  | notDescribed {owner : ClassValue} {between later : Knowledge}
      (found : module.findService symbol known = .ok owner between)
      (broken : module.describeService owner between = .error (.stub error) later) :
      Fails request generator module symbol known error
  /-- No files are made of the service that the class declares. -/
  | notGenerated {owner : ClassValue} {between later : Knowledge} {service : Service}
      (found : module.findService symbol known = .ok owner between)
      (described : module.describeService owner between = .ok service later)
      (refused : (request.generation generator later.catalog.graph service).files =
        .error (.stub error)) :
      Fails request generator module symbol known error

/-- A part of a run that describes types fails when the description does. -/
theorem Working.describe_eq_error {α : Type} {description : Describing α} {failure : Failure}
    {known : Knowledge} (failed : description start.knowledge = .error failure known) :
    Working.describe description start = .error failure (start.knowing known) := by
  rw [Working.describe, failed]

/-- A service fails before any file of it is written. -/
theorem Request.Fails.generateFiles_eq_error
    (fails : request.Fails generator module symbol start.knowledge error) :
    ∃ after, request.generateFiles generator module symbol start = .error (.stub error) after := by
  rw [Request.generateFiles]
  cases fails with
  | notFound missing => exact ⟨_, run_bind_eq_error.mpr (.inl (Working.describe_eq_error missing))⟩
  | @notDescribed owner between _ found broken =>
    rw [run_bind_of_ok (Working.describe_eq_ok.mpr ⟨between, found, rfl⟩)]
    have second : Working.describe (module.describeService owner) (start.knowing between) = _ :=
      Working.describe_eq_error broken
    exact ⟨_, run_bind_eq_error.mpr (.inl second)⟩
  | @notGenerated owner between later service found described refused =>
    have second : Working.describe (module.describeService owner) (start.knowing between) = _ :=
      Working.describe_eq_ok.mpr ⟨later, described, rfl⟩
    have current (state : Session) : (get : Working Session) state = .ok state state := rfl
    have logged (lines : List String) (state : Session) : request.log lines state =
        .ok () { state with errors := state.errors ++ request.logged lines } := rfl
    rw [run_bind_of_ok (Working.describe_eq_ok.mpr ⟨between, found, rfl⟩), run_bind_of_ok second,
      run_bind_of_ok (current _)]
    simp only [Session.knowledge_knowing]
    rw [run_bind_of_ok (logged _ _), refused]
    exact ⟨_, rfl⟩

/-- A list of services ends at the first one that fails, and no file is written there. -/
theorem Request.Generates.generateAll_failing
    (generates : request.Generates directory generator module start earlier services between)
    (fails : request.Fails generator module symbol between.knowledge error)
    (later : List String) :
    ∃ after, request.generateAll directory generator module (earlier ++ symbol :: later) start =
        .error (.stub error) after ∧
      between.OnlyTells request.isVerbose after := by
  obtain ⟨after, failed⟩ := fails.generateFiles_eq_error
  refine ⟨after, ?_, (request.generateFiles_onlyTells generator module symbol).of_error failed⟩
  rw [generates.generateAll_append, Request.generateAll]
  exact run_bind_eq_error.mpr (.inl failed)

/-- What a run leaves that failed after it had written some files. -/
structure Request.FailedAfter (request : Request) (workspace : Workspace) (directory : Path)
    (written : List StubFile) (error : StubError) (outcome : Outcome) : Prop where
  /-- The status is that of a failure. -/
  status : outcome.status = .ok failureStatus
  /-- The output directory was made and the files were written to it in order, and nothing else was
  made or written. -/
  files : ∃ made, Filing.makeDirectories directory workspace = .ok () made ∧
    storeFiles directory written made = .ok () outcome.workspace
  /-- Among what modules have printed, one line tells of each file. -/
  output : outcome.output.filter Line.isOwn = written.map (writtenLine directory)
  /-- Nothing tells that the run is complete. -/
  incomplete : Line.completed ∉ outcome.output
  /-- After the log, if it is kept, the failure is told. -/
  errors : ∃ log, outcome.errors = log ++ ["error: " ++ error.message] ∧
    (request.isVerbose = false → log = [])

/-- A run that fails at a service with a failure that the generator tells ends with the status of a
failure. It has written the files of the services before it in order, and neither this service nor
one after it has made or changed a file. It tells of the written files alone, and then of the
failure. -/
theorem run_failing_service {words : List String} {bad : String} {later : List String}
    (read : Request.ofWords words = .ok request)
    (listed : request.symbols = earlier ++ bad :: later)
    (prepared : request.Prepared creation workspace directory generator module start)
    (generated : request.Generates directory generator module start earlier services between)
    (fails : request.Fails generator module bad between.knowledge error) :
    request.FailedAfter workspace directory (services.flatMap Prod.snd) error
      (run creation workspace words) := by
  obtain ⟨after, failed, tells⟩ := generated.generateAll_failing fails later
  have ended : request.perform creation { workspace } = .error (.stub error) after := by
    rw [prepared.perform, listed]
    exact run_bind_eq_error.mpr (.inl failed)
  have ran : run creation workspace words = Session.outcome
      { after with
        errors := after.errors ++ request.logged (errorLines error) ++
          ["error: " ++ error.message] }
      (.ok failureStatus) := by
    simp only [run, read, Request.run, ended]
  obtain ⟨made, silent, unlogged⟩ := prepared.before_services
  have own : after.output.filter Line.isOwn =
      (services.flatMap Prod.snd).map (writtenLine directory) := by
    rw [tells.own, generated.output, silent, List.nil_append]
  rw [ran]
  constructor
  case status => rfl
  case files => exact ⟨start.workspace, made, tells.workspace ▸ generated.workspace⟩
  case output => exact own
  case incomplete =>
    intro member
    have told : Line.completed ∈ (services.flatMap Prod.snd).map (writtenLine directory) :=
      own ▸ List.mem_filter.mpr ⟨member, rfl⟩
    obtain ⟨file, _, same⟩ := List.mem_map.mp told
    cases same
  case errors =>
    obtain ⟨lines, added, unkept⟩ := generated.errors
    obtain ⟨last, alsoAdded, alsoUnkept⟩ := tells.errors
    refine ⟨_, rfl, fun dropped => ?_⟩
    rw [alsoAdded, added, unlogged dropped, unkept dropped, alsoUnkept dropped, Request.logged,
      dropped]
    rfl

/-- A directory with a module that declares nothing and with the stub of an earlier run. -/
def undeclared : Workspace where
  tree := .ofList [(["svc.py"], .file (.module [])), (["generated"], .directory),
    (["generated", "module_rpc.ts"], .file (.text "stale"))]

/-- A request for the class of the module, for a text, and for the class once more. -/
def undeclaredRequest : Request where
  source := "svc.py"
  symbols := ["__class__", "__class__.__name__", "__class__"]
  usesLineFeeds := true

/-- The file of the class of a module, which has no members that a service shows. -/
def moduleFile : StubFile where
  name := "module_rpc.ts"
  content := "interface module \x7b\n\x7d\n\nconst module_methods: Array<keyof module> = [];\n\n" ++
    "const module_arguments = \x7b\x7d;\n\n" ++
    "export \x7b module, module_methods, module_arguments \x7d;\n"

/-- A text takes the place of the stub. -/
theorem storeFiles_undeclared (content : String) :
    storeFiles (.ofText "generated") [⟨"module_rpc.ts", content⟩] undeclared =
      .ok () (undeclared.put ["generated", "module_rpc.ts"] (.file (.text content))) := by
  have wrote : Filing.write ((Path.ofText "generated").join (.ofText "module_rpc.ts")) content
      undeclared =
    .ok () (undeclared.put ["generated", "module_rpc.ts"] (.file (.text content))) := by rfl
  exact run_bind_eq_ok.mpr ⟨(), _, wrote, rfl⟩

/-- The run over these symbols fails at the text, after the file of the first one has replaced the
old one. -/
theorem run_failing_service_undeclared :
    undeclared.entry? ["generated", "module_rpc.ts"] = some (.file (.text "stale")) ∧
    Request.ofWords ["svc.py", "__class__", "__class__.__name__", "__class__", "--lf"] =
      .ok undeclaredRequest ∧
    undeclaredRequest.symbols = ["__class__"] ++ "__class__.__name__" :: ["__class__"] ∧
    (∃ generator module start between error,
      undeclaredRequest.Prepared unexecutedCreation undeclared (.ofText "generated") generator
        module start ∧
      undeclaredRequest.Generates (.ofText "generated") generator module start ["__class__"]
        [(.standard .module, [moduleFile])] between ∧
      undeclaredRequest.Fails generator module "__class__.__name__" between.knowledge error ∧
      undeclaredRequest.FailedAfter undeclared (.ofText "generated") [moduleFile] error
        (run unexecutedCreation undeclared
          ["svc.py", "__class__", "__class__.__name__", "__class__", "--lf"])) ∧
    (run unexecutedCreation undeclared
        ["svc.py", "__class__", "__class__.__name__", "__class__", "--lf"]).workspace.entry?
      ["generated", "module_rpc.ts"] = some (.file (.text moduleFile.content)) := by
  have read : Request.ofWords ["svc.py", "__class__", "__class__.__name__", "__class__", "--lf"] =
      .ok undeclaredRequest := by decide +kernel
  have made (graph : TypeGraph) : (undeclaredRequest.generation
      (.typescript undeclaredRequest.options) graph { name := "module" }).files =
        .ok [moduleFile] := by
    have computed : (undeclaredRequest.generation (.typescript undeclaredRequest.options) {}
        { name := "module" }).files = .ok [moduleFile] := eq_ok_of_toOption (by decide +kernel)
    exact computed
  obtain ⟨module, start, prepared, ready⟩ : ∃ module start,
      undeclaredRequest.Prepared unexecutedCreation undeclared (.ofText "generated")
        (.typescript undeclaredRequest.options) module start ∧ start.workspace = undeclared :=
    Request.exists_prepared rfl rfl (fun _ _ _ => ⟨_, rfl⟩) fun _ _ _ => ⟨_, _, rfl⟩
  have stored := storeFiles_undeclared moduleFile.content
  have finds (known : Knowledge) : ∃ later,
      module.findService "__class__" known = .ok (.standard .module) later := ⟨_, rfl⟩
  have describes (known : Knowledge) : ∃ later,
      module.describeService (.standard .module) known = .ok { name := "module" } later := ⟨_, rfl⟩
  obtain ⟨between, _, first⟩ := Request.exists_first finds describes made (ready ▸ stored)
  have generated := first (.nil between)
  have fails : undeclaredRequest.Fails (.typescript undeclaredRequest.options) module
      "__class__.__name__" between.knowledge _ := .notFound rfl
  have failed := run_failing_service read rfl prepared generated fails
  refine ⟨rfl, read, rfl, ⟨_, module, start, between, _, prepared, generated, fails, failed⟩, ?_⟩
  obtain ⟨_, directories, alsoStored⟩ := failed.files
  obtain ⟨_, rfl⟩ := EStateM.Result.ok.inj directories
  obtain ⟨_, same⟩ := EStateM.Result.ok.inj (stored.symm.trans alsoStored)
  rw [← same]
  rfl

end ServiceStubs.Command
