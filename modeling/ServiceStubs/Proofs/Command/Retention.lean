import ServiceStubs.Proofs.Command.Generation

/-!
# Stubs that are kept

The file of a service is named by the name of its class and by the options of the run. Files of one
run therefore stand side by side in the output directory when the classes have different names and
no name leads out of the directory; each of them then holds the stub of its class when the run is
complete. Classes that differ in all but their names share a file, and so do classes whose files
have names that lead to one place: the last of them to be written is the only one that is kept.
-/

namespace ServiceStubs

open Source (Class ClassRef ClassValue Function Module Value)

/-! ## Names of files -/

/-- The names of the files of two services are equal when the names of the services are. -/
theorem Options.fileName_injective (options : Options) : Function.Injective options.fileName := by
  intro left right same
  simp only [fileName, String.append_assoc] at same
  exact (String.append_left_inj _).mp same

/-- The name of a file without slashes is one part of a path, since it holds a low line. -/
theorem Options.fileName_onePart {options : Options} {name : String}
    (unbroken : '/' ∉ (options.fileName name).toList) : Path.OnePart (options.fileName name) := by
  have holds : '_' ∈ (options.fileName name).toList := by simp [fileName]
  refine ⟨unbroken, ?_, ?_⟩
  · rw [Path.isStep, Bool.and_eq_true, decide_eq_true_eq, decide_eq_true_eq]
    constructor <;> intro same <;> rw [same] at holds <;> exact absurd holds (by decide)
  · intro same
    rw [same] at holds
    exact absurd holds (by decide)

/-- The file of a stub is named by its service. -/
theorem Stub.generate_fileName {options : Options} {graph : TypeGraph} {service : Service}
    {stub : Stub} (generated : generate options graph service = .ok stub) :
    stub.fileName = options.fileName service.name := by
  obtain ⟨closure, _, rest⟩ := bind_eq_ok.mp generated
  obtain ⟨contents, _, same⟩ := bind_eq_ok.mp rest
  rw [← Except.ok.inj same]

/-- Describing functions leaves the name of a service alone. -/
theorem Source.Module.describeFunctions_name {module : Module} {service described : Service}
    {functions : List (String × Function)} {before after : Knowledge}
    (done : module.describeFunctions service functions before = .ok described after) :
    described.name = service.name := by
  induction functions generalizing service before with
  | nil =>
    obtain ⟨rfl, _⟩ := EStateM.Result.ok.inj done
    rfl
  | cons entry rest ih =>
    obtain ⟨_, between, _, others⟩ := run_bind_eq_ok.mp done
    rw [ih others]
    split_ifs <;> rfl

namespace Command

variable {request : Request} {directory : Path} {generator : Generator} {options : Options}
variable {module : Module} {start final : Session} {creation : Creation} {workspace : Workspace}
variable {symbols : List String} {services : List (ClassValue × List StubFile)}

/-- What is made of a service by its stub is one file, which is named by the service. -/
theorem files_of_typescript {graph : TypeGraph} {service : Service} {files : List StubFile}
    (made : (request.generation (.typescript options) graph service).files = .ok files) :
    ∃ content, files = [⟨options.fileName service.name, content⟩] := by
  have whole : (Stub.generation options graph service).files = .ok files := by
    unfold Request.generation at made
    cases width : request.indent with
    | some _ =>
      simp only [width] at made
      exact made
    | none =>
      simp only [width] at made
      obtain ⟨_, _, broken⟩ := bind_eq_ok.mp made
      cases broken
  unfold Stub.generation at whole
  cases generated : Stub.generate options graph service with
  | error error => simp [generated] at whole
  | ok stub =>
    simp only [generated] at whole
    obtain ⟨file, stubFile, rfl⟩ := map_eq_ok.mp (mapError_eq_ok.mp whole)
    obtain ⟨content, _, same⟩ := bind_eq_ok.mp stubFile
    obtain rfl := Except.ok.inj same
    exact ⟨content, by rw [Stub.generate_fileName generated]⟩

/-- The file of a symbol is named by the class that it stands for. -/
theorem generateFiles_typescript {symbol : String} {after : Session} {owner : ClassValue}
    {known : Knowledge} {files : List StubFile}
    (found : module.findService symbol start.knowledge = .ok owner known)
    (generated : request.generateFiles (.typescript options) module symbol start =
      .ok files after) :
    ∃ content, files = [⟨options.fileName owner.name, content⟩] := by
  obtain ⟨_, between, service, alsoFound, described, made⟩ := generateFiles_eq_ok generated
  obtain ⟨rfl, rfl⟩ := EStateM.Result.ok.inj (found.symm.trans alsoFound)
  obtain ⟨content, single⟩ := files_of_typescript made
  rw [Source.Module.describeFunctions_name described] at single
  exact ⟨content, single⟩

/-- Each service of a run has one file, which is named by its class. -/
theorem Request.Generates.single
    (generates : request.Generates directory (.typescript options) module start symbols services
      final) :
    ∀ service ∈ services, ∃ content, service.2 = [⟨options.fileName service.1.name, content⟩] := by
  induction generates with
  | nil => simp
  | cons found generated _ _ ih =>
    intro service member
    rcases List.mem_cons.mp member with rfl | later
    · exact generateFiles_typescript found generated
    · exact ih service later

/-- The files of a run are named by the classes of its services. -/
theorem fileNames_of_single
    (single : ∀ service ∈ services,
      ∃ content, service.2 = [⟨options.fileName service.1.name, content⟩]) :
    (services.flatMap Prod.snd).map StubFile.name =
      services.map fun service => options.fileName service.1.name := by
  induction services with
  | nil => rfl
  | cons service rest ih =>
    obtain ⟨content, same⟩ := single service List.mem_cons_self
    have others := ih fun other member => single other (List.mem_cons_of_mem service member)
    rw [List.flatMap_cons, List.map_append, others, same]
    rfl

/-- A run has a service for each symbol. -/
theorem Request.Generates.length_eq
    (generates : request.Generates directory generator module start symbols services final) :
    services.length = symbols.length := by
  induction generates with
  | nil => rfl
  | cons _ _ _ _ ih => rw [List.length_cons, List.length_cons, ih]

/-! ## Files side by side -/

/-- Files that are written to one directory under different names of one part are all there in the
end, and nothing else has changed. -/
theorem storeFiles_kept {files : List StubFile} {before after : Workspace} {home : Place}
    (led : before.placeOf directory = .ok home)
    (parts : ∀ file ∈ files, Path.OnePart file.name)
    (distinct : (files.map StubFile.name).Nodup)
    (stored : storeFiles directory files before = .ok () after) :
    before.KeepsDirectories after ∧
    (∀ file ∈ files, after.entry? (home ++ [file.name]) = some (.file (.text file.content))) ∧
    ∀ place, (∀ file ∈ files, place ≠ home ++ [file.name]) →
      after.entry? place = before.entry? place := by
  induction files generalizing before with
  | nil =>
    obtain ⟨_, rfl⟩ := EStateM.Result.ok.inj stored
    exact ⟨fun _ found => found, by simp, fun _ _ => rfl⟩
  | cons file rest ih =>
    rw [List.map_cons, List.nodup_cons] at distinct
    obtain ⟨_, between, first, others⟩ := run_bind_eq_ok.mp stored
    obtain ⟨place, written, free, rfl⟩ := Filing.write_ok first
    obtain rfl := Workspace.placeOf_join (parts file List.mem_cons_self) led written
    have kept : before.KeepsDirectories (before.put _ (.file (.text file.content))) :=
      Workspace.keepsDirectories_put free
    obtain ⟨keptLater, there, untouched⟩ := ih (kept.placeOf led)
      (fun other member => parts other (List.mem_cons_of_mem file member)) distinct.2 others
    have put := before.entry?_put (Workspace.isGiven_eq_false free)
      (.file (.text file.content))
    refine ⟨kept.trans keptLater, fun other member => ?_, fun place apart => ?_⟩
    · rcases List.mem_cons.mp member with rfl | inRest
      · -- The files that are written later have other names.
        rw [untouched, put, if_pos rfl]
        intro another member same
        have sameName := List.cons.inj (List.append_cancel_left same)
        exact distinct.1 (List.mem_map.mpr ⟨another, member, sameName.1.symm⟩)
      · exact there other inRest
    · have later := untouched place fun other member =>
        apart other (List.mem_cons_of_mem file member)
      rw [later, put, if_neg (apart file List.mem_cons_self)]

/-- What a run leaves of the files that it made for services: the output directory is there, and
each file is in it with the content that was made. -/
structure KeepsFiles (outcome : Outcome) (directory : Path)
    (services : List (ClassValue × List StubFile)) (home : Place) : Prop where
  /-- The output directory is there. -/
  led : outcome.workspace.placeOf directory = .ok home
  /-- Each file holds what was made for its class. -/
  files : ∀ file ∈ services.flatMap Prod.snd,
    outcome.workspace.entry? (home ++ [file.name]) = some (.file (.text file.content))

/-- What a run leaves of services with one file each: the files differ in their names and are all
kept. -/
structure KeepsServices (outcome : Outcome) (directory : Path)
    (services : List (ClassValue × List StubFile)) (home : Place) : Prop
    extends KeepsFiles outcome directory services home where
  /-- Each service has one file. -/
  single : ∀ service ∈ services, ∃ file, service.2 = [file]
  /-- No two services share a file. -/
  apart : ((services.flatMap Prod.snd).map StubFile.name).Nodup

/-- Files of different names of one part are kept when a run over their services succeeds. -/
theorem Request.Prepared.keepsFiles {last : Session}
    (prepared : request.Prepared creation workspace directory generator module start)
    (generated : request.Generates directory generator module start request.symbols services last)
    (parts : ∀ file ∈ services.flatMap Prod.snd, Path.OnePart file.name)
    (apart : ((services.flatMap Prod.snd).map StubFile.name).Nodup) :
    ∃ home, KeepsFiles (request.run creation workspace) directory services home := by
  obtain ⟨home, led, _⟩ := Filing.makeDirectories_ok prepared.before_services.1
  obtain ⟨kept, there, _⟩ := storeFiles_kept led parts apart generated.workspace
  have left : (request.run creation workspace).workspace = last.workspace := by
    rw [Request.run, prepared.perform_eq_ok generated]
    rfl
  exact ⟨home, left ▸ kept.placeOf led, fun file member => left ▸ there file member⟩

/-- A run that ends with the status of success has found a class for each symbol and made the files
of each class. Files of different names of one part are all kept, whatever generator has made them.
The generator of the program makes one file of each class, with its stub, and when the classes have
different names and no file has a slash in its name, no stub is lost. -/
theorem services_kept {words : List String} (read : Request.ofWords words = .ok request)
    (succeeded : (run creation workspace words).status = .ok successStatus) :
    ∃ directory generator module start services final,
      request.Prepared creation workspace directory generator module start ∧
      request.Generates directory generator module start request.symbols services final ∧
      services.length = request.symbols.length ∧
      ((∀ file ∈ services.flatMap Prod.snd, Path.OnePart file.name) →
        ((services.flatMap Prod.snd).map StubFile.name).Nodup →
        ∃ home, KeepsFiles (run creation workspace words) directory services home) ∧
      ∀ options, generator = .typescript options →
        (services.map fun service => service.1.name).Nodup →
        (∀ service ∈ services, '/' ∉ (options.fileName service.1.name).toList) →
        ∃ home, KeepsServices (run creation workspace words) directory services home := by
  have ran : run creation workspace words = request.run creation workspace := by
    simp only [run, read]
  rw [ran] at succeeded ⊢
  obtain ⟨session, done⟩ := Request.run_status_eq_success.mp succeeded
  obtain ⟨directory, generator, module, start, services, last, prepared, generated, rfl⟩ :=
    Request.perform_eq_ok done
  refine ⟨directory, generator, module, start, services, last, prepared, generated,
    generated.length_eq, prepared.keepsFiles generated,
    fun options chosen distinct unbroken => ?_⟩
  subst chosen
  have single := generated.single
  have names := fileNames_of_single single
  have apart : ((services.flatMap Prod.snd).map StubFile.name).Nodup := by
    have different := distinct.map options.fileName_injective
    rw [List.map_map] at different
    rw [names]
    exact different
  have parts : ∀ file ∈ services.flatMap Prod.snd, Path.OnePart file.name := by
    intro file member
    obtain ⟨service, listed, inside⟩ := List.mem_flatMap.mp member
    obtain ⟨content, same⟩ := single service listed
    rw [same, List.mem_singleton] at inside
    rw [inside]
    exact Options.fileName_onePart (unbroken service listed)
  obtain ⟨home, kept⟩ := prepared.keepsFiles generated parts apart
  refine ⟨home, kept, fun service listed => ?_, apart⟩
  obtain ⟨content, same⟩ := single service listed
  exact ⟨_, same⟩

/-! ## Runs over classes that every module has -/

/-- The classes of a run are those that its symbols lead to whatever is known. -/
theorem Request.Generates.owners {owners : List ClassValue}
    (generates : request.Generates directory generator module start symbols services final)
    (finds : List.Forall₂ (fun symbol owner =>
      ∀ known, ∃ later, module.findService symbol known = .ok owner later) symbols owners) :
    services.map Prod.fst = owners := by
  induction generates generalizing owners with
  | nil =>
    cases finds
    rfl
  | @cons start _ _ _ _ _ _ _ _ _ found _ _ _ ih =>
    cases finds with
    | cons first rest =>
      obtain ⟨later, alsoFound⟩ := first start.knowledge
      obtain ⟨rfl, _⟩ := EStateM.Result.ok.inj (found.symm.trans alsoFound)
      rw [List.map_cons, ih rest]

/-- Every module leads to its class and to the class of that class. -/
theorem findService_metaclasses (module : Module) (known : Knowledge) :
    (∃ later, module.findService "__class__" known = .ok (.standard .module) later) ∧
      ∃ later, module.findService "__class__.__class__" known = .ok (.standard .type) later :=
  ⟨⟨_, rfl⟩, ⟨_, rfl⟩⟩

/-- Neither of these classes has members that a service shows. -/
theorem describeService_metaclasses (module : Module) (known : Knowledge) :
    (∃ later, module.describeService (.standard .module) known = .ok { name := "module" } later) ∧
      ∃ later, module.describeService (.standard .type) known = .ok { name := "type" } later :=
  ⟨⟨_, rfl⟩, ⟨_, rfl⟩⟩

/-- A service without members has a file of some name, whatever types there are, when it is
computed. -/
theorem exists_file {name fileName : String}
    (computed : (request.generation (.typescript options) {} { name }).files.toOption.any
      fun files => files.map StubFile.name = [fileName]) :
    ∃ file : StubFile, file.name = fileName ∧ ∀ graph,
      (request.generation (.typescript options) graph { name }).files = .ok [file] := by
  cases outcome : (request.generation (.typescript options) {} { name }).files with
  | error failure =>
    rw [outcome] at computed
    cases computed
  | ok files =>
    rw [outcome] at computed
    have names : files.map StubFile.name = [fileName] := of_decide_eq_true computed
    obtain ⟨content, rfl⟩ := files_of_typescript outcome
    exact ⟨_, (List.cons.inj names).1, fun _ => outcome⟩

/-- A request for these classes is fulfilled when their files are made and can be written. -/
theorem exists_metaclass_services {first second : StubFile} {left last : Workspace}
    (firstMade : ∀ graph, (request.generation generator graph { name := "module" }).files =
      .ok [first])
    (secondMade : ∀ graph, (request.generation generator graph { name := "type" }).files =
      .ok [second])
    (wroteFirst : Filing.write (directory.join (.ofText first.name)) first.content
      start.workspace = .ok () left)
    (wroteSecond : Filing.write (directory.join (.ofText second.name)) second.content left =
      .ok () last) :
    ∃ final : Session, final.workspace = last ∧
      request.Generates directory generator module start ["__class__", "__class__.__class__"]
        [(.standard .module, [first]), (.standard .type, [second])] final := by
  have stores {file : StubFile} {before after : Workspace}
      (wrote : Filing.write (directory.join (.ofText file.name)) file.content before =
        .ok () after) : storeFiles directory [file] before = .ok () after :=
    run_bind_eq_ok.mpr ⟨(), after, wrote, rfl⟩
  obtain ⟨between, rfl, andFirst⟩ := Request.exists_first
    (fun known => (findService_metaclasses module known).1)
    (fun known => (describeService_metaclasses module known).1) firstMade (stores wroteFirst)
  obtain ⟨final, written, andSecond⟩ := Request.exists_first
    (fun known => (findService_metaclasses module known).2)
    (fun known => (describeService_metaclasses module known).2) secondMade (stores wroteSecond)
  exact ⟨final, written, andFirst (andSecond (.nil final))⟩

/-- A directory with a module that declares nothing. -/
def bare : Workspace where
  tree := .ofList [(["svc.py"], .file (.module []))]

/-- A request for the class of a module and for the class of that class. -/
def metaclassRequest : Request where
  source := "svc.py"
  symbols := ["__class__", "__class__.__class__"]
  usesLineFeeds := true

/-- The request is fulfilled with the generator of the program. -/
theorem metaclassRequest_succeeds :
    (metaclassRequest.run unexecutedCreation bare).status = .ok successStatus ∧
    ∃ module start services final,
      metaclassRequest.Prepared unexecutedCreation bare (.ofText "generated")
        (.typescript metaclassRequest.options) module start ∧
      metaclassRequest.Generates (.ofText "generated") (.typescript metaclassRequest.options)
        module start metaclassRequest.symbols services final := by
  obtain ⟨module, start, prepared, ready⟩ : ∃ module start,
      metaclassRequest.Prepared unexecutedCreation bare (.ofText "generated")
        (.typescript metaclassRequest.options) module start ∧
      start.workspace = bare.put ["generated"] .directory :=
    Request.exists_prepared rfl rfl (fun _ _ _ => ⟨_, rfl⟩) fun _ _ _ => ⟨_, _, rfl⟩
  obtain ⟨first, firstName, firstMade⟩ : ∃ file : StubFile, file.name = "module_rpc.ts" ∧
      ∀ graph, (metaclassRequest.generation (.typescript metaclassRequest.options) graph
        { name := "module" }).files = .ok [file] := exists_file (by decide +kernel)
  obtain ⟨second, secondName, secondMade⟩ : ∃ file : StubFile, file.name = "type_rpc.ts" ∧
      ∀ graph, (metaclassRequest.generation (.typescript metaclassRequest.options) graph
        { name := "type" }).files = .ok [file] := exists_file (by decide +kernel)
  let left := (bare.put ["generated"] .directory).put ["generated", "module_rpc.ts"]
    (.file (.text first.content))
  have wroteFirst : Filing.write (Path.join (.ofText "generated") (.ofText first.name))
      first.content start.workspace = .ok () left := by
    rw [firstName, ready]
    rfl
  have wroteSecond : Filing.write (Path.join (.ofText "generated") (.ofText second.name))
      second.content left =
        .ok () (left.put ["generated", "type_rpc.ts"] (.file (.text second.content))) := by
    rw [secondName]
    rfl
  obtain ⟨final, _, generated⟩ := exists_metaclass_services firstMade secondMade wroteFirst
    wroteSecond
  exact ⟨Request.run_status_eq_success.mpr ⟨_, prepared.perform_eq_ok generated⟩, module, start, _,
    final, prepared, generated⟩

/-- The two classes have different names, so both files are there in the end. -/
theorem services_kept_metaclass :
    Request.ofWords ["svc.py", "__class__", "__class__.__class__", "--lf"] = .ok metaclassRequest ∧
    (run unexecutedCreation bare ["svc.py", "__class__", "__class__.__class__", "--lf"]).status =
      .ok successStatus ∧
    ∃ directory services home,
      services.map Prod.fst = [.standard .module, .standard .type] ∧
      KeepsServices
        (run unexecutedCreation bare ["svc.py", "__class__", "__class__.__class__", "--lf"])
        directory services home := by
  have read : Request.ofWords ["svc.py", "__class__", "__class__.__class__", "--lf"] =
      .ok metaclassRequest := by decide +kernel
  obtain ⟨fulfilled, _, _, _, _, ready, _⟩ := metaclassRequest_succeeds
  have succeeded : (run unexecutedCreation bare
      ["svc.py", "__class__", "__class__.__class__", "--lf"]).status = .ok successStatus := by
    simp only [run, read]
    exact fulfilled
  obtain ⟨directory, generator, module, start, services, final, prepared, generated, _, _, kept⟩ :=
    services_kept read succeeded
  have owners : services.map Prod.fst = [.standard .module, .standard .type] :=
    generated.owners (.cons (fun known => (findService_metaclasses module known).1)
      (.cons (fun known => (findService_metaclasses module known).2) .nil))
  have names : (services.map fun service => service.1.name) = ["module", "type"] :=
    (List.map_map ..).symm.trans (congrArg (List.map ClassValue.name) owners)
  obtain ⟨home, there⟩ := kept _ (ready.generator_eq prepared) (names ▸ by decide)
    fun service member => by
      have listed : service.1.name ∈ ["module", "type"] := names ▸ List.mem_map_of_mem member
      have unbroken : ∀ name ∈ ["module", "type"],
          '/' ∉ (metaclassRequest.options.fileName name).toList := by decide
      exact unbroken _ listed
  exact ⟨read, succeeded, directory, services, home, owners, there⟩

/-! ## Stubs that are lost -/

/-- Whether a file of a workspace holds a text. -/
def holds (workspace : Workspace) (text : String) : Bool :=
  workspace.tree.entries.any fun entry =>
    match entry.2 with
    | .file (.text other) => other = text
    | _ => false

/-- A request for the same classes, under names of files that lead out of a directory. -/
def crossedRequest : Request where
  source := "svc.py"
  symbols := ["__class__", "__class__.__class__"]
  suffix := some "/../x"

/-- A workspace with the directories that these names lead through. -/
def crossed : Workspace where
  tree := .ofList [(["svc.py"], .file (.module [])), (["generated"], .directory),
    (["generated", "module_"], .directory), (["generated", "type_"], .directory)]

/-- The text that is written first to a file is gone once another one is. -/
theorem holds_crossed {first second : String} (different : second ≠ first) :
    holds ((crossed.put ["generated", "x.ts"] (.file (.text first))).put ["generated", "x.ts"]
      (.file (.text second))) first = false := by
  have only : holds ((crossed.put ["generated", "x.ts"] (.file (.text first))).put
      ["generated", "x.ts"] (.file (.text second))) first =
        (false || (false || (false || (false || (decide (second = first) || false))))) := rfl
  rw [only, decide_eq_false different]
  rfl

/-- The class that a symbol stands for, without remembering that it was looked for. -/
def serviceClass (module : Module) (symbol : String) : Working ClassValue := fun session =>
  match module.findService symbol session.knowledge with
  | .ok owner _ => .ok owner session
  | .error failure _ => .error failure session

/-- Generate and write services, and tell their classes and files. -/
def Request.trace (request : Request) (directory : Path) (generator : Generator)
    (module : Module) : List String → Working (List (ClassValue × List StubFile))
  | [] => pure []
  | symbol :: rest => do
    let owner ← serviceClass module symbol
    let files ← request.generateFiles generator module symbol
    writeFiles directory files
    let services ← request.trace directory generator module rest
    return (owner, files) :: services

/-- What is told is what is generated. -/
theorem Request.generates_of_trace
    (traced : request.trace directory generator module symbols start = .ok services final) :
    request.Generates directory generator module start symbols services final := by
  induction symbols generalizing start services with
  | nil =>
    obtain ⟨rfl, rfl⟩ := EStateM.Result.ok.inj traced
    exact .nil _
  | cons symbol rest ih =>
    obtain ⟨owner, _, looked, others⟩ := run_bind_eq_ok.mp traced
    obtain ⟨files, between, made, others⟩ := run_bind_eq_ok.mp others
    obtain ⟨_, written, wrote, others⟩ := run_bind_eq_ok.mp others
    obtain ⟨later, _, remaining, last⟩ := run_bind_eq_ok.mp others
    obtain ⟨rfl, rfl⟩ := EStateM.Result.ok.inj last
    unfold serviceClass at looked
    cases found : module.findService symbol start.knowledge with
    | error failure known =>
      rw [found] at looked
      cases looked
    | ok value known =>
      rw [found] at looked
      obtain ⟨rfl, rfl⟩ := EStateM.Result.ok.inj looked
      exact .cons found made wrote (ih remaining)

/-- Whether a part of a run has a result that passes a check together with what it leaves. -/
def Working.passes {α : Type} (part : Working α) (session : Session)
    (check : α → Session → Bool) : Bool :=
  match part session with
  | .ok value after => check value after
  | .error _ _ => false

/-- A check that is passed is passed by a result. -/
theorem Working.exists_of_passes {α : Type} {part : Working α} {check : α → Session → Bool}
    (passed : part.passes start check) :
    ∃ value after, part start = .ok value after ∧ check value after := by
  unfold passes at passed
  cases outcome : part start with
  | ok value after =>
    rw [outcome] at passed
    exact ⟨value, after, rfl, passed⟩
  | error failure after =>
    rw [outcome] at passed
    cases passed

/-- A service inside another class. -/
def innerService (index : Nat) (outer : String) : ClassRef :=
  { index, moduleName := "svc", qualifiedName := outer ++ ".Svc", name := "Svc" }

/-- A class with a service inside it. -/
def outerClass (index : Nat) (name : String) : ClassRef :=
  { index, moduleName := "svc", qualifiedName := name, name }

/-- The declaration of a class with some attributes. -/
def declaredClass (reference : ClassRef) (attributes : List (String × Value)) :
    Source.Class :=
  { reference, order := [.user reference, .standard .object], annotations := []
    attributes := .ofList attributes }

/-- A module with two services of one name inside different classes. -/
def namesakeServices : Module where
  name := "svc"
  names := .ofList [("A", .user (outerClass 0 "A")), ("B", .user (outerClass 1 "B"))]
  classes := #[
    declaredClass (outerClass 0 "A") [("Svc", .user (innerService 2 "A"))],
    declaredClass (outerClass 1 "B") [("Svc", .user (innerService 3 "B"))],
    declaredClass (innerService 2 "A") [("first", .function ⟨0, "svc", "A.Svc.first", "first"⟩)],
    declaredClass (innerService 3 "B") [("second", .function ⟨1, "svc", "B.Svc.second", "second"⟩)]]
  functions := #[
    { qualifiedName := "A.Svc.first", parameters := [{ name := "self" }] },
    { qualifiedName := "B.Svc.second", parameters := [{ name := "self" }] }]

/-- A request for both services. -/
def namesakeRequest : Request := { source := "svc.py", symbols := ["A.Svc", "B.Svc"] }

/-- A session that has made its output directory. -/
def readySession : Session where
  workspace := { tree := .ofList [(["generated"], .directory)] }
  knowledge := { memory := {} }

/-- Different classes are not enough. Of two classes with one name the stub of the first one is
lost, and so it is when the names of their files lead to one place, although the run succeeds. -/
theorem stub_lost :
    (∃ services final,
      namesakeRequest.Generates (.ofText "generated") (.typescript namesakeRequest.options)
        namesakeServices readySession namesakeRequest.symbols services final ∧
      (services.map Prod.fst).Nodup ∧
      ∃ service ∈ services, ∃ file ∈ service.2, holds final.workspace file.content = false) ∧
    ∃ module start services final,
      crossedRequest.Prepared unexecutedCreation crossed (.ofText "generated")
        (.typescript crossedRequest.options) module start ∧
      crossedRequest.Generates (.ofText "generated") (.typescript crossedRequest.options) module
        start crossedRequest.symbols services final ∧
      (services.map fun service => service.1.name).Nodup ∧
      (crossedRequest.run unexecutedCreation crossed).status = .ok successStatus ∧
      ∃ service ∈ services, ∃ file ∈ service.2,
        holds (crossedRequest.run unexecutedCreation crossed).workspace file.content = false := by
  constructor
  · have passed : (namesakeRequest.trace (.ofText "generated")
        (.typescript namesakeRequest.options) namesakeServices
        namesakeRequest.symbols).passes readySession fun services final =>
          (services.map Prod.fst).Nodup && services.any fun service =>
            service.2.any fun file => !holds final.workspace file.content := by
      decide +kernel
    obtain ⟨services, final, traced, checked⟩ := Working.exists_of_passes passed
    obtain ⟨distinct, lost⟩ := Bool.and_eq_true_iff.mp checked
    obtain ⟨service, member, one⟩ := List.any_eq_true.mp lost
    obtain ⟨file, inside, gone⟩ := List.any_eq_true.mp one
    exact ⟨services, final, Request.generates_of_trace traced, of_decide_eq_true distinct, service,
      member, file, inside, by simpa using gone⟩
  · obtain ⟨module, start, prepared, ready⟩ : ∃ module start,
        crossedRequest.Prepared unexecutedCreation crossed (.ofText "generated")
          (.typescript crossedRequest.options) module start ∧
        start.workspace = crossed :=
      Request.exists_prepared rfl rfl (fun _ _ _ => ⟨_, rfl⟩) fun _ _ _ => ⟨_, _, rfl⟩
    obtain ⟨first, firstName, firstMade⟩ : ∃ file : StubFile, file.name = "module_/../x.ts" ∧
        ∀ graph, (crossedRequest.generation (.typescript crossedRequest.options) graph
          { name := "module" }).files = .ok [file] := exists_file (by decide +kernel)
    obtain ⟨second, secondName, secondMade⟩ : ∃ file : StubFile, file.name = "type_/../x.ts" ∧
        ∀ graph, (crossedRequest.generation (.typescript crossedRequest.options) graph
          { name := "type" }).files = .ok [file] := exists_file (by decide +kernel)
    have different : second.content ≠ first.content := by
      have contents : (crossedRequest.generation (.typescript crossedRequest.options) {}
            { name := "type" }).files.toOption.map (List.map StubFile.content) ≠
          (crossedRequest.generation (.typescript crossedRequest.options) {}
            { name := "module" }).files.toOption.map (List.map StubFile.content) := by
        decide +kernel
      rw [firstMade, secondMade] at contents
      exact fun same => contents (congrArg (fun content => some [content]) same)
    let left := crossed.put ["generated", "x.ts"] (.file (.text first.content))
    have wroteFirst : Filing.write (Path.join (.ofText "generated") (.ofText first.name))
        first.content start.workspace = .ok () left := by
      rw [firstName, ready]
      rfl
    have wroteSecond : Filing.write (Path.join (.ofText "generated") (.ofText second.name))
        second.content left =
          .ok () (left.put ["generated", "x.ts"] (.file (.text second.content))) := by
      rw [secondName]
      rfl
    obtain ⟨final, written, generated⟩ := exists_metaclass_services firstMade secondMade wroteFirst
      wroteSecond
    have done := prepared.perform_eq_ok generated
    have lost : holds (crossedRequest.run unexecutedCreation crossed).workspace first.content =
        false := by
      have kept : (crossedRequest.run unexecutedCreation crossed).workspace = final.workspace := by
        rw [Request.run, done]
        rfl
      rw [kept, written]
      exact holds_crossed different
    have distinct : ["module", "type"].Nodup := by decide
    exact ⟨module, start, _, final, prepared, generated, distinct,
      Request.run_status_eq_success.mpr ⟨_, done⟩, _, List.mem_cons_self, _, List.mem_cons_self,
      lost⟩

end Command

end ServiceStubs
