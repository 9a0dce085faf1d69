import ServiceStubs.Command.Arguments
import ServiceStubs.Command.Help
import ServiceStubs.Description.Service
import ServiceStubs.Generator
import ServiceStubs.Loading.Source

/-!
# Runs

A run of the command line reads its request, makes the output directory, finds the generator,
loads the module, and then finds, describes, generates and writes one service after the other.
The first failure ends the run; what was written, printed and logged before it stays. A failure
that the generator tells gives the exit status one; an exception of the host leaves the run
without a status. What the modules of a run print is shown where they print it, between the lines
of the run itself.
-/

namespace ServiceStubs.Command

open Source (Failure Fault Module)

/-! ## What a run shows -/

/-- A line of output. -/
inductive Line
  /-- A module prints a line. -/
  | printed (text : String)
  /-- The command line is explained. -/
  | help (text : String)
  /-- A file is written. -/
  | generated (path : Path)
  /-- The run is complete; the line tells how long it took. -/
  | completed
deriving DecidableEq, Repr, Inhabited

namespace Line

/-- A line of output, given how long the run took. -/
def shown (milliseconds : String) : Line → String
  | printed text | help text => text
  | generated path => "Generated: " ++ path.text
  | completed => "Generation completed in " ++ milliseconds ++ " ms"

/-- Whether a line comes from the run itself and not from a module. -/
def isOwn : Line → Bool
  | printed _ => false
  | _ => true

end Line

/-- What a run has done so far. -/
structure Session where
  workspace : Workspace
  /-- What has been described and evaluated in this run. -/
  knowledge : Knowledge := { memory := Loading.initialMemory }
  /-- Lines of output. -/
  output : List Line := []
  /-- Lines of the log and of error messages. -/
  errors : List String := []
deriving Inhabited

/-- A session in which something else is known. What modules have printed since then is shown. -/
def Session.knowing (session : Session) (knowledge : Knowledge) : Session :=
  let shown := session.knowledge.memory.printed.length
  { session with
    knowledge
    output := session.output ++ (knowledge.memory.printed.drop shown).map .printed }

/-- A part of a run; what it has done before a failure stays. -/
abbrev Working (α : Type) := EStateM Failure Session α

namespace Working

/-- The outcome of a request that changes nothing. -/
def ofExcept {α : Type} : Except Failure α → Working α
  | .ok value => pure value
  | .error failure => throw failure

/-- Describe types with what the run knows. What modules print on the way is shown. -/
def describe {α : Type} (request : Describing α) : Working α := fun session =>
  match request session.knowledge with
  | .ok value knowledge => .ok value (session.knowing knowledge)
  | .error failure knowledge => .error failure (session.knowing knowledge)

/-- Change the workspace of the run. -/
def file {α : Type} (request : Filing α) : Working α := fun session =>
  match request session.workspace with
  | .ok value workspace => .ok value { session with workspace }
  | .error fault workspace => .error (.host fault) { session with workspace }

/-- Print a line. -/
def print (line : Line) : Working Unit :=
  modify fun session => { session with output := session.output ++ [line] }

end Working

/-! ## The log -/

namespace Request

/-- Lines for the log, which is kept only on request. -/
def logged (request : Request) (lines : List String) : List String :=
  if request.isVerbose then lines else []

/-- Add lines to the log. -/
def log (request : Request) (lines : List String) : Working Unit :=
  modify fun session => { session with errors := session.errors ++ request.logged lines }

end Request

/-- What the log tells about the generator of a name. -/
def generatorLines (name : String) : List String :=
  [logLine "DEBUG" "rpcgen.generator" ("Using generator " ++ GeneratorClass.pathOf name)]

/-- What the log tells about an error. -/
def errorLines (error : StubError) : List String :=
  [logLine "DEBUG" "rpcgen.cli"
    ("Generation failed: " ++ (Datum.record error.report.record).display)]

namespace Request

/-! ## Steps -/

/-- What a part of a file name shows where its option is given without a value. -/
def valueless : String := "[]"

/-- The options of the generator. -/
def options (request : Request) : Options where
  indentWidth := request.indent.getD 0
  newline := if request.usesLineFeeds then "\n" else "\r\n"
  fileSuffix := request.suffix.getD valueless
  extension := request.extension.getD valueless

/-- The output directory. -/
def directory (request : Request) : Except Fault Path :=
  match request.outputDir with
  | some text => .ok (.ofText text)
  | none => .error (.wrongType "expected str, bytes or os.PathLike object, not list")

/-- The name of the generator. -/
def generatorName (request : Request) : Except Fault String :=
  match request.generator with
  | some name => .ok name
  | none => .error (.missingValueAttribute "list" "lower")

/-- The fault of a line when the width of an indentation is given without a value. -/
def widthFault : Fault := .wrongType "can't multiply sequence by non-int of type 'list'"

/-- What a generator makes of a service for a request. The generator of the program writes no line
without the width of an indentation. -/
def generation (request : Request) (generator : Generator) (graph : TypeGraph)
    (service : Service) : Generation :=
  let made := generator.generate graph service
  match generator, request.indent with
  | .typescript _, none => { made with files := made.files.bind fun _ => .error (.host widthFault) }
  | _, _ => made

variable (creation : Creation)

/-- Find the generator. -/
def findGenerator (request : Request) : Working Generator := do
  let name ← .ofExcept (request.generatorName.mapError .host)
  let found ← .describe (GeneratorClass.find (← get).workspace name)
  request.log (generatorLines name)
  .ofExcept (found.create creation request.options)

/-- Load the module. -/
def loadModule (request : Request) : Working Module := do
  .describe (Loading.loadSource (← get).workspace request.source)

/-- Find, describe and generate one service. -/
def generateFiles (request : Request) (generator : Generator) (module : Module)
    (symbol : String) : Working (List StubFile) := do
  let found ← .describe (module.findService symbol)
  let service ← .describe (module.describeService found)
  let made := request.generation generator (← get).knowledge.catalog.graph service
  request.log made.log
  let files ← .ofExcept made.files
  request.log made.report
  return files

/-- Write a file to the output directory. -/
def writeFile (directory : Path) (file : StubFile) : Working Unit := do
  let path := directory.join (.ofText file.name)
  .file (.write path file.content)
  .print (.generated path)

/-- Write files in order. -/
def writeFiles (directory : Path) : List StubFile → Working Unit
  | [] => pure ()
  | file :: rest => do
    writeFile directory file
    writeFiles directory rest

/-- Generate and write one service after the other. -/
def generateAll (request : Request) (directory : Path) (generator : Generator)
    (module : Module) : List String → Working Unit
  | [] => pure ()
  | symbol :: rest => do
    let files ← request.generateFiles generator module symbol
    writeFiles directory files
    request.generateAll directory generator module rest

/-- All that a request asks for. -/
def perform (request : Request) : Working Unit := do
  let directory ← .ofExcept (request.directory.mapError .host)
  .file (.makeDirectories directory)
  let generator ← request.findGenerator creation
  let module ← request.loadModule
  request.generateAll directory generator module request.symbols
  .print .completed

end Request

/-! ## Outcomes -/

/-- What a run leaves. -/
structure Outcome where
  /-- The exit status, or the exception that ended the run. -/
  status : Except Fault Nat
  output : List Line := []
  errors : List String := []
  workspace : Workspace

/-- The exit status of a run that was complete. -/
def successStatus : Nat := 0

/-- The exit status of a run with a failure. -/
def failureStatus : Nat := 1

/-- The exit status of a run whose command line was refused. -/
def refusalStatus : Nat := 2

/-- What a run leaves after some session. -/
def Session.outcome (session : Session) (status : Except Fault Nat) : Outcome where
  status
  output := session.output
  errors := session.errors
  workspace := session.workspace

/-- What the run of a request leaves. -/
def Request.run (creation : Creation) (request : Request) (workspace : Workspace) : Outcome :=
  match request.perform creation { workspace } with
  | .ok _ session => session.outcome (.ok successStatus)
  | .error (.host fault) session => session.outcome (.error fault)
  | .error (.stub error) session =>
    Session.outcome
      { session with
        errors := session.errors ++ request.logged (errorLines error) ++
          ["error: " ++ error.message] }
      (.ok failureStatus)

/-- The files that a run of a command line may execute. -/
def executedPaths (words : List String) : List Path :=
  match Request.ofWords words with
  | .ok request =>
    (match request.generator with
      | some name => Loading.importedPaths (Text.cutAtFirst ':' (GeneratorClass.pathOf name)).1
      | none => []) ++ Loading.sourcePaths request.source
  | .error _ => []

/-- What the run of a command line leaves. -/
def run (creation : Creation) (workspace : Workspace) (words : List String) : Outcome :=
  match Request.ofWords words with
  | .ok request => request.run creation workspace
  | .error .help => { status := .ok successStatus, output := helpLines.map .help, workspace }
  | .error (.refused message) =>
    { status := .ok refusalStatus, errors := [programName ++ ": error: " ++ message], workspace }

end ServiceStubs.Command
