import ServiceStubs.Command.Run

/-!
# Command line

Runs a command line in the working directory: reads the files that the run may execute, runs, and
stores what the run has made. Files are read as text, and their statements are executed. The code
of a user's generator class is not executed, so a run that asks for such a generator ends with the
fault that says so; a run that is given the creation of such generators uses them.
-/

namespace ServiceStubs

/-- The text of a file, if it can be read. -/
def readText? (path : Path) : IO (Option String) := do
  try return some (← IO.FS.readFile path.text)
  catch _ => return none

/-- A workspace with a further file. -/
def Workspace.withText (workspace : Workspace) (path : Path) (text : String) : Workspace :=
  match Filing.place path text workspace with
  | .ok _ changed | .error _ changed => changed

/-- The workspace with those of some files that can be read. -/
def readWorkspace (paths : List Path) : IO Workspace :=
  paths.foldlM (fun workspace path => do
    match ← readText? path with
    | some text => return workspace.withText path text
    | none => return workspace) {}

/-- Store an entry that a run has made. -/
def storeEntry (earlier : Workspace) (place : Place) (entry : Entry) : IO Unit :=
  let path := Text.joined "/" place
  match entry, earlier.tree.get? place with
  | .directory, none => IO.FS.createDirAll path
  | .file (.text text), some (.file (.text old)) =>
    if text = old then pure () else IO.FS.writeFile path text
  | .file (.text text), _ => IO.FS.writeFile path text
  | _, _ => pure ()

/-- Run a command line and store what it has made. -/
def runInDirectory (words : List String) : IO UInt32 := do
  let start ← IO.monoMsNow
  let workspace ← readWorkspace (Command.executedPaths words)
  let outcome := Command.run unexecutedCreation workspace words
  for (place, entry) in outcome.workspace.tree.entries do
    storeEntry workspace place entry
  let milliseconds := (← IO.monoMsNow) - start
  for line in outcome.output do IO.println (line.shown (toString milliseconds))
  for line in outcome.errors do IO.eprintln line
  match outcome.status with
  | .ok status => return status.toUInt32
  | .error fault =>
    IO.eprintln (fault.kind ++ ": " ++ fault.message)
    return Command.failureStatus.toUInt32

end ServiceStubs

/-- The entry point of the command line. -/
def main (words : List String) : IO UInt32 := ServiceStubs.runInDirectory words
