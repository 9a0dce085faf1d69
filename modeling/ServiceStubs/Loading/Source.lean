import ServiceStubs.Description.Catalog
import ServiceStubs.Loading.Import

/-!
# Sources

A source names the module that services are looked for in: the path of a file with the ending of
a module, or the name of a module to import. A file is executed under a name of its own, so that
it never stands in for an importable module. Whatever goes wrong in a file is told as a failure to
load it; of an import, only what says that a module cannot be imported.
-/

namespace ServiceStubs.Loading

open Source (Evaluating Failure Fault Module)

/-- What the names of modules that are loaded from files begin with. -/
def fileModuleOpening : String := "_rpcgen_src_"

/-- How a fault in the import of a source is told. -/
def importFailure (source : String) (fault : Fault) : Failure :=
  if fault.isImportFailure then .stub (.moduleNotImported source fault.message) else .host fault

/-- How a fault in the file of a source is told. -/
def fileFailure (source : String) (fault : Fault) : Failure :=
  if fault.isOrdinary then .stub (.sourceFileBroken source fault.message) else .host fault

/-- The module that a name leads to. -/
def importSource (workspace : Workspace) (source : String) : Describing Module :=
  .ofEvaluating (importFailure source) do return (← importModule workspace source).module

/-- The module of a file. -/
def executeSource (workspace : Workspace) (source : String) (path : Path) : Describing Module :=
  match workspace.placeOf path with
  | .error .nameTooLong => throw (.host (.blocked .nameTooLong path.text))
  | .error _ => throw (.stub (.sourceFileMissing source))
  | .ok place =>
    match workspace.entry? place with
    | none => throw (.stub (.sourceFileMissing source))
    | some .directory => throw (fileFailure source (.blocked .directory path.text))
    | some (.file content) =>
      .ofEvaluating (fileFailure source)
        (execute workspace (fileModuleOpening ++ path.stem) path.name content)

/-- The files that importing a name may execute: at each part of the name, the initial file of a
package and the file of a plain module. -/
def importedPaths (name : String) : List Path :=
  let parts := Text.pieces '.' name
  (List.range parts.length).flatMap fun count =>
    let inner := parts.take (count + 1)
    [{ parts := inner ++ [initialFile] },
      { parts := inner.dropLast ++ [(inner.getLast?.getD "") ++ moduleEnding] }]

/-- The files that loading a source may execute. -/
def sourcePaths (source : String) : List Path :=
  let path := Path.ofText source
  if path.suffix = moduleEnding then [path] else importedPaths source

/-- The module of a source. -/
def loadSource (workspace : Workspace) (source : String) : Describing Module :=
  let path := Path.ofText source
  if path.suffix = moduleEnding then executeSource workspace source path
  else importSource workspace source

end ServiceStubs.Loading
