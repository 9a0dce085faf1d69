import ServiceStubs.Files.Workspace
import ServiceStubs.Loading.Program
import ServiceStubs.Source.Script
import ServiceStubs.Source.StandardModules

/-!
# Importing modules

A module is imported by a name with dots between its parts; each part is a module inside the one
before it. The first part is searched in the working directory and among the modules that need no
file. In a directory, a directory of the name with an initial file makes a package, a file of the
name a plain module, and a directory without an initial file a package that holds nothing itself.
Every module on the way is executed.
-/

namespace ServiceStubs.Loading

open Source (Declaration Evaluating Fault Module loadedModules plainModules standardContents
  standardNames standardPackages toldNames)

/-! ## Loaders -/

/-- How the content of a file makes a module of a name. -/
abbrev Loader := (name fileName : String) → Content → Evaluating Module

/-! ## Searching directories -/

/-- A module that was imported. -/
structure Imported where
  /-- The name under which it is imported. -/
  name : String
  module : Module
  /-- The directories where modules inside it are searched, if it is a package. -/
  directories : Option (List Place) := none
deriving Inhabited

/-- The file that makes a directory a package. -/
def initialFile : String := "__init__.py"

/-- The ending of the file of a plain module. -/
def moduleEnding : String := ".py"

/-- What a directory has under the name of a module. -/
inductive Found
  /-- The initial file of a package. -/
  | package (directory : Place) (content : Content)
  /-- The file of a plain module. -/
  | file (fileName : String) (content : Content)
  /-- A directory without an initial file. -/
  | bare (directory : Place)

/-- What a directory has under the name of a module, if anything. -/
def find? (workspace : Workspace) (directory : Place) (name : String) : Option Found :=
  match workspace.entry? (directory ++ [name, initialFile]) with
  | some (.file content) => some (.package (directory ++ [name]) content)
  | _ =>
    match workspace.entry? (directory ++ [name ++ moduleEnding]) with
    | some (.file content) => some (.file (name ++ moduleEnding) content)
    | _ =>
      match workspace.entry? (directory ++ [name]) with
      | some .directory => some (.bare (directory ++ [name]))
      | _ => none

/-- What the directories of a package have under the name of a module. A bare directory counts
only where no directory has anything else. -/
def search? (workspace : Workspace) (directories : List Place) (name : String) : Option Found :=
  let found := directories.filterMap fun directory => find? workspace directory name
  (found.find? fun candidate => !(candidate matches .bare _)).or found.head?

/-- The module of what was found, under its full name. -/
def Found.load (loader : Loader) (name : String) : Found → Evaluating Imported
  | .package directory content => do
    return ⟨name, ← loader name initialFile content, some [directory]⟩
  | .file fileName content => do return ⟨name, ← loader name fileName content, none⟩
  | .bare directory => return ⟨name, { name }, some [directory]⟩

/-! ## Modules that need no file -/

/-- A module of the standard library, of which nothing but the classes is known. -/
def standardModule (name : String) (isPackage : Bool) : Imported where
  name
  module := { newModule ((toldNames.lookup name).getD name) with names := standardNames name }
  directories := if isPackage then some [] else none

/-- Whether a standard module has others inside it. -/
def isStandardPackage (name : String) : Bool :=
  standardPackages.contains name || (standardContents.lookup name).isSome

/-- A module that is loaded before a run starts. -/
def loaded? (name : String) : Option Imported :=
  match programModule? name with
  | some module => some ⟨name, module, if name = programPackage then some [] else none⟩
  | none =>
    if loadedModules.contains name then some (standardModule name (isStandardPackage name))
    else none

/-- A module of the standard library that is not loaded yet. -/
def standard? (name : String) : Option Imported :=
  if isStandardPackage name then some (standardModule name true)
  else if plainModules.contains name then some (standardModule name false)
  else none

/-- A module inside a standard package. -/
def standardInside? (package part : String) : Option Imported :=
  match standardContents.lookup package with
  | some contents =>
    if (Text.pieces ' ' contents).contains part then
      some (standardModule (package ++ "." ++ part) (isStandardPackage (package ++ "." ++ part)))
    else none
  | none => none

/-! ## Names with dots -/

/-- The fault of a module that is not found. -/
def missing (name : String) : Fault := .missingModule ("No module named " ++ Text.quoted name)

section

variable (loader : Loader)

/-- The module of the first part of a name. -/
def importFirst (workspace : Workspace) (name : String) : Evaluating Imported :=
  match loaded? name with
  | some found => pure found
  | none =>
    match find? workspace [] name, standard? name with
    | some (.bare _), some found | none, some found => pure found
    | some found, _ => found.load loader name
    | none, none => throw (missing name)

/-- The module that further parts of a name lead to from a module. -/
def importInside (workspace : Workspace) (outer : Imported) : List String → Evaluating Imported
  | [] => pure outer
  | part :: rest => do
    let name := outer.name ++ "." ++ part
    match loaded? name with
    | some found => importInside workspace found rest
    | none =>
      match outer.directories with
      | none =>
        throw (.missingModule ("No module named " ++ Text.quoted name ++ "; " ++
          Text.quoted outer.name ++ " is not a package"))
      | some [] =>
        match standardInside? outer.name part with
        | none => throw (missing name)
        | some found => importInside workspace found rest
      | some directories =>
        match search? workspace directories part with
        | none => throw (missing name)
        | some found => importInside workspace (← found.load loader name) rest

/-- The module of a name. A name has to begin with a part, because there is no module that it
could be relative to. -/
def importWith (workspace : Workspace) (name : String) : Evaluating Imported :=
  if name = "" then throw (.wrongValue "Empty module name")
  else if Text.opensWith "." name then
    throw (.wrongType ("the 'package' argument is required to perform a relative import for " ++
      Text.quoted name))
  else match Text.pieces '.' name with
    | [] => throw (missing name)
    | first :: rest => do
      importInside loader workspace (← importFirst loader workspace first) rest

end

/-! ## Contents -/

/-- The module of a file under a name. A text may import others, which are not entered when more
than `depth` of them are within each other. -/
def executeWithin (workspace : Workspace) : Nat → Loader
  | 0, name, _, _ => pure (newModule name)
  | depth + 1, name, fileName, content =>
    match content with
    | .module declarations => (newModule name).executeAll declarations
    | .text text =>
      Module.executeText
        (fun path => do
          discard (importWith (executeWithin workspace depth) workspace path)
          return .imported path)
        (newModule name) fileName text

/-- The module of a file under a name. -/
def execute (workspace : Workspace) : Loader :=
  executeWithin workspace (workspace.tree.entries.length + 1)

/-- The module of a name. -/
def importModule (workspace : Workspace) (name : String) : Evaluating Imported :=
  importWith (execute workspace) workspace name

end ServiceStubs.Loading
