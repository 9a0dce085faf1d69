import ServiceStubs.Files.Path
import ServiceStubs.OrderedMap
import ServiceStubs.Source.Declaration
import ServiceStubs.Source.Fault

/-!
# Workspaces

The files and directories that a run works on. A place is the list of names that lead to a file
or a directory from the working directory once every pair of dots is followed; the working
directory, the directories above it and the root of the system exist without being listed. An
operation on a path follows its names one after the other and meets the first obstacle on the
way.
-/

namespace ServiceStubs

open Source (Declaration Fault Obstacle)

/-- What a file holds. -/
inductive Content
  /-- A module. -/
  | module (declarations : List Declaration)
  /-- Any text. -/
  | text (text : String)
deriving Inhabited

/-- A file or a directory. -/
inductive Entry
  | directory
  | file (content : Content)
deriving Inhabited

/-- The names that lead to a file or a directory, without pairs of dots behind a name. -/
abbrev Place := List String

/-- The first name of places that are not reached from the working directory. -/
def rootName : String := "/"

/-- The name that leads out of a directory. -/
def upward : String := ".."

/-- Files and directories by place. -/
structure Workspace where
  tree : OrderedMap Place Entry := .empty
deriving Inhabited

namespace Workspace

/-- Whether a place is a directory that exists without being listed. -/
def isGiven (place : Place) : Bool := place = [rootName] || place.all (· = upward)

/-- What is at a place. -/
def entry? (workspace : Workspace) (place : Place) : Option Entry :=
  if isGiven place then some .directory else workspace.tree.get? place

/-- The most bytes of a name. -/
def longestName : Nat := 255

/-- The most bytes of a path. -/
def longestPath : Nat := 4095

/-- The place that a name leads to from a directory. -/
def next (place : Place) (part : String) : Place :=
  if part ≠ upward then place ++ [part]
  else if place = [rootName] then place
  else match place.getLast? with
    | none => [upward]
    | some last => if last = upward then place ++ [upward] else place.dropLast

/-- One step from a place, which has to be a directory. -/
def step (workspace : Workspace) (place : Place) (part : String) : Except Obstacle Place :=
  match workspace.entry? place with
  | none => .error .missing
  | some (.file _) => .error .notDirectory
  | some .directory =>
    if part.utf8ByteSize > longestName then .error .nameTooLong else .ok (next place part)

/-- The place of a path, whether or not there is anything. -/
def placeOf (workspace : Workspace) (path : Path) : Except Obstacle Place :=
  if path.text.utf8ByteSize > longestPath then .error .nameTooLong
  else path.parts.foldlM workspace.step (if path.root = "" then [] else [rootName])

/-- The exception of a path that no system call accepts, if it is one. -/
def refusal? (path : Path) : Option Fault :=
  if path.text.toList.contains '\x00' then some (.wrongValue "embedded null byte") else none

/-- Store an entry at a place. -/
def put (workspace : Workspace) (place : Place) (entry : Entry) : Workspace :=
  ⟨workspace.tree.put place entry⟩

end Workspace

/-- A request that changes a workspace and may fail; what it has changed before a failure stays. -/
abbrev Filing (α : Type) := EStateM Fault Workspace α

namespace Filing

/-- The exception of an obstacle on a path. -/
def blocked {α : Type} (path : Path) (obstacle : Obstacle) : Filing α :=
  throw (.blocked obstacle path.text)

/-- The place of a path that a system call accepts. -/
def placeOf (path : Path) : Filing Place := do
  if let some fault := Workspace.refusal? path then throw fault
  match (← get).placeOf path with
  | .ok place => return place
  | .error obstacle => blocked path obstacle

/-- Make a directory, unless there is one. The answer is no if a directory above it is missing. -/
def ensureDirectory (path : Path) : Filing Bool := do
  if let some fault := Workspace.refusal? path then throw fault
  let workspace ← get
  match workspace.placeOf path with
  | .error .missing => return false
  | .error obstacle => blocked path obstacle
  | .ok place =>
    match workspace.entry? place with
    | some .directory => return true
    | some (.file _) => blocked path .exists
    | none =>
      set (workspace.put place .directory)
      return true

/-- Make the directory that the first `count` names of a path lead to, unless there is one. When
a directory above it is missing, that one is made first. -/
def ensureDirectories (path : Path) : Nat → Filing Unit
  | 0 => discard (ensureDirectory { path with parts := [] })
  | count + 1 => do
    let directory := { path with parts := path.parts.take (count + 1) }
    if !(← ensureDirectory directory) then
      ensureDirectories path count
      if !(← ensureDirectory directory) then blocked directory .missing

/-- Make a directory and those above it, unless they exist. -/
def makeDirectories (path : Path) : Filing Unit := ensureDirectories path path.parts.length

/-- Write a text to a file, in place of what the file held. Only the directory of the file has to
exist, which finding its place shows. -/
def write (path : Path) (text : String) : Filing Unit := do
  let place ← placeOf path
  let workspace ← get
  match workspace.entry? place with
  | some .directory => blocked path .directory
  | _ => set (workspace.put place (.file (.text text)))

/-- Write a text to a file after its directory is made. -/
def place (path : Path) (text : String) : Filing Unit := do
  makeDirectories path.parent
  write path text

end Filing

end ServiceStubs
