import ServiceStubs.Text.Lines

/-!
# Paths

A path names a file or a directory by the names on the way to it. Empty names and single dots
lead nowhere and are dropped; two dots are kept, because they lead out of a directory only when
it exists. The written form of a path has one slash between names.
-/

namespace ServiceStubs

/-- A path: the slashes it starts with, none for a path from the working directory, and the names
on the way. -/
structure Path where
  root : String := ""
  parts : List String := []
deriving DecidableEq, Repr, Inhabited

namespace Path

/-- Whether a name between slashes leads anywhere. -/
def isStep (part : String) : Bool := part ≠ "" && part ≠ "."

/-- The root that a text begins with. Two slashes are a root of their own; any other number of
slashes counts as one. -/
def rootOf (text : List Char) : String :=
  match (text.takeWhile (· = '/')).length with
  | 0 => ""
  | 2 => "//"
  | _ => "/"

/-- The path that a text names. -/
def ofText (text : String) : Path :=
  ⟨rootOf text.toList, (Text.pieces '/' text).filter isStep⟩

/-- The written form of a path. -/
def text (path : Path) : String :=
  if path.root = "" && path.parts.isEmpty then "."
  else path.root ++ Text.joined "/" path.parts

/-- The path that another one names from a directory. -/
def join (directory other : Path) : Path :=
  if other.root = "" then { directory with parts := directory.parts ++ other.parts } else other

/-- The directory of a path. -/
def parent (path : Path) : Path := { path with parts := path.parts.dropLast }

/-- The last name of a path. -/
def name (path : Path) : String := path.parts.getLast?.getD ""

/-- The last name before and after its last dot. A dot at either end separates nothing. -/
def stemAndSuffix (path : Path) : String × String :=
  let name := path.name.toList
  let suffix := (name.reverse.takeWhile (· ≠ '.')).reverse
  let stem := name.take (name.length - suffix.length - 1)
  if suffix.isEmpty || stem.isEmpty then (path.name, "")
  else (String.ofList stem, String.ofList ('.' :: suffix))

/-- The last name without what follows its last dot. -/
def stem (path : Path) : String := path.stemAndSuffix.1

/-- What follows the last dot of the last name, with the dot. -/
def suffix (path : Path) : String := path.stemAndSuffix.2

end Path

end ServiceStubs
