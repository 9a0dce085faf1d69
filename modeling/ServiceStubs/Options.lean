import ServiceStubs.Writing.Emission

/-!
# Generator options

The settings that all generators share, with their defaults.
-/

namespace ServiceStubs

/-- Settings of a generator. -/
structure Options where
  /-- Spaces for each level of nesting. -/
  indentWidth : Int := 4
  /-- What ends each line of a generated file. -/
  newline : String := "\r\n"
  /-- Appended to the name of a service in the name of its file. -/
  fileSuffix : String := "rpc"
  /-- Extension of a generated file, without the dot. -/
  extension : String := "ts"
  /-- The template that wraps the result of a method. -/
  promiseType : String := "Promise"
deriving DecidableEq, Repr, Inhabited

/-- The layout of a generated file. -/
def Options.layout (options : Options) : Writing.Layout := ⟨options.indentWidth, options.newline⟩

/-- The name of the file for a service. -/
def Options.fileName (options : Options) (serviceName : String) : String :=
  serviceName ++ "_" ++ options.fileSuffix ++ "." ++ options.extension

end ServiceStubs
