import ServiceStubs.Source.Display
import ServiceStubs.Source.Module
import ServiceStubs.Text.Lines

/-!
# Names in a module

How the names of a class body are changed to keep them private, how annotations are spelled, and
which names need no declaration. The words of annotations mean the same everywhere, whatever a
module declares; the built-in names can be declared anew.
-/

namespace ServiceStubs.Source

/-! ## Private names -/

/-- Whether a name begins and ends with two underscores. -/
def isDunder (name : String) : Bool := Text.opensWith "__" name && Text.endsWith "__" name

/-- A name as the body of a class binds it. A name that begins with two underscores and does not
end with two gets the name of the class in front, without the underscores that the class name
begins with; a class whose name holds nothing else changes no names. -/
def privateName (className name : String) : String :=
  let stripped := String.ofList (className.toList.dropWhile (· = '_'))
  if !Text.opensWith "__" name || Text.endsWith "__" name || stripped.isEmpty then name
  else "_" ++ stripped ++ name

/-! ## Spelling -/

namespace Annotation

mutual

/-- An annotation as it is written in a module. -/
def spelling : Annotation → String
  | .name path => path
  | .apply origin arguments =>
    origin.spelling ++ "[" ++ Text.commaJoined (spellings arguments) ++ "]"
  | .quoted inner => Text.quoted inner.spelling
  | .quotedText text => Text.quoted text
  | .union members => "Union[" ++ Text.commaJoined (spellings members) ++ "]"
  | .optional member => "Optional[" ++ member.spelling ++ "]"
  | .alternatives members => Text.joined " | " (spellings members)
  | .literal values => "Literal[" ++ Text.commaJoined (values.map Datum.display) ++ "]"
  | .callable arguments result =>
    "Callable[[" ++ Text.commaJoined (spellings arguments) ++ "], " ++ result.spelling ++ "]"
  | .annotated inner note => "Annotated[" ++ inner.spelling ++ ", " ++ Text.quoted note ++ "]"

/-- Several annotations as they are written. -/
def spellings : List Annotation → List String
  | [] => []
  | annotation :: rest => annotation.spelling :: spellings rest

end

end Annotation

/-! ## Words of annotations -/

/-- The words of annotations that no declaration changes. -/
def vocabulary : List (String × Value) := [
  ("None", .nothing), ("...", .ellipsis), ("Any", .standard .any), ("List", .bareAlias .list),
  ("Sequence", .bareAlias .sequence), ("MutableSequence", .bareAlias .mutableSequence),
  ("Dict", .bareAlias .dict), ("Set", .bareAlias .set), ("Tuple", .bareAlias .tuple),
  ("Iterable", .bareAlias .iterable), ("Mapping", .bareAlias .mapping),
  ("ClassVar", .qualifier .classVar), ("Final", .qualifier .final),
  ("Required", .qualifier .required), ("NotRequired", .qualifier .notRequired),
  ("abc.Sequence", .standard .sequence), ("abc.MutableSequence", .standard .mutableSequence),
  ("abc.Iterable", .standard .iterable), ("deque", .standard .deque),
  ("datetime", .standard .datetime), ("Decimal", .standard .decimal)]

/-! ## Built-in names -/

/-- The names of the other built-in classes. -/
def furtherClassNames : List String := [
  "classmethod", "enumerate", "filter", "map", "memoryview", "property", "range", "reversed",
  "slice", "staticmethod", "super", "zip"]

/-- The names of built-in functions. -/
def builtinFunctionNames : List String := [
  "abs", "aiter", "all", "anext", "any", "ascii", "bin", "breakpoint", "callable", "chr",
  "compile", "delattr", "dir", "divmod", "eval", "exec", "format", "getattr", "globals",
  "hasattr", "hash", "hex", "id", "input", "isinstance", "issubclass", "iter", "len", "locals",
  "max", "min", "next", "oct", "open", "ord", "pow", "print", "repr", "round", "setattr",
  "sorted", "sum", "vars"]

/-- The built-in names. -/
def builtinNames : List String :=
  builtinClasses.map StandardClass.name ++ furtherClassNames ++ builtinFunctionNames ++
    ["BaseException", "EnvironmentError", "IOError", "NotImplemented", "Ellipsis", "__debug__"] ++
    StandardClass.exceptionParents.map Prod.fst

/-- The meaning of a built-in name. -/
def builtin? (name : String) : Option Value :=
  match builtinClasses.find? fun value => value.name = name with
  | some value => some (.standard value)
  | none =>
    if furtherClassNames.contains name then some (.standard (.named "builtins" name))
    else if builtinFunctionNames.contains name then
      some (.builtin name)
    else match name with
      | "NotImplemented" => some (.object "NotImplementedType" "NotImplemented")
      | "Ellipsis" => some .ellipsis
      | "__debug__" => some (.constant (.flag true))
      | _ => (exceptionClass? name).map Value.standard

end ServiceStubs.Source
