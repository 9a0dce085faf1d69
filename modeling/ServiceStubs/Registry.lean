import ServiceStubs.OrderedMap
import ServiceStubs.Types.Graph

/-!
# Target names of types

A registry knows the name that each type has in the generated text. Built-in names come from a
fixed table and are never declared. Other names are registered in layers: registering never
changes a layer but puts a new one on top, so an older registry stays what it was. A type is
looked up by its identity, in the built-in table first and then in the layers, newest first.

A registered name avoids every name in use: those of the built-in table, those registered for
other types, and those reserved for declarations outside the registry. When the own name of a
type is taken, the least numeral from two on that makes it free is appended.
-/

namespace ServiceStubs

/-- One layer of registered names, by identity. -/
abbrev Layer := OrderedMap String String

/-- The names that types have in the generated text. -/
structure Registry where
  /-- Names that the target language has already, by identity. -/
  builtins : OrderedMap String String
  /-- Registered names, the newest layer first. -/
  layers : List Layer := []
  /-- Names that no type may be given. -/
  reserved : List String := []
deriving Inhabited

/-- The first of `name` followed by the numerals from `counter` on that is not taken, among as
many as there are tries left and one more. -/
def firstFreeNumbered (taken : List String) (name : String) : Nat → Nat → String
  | 0, counter => name ++ toString counter
  | tries + 1, counter =>
    if taken.contains (name ++ toString counter) then
      firstFreeNumbered taken name tries (counter + 1)
    else name ++ toString counter

/-- A name that is not taken: the name itself, or the name with the least free numeral. -/
def freeName (taken : List String) (name : String) : String :=
  if taken.contains name then firstFreeNumbered taken name taken.length 2 else name

namespace Registry

/-- The names of the shared primitive types in TypeScript. -/
def typescriptNames : OrderedMap String String := .ofList [
  ("int", "number"), ("long", "number"), ("float", "number"), ("double", "number"),
  ("bool", "boolean"), ("string", "string"), ("void", "void"), ("object", "any"),
  (listIdentity, "Array")]

/-- The registry that knows the built-in names of TypeScript alone. -/
def typescript : Registry := { builtins := typescriptNames }

/-- The built-in name of an identity. -/
def builtin? (registry : Registry) (identity : String) : Option String :=
  registry.builtins.get? identity

/-- Whether an identity has a built-in name. -/
def isBuiltin (registry : Registry) (identity : String) : Bool :=
  (registry.builtin? identity).isSome

/-- The registered name of an identity: that of the newest layer that has one. -/
def entry? (registry : Registry) (identity : String) : Option String :=
  registry.layers.findSome? fun layer => layer.get? identity

/-- The name of an identity, built-in names first. -/
def name? (registry : Registry) (identity : String) : Option String :=
  (registry.builtin? identity).or (registry.entry? identity)

/-- Whether an identity has a built-in or a registered name. -/
def contains (registry : Registry) (identity : String) : Bool :=
  (registry.name? identity).isSome

/-- Whether a type needs no declaration: it has a name, or it is a type parameter. -/
def isKnown (registry : Registry) (graph : TypeGraph) (type : TypeRef) : Bool :=
  graph.kind type = .parameter || registry.contains (graph.identity type)

/-- The registered identities in order of first registration. -/
def entryIdentities (registry : Registry) : List String :=
  firstOccurrences (registry.layers.reverse.flatMap OrderedMap.keys)

/-- The registered names in order of first registration. -/
def entryNames (registry : Registry) : List String :=
  registry.entryIdentities.filterMap registry.entry?

/-- The names that a newly registered type may not have. -/
def takenNames (registry : Registry) : List String :=
  registry.entryNames ++ registry.builtins.values ++ registry.reserved

/-- The text of a template applied to an argument. -/
def composeGeneric (base argument : String) : String := base ++ "<" ++ argument ++ ">"

/-- The text of a type. An identity with a name is written by it, whatever its structure; other
generic constructions are composed, and other atoms are written by their own name. -/
def map (registry : Registry) (graph : TypeGraph) : TypeRef → Except StubError String
  | .atom index =>
    .ok ((registry.name? (graph.atom index).identity).getD (graph.atom index).name)
  | .apply identity _ base [argument] =>
    match registry.name? identity with
    | some name => .ok name
    | none => do
      let baseText ← registry.map graph base
      let argumentText ← registry.map graph argument
      return composeGeneric baseText argumentText
  | .apply identity _ _ arguments =>
    match registry.name? identity with
    | some name => .ok name
    | none => .error (.genericArity identity arguments.length)

/-- The atoms under a type that still need a declaration. A generic construction contributes
its base and its argument, whether or not its own identity has a name. -/
def unknownAtoms (registry : Registry) (graph : TypeGraph) : TypeRef → Except StubError (List Nat)
  | .atom index => .ok (if registry.isKnown graph (.atom index) then [] else [index])
  | .apply _ _ base [argument] => do
    let inBase ← registry.unknownAtoms graph base
    let inArgument ← registry.unknownAtoms graph argument
    return inBase ++ inArgument
  | .apply identity _ _ arguments => .error (.genericArity identity arguments.length)

/-- A registry with one more layer that names one identity. -/
def extend (registry : Registry) (identity name : String) : Registry :=
  { registry with layers := OrderedMap.empty.put identity name :: registry.layers }

/-- A registry in which no type is newly given one of some names. -/
def reserve (registry : Registry) (names : List String) : Registry :=
  { registry with reserved := registry.reserved ++ names }

/-- The name under which an identity would be registered when `name` is proposed: the one it has
already, or the proposal made free. -/
def targetName (registry : Registry) (identity name : String) : String :=
  (registry.entry? identity).getD (freeName registry.takenNames name)

/-- A registry in which a type has a name derived from its own. -/
def register (registry : Registry) (graph : TypeGraph) (type : TypeRef) : Registry :=
  registry.extend (graph.identity type)
    (registry.targetName (graph.identity type) (graph.name type))

end Registry

end ServiceStubs
