import ServiceStubs.Error
import ServiceStubs.Text.Lines

/-!
# Type graphs

A service refers to types of five kinds. Primitives, composites, enumerations and parameters are
atoms: they stand in the table of a graph and are referred to by their place there, so the fields
of a composite may lead back to it. A generic construction applies a base to arguments and is
written out in the reference itself. Two references denote the same type when their identities
are equal, whatever else is known of them.
-/

namespace ServiceStubs

/-- What a type is. -/
inductive TypeKind
  | primitive
  | composite
  | enumeration
  | generic
  | parameter
deriving DecidableEq, Repr, Inhabited

/-- The word for a kind in messages. -/
def TypeKind.word : TypeKind → String
  | primitive => "primitive"
  | composite => "composite"
  | enumeration => "enumeration"
  | generic => "generic"
  | parameter => "parameter"

/-- The kinds of types that stand for themselves. -/
inductive AtomKind
  | primitive
  | composite
  | enumeration
  | parameter
deriving DecidableEq, Repr, Inhabited

/-- The kind of an atom among all kinds. -/
def AtomKind.kind : AtomKind → TypeKind
  | primitive => .primitive
  | composite => .composite
  | enumeration => .enumeration
  | parameter => .parameter

/-- A reference to a type of a graph. -/
inductive TypeRef
  /-- The atom at a place of the table. -/
  | atom (index : Nat)
  /-- A generic construction with its identity and name. -/
  | apply (identity name : String) (base : TypeRef) (arguments : List TypeRef)
deriving Inhabited, Repr

/-- A named field of a type. -/
structure Field where
  name : String
  type : TypeRef
deriving Inhabited, Repr

/-- A type that stands for itself. -/
structure Atom where
  kind : AtomKind
  /-- Equal identities mean the same type. -/
  identity : String
  /-- The name proposed for a declaration. -/
  name : String
  /-- Fields in order; only those of a composite are followed. -/
  fields : List Field := []
  /-- Members of an enumeration in order. -/
  members : List Datum := []
  /-- Names of the parameters of a generic template in order. -/
  typeParameters : List String := []
deriving Inhabited, Repr

namespace Atom

/-- A primitive type, named by its identity unless a name is given. -/
def primitive (identity : String) (name : String := "") : Atom :=
  { kind := .primitive, identity, name := if name = "" then identity else name }

/-- A composite type, identified by its name unless an identity is given. -/
def composite (name : String) (identity : String := "") (typeParameters : List String := [])
    (fields : List Field := []) : Atom :=
  { kind := .composite, identity := if identity = "" then name else identity, name, fields,
    typeParameters }

/-- An enumeration, identified by its name unless an identity is given. -/
def enumeration (name : String) (members : List Datum) (identity : String := "") : Atom :=
  { kind := .enumeration, identity := if identity = "" then name else identity, name, members }

/-- A type parameter, identified by its name after a tilde unless an identity is given. -/
def parameter (name : String) (identity : String := "") : Atom :=
  { kind := .parameter, identity := if identity = "" then "~" ++ name else identity, name }

end Atom

/-- A table of atoms. -/
structure TypeGraph where
  atoms : Array Atom := #[]
deriving Inhabited

namespace TypeGraph

/-- The atom at a place of the table; beyond its end stands a primitive without a name. -/
def atom (graph : TypeGraph) (index : Nat) : Atom := graph.atoms.getD index default

/-- The number of atoms. -/
def size (graph : TypeGraph) : Nat := graph.atoms.size

/-- A graph with one more atom, and the reference to it. -/
def add (graph : TypeGraph) (atom : Atom) : TypeRef × TypeGraph :=
  (.atom graph.size, ⟨graph.atoms.push atom⟩)

/-- The graph with the atom at a place replaced by what a function makes of it. -/
def modify (graph : TypeGraph) (index : Nat) (change : Atom → Atom) : TypeGraph :=
  ⟨graph.atoms.modify index change⟩

/-- The identity of a type. -/
def identity (graph : TypeGraph) : TypeRef → String
  | .atom index => (graph.atom index).identity
  | .apply identity _ _ _ => identity

/-- The name of a type. -/
def name (graph : TypeGraph) : TypeRef → String
  | .atom index => (graph.atom index).name
  | .apply _ name _ _ => name

/-- The kind of a type. -/
def kind (graph : TypeGraph) : TypeRef → TypeKind
  | .atom index => (graph.atom index).kind.kind
  | .apply _ _ _ _ => .generic

/-- The fields of a type. -/
def fields (graph : TypeGraph) : TypeRef → List Field
  | .atom index => (graph.atom index).fields
  | .apply _ _ _ _ => []

/-- The members of a type. -/
def members (graph : TypeGraph) : TypeRef → List Datum
  | .atom index => (graph.atom index).members
  | .apply _ _ _ _ => []

/-- The type parameters of a type. -/
def typeParameters (graph : TypeGraph) : TypeRef → List String
  | .atom index => (graph.atom index).typeParameters
  | .apply _ _ _ _ => []

/-- The identity composed from the identities of a base and its arguments. -/
def composedIdentity (graph : TypeGraph) (base : TypeRef) (arguments : List TypeRef) : String :=
  graph.identity base ++ "[" ++ Text.joined "," (arguments.map graph.identity) ++ "]"

/-- A generic construction over a base, named like the base. -/
def generic (graph : TypeGraph) (base : TypeRef) (arguments : List TypeRef) : TypeRef :=
  .apply (graph.composedIdentity base arguments) (graph.name base) base arguments

/-- A construction has the identity that is composed for it. -/
theorem identity_generic (graph : TypeGraph) (base : TypeRef) (arguments : List TypeRef) :
    graph.identity (graph.generic base arguments) = graph.composedIdentity base arguments := rfl

/-- Whether two references denote the same type. -/
def same (graph : TypeGraph) (left right : TypeRef) : Bool :=
  graph.identity left == graph.identity right

end TypeGraph

/-- The base of a generic construction. -/
def TypeRef.base? : TypeRef → Option TypeRef
  | .atom _ => none
  | .apply _ _ base _ => some base

/-- The arguments of a generic construction. -/
def TypeRef.arguments : TypeRef → List TypeRef
  | .atom _ => []
  | .apply _ _ _ arguments => arguments

/-- The only argument of a generic construction; any other number of arguments is an error. -/
def TypeGraph.argument (graph : TypeGraph) (type : TypeRef) : Except StubError TypeRef :=
  match type.arguments with
  | [argument] => .ok argument
  | arguments => .error (.genericArity (graph.identity type) arguments.length)

/-- The identity of the list template. -/
def listIdentity : String := "list"

end ServiceStubs
