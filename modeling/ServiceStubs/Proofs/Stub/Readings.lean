import ServiceStubs.Proofs.Stub.GivenNames
import ServiceStubs.Proofs.Stub.References

/-!
# How the names in a stub are read

A name in the text of a type stands for a built-in type, for a type that the file declares or for a
type parameter. A reader of the file knows only the name. Within an interface it is first taken for
a type parameter of the interface, then for what the file declares, and else for what the language
has. So a name is read as what it stands for unless something nearer has it too.

The names given to types avoid the built-in names, each other and the names of the service. They do
not avoid the promise template and the type parameters of interfaces, and the name of the service
avoids nothing. What follows says exactly which names are read wrongly for that.
-/

namespace ServiceStubs.Stub

open Document (Interface)

/-- What a name stands for. -/
inductive Meaning
  /-- What the target language has under the name. -/
  | language (name : String)
  /-- What the file declares under the name. -/
  | declared (name : String)
  /-- The type parameter of the name. -/
  | parameter (name : String)
deriving DecidableEq, Repr

namespace Meaning

/-- The name of what is meant. -/
def name : Meaning → String
  | language name => name
  | declared name => name
  | parameter name => name

/-- Whether nothing nearer has the name, where some type parameters are in scope: the names given to
types are apart from built-in names and from the name of the service. -/
def Readable (scope : List String) (serviceName : String) : Meaning → Prop
  | language name => name ∉ scope ∧ name ≠ serviceName
  | declared name => name ∉ scope
  | parameter name => name ∈ scope

end Meaning

/-- What a name is read as where some type parameters are in scope and some names are declared. -/
def read (scope declared : List String) (name : String) : Meaning :=
  if name ∈ scope then .parameter name
  else if name ∈ declared then .declared name
  else .language name

/-- The names of the interfaces and enumerations of a stub: those of its types, then that of the
service. -/
def declaredNames (graph : TypeGraph) (service : Service) (closure : Closure) : List String :=
  typeNames graph closure ++ [service.name]

/-- What the names in the text of a type stand for. -/
inductive Mentions (graph : TypeGraph) (types : List Nat) (declarations : List Document.Node) :
    TypeRef → Meaning → Prop
  /-- A type with a built-in name mentions what the language has. -/
  | builtin {type : TypeRef} {text : String}
      (found : Registry.typescript.builtin? (graph.identity type) = some text) :
      Mentions graph types declarations type (.language text)
  /-- A type that is declared mentions its declaration. -/
  | declared {type : TypeRef} {index : Nat} {node : Document.Node} {text : String}
      (plain : Registry.typescript.builtin? (graph.identity type) = none)
      (declares : (index, node) ∈ types.zip declarations)
      (same : (graph.atom index).identity = graph.identity type)
      (named : declaredName? node = some text) :
      Mentions graph types declarations type (.declared text)
  /-- A type parameter mentions itself. -/
  | parameter {index : Nat} (undeclared : Undeclared graph types (graph.atom index).identity)
      (kind : (graph.atom index).kind = .parameter) :
      Mentions graph types declarations (.atom index) (.parameter (graph.atom index).name)
  /-- A construction without a name mentions what its base does. -/
  | base {identity name : String} {base argument : TypeRef} {meaning : Meaning}
      (undeclared : Undeclared graph types identity)
      (mentioned : Mentions graph types declarations base meaning) :
      Mentions graph types declarations (.apply identity name base [argument]) meaning
  /-- A construction without a name mentions what its argument does. -/
  | argument {identity name : String} {base argument : TypeRef} {meaning : Meaning}
      (undeclared : Undeclared graph types identity)
      (mentioned : Mentions graph types declarations argument meaning) :
      Mentions graph types declarations (.apply identity name base [argument]) meaning

variable {options : Options} {graph : TypeGraph} {service : Service} {stub : Stub}
variable {closure : Closure} {declarations : List Document.Node}

/-- A built-in name is one of the names of the table. -/
theorem mem_typescriptNames {identity name : String}
    (found : Registry.typescript.builtin? identity = some name) :
    name ∈ Registry.typescriptNames.values := by
  rw [Registry.builtin?, OrderedMap.get?, Option.map_eq_some_iff] at found
  obtain ⟨entry, located, rfl⟩ := found
  exact List.mem_map_of_mem (List.mem_of_find?_eq_some located)

/-- What a name stands for is read from it when nothing nearer has the name. -/
theorem read_eq_iff (scope declared : List String) (meaning : Meaning) :
    read scope declared meaning.name = meaning ↔
      match meaning with
      | .language name => name ∉ scope ∧ name ∉ declared
      | .declared name => name ∉ scope ∧ name ∈ declared
      | .parameter name => name ∈ scope := by
  cases meaning with
  | language name | declared name | parameter name =>
    by_cases inScope : name ∈ scope <;> by_cases inFile : name ∈ declared <;>
      simp [read, Meaning.name, inScope, inFile]

section

variable (named : NamedFrom service.name graph closure)
variable (declares : List.Forall₂
  (fun index node => declaredName? node = some (closure.registry.nameOf graph index))
  closure.types declarations)

include named declares

/-- A name in the text of a type is read as what it stands for exactly when it is readable. -/
theorem Mentions.read_iff {type : TypeRef} {meaning : Meaning}
    (mentioned : Mentions graph closure.types declarations type meaning) (scope : List String) :
    read scope (declaredNames graph service closure) meaning.name = meaning ↔
      meaning.Readable scope service.name := by
  rw [read_eq_iff]
  induction mentioned with
  | builtin found =>
    have apart : ∀ name ∈ typeNames graph closure, name ≠ _ := fun name member same =>
      (named.typeNames_free member).1 (same ▸ mem_typescriptNames found)
    simp only [declaredNames, List.mem_append, List.mem_singleton, Meaning.Readable]
    grind
  | declared _ paired _ text =>
    -- The text comes from the declaration, which has the name that the registry gave the type.
    have given := List.forall₂_zip declares paired
    have listed : _ ∈ typeNames graph closure := List.mem_map_of_mem (List.of_mem_zip paired).1
    obtain rfl := Option.some.inj (given.symm.trans text)
    simp only [declaredNames, List.mem_append, Meaning.Readable]
    exact and_iff_left (.inl listed)
  | parameter _ _ => exact Iff.rfl
  | base _ _ ih => exact ih
  | argument _ _ ih => exact ih

end

/-- The interfaces and enumerations of a stub have the declared names in order. -/
theorem declaredName?_constructs {registry : Registry} {types : List Nat}
    {methods : List Document.MethodSignature} {events : List Document.EventSignature}
    (declares : List.Forall₂
      (fun index node => declaredName? node = some (registry.nameOf graph index))
      types declarations) :
    (declarations ++ serviceConstructs service methods events).filterMap declaredName? =
      types.map (registry.nameOf graph) ++ [service.name] := by
  rw [List.filterMap_append]
  congr 1
  induction declares with
  | nil => rfl
  | cons first _ ih => rw [List.filterMap_cons_some first, ih, List.map_cons]

/-- How the types of a closure come to their names. -/
structure NamesGiven (graph : TypeGraph) (service : Service) (closure : Closure) : Prop where
  /-- A name that is given to a type is its own name or that name with a numeral. -/
  derived : ∀ name ∈ typeNames graph closure, ∃ index ∈ closure.types,
    closure.registry.nameOf graph index = name ∧ DerivedName (graph.atom index).name name
  /-- The own name of a type is given away when it is neither built in nor the service's. -/
  own : ∀ index ∈ closure.types, (graph.atom index).name ∉ Registry.typescriptNames.values →
    (graph.atom index).name ∉ ownNames service.name →
    (graph.atom index).name ∈ typeNames graph closure

/-- The names in the closure of a stub are given so. -/
theorem namesGiven
    (resolved : (startingRegistry service.name).resolve graph service.members.types =
      .ok closure) : NamesGiven graph service closure where
  derived _ member := exists_derived_of_mem_typeNames resolved member
  own _ member plain foreign := own_mem_typeNames resolved member plain foreign

/-! ## Names of the language -/

/-- How the names that a stub takes from the language are read in it. -/
structure LanguageNames (options : Options) (graph : TypeGraph) (service : Service)
    (closure : Closure) (declarations constructs : List Document.Node) : Prop where
  /-- The interfaces and enumerations are those of the types and of the service. -/
  declared : constructs.filterMap declaredName? = declaredNames graph service closure
  /-- A built-in name is declared only when it is the name of the service. -/
  builtin : ∀ name ∈ Registry.typescriptNames.values,
    name ∈ declaredNames graph service closure ↔ name = service.name
  /-- The promise template is read as that of the language when neither the service nor a type has
  its name. -/
  promise : read [] (declaredNames graph service closure) options.promiseType =
      .language options.promiseType ↔
    options.promiseType ≠ service.name ∧ options.promiseType ∉ typeNames graph closure
  /-- A name in a member of the service is read as what it stands for when it is readable. -/
  members : ∀ type ∈ service.members.types, ∀ meaning,
    Mentions graph closure.types declarations type meaning →
      (read [] (declaredNames graph service closure) meaning.name = meaning ↔
        meaning.Readable [] service.name)

/-- In every stub, a built-in name is captured by nothing but the name of the service, and the
promise template by the service or by a type that is given its name. A type is given it when some
type of the closure has it as its own name, unless it is built in or one of the service's; nothing
is given it when no type has it, or the start of it before a numeral, as its own name. -/
theorem generate_languageNames (generated : generate options graph service = .ok stub) :
    ∃ closure declarations methods events,
      BuiltFrom options graph service stub closure
        (declarations ++ serviceConstructs service methods events) ∧
      NamesGiven graph service closure ∧
      LanguageNames options graph service closure declarations
        (declarations ++ serviceConstructs service methods events) := by
  obtain ⟨closure, declarations, methods, events, built, shown⟩ := generate_ok generated
  have named := resolve_named built.resolved
  have declares := shown.types.imp fun _ _ => declaredName?_of_shows
  refine ⟨closure, declarations, methods, events, built, namesGiven built.resolved, ?_⟩
  constructor
  case declared => exact declaredName?_constructs declares
  case builtin =>
    intro name member
    rw [declaredNames, List.mem_append, List.mem_singleton]
    exact or_iff_right fun given => (named.typeNames_free given).1 member
  case promise =>
    have meant := read_eq_iff [] (declaredNames graph service closure)
      (.language options.promiseType)
    simp only [Meaning.name, declaredNames, List.mem_append, List.mem_singleton, not_or] at meant
    simpa [and_comm, declaredNames] using meant
  case members => exact fun type _ meaning mentioned => mentioned.read_iff named declares []

/-- The constructs of the stub of a service. -/
def constructs (options : Options) (graph : TypeGraph) (service : Service) :
    Except StubError (List Document.Node) := do
  let closure ← (startingRegistry service.name).resolve graph service.members.types
  contents options graph service closure

/-- A class of some name. -/
def oneClass (name : String) : TypeGraph where
  atoms := #[.composite name ("shop." ++ name) [] [⟨"code", .atom 1⟩], .primitive "int"]

/-- A service of some name that returns the class. -/
def classService (name : String) : Service :=
  { name, methods := [{ name := "get", returnType := .atom 0 }] }

/-- The names of the language in the stub of a service whose class is named like the promise
template. -/
theorem generate_languageNames_promise :
    ∃ stub, generate {} (oneClass "Promise") (classService "Shop") = .ok stub ∧
      ∃ closure declarations methods events,
        BuiltFrom {} (oneClass "Promise") (classService "Shop") stub closure
          (declarations ++ serviceConstructs (classService "Shop") methods events) ∧
        NamesGiven (oneClass "Promise") (classService "Shop") closure ∧
        LanguageNames {} (oneClass "Promise") (classService "Shop") closure declarations
          (declarations ++ serviceConstructs (classService "Shop") methods events) :=
  ⟨_, rfl, generate_languageNames rfl⟩

/-- A class named like the promise template is declared under that name, and a service named like a
built-in type under its own: both capture what their file means to take from the language. -/
theorem language_captured :
    (generate {} (oneClass "Promise") (classService "Shop")).toOption.isSome ∧
    ((constructs {} (oneClass "Promise") (classService "Shop")).map interfaces).toOption =
      some [{ name := "Promise", fields := [⟨"code", "number"⟩] },
        { name := "Shop", methods := [⟨"get", [], "Promise<Promise>"⟩] }] ∧
    (generate {} (oneClass "Item") (classService "Array")).toOption.isSome ∧
    ((constructs {} (oneClass "Item") (classService "Array")).map interfaces).toOption =
      some [{ name := "Item", fields := [⟨"code", "number"⟩] },
        { name := "Array", methods := [⟨"get", [], "Promise<Item>"⟩] }] := by
  decide +kernel

/-! ## Names in the fields of an interface -/

/-- How the names in the fields of an interface are read within its type parameters. -/
structure FieldNames (graph : TypeGraph) (service : Service) (closure : Closure)
    (declarations : List Document.Node) (index : Nat) (node : Interface) : Prop where
  /-- The fields are written with what the file declares. -/
  written : List.Forall₂ (fun (field : Field) (shown : Document.Field) =>
      shown.name = field.name ∧
        Writes graph closure.types declarations field.type shown.type)
    (graph.atom index).fields node.fields
  /-- A name in a field is read as what it stands for when it is readable. -/
  readings : ∀ field ∈ (graph.atom index).fields, ∀ meaning,
    Mentions graph closure.types declarations field.type meaning →
      (read node.typeParameters (declaredNames graph service closure) meaning.name = meaning ↔
        meaning.Readable node.typeParameters service.name)

/-- In every stub, a name in a field of an interface is read as the type parameter that it stands
for when the interface has the parameter, and as the declared type that it stands for when no type
parameter of the interface has the name that the type was given. A declared type may be given the
name of a type parameter only when its own name is that name or the start of it before a numeral;
and when some type has the name of a type parameter as its own, a type is given it, unless it is
built in or one of the service's. -/
theorem generate_fieldNames (generated : generate options graph service = .ok stub) :
    ∃ closure declarations methods events,
      BuiltFrom options graph service stub closure
        (declarations ++ serviceConstructs service methods events) ∧
      NamesGiven graph service closure ∧
      ∀ index node, (index, .interface node) ∈ closure.types.zip declarations →
        FieldNames graph service closure declarations index node := by
  obtain ⟨closure, declarations, methods, events, built, shown⟩ := generate_ok generated
  have named := resolve_named built.resolved
  have declares := shown.types.imp fun _ _ => declaredName?_of_shows
  refine ⟨closure, declarations, methods, events, built, namesGiven built.resolved,
    fun index node paired => ?_⟩
  have listed := (List.of_mem_zip paired).1
  constructor
  case written =>
    cases List.forall₂_zip shown.types paired with
    | interface kind _ fields =>
      have covered := ((resolve_covers built.resolved).2 index listed).2 kind
      refine forall₂_imp_of_mem fields fun field member shownField same => ?_
      exact ⟨same.1, named.writes_of_map declares (covered _ (List.mem_map_of_mem member)) same.2⟩
  case readings =>
    exact fun field _ meaning mentioned => mentioned.read_iff named declares node.typeParameters

/-- A generic class with a field of its own type parameter and a field of a class that is named like
the parameter. -/
def pageOf : TypeGraph where
  atoms := #[
    .composite "Page" "shop.Page" ["T"] [⟨"item", .atom 1⟩, ⟨"other", .atom 2⟩],
    .parameter "T",
    .composite "T" "shop.T" [] [⟨"code", .atom 3⟩],
    .primitive "int"]

/-- A service that returns the generic class applied to a built-in type. -/
def pageService : Service :=
  { name := "Pages", methods := [{ name := "first",
                                   returnType := .apply "shop.Page[int]" "Page" (.atom 0)
                                     [.atom 3] }] }

/-- The names in the fields of the generic class. -/
theorem generate_fieldNames_pageOf :
    ∃ stub, generate {} pageOf pageService = .ok stub ∧
      ∃ closure declarations methods events,
        BuiltFrom {} pageOf pageService stub closure
          (declarations ++ serviceConstructs pageService methods events) ∧
        NamesGiven pageOf pageService closure ∧
        ∀ index node, (index, .interface node) ∈ closure.types.zip declarations →
          FieldNames pageOf pageService closure declarations index node :=
  ⟨_, rfl, generate_fieldNames rfl⟩

/-- A class named like a type parameter keeps its name, and within the interface of the generic
class the name stands for both. -/
theorem parameter_captures :
    (generate {} pageOf pageService).toOption.isSome ∧
    ((constructs {} pageOf pageService).map interfaces).toOption =
      some [{ name := "T", fields := [⟨"code", "number"⟩] },
        { name := "Page", typeParameters := ["T"], fields := [⟨"item", "T"⟩, ⟨"other", "T"⟩] },
        { name := "Pages", methods := [⟨"first", [], "Promise<Page<number>>"⟩] }] := by
  decide +kernel

end ServiceStubs.Stub
