import ServiceStubs.Proofs.Description.History
import ServiceStubs.Proofs.Stub.References

/-!
# Type parameters of declared classes

The interface of a class has the type parameters that the class states, and its fields write what
the hints of the class were described as, those of its bases included. The hints are not adapted to
the arguments that a class gives to a generic base. So the fields of an interface are written within
its own type parameters exactly when the class states each type parameter that the descriptions of
its hints show; a class that takes a field over from a generic base and states no parameter shows a
name that nothing binds.
-/

namespace ServiceStubs.Stub

open Document (Interface)
open Source (Module ClassRef Memory)
open Source.Module

/-! ## Parameters in texts -/

/-- Whether the text of a type has the name of a type parameter in it. Only what has no name of its
own shows its parts. -/
inductive ShowsParameter (graph : TypeGraph) (types : List Nat) (name : String) : TypeRef → Prop
  /-- A type parameter shows its name. -/
  | parameter {index : Nat} (undeclared : Undeclared graph types (graph.atom index).identity)
      (kind : (graph.atom index).kind = .parameter) (named : (graph.atom index).name = name) :
      ShowsParameter graph types name (.atom index)
  /-- A construction shows what its base shows. -/
  | base {identity constructed : String} {base argument : TypeRef}
      (undeclared : Undeclared graph types identity)
      (shown : ShowsParameter graph types name base) :
      ShowsParameter graph types name (.apply identity constructed base [argument])
  /-- A construction shows what its argument shows. -/
  | argument {identity constructed : String} {base argument : TypeRef}
      (undeclared : Undeclared graph types identity)
      (shown : ShowsParameter graph types name argument) :
      ShowsParameter graph types name (.apply identity constructed base [argument])

/-- A text writes a type with what a file declares for some types and with type parameters of a
scope. -/
inductive WritesWithin (graph : TypeGraph) (types : List Nat) (declarations : List Document.Node)
    (scope : List String) : TypeRef → String → Prop
  /-- A type with a built-in name is written by it. -/
  | builtin {type : TypeRef} {text : String}
      (found : Registry.typescript.builtin? (graph.identity type) = some text) :
      WritesWithin graph types declarations scope type text
  /-- A type that is declared is written by the name of its declaration. -/
  | declared {type : TypeRef} {index : Nat} {node : Document.Node} {text : String}
      (plain : Registry.typescript.builtin? (graph.identity type) = none)
      (declares : (index, node) ∈ types.zip declarations)
      (same : (graph.atom index).identity = graph.identity type)
      (named : declaredName? node = some text) :
      WritesWithin graph types declarations scope type text
  /-- A type parameter of the scope is written by its own name. -/
  | parameter {index : Nat} (undeclared : Undeclared graph types (graph.atom index).identity)
      (kind : (graph.atom index).kind = .parameter) (bound : (graph.atom index).name ∈ scope) :
      WritesWithin graph types declarations scope (.atom index) (graph.atom index).name
  /-- Other constructions are composed. -/
  | composed {identity name baseText argumentText : String} {base argument : TypeRef}
      (undeclared : Undeclared graph types identity)
      (writesBase : WritesWithin graph types declarations scope base baseText)
      (writesArgument : WritesWithin graph types declarations scope argument argumentText) :
      WritesWithin graph types declarations scope (.apply identity name base [argument])
        (Registry.composeGeneric baseText argumentText)

section

variable {graph : TypeGraph} {types : List Nat} {declarations : List Document.Node}
variable {type : TypeRef} {text name : String} {scope : List String}

/-- A type with a built-in name shows no type parameter. -/
theorem not_showsParameter_of_builtin
    (found : Registry.typescript.builtin? (graph.identity type) = some text) :
    ¬ ShowsParameter graph types name type := by
  rintro (⟨undeclared, _, _⟩ | ⟨undeclared, _⟩ | ⟨undeclared, _⟩) <;>
    exact absurd (found.symm.trans undeclared.plain) nofun

/-- A type that is declared shows no type parameter. -/
theorem not_showsParameter_of_declared {index : Nat} {node : Document.Node}
    (declares : (index, node) ∈ types.zip declarations)
    (same : (graph.atom index).identity = graph.identity type) :
    ¬ ShowsParameter graph types name type := by
  have listed : graph.identity type ∈ graph.identities types :=
    List.mem_map.mpr ⟨index, (List.of_mem_zip declares).1, same⟩
  rintro (⟨undeclared, _, _⟩ | ⟨undeclared, _⟩ | ⟨undeclared, _⟩) <;>
    exact undeclared.absent listed

/-- A type is written within a scope exactly when it is written and each type parameter that it
shows is in the scope. -/
theorem writesWithin_iff :
    WritesWithin graph types declarations scope type text ↔
      Writes graph types declarations type text ∧
        ∀ name, ShowsParameter graph types name type → name ∈ scope := by
  constructor
  · intro within
    induction within with
    | builtin found =>
      exact ⟨.builtin found, fun _ shown => absurd shown (not_showsParameter_of_builtin found)⟩
    | declared plain declares same named =>
      exact ⟨.declared plain declares same named,
        fun _ shown => absurd shown (not_showsParameter_of_declared declares same)⟩
    | parameter undeclared kind bound =>
      refine ⟨.parameter undeclared kind, fun _ shown => ?_⟩
      cases shown with
      | parameter _ _ named => exact named ▸ bound
    | composed undeclared _ _ inBase inArgument =>
      refine ⟨.composed undeclared inBase.1 inArgument.1, fun name shown => ?_⟩
      cases shown with
      | base _ shown => exact inBase.2 name shown
      | argument _ shown => exact inArgument.2 name shown
  · rintro ⟨written, bound⟩
    induction written with
    | builtin found => exact .builtin found
    | declared plain declares same named => exact .declared plain declares same named
    | parameter undeclared kind =>
      exact .parameter undeclared kind (bound _ (.parameter undeclared kind rfl))
    | composed undeclared _ _ inBase inArgument =>
      exact .composed undeclared (inBase fun name shown => bound name (.base undeclared shown))
        (inArgument fun name shown => bound name (.argument undeclared shown))

/-- The name of a type parameter that a type shows stands in every text that writes the type. -/
theorem ShowsParameter.occurs (shown : ShowsParameter graph types name type)
    (written : Writes graph types declarations type text) :
    ∃ before after, text = before ++ name ++ after := by
  induction written with
  | builtin found => exact absurd shown (not_showsParameter_of_builtin found)
  | declared _ declares same _ => exact absurd shown (not_showsParameter_of_declared declares same)
  | parameter _ _ =>
    cases shown with
    | parameter _ _ named => exact ⟨"", "", by simp [named]⟩
  | @composed _ _ baseText argumentText _ _ _ _ _ inBase inArgument =>
    cases shown with
    | base _ shown =>
      obtain ⟨before, after, rfl⟩ := inBase shown
      exact ⟨before, after ++ "<" ++ argumentText ++ ">",
        by simp [Registry.composeGeneric, String.append_assoc]⟩
    | argument _ shown =>
      obtain ⟨before, after, rfl⟩ := inArgument shown
      exact ⟨baseText ++ "<" ++ before, after ++ ">",
        by simp [Registry.composeGeneric, String.append_assoc]⟩

end

/-! ## Interfaces of classes -/

/-- How a class is declared: its type parameters are those that the class states, and its fields
write what the hints of the class were described as. -/
structure DeclaresClass (module : Module) (catalog : Catalog) (types : List Nat)
    (declarations : List Document.Node) (reference : ClassRef) (described : List TypeRef)
    (node : Interface) : Prop where
  parameters : module.typeParameterNames (.user reference) = .ok node.typeParameters
  hints : ∃ hints, module.HintsOf reference hints ∧
    List.Forall₂ (fun hint type => module.DescribedAs catalog hint.2 type) hints described ∧
    node.fields.map Document.Field.name = hints.map Prod.fst
  fields : List.Forall₂ (fun type field => Writes catalog.graph types declarations type field.type)
    described node.fields

variable {options : Options} {service : Service} {stub : Stub} {known : Knowledge}

/-- A whole composite is declared like its class. -/
theorem declaresClass_of_whole {module : Module} {catalog : Catalog} {index : Nat}
    {types : List Nat} {declarations : List Document.Node} {node : Interface}
    {shows : TypeRef → String → Prop}
    (composite : (catalog.graph.atom index).kind = .composite)
    (whole : module.Whole catalog (catalog.graph.atom index))
    (shown : ShowsAtom shows catalog.graph index (.interface node))
    (writes : ∀ field ∈ (catalog.graph.atom index).fields, ∀ text, shows field.type text →
      Writes catalog.graph types declarations field.type text) :
    ∃ reference, DeclaresClass module catalog types declarations reference
      ((catalog.graph.atom index).fields.map Field.type) node := by
  obtain ⟨reference, hints, entered, ofClass, complete⟩ := whole composite
  cases shown with
  | interface _ _ written =>
    refine ⟨reference, entered.parameters, ⟨hints, ofClass, ?_, ?_⟩, ?_⟩
    · exact List.forall₂_map_right_iff.mpr (complete.imp fun _ _ both => both.2)
    · have named := map_eq_of_forall₂ (written.imp fun _ _ both => both.1)
      exact named.trans (map_eq_of_forall₂ (complete.imp fun _ _ both => both.1))
    · refine List.forall₂_map_left_iff.mpr (forall₂_imp_of_mem written ?_)
      exact fun field member _ both => writes field member _ both.2

/-- The fields of an interface are written within its own type parameters exactly when these are all
that the described types show. -/
theorem DeclaresClass.writesWithin_iff {module : Module} {catalog : Catalog} {types : List Nat}
    {declarations : List Document.Node} {reference : ClassRef} {described : List TypeRef}
    {node : Interface}
    (declares : DeclaresClass module catalog types declarations reference described node) :
    List.Forall₂ (fun type field => WritesWithin catalog.graph types declarations
        node.typeParameters type field.type) described node.fields ↔
      ∀ type ∈ described, ∀ name, ShowsParameter catalog.graph types name type →
        name ∈ node.typeParameters := by
  simp only [Stub.writesWithin_iff, and_comm (a := Writes _ _ _ _ _)]
  rw [List.forall₂_and_left]
  exact and_iff_left declares.fields

/-- In every stub of a class, each interface of a described class is written within its own type
parameters exactly when the class states each type parameter that the descriptions of its hints
show. -/
theorem interface_parameters {module : Module} {memory : Memory} {value : Source.ClassValue}
    (described : module.describeService value { memory } = .ok service known)
    (generated : generate options known.catalog.graph service = .ok stub) :
    ∃ closure declarations methods events,
      BuiltFrom options known.catalog.graph service stub closure
        (declarations ++ serviceConstructs service methods events) ∧
      ∀ index node, (index, .interface node) ∈ closure.types.zip declarations →
        ∃ reference types,
          DeclaresClass module known.catalog closure.types declarations reference types node ∧
          (List.Forall₂ (fun type field => WritesWithin known.catalog.graph closure.types
              declarations node.typeParameters type field.type) types node.fields ↔
            ∀ type ∈ types, ∀ name, ShowsParameter known.catalog.graph closure.types name type →
              name ∈ node.typeParameters) := by
  obtain ⟨closure, declarations, methods, events, built, shown⟩ := generate_ok generated
  refine ⟨closure, declarations, methods, events, built, fun index node declares => ?_⟩
  have listed := (List.of_mem_zip declares).1
  have shownNode := List.forall₂_zip shown.types declares
  have kind : (known.catalog.graph.atom index).kind ≠ .enumeration := by
    cases shownNode with
    | interface kind _ _ => exact kind
  have composite := composite_of_emitted built.resolved listed kind
  -- The description has succeeded, so no composite of its catalog is interrupted.
  have whole := ((Adds.describeFunctions _ _).ok described).added (Nat.zero_le index)
    (Catalog.atomAt?_of_composite composite)
  have declaredNames := shown.types.imp fun _ _ => declaredName?_of_shows
  obtain ⟨reference, ofClass⟩ := declaresClass_of_whole composite whole shownNode
    fun field member text mapped =>
      have fieldsCovered := ((resolve_covers built.resolved).2 index listed).2 kind
      (resolve_named built.resolved).writes_of_map declaredNames
        (fieldsCovered _ (List.mem_map_of_mem member)) mapped
  exact ⟨reference, _, ofClass, ofClass.writesWithin_iff⟩

/-! ## A field of a generic base -/

/-- A generic class. -/
def base : ClassRef := { index := 0, moduleName := "svc", qualifiedName := "Base", name := "Base" }

/-- A class that applies the generic class and states no type parameter. -/
def derived : ClassRef :=
  { index := 1, moduleName := "svc", qualifiedName := "Derived", name := "Derived" }

/-- A class with a method that returns the second class. -/
def keeper : ClassRef := { index := 2, moduleName := "svc", qualifiedName := "S", name := "S" }

/-- A module with the three classes. -/
def heirs : Module where
  name := "svc"
  classes := #[
    { reference := base, order := [.user base, .standard .generic, .standard .object]
      annotations := [("value", .typeVariable ⟨0, "T"⟩)]
      attributes := recordAttributes [.typeVariable ⟨0, "T"⟩] },
    { reference := derived
      order := [.user derived, .user base, .standard .generic, .standard .object]
      annotations := [("extra", .standard .int)]
      attributes := recordAttributes [] },
    { reference := keeper, order := [.user keeper, .standard .object], annotations := []
      attributes := .ofList [("get", .function ⟨0, "svc", "S.get", "get"⟩)] }]
  functions := #[{ qualifiedName := "S.get", parameters := [{ name := "self" }]
                   returns := some (.user derived) }]

/-- The service of the third class. -/
def heirService : Service :=
  ((heirs.describeService (.user keeper)).result? { memory := {} }).getD { name := "" }

/-- What is known after the service is described. -/
def heirKnown : Knowledge :=
  (heirs.describeService (.user keeper)).knowledgeAfter { memory := {} }

/-- The interfaces of the stub of the service are bound as far as their classes state the type
parameters. -/
theorem interface_parameters_heirs :
    ∃ stub, generate {} heirKnown.catalog.graph heirService = .ok stub ∧
      ∃ closure declarations methods events,
        BuiltFrom {} heirKnown.catalog.graph heirService stub closure
          (declarations ++ serviceConstructs heirService methods events) ∧
        ∀ index node, (index, .interface node) ∈ closure.types.zip declarations →
          ∃ reference types,
            DeclaresClass heirs heirKnown.catalog closure.types declarations reference types node ∧
            (List.Forall₂ (fun type field => WritesWithin heirKnown.catalog.graph closure.types
                declarations node.typeParameters type field.type) types node.fields ↔
              ∀ type ∈ types, ∀ name,
                ShowsParameter heirKnown.catalog.graph closure.types name type →
                  name ∈ node.typeParameters) := by
  have described : ((heirs.describeService (.user keeper)).result? { memory := {} }).isSome := by
    decide +kernel
  have given : (heirs.describeService (.user keeper)).result? { memory := {} } =
      some heirService := by
    obtain ⟨service, found⟩ := Option.isSome_iff_exists.mp described
    rw [heirService, found]
    rfl
  have succeeds : (generate {} heirKnown.catalog.graph heirService).toOption.isSome := by
    decide +kernel
  obtain ⟨stub, made⟩ := Option.isSome_iff_exists.mp succeeds
  have generated := eq_ok_of_toOption made
  exact ⟨stub, generated, interface_parameters (Describing.eq_ok_of_result? given) generated⟩

/-- A class that applies a generic base has the field of the base under the type parameter of the
base, and its interface does not bind it. -/
theorem heirs_unbound :
    ((heirs.describeService (.user keeper)).result? { memory := {} }).isSome ∧
    (generate {} heirKnown.catalog.graph heirService).toOption.isSome ∧
    (do
      let closure ← (startingRegistry heirService.name).resolve heirKnown.catalog.graph
        heirService.members.types
      return interfaces (← contents {} heirKnown.catalog.graph heirService closure)).toOption =
      some [{ name := "Derived", fields := [⟨"value", "T"⟩, ⟨"extra", "number"⟩] },
        { name := "S", methods := [⟨"get", [], "Promise<Derived>"⟩] }] := by
  decide +kernel

end ServiceStubs.Stub
