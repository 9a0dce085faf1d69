import ServiceStubs.Proofs.Stub.Correspondence

/-!
# Renaming identities

An identity is read for nothing but to tell types apart and to find the built-in ones. So a stub
does not change when the identities of the types of its service are renamed, as long as different
types keep different identities and the same types are built in as before. Moving a class to
another module, which changes its identity and not its name, changes no stub. An error is the same
error, told of the new identity.
-/

namespace ServiceStubs

open TypeGraph (Correspondence SameError FieldsAlike)

section

variable (rename : String → String)

mutual

/-- A type with other identities for its constructions. -/
def TypeRef.renamed : TypeRef → TypeRef
  | .atom index => .atom index
  | .apply identity name base arguments =>
    .apply (rename identity) name base.renamed (renamedAll arguments)

/-- Types with other identities for their constructions. -/
def TypeRef.renamedAll : List TypeRef → List TypeRef
  | [] => []
  | type :: rest => type.renamed :: renamedAll rest

end

/-- A field with other identities in its type. -/
def Field.renamed (field : Field) : Field := { field with type := field.type.renamed rename }

/-- An atom with another identity. -/
def Atom.renamed (atom : Atom) : Atom :=
  { atom with
    identity := rename atom.identity
    fields := atom.fields.map (Field.renamed rename) }

/-- A graph in which the types have other identities. -/
def TypeGraph.renamed (graph : TypeGraph) : TypeGraph := ⟨graph.atoms.map (Atom.renamed rename)⟩

/-- A parameter with other identities in its type. -/
def Param.renamed (param : Param) : Param := { param with type := param.type.renamed rename }

/-- A method with other identities in its types. -/
def Method.renamed (method : Method) : Method :=
  { method with
    returnType := method.returnType.renamed rename
    params := method.params.map (Param.renamed rename) }

/-- An event with other identities in its types. -/
def Event.renamed (event : Event) : Event :=
  { event with params := event.params.map (Param.renamed rename) }

/-- A service whose types have other identities. -/
def Service.renamed (service : Service) : Service :=
  { service with
    methods := service.methods.map (Method.renamed rename)
    events := service.events.map (Event.renamed rename) }

/-- An error that is told of another identity. -/
def StubError.renamed : StubError → StubError
  | unmappableType identity kind => .unmappableType (rename identity) kind
  | genericArity identity argumentCount => .genericArity (rename identity) argumentCount
  | other => other

end

/-- The types that a type is made of. -/
def TypeGraph.parts (graph : TypeGraph) (type : TypeRef) : List TypeRef :=
  type.base?.toList ++ type.arguments ++ (graph.fields type).map Field.type

/-- The types that occur in the members of a service: those that the members refer to, and what
these are made of. -/
inductive Service.Refers (graph : TypeGraph) (service : Service) : TypeRef → Prop
  /-- A member refers to the type. -/
  | member {type : TypeRef} (listed : type ∈ service.members.types) : Refers graph service type
  /-- The type is a part of one that occurs. -/
  | part {whole type : TypeRef} (refers : Refers graph service whole)
      (listed : type ∈ graph.parts whole) : Refers graph service type

/-- How the identities of the types of a service may be renamed. -/
structure Renames (rename : String → String) (graph : TypeGraph) (service : Service) : Prop where
  /-- Types with different identities get different ones. -/
  injective : ∀ {type other : TypeRef}, service.Refers graph type → service.Refers graph other →
    rename (graph.identity type) = rename (graph.identity other) →
    graph.identity type = graph.identity other
  /-- Built-in types keep their identities. -/
  fixed : ∀ {type : TypeRef}, service.Refers graph type →
    Registry.typescript.isBuiltin (graph.identity type) →
    rename (graph.identity type) = graph.identity type
  /-- No other type gets the identity of a built-in one. -/
  plain : ∀ {type : TypeRef}, service.Refers graph type →
    Registry.typescript.isBuiltin (rename (graph.identity type)) →
    Registry.typescript.isBuiltin (graph.identity type)

/-- Every atom that occurs in the members of a service has a place in the table. -/
def Service.Placed (graph : TypeGraph) (service : Service) : Prop :=
  ∀ index, service.Refers graph (.atom index) → index < graph.size

variable {rename : String → String} {graph : TypeGraph} {service : Service}

namespace TypeRef

/-- Types are renamed one by one. -/
theorem renamedAll_eq (types : List TypeRef) :
    renamedAll rename types = types.map (renamed rename) := by
  induction types with
  | nil => rfl
  | cons type rest ih => rw [renamedAll, ih, List.map_cons]

/-- A renamed construction has the renamed base. -/
theorem renamed_base? (type : TypeRef) :
    (type.renamed rename).base? = type.base?.map (renamed rename) := by
  cases type <;> rfl

/-- A renamed construction has the renamed arguments. -/
theorem renamed_arguments (type : TypeRef) :
    (type.renamed rename).arguments = type.arguments.map (renamed rename) := by
  cases type with
  | atom index => rfl
  | apply identity name base arguments => exact renamedAll_eq arguments

end TypeRef

namespace TypeGraph

/-- The atoms of a renamed graph. -/
theorem renamed_atom {index : Nat} (placed : index < graph.size) :
    (graph.renamed rename).atom index = (graph.atom index).renamed rename := by
  have inside : index < (graph.atoms.map (Atom.renamed rename)).size := by
    rwa [Array.size_map]
  rw [atom, atom, renamed, Array.getD_eq_getD_getElem?, Array.getD_eq_getD_getElem?,
    Array.getElem?_eq_getElem inside, Array.getElem?_eq_getElem placed, Array.getElem_map]
  rfl

section

variable (placed : service.Placed graph) {type : TypeRef} (refers : service.Refers graph type)

include placed refers

/-- Renaming gives a type the renamed identity. -/
theorem renamed_identity :
    (graph.renamed rename).identity (type.renamed rename) = rename (graph.identity type) := by
  cases type with
  | atom index => exact congrArg Atom.identity (renamed_atom (placed index refers))
  | apply identity name base arguments => rfl

/-- Renaming keeps all but the identities of a type. -/
theorem renamed_matches :
    graph.Matches (graph.renamed rename)
      (fun type other => service.Refers graph type ∧ other = type.renamed rename)
      type (type.renamed rename) := by
  have parts : ∀ part ∈ graph.parts type, service.Refers graph part :=
    fun part listed => refers.part listed
  simp only [TypeGraph.parts, List.mem_append, List.mem_map] at parts
  have shared : List.Forall₂ (FieldsAlike
      fun type other => service.Refers graph type ∧ other = type.renamed rename)
      (graph.fields type) ((graph.fields type).map (Field.renamed rename)) := by
    refine List.forall₂_map_right_iff.mpr (List.forall₂_same.mpr fun field member => ?_)
    exact ⟨rfl, parts field.type (.inr ⟨field, member, rfl⟩), rfl⟩
  have base : Option.Rel
      (fun type other => service.Refers graph type ∧ other = type.renamed rename)
      type.base? (type.renamed rename).base? := by
    rw [TypeRef.renamed_base?]
    cases found : type.base? with
    | none => exact .none
    | some base => exact .some ⟨parts base (by simp [found]), rfl⟩
  have arguments : List.Forall₂
      (fun type other => service.Refers graph type ∧ other = type.renamed rename)
      type.arguments (type.renamed rename).arguments := by
    rw [TypeRef.renamed_arguments]
    refine List.forall₂_map_right_iff.mpr (List.forall₂_same.mpr fun argument member => ?_)
    exact ⟨parts argument (.inl (.inr member)), rfl⟩
  cases type with
  | apply identity name base arguments => exact ⟨rfl, rfl, rfl, rfl, .nil, base, arguments⟩
  | atom index =>
    have same : (graph.renamed rename).atom index = (graph.atom index).renamed rename :=
      renamed_atom (placed index refers)
    refine ⟨?_, ?_, ?_, ?_, ?_, base, arguments⟩
    · exact (congrArg (fun atom => atom.kind.kind) same).symm
    · exact (congrArg Atom.name same).symm
    · exact (congrArg Atom.members same).symm
    · exact (congrArg Atom.typeParameters same).symm
    · have fields : (graph.renamed rename).fields (TypeRef.renamed rename (.atom index)) =
          (graph.fields (.atom index)).map (Field.renamed rename) := congrArg Atom.fields same
      rwa [fields]

end

end TypeGraph

namespace Renames

variable (renames : Renames rename graph service) (placed : service.Placed graph)

include renames placed

/-- The types of a service correspond to the renamed ones. -/
theorem correspondence :
    graph.Correspondence (graph.renamed rename)
      fun type other => service.Refers graph type ∧ other = type.renamed rename where
  alike := by
    rintro type _ ⟨refers, rfl⟩
    exact TypeGraph.renamed_matches placed refers
  same := by
    rintro type _ other _ ⟨refers, rfl⟩ ⟨otherRefers, rfl⟩
    rw [TypeGraph.renamed_identity placed refers, TypeGraph.renamed_identity placed otherRefers]
    exact ⟨congrArg rename, renames.injective refers otherRefers⟩

/-- A renamed type has the built-in name that it had. -/
theorem builtin {type : TypeRef} (refers : service.Refers graph type) :
    Registry.typescript.builtin? (graph.identity type) =
      Registry.typescript.builtin? ((graph.renamed rename).identity (type.renamed rename)) := by
  rw [TypeGraph.renamed_identity placed refers]
  by_cases found : Registry.typescript.isBuiltin (graph.identity type)
  · rw [renames.fixed refers found]
  · have absent := mt (renames.plain refers) found
    rw [Registry.isBuiltin, Option.not_isSome_iff_eq_none] at found absent
    rw [found, absent]

omit renames in
/-- Errors that tell the same of a type and of the renamed type are one error and the renamed
error. -/
theorem error_renamed {error other : StubError}
    (same : SameError graph (graph.renamed rename)
      (fun type other => service.Refers graph type ∧ other = type.renamed rename) error other) :
    other = error.renamed rename := by
  cases same with
  | genericArity types count =>
    obtain ⟨refers, rfl⟩ := types
    rw [TypeGraph.renamed_identity placed refers]
    rfl
  | unmappableType types kind =>
    obtain ⟨refers, rfl⟩ := types
    rw [TypeGraph.renamed_identity placed refers]
    rfl

end Renames

/-- The members of a renamed service are alike. -/
theorem renamed_members :
    MembersAlike (fun type other => service.Refers graph type ∧ other = type.renamed rename)
      service.members (service.renamed rename).members := by
  have params : ∀ params : List Param,
      (∀ type ∈ params.map Param.type, service.Refers graph type) →
      List.Forall₂ (ParamsAlike
        fun type other => service.Refers graph type ∧ other = type.renamed rename)
        params (params.map (Param.renamed rename)) := by
    intro params refers
    refine List.forall₂_map_right_iff.mpr (List.forall₂_same.mpr fun param member => ?_)
    exact ⟨rfl, refers param.type (List.mem_map_of_mem member), rfl⟩
  have eventNames : (service.events.map (Event.renamed rename)).map Event.name =
      service.events.map Event.name := by
    rw [List.map_map]
    rfl
  constructor
  case operations =>
    have listed : (service.renamed rename).members.operations =
        ((service.methods.filter (Method.isOperation (service.events.map Event.name))).map
          (Method.renamed rename)).map fun method =>
            ⟨method.name, method.params, method.returnType⟩ := by
      rw [← eventNames]
      exact congrArg _ List.filter_map
    rw [listed, Service.members, List.map_map]
    refine List.forall₂_map_left_iff.mpr (List.forall₂_map_right_iff.mpr
      (List.forall₂_same.mpr fun method member => ?_))
    have refers : ∀ type ∈ method.params.map Param.type ++ [method.returnType],
        service.Refers graph type := fun type inside =>
      .member (List.mem_append_left _
        (List.mem_flatMap.mpr ⟨_, List.mem_map_of_mem member, inside⟩))
    exact ⟨rfl, params _ fun type inside => refers type (List.mem_append_left _ inside),
      refers _ (List.mem_append_right _ (List.mem_singleton_self _)), rfl⟩
  case events =>
    refine List.forall₂_map_right_iff.mpr (List.forall₂_same.mpr fun event member => ?_)
    exact ⟨rfl, params _ fun type inside =>
      .member (List.mem_append_right _ (List.mem_flatMap.mpr ⟨event, member, inside⟩))⟩

namespace Stub

/-- A service whose identities are renamed has the same stub, or fails with the same error told of
the renamed identity. -/
theorem generate_renamed {options : Options} (renames : Renames rename graph service)
    (placed : service.Placed graph) :
    generate options (graph.renamed rename) (service.renamed rename) =
      (generate options graph service).mapError (StubError.renamed rename) := by
  have stubs : Agree _ Eq (generate options graph service)
      (generate options (graph.renamed rename) (service.renamed rename)) :=
    generate_agree (renames.correspondence placed)
      (by rintro type _ ⟨refers, rfl⟩; exact renames.builtin placed refers) rfl renamed_members
  generalize generate options graph service = outcome at stubs
  generalize generate options (graph.renamed rename) (service.renamed rename) = result at stubs
  cases stubs with
  | ok same => exact congrArg Except.ok same.symm
  | error same => exact congrArg Except.error (Renames.error_renamed placed same)

/-- Two classes of one name that lead to each other. -/
def namesakes : TypeGraph where
  atoms := #[
    .composite "Widget" "north.Widget" [] [⟨"twins", .apply "list[south.Widget]" "list" (.atom 2)
      [.atom 1]⟩],
    .composite "Widget" "south.Widget" [] [⟨"twin", .atom 0⟩, ⟨"size", .atom 3⟩],
    .primitive listIdentity,
    .primitive "int"]

/-- A service that returns the first of the two classes. -/
def namesakeService : Service :=
  { name := "Widgets", methods := [{ name := "find", returnType := .atom 0 }] }

/-- The identities after the two classes have exchanged their modules. -/
def exchanged (identity : String) : String :=
  if identity = "north.Widget" then "south.Widget"
  else if identity = "south.Widget" then "north.Widget"
  else if identity = "list[south.Widget]" then "list[north.Widget]"
  else identity

/-- The types that occur in the service. -/
theorem namesakes_refers {type : TypeRef} (refers : namesakeService.Refers namesakes type) :
    type ∈ [.atom 0, .atom 1, .atom 2, .atom 3,
      .apply "list[south.Widget]" "list" (.atom 2) [.atom 1]] := by
  induction refers with
  | @member type listed =>
    have types : namesakeService.members.types = [.atom 0] := rfl
    rw [types] at listed
    exact List.mem_append_left _ listed
  | part _ listed whole =>
    simp only [List.mem_cons, List.not_mem_nil, or_false] at whole
    rcases whole with rfl | rfl | rfl | rfl | rfl <;>
      simp [namesakes, TypeGraph.parts, TypeGraph.fields, TypeGraph.atom, TypeRef.base?,
        TypeRef.arguments, Atom.composite, Atom.primitive] at listed ⊢ <;>
      grind

/-- Classes of one name that exchange their modules keep their stub, and which of them is
numbered. -/
theorem generate_renamed_namesakes :
    ∃ stub, generate {} namesakes namesakeService = .ok stub ∧
      stub.registeredNames = ["Widget", "Widget2"] ∧
      Renames exchanged namesakes namesakeService ∧ namesakeService.Placed namesakes ∧
      generate {} (namesakes.renamed exchanged) (namesakeService.renamed exchanged) = .ok stub := by
  have renames : Renames exchanged namesakes namesakeService := by
    constructor
    case injective =>
      intro type other refers otherRefers same
      have place := namesakes_refers refers
      have otherPlace := namesakes_refers otherRefers
      simp only [List.mem_cons, List.not_mem_nil, or_false] at place otherPlace
      rcases place with rfl | rfl | rfl | rfl | rfl <;>
        rcases otherPlace with rfl | rfl | rfl | rfl | rfl <;>
        first | rfl | exact absurd same (by decide)
    case fixed =>
      intro type refers
      have place := namesakes_refers refers
      simp only [List.mem_cons, List.not_mem_nil, or_false] at place
      rcases place with rfl | rfl | rfl | rfl | rfl <;> decide
    case plain =>
      intro type refers
      have place := namesakes_refers refers
      simp only [List.mem_cons, List.not_mem_nil, or_false] at place
      rcases place with rfl | rfl | rfl | rfl | rfl <;> decide
  have placed : namesakeService.Placed namesakes := by
    intro index refers
    have place := namesakes_refers refers
    have size : namesakes.size = 4 := rfl
    simp only [List.mem_cons, TypeRef.atom.injEq, List.not_mem_nil, or_false, reduceCtorEq]
      at place
    omega
  exact ⟨_, rfl, rfl, renames, placed, (generate_renamed renames placed).trans rfl⟩

end Stub

end ServiceStubs
