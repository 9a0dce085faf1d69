import ServiceStubs.Generator
import ServiceStubs.Proofs.Closure.Failure
import ServiceStubs.Proofs.Stub.References
import ServiceStubs.Proofs.Writing.Depth

/-!
# Stubs that are generated

The text of a stub is built from types that the closure has gone through, under earlier registries:
those that it declares, those of their fields and those of the members of the service. The registry
of the closure covers them all, and a type that is covered has a text, whether its identity has a
name or it is composed. So once the closure is resolved, nothing fails but the indentation of lines,
whose size has a limit; and what the closure fails with, the generation fails with.
-/

namespace ServiceStubs

open Source (Failure)
open Writing (Emission indentationFault)

namespace Registry

variable {registry : Registry} {graph : TypeGraph}

/-- A type that is covered has a text. -/
theorem Covers.exists_map {type : TypeRef} (covered : registry.Covers graph type) :
    ∃ text, registry.map graph type = .ok text := by
  induction type using TypeRef.leaves.induct with
  | case1 index => exact ⟨_, registry.map_atom graph index⟩
  | case2 identity name base argument inBase inArgument =>
    obtain ⟨baseCovered, argumentCovered⟩ := (registry.covers_apply graph).mp covered
    rw [map]
    cases registry.name? identity with
    | some name => exact ⟨name, rfl⟩
    | none =>
      obtain ⟨baseText, baseMapped⟩ := inBase baseCovered
      obtain ⟨argumentText, argumentMapped⟩ := inArgument argumentCovered
      exact ⟨_, bind_eq_ok.mpr ⟨_, baseMapped, bind_eq_ok.mpr ⟨_, argumentMapped, rfl⟩⟩⟩
  | case3 identity name base arguments malformed =>
    obtain ⟨argument, single⟩ := covered.one_argument
    exact absurd single (malformed argument)

end Registry

namespace Stub

variable {registry : Registry} {graph : TypeGraph} (options : Options) {service : Service}
variable {closure : Closure}

/-! ## Types that are written -/

/-- The types that are written in the declaration of an atom: its own, and those of its fields
unless it is an enumeration. -/
def typesOfDeclaration (graph : TypeGraph) (index : Nat) : List TypeRef :=
  .atom index :: match (graph.atom index).kind with
    | .enumeration => []
    | _ => (graph.atom index).fields.map Field.type

/-- The types that are written in a stub. -/
def writtenTypes (graph : TypeGraph) (service : Service) (types : List Nat) : List TypeRef :=
  types.flatMap (typesOfDeclaration graph) ++ service.members.types

/-- The registry of a closure covers every type that is written. -/
theorem resolve_coversAll
    (resolved : registry.resolve graph service.members.types = .ok closure) :
    closure.registry.CoversAll graph (writtenTypes graph service closure.types) := by
  obtain ⟨membersCovered, typesCovered⟩ := resolve_covers resolved
  intro type member
  rcases List.mem_append.mp member with declared | inMembers
  · obtain ⟨index, listed, written⟩ := List.mem_flatMap.mp declared
    obtain ⟨ownCovered, fieldsCovered⟩ := typesCovered index listed
    rcases List.mem_cons.mp written with rfl | inFields
    · exact ownCovered
    · split at inFields
      · cases inFields
      · rename_i other
        exact fieldsCovered other type inFields
  · exact membersCovered type inMembers

/-! ## Constructs that are built -/

/-- Arguments are built when the types of their parameters have texts. -/
theorem exists_arguments {params : List Param}
    (covered : registry.CoversAll graph (params.map Param.type)) :
    ∃ shown, arguments registry graph params = .ok shown := by
  refine exists_mapM fun param member => ?_
  obtain ⟨text, mapped⟩ := (covered _ (List.mem_map_of_mem member)).exists_map
  exact ⟨_, bind_eq_ok.mpr ⟨_, mapped, rfl⟩⟩

/-- The member for an operation is built when its types have texts. -/
theorem exists_methodSignature {operation : Operation}
    (covered : registry.CoversAll graph operation.types) :
    ∃ member, methodSignature registry graph options operation = .ok member := by
  obtain ⟨shown, withArguments⟩ :=
    exists_arguments fun type member => covered type (List.mem_append_left _ member)
  obtain ⟨result, mapped⟩ :=
    (covered operation.returnType (List.mem_append_right _ List.mem_cons_self)).exists_map
  exact ⟨_, bind_eq_ok.mpr ⟨_, withArguments, bind_eq_ok.mpr ⟨_, mapped, rfl⟩⟩⟩

/-- The member for an event is built when its types have texts. -/
theorem exists_eventSignature {event : Event} (covered : registry.CoversAll graph event.types) :
    ∃ member, eventSignature registry graph event = .ok member := by
  obtain ⟨shown, withArguments⟩ := exists_arguments covered
  exact ⟨_, bind_eq_ok.mpr ⟨_, withArguments, rfl⟩⟩

/-- The declaration of an atom is built when its types have texts. -/
theorem exists_declaration {index : Nat}
    (covered : registry.CoversAll graph (typesOfDeclaration graph index)) :
    ∃ node, declaration registry graph index = .ok node := by
  obtain ⟨name, named⟩ := (covered _ List.mem_cons_self).exists_map
  unfold declaration
  unfold typesOfDeclaration at covered
  dsimp only
  rw [named]
  cases kind : (graph.atom index).kind with
  | enumeration => exact ⟨_, rfl⟩
  | primitive | composite | parameter =>
    rw [kind] at covered
    obtain ⟨fields, mapped⟩ : ∃ fields, ((graph.atom index).fields.mapM fun field => do
        return (⟨field.name, ← registry.map graph field.type⟩ : Document.Field)) = .ok fields := by
      refine exists_mapM fun field member => ?_
      obtain ⟨text, found⟩ :=
        (covered _ (List.mem_cons_of_mem _ (List.mem_map_of_mem member))).exists_map
      exact ⟨_, bind_eq_ok.mpr ⟨_, found, rfl⟩⟩
    exact ⟨_, bind_eq_ok.mpr ⟨_, rfl, bind_eq_ok.mpr ⟨_, mapped, rfl⟩⟩⟩

/-- The constructs of a stub are built when all types that are written have texts. -/
theorem exists_contents
    (covered : closure.registry.CoversAll graph (writtenTypes graph service closure.types)) :
    ∃ constructs, contents options graph service closure = .ok constructs := by
  have ofMembers : ∀ type ∈ service.members.types, closure.registry.Covers graph type :=
    fun type member => covered type (List.mem_append_right _ member)
  obtain ⟨declarations, declared⟩ := exists_mapM fun index listed =>
    exists_declaration fun type written =>
      covered type (List.mem_append_left _ (List.mem_flatMap.mpr ⟨index, listed, written⟩))
  obtain ⟨methods, withMethods⟩ := exists_mapM fun operation listed =>
    exists_methodSignature options fun type written =>
      ofMembers type (List.mem_append_left _ (List.mem_flatMap.mpr ⟨operation, listed, written⟩))
  obtain ⟨events, withEvents⟩ := exists_mapM fun event listed =>
    exists_eventSignature fun type written =>
      ofMembers type (List.mem_append_right _ (List.mem_flatMap.mpr ⟨event, listed, written⟩))
  exact ⟨_, bind_eq_ok.mpr ⟨_, declared, bind_eq_ok.mpr ⟨_, withMethods,
    bind_eq_ok.mpr ⟨_, withEvents, rfl⟩⟩⟩⟩

/-! ## Files -/

/-- The files of a service whose stub is generated. -/
theorem files_of_generate {stub : Stub} (generated : generate options graph service = .ok stub) :
    (generation options graph service).files = stub.files := by
  rw [generation, generated]

/-- A stub whose text can be made has one file. -/
theorem files_of_text {stub : Stub} {text : String} (made : stub.text = .ok text) :
    stub.files = .ok [⟨stub.fileName, text⟩] := by
  rw [files, file, made]
  rfl

/-- A stub that is generated has a file, unless lines cannot be indented by one level. -/
theorem exists_file {stub : Stub} (generated : generate options graph service = .ok stub) :
    (∃ file, stub.files = .ok [file]) ∨
      options.layout.fits 1 = false ∧ stub.files = .error (.host indentationFault) := by
  obtain ⟨closure, declarations, methods, events, built, -⟩ := generate_ok generated
  cases made : stub.text with
  | ok text => exact .inl ⟨_, files_of_text made⟩
  | error fault =>
    refine .inr ⟨?_, ?_⟩
    · rw [← Bool.not_eq_true]
      intro one
      obtain ⟨text, whole⟩ := Document.render_of_fits_one one _
      rw [← built.text, made] at whole
      cases whole
    · obtain rfl := Emission.text_eq_error (built.text.symm.trans made)
      rw [files, file, made]
      rfl

/-- A stub whose closure is resolved has a file, unless lines cannot be indented by one level. -/
theorem files_of_resolve
    (resolved : (startingRegistry service.name).resolve graph service.members.types =
      .ok closure) :
    (∃ file, (generation options graph service).files = .ok [file]) ∨
      options.layout.fits 1 = false ∧
        (generation options graph service).files = .error (.host indentationFault) := by
  obtain ⟨constructs, built⟩ := exists_contents options (resolve_coversAll resolved)
  obtain ⟨stub, generated⟩ : ∃ stub, generate options graph service = .ok stub :=
    ⟨_, bind_eq_ok.mpr ⟨_, resolved, bind_eq_ok.mpr ⟨_, built, rfl⟩⟩⟩
  rw [files_of_generate _ generated]
  exact exists_file options generated

/-- What the closure fails with is told of types that are mapped. -/
theorem typeMapping_of_resolve {error : StubError} {seeds : List TypeRef}
    (failed : registry.resolve graph seeds = .error error) :
    ErrorFamily.typeMapping ∈ error.report.kind.families := by
  cases Closure.resolve_flaw failed with
  | arity _ _ => exact List.mem_cons_self
  | primitive _ _ _ => exact List.mem_cons_self

/-- Once the closure of a service is resolved, every type that its stub writes has a text, and one
file is made unless lines cannot be indented by one level. What the closure fails with, the
generation fails with, and as long as lines can be indented it fails with nothing else. -/
theorem files_follow_resolve (options : Options) (graph : TypeGraph) (service : Service) :
    (∀ closure,
      (startingRegistry service.name).resolve graph service.members.types = .ok closure →
      (∀ type ∈ writtenTypes graph service closure.types,
        ∃ text, closure.registry.map graph type = .ok text) ∧
      ((∃ file, (generation options graph service).files = .ok [file]) ∨
        options.layout.fits 1 = false ∧
          (generation options graph service).files = .error (.host indentationFault))) ∧
    (∀ error,
      (startingRegistry service.name).resolve graph service.members.types = .error error →
      (generation options graph service).files = .error (.stub error)) ∧
    (options.layout.fits 1 → ∀ failure, (generation options graph service).files = .error failure →
      ∃ error, failure = .stub error ∧ ErrorFamily.typeMapping ∈ error.report.kind.families ∧
        (startingRegistry service.name).resolve graph service.members.types = .error error) := by
  have fails : ∀ error,
      (startingRegistry service.name).resolve graph service.members.types = .error error →
      (generation options graph service).files = .error (.stub error) := by
    intro error failed
    rw [generation, generate, failed]
    rfl
  refine ⟨fun closure resolved => ⟨fun type member => ?_, files_of_resolve options resolved⟩,
    fails, ?_⟩
  · exact (resolve_coversAll resolved type member).exists_map
  · intro one failure failed
    cases outcome : (startingRegistry service.name).resolve graph service.members.types with
    | ok closure =>
      rcases files_of_resolve options outcome with ⟨file, done⟩ | ⟨narrow, _⟩
      · rw [done] at failed
        cases failed
      · rw [one] at narrow
        cases narrow
    | error error =>
      rw [fails error outcome] at failed
      exact ⟨error, (Except.error.inj failed).symm, typeMapping_of_resolve outcome, rfl⟩

/-- A service that returns a composite with a list of amounts, which have no name. -/
def invoiceService : Service :=
  { name := "Invoices", methods := [{ name := "last", returnType := .atom 0 }] }

/-- The stub of a template that leads to itself has one file, in which all types are written; and a
primitive without a name is what a generation fails with. -/
theorem files_follow_resolve_boxes :
    (∃ closure, (startingRegistry "Boxes").resolve boxes boxService.members.types = .ok closure ∧
      (∀ type ∈ writtenTypes boxes boxService closure.types,
        ∃ text, closure.registry.map boxes type = .ok text) ∧
      ∃ file, (generation {} boxes boxService).files = .ok [file]) ∧
    (({} : Options).layout.fits 1 ∧
      (generation {} Closure.unnamedAmount invoiceService).files =
        .error (.stub (.unmappableType "decimal" "primitive")) ∧
      ∃ error, Failure.stub (.unmappableType "decimal" "primitive") = .stub error ∧
        ErrorFamily.typeMapping ∈ error.report.kind.families ∧
        (startingRegistry "Invoices").resolve Closure.unnamedAmount
          invoiceService.members.types = .error error) := by
  have one : ({} : Options).layout.fits 1 := by decide
  refine ⟨⟨_, rfl, ?_⟩, one, ?_, ?_⟩
  · obtain ⟨written, made | ⟨narrow, _⟩⟩ := (files_follow_resolve {} boxes boxService).1 _ rfl
    · exact ⟨written, made⟩
    · rw [one] at narrow
      cases narrow
  · exact (files_follow_resolve {} Closure.unnamedAmount invoiceService).2.1 _ rfl
  · exact (files_follow_resolve {} Closure.unnamedAmount invoiceService).2.2 one _ rfl

/-- A service with one method and no type to declare. -/
def pingService : Service :=
  { name := "S", methods := [{ name := "get", returnType := .atom 0 }] }

/-- The graph of one shared primitive. -/
def integers : TypeGraph where
  atoms := #[.primitive "int"]

/-- No file is made, although the closure is resolved, when the width of an indentation is below
every size that there is. -/
theorem file_missing :
    (∃ closure, (startingRegistry "S").resolve integers pingService.members.types = .ok closure) ∧
      (generation { indentWidth := -12345678901234567890 } integers pingService).files =
        .error (.host indentationFault) := by
  refine ⟨⟨_, rfl⟩, ?_⟩
  rw [files_of_generate _ rfl]
  rfl

end Stub

end ServiceStubs
