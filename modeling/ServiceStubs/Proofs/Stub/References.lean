import ServiceStubs.Proofs.Stub.Names

/-!
# References of a stub

Where no name of a type is found, its own name is written without an error. That only ever
happens to type parameters: the registry of the closure covers the types of all parameters and
results, and the field types of every interface that the stub declares. So every written type is
composed from built-in names, names that the same stub declares for the types in question, and
names of type parameters.
-/

namespace ServiceStubs.Stub

open Document (Argument MethodSignature EventSignature)

/-- An identity has no built-in name, and no type that is declared has it. -/
structure Undeclared (graph : TypeGraph) (types : List Nat) (identity : String) : Prop where
  plain : Registry.typescript.builtin? identity = none
  absent : identity ∉ graph.identities types

/-- A text writes a type with what a file declares for some types, one declaration for each. -/
inductive Writes (graph : TypeGraph) (types : List Nat) (declarations : List Document.Node) :
    TypeRef → String → Prop
  /-- A type with a built-in name is written by it. -/
  | builtin {type : TypeRef} {text : String}
      (found : Registry.typescript.builtin? (graph.identity type) = some text) :
      Writes graph types declarations type text
  /-- A type that is declared is written by the name of its declaration. -/
  | declared {type : TypeRef} {index : Nat} {node : Document.Node} {text : String}
      (plain : Registry.typescript.builtin? (graph.identity type) = none)
      (declares : (index, node) ∈ types.zip declarations)
      (same : (graph.atom index).identity = graph.identity type)
      (named : declaredName? node = some text) :
      Writes graph types declarations type text
  /-- Of other atoms only type parameters are written, by their own names. -/
  | parameter {index : Nat} (undeclared : Undeclared graph types (graph.atom index).identity)
      (kind : (graph.atom index).kind = .parameter) :
      Writes graph types declarations (.atom index) (graph.atom index).name
  /-- Other constructions are composed. -/
  | composed {identity name baseText argumentText : String} {base argument : TypeRef}
      (undeclared : Undeclared graph types identity)
      (writesBase : Writes graph types declarations base baseText)
      (writesArgument : Writes graph types declarations argument argumentText) :
      Writes graph types declarations (.apply identity name base [argument])
        (Registry.composeGeneric baseText argumentText)

variable {options : Options} {graph : TypeGraph} {service : Service} {stub : Stub}
variable {serviceName : String} {seeds : List TypeRef} {closure : Closure}

namespace NamedFrom

variable (named : NamedFrom serviceName graph closure)

include named

/-- The built-in names are known to the registry of the closure. -/
theorem builtin?_eq (identity : String) :
    closure.registry.builtin? identity = Registry.typescript.builtin? identity := by
  rw [Registry.builtin?, named.builtins]
  rfl

/-- A registered name is that of a type of the closure. -/
theorem registered_iff (identity text : String) :
    closure.registry.entry? identity = some text ↔
      ∃ index ∈ closure.types, (graph.atom index).identity = identity ∧
        closure.registry.nameOf graph index = text := by
  obtain ⟨registered, placed, entries⟩ := named.entries
  rw [← Registry.mem_entries, entries]
  simp only [List.mem_map, Prod.mk.injEq, placed.mem_iff]

/-- An identity has a name when it is built in or a type of the closure has it. -/
theorem contains_iff (identity : String) :
    closure.registry.contains identity ↔
      (Registry.typescript.builtin? identity).isSome ∨
        identity ∈ graph.identities closure.types := by
  rw [Registry.contains, Registry.name?, named.builtin?_eq, Option.isSome_or, Bool.or_eq_true]
  refine or_congr_right ?_
  rw [Option.isSome_iff_exists, TypeGraph.identities, List.mem_map]
  constructor
  · rintro ⟨text, found⟩
    obtain ⟨index, member, same, _⟩ := (named.registered_iff identity text).mp found
    exact ⟨index, member, same⟩
  · rintro ⟨index, member, same⟩
    exact ⟨_, (named.registered_iff identity _).mpr ⟨index, member, same, rfl⟩⟩

/-- An identity without a name is undeclared. -/
theorem undeclared {identity : String} (unnamed : closure.registry.name? identity = none) :
    Undeclared graph closure.types identity := by
  have unknown : ¬ closure.registry.contains identity := by
    rw [Registry.contains, unnamed]
    exact Bool.false_ne_true
  rw [named.contains_iff, not_or, Option.not_isSome_iff_eq_none] at unknown
  exact ⟨unknown.1, unknown.2⟩

section

variable {declarations : List Document.Node}
variable (declares : List.Forall₂
  (fun index node => declaredName? node = some (closure.registry.nameOf graph index))
  closure.types declarations)

include declares

/-- A type whose identity has a name is written by it. -/
theorem writes_of_name {type : TypeRef} {text : String}
    (found : closure.registry.name? (graph.identity type) = some text) :
    Writes graph closure.types declarations type text := by
  rw [Registry.name?, named.builtin?_eq] at found
  cases plain : Registry.typescript.builtin? (graph.identity type) with
  | some name =>
    rw [plain, Option.some_or] at found
    exact .builtin (plain.trans found)
  | none =>
    rw [plain, Option.none_or] at found
    obtain ⟨index, member, same, written⟩ := (named.registered_iff _ _).mp found
    obtain ⟨place, inside, rfl⟩ := List.getElem_of_mem member
    have bound : place < declarations.length := declares.length_eq ▸ inside
    have paired : (closure.types[place], declarations[place]) ∈ closure.types.zip declarations :=
      List.mem_iff_getElem.mpr ⟨place, by simp [inside, bound], by simp⟩
    exact .declared plain paired same (written ▸ List.forall₂_zip declares paired)

/-- What the registry of the closure gives for a type that it covers writes the type. -/
theorem writes_of_map {type : TypeRef} (covered : closure.registry.Covers graph type)
    {text : String} (mapped : closure.registry.map graph type = .ok text) :
    Writes graph closure.types declarations type text := by
  induction type using TypeRef.leaves.induct generalizing text with
  | case1 index =>
    cases found : closure.registry.name? (graph.atom index).identity with
    | some name =>
      rw [Registry.map, found, Option.getD_some] at mapped
      obtain rfl := Except.ok.inj mapped
      exact named.writes_of_name declares found
    | none =>
      rw [Registry.map, found, Option.getD_none] at mapped
      obtain rfl := Except.ok.inj mapped
      have known := (closure.registry.isKnown_atom graph).mp
        ((closure.registry.covers_atom graph).mp covered)
      refine .parameter (named.undeclared found) (known.resolve_right ?_)
      rw [Registry.contains, found]
      exact Bool.false_ne_true
  | case2 identity name base argument inBase inArgument =>
    obtain ⟨baseCovered, argumentCovered⟩ := (closure.registry.covers_apply graph).mp covered
    rw [Registry.map] at mapped
    split at mapped
    · rename_i found
      obtain rfl := Except.ok.inj mapped
      exact named.writes_of_name declares found
    · rename_i unnamed
      obtain ⟨baseText, baseMapped, rest⟩ := bind_eq_ok.mp mapped
      obtain ⟨argumentText, argumentMapped, same⟩ := bind_eq_ok.mp rest
      obtain rfl := Except.ok.inj same
      exact .composed (named.undeclared unnamed) (inBase baseCovered baseMapped)
        (inArgument argumentCovered argumentMapped)
  | case3 identity name base arguments malformed =>
    obtain ⟨argument, single⟩ := covered.one_argument
    exact absurd single (malformed argument)

end

end NamedFrom

section

variable {shows finer : TypeRef → String → Prop}

/-- What shows parameters stays to do so when it is refined at their types. -/
theorem ShowsParams.refine {params : List Param} {arguments : List Argument}
    (shown : ShowsParams shows params arguments)
    (types : ∀ type ∈ params.map Param.type, ∀ text, shows type text → finer type text) :
    ShowsParams finer params arguments :=
  forall₂_imp_of_mem shown fun _ member _ ⟨name, written⟩ =>
    ⟨name, types _ (List.mem_map_of_mem member) _ written⟩

/-- What shows an operation stays to do so when it is refined at its types. -/
theorem ShowsOperation.refine {operation : Operation} {signature : MethodSignature}
    (shown : ShowsOperation shows options operation signature)
    (types : ∀ type ∈ operation.types, ∀ text, shows type text → finer type text) :
    ShowsOperation finer options operation signature := by
  obtain ⟨text, result, wrapped⟩ := shown.result
  exact ⟨shown.name,
    shown.params.refine fun type member => types type (List.mem_append_left _ member),
    text, types _ (List.mem_append_right _ List.mem_cons_self) _ result, wrapped⟩

/-- What shows an event stays to do so when it is refined at its types. -/
theorem ShowsEvent.refine {event : Event} {signature : EventSignature}
    (shown : ShowsEvent shows event signature)
    (types : ∀ type ∈ event.types, ∀ text, shows type text → finer type text) :
    ShowsEvent finer event signature :=
  ⟨shown.name, shown.params.refine types⟩

/-- What shows contents stays to do so when it is refined at the types that are declared, at the
field types of interfaces and at the types of the members of the service. -/
theorem ShowsContents.refine {types : List Nat} {declarations : List Document.Node}
    {methods : List MethodSignature} {events : List EventSignature}
    (shown : ShowsContents shows options graph service types declarations methods events)
    (atoms : ∀ index ∈ types, ∀ text, shows (.atom index) text → finer (.atom index) text)
    (fields : ∀ index ∈ types, (graph.atom index).kind ≠ .enumeration →
      ∀ field ∈ (graph.atom index).fields, ∀ text, shows field.type text → finer field.type text)
    (members : ∀ type ∈ service.members.types, ∀ text, shows type text → finer type text) :
    ShowsContents finer options graph service types declarations methods events := by
  constructor
  case types =>
    refine forall₂_imp_of_mem shown.types fun index member node shownAtom => ?_
    cases shownAtom with
    | enumeration kind named => exact .enumeration kind (atoms index member _ named)
    | interface kind named written =>
      refine .interface kind (atoms index member _ named) (forall₂_imp_of_mem written ?_)
      rintro field inFields text ⟨name, shownField⟩
      exact ⟨name, fields index member kind field inFields _ shownField⟩
  case operations =>
    refine forall₂_imp_of_mem shown.operations fun operation member signature shownOperation => ?_
    refine shownOperation.refine fun type inTypes => members type (List.mem_append_left _ ?_)
    exact List.mem_flatMap.mpr ⟨operation, member, inTypes⟩
  case events =>
    refine forall₂_imp_of_mem shown.events fun event member signature shownEvent => ?_
    refine shownEvent.refine fun type inTypes => members type (List.mem_append_right _ ?_)
    exact List.mem_flatMap.mpr ⟨event, member, inTypes⟩

end

/-- What a closure emits beside enumerations are composites. -/
theorem composite_of_emitted {registry : Registry}
    (resolved : registry.resolve graph seeds = .ok closure) {index : Nat}
    (member : index ∈ closure.types) (kind : (graph.atom index).kind ≠ .enumeration) :
    (graph.atom index).kind = .composite := by
  obtain ⟨registered, finished⟩ := Closure.resolve_progress resolved
  have declarable := finished.declarable index member
  cases shape : (graph.atom index).kind <;>
    simp [shape, Closure.isDeclarable] at kind declarable ⊢

/-- Primitives are not emitted. -/
theorem not_primitive_of_emitted {registry : Registry}
    (resolved : registry.resolve graph seeds = .ok closure) {index : Nat}
    (member : index ∈ closure.types) : (graph.atom index).kind ≠ .primitive := by
  intro primitive
  have composite := composite_of_emitted resolved member (by simp [primitive])
  cases primitive.symm.trans composite

/-- What a closure emits stands in the table of the graph, since a primitive stands beyond its
end. -/
theorem lt_size_of_emitted {registry : Registry}
    (resolved : registry.resolve graph seeds = .ok closure) {index : Nat}
    (member : index ∈ closure.types) : index < graph.size := by
  by_contra beyond
  have absent : graph.atoms[index]? = none := Array.getElem?_eq_none (Nat.le_of_not_lt beyond)
  have missing : graph.atom index = default := by
    rw [TypeGraph.atom, Array.getD_eq_getD_getElem?, absent]
    rfl
  exact not_primitive_of_emitted resolved member (by rw [missing]; rfl)

/-- The registry of a closure covers the seeds, the types that are declared and the types of their
fields. -/
theorem resolve_covers {registry : Registry}
    (resolved : registry.resolve graph seeds = .ok closure) :
    closure.registry.CoversAll graph seeds ∧
      ∀ index ∈ closure.types, closure.registry.Covers graph (.atom index) ∧
        ((graph.atom index).kind ≠ .enumeration →
          closure.registry.CoversAll graph ((graph.atom index).fields.map Field.type)) := by
  obtain ⟨registered, finished⟩ := Closure.resolve_progress resolved
  refine ⟨finished.seedsCovered, fun index member => ⟨?_, fun kind => ?_⟩⟩
  · have listed : (graph.atom index).identity ∈ graph.identities closure.types :=
      List.mem_map.mpr ⟨index, member, rfl⟩
    rw [closure.registry.covers_atom, closure.registry.isKnown_atom]
    exact .inr ((finished.contains_iff _).mpr (.inl listed))
  · have followed := finished.fieldsCovered index (List.mem_append_left _ member)
    rwa [Closure.nextSeeds, composite_of_emitted resolved member kind] at followed

/-- In every generated stub, each type of a parameter, a result or a field is written with what
the stub declares, and type parameters alone by a name that is neither built in nor declared. -/
theorem generate_references (generated : generate options graph service = .ok stub) :
    ∃ closure declarations methods events,
      BuiltFrom options graph service stub closure
        (declarations ++ serviceConstructs service methods events) ∧
      ShowsContents (fun type text => closure.registry.map graph type = .ok text ∧
          Writes graph closure.types declarations type text)
        options graph service closure.types declarations methods events := by
  obtain ⟨closure, declarations, methods, events, built, shown⟩ := generate_ok generated
  have named := resolve_named built.resolved
  obtain ⟨membersCovered, typesCovered⟩ := resolve_covers built.resolved
  have declares := shown.types.imp fun _ _ => declaredName?_of_shows
  refine ⟨closure, declarations, methods, events, built, shown.refine ?_ ?_ ?_⟩
  · intro index member text mapped
    exact ⟨mapped, named.writes_of_map declares (typesCovered index member).1 mapped⟩
  · intro index member kind field inFields text mapped
    have covered := (typesCovered index member).2 kind _ (List.mem_map_of_mem inFields)
    exact ⟨mapped, named.writes_of_map declares covered mapped⟩
  · intro type member text mapped
    exact ⟨mapped, named.writes_of_map declares (membersCovered type member) mapped⟩

/-- A template that refers to itself, applied to a built-in type, and to its own parameter. -/
def boxes : TypeGraph where
  atoms := #[
    .composite "Box" "" ["T"] [⟨"value", .atom 1⟩,
      ⟨"rest", .apply "list[Box[T]]" "list" (.atom 3) [.apply "Box[T]" "Box" (.atom 0) [.atom 1]]⟩],
    .parameter "T",
    .primitive "int",
    .primitive listIdentity]

/-- A service that returns a template applied to a built-in type. -/
def boxService : Service :=
  { name := "Boxes", methods := [{ name := "first",
                                   returnType := .apply "Box[int]" "Box" (.atom 0) [.atom 2] }] }

/-- A template is declared once and written around its arguments. -/
theorem generate_references_boxes :
    ∃ stub, generate {} boxes boxService = .ok stub ∧ stub.registeredNames = ["Box"] ∧
      ∃ closure declarations methods events,
        BuiltFrom {} boxes boxService stub closure
          (declarations ++ serviceConstructs boxService methods events) ∧
        ShowsContents (fun type text => closure.registry.map boxes type = .ok text ∧
            Writes boxes closure.types declarations type text)
          {} boxes boxService closure.types declarations methods events :=
  ⟨_, rfl, rfl, generate_references rfl⟩

end ServiceStubs.Stub
