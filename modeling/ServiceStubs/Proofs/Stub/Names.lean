import ServiceStubs.Proofs.Stub.Construction

/-!
# Names that a stub declares

The registry of a stub starts without layers, so its entries are those of the types that were
registered since, one for each type of the closure. Every name among them was free when it was
given. So the names of the declared types are not repeated, none of them is the name of a built-in
type, and none is one of the three names that the service declares itself, which were reserved
before any type was registered.
-/

namespace ServiceStubs.Stub

variable {options : Options} {graph : TypeGraph} {service : Service} {stub : Stub}
variable {serviceName : String} {seeds : List TypeRef} {closure : Closure}

/-- What holds of the closure that a stub is built from. -/
structure NamedFrom (serviceName : String) (graph : TypeGraph) (closure : Closure) : Prop where
  /-- The built-in names are those of the target language. -/
  builtins : closure.registry.builtins = Registry.typescriptNames
  /-- The names of the service are reserved. -/
  reserved : closure.registry.reserved = ownNames serviceName
  /-- No two registered names are equal, and none is built in or reserved. -/
  apart : closure.registry.NamesApart
  /-- There is one entry for each type of the closure, with the name by which it is written. -/
  entries : ∃ registered : List Nat, registered.Perm closure.types ∧
    closure.registry.entries = registered.map fun index =>
      ((graph.atom index).identity, closure.registry.nameOf graph index)

/-- The closure that a stub is built from has names for its types and for nothing else. -/
theorem resolve_named
    (resolved : (startingRegistry serviceName).resolve graph seeds = .ok closure) :
    NamedFrom serviceName graph closure := by
  obtain ⟨registered, progress⟩ := Closure.resolve_progress resolved
  have grown : closure.registry =
      Closure.registerAll (startingRegistry serviceName) graph registered := progress.grown
  constructor
  case builtins => rw [grown, Closure.registerAll_builtins]; rfl
  case reserved => rw [grown, Closure.registerAll_reserved]; rfl
  case apart =>
    rw [grown]
    exact Closure.namesApart_registerAll (Registry.namesApart_of_no_layers _ rfl) graph registered
  case entries => exact ⟨registered, progress.emitted, progress.entries⟩

/-- The names of the types of a closure in order. -/
def typeNames (graph : TypeGraph) (closure : Closure) : List String :=
  closure.types.map (closure.registry.nameOf graph)

namespace NamedFrom

variable (named : NamedFrom serviceName graph closure)

include named

/-- The registered names are those of the types in some order. -/
theorem entryNames_perm : closure.registry.entryNames.Perm (typeNames graph closure) := by
  obtain ⟨registered, placed, entries⟩ := named.entries
  rw [← Registry.entries_map_snd, entries, List.map_map]
  exact placed.map _

/-- The names of the types are not repeated. -/
theorem typeNames_nodup : (typeNames graph closure).Nodup :=
  named.entryNames_perm.nodup_iff.mp named.apart.distinct

/-- The names of the types are neither built in nor those of the service. -/
theorem typeNames_free {name : String} (member : name ∈ typeNames graph closure) :
    name ∉ Registry.typescriptNames.values ∧ name ∉ ownNames serviceName := by
  have free := named.apart.free name (named.entryNames_perm.mem_iff.mpr member)
  rwa [named.builtins, named.reserved, List.mem_append, not_or] at free

end NamedFrom

/-- The three names of a service are different, since two of them extend the first by different
endings. -/
theorem ownNames_nodup (serviceName : String) : (ownNames serviceName).Nodup := by
  have lengths : ((ownNames serviceName).map String.length).Nodup := by
    simp only [ownNames, methodsName, argumentsName, List.map_cons, List.map_nil,
      String.length_append, List.nodup_cons, List.mem_cons, List.not_mem_nil, or_false, not_or,
      not_false_eq_true, List.nodup_nil, and_true]
    have methodsLength : "_methods".length = 8 := by decide
    have argumentsLength : "_arguments".length = 10 := by decide
    omega
  exact lengths.of_map _

/-- The name that a construct gives to a type. -/
def declaredName? : Document.Node → Option String
  | .interface node => some node.name
  | .enum node => some node.name
  | _ => none

/-- The interfaces among some constructs. -/
def interfaces (constructs : List Document.Node) : List Document.Interface :=
  constructs.filterMap fun
    | .interface node => some node
    | _ => none

/-- The declaration of an atom gives it the name by which the registry writes it. -/
theorem declaredName?_of_shows {registry : Registry} {index : Nat} {node : Document.Node}
    (shown : ShowsAtom (fun type text => registry.map graph type = .ok text) graph index node) :
    declaredName? node = some (registry.nameOf graph index) := by
  cases shown with
  | enumeration kind named =>
    rw [registry.map_atom] at named
    exact congrArg some (Except.ok.inj named).symm
  | interface kind named written =>
    rw [registry.map_atom] at named
    exact congrArg some (Except.ok.inj named).symm

/-- A construct that names a type is exported under the name. -/
theorem exportedName?_of_declaredName? {node : Document.Node} {name : String}
    (declared : declaredName? node = some name) : exportedName? node = some name := by
  cases node with
  | interface _ => exact declared
  | enum _ => exact declared
  | _ => cases declared

/-- The declarations of some types are exported under the names of the types in order. -/
theorem exportedName?_declarations {registry : Registry} {types : List Nat}
    {declarations : List Document.Node}
    (shown : List.Forall₂
      (ShowsAtom (fun type text => registry.map graph type = .ok text) graph) types declarations) :
    declarations.map exportedName? = types.map fun index => some (registry.nameOf graph index) := by
  induction shown with
  | nil => rfl
  | cons first _ ih =>
    rw [List.map_cons, List.map_cons, ih,
      exportedName?_of_declaredName? (declaredName?_of_shows first)]

/-- What the exports of a stub have to be: every name that is declared, once and in order. -/
structure ExportsOnce (serviceName : String) (graph : TypeGraph) (closure : Closure)
    (constructs : List Document.Node) : Prop where
  /-- The constructs declare the names of the types and then those of the service. -/
  declared : constructs.map exportedName? =
    (typeNames graph closure ++ ownNames serviceName).map some
  /-- No name is declared twice. -/
  distinct : (typeNames graph closure ++ ownNames serviceName).Nodup
  /-- No type has the name of a built-in type. -/
  free : ∀ name ∈ typeNames graph closure, name ∉ Registry.typescriptNames.values
  /-- The file exports the declared names in order. -/
  exported : document constructs =
    .file [] constructs (typeNames graph closure ++ ownNames serviceName)

/-- Every generated stub declares different names, one for each type of its closure and the three
of its service, and exports each of them once in order. -/
theorem generate_exports (generated : generate options graph service = .ok stub) :
    ∃ closure declarations methods events,
      BuiltFrom options graph service stub closure
        (declarations ++ serviceConstructs service methods events) ∧
      declarations.length = closure.types.length ∧
      ExportsOnce service.name graph closure
        (declarations ++ serviceConstructs service methods events) := by
  obtain ⟨closure, declarations, methods, events, built, shown⟩ := generate_ok generated
  have named := resolve_named built.resolved
  have declared : (declarations ++ serviceConstructs service methods events).map exportedName? =
      (typeNames graph closure ++ ownNames service.name).map some := by
    rw [List.map_append, exportedName?_declarations shown.types, List.map_append, typeNames,
      List.map_map]
    rfl
  refine ⟨closure, declarations, methods, events, built, shown.types.length_eq.symm,
    declared, ?_, fun name member => (named.typeNames_free member).1, ?_⟩
  · refine List.nodup_append.mpr ⟨named.typeNames_nodup, ownNames_nodup service.name, ?_⟩
    rintro name member other own rfl
    exact (named.typeNames_free member).2 own
  · have listed := congrArg (List.filterMap id) declared
    rw [List.filterMap_map, List.filterMap_map, Function.id_comp] at listed
    rw [document, listed]
    simp

/-- Types whose names collide with those of the service, with each other and with a built-in
name. -/
def collidingNames : TypeGraph where
  atoms := #[
    .composite "Widget" "shop.Widget" [] [⟨"parts", .apply "list[shop.Part]" "list" (.atom 3)
      [.atom 1]⟩],
    .composite "Widget2" "shop.Part" [] [⟨"whole", .atom 0⟩],
    .enumeration "number" [] "shop.Size",
    .primitive listIdentity]

/-- A service named like one of its types. -/
def widgetService : Service :=
  { name := "Widget", methods := [{ name := "find", returnType := .atom 0,
                                    params := [⟨"size", .atom 2⟩, ⟨"part", .atom 1⟩] }] }

/-- Colliding names are told apart by numerals, and the stub exports each of them once. -/
theorem generate_exports_collidingNames :
    ∃ stub, generate {} collidingNames widgetService = .ok stub ∧
      stub.registeredNames = ["number2", "Widget2", "Widget3"] ∧
      ∃ closure declarations methods events,
        BuiltFrom {} collidingNames widgetService stub closure
          (declarations ++ serviceConstructs widgetService methods events) ∧
        declarations.length = closure.types.length ∧
        ExportsOnce widgetService.name collidingNames closure
          (declarations ++ serviceConstructs widgetService methods events) :=
  ⟨_, rfl, rfl, generate_exports rfl⟩

end ServiceStubs.Stub
