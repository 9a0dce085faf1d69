import ServiceStubs.Proofs.Description.Mistakes
import ServiceStubs.Proofs.Stub.Support

/-!
# Applications of interfaces

A class with fields is described as it is or applied to arguments. The description rejects the first
way when the class states type parameters, and the registry of a closure covers the second one only
with a single argument. So where identities tell the classes that a service involves apart from all
else that it involves, and classes are applied to as many arguments as they state type parameters,
the stub of the service refers to each interface with exactly as many arguments as the interface has
type parameters, and declares no interface with two of them.

Where two classes share a qualified name, one of them is applied in the place of the other.
-/

namespace ServiceStubs

open Source

namespace Source.Module

variable (module : Module) (occasion : Occasion)

/-- Whether the identities of the classes that an occasion involves are those of nothing else that
it involves. -/
def ClassesApart : Prop :=
  ∀ {value : Value} {reference : ClassRef}, occasion.involved value →
    occasion.involved (.user reference) →
    module.Identified occasion value (ClassValue.user reference).identity →
    value = .user reference

/-- Whether the classes that an occasion involves are applied to as many arguments as they state
type parameters. -/
def ClassesFilled : Prop :=
  ∀ {value : Value} {reference : ClassRef} {arguments : List Value} {names : List String},
    occasion.involved value → module.Constructs occasion value (some reference) arguments →
    module.typeParameterNames (.user reference) = .ok names → arguments.length = names.length

variable {module occasion} in
/-- Classes are applied to as many arguments as they state type parameters when the forms of the
annotations say so. -/
theorem classesFilled_of_forms
    (forms : ∀ {value : Value} {reference : ClassRef} {arguments : List Value},
      occasion.involved value → value.construction? = some (some reference, arguments) →
      ∃ names, module.typeParameterNames (.user reference) = .ok names ∧
        arguments.length = names.length) : module.ClassesFilled occasion := by
  intro value reference arguments names involved constructs stated
  cases constructs with
  | form form =>
    obtain ⟨others, found, size⟩ := forms involved form
    obtain rfl := Except.ok.inj (found.symm.trans stated)
    exact size

end Source.Module

namespace Stub

open Source.Module
open Document (MethodSignature EventSignature)

/-! ## References with their arguments -/

/-- A text writes a type that is applied to some number of arguments where the text stands. An
interface is applied to as many as it has type parameters, and what is composed to nothing more. -/
inductive WritesApplied (graph : TypeGraph) (types : List Nat)
    (declarations : List Document.Node) : Nat → TypeRef → String → Prop
  /-- A built-in name. -/
  | builtin {count : Nat} {type : TypeRef} {text : String}
      (found : Registry.typescript.builtin? (graph.identity type) = some text) :
      WritesApplied graph types declarations count type text
  /-- The name of an enumeration. -/
  | enumeration {count index : Nat} {type : TypeRef} {node : Document.Enum}
      (declares : (index, .enum node) ∈ types.zip declarations)
      (same : (graph.atom index).identity = graph.identity type) :
      WritesApplied graph types declarations count type node.name
  /-- The name of an interface. -/
  | interface {count index : Nat} {type : TypeRef} {node : Document.Interface}
      (declares : (index, .interface node) ∈ types.zip declarations)
      (same : (graph.atom index).identity = graph.identity type)
      (filled : node.typeParameters.length = count) :
      WritesApplied graph types declarations count type node.name
  /-- The name of a type parameter. -/
  | parameter {count index : Nat}
      (undeclared : Undeclared graph types (graph.atom index).identity)
      (kind : (graph.atom index).kind = .parameter) :
      WritesApplied graph types declarations count (.atom index) (graph.atom index).name
  /-- A base with its argument. -/
  | composed {identity name baseText argumentText : String} {base argument : TypeRef}
      (undeclared : Undeclared graph types identity)
      (writesBase : WritesApplied graph types declarations 1 base baseText)
      (writesArgument : WritesApplied graph types declarations 0 argument argumentText) :
      WritesApplied graph types declarations 0 (.apply identity name base [argument])
        (Registry.composeGeneric baseText argumentText)

/-- What a stub has to be for its interfaces to be applied to the right number of arguments. -/
structure AppliesInterfaces (module : Module) (occasion : Occasion) (options : Options)
    (graph : TypeGraph) (service : Service) (types : List Nat)
    (declarations : List Document.Node) (methods : List MethodSignature)
    (events : List EventSignature) : Prop where
  /-- Every type has its declaration. -/
  declared : declarations.length = types.length
  /-- An interface has the type parameters of its class, and at most one. -/
  interfaces : ∀ {index : Nat} {node : Document.Interface},
    (index, .interface node) ∈ types.zip declarations → ∃ reference,
      occasion.involved (.user reference) ∧ module.EnteredFor reference (graph.atom index) ∧
        module.typeParameterNames (.user reference) = .ok node.typeParameters ∧
        node.typeParameters.length ≤ 1
  /-- Interfaces are applied to all their arguments in the fields of interfaces. -/
  fields : ∀ {index : Nat} {node : Document.Interface},
    (index, .interface node) ∈ types.zip declarations →
      List.Forall₂ (fun (field : Field) (shown : Document.Field) => shown.name = field.name ∧
        WritesApplied graph types declarations 0 field.type shown.type)
        (graph.atom index).fields node.fields
  /-- Interfaces are applied to all their arguments in parameters and results. -/
  operations : List.Forall₂ (ShowsOperation (WritesApplied graph types declarations 0) options)
    service.members.operations methods
  /-- Interfaces are applied to all their arguments in the parameters of callbacks. -/
  events : List.Forall₂ (ShowsEvent (WritesApplied graph types declarations 0))
    service.members.events events

section

variable {module : Module} {occasion : Occasion} {catalog : Catalog} {closure : Closure}
variable {serviceName : String} {seeds types : List TypeRef} {type base : TypeRef}
variable {text : String} {index : Nat}
variable (closes : module.Closes occasion) (accounts : module.Accounts occasion catalog)
  (apart : module.ClassesApart occasion)

/-! ## Composites -/

include accounts

/-- A composite was entered for a class that is involved, and is its entry. -/
theorem class_of_composite (composite : (catalog.graph.atom index).kind = .composite) :
    ∃ reference, occasion.involved (.user reference) ∧
      module.EnteredFor reference (catalog.graph.atom index) ∧
      (catalog.graph.atom index).identity = (ClassValue.user reference).identity ∧
      catalog.find? (ClassValue.user reference).identity = some (.atom index) := by
  have standing := Catalog.atomAt?_of_composite composite
  obtain ⟨owner, source, made⟩ := (accounts.made standing).declarable (.inl composite)
  cases made with
  | @composite reference entered _ =>
    have identity : (catalog.graph.atom index).identity = (ClassValue.user reference).identity :=
      (compositeAtom_ok entered).2.2
    exact ⟨reference, source, entered, identity, identity ▸ accounts.atoms standing⟩
  | enumeration _ kind _ => cases composite.symm.trans kind

include apart

/-- An annotation is kept as a composite only if the composite has no type parameter. -/
theorem plain_of_kept (kept : module.Kept occasion catalog type)
    (composite : (catalog.graph.atom index).kind = .composite)
    (same : (catalog.graph.atom index).identity = catalog.graph.identity type) :
    (catalog.graph.atom index).typeParameters = [] := by
  obtain ⟨reference, among, _, named, standing⟩ := class_of_composite accounts composite
  obtain ⟨value, source, recorded⟩ := kept
  have own : catalog.graph.identity type = (ClassValue.user reference).identity :=
    same.symm.trans named
  obtain rfl := apart source among (own ▸ accounts.identified recorded)
  have entry := accounts.find?_identity recorded.holds
  rw [own, standing] at entry
  obtain rfl := Option.some.inj entry
  exact recorded.typeParameters_eq_nil

include closes

/-- The base of a construction is no construction. -/
theorem atom_of_base (constructed : module.Constructed occasion catalog base types) :
    ∃ place, base = .atom place := by
  cases base with
  | atom place => exact ⟨place, rfl⟩
  | apply identity name inner arguments =>
    obtain @⟨_, origin, _, source, constructs, based, _⟩ := constructed
    have own : identity = originIdentity origin := accounts.identity_eq based
    obtain ⟨value, _, _, innerSource, innerConstructs, recorded⟩ :=
      accounts.recorded_of_apply based
    cases origin with
    | none =>
      -- The list template has no brackets in its identity.
      obtain ⟨_, isAtom⟩ := accounts.atom_of_unmarked (by decide) based
      cases isAtom
    | some applied =>
      have among := closes.part source constructs.origin_mem
      have inside : module.Identified occasion value identity := accounts.identified recorded
      rw [own] at inside
      exact absurd (apart innerSource among inside ▸ innerConstructs) not_constructs_class

/-- A construction over a composite has as many arguments as the composite has type parameters. -/
theorem filled_of_base (filled : module.ClassesFilled occasion)
    (constructed : module.Constructed occasion catalog base types)
    (composite : (catalog.graph.atom index).kind = .composite)
    (same : (catalog.graph.atom index).identity = catalog.graph.identity base) :
    (catalog.graph.atom index).typeParameters.length = types.length := by
  obtain ⟨reference, among, entered, named, _⟩ := class_of_composite accounts composite
  obtain @⟨_, origin, _, source, constructs, based, parts⟩ := constructed
  have own : (ClassValue.user reference).identity = originIdentity origin :=
    named.symm.trans (same.trans (accounts.identity_eq based))
  cases origin with
  | none =>
    have plain := isBuiltin_identity (.user reference)
    rw [own] at plain
    cases plain
  | some applied =>
    -- Both classes have one identity, so they are one class, with the parameters that it states.
    have isClass : Value.user applied = .user reference :=
      apart (closes.part source constructs.origin_mem) among (own ▸ .ofClass)
    obtain rfl : applied = reference := ClassValue.user.inj (Value.classValue.inj isClass)
    rw [← parts.length_eq, filled source constructs entered.parameters]

/-- A type that a search reaches is what an annotation is kept as, or the base of a construction
with one argument. -/
theorem placed_of_reaches {registry : Registry}
    (kept : ∀ type ∈ seeds, module.Kept occasion catalog type)
    (reached : registry.Reaches catalog.graph seeds type) :
    module.Kept occasion catalog type ∨
      ∃ argument, module.Constructed occasion catalog type [argument] := by
  -- A construction that is reached is no base, so it is an entry that comes from an annotation.
  have constructed {identity name : String} {base argument : TypeRef}
      (placed : module.Kept occasion catalog (.apply identity name base [argument]) ∨
        ∃ other, module.Constructed occasion catalog (.apply identity name base [argument])
          [other]) :
      module.Constructed occasion catalog base [argument] := by
    rcases placed with ⟨_, _, recorded⟩ | ⟨_, constructed⟩
    · obtain ⟨_, entry⟩ := recorded.holds
      exact (accounts.constructions entry).1
    · obtain ⟨_, isAtom⟩ := atom_of_base closes accounts apart constructed
      cases isAtom
  induction reached with
  | seed member => exact .inl (kept _ member)
  | base _ ih => exact .inr ⟨_, constructed ih⟩
  | argument _ ih => exact .inl ((constructed ih).kept closes _ List.mem_cons_self)
  | field _ composite _ member =>
    exact .inl (accounts.fields (Catalog.atomAt?_of_composite composite) _ member)

/-- No composite of a closure has two type parameters. -/
theorem typeParameters_le_one (filled : module.ClassesFilled occasion)
    (resolved : (startingRegistry serviceName).resolve catalog.graph seeds = .ok closure)
    (kept : ∀ type ∈ seeds, module.Kept occasion catalog type)
    (member : index ∈ closure.types) (composite : (catalog.graph.atom index).kind = .composite) :
    (catalog.graph.atom index).typeParameters.length ≤ 1 := by
  obtain ⟨registered, finished⟩ := Closure.resolve_progress resolved
  have reached := finished.reached index (finished.emitted.mem_iff.mpr member)
  rcases placed_of_reaches closes accounts apart kept reached with here | ⟨_, constructed⟩
  · rw [plain_of_kept accounts apart here composite rfl]
    exact Nat.zero_le 1
  · exact (filled_of_base closes accounts apart filled constructed composite rfl).le

end

/-! ## Declared types -/

section

variable {module : Module} {occasion : Occasion} {catalog : Catalog} {closure : Closure}
variable {serviceName : String} {seeds types : List TypeRef} {type base argument : TypeRef}
variable {text : String} {declarations : List Document.Node}
variable {shows : TypeRef → String → Prop}
variable (closes : module.Closes occasion) (accounts : module.Accounts occasion catalog)
  (apart : module.ClassesApart occasion)
variable (resolved : (startingRegistry serviceName).resolve catalog.graph seeds = .ok closure)
  (shown : List.Forall₂ (ShowsAtom shows catalog.graph) closure.types declarations)

section

include resolved shown

/-- An interface is declared for a composite and has its type parameters. -/
theorem composite_of_interface {index : Nat} {node : Document.Interface}
    (declares : (index, .interface node) ∈ closure.types.zip declarations) :
    (catalog.graph.atom index).kind = .composite ∧
      node.typeParameters = (catalog.graph.atom index).typeParameters := by
  cases List.forall₂_zip shown declares with
  | interface kind =>
    exact ⟨composite_of_emitted resolved (List.of_mem_zip declares).1 kind, rfl⟩

/-- A type that is declared is applied as often as the composite of its identity is, if there is
one. -/
theorem writesApplied_declared {index count : Nat} {node : Document.Node}
    (declares : (index, node) ∈ closure.types.zip declarations)
    (same : (catalog.graph.atom index).identity = catalog.graph.identity type)
    (named : declaredName? node = some text)
    (filled : (catalog.graph.atom index).kind = .composite →
      (catalog.graph.atom index).typeParameters.length = count) :
    WritesApplied catalog.graph closure.types declarations count type text := by
  cases node with
  | interface node =>
    obtain rfl := Option.some.inj named
    obtain ⟨composite, parameters⟩ := composite_of_interface resolved shown declares
    exact .interface declares same (parameters ▸ filled composite)
  | enum node =>
    obtain rfl := Option.some.inj named
    exact .enumeration declares same
  | _ => cases named

end

include closes accounts apart resolved shown

/-- What writes the base of a construction leaves room for its argument alone. -/
theorem writesApplied_base (filled : module.ClassesFilled occasion)
    (constructed : module.Constructed occasion catalog base [argument])
    (written : Writes catalog.graph closure.types declarations base text) :
    WritesApplied catalog.graph closure.types declarations 1 base text := by
  cases written with
  | builtin found => exact .builtin found
  | declared _ declares same named =>
    exact writesApplied_declared resolved shown declares same named fun composite =>
      filled_of_base closes accounts apart filled constructed composite same
  | parameter undeclared kind => exact .parameter undeclared kind
  | composed =>
    obtain ⟨_, isAtom⟩ := atom_of_base closes accounts apart constructed
    cases isAtom

/-- What writes the type of an annotation leaves no room for arguments. -/
theorem writesApplied_of_kept (filled : module.ClassesFilled occasion)
    (kept : module.Kept occasion catalog type)
    (written : Writes catalog.graph closure.types declarations type text) :
    WritesApplied catalog.graph closure.types declarations 0 type text := by
  induction written with
  | builtin found => exact .builtin found
  | declared _ declares same named =>
    refine writesApplied_declared resolved shown declares same named fun composite => ?_
    rw [plain_of_kept accounts apart kept composite same, List.length_nil]
  | parameter undeclared kind => exact .parameter undeclared kind
  | composed undeclared writesBase _ _ inArgument =>
    obtain ⟨_, _, recorded⟩ := kept
    obtain ⟨_, entry⟩ := recorded.holds
    have constructed := (accounts.constructions entry).1
    refine .composed undeclared (writesApplied_base closes accounts apart resolved shown filled
      constructed writesBase) (inArgument ?_)
    exact constructed.kept closes _ List.mem_cons_self

end

/-! ## Stubs -/

section

variable {options : Options} {module : Module} {occasion : Occasion} {memory : Memory}
variable {owner : ClassValue}
variable {service : Service} {known : Knowledge} {stub : Stub} {catalog : Catalog}
variable {closure : Closure} {declarations : List Document.Node}
variable {methods : List MethodSignature} {events : List EventSignature}

/-- Contents that show a service whose types come from annotations apply interfaces to the right
number of arguments. -/
theorem appliesInterfaces_of_accounts (closes : module.Closes occasion)
    (accounts : module.Accounts occasion catalog) (apart : module.ClassesApart occasion)
    (filled : module.ClassesFilled occasion)
    (kept : ∀ type ∈ service.members.types, module.Kept occasion catalog type)
    (resolved : (startingRegistry service.name).resolve catalog.graph service.members.types =
      .ok closure)
    (shown : ShowsContents (fun type text => closure.registry.map catalog.graph type = .ok text)
      options catalog.graph service closure.types declarations methods events) :
    AppliesInterfaces module occasion options catalog.graph service closure.types declarations
      methods events := by
  obtain ⟨membersCovered, typesCovered⟩ := resolve_covers resolved
  have names := shown.types.imp fun _ _ => declaredName?_of_shows
  have applied {type : TypeRef} {text : String}
      (here : module.Kept occasion catalog type)
      (covered : closure.registry.Covers catalog.graph type)
      (mapped : closure.registry.map catalog.graph type = .ok text) :
      WritesApplied catalog.graph closure.types declarations 0 type text :=
    writesApplied_of_kept closes accounts apart resolved shown.types filled here
      ((resolve_named resolved).writes_of_map names covered mapped)
  have member {type : TypeRef} (inTypes : type ∈ service.members.types) {text : String}
      (mapped : closure.registry.map catalog.graph type = .ok text) :=
    applied (kept type inTypes) (membersCovered type inTypes) mapped
  constructor
  case declared => exact shown.types.length_eq.symm
  case interfaces =>
    intro index node declares
    obtain ⟨composite, parameters⟩ := composite_of_interface resolved shown.types declares
    obtain ⟨reference, among, entered, _⟩ := class_of_composite accounts composite
    rw [parameters]
    exact ⟨reference, among, entered, entered.parameters, typeParameters_le_one closes accounts
      apart filled resolved kept (List.of_mem_zip declares).1 composite⟩
  case fields =>
    intro index node declares
    have listed := (List.of_mem_zip declares).1
    obtain ⟨composite, _⟩ := composite_of_interface resolved shown.types declares
    cases List.forall₂_zip shown.types declares with
    | interface kind _ written =>
      refine forall₂_imp_of_mem written fun field inFields other ⟨name, mapped⟩ => ⟨name, ?_⟩
      have here := accounts.fields (Catalog.atomAt?_of_composite composite) field inFields
      have covered := (typesCovered index listed).2 kind _ (List.mem_map_of_mem inFields)
      exact applied here covered mapped
  case operations =>
    refine forall₂_imp_of_mem shown.operations fun operation listed signature shownOperation => ?_
    refine shownOperation.refine fun type inTypes _ => member (List.mem_append_left _ ?_)
    exact List.mem_flatMap.mpr ⟨operation, listed, inTypes⟩
  case events =>
    refine forall₂_imp_of_mem shown.events fun event listed signature shownEvent => ?_
    refine shownEvent.refine fun type inTypes _ => member (List.mem_append_right _ ?_)
    exact List.mem_flatMap.mpr ⟨event, listed, inTypes⟩

/-- In every stub of a class, each interface of a described class is applied to as many arguments as
it has type parameters, and has at most one, when identities tell the classes that the service
involves apart from all else and classes are applied to as many arguments as they state type
parameters. -/
theorem interfaces_applied
    (described : module.describeService owner { memory } = .ok service known)
    (generated : generate options known.catalog.graph service = .ok stub)
    (apart : module.ClassesApart (module.occasion owner memory))
    (filled : module.ClassesFilled (module.occasion owner memory)) :
    ∃ closure declarations methods events,
      BuiltFrom options known.catalog.graph service stub closure
        (declarations ++ serviceConstructs service methods events) ∧
      AppliesInterfaces module (module.occasion owner memory) options known.catalog.graph service
        closure.types declarations methods events := by
  obtain ⟨closure, declarations, methods, events, built, shown⟩ := generate_ok generated
  have recording := Records.describeService.ok .empty .start described
  obtain ⟨extended, _⟩ := recording.shown
  have kept : ∀ type ∈ service.members.types,
      module.Kept (module.occasion owner memory) known.catalog type := fun type member =>
    (extended.types type (service.members_types_subset member)).resolve_left List.not_mem_nil
  exact ⟨closure, declarations, methods, events, built,
    appliesInterfaces_of_accounts closes_occasion recording.accounts apart filled kept
      built.resolved shown⟩

end

/-! ## A generic class that refers to itself -/

/-- A generic class. -/
def shelf : ClassRef :=
  { index := 0, moduleName := "svc", qualifiedName := "Shelf", name := "Shelf" }

/-- A class with a method that gives the generic class applied to numbers. -/
def store : ClassRef := { index := 1, moduleName := "svc", qualifiedName := "S", name := "S" }

/-- The generic class applied to an annotation. -/
def shelfOf (argument : Value) : Value := .templateOf (.user shelf) [argument]

/-- Lists of the generic class applied to its own parameter. -/
def listOfShelves : Value := .builtinOf (.standard .list) [shelfOf (.typeVariable ⟨0, "T"⟩)]

/-- A module with both classes. -/
def shelves : Module where
  name := "svc"
  classes := #[
    { reference := shelf, order := [.user shelf, .standard .generic, .standard .object]
      annotations := [("item", .typeVariable ⟨0, "T"⟩), ("rest", listOfShelves)]
      attributes := recordAttributes [.typeVariable ⟨0, "T"⟩] },
    { reference := store, order := [.user store, .standard .object], annotations := []
      attributes := .ofList [("get", .function ⟨0, "svc", "S.get", "get"⟩)] }]
  functions := #[{ qualifiedName := "S.get", parameters := [{ name := "self" }]
                   returns := some (shelfOf (.standard .int)) }]

/-- The annotations that the service of the second class involves. -/
def shelfAnnotations : List Value :=
  [shelfOf (.standard .int), .user shelf, .standard .int, .typeVariable ⟨0, "T"⟩, listOfShelves,
    .standard .list, shelfOf (.typeVariable ⟨0, "T"⟩)]

/-- The service involves no class but the generic one. -/
theorem eq_shelf_of_mem {reference : ClassRef} (member : .user reference ∈ shelfAnnotations) :
    reference = shelf := by
  simpa [shelfAnnotations, shelfOf, listOfShelves, Value.user, Value.standard] using member

/-- The occasion of these annotations, on which the host may remember anything. -/
def shelfOccasion : Occasion where
  involved := (· ∈ shelfAnnotations)
  usual := fun _ => True

/-- The annotations have their parts and the hints of the generic class among them. -/
theorem shelves_closed : shelves.Closes shelfOccasion where
  part {value _} whole member := by
    have parts : ∀ value ∈ shelfAnnotations, value.innerAnnotations ⊆ shelfAnnotations := by
      simp [shelfAnnotations, shelfOf, listOfShelves, Value.innerAnnotations, Value.user,
        Value.standard]
    exact parts value whole member
  hints {_ _ before _} holder _ found := by
    obtain rfl := eq_shelf_of_mem holder
    have hinted : shelves.fieldHints (.user shelf) before =
      .ok [("item", .typeVariable ⟨0, "T"⟩), ("rest", listOfShelves)] before := rfl
    cases hinted.symm.trans found
    refine ⟨trivial, fun hint listed => ?_⟩
    simp only [List.mem_cons, List.not_mem_nil, or_false] at listed
    obtain rfl | rfl := listed <;> simp [shelfOccasion, shelfAnnotations]
  enumeration _ _ _ := trivial
  likeness _ _ _ := trivial

/-- The service involves no other annotations. -/
theorem shelves_involved {value : Value} (involved : shelves.Involved (.user store) {} value) :
    value ∈ shelfAnnotations := by
  have functions : shelves.declaredFunctions (.user store) = [("get", shelves.functionAt 0)] := rfl
  refine involved.least shelves_closed (fun entry member => ?_) trivial
  rw [functions, List.mem_singleton] at member
  intro hints before after _ found
  cases member
  cases found
  exact ⟨trivial, fun _ none => (by cases none), List.mem_cons_self⟩

/-- The generic class is the only one that is applied, to one argument. -/
theorem construction_of_mem {value : Value} (member : value ∈ shelfAnnotations)
    {reference : ClassRef} {arguments : List Value}
    (form : value.construction? = some (some reference, arguments)) :
    reference = shelf ∧ arguments.length = 1 := by
  have forms : ∀ value ∈ shelfAnnotations, ∀ reference arguments,
      value.construction? = some (some reference, arguments) →
        reference = shelf ∧ arguments.length = 1 := by
    simp [shelfAnnotations, shelfOf, listOfShelves, Value.construction?, Value.user, Value.standard]
  exact forms value member reference arguments form

/-- The generic class states as many type parameters as it is applied to arguments. -/
theorem shelves_filled : shelves.ClassesFilled (shelves.occasion (.user store) {}) := by
  refine classesFilled_of_forms fun involved form => ?_
  obtain ⟨rfl, single⟩ := construction_of_mem (shelves_involved involved) form
  exact ⟨["T"], by decide +kernel, single⟩

/-- The service involves no classes of the standard library but numbers and lists. -/
theorem standard_of_mem {value : StandardClass} (member : .standard value ∈ shelfAnnotations) :
    value = .int ∨ value = .list := by
  simpa [shelfAnnotations, shelfOf, listOfShelves, Value.user, Value.standard] using member

/-- The service involves one type variable. -/
theorem binder_of_mem {binder : TypeVariable} (member : .typeVariable binder ∈ shelfAnnotations) :
    binder = ⟨0, "T"⟩ := by
  simpa [shelfAnnotations, shelfOf, listOfShelves, Value.user, Value.standard] using member

/-- Of nothing that the service involves a name alone is kept. -/
theorem shelves_not_named {value : Value} {name : String} (member : value ∈ shelfAnnotations) :
    ¬ shelves.NamedOnly (shelves.occasion (.user store) {}) value name := by
  intro named
  cases named with
  | standard own other =>
    obtain rfl | rfl := standard_of_mem member
    · cases own
    · cases other
  | fieldless form fieldless =>
    obtain ⟨rfl, _⟩ := construction_of_mem member form
    obtain ⟨before, after, _, told⟩ := fieldless
    have composite : shelves.isComposite (.user shelf) before = .ok true before := rfl
    cases composite.symm.trans told
  | sealed isSealed =>
    simp only [shelfAnnotations, List.mem_cons, List.not_mem_nil, or_false] at member
    obtain rfl | rfl | rfl | rfl | rfl | rfl | rfl := member <;> cases isSealed
  | unusual unusual =>
    simp only [shelfAnnotations, List.mem_cons, List.not_mem_nil, or_false] at member
    obtain rfl | rfl | rfl | rfl | rfl | rfl | rfl := member <;> cases unusual
  | constant | bareAlias =>
    simp [shelfAnnotations, shelfOf, listOfShelves, Value.user, Value.standard] at member

/-- Nothing that the service involves has the identity of the generic class but the class. -/
theorem shelves_apart : shelves.ClassesApart (shelves.occasion (.user store) {}) := by
  intro value reference involved among identified
  have member := shelves_involved involved
  obtain rfl := eq_shelf_of_mem (shelves_involved among)
  have qualified : (ClassValue.user shelf).identity = "svc.Shelf" := by decide
  generalize same : (ClassValue.user shelf).identity = identity at identified
  rw [qualified] at same
  cases identified with
  | elementary elementary =>
    cases elementary with
    | nothing => exact absurd same (by decide)
    | shared shared =>
      obtain rfl | rfl := standard_of_mem member <;> cases shared
      exact absurd same (by decide)
    | parameter =>
      obtain rfl := binder_of_mem member
      exact absurd same (by decide)
    | enumeration kind => obtain rfl | rfl := standard_of_mem member <;> cases kind
  | ofClass => rw [eq_shelf_of_mem member]
  | construction =>
    have bracket := congrArg (fun text => '[' ∈ text.toList) same
    simp at bracket
  | named named => exact absurd named (shelves_not_named member)

/-- The service of the second class. -/
def shelfService : Service :=
  ((shelves.describeService (.user store)).result? { memory := {} }).getD { name := "" }

/-- What is known after the service is described. -/
def shelfKnown : Knowledge :=
  (shelves.describeService (.user store)).knowledgeAfter { memory := {} }

/-- Names tell apart what the service involves. -/
theorem shelves_namesApart :
    shelves.NamesApart (shelves.occasion (.user store) {}) shelfKnown.catalog where
  atoms {index atom} standing := by
    have all : ∀ atom ∈ shelfKnown.catalog.graph.atoms, IsAtomic atom.identity := by
      decide +kernel
    exact all atom (Array.mem_of_getElem? standing)
  names involved named := absurd named (shelves_not_named (shelves_involved involved))
  classes involved := by
    obtain rfl := eq_shelf_of_mem (shelves_involved involved)
    decide
  parameters involved among := by
    obtain rfl := eq_shelf_of_mem (shelves_involved involved)
    obtain rfl := binder_of_mem (shelves_involved among)
    decide
  homonyms {reference owner} involved among same := by
    obtain rfl := eq_shelf_of_mem (shelves_involved involved)
    cases owner with
    | user other => rw [eq_shelf_of_mem (shelves_involved among)]
    | standard value =>
      obtain rfl | rfl := standard_of_mem (shelves_involved among) <;>
        exact absurd same (by decide)

/-- The generic class is applied to one argument, by the service and by itself. -/
theorem interfaces_applied_shelves :
    shelves.ClassesApart (shelves.occasion (.user store) {}) ∧
      shelves.ClassesFilled (shelves.occasion (.user store) {}) ∧
      ∃ stub, generate {} shelfKnown.catalog.graph shelfService = .ok stub ∧
        ∃ closure declarations methods events,
          BuiltFrom {} shelfKnown.catalog.graph shelfService stub closure
            (declarations ++ serviceConstructs shelfService methods events) ∧
          AppliesInterfaces shelves (shelves.occasion (.user store) {}) {}
            shelfKnown.catalog.graph shelfService closure.types declarations methods events := by
  have described : ((shelves.describeService (.user store)).result? { memory := {} }).isSome := by
    decide +kernel
  have given : (shelves.describeService (.user store)).result? { memory := {} } =
      some shelfService := by
    obtain ⟨service, found⟩ := Option.isSome_iff_exists.mp described
    rw [shelfService, found]
    rfl
  have succeeds : (generate {} shelfKnown.catalog.graph shelfService).toOption.isSome := by
    decide +kernel
  obtain ⟨stub, made⟩ := Option.isSome_iff_exists.mp succeeds
  have generated := eq_ok_of_toOption made
  exact ⟨shelves_apart, shelves_filled, stub, generated,
    interfaces_applied (Describing.eq_ok_of_result? given) generated shelves_apart shelves_filled⟩

/-! ## Two classes of one name -/

/-- A class. -/
def firstPage : ClassRef :=
  { index := 0, moduleName := "svc", qualifiedName := "Page", name := "Page" }

/-- A generic class that is defined later under the same name. -/
def secondPage : ClassRef :=
  { index := 1, moduleName := "svc", qualifiedName := "Page", name := "Page" }

/-- A class with methods that give the first class and an application of the second one. -/
def pager : ClassRef := { index := 2, moduleName := "svc", qualifiedName := "S", name := "S" }

/-- A module with the three classes. -/
def pagers : Module where
  name := "svc"
  classes := #[
    { reference := firstPage, order := [.user firstPage, .standard .object]
      annotations := [("x", .standard .int)], attributes := recordAttributes [] },
    { reference := secondPage, order := [.user secondPage, .standard .generic, .standard .object]
      annotations := [("item", .typeVariable ⟨0, "T"⟩)]
      attributes := recordAttributes [.typeVariable ⟨0, "T"⟩] },
    { reference := pager, order := [.user pager, .standard .object], annotations := []
      attributes := .ofList [("a", .function ⟨0, "svc", "S.a", "a"⟩),
        ("b", .function ⟨1, "svc", "S.b", "b"⟩)] }]
  functions := #[
    { qualifiedName := "S.a", parameters := [{ name := "self" }]
      returns := some (.user firstPage) },
    { qualifiedName := "S.b", parameters := [{ name := "self" }]
      returns := some (.templateOf (.user secondPage) [.standard .int]) }]

/-- The annotations that the service of the third class involves. -/
def pagerAnnotations : List Value :=
  [.user firstPage, .templateOf (.user secondPage) [.standard .int], .user secondPage,
    .standard .int, .typeVariable ⟨0, "T"⟩]

/-- The occasion of these annotations, on which the host may remember anything. -/
def pagerOccasion : Occasion where
  involved := (· ∈ pagerAnnotations)
  usual := fun _ => True

/-- The annotations have their parts and the hints of both classes among them. -/
theorem pagers_closed : pagers.Closes pagerOccasion where
  part {value _} whole member := by
    have parts : ∀ value ∈ pagerAnnotations, value.innerAnnotations ⊆ pagerAnnotations := by
      simp [pagerAnnotations, Value.innerAnnotations, Value.user, Value.standard]
    exact parts value whole member
  hints {reference _ before _} holder _ found := by
    have pages : reference = firstPage ∨ reference = secondPage := by
      simpa [pagerOccasion, pagerAnnotations, Value.user, Value.standard] using holder
    have first : pagers.fieldHints (.user firstPage) before =
      .ok [("x", .standard .int)] before := rfl
    have second : pagers.fieldHints (.user secondPage) before =
      .ok [("item", .typeVariable ⟨0, "T"⟩)] before := rfl
    obtain rfl | rfl := pages
    · cases first.symm.trans found
      exact ⟨trivial, List.forall_mem_singleton.mpr (by simp [pagerOccasion, pagerAnnotations])⟩
    · cases second.symm.trans found
      exact ⟨trivial, List.forall_mem_singleton.mpr (by simp [pagerOccasion, pagerAnnotations])⟩
  enumeration _ _ _ := trivial
  likeness _ _ _ := trivial

/-- The second class is applied to one argument, as it states one type parameter. -/
theorem pagers_filled : pagers.ClassesFilled (pagers.occasion (.user pager) {}) := by
  refine classesFilled_of_forms fun {value reference arguments} involved form => ?_
  have functions : pagers.declaredFunctions (.user pager) =
      [("a", pagers.functionAt 0), ("b", pagers.functionAt 1)] := rfl
  have member : value ∈ pagerAnnotations := by
    refine involved.least pagers_closed (fun entry member => ?_) trivial
    simp only [functions, List.mem_cons, List.not_mem_nil, or_false] at member
    intro hints before after _ found
    obtain rfl | rfl := member <;> cases found <;>
      exact ⟨trivial, fun _ none => (by cases none),
        by simp [pagerOccasion, FunctionHints.result, pagerAnnotations]⟩
  have forms : ∀ value ∈ pagerAnnotations, ∀ reference arguments,
      value.construction? = some (some reference, arguments) →
        reference = secondPage ∧ arguments.length = 1 := by
    simp [pagerAnnotations, Value.construction?, Value.user, Value.standard]
  obtain ⟨rfl, single⟩ := forms value member reference arguments form
  exact ⟨["T"], by decide +kernel, single⟩

/-- What is known after the service of the third class is described. -/
def pagerKnown : Knowledge :=
  (pagers.describeService (.user pager)).knowledgeAfter { memory := {} }

/-- The service of the third class. -/
def pagerService : Service :=
  ((pagers.describeService (.user pager)).result? { memory := {} }).getD { name := "" }

/-- Classes are applied to as many arguments as they state type parameters, but the stub applies the
interface of the first class, which has no type parameter, in the place of the second one. -/
theorem interface_misapplied :
    pagers.ClassesFilled (pagers.occasion (.user pager) {}) ∧
    (ClassValue.user firstPage).identity = (ClassValue.user secondPage).identity ∧
    ((pagers.describeService (.user pager)).result? { memory := {} }).isSome ∧
    (generate {} pagerKnown.catalog.graph pagerService).toOption.isSome ∧
    (do
      let closure ← (startingRegistry pagerService.name).resolve pagerKnown.catalog.graph
        pagerService.members.types
      return interfaces (← contents {} pagerKnown.catalog.graph pagerService closure)).toOption =
      some [{ name := "Page", fields := [⟨"x", "number"⟩] },
        { name := "S", methods := [⟨"a", [], "Promise<Page>"⟩,
          ⟨"b", [], "Promise<Page<number>>"⟩] }] :=
  ⟨pagers_filled, by decide +kernel⟩

end Stub

end ServiceStubs
