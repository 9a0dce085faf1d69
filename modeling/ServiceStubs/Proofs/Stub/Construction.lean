import ServiceStubs.Proofs.Closure.Exactness
import ServiceStubs.Stub

/-!
# How a stub is built

The text of a stub is that of one file construct. Its contents are a declaration for each type of
the closure, in the order of the closure, and then the interface of the service and its two
constants. The name of a declaration and every type that stands inside a construct are texts of
types, so what the constructs show is told relative to which texts show which types. The texts
that the registry of the closure gives are one such relation, and a coarser one at the types that
occur shows the same constructs.
-/

namespace ServiceStubs.Stub

open Document (Argument MethodSignature EventSignature)

section

variable (shows : TypeRef → String → Prop)

/-- Arguments show parameters in order, under their names and with texts of their types. -/
def ShowsParams (params : List Param) (arguments : List Argument) : Prop :=
  List.Forall₂ (fun param shown => shown.name = param.name ∧ shows param.type shown.type)
    params arguments

/-- An interface member shows an operation, its result inside the promise template. -/
structure ShowsOperation (options : Options) (operation : Operation) (member : MethodSignature) :
    Prop where
  name : member.name = operation.name
  params : ShowsParams shows operation.params member.arguments
  result : ∃ text, shows operation.returnType text ∧
    member.returnType = Registry.composeGeneric options.promiseType text

/-- An interface member shows an event. -/
structure ShowsEvent (event : Event) (member : EventSignature) : Prop where
  name : member.name = event.name
  params : ShowsParams shows event.params member.arguments

/-- A declaration shows an atom: an enumeration with its members, and anything else as an
interface with its fields. -/
inductive ShowsAtom (graph : TypeGraph) (index : Nat) : Document.Node → Prop
  /-- The declaration of an enumeration. -/
  | enumeration {name : String} (kind : (graph.atom index).kind = .enumeration)
      (named : shows (.atom index) name) :
      ShowsAtom graph index (.enum ⟨name, (graph.atom index).members.map Datum.told⟩)
  /-- The declaration of anything else. -/
  | interface {name : String} {fields : List Document.Field}
      (kind : (graph.atom index).kind ≠ .enumeration) (named : shows (.atom index) name)
      (written : List.Forall₂ (fun (field : Field) (shown : Document.Field) =>
        shown.name = field.name ∧ shows field.type shown.type) (graph.atom index).fields fields) :
      ShowsAtom graph index
        (.interface { name, fields, typeParameters := (graph.atom index).typeParameters })

/-- The constructs of a service beside its types. -/
def serviceConstructs (service : Service) (methods : List MethodSignature)
    (events : List EventSignature) : List Document.Node :=
  [.interface { name := service.name, methods, events },
    .typedConstant ⟨methodsName service.name, "Array<keyof " ++ service.name ++ ">",
      methodsExpression service.members.operations⟩,
    .constant ⟨argumentsName service.name, argumentsExpression service.members.operations⟩]

/-- Declarations and interface members show a closure and the members of a service in order. -/
structure ShowsContents (options : Options) (graph : TypeGraph) (service : Service)
    (types : List Nat) (declarations : List Document.Node) (methods : List MethodSignature)
    (events : List EventSignature) : Prop where
  types : List.Forall₂ (ShowsAtom shows graph) types declarations
  operations : List.Forall₂ (ShowsOperation shows options) service.members.operations methods
  events : List.Forall₂ (ShowsEvent shows) service.members.events events

end

/-- What a stub is built from: the closure of the types of its service, and the constructs that
its text is rendered from. -/
structure BuiltFrom (options : Options) (graph : TypeGraph) (service : Service) (stub : Stub)
    (closure : Closure) (constructs : List Document.Node) : Prop where
  resolved : (startingRegistry service.name).resolve graph service.members.types = .ok closure
  text : stub.text = Document.render options.layout [document constructs]

variable {options : Options} {graph : TypeGraph} {service : Service} {stub : Stub}
variable {registry : Registry}

/-- Arguments are made by the texts of a registry. -/
theorem arguments_ok {params : List Param} {shown : List Argument}
    (made : arguments registry graph params = .ok shown) :
    ShowsParams (fun type text => registry.map graph type = .ok text) params shown := by
  refine (mapM_eq_ok.mp made).imp fun param argument written => ?_
  obtain ⟨text, found, same⟩ := bind_eq_ok.mp written
  obtain rfl := Except.ok.inj same
  exact ⟨rfl, found⟩

/-- The member for an operation is made by the texts of a registry. -/
theorem methodSignature_ok {operation : Operation} {member : MethodSignature}
    (made : methodSignature registry graph options operation = .ok member) :
    ShowsOperation (fun type text => registry.map graph type = .ok text) options operation
      member := by
  obtain ⟨shown, withArguments, rest⟩ := bind_eq_ok.mp made
  obtain ⟨result, found, same⟩ := bind_eq_ok.mp rest
  obtain rfl := Except.ok.inj same
  exact ⟨rfl, arguments_ok withArguments, result, found, rfl⟩

/-- The member for an event is made by the texts of a registry. -/
theorem eventSignature_ok {event : Event} {member : EventSignature}
    (made : eventSignature registry graph event = .ok member) :
    ShowsEvent (fun type text => registry.map graph type = .ok text) event member := by
  obtain ⟨shown, withArguments, same⟩ := bind_eq_ok.mp made
  obtain rfl := Except.ok.inj same
  exact ⟨rfl, arguments_ok withArguments⟩

/-- The declaration of an atom is made by the texts of a registry. -/
theorem declaration_ok {index : Nat} {node : Document.Node}
    (made : declaration registry graph index = .ok node) :
    ShowsAtom (fun type text => registry.map graph type = .ok text) graph index node := by
  obtain ⟨name, named, rest⟩ := bind_eq_ok.mp made
  split at rest
  · rename_i enumeration
    obtain rfl := Except.ok.inj rest
    exact .enumeration enumeration named
  · rename_i other
    obtain ⟨fields, mapped, same⟩ := bind_eq_ok.mp rest
    obtain rfl := Except.ok.inj same
    refine .interface other named ((mapM_eq_ok.mp mapped).imp fun field shown written => ?_)
    obtain ⟨text, found, whole⟩ := bind_eq_ok.mp written
    obtain rfl := Except.ok.inj whole
    exact ⟨rfl, found⟩

/-- Every generated stub is built from the closure of its service, and its constructs show the
closure and the members of the service by the texts of the registry of the closure. -/
theorem generate_ok (generated : generate options graph service = .ok stub) :
    ∃ closure declarations methods events,
      BuiltFrom options graph service stub closure
        (declarations ++ serviceConstructs service methods events) ∧
      ShowsContents (fun type text => closure.registry.map graph type = .ok text) options graph
        service closure.types declarations methods events := by
  obtain ⟨closure, resolved, rest⟩ := bind_eq_ok.mp generated
  obtain ⟨constructs, built, same⟩ := bind_eq_ok.mp rest
  obtain ⟨declarations, declared, rest⟩ := bind_eq_ok.mp built
  obtain ⟨methods, withMethods, rest⟩ := bind_eq_ok.mp rest
  obtain ⟨events, withEvents, joined⟩ := bind_eq_ok.mp rest
  obtain rfl := Except.ok.inj joined
  refine ⟨closure, declarations, methods, events, ⟨resolved, ?_⟩, ?_, ?_, ?_⟩
  · rw [← Except.ok.inj same]
    rfl
  · exact (mapM_eq_ok.mp declared).imp fun _ _ => declaration_ok
  · exact (mapM_eq_ok.mp withMethods).imp fun _ _ => methodSignature_ok
  · exact (mapM_eq_ok.mp withEvents).imp fun _ _ => eventSignature_ok

end ServiceStubs.Stub
