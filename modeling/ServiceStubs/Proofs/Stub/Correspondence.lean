import ServiceStubs.Proofs.Closure.Correspondence
import ServiceStubs.Stub

/-!
# Stubs of corresponding services

Services correspond when their methods and events have the same names in the same order and refer
to corresponding types. Every text of a stub is made of names, of members of enumerations and of
texts of types, and registries that agree write corresponding types alike. So services that
correspond have one stub, or fail with errors that tell the same of corresponding types.
-/

namespace ServiceStubs

open TypeGraph (AtomsRelated Correspondence SameError)

variable {left right : TypeGraph} {related : TypeRef → TypeRef → Prop}

/-- Whether parameters have one name and related types. -/
def ParamsAlike (related : TypeRef → TypeRef → Prop) (param other : Param) : Prop :=
  param.name = other.name ∧ related param.type other.type

/-- How two methods are alike. -/
structure MethodsAlike (related : TypeRef → TypeRef → Prop) (method other : Method) : Prop where
  name : method.name = other.name
  params : List.Forall₂ (ParamsAlike related) method.params other.params
  returnType : related method.returnType other.returnType
  isSpecialName : method.isSpecialName = other.isSpecialName

/-- How two operations are alike. -/
structure OperationsAlike (related : TypeRef → TypeRef → Prop) (operation other : Operation) :
    Prop where
  name : operation.name = other.name
  params : List.Forall₂ (ParamsAlike related) operation.params other.params
  returnType : related operation.returnType other.returnType

/-- How two events are alike. -/
structure EventsAlike (related : TypeRef → TypeRef → Prop) (event other : Event) : Prop where
  name : event.name = other.name
  params : List.Forall₂ (ParamsAlike related) event.params other.params

/-- How two services are alike. -/
structure ServicesAlike (related : TypeRef → TypeRef → Prop) (service other : Service) :
    Prop where
  name : service.name = other.name
  methods : List.Forall₂ (MethodsAlike related) service.methods other.methods
  events : List.Forall₂ (EventsAlike related) service.events other.events

/-- How the members of two services are alike. -/
structure MembersAlike (related : TypeRef → TypeRef → Prop) (members others : Members) : Prop where
  operations : List.Forall₂ (OperationsAlike related) members.operations others.operations
  events : List.Forall₂ (EventsAlike related) members.events others.events

/-- Services stay alike when more types are related. -/
theorem ServicesAlike.imp {coarser : TypeRef → TypeRef → Prop} {service other : Service}
    (alike : ServicesAlike related service other)
    (implies : ∀ first second, related first second → coarser first second) :
    ServicesAlike coarser service other :=
  have params {params others : List Param}
      (lists : List.Forall₂ (ParamsAlike related) params others) :
      List.Forall₂ (ParamsAlike coarser) params others :=
    lists.imp fun _ _ same => ⟨same.1, implies _ _ same.2⟩
  { name := alike.name
    methods := alike.methods.imp fun _ _ same =>
      ⟨same.name, params same.params, implies _ _ same.returnType, same.isSpecialName⟩
    events := alike.events.imp fun _ _ same => ⟨same.name, params same.params⟩ }

/-- What is alike in order has the same names in order. -/
theorem names_eq_of_forall₂ {α : Type} {alike : α → α → Prop} {name : α → String}
    (named : ∀ first second, alike first second → name first = name second)
    {values others : List α} (lists : List.Forall₂ alike values others) :
    values.map name = others.map name :=
  (map_eq_of_forall₂ (lists.imp fun first second same => (named first second same).symm)).symm

/-- Parameters that are alike have related types in order. -/
theorem paramTypes_related {params others : List Param}
    (lists : List.Forall₂ (ParamsAlike related) params others) :
    List.Forall₂ related (params.map Param.type) (others.map Param.type) :=
  List.forall₂_map_left_iff.mpr (List.forall₂_map_right_iff.mpr
    (lists.imp fun _ _ alike => alike.2))

/-- Services that are alike have members that are alike: which methods are operations is told by
names alone. -/
theorem ServicesAlike.members {service other : Service}
    (alike : ServicesAlike related service other) :
    MembersAlike related service.members other.members := by
  have eventNames : service.events.map Event.name = other.events.map Event.name :=
    names_eq_of_forall₂ (fun _ _ same => same.name) alike.events
  refine ⟨?_, alike.events⟩
  refine List.forall₂_map_left_iff.mpr (List.forall₂_map_right_iff.mpr ?_)
  have selected : List.Forall₂ (MethodsAlike related)
      (service.methods.filter (Method.isOperation (service.events.map Event.name)))
      (other.methods.filter (Method.isOperation (other.events.map Event.name))) :=
    List.rel_filter (fun method counterpart same => by
      simp only [Method.isOperation, same.name, same.isSpecialName, eventNames]) alike.methods
  exact selected.imp fun _ _ same => ⟨same.name, same.params, same.returnType⟩

/-- Members that are alike refer to related types in order. -/
theorem MembersAlike.types {members others : Members}
    (alike : MembersAlike related members others) :
    List.Forall₂ related members.types others.types := by
  refine List.rel_append ?_ ?_
  · refine List.rel_flatMap alike.operations fun operation other same => ?_
    exact List.rel_append (paramTypes_related same.params) (.cons same.returnType .nil)
  · exact List.rel_flatMap alike.events fun event other same => paramTypes_related same.params

/-- Registries that agree write related types alike. -/
theorem Registry.Agrees.map {first second : Registry}
    (agrees : first.Agrees left right related second)
    (corresponds : left.Correspondence right related) {type other : TypeRef}
    (types : related type other) :
    Agree (SameError left right related) Eq (first.map left type) (second.map right other) := by
  -- A construction with a name of its own is not looked into; one argument is written within the
  -- base, and any other number of them is the same error on both sides.
  induction type using TypeRef.leaves.induct generalizing other with
  | case1 index =>
    obtain ⟨place, rfl⟩ := corresponds.of_atom types
    have names : (left.atom index).name = (right.atom place).name := (corresponds.alike types).name
    have found :
        first.name? (left.atom index).identity = second.name? (right.atom place).identity :=
      agrees.name types
    rw [Registry.map, Registry.map, found, names]
    exact .ok rfl
  | case2 identity name base argument inBase inArgument =>
    obtain ⟨otherIdentity, _, otherBase, _, rfl, bases, arguments⟩ := corresponds.of_apply types
    obtain ⟨otherArgument, _, here, rest, rfl⟩ := List.forall₂_cons_left_iff.mp arguments
    obtain rfl := List.forall₂_nil_left_iff.mp rest
    have found : first.name? identity = second.name? otherIdentity := agrees.name types
    rw [Registry.map, Registry.map, found]
    cases second.name? otherIdentity with
    | some text => exact .ok rfl
    | none =>
      refine (inBase bases).bind ?_
      rintro baseText _ rfl
      refine (inArgument here).bind ?_
      rintro argumentText _ rfl
      exact .ok rfl
  | case3 identity name base arguments malformed =>
    obtain ⟨otherIdentity, otherName, otherBase, otherArguments, rfl, _, counted⟩ :=
      corresponds.of_apply types
    have lengths := counted.length_eq
    have alsoMalformed : ∀ argument, otherArguments = [argument] → False := by
      rintro argument rfl
      obtain ⟨single, rfl⟩ := List.length_eq_one_iff.mp lengths
      exact malformed single rfl
    have found : first.name? identity = second.name? otherIdentity := agrees.name types
    rw [Registry.map.eq_3 _ _ _ _ _ _ malformed, Registry.map.eq_3 _ _ _ _ _ _ alsoMalformed,
      found, lengths]
    cases second.name? otherIdentity with
    | some text => exact .ok rfl
    | none => exact .error (.genericArity types _)

namespace Stub

variable {options : Options} {service other : Service}

section

variable {first second : Registry} (agrees : first.Agrees left right related second)
variable (corresponds : left.Correspondence right related)

include agrees corresponds

/-- Parameters that are alike have the same arguments. -/
theorem arguments_agree {params others : List Param}
    (lists : List.Forall₂ (ParamsAlike related) params others) :
    Agree (SameError left right related) Eq (arguments first left params)
      (arguments second right others) := by
  refine Agree.mapM_eq lists fun param counterpart alike => ?_
  rw [alike.1]
  refine (agrees.map corresponds alike.2).bind ?_
  rintro text _ rfl
  exact .ok rfl

/-- Operations that are alike have the same interface member. -/
theorem methodSignature_agree {operation counterpart : Operation}
    (alike : OperationsAlike related operation counterpart) :
    Agree (SameError left right related) Eq (methodSignature first left options operation)
      (methodSignature second right options counterpart) := by
  refine (arguments_agree agrees corresponds alike.params).bind ?_
  rintro shown _ rfl
  refine (agrees.map corresponds alike.returnType).bind ?_
  rintro result _ rfl
  rw [alike.name]
  exact .ok rfl

/-- Events that are alike have the same interface member. -/
theorem eventSignature_agree {event counterpart : Event}
    (alike : EventsAlike related event counterpart) :
    Agree (SameError left right related) Eq (eventSignature first left event)
      (eventSignature second right counterpart) := by
  refine (arguments_agree agrees corresponds alike.params).bind ?_
  rintro shown _ rfl
  rw [alike.name]
  exact .ok rfl

/-- Related atoms have the same declaration. -/
theorem declaration_agree {index place : Nat} (atoms : AtomsRelated related index place) :
    Agree (SameError left right related) Eq (declaration first left index)
      (declaration second right place) := by
  have alike := corresponds.alike atoms
  have members : (left.atom index).members = (right.atom place).members := alike.members
  have typeParameters : (left.atom index).typeParameters = (right.atom place).typeParameters :=
    alike.typeParameters
  have written : Agree (SameError left right related) Eq
      ((left.atom index).fields.mapM fun field => do
        return (⟨field.name, ← first.map left field.type⟩ : Document.Field))
      ((right.atom place).fields.mapM fun field => do
        return (⟨field.name, ← second.map right field.type⟩ : Document.Field)) :=
    Agree.mapM_eq alike.fields fun field counterpart same => by
      rw [same.1]
      refine (agrees.map corresponds same.2).bind ?_
      rintro text _ rfl
      exact .ok rfl
  refine (agrees.map corresponds atoms).bind ?_
  rintro name _ rfl
  rw [corresponds.atomKind atoms, members, typeParameters]
  cases (right.atom place).kind with
  | enumeration => exact .ok rfl
  | primitive | composite | parameter =>
    refine written.bind ?_
    rintro fields _ rfl
    exact .ok rfl

/-- Services of one name with members that are alike have the same constructs. -/
theorem contents_agree (names : service.name = other.name)
    (members : MembersAlike related service.members other.members)
    {types others : List Nat} (lists : List.Forall₂ (AtomsRelated related) types others) :
    Agree (SameError left right related) Eq (contents options left service ⟨types, first⟩)
      (contents options right other ⟨others, second⟩) := by
  have operationNames : service.members.operations.map Operation.name =
      other.members.operations.map Operation.name :=
    names_eq_of_forall₂ (fun _ _ same => same.name) members.operations
  have entries : service.members.operations.map argumentEntry =
      other.members.operations.map argumentEntry :=
    names_eq_of_forall₂ (fun operation counterpart same => by
      have params : operation.params.map Param.name = counterpart.params.map Param.name :=
        names_eq_of_forall₂ (fun _ _ alike => alike.1) same.params
      have quoted := congrArg (List.map doubleQuoted) params
      simp only [List.map_map, Function.comp_def] at quoted
      simp only [argumentEntry, same.name, quoted]) members.operations
  have listed := congrArg (List.map doubleQuoted) operationNames
  simp only [List.map_map, Function.comp_def] at listed
  refine (Agree.mapM_eq lists fun _ _ => declaration_agree agrees corresponds).bind ?_
  rintro declarations _ rfl
  refine (Agree.mapM_eq members.operations fun _ _ =>
    methodSignature_agree agrees corresponds).bind ?_
  rintro methods _ rfl
  refine (Agree.mapM_eq members.events fun _ _ => eventSignature_agree agrees corresponds).bind ?_
  rintro events _ rfl
  simp only [methodsExpression, argumentsExpression, listed, entries, names]
  exact .ok rfl

end

/-- Registries of services with one name agree before any type is registered, when related types
have the same built-in name. -/
theorem startingRegistry_agrees (names : service.name = other.name)
    (builtin : ∀ {type counterpart : TypeRef}, related type counterpart →
      Registry.typescript.builtin? (left.identity type) =
        Registry.typescript.builtin? (right.identity counterpart)) :
    (startingRegistry service.name).Agrees left right related (startingRegistry other.name) where
  builtins := rfl
  reserved := congrArg ownNames names
  entryNames := rfl
  builtin := builtin
  entry := fun _ => rfl

/-- Services that correspond have one stub, or fail with errors that tell the same. -/
theorem generate_agree (corresponds : left.Correspondence right related)
    (builtin : ∀ {type counterpart : TypeRef}, related type counterpart →
      Registry.typescript.builtin? (left.identity type) =
        Registry.typescript.builtin? (right.identity counterpart))
    (names : service.name = other.name)
    (members : MembersAlike related service.members other.members) :
    Agree (SameError left right related) Eq (generate options left service)
      (generate options right other) := by
  have starting := startingRegistry_agrees names builtin
  refine (Closure.resolve_agree corresponds starting members.types).bind ?_
  rintro ⟨types, registry⟩ ⟨others, counterpart⟩ ⟨lists, registries⟩
  refine (contents_agree registries corresponds names members lists).bind ?_
  rintro constructs _ rfl
  simp only [names, members.operations.length_eq, members.events.length_eq,
    lists.length_eq, registries.entryNames]
  exact .ok rfl

end Stub

end ServiceStubs
