import ServiceStubs.Proofs.Description.Requests
import ServiceStubs.Proofs.OrderedMap
import ServiceStubs.Proofs.Stub.Construction

/-!
# Members of services

The members of a class are collected from the last class of its order to the first, and a name that
is met again gets another value in its old place. So the value of a name is what attribute lookup
finds, the attribute of the first class of the order that has one, while its place is that of the
first class that is met. Whether a name is a method, an event or neither is decided by the value
alone: a class may take a name away from its bases by anything that is no plain function, and may
turn a method of a base into an event without moving it.

Classes of frameworks are passed over in both directions, and names that begin and end with two
underscores are left out.
-/

namespace ServiceStubs

open Source

namespace Source.Module

/-! ## Attributes of one class -/

variable (module : Module)

/-- What a class defines under a name. -/
def definition? (owner : ClassValue) (name : String) : Option Value :=
  ((module.ownAttributes owner).find? fun entry => entry.1 = name).map Prod.snd

/-- A class defines something under its names and under no other. -/
theorem isSome_definition? (owner : ClassValue) (name : String) :
    (module.definition? owner name).isSome ↔ name ∈ (module.ownAttributes owner).map Prod.fst := by
  simp [definition?]

/-- What a class lists under a name is its own attribute of that name. -/
theorem ownAttribute?_of_mem {owner : ClassValue} {entry : String × Value}
    (member : entry ∈ module.ownAttributes owner) :
    module.ownAttribute? owner entry.1 = some entry.2 := by
  cases owner with
  | standard value =>
    obtain ⟨name, _, listed⟩ := List.mem_filterMap.mp member
    obtain ⟨found, known, rfl⟩ := Option.map_eq_some_iff.mp listed
    exact known
  | user reference => exact OrderedMap.get?_of_mem_entries member

/-- A class that lists a name defines what it lists under it. -/
theorem definition?_of_mem {owner : ClassValue} {entry : String × Value}
    (member : entry ∈ module.ownAttributes owner) :
    module.definition? owner entry.1 = some entry.2 := by
  obtain ⟨value, defined⟩ := Option.isSome_iff_exists.mp
    ((module.isSome_definition? owner entry.1).mpr (List.mem_map_of_mem member))
  obtain ⟨other, found, rfl⟩ := Option.map_eq_some_iff.mp defined
  have same : other.1 = entry.1 := by simpa using List.find?_some found
  have read := module.ownAttribute?_of_mem (List.mem_of_find?_eq_some found)
  rw [same, module.ownAttribute?_of_mem member] at read
  exact defined.trans read.symm

/-! ## Members -/

/-- The classes that contribute members to a class: those of its order outside frameworks. -/
def memberOrder (value : ClassValue) : List ClassValue :=
  (module.orderOf value).filter fun owner => !frameworkModules.contains owner.moduleName

/-- The names of the contributing classes in the order in which they are first met, from the last
class to the first. -/
def namesBasesFirst (value : ClassValue) : List String :=
  firstOccurrences ((module.memberOrder value).reverse.flatMap fun owner =>
    (module.ownAttributes owner).map Prod.fst)

/-- The function that a value is, if it is a plain function. -/
def functionOf? : Value → Option Function
  | .function found => some (module.functionAt found.index)
  | .closure _ code _ => some { qualifiedName := "<lambda>", parameters := code.parameters }
  | _ => none

/-- What the first of the contributing classes that has a name defines under it. -/
def firstDefinition? (value : ClassValue) (name : String) : Option Value :=
  (module.memberOrder value).findSome? fun owner => module.definition? owner name

/-- The function that a class has under a name, if the first definition of the name is a plain
function. -/
def memberFunction? (value : ClassValue) (name : String) : Option Function :=
  (module.firstDefinition? value name).bind module.functionOf?

/-- The members are what the contributing classes have, in order, without names between two
underscores. -/
theorem declaredMembers_eq (value : ClassValue) :
    module.declaredMembers value = .ofList (((module.memberOrder value).reverse.flatMap
      module.ownAttributes).filter fun entry => !isDunder entry.1) := by
  rw [declaredMembers, memberOrder]
  congr 1
  rw [← List.filter_reverse]
  induction (module.orderOf value).reverse with
  | nil => rfl
  | cons owner rest ih =>
    rw [List.flatMap_cons, ih, contributedAttributes, List.filter_cons]
    cases frameworkModules.contains owner.moduleName with
    | true => rfl
    | false => exact (List.filter_append _ _).symm

/-- The names of the members stand in the order in which they are first met. -/
theorem keys_declaredMembers (value : ClassValue) :
    (module.declaredMembers value).keys =
      (module.namesBasesFirst value).filter fun name => !isDunder name := by
  rw [declaredMembers_eq, OrderedMap.keys_ofList, namesBasesFirst, ← firstOccurrences_filter,
    ← List.map_flatMap, List.filter_map]
  rfl

/-- The value of a member is the first definition of its name. -/
theorem get?_declaredMembers (value : ClassValue) {name : String}
    (plain : isDunder name = false) :
    (module.declaredMembers value).get? name = module.firstDefinition? value name := by
  have chosen : (fun entry : String × Value =>
      decide ((!isDunder entry.1) = true ∧ decide (entry.1 = name) = true)) =
        fun entry => decide (entry.1 = name) := by
    funext entry
    by_cases same : entry.1 = name <;> simp [same, plain]
  have owned : ∀ owner, ((module.ownAttributes owner).reverse.find? fun entry =>
      entry.1 = name).map Prod.snd = module.definition? owner name := fun owner =>
    find?_reverse_eq (fun entry member same => same ▸ module.definition?_of_mem member)
      (module.isSome_definition? owner name).mp
  rw [declaredMembers_eq, OrderedMap.get?_ofList, ← List.filter_reverse, List.find?_filter,
    chosen, List.reverse_flatMap, List.reverse_reverse, List.find?_flatMap, List.map_findSome?,
    firstDefinition?]
  congr 1
  funext owner
  exact owned owner

/-- A name that is defined is met. -/
theorem mem_namesBasesFirst {value : ClassValue} {name : String}
    (has : (module.firstDefinition? value name).isSome) : name ∈ module.namesBasesFirst value := by
  obtain ⟨owner, member, defined⟩ := List.findSome?_isSome_iff.mp has
  rw [namesBasesFirst, mem_firstOccurrences, List.mem_flatMap]
  exact ⟨owner, List.mem_reverse.mpr member, (module.isSome_definition? owner name).mp defined⟩

/-- The functions of a class are those first definitions that are plain functions, in the order in
which their names are first met. -/
theorem declaredFunctions_eq (value : ClassValue) :
    module.declaredFunctions value =
      ((module.namesBasesFirst value).filter fun name => !isDunder name).filterMap fun name =>
        (module.memberFunction? value name).map fun function => (name, function) := by
  have collected : module.declaredFunctions value =
      (module.declaredMembers value).entries.filterMap fun entry =>
        (module.functionOf? entry.2).map fun function => (entry.1, function) := by
    refine List.filterMap_congr fun entry _ => ?_
    obtain ⟨name, found⟩ := entry
    cases found <;> rfl
  rw [collected, OrderedMap.entries_eq_keys, List.filterMap_filterMap, keys_declaredMembers]
  refine List.filterMap_congr fun name member => ?_
  have plain : isDunder name = false := by simpa using List.of_mem_filter member
  rw [get?_declaredMembers module value plain, memberFunction?]
  cases module.firstDefinition? value name <;> rfl

/-- Whether a class offers a method, or an event, under a name: the first definition of the name is
a plain function, which does not carry the mark of events or carries it. -/
def offers (value : ClassValue) (asEvent : Bool) (name : String) : Bool :=
  !isDunder name &&
    (module.memberFunction? value name).any fun function => function.isEvent = asEvent

/-- What a class offers under a name is the first definition, of the kind that the mark tells. -/
theorem offers_iff {value : ClassValue} {asEvent : Bool} {name : String} :
    module.offers value asEvent name ↔ isDunder name = false ∧
      ∃ function, module.memberFunction? value name = some function ∧
        function.isEvent = asEvent := by
  simp [offers, Option.any_eq_true]

/-- What is offered under a name is met. -/
theorem mem_namesBasesFirst_of_offers {value : ClassValue} {asEvent : Bool} {name : String}
    (offered : module.offers value asEvent name) : name ∈ module.namesBasesFirst value := by
  obtain ⟨_, function, found, _⟩ := module.offers_iff.mp offered
  obtain ⟨member, has, _⟩ := Option.bind_eq_some_iff.mp found
  exact module.mem_namesBasesFirst (Option.isSome_of_eq_some has)

/-- The functions of one kind among those of a class are what it offers, in the order in which the
names are first met. -/
theorem functionNames_eq (value : ClassValue) (asEvent : Bool) :
    ((module.declaredFunctions value).filter fun entry => entry.2.isEvent = asEvent).map Prod.fst =
      (module.namesBasesFirst value).filter (module.offers value asEvent) := by
  have split : (module.namesBasesFirst value).filter (module.offers value asEvent) =
      ((module.namesBasesFirst value).filter fun name => !isDunder name).filter fun name =>
        (module.memberFunction? value name).any fun function => function.isEvent = asEvent := by
    rw [List.filter_filter]
    exact List.filter_congr fun name _ => Bool.and_comm _ _
  rw [split, declaredFunctions_eq, List.filter_filterMap, List.map_filterMap]
  refine (List.filterMap_congr fun name _ => ?_).trans (congrFun List.filterMap_eq_filter _)
  rw [Option.guard]
  cases module.memberFunction? value name with
  | none => rfl
  | some function =>
    by_cases marked : function.isEvent = asEvent <;> simp [marked, Option.filter]

/-! ## Services -/

/-- Functions that are described are appended to the methods and the events of a service. -/
theorem describeFunctions_names {service result : Service} {functions : List (String × Function)}
    {before after : Knowledge}
    (done : module.describeFunctions service functions before = .ok result after) :
    result.name = service.name ∧
      result.methods.map Method.name = service.methods.map Method.name ++
        (functions.filter fun entry => entry.2.isEvent = false).map Prod.fst ∧
      result.events.map Event.name = service.events.map Event.name ++
        (functions.filter fun entry => entry.2.isEvent = true).map Prod.fst := by
  induction functions generalizing service before with
  | nil =>
    cases done
    simp
  | cons entry rest ih =>
    obtain ⟨name, function⟩ := entry
    obtain ⟨⟨params, returnType⟩, between, _, later⟩ := run_bind_eq_ok.mp done
    obtain ⟨named, methods, events⟩ := ih later
    cases mark : function.isEvent with
    | true => simpa [mark] using And.intro named (And.intro methods events)
    | false => simpa [mark] using And.intro named (And.intro methods events)

/-- The members of a described service follow attribute lookup. A name is that of a method or of an
event exactly when its first definition along the classes outside frameworks is a plain function,
without or with the mark of events; both lists are in the order in which names are first met from
the bases on, and no name is repeated in either or common to both. So in every stub of the service
the list of methods and the table of arguments have distinct names, none of which is an event's. -/
theorem members_follow_lookup {value : ClassValue} {service : Service} {before after : Knowledge}
    (described : module.describeService value before = .ok service after) :
    (∀ name, name ∈ service.methods.map Method.name ↔ isDunder name = false ∧
        ∃ function, module.memberFunction? value name = some function ∧
          function.isEvent = false) ∧
      (∀ name, name ∈ service.events.map Event.name ↔ isDunder name = false ∧
        ∃ function, module.memberFunction? value name = some function ∧
          function.isEvent = true) ∧
      (service.methods.map Method.name ++ service.events.map Event.name).Nodup ∧
      (service.methods.map Method.name).Sublist (module.namesBasesFirst value) ∧
      (service.events.map Event.name).Sublist (module.namesBasesFirst value) ∧
      ∀ options stub, Stub.generate options after.catalog.graph service = .ok stub →
        ∃ closure declarations methods events,
          Stub.BuiltFrom options after.catalog.graph service stub closure
            (declarations ++ Stub.serviceConstructs service methods events) ∧
          (service.members.operations.map Operation.name).Nodup ∧
          ∀ event ∈ service.events, event.name ∉ service.members.operations.map Operation.name := by
  obtain ⟨_, methods, events⟩ := module.describeFunctions_names described
  rw [functionNames_eq, List.map_nil, List.nil_append] at methods events
  have listed : ∀ asEvent name,
      name ∈ (module.namesBasesFirst value).filter (module.offers value asEvent) ↔
        isDunder name = false ∧ ∃ function, module.memberFunction? value name = some function ∧
          function.isEvent = asEvent := fun asEvent name => by
    rw [List.mem_filter, ← offers_iff]
    exact ⟨And.right, fun offered => ⟨module.mem_namesBasesFirst_of_offers offered, offered⟩⟩
  have distinct : (service.methods.map Method.name ++ service.events.map Event.name).Nodup := by
    have names : (module.namesBasesFirst value).Nodup := firstOccurrences_nodup _
    rw [methods, events]
    refine List.nodup_append.mpr ⟨names.filter _, names.filter _, ?_⟩
    rintro name method _ event rfl
    obtain ⟨_, function, found, unmarked⟩ := (listed false name).mp method
    obtain ⟨_, other, alsoFound, marked⟩ := (listed true name).mp event
    obtain rfl := Option.some.inj (found.symm.trans alsoFound)
    exact Bool.false_ne_true (unmarked.symm.trans marked)
  have operations : (service.members.operations.map Operation.name).Sublist
      (service.methods.map Method.name) := by
    rw [Service.members, List.map_map]
    exact List.filter_sublist.map _
  have apart := List.nodup_append.mp distinct
  refine ⟨fun name => methods ▸ listed false name, fun name => events ▸ listed true name, distinct,
    methods ▸ List.filter_sublist, events ▸ List.filter_sublist, fun options stub generated => ?_⟩
  obtain ⟨closure, declarations, members, notices, built, _⟩ := Stub.generate_ok generated
  refine ⟨closure, declarations, members, notices, built, operations.nodup apart.1, ?_⟩
  exact fun event member selected =>
    apart.2.2 _ (operations.subset selected) _ (List.mem_map_of_mem member) rfl

end Source.Module

/-! ## A diamond -/

/-- A class of the diamond. -/
def diamondClass (index : Nat) (name : String) : ClassRef :=
  { index, moduleName := "svc", qualifiedName := name, name }

/-- A function of the diamond under a name. -/
def diamondFunction (index : Nat) (name : String) : String × Value :=
  (name, .function ⟨index, "svc", name, name⟩)

/-- A class with two branches that meet again. One branch turns a method into an event and takes
others away, the other branch hides a method behind a property, and the last class brings back one
of those that were taken away. -/
def diamond : Module where
  name := "svc"
  classes := #[
    { reference := diamondClass 0 "Root"
      order := [.user (diamondClass 0 "Root"), .standard .object], annotations := []
      attributes := .ofList [diamondFunction 0 "a", diamondFunction 0 "b", diamondFunction 0 "c",
        diamondFunction 0 "d", diamondFunction 0 "__len__"] },
    { reference := diamondClass 1 "Left"
      order := [.user (diamondClass 1 "Left"), .user (diamondClass 0 "Root"), .standard .object]
      annotations := []
      attributes := .ofList [diamondFunction 1 "a", ("b", .nothing), ("d", .nothing)] },
    { reference := diamondClass 2 "Right"
      order := [.user (diamondClass 2 "Right"), .user (diamondClass 0 "Root"), .standard .object]
      annotations := []
      attributes := .ofList [("c", .wrapped .property false (.function ⟨0, "svc", "c", "c"⟩)),
        diamondFunction 0 "a", diamondFunction 1 "e"] },
    { reference := diamondClass 3 "Tip"
      order := [.user (diamondClass 3 "Tip"), .user (diamondClass 1 "Left"),
        .user (diamondClass 2 "Right"), .user (diamondClass 0 "Root"), .standard .generic,
        .standard .object]
      annotations := []
      attributes := .ofList [diamondFunction 0 "f", diamondFunction 0 "b"] }]
  functions := #[
    { qualifiedName := "operation", parameters := [{ name := "self" }] },
    { qualifiedName := "notice", parameters := [{ name := "self" }], isEvent := true }]

/-- The class in which the branches meet. -/
def diamondTip : ClassValue := .user (diamondClass 3 "Tip")

/-- The service of the class in which the branches meet. -/
def diamondService : Service :=
  ((diamond.describeService diamondTip).result? { memory := {} }).getD { name := "" }

/-- The class in which the branches meet has two methods and two events. -/
theorem members_follow_lookup_diamond :
    diamondService.methods.map Method.name = ["b", "f"] ∧
      diamondService.events.map Event.name = ["a", "e"] ∧
      diamond.namesBasesFirst diamondTip = ["a", "b", "c", "d", "__len__", "e", "f"] ∧
      (diamondService.methods.map Method.name ++ diamondService.events.map Event.name).Nodup ∧
      ∃ function, diamond.memberFunction? diamondTip "a" = some function ∧
        function.isEvent = true := by
  have given : (diamond.describeService diamondTip).result? { memory := {} } =
      some diamondService := by
    have described : ((diamond.describeService diamondTip).result? { memory := {} }).isSome := by
      decide +kernel
    exact (Option.getD_of_ne_none (Option.isSome_iff_ne_none.mp described) _).symm
  obtain ⟨_, events, distinct, _⟩ :=
    diamond.members_follow_lookup (Describing.eq_ok_of_result? given)
  have names : diamondService.events.map Event.name = ["a", "e"] := by decide +kernel
  have listed : "a" ∈ diamondService.events.map Event.name := names ▸ List.mem_cons_self
  exact ⟨by decide +kernel, names, by decide +kernel, distinct, ((events "a").mp listed).2⟩

end ServiceStubs
