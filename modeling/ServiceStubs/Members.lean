import ServiceStubs.Types.Service

/-!
# The operations of a service

Not every method a host reports is an operation that clients may call. Methods with a special
name, methods whose name begins with an underscore, and the accessors that a host makes for its
events are left out. What remains are the operations and the events, in the order in which the
host reports them.
-/

namespace ServiceStubs

/-- A method that clients may call. -/
structure Operation where
  name : String
  params : List Param := []
  returnType : TypeRef
deriving Inhabited, Repr

/-- Every type an operation refers to, parameters first. -/
def Operation.types (operation : Operation) : List TypeRef :=
  operation.params.map Param.type ++ [operation.returnType]

/-- Every type an event refers to. -/
def Event.types (event : Event) : List TypeRef := event.params.map Param.type

/-- The openings of the accessors that a host makes for an event. -/
def eventAccessorOpenings : List String := ["add_", "remove_"]

/-- Whether a name is that of an accessor of one of some events. -/
def isEventAccessor (eventNames : List String) (name : String) : Bool :=
  eventAccessorOpenings.any fun opening =>
    match Text.afterOpening? opening.toList name.toList with
    | some rest => eventNames.contains (String.ofList rest)
    | none => false

/-- Whether a method is an operation declared by the user. -/
def Method.isOperation (eventNames : List String) (method : Method) : Bool :=
  !method.isSpecialName && !Text.opensWith "_" method.name &&
    !isEventAccessor eventNames method.name

/-- The selected members of a service. -/
structure Members where
  operations : List Operation
  events : List Event
deriving Inhabited, Repr

namespace Members

/-- The names of all members, operations first. -/
def names (members : Members) : List String :=
  members.operations.map Operation.name ++ members.events.map Event.name

/-- Every type that the members refer to, those of the operations first. -/
def types (members : Members) : List TypeRef :=
  members.operations.flatMap Operation.types ++ members.events.flatMap Event.types

end Members

/-- The operations and the events of a service. -/
def Service.members (service : Service) : Members where
  operations :=
    (service.methods.filter (Method.isOperation (service.events.map Event.name))).map fun method =>
      ⟨method.name, method.params, method.returnType⟩
  events := service.events

end ServiceStubs
