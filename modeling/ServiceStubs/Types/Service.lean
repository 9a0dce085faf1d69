import ServiceStubs.Types.Graph

/-!
# Services

The public surface of a service: its methods and its events, with the types they refer to, as a
host reports them and before anything is selected.
-/

namespace ServiceStubs

/-- A parameter of a method or an event. -/
structure Param where
  name : String
  type : TypeRef
deriving Inhabited, Repr

/-- A method as the host reports it. -/
structure Method where
  name : String
  returnType : TypeRef
  params : List Param := []
  /-- The host made this method for a purpose of its own. -/
  isSpecialName : Bool := false
deriving Inhabited, Repr

/-- An event; its parameters are those passed to subscribers. -/
structure Event where
  name : String
  params : List Param := []
deriving Inhabited, Repr

/-- The complete public surface of one service. -/
structure Service where
  name : String
  methods : List Method := []
  events : List Event := []
deriving Inhabited, Repr

end ServiceStubs
