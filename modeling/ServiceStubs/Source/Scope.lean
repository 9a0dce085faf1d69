import ServiceStubs.Source.Memory
import ServiceStubs.Source.StandardNames

/-!
# Scopes

What a name stands for depends on where it stands. At the top of a module it is a name of the
module or a built-in one; the body of a class sees what it has bound before these. A string that
annotates a field sees the attributes of the class after the names of the module, and functions
and comprehensions inside such a string see the attributes alone. Functions without a name and
comprehensions have places of their own for the names that they bind.
-/

namespace ServiceStubs.Source

/-! ## Names of a module -/

/-- The attribute of a module, or of a class, that holds the built-in names. -/
def builtinsName : String := "__builtins__"

/-- The attributes of a module that it does not bind itself. -/
def Module.ownAttribute (module : Module) (name : String) : Option Value :=
  match name with
  | "__name__" => some (.ofText module.name)
  | "__doc__" | "__package__" | "__loader__" | "__spec__" => some .nothing
  | "__builtins__" => some (.object "dict" "\x7b\x7d")
  | _ => none

/-- The meaning of a name at the top of a module. -/
def Module.global? (module : Module) (name : String) : Option Value :=
  (module.names.get? name).or (module.ownAttribute name)

/-- A module with the names that expressions have bound at its top. -/
def Module.withBound (module : Module) (memory : Memory) : Module :=
  let bound := memory.bound.entries.filterMap fun entry =>
    if entry.1.1 = 0 then some (entry.1.2, entry.2) else none
  if bound.isEmpty then module else { module with names := module.names.putAll bound }

/-! ## Scopes -/

/-- What is around a place in a module. -/
inductive Outline
  /-- The top of a module while it is executed. -/
  | top
  /-- Wherever only the names of the module are seen. -/
  | module
  /-- The body of a class that has bound some names. -/
  | body (className : String) (attributes : OrderedMap String Value)
  /-- A string that annotates a field of a class. -/
  | attributesOf (owner : ClassValue)
deriving Inhabited

/-- A place in a module. -/
structure Scope where
  outline : Outline
  /-- Where functions and comprehensions around the place bind names, the innermost first. -/
  places : List Nat := []
  /-- Where an expression binds a name on the way, if it is kept. -/
  home : Option Nat := some 0
deriving Inhabited

namespace Scope

/-- A written name as it is bound; the body of a class changes its private names. -/
def bound (scope : Scope) (name : String) : String :=
  match scope.outline with
  | .body className _ => privateName className name
  | _ => name

/-- Whether whatever a string stands for here, it stands for elsewhere too. -/
def isLasting (scope : Scope) : Bool := scope.outline matches .module

/-- What is around a function or a comprehension at a place. -/
def surroundings (scope : Scope) : Surroundings :=
  match scope.outline with
  | .attributesOf owner => .attributesOf owner
  | _ => .module

end Scope

/-- The scope within some surroundings, with places for names. -/
def Surroundings.scope (surroundings : Surroundings) (places : List Nat) (home : Option Nat) :
    Scope where
  outline := match surroundings with
    | .module => .module
    | .attributesOf owner => .attributesOf owner
  places
  home

/-! ## Meanings -/

/-- The meaning of a built-in name in a table that may have been put in the place of theirs. -/
def builtinIn (table : Option Value) (name : String) : Except Fault (Option Value) :=
  match table with
  | none | some (.object "dict" _) => .ok (builtin? name)
  | some (.dictionary entries) =>
    .ok ((entries.find? fun entry =>
      entry.1.quotation?.any fun quotation => quotation.text = name).map Prod.snd)
  | some value => .error (.notIndexed value.typeName "str")

namespace Module

/-- The names at the top of a module while it is executed. -/
def topScope : Scope := { outline := .top }

/-- The names that are seen in all of a module. -/
def scope : Scope := { outline := .module }

/-- The names in a string that annotates a field of a class. -/
def fieldScope (owner : ClassValue) : Scope := { outline := .attributesOf owner }

/-- The meaning of a name at the top of the module that a class says to be of. -/
def globalOf? (module : Module) (owner : ClassValue) (name : String) : Option Value :=
  if owner.moduleName = module.name then module.global? name
  else match module.others.lookup owner.moduleName with
    | some names => names.get? name
    | none => standardName? owner.moduleName name

/-- The meaning that a name has outside of the functions and comprehensions around it. -/
def outerMeaning (module : Module) (outline : Outline) (isNested : Bool) (name : String) :
    Except Fault (Option Value) :=
  let ofModule (own : Option Value) : Except Fault (Option Value) :=
    match own.or (module.global? name) with
    | some value => .ok (some value)
    | none => builtinIn (module.names.get? builtinsName) name
  match outline with
  | .top => .ok ((module.global? name).or (builtin? name))
  | .module => ofModule none
  | .body _ attributes => ofModule (attributes.get? name)
  | .attributesOf owner =>
    let outer := if isNested then none else module.globalOf? owner name
    match outer.or (module.ownAttribute? owner name) with
    | some value => .ok (some value)
    | none => builtinIn (module.ownAttribute? owner builtinsName) name

/-- The meaning of a name at a place. -/
def meaning? (module : Module) (memory : Memory) (scope : Scope) (name : String) :
    Except Fault (Option Value) :=
  match memory.boundAt? scope.places name with
  | some value => .ok (some value)
  | none => (module.withBound memory).outerMeaning scope.outline (!scope.places.isEmpty) name

/-- The meaning of a written name at a place, which has to have one. -/
def lookUp (module : Module) (scope : Scope) (name : String) : Evaluating Value := do
  match ← .ofExcept (module.meaning? (← get) scope (scope.bound name)) with
  | some value => return value
  | none => throw (.undefinedName (scope.bound name))

end Module

end ServiceStubs.Source
