import ServiceStubs.Source.Parameters

/-!
# Statements

What a text of code is made of, line by line: statements on lines of their own, and statements that
hold blocks of others. Where a statement may stand can depend on what holds it.
-/

namespace ServiceStubs.Source

/-- A statement. -/
inductive Statement
  /-- An expression for its own sake. -/
  | value (line : Nat) (value : Expression)
  | assigned (line : Nat) (targets : List Expression) (value : Expression)
  /-- An annotated place, which may be assigned a value. -/
  | annotated (line : Nat) (target type : Expression) (value : Option Expression)
  /-- An assignment of what an operator makes of the earlier value. -/
  | augmented (line : Nat) (target : Expression) (operator : String) (value : Expression)
  /-- Nothing is done. -/
  | nothing
  | returned (line : Nat) (value : Option Expression)
  /-- A loop is left or goes on, as a word says. -/
  | interrupted (line : Nat) (word : String)
  | raised (line : Nat) (error cause : Option Expression)
  | deleted (line : Nat) (targets : List Expression)
  | asserted (line : Nat) (test : Expression) (message : Option Expression)
  /-- Modules by their names, each with another name for it if it gets one. -/
  | imported (modules : List (String × Option String))
  /-- Names of a module, or all if none are told; dots before its name count levels. -/
  | gathered (line : Nat) (levels : Nat) (path : String)
    (names : Option (List (String × Option String)))
  /-- Names that belong to an outer place, as a word says. -/
  | outer (line : Nat) (word : String) (names : List String)
  | function (line : Nat) (isAsynchronous : Bool) (name : String)
    (parameters : List WrittenParameter) (returns : Option Expression)
    (decorators : List Expression) (body : List Statement)
  | classMade (line : Nat) (name : String) (arguments decorators : List Expression)
    (body : List Statement)
  /-- One of two blocks, as a test says. -/
  | choice (line : Nat) (test : Expression) (whenTrue whenFalse : List Statement)
  /-- A block again and again, and then another one. -/
  | loop (line : Nat) (isAsynchronous : Bool) (heads : List Expression)
    (body next : List Statement)
  /-- A block whose faults are handled. -/
  | guarded (body : List Statement) (handlers : List Statement) (next last : List Statement)
  /-- A block for faults of a kind, which may get a name. -/
  | handler (line : Nat) (kind : Option Expression) (name : Option String) (body : List Statement)
  /-- A block with what some values provide. -/
  | managed (line : Nat) (isAsynchronous : Bool) (values : List Expression)
    (body : List Statement)
  /-- The first of some blocks whose pattern fits a value. -/
  | cases (line : Nat) (subject : Expression) (blocks : List (List Statement))
deriving Inhabited, Repr

end ServiceStubs.Source
