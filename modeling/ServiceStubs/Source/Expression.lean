import ServiceStubs.Source.Declaration

/-!
# Expressions

What stands in code where a value is meant: names, plain values, attributes, brackets, calls,
operators, and forms that make a value of other ones. Whether an expression can be bound to a
value depends on its form alone.
-/

namespace ServiceStubs.Source

/-- What a comprehension makes of its items. -/
inductive Collection
  | list
  | set
  | dictionary
  /-- Its items are made when they are asked for. -/
  | generator
deriving DecidableEq, Repr, Inhabited

/-- An expression. -/
inductive Expression
  | name (name : String)
  | constant (value : Datum)
  | ellipsis
  /-- Bytes, as the characters of their codes. -/
  | bytes (content : String)
  /-- A number times the imaginary unit. -/
  | imaginary (value : Dyadic)
  /-- A text with the values of expressions in it. -/
  | formatted (parts : List Expression)
  /-- A value in a text: how its displayed form is made, if not as usual, and how the form is laid
  out. -/
  | field (value : Expression) (conversion : Option Char) (layout : List Expression)
  | attribute (owner : Expression) (name : String)
  /-- Brackets after a value. -/
  | subscript (owner index : Expression)
  /-- A part of a sequence, by its ends and its step; what is missing is none. -/
  | slice (lower upper step : Option Expression)
  | call (function : Expression) (arguments : List Expression)
  /-- An argument with the name of its parameter. -/
  | keyword (name : String) (value : Expression)
  /-- The entries of a value in the place of one. -/
  | entries (operand : Expression)
  | tuple (items : List Expression)
  | list (items : List Expression)
  | set (items : List Expression)
  /-- Keys, each with its value after it. -/
  | dictionary (items : List Expression)
  | unary (operator : String) (operand : Expression)
  | binary (operator : String) (left right : Expression)
  /-- Operands with comparisons between neighbours. -/
  | compared (operands : List Expression) (operators : List String)
  | conditional (test whenTrue whenFalse : Expression)
  /-- The values of a value in the place of one. -/
  | spread (operand : Expression)
  /-- A function without a name: its parameters, the values that some of them have unless others
  are given, and what it gives. -/
  | lambda (parameters : List Parameter) (defaults : List Expression) (body : Expression)
  /-- What is made of an expression, within clauses that bind names in it. -/
  | comprehension (collection : Collection) (item : Expression) (clauses : List Expression)
  /-- A target is bound to each item of a source for which conditions hold. -/
  | clause (target source : Expression) (conditions : List Expression)
  /-- A value that is bound to a name on the way. -/
  | named (name : String) (value : Expression)
  /-- On a line, a function is left for a while, with a word and a value. -/
  | suspended (line : Nat) (word : String) (operand : Option Expression)
deriving Inhabited, Repr

namespace Expression

/-- The word for the form of an expression. -/
def formWord : Expression → String
  | name _ => "name"
  | constant (.missing) => "None"
  | constant (.flag value) => if value then "True" else "False"
  | constant _ | bytes _ | imaginary _ => "literal"
  | ellipsis => "ellipsis"
  | formatted _ | .field _ _ _ => "f-string expression"
  | .attribute _ _ => "attribute"
  | subscript _ _ => "subscript"
  | slice _ _ _ => "slice"
  | call _ _ => "function call"
  | keyword _ _ | entries _ | spread _ => "starred"
  | tuple _ => "tuple"
  | list _ => "list"
  | set _ => "set display"
  | dictionary _ => "dict literal"
  | unary _ _ | binary _ _ _ => "expression"
  | compared _ _ => "comparison"
  | conditional _ _ _ => "conditional expression"
  | lambda _ _ _ => "lambda"
  | comprehension .list _ _ => "list comprehension"
  | comprehension .set _ _ => "set comprehension"
  | comprehension .dictionary _ _ => "dict comprehension"
  | comprehension .generator _ _ | clause _ _ _ => "generator expression"
  | named _ _ => "named expression"
  | suspended _ word _ => (if word = "await" then "await" else "yield") ++ " expression"

/-- Whether an expression is a place that a value can be bound to: a name, an attribute, or
brackets after a value. -/
def isPlace : Expression → Bool
  | name _ | .attribute _ _ | subscript _ _ => true
  | _ => false

/-- What is done to the places of an expression. -/
inductive Binding
  | assigned
  /-- Bound to each item in turn. -/
  | looped
  | deleted
deriving DecidableEq, Repr

mutual

/-- The part of an expression that nothing can be bound to, if there is one. -/
def unboundPart? (binding : Binding) : Expression → Option Expression
  | tuple items => unboundPartOf? binding items
  | list items => unboundPartOf? binding items
  | spread operand =>
    if binding = .deleted then some (spread operand) else unboundPart? binding operand
  | compared operands operators =>
    if binding = .looped && operators.head? = some "in" then unboundFirst? binding operands
    else if binding = .looped then none
    else some (compared operands operators)
  | expression => if expression.isPlace then none else some expression

/-- The first part of some expressions that nothing can be bound to. -/
def unboundPartOf? (binding : Binding) : List Expression → Option Expression
  | [] => none
  | item :: rest => (unboundPart? binding item).or (unboundPartOf? binding rest)

/-- The part of the first of some expressions that nothing can be bound to. -/
def unboundFirst? (binding : Binding) : List Expression → Option Expression
  | [] => none
  | item :: _ => unboundPart? binding item

end

end Expression

end ServiceStubs.Source
