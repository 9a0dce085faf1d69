import ServiceStubs.Source.Expression

/-!
# Parameters as they are written

A function lists its parameters. A slash makes those before it positional alone, a star those after
it keywords alone, and a star or two before a name take what is left over. The list is arranged
into parameters, each with its kind, or refused for what stands out of order.
-/

namespace ServiceStubs.Source

/-- What stands between the commas of a list of parameters. -/
inductive ParameterPiece
  /-- A name, with an annotation and a value for want of another. -/
  | plain (name : String) (type default : Option Expression)
  /-- Names before it are positional alone. -/
  | slash
  /-- Names after it are keywords alone. -/
  | star
  /-- Takes all further positional arguments. -/
  | rest (name : String) (type : Option Expression)
  /-- Takes all further keyword arguments. -/
  | keywords (name : String) (type : Option Expression)
deriving Inhabited, Repr

/-- A parameter with the expressions that it is written with. -/
structure WrittenParameter where
  name : String
  kind : ParameterKind := .positional
  type : Option Expression := none
  default : Option Expression := none
deriving Inhabited, Repr

/-- A parameter without the expressions that it is written with. -/
def WrittenParameter.plain (parameter : WrittenParameter) : Parameter :=
  ⟨parameter.name, parameter.kind, parameter.default.isSome⟩

/-- Parameters in front of a place of their list. -/
structure ParameterArrangement where
  parameters : List WrittenParameter := []
  /-- A slash came. -/
  hasSlash : Bool := false
  /-- A star came, or a name that takes the rest. -/
  hasStar : Bool := false
  /-- The last piece is a star alone. -/
  isBare : Bool := false
  /-- A name that takes all further keywords came. -/
  isClosed : Bool := false

/-- What is said of a star that no name follows. -/
def bareStarMessage : String := "named arguments must follow bare *"

namespace ParameterArrangement

/-- Add a parameter. -/
def add (before : ParameterArrangement) (parameter : WrittenParameter) : ParameterArrangement :=
  { before with parameters := before.parameters ++ [parameter], isBare := false }

/-- Add a piece, or tell what is wrong with it. -/
def put (before : ParameterArrangement) (piece : ParameterPiece) :
    Except String ParameterArrangement :=
  if before.isClosed then .error "arguments cannot follow var-keyword argument"
  else match piece with
    | .plain name type default =>
      if before.hasStar then .ok (before.add { name, kind := .keywordOnly, type, default })
      else if default.isNone && before.parameters.any fun earlier => earlier.default.isSome then
        .error "non-default argument follows default argument"
      else .ok (before.add { name, type, default })
    | .slash =>
      if before.hasSlash then .error "/ may appear only once"
      else if before.hasStar then .error "/ must be ahead of *"
      else if before.parameters.isEmpty then .error "at least one argument must precede /"
      else .ok { before with
        hasSlash := true
        parameters := before.parameters.map fun parameter =>
          { parameter with kind := .positionalOnly } }
    | .star =>
      if before.hasStar then .error "* argument may appear only once"
      else .ok { before with hasStar := true, isBare := true }
    | .rest name type =>
      if before.hasStar then .error "* argument may appear only once"
      else .ok { before.add { name, kind := .restPositional, type } with hasStar := true }
    | .keywords name type =>
      if before.isBare then .error bareStarMessage
      else .ok { before.add { name, kind := .restKeyword, type } with isClosed := true }

end ParameterArrangement

/-- The parameters of a list, or what is wrong with it. -/
def arrangedParameters (pieces : List ParameterPiece) : Except String ParameterArrangement :=
  pieces.foldlM ParameterArrangement.put {}

/-- The first name that two of some parameters have. -/
def repeatedParameter? : List WrittenParameter → Option String
  | [] => none
  | parameter :: rest =>
    if rest.any fun other => other.name = parameter.name then some parameter.name
    else repeatedParameter? rest

end ServiceStubs.Source
