import ServiceStubs.Datum

/-!
# Declarations of a Python module

The part of a Python module that matters to stubs: classes with annotated fields and methods, type
variables, aliases, and plain names. Annotations are kept as they are written; what they mean
depends on where and when they are evaluated.
-/

namespace ServiceStubs.Source

/-- An annotation as it is written. -/
inductive Annotation
  /-- A word of the vocabulary of annotations, or an expression of names. -/
  | name (text : String)
  /-- A subscription. -/
  | apply (origin : Annotation) (arguments : List Annotation)
  /-- An annotation inside a string. -/
  | quoted (inner : Annotation)
  /-- A string that need not hold an annotation. -/
  | quotedText (text : String)
  /-- `Union[...]`. -/
  | union (members : List Annotation)
  /-- `Optional[...]`. -/
  | optional (member : Annotation)
  /-- Annotations with bars between them. -/
  | alternatives (members : List Annotation)
  /-- `Literal[...]`. -/
  | literal (values : List Datum)
  /-- `Callable[[...], ...]`. -/
  | callable (arguments : List Annotation) (result : Annotation)
  /-- `Annotated[..., note]`. -/
  | annotated (inner : Annotation) (note : String)
deriving Inhabited, Repr

/-- How an argument can be passed to a parameter. -/
inductive ParameterKind
  | positionalOnly
  | positional
  | keywordOnly
  /-- Takes all further positional arguments. -/
  | restPositional
  /-- Takes all further keyword arguments. -/
  | restKeyword
deriving DecidableEq, Repr, Inhabited

/-- A parameter of a function. -/
structure Parameter where
  name : String
  kind : ParameterKind := .positional
  /-- The parameter can do without a value. -/
  hasDefault : Bool := false
deriving DecidableEq, Inhabited, Repr

/-- A parameter as it is written. -/
structure ParameterSyntax where
  name : String
  /-- The annotation, if there is one. -/
  type : Option Annotation := none
  kind : ParameterKind := .positional
  /-- The parameter can do without a value. -/
  hasDefault : Bool := false
deriving Inhabited, Repr

/-- A decorator of a method. -/
inductive Decorator
  | event
  | staticMethod
  | classMethod
  | property
  | abstractMethod
  | cachedProperty
deriving DecidableEq, Repr, Inhabited

/-- What a class is made with beside its bases. -/
inductive Style
  | plain
  | dataclass
  | typedDict
  | namedTuple
  | protocol
  | abstractBase
  | enum
  | intEnum
  | strEnum
  | flag
deriving DecidableEq, Repr, Inhabited

/-- An item of a class body. -/
inductive Item
  /-- An annotated name; a default makes it an attribute too. -/
  | field (name : String) (type : Annotation) (hasDefault : Bool)
  /-- A function. The parameters are all written ones; decorators are outermost first. -/
  | method (name : String) (parameters : List ParameterSyntax) (returns : Option Annotation)
    (decorators : List Decorator)
  /-- A name bound to a function without annotations. -/
  | lambda (name : String) (parameters : List String)
  /-- A name bound to a plain value. -/
  | plain (name : String) (value : Datum)
  /-- A name bound to what a path of names leads to. -/
  | rebound (name target : String)
  /-- A member of an enumeration. -/
  | member (name : String) (value : Datum)
  /-- A class inside the class. -/
  | nested (name : String) (style : Style) (bases : List Annotation) (generic : List String)
    (body : List Item)
deriving Inhabited

/-- A declaration of a module. -/
inductive Declaration
  /-- A type variable, bound to a name that may differ from its own. -/
  | typeVariable (binding name : String)
  /-- A new type over an annotation. -/
  | newType (name : String) (type : Annotation)
  /-- A name bound to what an annotation evaluates to. -/
  | typeAlias (name : String) (type : Annotation)
  /-- A function of the module. -/
  | function (name : String)
  /-- A name bound to a plain value. -/
  | constant (name : String) (value : Datum)
  /-- An exception that is raised when the module is executed. -/
  | raised (kind message : String)
  /-- A class; `generic` names the type variables it is generic in. -/
  | classDeclared (name : String) (style : Style) (bases : List Annotation)
    (generic : List String) (body : List Item)
deriving Inhabited

end ServiceStubs.Source
