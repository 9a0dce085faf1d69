import ServiceStubs.Writing.Emission

/-!
# TypeScript documents

The constructs that a generated text is made of. Each construct is written on lines of its own,
and a file may stand inside another file. Names and types are written as they are: nothing in
them is quoted or escaped.
-/

namespace ServiceStubs.Document

open Writing

/-- A named and typed argument. -/
structure Argument where
  name : String
  type : String
deriving DecidableEq, Repr, Inhabited

/-- The text of an argument in an argument list. -/
def Argument.declaration (argument : Argument) : String := argument.name ++ ": " ++ argument.type

/-- The text of an argument list without its parentheses. -/
def argumentList (arguments : List Argument) : String :=
  Text.commaJoined (arguments.map Argument.declaration)

/-- A whole module imported under a name. -/
structure Import where
  name : String
  source : String
deriving DecidableEq, Repr, Inhabited

/-- A field of an interface. -/
structure Field where
  name : String
  type : String
deriving DecidableEq, Repr, Inhabited

/-- A method of an interface. -/
structure MethodSignature where
  name : String
  arguments : List Argument
  returnType : String
deriving DecidableEq, Repr, Inhabited

/-- A member that registers a callback taking the parameters of an event. -/
structure EventSignature where
  name : String
  arguments : List Argument
deriving DecidableEq, Repr, Inhabited

/-- An interface with its members. -/
structure Interface where
  name : String
  methods : List MethodSignature := []
  events : List EventSignature := []
  fields : List Field := []
  typeParameters : List String := []
deriving DecidableEq, Repr, Inhabited

/-- An enumeration with its members. -/
structure Enum where
  name : String
  members : List String
deriving DecidableEq, Repr, Inhabited

/-- A constant without a written type. -/
structure Constant where
  name : String
  expression : String
deriving DecidableEq, Repr, Inhabited

/-- A constant with a written type. -/
structure TypedConstant where
  name : String
  type : String
  expression : String
deriving DecidableEq, Repr, Inhabited

/-- A construct of a document. -/
inductive Node
  | imported (node : Import)
  | field (node : Field)
  | method (node : MethodSignature)
  | event (node : EventSignature)
  | interface (node : Interface)
  | enum (node : Enum)
  | constant (node : Constant)
  | typedConstant (node : TypedConstant)
  /-- The list of exported names; an empty list is not written. -/
  | export (names : List String)
  /-- Imports, constructs each followed by an empty line, and the list of exported names. -/
  | file (imports : List Import) (contents : List Node) (exports : List String)
deriving Inhabited

/-- The text of an import. -/
def Import.statement (node : Import) : String :=
  "import * as " ++ node.name ++ " from \"" ++ node.source ++ "\";"

/-- The line of a field. -/
def Field.member (node : Field) : String := node.name ++ ": " ++ node.type ++ ";"

/-- The line of a method. -/
def MethodSignature.member (node : MethodSignature) : String :=
  node.name ++ "(" ++ argumentList node.arguments ++ "): " ++ node.returnType ++ ";"

/-- The line of an event. -/
def EventSignature.member (node : EventSignature) : String :=
  node.name ++ "(callback: (" ++ argumentList node.arguments ++ ") => void): void;"

/-- The text before the body of an interface. -/
def Interface.header (node : Interface) : String :=
  let parameters :=
    if node.typeParameters.isEmpty then ""
    else "<" ++ Text.commaJoined node.typeParameters ++ ">"
  "interface " ++ node.name ++ parameters ++ " "

/-- The lines of the members of an interface: methods, events, fields. -/
def Interface.members (node : Interface) : List String :=
  node.methods.map MethodSignature.member ++ node.events.map EventSignature.member ++
    node.fields.map Field.member

/-- The text before the body of an enumeration. -/
def Enum.header (node : Enum) : String := "enum " ++ node.name ++ " "

/-- The lines of the members of an enumeration. -/
def Enum.lines (node : Enum) : List String := node.members.map (· ++ ",")

/-- The text of a constant. -/
def Constant.statement (node : Constant) : String :=
  "const " ++ node.name ++ " = " ++ node.expression ++ ";"

/-- The text of a constant with a type. -/
def TypedConstant.statement (node : TypedConstant) : String :=
  "const " ++ node.name ++ ": " ++ node.type ++ " = " ++ node.expression ++ ";"

/-- The text of a list of exported names. -/
def exportStatement (names : List String) : String :=
  "export \x7b " ++ Text.commaJoined names ++ " \x7d;"

/-- Lines in order. -/
def lines (layout : Layout) (texts : List String) : Emission :=
  .sequence (texts.map (line layout))

/-- A header and a block with a line for each member. -/
def membersBlock (layout : Layout) (header : String) (members : List String) : Emission :=
  write layout header ++ block layout (lines layout members)

/-- Write a list of exported names unless it is empty. -/
def exportEmission (layout : Layout) (names : List String) : Emission :=
  if names.isEmpty then .nothing else line layout (exportStatement names)

/-- Write imports, and an empty line if there are any. -/
def importsEmission (layout : Layout) (imports : List Import) : Emission :=
  if imports.isEmpty then .nothing
  else lines layout (imports.map Import.statement) ++ newLine layout

mutual

/-- Write a construct. -/
def Node.emission (layout : Layout) : Node → Emission
  | .imported node => line layout node.statement
  | .field node => line layout node.member
  | .method node => line layout node.member
  | .event node => line layout node.member
  | .interface node => membersBlock layout node.header node.members
  | .enum node => membersBlock layout node.header node.lines
  | .constant node => line layout node.statement
  | .typedConstant node => line layout node.statement
  | .export names => exportEmission layout names
  | .file imports contents exports =>
    importsEmission layout imports ++ contentsEmission layout contents ++
      exportEmission layout exports

/-- Write constructs, an empty line after each. -/
def contentsEmission (layout : Layout) : List Node → Emission
  | [] => .nothing
  | node :: rest => node.emission layout ++ newLine layout ++ contentsEmission layout rest

end

/-- Constructs written one after another. -/
def emissionOfAll (layout : Layout) (nodes : List Node) : Emission :=
  .sequence (nodes.map (Node.emission layout))

/-- The text of constructs written one after another, or the fault of a line that cannot be
indented. -/
def render (layout : Layout) (nodes : List Node) : Except Source.Fault String :=
  (emissionOfAll layout nodes).text

end ServiceStubs.Document
