import ServiceStubs.Source.Library.Tools
import ServiceStubs.Source.Library.Values
import ServiceStubs.Text.Lines

/-!
# Library classes

Classes of the standard library that are written in the language, so that plain functions are among
what they bind. The tables hold texts; here they are read. A function has its parameters in brackets
after its name, unless its name begins and ends with two underscores; a colon follows the name of
what is no function, and an equality sign that of a member of an enumeration.
-/

namespace ServiceStubs.Source

/-- What a library class binds under a name. -/
inductive LibraryBinding
  /-- A function, with its parameters if it may be an operation. -/
  | function (parameters : Option (List String))
  | member
  | other
deriving DecidableEq, Repr, Inhabited

/-- A class of the standard library that is written in the language. -/
structure LibraryClass where
  moduleName : String
  name : String
  /-- The modules and names of the classes that it derives from, `object` apart, in the order in
  which attributes are looked for. -/
  ancestors : List (String × String)
  bindings : List (String × LibraryBinding)
deriving Repr, Inhabited

namespace LibraryClass

/-- A class that it derives from, which is of its own module unless the module stands before it. -/
def ancestorOfText (moduleName text : String) : String × String :=
  match Text.pieces ':' text with
  | [other, name] => (other, name)
  | _ => (moduleName, text)

/-- A name and what is bound to it. -/
def bindingOfText (text : String) : String × LibraryBinding :=
  if Text.endsWith ":" text then ((Text.cutAtFirst ':' text).1, .other)
  else if Text.endsWith "=" text then ((Text.cutAtFirst '=' text).1, .member)
  else match Text.pieces '(' text with
    | [name, parameters] => (name, .function (some
        ((Text.pieces ',' (Text.cutAtFirst ')' parameters).1).filter (· ≠ ""))))
    | _ => (text, .function none)

/-- The words of a text. -/
def wordsOfText (text : String) : List String := (Text.pieces ' ' text).filter (· ≠ "")

/-- A class as a table tells it. -/
def ofRow (moduleName : String) : String × String × String → LibraryClass
  | (name, ancestors, bindings) =>
    { moduleName, name
      ancestors := (wordsOfText ancestors).map (ancestorOfText moduleName)
      bindings := (wordsOfText bindings).map bindingOfText }

/-- All library classes by their modules. -/
def all : List (String × List LibraryClass) :=
  (Library.valueClasses ++ Library.toolClasses).map fun (moduleName, rows) =>
    (moduleName, rows.map (ofRow moduleName))

/-- The library class of a name in a module. -/
def find? (moduleName name : String) : Option LibraryClass := do
  (← all.lookup moduleName).find? fun found => found.name = name

/-- The names of the members, if the class is an enumeration. -/
def members (value : LibraryClass) : List String :=
  (value.bindings.filter fun binding => binding.2 = .member).map Prod.fst

/-- The functions that may be operations, with their parameters. -/
def functions (value : LibraryClass) : List (String × List String) :=
  value.bindings.filterMap fun
    | (name, .function (some parameters)) => some (name, parameters)
    | _ => none

end LibraryClass

/-- The functions of all library classes that may be operations: the module and the name of the
class, and the name and the parameters of the function. -/
def libraryFunctions : List (String × String × String × List String) :=
  LibraryClass.all.flatMap fun (moduleName, classes) => classes.flatMap fun value =>
    value.functions.map fun (name, parameters) => (moduleName, value.name, name, parameters)

/-- The place of a function among those of all library classes. -/
def libraryFunctionPlace? (moduleName className name : String) : Option Nat := do
  let value ← LibraryClass.find? moduleName className
  let place ← value.functions.findIdx? fun entry => entry.1 = name
  let start ← libraryFunctions.findIdx? fun entry =>
    entry.1 = moduleName && entry.2.1 = className
  return start + place

end ServiceStubs.Source
