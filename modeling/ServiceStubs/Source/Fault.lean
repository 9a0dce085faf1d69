import ServiceStubs.Error
import ServiceStubs.Source.Refusal

/-!
# Faults of the host

What goes wrong when a module is executed or one of its annotations is evaluated. The families of
Python's exceptions matter, because some are told as failures of stub generation and the others
end the run as they are.
-/

namespace ServiceStubs.Source

/-- What stands in the way of a file operation. -/
inductive Obstacle
  /-- A file or a directory on the way does not exist. -/
  | missing
  /-- A directory is to be made where there is something already. -/
  | exists
  /-- Something on the way is no directory. -/
  | notDirectory
  /-- A directory stands where a file is meant. -/
  | directory
  /-- A name on the way is too long. -/
  | nameTooLong
deriving DecidableEq, Repr, Inhabited

namespace Obstacle

/-- The number of an obstacle among the errors of the system. -/
def number : Obstacle → Nat
  | missing => 2
  | .exists => 17
  | notDirectory => 20
  | directory => 21
  | nameTooLong => 36

/-- What the system says of an obstacle. -/
def text : Obstacle → String
  | missing => "No such file or directory"
  | .exists => "File exists"
  | notDirectory => "Not a directory"
  | directory => "Is a directory"
  | nameTooLong => "File name too long"

/-- The name of the family of exceptions for an obstacle. -/
def kind : Obstacle → String
  | missing => "FileNotFoundError"
  | .exists => "FileExistsError"
  | notDirectory => "NotADirectoryError"
  | directory => "IsADirectoryError"
  | nameTooLong => "OSError"

end Obstacle

/-- An exception of the host. -/
inductive Fault
  /-- A name is bound nowhere. -/
  | undefinedName (name : String)
  /-- A class has no such attribute. -/
  | missingAttribute (owner attributeName : String)
  /-- A value of a type has no such attribute. -/
  | missingValueAttribute (typeName attributeName : String)
  /-- A form or an enumeration has no such attribute, of which only the name is told. -/
  | hiddenAttribute (attributeName : String)
  /-- A module binds no such name. -/
  | missingName (moduleName attributeName : String)
  /-- An attribute of the values of a type cannot be set. -/
  | readOnlyAttribute (typeName attributeName : String)
  /-- A named tuple defines the attribute itself. -/
  | reservedAttribute (attributeName : String)
  /-- An attribute of a class cannot be set. -/
  | lockedAttribute (message : String)
  /-- A quoted annotation is not an expression. -/
  | notAnExpression (text : String)
  /-- A quoted annotation is empty. -/
  | emptyText
  /-- A text holds a character that ends texts. -/
  | nullCharacter
  /-- The text of a file is no code. -/
  | brokenText (fileName : String) (refusal : Refusal)
  /-- An operation is applied to a value of a wrong type. -/
  | wrongType (message : String)
  /-- A value is not acceptable. -/
  | wrongValue (message : String)
  /-- A collection has no value for the given key. -/
  | missingKey (key : String)
  /-- A sequence has no value at the given place. -/
  | missingItem (message : String)
  /-- Something is divided by zero. -/
  | zeroDivision (message : String)
  /-- A number is too great for its use. -/
  | tooGreat (message : String)
  /-- An attribute that has to know its name is bound to two names. -/
  | misnamed (message : String)
  /-- A module does not exist. -/
  | missingModule (message : String)
  /-- Texts are evaluated, or classes are entered, within each other too often. -/
  | tooDeep
  /-- A file operation on a path cannot be done. -/
  | blocked (obstacle : Obstacle) (path : String)
  /-- An exception that a module raises itself, with the names of its classes, its own first. -/
  | raised (lineage : List String) (message : String)
  /-- No exception of the host: what a text asks for is not executed here, so nothing is known of
  what comes after it. -/
  | unexecuted (construct : String)
deriving DecidableEq, Repr, Inhabited

namespace Fault

/-- The name of the family of an exception. -/
def kind : Fault → String
  | undefinedName _ => "NameError"
  | missingAttribute _ _ | missingValueAttribute _ _ | missingName _ _ | hiddenAttribute _
  | readOnlyAttribute _ _ | reservedAttribute _ | lockedAttribute _ => "AttributeError"
  | notAnExpression _ => "SyntaxError"
  | brokenText _ refusal => refusal.flaw.kind
  | emptyText | missingItem _ => "IndexError"
  | wrongType _ => "TypeError"
  | wrongValue _ | nullCharacter => "ValueError"
  | missingKey _ => "KeyError"
  | zeroDivision _ => "ZeroDivisionError"
  | tooGreat _ => "OverflowError"
  | misnamed _ => "RuntimeError"
  | missingModule _ => "ModuleNotFoundError"
  | tooDeep => "RecursionError"
  | blocked obstacle _ => obstacle.kind
  | raised lineage _ => lineage.headD "Exception"
  | unexecuted _ => "NotExecuted"

/-- What an exception says. -/
def message : Fault → String
  | undefinedName name => "name '" ++ name ++ "' is not defined"
  | missingAttribute owner attributeName =>
    "type object '" ++ owner ++ "' has no attribute '" ++ attributeName ++ "'"
  | missingValueAttribute typeName attributeName =>
    "'" ++ typeName ++ "' object has no attribute '" ++ attributeName ++ "'"
  | missingName moduleName attributeName =>
    "module '" ++ moduleName ++ "' has no attribute '" ++ attributeName ++ "'"
  | hiddenAttribute attributeName => attributeName
  | readOnlyAttribute typeName attributeName =>
    "attribute '" ++ attributeName ++ "' of '" ++ typeName ++ "' objects is not writable"
  | reservedAttribute attributeName => "Cannot overwrite NamedTuple attribute " ++ attributeName
  | notAnExpression text =>
    "Forward reference must be an expression -- got " ++ Text.quoted text
  | emptyText => "string index out of range"
  | nullCharacter => "source code string cannot contain null bytes"
  | brokenText fileName refusal => refusal.told fileName
  | lockedAttribute message | wrongType message | wrongValue message | missingItem message
  | zeroDivision message | tooGreat message | misnamed message | missingModule message => message
  | missingKey key => key
  | tooDeep => "maximum recursion depth exceeded"
  | blocked obstacle path =>
    "[Errno " ++ toString obstacle.number ++ "] " ++ obstacle.text ++ ": " ++ Text.quoted path
  | raised _ message => message
  | unexecuted construct => construct ++ " is not executed"

/-- Whether an exception of an annotation is told as a failure to evaluate annotations. -/
def isEvaluationFailure (fault : Fault) : Bool :=
  fault.kind = "NameError" || fault.kind = "TypeError"

/-- Whether an exception says that a module cannot be imported. -/
def isImportFailure : Fault → Bool
  | missingModule _ => true
  | raised lineage _ => lineage.contains "ImportError"
  | _ => false

/-- Whether a fault is an exception of the host, which a handler can take. -/
def isException : Fault → Bool
  | unexecuted _ => false
  | _ => true

/-- Whether an exception is a failure of a program, and no request to stop it. -/
def isOrdinary : Fault → Bool
  | raised lineage _ => lineage.contains "Exception"
  | unexecuted _ => false
  | _ => true

/-- The fault of a value that is no key. -/
def notKey (typeName : String) : Fault :=
  wrongType ("unhashable type: '" ++ typeName ++ "'")

/-- The fault of brackets after a value of a type, when what stands in them is of another type than
the keys of its items, or when it has no items. -/
def notIndexed (typeName keyType : String) : Fault :=
  wrongType (
    if typeName = "str" then "string indices must be integers, not '" ++ keyType ++ "'"
    else if ["list", "tuple", "range", "bytearray"].contains typeName then
      typeName ++ " indices must be integers or slices, not " ++ keyType
    else if typeName = "bytes" then "byte indices must be integers or slices, not " ++ keyType
    else "'" ++ typeName ++ "' object is not subscriptable")

/-- The fault of a value that cannot be looked through. -/
def notIterable (typeName : String) : Fault :=
  wrongType ("'" ++ typeName ++ "' object is not iterable")

/-- The fault of a class or another value without a use. -/
def notCallable (typeName : String) : Fault :=
  wrongType ("'" ++ typeName ++ "' object is not callable")

end Fault

/-- Why a request on host modules fails: with a failure that the generator tells, or with an
exception of the host. -/
inductive Failure
  | stub (error : StubError)
  | host (fault : Fault)
deriving Inhabited

end ServiceStubs.Source
