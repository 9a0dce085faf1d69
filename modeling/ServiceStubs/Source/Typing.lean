import ServiceStubs.Source.Display
import ServiceStubs.Source.Expression.Grammar
import ServiceStubs.Source.Memory

/-!
# Constructions of types

The rules by which constructions of types are made: unions are flattened and hold no value twice,
a union of one value is that value, an alias is applied to as many types as it takes, and a bar
between two values makes a union in one of its two forms. A construction that these rules refuse
is a fault. A construction with type variables can be applied to arguments for them.
-/

namespace ServiceStubs.Source

/-! ## Strings -/

/-- An expression in a text that is used as an annotation. A text that begins with a star stands
for the first of the values that it unpacks. -/
def Quotation.expression? (quotation : Quotation) : Option Expression :=
  if Text.opensWith "*" quotation.text then
    Expression.ofText? ("(" ++ quotation.text ++ ",)[0]")
  else Expression.ofText? quotation.text

/-- What keeps a string from being a reference. -/
def Quotation.check (quotation : Quotation) : Except Fault Unit :=
  if quotation.text.isEmpty then .error .emptyText
  else if quotation.text.toList.contains '\x00' then .error .nullCharacter
  else if quotation.expression?.isSome then .ok ()
  else .error (.notAnExpression quotation.text)

namespace Value

/-! ## Types -/

/-- Where a type is used. -/
structure Role where
  /-- What is said of several values in the place of a type. -/
  message : String
  /-- It annotates a field, where qualifiers may stand. -/
  isField : Bool := false
  /-- The module to which strings are tied, if they are. -/
  moduleName : Option String := none
deriving Repr

/-- A value where a type is meant: `None` stands for its class, and a string for a reference. -/
def converted (isField : Bool) (moduleName : Option String) (value : Value) : Evaluating Value :=
  match value.quotation?, value with
  | some quotation, .string _ => .refer Quotation.check { quotation, isField, moduleName }
  | some quotation, value => .refer Quotation.check
      { quotation, isField, moduleName, shown := some value.display, keyFlaw := value.keyFault? }
  | none, .constant .missing => pure noneType
  | none, value => pure value

/-- Several values where types are meant. -/
def convertedAll : List Value → Evaluating (List Value)
  | [] => pure []
  | value :: rest => do
    let type ← value.converted false none
    let types ← convertedAll rest
    return type :: types

/-- The qualifier that a construction says something with. -/
def qualifier? : Value → Option Qualifier
  | .qualified word _ | .annotated (.qualifier word) _ => some word
  | _ => none

/-- Whether the argument of a qualifier may be used where a type is meant. -/
def Role.admits (role : Role) : Qualifier → Bool
  | .classVar | .final => role.isField
  | .required | .notRequired => true

/-- The first characters of a text, as many as a message tells of a value. -/
def shortened (text : String) : String := String.ofList (text.toList.take 100)

/-- A value where a type is meant, if it may be used in the role. -/
def checked (role : Role) (value : Value) : Evaluating Value := do
  let type ← value.converted role.isField role.moduleName
  if type.qualifier?.any fun word => !role.admits word then
    throw (.wrongType (type.display ++ " is not valid as type argument"))
  match type with
  | .qualifier word =>
    if role.isField && (word = .classVar || word = .final) then return type
    else throw (.wrongType ("Plain " ++ word.text ++ " is not valid as type argument"))
  | .form name =>
    if typeForms.contains name then return type
    else throw (.wrongType ("Plain " ++ type.display ++ " is not valid as type argument"))
  | .templateOf (.standard .generic) _ | .templateOf (.standard .protocol) _ =>
    throw (.wrongType (type.display ++ " is not valid as type argument"))
  | .classValue (.standard .generic) | .classValue (.standard .protocol) =>
    throw (.wrongType ("Plain " ++ type.display ++ " is not valid as type argument"))
  | .tuple _ => throw (.wrongType (role.message ++ " Got " ++ shortened type.display ++ "."))
  | _ => return type

/-- Several values where types are meant. -/
def checkedAll (role : Role) : List Value → Evaluating (List Value)
  | [] => pure []
  | value :: rest => do
    let type ← value.checked role
    let types ← checkedAll role rest
    return type :: types

/-- The role of an argument of a generic type. -/
def argumentRole : Role where message := "Parameters to generic types must be types."

/-! ## Unions -/

/-- The alternatives of a union of either form, or the value itself. -/
def alternativesOf : Value → List Value
  | .union members | .alternatives members => members
  | value => [value]

/-- The union of some types in the form of `typing`. -/
def unionOf (types : List Value) : Evaluating Value := do
  if let some fault := firstKeyFault? types then throw fault
  match withoutRepetitions (← get).sameReference (types.flatMap alternativesOf) with
  | [type] => return type
  | types => return .union types

/-- The union of some values in the form of `typing`. -/
def makeUnion (values : List Value) : Evaluating Value :=
  .remembered .union values do
    if values.isEmpty then throw (.wrongType "Cannot take a Union of no types.")
    unionOf (← checkedAll { message := "Union[arg, ...]: each arg must be a type." } values)

/-- The union of a value and `None`. -/
def makeOptional (value : Value) : Evaluating Value :=
  .remembered .optional [value] do
    let type ← value.checked { message := "typing.Optional requires a single type." }
    makeUnion [type, noneType]

/-- Whether a bar before or after the value makes a union in the form of `typing`. -/
def isTypingForm : Value → Bool
  | .typeVariable _ | .newType _ _ _ | .qualifier _ | .bareAlias _ | .form _ | .reference _
  | .templateOf _ _ | .aliasOf _ _ | .qualified _ _ | .union _ | .literal _ | .callable _ _
  | .annotated _ _ => true
  | _ => false

/-- Whether the value can stand beside a bar between plain classes. -/
def isBarOperand : Value → Bool
  | .classValue _ | .builtinOf _ _ | .alternatives _ | .constant .missing => true
  | _ => false

/-- The fault of an operator between two values that it has no meaning for. -/
def operatorFault (operator : String) (left right : Value) : Fault :=
  .wrongType ("unsupported operand type(s) for " ++ operator ++ ": '" ++ left.typeName ++
    "' and '" ++ right.typeName ++ "'")

/-- Two values with a bar between them. Of alternatives that are plain classes, the same class is
kept once. -/
def bar (left right : Value) : Evaluating Value := do
  if left.isTypingForm || right.isTypingForm then return ← makeUnion [left, right]
  if !left.isBarOperand || !right.isBarOperand ||
      (left matches .constant _) && (right matches .constant _) then
    throw (operatorFault "|" left right)
  let flattened := (← convertedAll [left, right]).flatMap fun
    | .alternatives members => members
    | value => [value]
  match withoutRepetitions (← get).sameReference flattened with
  | [type] => return type
  | types => return .alternatives types

/-- Further values after a value, with bars between them. -/
def barWith (left : Value) : List Value → Evaluating Value
  | [] => pure left
  | right :: rest => do
    let joined ← left.bar right
    joined.barWith rest

/-- Values with bars between them. -/
def barAll : List Value → Evaluating Value
  | [] => throw (.wrongType "reduce() of empty iterable with no initial value")
  | value :: rest => value.barWith rest

/-! ## Other forms -/

/-- A form with a parameter list and a result. -/
def makeCallable (arguments : List Value) (result : Value) : Evaluating Value :=
  .remembered .callable (result :: arguments) do
    let result ← result.checked { message := "Callable[args, result]: result must be a type." }
    return .callable (← convertedAll arguments) result

/-- A type with notes; notes of one type are collected. A plain value is of no module and takes no
note. -/
def annotate (inner : Value) (notes : List String) : Evaluating Value :=
  match inner with
  | .annotated inner earlier => pure (.annotated inner (earlier ++ notes))
  | .constant datum => throw (.missingValueAttribute datum.typeName "__module__")
  | .ellipsis => throw (.missingValueAttribute inner.typeName "__module__")
  | inner => pure (.annotated inner notes)

/-- A value with a note. -/
def makeAnnotated (value : Value) (notes : List String) : Evaluating Value :=
  .remembered .annotated (value :: notes.map fun note => .string { text := note }) do
    let role : Role := { message := "Annotated[t, ...]: t must be a type.", isField := true }
    annotate (← value.checked role) notes

/-- Literal values. -/
def makeLiteral (values : List Datum) : Evaluating Value :=
  .remembered .literal (values.map ofDatum) do
    return .literal (literalsWithoutRepetitions values)

/-! ## Brackets after forms -/

/-- The fault of a wrong number of arguments. -/
def countFault (origin : String) (actual expected : Nat) : Fault :=
  .wrongType ("Too " ++ (if actual > expected then "many" else "few") ++ " arguments for " ++
    origin ++ "; actual " ++ toString actual ++ ", expected " ++ toString expected)

/-- The fault of brackets after something that is not generic. -/
def notGenericFault (origin : String) : Fault := .wrongType (origin ++ " is not a generic class")

/-- Whether a number of arguments is the expected one, which is not zero. -/
def checkCount (origin : String) (actual expected : Nat) : Evaluating Unit :=
  if expected = 0 then throw (notGenericFault origin)
  else if actual ≠ expected then throw (countFault origin actual expected)
  else pure ()

/-- The alias of what can be called applied to arguments. -/
def applyCallable : List Value → Evaluating Value
  | [.list parameters, result] | [.tuple parameters, result] => makeCallable parameters result
  | [parameter, result] => makeCallable [parameter] result
  | _ => throw (.wrongType "Callable must be used as Callable[[arg, ...], result].")

/-- An alias applied to arguments. -/
def applyAlias (word : TypingAlias) (arguments : List Value) : Evaluating Value :=
  if word.origin = .callable then applyCallable arguments
  else .remembered (.word word) arguments do
    match word.argumentCount? with
    | some expected =>
      let types ← checkedAll argumentRole arguments
      checkCount word.text types.length expected
      return .aliasOf word types
    | none =>
      match arguments.reverse with
      | .ellipsis :: first :: others =>
        let types ← checkedAll { message := "Tuple[t, ...]: t must be a type." }
          (first :: others).reverse
        return .aliasOf word (types ++ [.ellipsis])
      | _ =>
        return .aliasOf word
          (← checkedAll { message := "Tuple[t0, t1, ...]: each t must be a type." } arguments)

/-- What a qualifier says of several values in the place of its argument. -/
def qualifierMessage : Qualifier → String
  | .classVar | .final => " accepts only single type."
  | .required | .notRequired => " accepts only a single type."

/-- A qualifier applied to arguments. -/
def applyQualifier (word : Qualifier) (arguments : List Value) : Evaluating Value :=
  .remembered (.qualifier word) arguments do
    let name := match word with
      | .classVar | .final => word.text
      | .required | .notRequired => word.name
    let argument := match arguments with
      | [argument] => argument
      | arguments => .tuple arguments
    return .qualified word (← argument.checked { message := name ++ qualifierMessage word })

/-- A literal form of some values, in which those of other such forms stand for themselves. Of
values that are not plain only the displayed form is known. -/
def applyLiteral (arguments : List Value) : Evaluating Value :=
  let values := arguments.flatMap fun
    | .literal values => values.map ofDatum
    | value => [value]
  match values.mapM datum? with
  | some data => makeLiteral data
  | none => pure (.object "_LiteralGenericAlias"
      ("typing.Literal[" ++ Text.commaJoined (displays values) ++ "]"))

/-- A form applied to arguments. -/
def applyForm (name : String) (arguments : List Value) : Evaluating Value :=
  let form := Value.form name
  let single := match arguments with
    | [argument] => argument
    | arguments => .tuple arguments
  match name with
  | "Union" => makeUnion arguments
  | "Optional" => makeOptional single
  | "Literal" => applyLiteral arguments
  | "Concatenate" | "TypeGuard" | "Unpack" => do
    let types ← checkedAll { message := form.display ++ " accepts only a single type." } arguments
    return .object "_GenericAlias"
      (form.display ++ "[" ++ argumentsText (texts .form types) ++ "]")
  | _ => throw (.wrongType (form.display ++ " is not subscriptable"))

/-- A generic class applied to arguments, of which it takes a number. -/
def applyTemplate (origin : ClassValue) (expected : Nat) (arguments : List Value) :
    Evaluating Value :=
  .remembered (.template origin) arguments do
    let types ← convertedAll arguments
    checkCount origin.display types.length expected
    return .templateOf origin types

/-! ## Type variables -/

/-- Type variables joined to others, each once. -/
def joinVariables (left right : List TypeVariable) : List TypeVariable :=
  right.foldl (fun kept binder => if kept.contains binder then kept else kept ++ [binder]) left

mutual

/-- The type variables of a construction in order of first occurrence. -/
def freeVariables : Value → List TypeVariable
  | .typeVariable binder => [binder]
  | .builtinOf _ arguments | .templateOf _ arguments | .aliasOf _ arguments
  | .union arguments | .alternatives arguments => freeVariablesOfAll arguments
  | .qualified _ argument => argument.freeVariables
  | .callable arguments result =>
    joinVariables (freeVariablesOfAll arguments) result.freeVariables
  | .annotated inner _ => inner.freeVariables
  | _ => []

/-- The type variables of several values in order of first occurrence. -/
def freeVariablesOfAll : List Value → List TypeVariable
  | [] => []
  | value :: rest => joinVariables value.freeVariables (freeVariablesOfAll rest)

end

/-- The value that replaces a type variable. -/
def replacement (replacements : List (TypeVariable × Value)) (binder : TypeVariable) : Value :=
  ((replacements.find? fun entry => entry.1.index = binder.index).map Prod.snd).getD
    (.typeVariable binder)

/-- The replacements for some type variables, each turned into a type. -/
def convertedReplacements (replacements : List (TypeVariable × Value))
    (replaced : List TypeVariable) : Evaluating (List (TypeVariable × Value)) := do
  return replaced.zip (← convertedAll (replaced.map (replacement replacements)))

/-- A construction that is made again only if it has type variables to replace. In the forms of
`typing`, it is remembered by the construction and the replacements. -/
def rebuilt (construction : Value) (replacements : List (TypeVariable × Value))
    (make : List (TypeVariable × Value) → Evaluating Value) : Evaluating Value :=
  let replaced := construction.freeVariables
  if replaced.isEmpty then pure construction
  else .remembered .construction (construction :: replaced.map (replacement replacements)) do
    make (← convertedReplacements replacements replaced)

mutual

/-- A construction with its type variables replaced. -/
def substitute (replacements : List (TypeVariable × Value)) : Value → Evaluating Value
  | .typeVariable binder => (replacement replacements binder).checked argumentRole
  | .builtinOf origin arguments => do
    if (freeVariablesOfAll arguments).isEmpty then return .builtinOf origin arguments
    return .builtinOf origin (← substituteAll replacements arguments)
  | .alternatives members => do
    if (freeVariablesOfAll members).isEmpty then return .alternatives members
    barAll (← substituteAll replacements members)
  | .templateOf origin arguments =>
    rebuilt (.templateOf origin arguments) replacements fun replacements => do
      return .templateOf origin (← substituteAll replacements arguments)
  | .aliasOf word arguments =>
    rebuilt (.aliasOf word arguments) replacements fun replacements => do
      return .aliasOf word (← substituteAll replacements arguments)
  | .qualified word argument =>
    rebuilt (.qualified word argument) replacements fun replacements => do
      return .qualified word (← argument.substitute replacements)
  | .union members =>
    rebuilt (.union members) replacements fun replacements => do
      makeUnion (← substituteAll replacements members)
  | .callable arguments result =>
    rebuilt (.callable arguments result) replacements fun replacements => do
      let arguments ← substituteAll replacements arguments
      return .callable arguments (← result.substitute replacements)
  | .annotated inner notes =>
    rebuilt (.annotated inner notes) replacements fun replacements => do
      annotate (← inner.substitute replacements) notes
  | value => pure value

/-- Several constructions with their type variables replaced. -/
def substituteAll (replacements : List (TypeVariable × Value)) :
    List Value → Evaluating (List Value)
  | [] => pure []
  | value :: rest => do
    let first ← value.substitute replacements
    let others ← substituteAll replacements rest
    return first :: others

end

/-- A construction with type variables applied to arguments for them. Only the forms of `typing`
remember what they were applied to. -/
def applyConstruction (construction : Value) (arguments : List Value) : Evaluating Value := do
  let replaced := construction.freeVariables
  let apply : Evaluating Value := do
    checkCount construction.display arguments.length replaced.length
    construction.substitute (replaced.zip arguments)
  if construction.isTypingForm then
    if let some earlier := ← Evaluating.earlier? .construction (construction :: arguments) then
      return earlier
    if !replaced.isEmpty then discard (convertedAll arguments)
  apply

end Value

end ServiceStubs.Source
