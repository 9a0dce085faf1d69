import ServiceStubs.Number.Layout
import ServiceStubs.Source.Arithmetic
import ServiceStubs.Text.IntegerNumeral

/-!
# Values as texts

The displayed form of a value, the text that it is told as, and the text that a layout makes of it.
A string is told as it is, an exception by what it says, a member of an enumeration by its name.
Some values have no displayed form: a class may have a function of its own for it, which gives
nothing, and some numbers are too long.
-/

namespace ServiceStubs.Source

/-! ## Displayed forms -/

/-- The fault of a whole number with more digits than any number is displayed with. -/
def lengthFault? (number : Int) : Option Fault :=
  if number.natAbs.log2 < 14000 then none
  else if (Number.inBase 10 number.natAbs).length ≤ Text.mostDigits then none
  else some (.wrongValue ("Exceeds the limit (4300 digits) for integer string conversion; " ++
    "use sys.set_int_max_str_digits() to increase the limit"))

namespace Value

mutual

/-- The fault of the displayed form of a value, if it has none. -/
def displayFault? : Value → Option Fault
  | .constant (.number number) => lengthFault? number
  | .member owner _ value _ =>
    match owner.displayFlaw with
    | some fault => some fault
    | none => displayFault? value
  | .instanceOf owner _ held shown _ =>
    match owner, shown with
    | .user made, none =>
      match made.displayFlaw, held with
      | some fault, _ => some fault
      | none, some value => displayFault? value
      | none, none => none
    | _, _ => none
  | .tuple items | .list items | .set _ items | .builtinOf _ items | .templateOf _ items
  | .aliasOf _ items | .union items | .alternatives items => displayFaultOf? items
  | .qualified _ argument => displayFault? argument
  | .callable arguments result => (displayFaultOf? arguments).or (displayFault? result)
  | .annotated inner _ => displayFault? inner
  | .dictionary entries => displayFaultIn? entries
  | .slice start stop step =>
    ((displayFault? start).or (displayFault? stop)).or (displayFault? step)
  | _ => none

/-- The fault of the displayed forms of some values, if one of them has none. -/
def displayFaultOf? : List Value → Option Fault
  | [] => none
  | value :: rest => (displayFault? value).or (displayFaultOf? rest)

/-- The fault of the displayed forms of values under keys, if one of them has none. -/
def displayFaultIn? : List (Value × Value) → Option Fault
  | [] => none
  | (key, value) :: rest =>
    ((displayFault? key).or (displayFault? value)).or (displayFaultIn? rest)

end

/-- The displayed form of a value, if it has one. -/
def displayed (value : Value) : Except Fault String :=
  match value.displayFault? with
  | some fault => .error fault
  | none => .ok value.display

end Value

/-! ## Texts -/

/-- The fault of a form that cannot be laid out. -/
def Fault.ofLayout (flaw : Text.Layout.Flaw) : Fault :=
  if flaw.isTooGreat then .tooGreat flaw.message else .wrongValue flaw.message

namespace Module

/-- Whether the members of an enumeration are told as the values that they are. -/
def tellsHeld (module : Module) (owner : ClassRef) : Bool :=
  module.isKindOf (.user owner) .reprEnum

/-- What an exception says that was raised for some values. -/
def exceptionText : List Value → Except Fault String
  | [] => .ok ""
  | [.string quotation] => .ok quotation.text
  | [value] => value.displayed
  | values => (Value.tuple values).displayed

/-- A value as a text, which is a text already or else displayed. -/
def plainText : Value → Except Fault String
  | .string quotation => .ok quotation.text
  | value => value.displayed

/-- What an exception says that stands for an error of the system. -/
def systemText (attributes : List (String × Value)) (text : Value) : Except Fault String := do
  let opening := "[Errno " ++ (← plainText ((attributes.lookup "errno").getD .nothing)) ++ "] " ++
    (← plainText text)
  match attributes.lookup "filename" with
  | none | some (.constant .missing) => return opening
  | some file => return opening ++ ": " ++ (← file.displayed)

/-- The text that a value is told as. -/
def told (module : Module) (value : Value) : Except Fault String :=
  match module.questionOf? value "__str__" with
  | some (.function found) => do
    discard (module.callFunction found (.ofList [value]))
    throw (.wrongType "__str__ returned non-string (type NoneType)")
  | _ =>
    match value with
    | .string quotation => .ok quotation.text
    | .member owner name _ held =>
      match held, module.tellsHeld owner with
      | some (.string quotation), true => .ok quotation.text
      | some held, true => held.displayed
      | _, _ => .ok (Value.memberOpening owner name)
    | .instanceOf owner _ held shown attributes =>
      match attributes.lookup "args", held with
      | some (.tuple arguments), _ =>
        if let some text := attributes.lookup "strerror" then systemText attributes text
        else if let (true, [message, parts]) :=
            (module.isKindOf owner (.exception "BaseExceptionGroup"), arguments) then do
          let count := (parts.plainItems?.map List.length).getD 0
          return (← plainText message) ++ " (" ++ toString count ++ " sub-exception" ++
            (if count = 1 then ")" else "s)")
        else if module.isKindOf owner (.exception "KeyError") && arguments.length = 1 then
          (arguments.headD .nothing).displayed
        else exceptionText arguments
      | _, some (.string quotation) => .ok quotation.text
      | _, some held => if shown.isSome then value.displayed else held.displayed
      | _, none => value.displayed
    | value => value.displayed

/-- The text that a layout makes of a value. -/
def laidOut (module : Module) (value : Value) (layout : String) : Except Fault String :=
  let typeName := value.typeName
  let laid (usual : Option Char) (lay : Text.Layout → Except Text.Layout.Flaw String) :
      Except Fault String :=
    (do lay (← Text.Layout.ofText layout typeName usual)).mapError Fault.ofLayout
  if layout.isEmpty then module.told value
  else match value with
    | .member owner _ _ held =>
      match held.bind Value.scalar?, module.tellsHeld owner with
      | some (.whole number), true => laid (some 'd') fun layout => layout.laidWhole "int" number
      | _, _ => do
        let text ← module.told value
        laid (some 's') fun layout => layout.laidText text
    | value =>
      match value.plain with
      | .string quotation => laid (some 's') fun layout => layout.laidText quotation.text
      | .constant (.number number) => laid (some 'd') fun layout => layout.laidWhole typeName number
      | .constant (.flag flag) =>
        laid (some 'd') fun layout => layout.laidWhole typeName (if flag then 1 else 0)
      | .constant (.fraction number) =>
        laid none fun layout => layout.laidFraction typeName number
      | .complex number => laid none fun layout => layout.laidComplex number
      | _ => .error (.wrongType ("unsupported format string passed to " ++ typeName ++
          ".__format__"))

end Module

end ServiceStubs.Source
