import ServiceStubs.Source.Arguments

/-!
# Signatures of built-in functions

How many values a built-in function takes, and whether they may be given under names. What is said
of a call with other arguments depends on the kind of the signature.
-/

namespace ServiceStubs.Source

/-- What a built-in function takes. -/
inductive Signature
  /-- No value, or one. -/
  | exactly (count : Nat)
  /-- A number of values between two. -/
  | between (least most : Nat)
  /-- Values that may be given under names, with how many of them it needs and how many may be
  given in order. -/
  | named (names : List String) (least inOrder : Nat)
  /-- A part to look for, and two ends. -/
  | search
  /-- A number of values, for the function of an operator. -/
  | operands (least most : Nat)
  /-- Any values. -/
  | any
deriving Repr, Inhabited

namespace Signature

/-- A number of arguments in words. -/
def counted (count : Nat) : String := toString count ++ " argument" ++ Arity.plural (count = 1)

/-- What is said of a number of values that is not between two. -/
def rangeText? (opening : String) (least most given : Nat) : Option String :=
  let told (bound : String) (count : Nat) : Option String :=
    some (opening ++ "expected " ++ bound ++ counted count ++ ", got " ++ toString given)
  if least ≤ given && given ≤ most then none
  else if least = most then told "" least
  else if given < least then told "at least " least
  else told "at most " most

/-- What is said of a number of values for a function that takes none or one. -/
def exactText? (callee : String) (count given : Nat) : Option String :=
  if given = count then none
  else some (callee ++ "() takes " ++
    (if count = 0 then "no arguments" else "exactly one argument") ++
    " (" ++ toString given ++ " given)")

/-- What is wrong with a number of values in order, if anything is. The callee is the function with
its class. -/
def countText? (callee name : String) (given : Nat) : Signature → Option String
  | exactly count => exactText? callee count given
  | between least most => rangeText? (name ++ " ") least most given
  | operands least most => rangeText? "" least most given
  | search =>
    if given = 0 then some (name ++ "() takes at least 1 argument (0 given)")
    else if 3 < given then
      some (name ++ "() takes at most 3 arguments (" ++ toString given ++ " given)")
    else none
  | named _ _ _ | any => none

/-- What is wrong with arguments that may be given under names, if anything is. -/
def namedText? (name : String) (names : List String) (least inOrder : Nat)
    (arguments : Arguments) : Option String :=
  let given := arguments.values.length
  let total := given + arguments.named.length
  let isKnown (entry : String × Value) : Bool := names.contains entry.1
  let repeated? := (names.take given).findIdx? fun known =>
    arguments.named.any fun entry => entry.1 = known
  let missing? := (names.take least).findIdx? fun known =>
    !(names.take given).contains known && !arguments.named.any fun entry => entry.1 = known
  if names.length < total then
    some (name ++ "() takes at most " ++ toString names.length ++ " " ++
      (if arguments.values.isEmpty then "keyword " else "") ++ "argument" ++
      Arity.plural (names.length = 1) ++ " (" ++ toString total ++ " given)")
  else if inOrder < given then
    some (if inOrder = 0 then name ++ "() takes no positional arguments"
      else name ++ "() takes at most " ++ toString inOrder ++ " positional argument" ++
        Arity.plural (inOrder = 1) ++ " (" ++ toString given ++ " given)")
  else match missing?, repeated?, arguments.named.find? fun entry => !isKnown entry with
    | some place, _, _ => some (name ++ "() missing required argument " ++
        Text.quoted (names.getD place "") ++ " (pos " ++ toString (place + 1) ++ ")")
    | none, some place, _ => some ("argument for " ++ name ++ "() given by name (" ++
        Text.quoted (names.getD place "") ++ ") and position (" ++ toString (place + 1) ++ ")")
    | none, none, some entry => some (Text.quoted entry.1 ++
        " is an invalid keyword argument for " ++ name ++ "()")
    | none, none, none => none

/-- The arguments of a call in the order of the parameters; what is not given is none. -/
def arranged (signature : Signature) (callee name : String) (arguments : Arguments) :
    Except Fault (List (Option Value)) :=
  match signature with
  | .named names least inOrder =>
    match namedText? name names least inOrder arguments with
    | some text => .error (.wrongType text)
    | none => .ok (arguments.values.map some ++
        (names.drop arguments.values.length).map fun name => List.lookup name arguments.named)
  | signature =>
    if !arguments.named.isEmpty && !(signature matches .any) then
      .error (.wrongType (if signature matches .operands _ _ then
          "wrapper " ++ name ++ "() takes no keyword arguments"
        else callee ++ "() takes no keyword arguments"))
    else match signature.countText? callee name arguments.values.length with
      | some text => .error (.wrongType text)
      | none => .ok (arguments.values.map some)

end Signature

end ServiceStubs.Source
