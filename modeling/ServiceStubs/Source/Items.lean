import ServiceStubs.Source.Attributes

/-!
# Items and truth of values

The items of a value that can be looked through, how many there are, and whether a value counts as
true: numbers do unless they are zero, and collections unless they are empty. The functions that a
class has for these questions give nothing, which answers none of them.
-/

namespace ServiceStubs.Source

namespace Value

/-- The most items of a range that are worked out. -/
def longestRange : Nat := 100000

/-- The numbers of a range. -/
def rangeItems (start stop step : Int) : List Int :=
  (List.range (min (rangeLength start stop step) longestRange)).map fun place =>
    start + step * Int.ofNat place

/-- The items of a plain value, if it has any. -/
def plainItems? (value : Value) : Option (List Value) :=
  match value.plain with
  | .tuple items | .list items | .set _ items | .iterator _ items => some items
  | .dictionary entries => some (entries.map Prod.fst)
  | .string quotation =>
    some (quotation.text.toList.map fun character => .ofText (String.singleton character))
  | .bytes _ codes => some (codes.map .ofNat)
  | .range start stop step => some ((rangeItems start stop step).map .ofInt)
  | .builtinOf origin arguments =>
    if origin = .standard .list then some [.builtinOf origin arguments]
    else some [.object "types.GenericAlias" ("*" ++ (Value.builtinOf origin arguments).display)]
  | .constant (.list values) => some (ofData values)
  | .constant (.record entries) => some (entries.map fun entry => .ofText entry.1)
  | _ => none

/-- How many items a plain value has, if it tells. -/
def plainLength? (value : Value) : Option Nat :=
  match value.plain with
  | .range start stop step => some (rangeLength start stop step)
  | .iterator typeName items =>
    if typeName = "dict_values" || keyViews.contains typeName then some items.length else none
  | .builtinOf _ _ => none
  | plain => plain.plainItems?.map List.length

/-- Whether a plain value counts as true. -/
def isTruePlain (value : Value) : Bool :=
  match value.plain with
  | .constant datum => !datum.isVoid
  | .complex number => !number.isZero
  | plain => plain.plainLength?.all (· ≠ 0)

end Value

namespace Module

/-- The function of user classes that a value has for a question, if its class or one that it
derives from has one. -/
def questionOf? (module : Module) (value : Value) (name : String) : Option Value :=
  match value with
  | .member owner _ _ _ | .instanceOf (.user owner) _ _ _ _ =>
    module.ownedAttribute? (.user owner) name
  | _ => none

/-- The members that an enumeration lists. -/
def listedMembers (module : Module) (owner : ClassRef) : List Value :=
  let declared := module.classAt owner.index
  declared.memberNames.filterMap fun name => declared.members.lookup name

/-- The members of an enumeration of flags that a value is made of. -/
def flagsOf (module : Module) (owner : ClassRef) (value : Value) : List Value :=
  (module.listedMembers owner).filter fun
    | .member _ _ given _ => match given.whole?, value.whole? with
      | some flag, some whole => flag.toNat &&& whole.toNat ≠ 0
      | _, _ => false
    | _ => false

/-- The items of a value, which has to be one that can be looked through. -/
def itemsOf (module : Module) (value : Value) : Except Fault (List Value) :=
  let refused := Fault.notIterable value.typeName
  match module.questionOf? value "__iter__" with
  | some (.function found) => do
    discard (module.callFunction found (.ofList [value]))
    throw (.wrongType "iter() returned non-iterator of type 'NoneType'")
  | some _ => .error refused
  | none =>
    match value, value.plainItems? with
    | _, some items => .ok items
    | .classValue (.user owner), none =>
      if owner.metaclass = .enumeration then .ok (module.listedMembers owner) else .error refused
    | .classValue (.standard _), none =>
      if value.typeName = "EnumType" then .ok [] else .error refused
    | .member owner _ given none, none =>
      if owner.isFlag then .ok (module.flagsOf owner given) else .error refused
    | _, none => .error refused

/-- How many items a value has. -/
def lengthOf (module : Module) (value : Value) : Except Fault Nat :=
  let refused := Fault.wrongType ("object of type '" ++ value.typeName ++ "' has no len()")
  match module.questionOf? value "__len__" with
  | some (.function found) => do
    discard (module.callFunction found (.ofList [value]))
    throw (.wrongType "'NoneType' object cannot be interpreted as an integer")
  | some _ => .error refused
  | none =>
    match value, value.plainLength? with
    | _, some length => .ok length
    | .classValue (.user owner), none =>
      if owner.metaclass = .enumeration then .ok (module.listedMembers owner).length
      else .error refused
    | .member owner _ given none, none =>
      if owner.isFlag then .ok (module.flagsOf owner given).length else .error refused
    | _, none => .error refused

/-- Whether a value counts as true. -/
def isTrue (module : Module) (value : Value) : Except Fault Bool :=
  match module.questionOf? value "__bool__" with
  | some (.function found) => do
    discard (module.callFunction found (.ofList [value]))
    throw (.wrongType "__bool__ should return bool, returned NoneType")
  | some found => .error (.notCallable found.typeName)
  | none =>
    match module.questionOf? value "__len__", value with
    | some _, .member _ _ _ none | some _, .instanceOf _ _ _ _ _ =>
      (module.lengthOf value).map (· ≠ 0)
    | _, .member owner _ given none =>
      .ok (if owner.isFlag then given.isTruePlain else true)
    | _, value => .ok value.isTruePlain

/-- Whether a value carries the mark of an event. -/
def isMarked (module : Module) (value : Value) : Bool :=
  match module.attributeOf "__rpc_event__" value with
  | .ok mark => (module.isTrue mark).toOption.getD false
  | .error _ => false

end Module

end ServiceStubs.Source
