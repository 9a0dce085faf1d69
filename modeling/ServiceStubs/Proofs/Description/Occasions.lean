import ServiceStubs.Proofs.Description.Wholeness

/-!
# Occasions of descriptions

What a host tells of an annotation depends on what it remembers. The description of a service asks
about the annotations of its functions, their parts, and the hints of the classes among these, and
each time the host remembers what it came to remember by the questions before. So a description has
an occasion: the annotations that it involves, and the memories in which the host is asked about
them. What is told of a class or an annotation on an occasion is what the host tells in one of these
memories.

The occasion of a service is the least that has the annotations of its functions, the memory at the
start, and all that these lead to.
-/

namespace ServiceStubs

open Source

/-- The annotations that are described on the way to a description of an annotation. -/
def Source.Value.innerAnnotations : Value → List Value
  | .builtinOf origin arguments | .templateOf origin arguments => .classValue origin :: arguments
  | .aliasOf _ arguments => arguments
  | .qualified _ argument => [argument]
  | .union members | .alternatives members => members
  | .literal values => values.map .constant
  | .callable _ result => [result]
  | .annotated inner notes => inner :: notes.map fun note => .constant (.text note)
  | _ => []

/-- Whether a value has no form that annotations usually have. -/
def Source.Value.isUnusual : Value → Bool
  | .constant _ | .typeVariable _ | .classValue _ | .bareAlias _ | .builtinOf _ _ | .templateOf _ _
  | .aliasOf _ _ | .qualified _ _ | .union _ | .alternatives _ | .literal _ | .callable _ _
  | .annotated _ _ => false
  | _ => true

/-- What a description is about. -/
structure Occasion where
  /-- The annotations that it involves. -/
  involved : Value → Prop
  /-- The memories in which the host is asked about them. -/
  usual : Memory → Prop

namespace Source.Module

/-! ## Annotations of functions -/

/-- The hints of the parameters of a function, and of its result. -/
abbrev FunctionHints := List (String × Value) × Option Value

/-- The annotation of a parameter. -/
def FunctionHints.annotation (hints : FunctionHints) (parameter : Parameter) : Value :=
  (hints.1.lookup parameter.name).getD unannotated

/-- The annotation of the result. -/
def FunctionHints.result (hints : FunctionHints) : Value := hints.2.getD unannotated

/-- The parameters of a function that are described. -/
def describedParameters (function : Function) : List Parameter :=
  (function.parameters.drop 1).filter fun parameter => takesOne parameter.kind

section

variable (module : Module) (occasion : Occasion)

/-! ## What is told -/

/-- Whether some hints are told of the fields of a class. -/
def FieldHintsTold (reference : ClassRef) (hints : List (String × Value)) : Prop :=
  ∃ before after, occasion.usual before.memory ∧
    module.fieldHints (.user reference) before = .ok hints after

/-- Whether some hints are told of a function. -/
def FunctionHintsTold (function : Function) (hints : FunctionHints) : Prop :=
  ∃ before after, occasion.usual before ∧ module.functionHints function before = .ok hints after

/-- Whether it is told of a class that it is described by its fields, or that it is not. -/
def FieldsTold (reference : ClassRef) (told : Bool) : Prop :=
  ∃ before after, occasion.usual before.memory ∧
    module.isComposite (.user reference) before = .ok told after

/-- Whether it is told of a value that it equals one of the list types, or that it equals none. -/
def LikenessTold (value : Value) (told : Bool) : Prop :=
  ∃ before after, occasion.usual before ∧ module.seemsListLike value before = .ok told after

/-! ## Occasions that lack nothing -/

/-- Whether an occasion has all that its annotations lead to: their parts, the hints of its classes,
and the memories that the host has once it was asked about them. -/
structure Closes : Prop where
  part : ∀ {value part : Value}, occasion.involved value → part ∈ value.innerAnnotations →
    occasion.involved part
  hints : ∀ {reference : ClassRef} {hints : List (String × Value)} {before after : Knowledge},
    occasion.involved (.user reference) → occasion.usual before.memory →
    module.fieldHints (.user reference) before = .ok hints after →
    occasion.usual after.memory ∧ ∀ hint ∈ hints, occasion.involved hint.2
  enumeration : ∀ {reference : ClassRef} {atom : Atom} {before after : Memory},
    occasion.involved (.user reference) → occasion.usual before →
    module.enumerationAtom reference before = .ok atom after → occasion.usual after
  likeness : ∀ {value : Value} {told : Bool} {before after : Memory},
    occasion.involved value → occasion.usual before →
    module.seemsListLike value before = .ok told after → occasion.usual after

/-- Whether an occasion has the annotations of a function, and the memory after the host was asked
for them. -/
def Admits (function : Function) : Prop :=
  ∀ {hints : FunctionHints} {before after : Memory}, occasion.usual before →
    module.functionHints function before = .ok hints after →
    occasion.usual after ∧
      (∀ parameter ∈ describedParameters function,
        occasion.involved (hints.annotation parameter)) ∧
      occasion.involved hints.result

end

/-! ## Occasions of services -/

section

variable (module : Module) (owner : ClassValue) (start : Memory)

mutual

/-- The annotations that the service of a class involves, when the host remembers something at the
start. -/
inductive Involved : Value → Prop
  /-- The annotation of a parameter. -/
  | parameter {name : String} {function : Function} {hints : FunctionHints} {parameter : Parameter}
      {before after : Memory} (member : (name, function) ∈ module.declaredFunctions owner)
      (recalled : Recalled before) (told : module.functionHints function before = .ok hints after)
      (listed : parameter ∈ describedParameters function) : Involved (hints.annotation parameter)
  /-- The annotation of a result. -/
  | result {name : String} {function : Function} {hints : FunctionHints} {before after : Memory}
      (member : (name, function) ∈ module.declaredFunctions owner) (recalled : Recalled before)
      (told : module.functionHints function before = .ok hints after) : Involved hints.result
  /-- A part of an annotation. -/
  | part {value part : Value} (whole : Involved value) (member : part ∈ value.innerAnnotations) :
      Involved part
  /-- The hint of a field of a class. -/
  | field {reference : ClassRef} {hints : List (String × Value)} {hint : String × Value}
      {before after : Knowledge} (holder : Involved (.user reference))
      (recalled : Recalled before.memory)
      (told : module.fieldHints (.user reference) before = .ok hints after)
      (listed : hint ∈ hints) : Involved hint.2

/-- The memories that the host has in the course of the description of a service. -/
inductive Recalled : Memory → Prop
  /-- The memory at the start. -/
  | start : Recalled start
  /-- The memory after a question for the hints of a function. -/
  | functionHints {name : String} {function : Function} {hints : FunctionHints}
      {before after : Memory} (member : (name, function) ∈ module.declaredFunctions owner)
      (recalled : Recalled before)
      (told : module.functionHints function before = .ok hints after) : Recalled after
  /-- The memory after a question for the hints of a class. -/
  | fieldHints {reference : ClassRef} {hints : List (String × Value)} {before after : Knowledge}
      (holder : Involved (.user reference)) (recalled : Recalled before.memory)
      (told : module.fieldHints (.user reference) before = .ok hints after) :
      Recalled after.memory
  /-- The memory after a question for the members of an enumeration. -/
  | enumeration {reference : ClassRef} {atom : Atom} {before after : Memory}
      (holder : Involved (.user reference)) (recalled : Recalled before)
      (told : module.enumerationAtom reference before = .ok atom after) : Recalled after
  /-- The memory after a question whether an annotation equals a list type. -/
  | likeness {value : Value} {told : Bool} {before after : Memory} (holder : Involved value)
      (recalled : Recalled before) (asked : module.seemsListLike value before = .ok told after) :
      Recalled after

end

/-- The occasion on which the service of a class is described. -/
def occasion : Occasion where
  involved := module.Involved owner start
  usual := module.Recalled owner start

end

variable {module : Module} {owner : ClassValue} {start : Memory}

/-- The occasion of a service has all that its annotations lead to. -/
theorem closes_occasion : module.Closes (module.occasion owner start) where
  part whole member := .part whole member
  hints holder recalled told :=
    ⟨.fieldHints holder recalled told, fun _ listed => .field holder recalled told listed⟩
  enumeration holder recalled told := .enumeration holder recalled told
  likeness holder recalled told := .likeness holder recalled told

/-- The occasion of a service has the annotations of its functions. -/
theorem admits_occasion :
    ∀ entry ∈ module.declaredFunctions owner,
      module.Admits (module.occasion owner start) entry.2 :=
  fun _ member _ _ _ recalled told =>
    ⟨.functionHints member recalled told, fun _ listed => .parameter member recalled told listed,
      .result member recalled told⟩

section

variable {occasion : Occasion} (closes : module.Closes occasion)
  (admits : ∀ entry ∈ module.declaredFunctions owner, module.Admits occasion entry.2)

include closes admits

mutual

/-- What a service involves is in every occasion that has the annotations of its functions, the
memory at the start and all that these lead to. -/
theorem Involved.least {value : Value} (started : occasion.usual start) :
    module.Involved owner start value → occasion.involved value
  | .parameter member recalled told listed =>
    (admits _ member (Recalled.least started recalled) told).2.1 _ listed
  | .result member recalled told => (admits _ member (Recalled.least started recalled) told).2.2
  | .part whole member => closes.part (Involved.least started whole) member
  | .field holder recalled told listed =>
    (closes.hints (Involved.least started holder) (Recalled.least started recalled) told).2 _
      listed

/-- So are the memories of its description. -/
theorem Recalled.least {memory : Memory} (started : occasion.usual start) :
    module.Recalled owner start memory → occasion.usual memory
  | .start => started
  | .functionHints member recalled told =>
    (admits _ member (Recalled.least started recalled) told).1
  | .fieldHints holder recalled told =>
    (closes.hints (Involved.least started holder) (Recalled.least started recalled) told).1
  | .enumeration holder recalled told =>
    closes.enumeration (Involved.least started holder) (Recalled.least started recalled) told
  | .likeness holder recalled told =>
    closes.likeness (Involved.least started holder) (Recalled.least started recalled) told

end

end

/-! ## Memories of questions -/

section

variable {occasion : Occasion} (closes : module.Closes occasion) {reference : ClassRef}
variable {before after : Knowledge}

include closes

/-- The question whether a class is described by its fields leaves a memory of the occasion. -/
theorem Closes.usual_isComposite {told : Bool} (holder : occasion.involved (.user reference))
    (usual : occasion.usual before.memory)
    (asked : module.isComposite (.user reference) before = .ok told after) :
    occasion.usual after.memory := by
  unfold isComposite at asked
  split_ifs at asked
  · cases asked
    exact usual
  · cases asked
    exact usual
  · obtain ⟨hints, between, found, rest⟩ := run_bind_eq_ok.mp asked
    cases rest
    exact (closes.hints holder usual found).1

end

end Source.Module

end ServiceStubs
