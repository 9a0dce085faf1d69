import ServiceStubs.Proofs.Description.Wholeness
import ServiceStubs.Proofs.Description.Sketches

/-!
# Descriptions without a catalog

What an annotation is described as can be said without a catalog when what the host tells of
annotations is a function of what it is asked: a sketch is drawn from the annotation, and the first
failure on the way ends the drawing. The fields of a class are drawn for the sake of their failures
alone, and the fields of a class that is being drawn are not drawn again within it. So a cycle of
classes comes to an end, while a class that was drawn before is drawn once more.

A drawing asks for no more than the sketches of the classes that it visits.
-/

namespace ServiceStubs

open Source (ClassRef ClassValue Fault Failure Function Value)

/-- What a host tells of annotations, as functions of what it is asked. -/
structure Answers where
  /-- The hints of a class. -/
  classHints : ClassRef → Except Fault (List (String × Value))
  /-- The hints of the parameters of a function, and of its result. -/
  functionHints : Function → Except Fault (List (String × Value) × Option Value)
  /-- The atom for an enumeration. -/
  enumeration : ClassRef → Except Fault Atom
  /-- Whether a value seems to be one of the list types. -/
  listLike : Value → Except Fault Bool

/-- The sketch of a type that is known by its displayed form alone. -/
def drawDisplayed (value : Value) : Except Failure Sketch := do
  return .atom (.primitive (← value.displayed.mapError .host))

/-- The sketch of the list template. -/
def listSketch : Sketch := .atom (.primitive listIdentity)

/-- The sketch of a plain value in the place of an annotation. -/
def drawDatum (datum : Datum) : Except Failure Sketch :=
  match datum with
  | .missing => .ok (.atom (.primitive voidIdentity))
  | datum => drawDisplayed (.ofDatum datum)

/-- Draw each of some values for the sake of failures alone. -/
def drawEach {α : Type} (draw : α → Except Failure Sketch) : List α → Except Failure Unit
  | [] => .ok ()
  | value :: rest => do
    let _ ← draw value
    drawEach draw rest

/-- The sketch of a class of the standard library that is not applied. -/
def standardSketch (value : Source.StandardClass) : Sketch :=
  match sharedIdentity? value with
  | some identity => .atom (.primitive identity)
  | none =>
    if value.isListLike then .generic listSketch []
    else if (ClassValue.standard value).metaclass = .enumeration then
      .atom (.enumeration value.name ((value.written?.elim [] (·.members)).map .text)
        (ClassValue.standard value).identity)
    else .atom (namedAtom (.standard value))

section

variable (module : Source.Module) (answers : Answers)

/-! ## Classes alone -/

/-- The hints of the fields of a class. -/
def drawHints (reference : ClassRef) : Except Failure (List (String × Value)) := do
  let hints ← (answers.classHints reference).mapError (Source.Module.classFailure (.user reference))
  return hints.filter fun entry => !isClassVariable entry.2

/-- Whether a class is described by its fields. -/
def drawsFields (reference : ClassRef) : Except Failure Bool :=
  if module.isRecord (.user reference) then .ok true
  else if Source.frameworkModules.contains reference.moduleName then .ok false
  else do return !(← drawHints answers reference).isEmpty

/-- The sketch of a class, which tells nothing of its fields. -/
def classSketch (reference : ClassRef) : Except Failure Sketch :=
  if reference.moduleName.isEmpty && module.classes.size ≤ reference.index then
    .error (.host (.hiddenAttribute Source.moduleAttribute))
  else if module.isKindOf (.user reference) .enum then do
    return .atom (← (answers.enumeration reference).mapError .host)
  else do
    if ← drawsFields module answers reference then
      return .atom (← (module.compositeAtom reference).mapError .host)
    else return .atom (namedAtom (.user reference))

/-! ## Annotations -/

section

variable (draw : ClassRef → Except Failure Sketch)

/-- The sketch of a class that is not applied to arguments; a generic class has to be. -/
def drawBareClass : ClassValue → Except Failure Sketch
  | .standard value => .ok (standardSketch value)
  | .user reference => do
    let sketch ← draw reference
    if sketch.typeParameters.isEmpty then return sketch
    else throw (.stub (.genericArity sketch.identity 0))

/-- The sketch of a class applied to drawn arguments; `shown` is the displayed form of the
application. -/
def drawApplication (shown : Value) (origin : ClassValue) (arguments : List Sketch) :
    Except Failure Sketch :=
  match origin with
  | .standard value =>
    if value.isListLike then .ok (.generic listSketch arguments) else drawDisplayed shown
  | .user reference => do
    if ← drawsFields module answers reference then
      let template ← draw reference
      return .generic template arguments
    else drawDisplayed shown

mutual

/-- The sketch of an annotation, when the sketches of classes are given. -/
def drawValue : Value → Except Failure Sketch
  | .constant datum => drawDatum datum
  | .typeVariable binder => .ok (.atom (.parameter binder.name))
  | .classValue value => drawBareClass draw value
  | .bareAlias word =>
    .ok (if word.origin.isListLike then .generic listSketch [] else .atom (.primitive word.text))
  | .builtinOf origin arguments => do
    let sketches ← drawValues arguments
    drawApplication module answers draw (.builtinOf origin arguments) origin sketches
  | .templateOf origin arguments => do
    let sketches ← drawValues arguments
    drawApplication module answers draw (.templateOf origin arguments) origin sketches
  | .aliasOf word arguments => do
    let sketches ← drawValues arguments
    if word.origin.isListLike then return .generic listSketch sketches
    else drawDisplayed (.aliasOf word arguments)
  | .qualified word argument => do
    let _ ← drawValue argument
    drawDisplayed (.qualified word argument)
  | .union members => do
    let _ ← drawValues members
    drawDisplayed (.union members)
  | .alternatives members => do
    let _ ← drawValues members
    drawDisplayed (.alternatives members)
  | .literal values => do
    drawEach drawDatum values
    drawDisplayed (.literal values)
  | .callable arguments result => do
    let _ ← drawDisplayed (.list arguments)
    let _ ← drawValue result
    drawDisplayed (.callable arguments result)
  | .annotated inner notes => do
    let _ ← drawValue inner
    drawEach (fun note => drawDatum (.text note)) notes
    drawDisplayed (.annotated inner notes)
  | value => do
    if ← (answers.listLike value).mapError .host then return .generic listSketch []
    else drawDisplayed value

/-- The sketches of several annotations in order. -/
def drawValues : List Value → Except Failure (List Sketch)
  | [] => .ok []
  | value :: rest => do
    let sketch ← drawValue value
    let sketches ← drawValues rest
    return sketch :: sketches

end

/-- Draw the hints of fields for the sake of their failures. -/
def drawFields : List (String × Value) → Except Failure Unit
  | [] => .ok ()
  | (_, hint) :: rest => do
    let _ ← drawValue module answers draw hint
    drawFields rest

end

/-! ## Classes with their fields -/

/-- The sketch of a class and the first failure in its fields, when some classes are being drawn and
classes may be drawn within each other `depth` times. -/
def drawClass : Nat → List ClassRef → ClassRef → Except Failure Sketch
  | depth, opened, reference => do
    let sketch ← classSketch module answers reference
    if !sketch.isComposite || opened.contains reference then return sketch
    else
      match depth with
      | 0 => throw (.host .tooDeep)
      | depth + 1 => do
        let hints ← drawHints answers reference
        drawFields module answers (drawClass depth (reference :: opened)) hints
        return sketch

/-! ## Visits -/

/-- The class that the origin of an application leads to, if it is described by its fields. -/
def originVisits : ClassValue → List ClassRef
  | .standard _ => []
  | .user reference =>
    match drawsFields module answers reference with
    | .ok true => [reference]
    | _ => []

mutual

/-- The classes that the description of an annotation asks for. -/
def visits : Value → List ClassRef
  | .classValue (.user reference) => [reference]
  | .builtinOf origin arguments => visitsOfAll arguments ++ originVisits module answers origin
  | .templateOf origin arguments => visitsOfAll arguments ++ originVisits module answers origin
  | .aliasOf _ arguments => visitsOfAll arguments
  | .qualified _ argument => visits argument
  | .union members => visitsOfAll members
  | .alternatives members => visitsOfAll members
  | .callable _ result => visits result
  | .annotated inner _ => visits inner
  | _ => []

/-- The classes that the descriptions of several annotations ask for. -/
def visitsOfAll : List Value → List ClassRef
  | [] => []
  | value :: rest => visits value ++ visitsOfAll rest

end

variable {module answers}

/-- A class that has no fields to draw, or whose fields are being drawn, is drawn by its sketch
alone. -/
theorem drawClass_of_stops {depth : Nat} {opened : List ClassRef} {reference : ClassRef}
    {sketch : Sketch} (own : classSketch module answers reference = .ok sketch)
    (stops : sketch.isComposite → reference ∈ opened) :
    drawClass module answers depth opened reference = .ok sketch := by
  have condition : (!sketch.isComposite || opened.contains reference) = true := by
    cases composite : sketch.isComposite with
    | false => rfl
    | true => exact List.contains_iff_mem.mpr (stops composite)
  rw [drawClass, own]
  simp only [bind, Except.bind, condition, if_true]
  rfl

/-- A class with fields is drawn with its fields, and within them it is being drawn. -/
theorem drawClass_of_enters {depth : Nat} {opened : List ClassRef} {reference : ClassRef}
    {sketch : Sketch} (own : classSketch module answers reference = .ok sketch)
    (composite : sketch.isComposite) (fresh : reference ∉ opened) :
    drawClass module answers (depth + 1) opened reference = (do
      let hints ← drawHints answers reference
      drawFields module answers (drawClass module answers depth (reference :: opened)) hints
      return sketch) := by
  have condition : (!sketch.isComposite || opened.contains reference) = false := by
    simp [composite, fresh]
  rw [drawClass, own]
  simp only [bind, Except.bind, condition, Bool.false_eq_true, if_false]

/-- An application is drawn alike when its origin is. -/
theorem drawApplication_congr {draw other : ClassRef → Except Failure Sketch} {origin : ClassValue}
    (same : ∀ reference ∈ originVisits module answers origin, draw reference = other reference)
    (shown : Value) (arguments : List Sketch) :
    drawApplication module answers draw shown origin arguments =
      drawApplication module answers other shown origin arguments := by
  cases origin with
  | standard value => rfl
  | user reference =>
    rw [drawApplication, drawApplication]
    rw [originVisits] at same
    cases fields : drawsFields module answers reference with
    | error failure => rfl
    | ok found =>
      cases found with
      | false => rfl
      | true =>
        have here := same reference (by simp [fields])
        simp only [bind, Except.bind, if_true, here]

mutual

/-- An annotation is drawn alike when the classes that it visits are. -/
theorem drawValue_congr {draw other : ClassRef → Except Failure Sketch} (value : Value)
    (same : ∀ reference ∈ visits module answers value, draw reference = other reference) :
    drawValue module answers draw value = drawValue module answers other value := by
  cases value with
  | classValue value =>
    cases value with
    | standard value => rfl
    | user reference =>
      rw [drawValue, drawValue, drawBareClass, drawBareClass, same reference (by simp [visits])]
  | builtinOf origin arguments | templateOf origin arguments =>
    rw [visits] at same
    rw [drawValue, drawValue, drawValues_congr arguments fun reference member =>
      same reference (List.mem_append_left _ member)]
    congr 1
    funext sketches
    exact drawApplication_congr (fun reference member =>
      same reference (List.mem_append_right _ member)) _ _
  | aliasOf word arguments =>
    rw [visits] at same
    rw [drawValue, drawValue, drawValues_congr arguments same]
  | qualified word argument =>
    rw [visits] at same
    rw [drawValue, drawValue, drawValue_congr argument same]
  | union members | alternatives members =>
    rw [visits] at same
    rw [drawValue, drawValue, drawValues_congr members same]
  | callable arguments result =>
    rw [visits] at same
    rw [drawValue, drawValue, drawValue_congr result same]
  | annotated inner notes =>
    rw [visits] at same
    rw [drawValue, drawValue, drawValue_congr inner same]
  | _ => rfl

/-- Annotations are drawn alike when the classes that they visit are. -/
theorem drawValues_congr {draw other : ClassRef → Except Failure Sketch} (values : List Value)
    (same : ∀ reference ∈ visitsOfAll module answers values, draw reference = other reference) :
    drawValues module answers draw values = drawValues module answers other values := by
  cases values with
  | nil => rfl
  | cons value rest =>
    rw [visitsOfAll] at same
    rw [drawValues, drawValues, drawValue_congr value fun reference member =>
        same reference (List.mem_append_left _ member),
      drawValues_congr rest fun reference member =>
        same reference (List.mem_append_right _ member)]

end

end

end ServiceStubs
