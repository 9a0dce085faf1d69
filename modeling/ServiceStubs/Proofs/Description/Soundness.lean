import ServiceStubs.Proofs.Description.Drawing
import ServiceStubs.Proofs.Description.History
import ServiceStubs.Proofs.Description.Occasions

/-!
# Sound catalogs

Some calls lead to annotations: what they ask for, the hints of the functions of services, the
parts of annotations and the hints of the fields of classes. As long as the host tells of these
what some answers say, and identities tell apart what is drawn from them, a catalog holds nothing
but drawn sketches, and every composite in it has the fields that are drawn from the hints of its
class. Only the classes that are being described lack fields.

A request follows a drawing when it fails with the failure of the drawing and otherwise gives what
is drawn, and leaves a sound catalog sound.
-/

namespace ServiceStubs

open Source (ClassRef ClassValue Fault Failure Function Value Memory Evaluating Module)
open Source.Module (compositeAtom_ok)

/-! ## What occurs -/

section

variable (module : Module) (answers : Answers) (asked : Describing.Call → Prop)

/-- The annotations that some calls lead to. -/
inductive Occurs : Value → Prop
  /-- An annotation that is asked for. -/
  | wanted {value : Value} (call : asked (.typeOf value)) : Occurs value
  /-- What stands for a missing annotation. -/
  | unannotated : Occurs Module.unannotated
  /-- The hint of a parameter of a service. -/
  | parameter {owner : ClassValue} {name : String} {function : Function}
      {hints : List (String × Value)} {result : Option Value} {hint : String × Value}
      (call : asked (.serviceOf owner)) (member : (name, function) ∈ module.declaredFunctions owner)
      (told : answers.functionHints function = .ok (hints, result)) (listed : hint ∈ hints) :
      Occurs hint.2
  /-- The hint of a result of a service. -/
  | result {owner : ClassValue} {name : String} {function : Function}
      {hints : List (String × Value)} {value : Value}
      (call : asked (.serviceOf owner)) (member : (name, function) ∈ module.declaredFunctions owner)
      (told : answers.functionHints function = .ok (hints, some value)) : Occurs value
  /-- A part of an annotation. -/
  | part {value part : Value} (whole : Occurs value) (member : part ∈ value.innerAnnotations) :
      Occurs part
  /-- The hint of a field of a class. -/
  | field {reference : ClassRef} {hints : List (String × Value)} {hint : String × Value}
      (owner : Occurs (.user reference)) (told : drawHints answers reference = .ok hints)
      (listed : hint ∈ hints) : Occurs hint.2

/-- The sketches that are drawn of what occurs. -/
inductive Drawn : Sketch → Prop
  /-- The sketch of an annotation, which does not depend on the fields of classes. -/
  | ofValue {value : Value} {sketch : Sketch} (occurs : Occurs module answers asked value)
      (drawn : drawValue module answers (classSketch module answers) value = .ok sketch) :
      Drawn sketch
  /-- The sketch of a class. -/
  | ofClass {reference : ClassRef} {sketch : Sketch}
      (occurs : Occurs module answers asked (.user reference))
      (drawn : classSketch module answers reference = .ok sketch) : Drawn sketch
  /-- The list template. -/
  | list : Drawn listSketch
  /-- The arguments of a callable. -/
  | arguments {arguments : List Value} {result : Value} {sketch : Sketch}
      (occurs : Occurs module answers asked (.callable arguments result))
      (drawn : drawDisplayed (.list arguments) = .ok sketch) : Drawn sketch

end

/-- Whether an evaluation tells the same in all memories of some kind, and leaves one of them. -/
def Tells {α : Type} (usual : Memory → Prop) (answer : Except Fault α)
    (evaluation : Evaluating α) : Prop :=
  ∀ memory, usual memory → ∃ later, usual later ∧ evaluation memory =
    match answer with
    | .ok value => .ok value later
    | .error fault => .error fault later

/-- How a host and its classes behave in some calls: what the host tells is a function of what it is
asked, and identities tell apart what is described. -/
structure Orderly (module : Module) (answers : Answers) (asked : Describing.Call → Prop)
    (usual : Memory → Prop) : Prop where
  classHints : ∀ {reference : ClassRef}, Occurs module answers asked (.user reference) →
    Tells usual (answers.classHints reference) (module.classHints (.user reference))
  functionHints : ∀ {owner : ClassValue} {name : String} {function : Function},
    asked (.serviceOf owner) → (name, function) ∈ module.declaredFunctions owner →
    Tells usual (answers.functionHints function) (module.functionHints function)
  enumeration : ∀ {reference : ClassRef}, Occurs module answers asked (.user reference) →
    module.isKindOf (.user reference) .enum →
    Tells usual (answers.enumeration reference) (module.enumerationAtom reference)
  listLike : ∀ {value : Value}, Occurs module answers asked value → value.isUnusual →
    Tells usual (answers.listLike value) (module.seemsListLike value)
  /-- Every class that occurs is one of the module. -/
  listed : ∀ {reference : ClassRef}, Occurs module answers asked (.user reference) →
    reference ∈ module.classes.toList.map (·.reference)
  /-- No two classes share a qualified name. -/
  classes : ∀ {reference other : ClassRef}, Occurs module answers asked (.user reference) →
    Occurs module answers asked (.user other) →
    (ClassValue.user reference).identity = (ClassValue.user other).identity → reference = other
  /-- The identity of a class belongs to its sketch alone. -/
  owned : ∀ {reference : ClassRef} {sketch : Sketch},
    Occurs module answers asked (.user reference) → Drawn module answers asked sketch →
    sketch.identity = (ClassValue.user reference).identity →
    classSketch module answers reference = .ok sketch
  /-- No two sketches share an identity. -/
  apart : ∀ {sketch other : Sketch}, Drawn module answers asked sketch →
    Drawn module answers asked other → sketch.identity = other.identity → sketch = other

/-! ## Sound catalogs -/

variable {module : Module} {answers : Answers} {asked : Describing.Call → Prop}
variable {usual : Memory → Prop}

/-- Whether the catalog has an entry for a class. -/
def Catalog.Knows (catalog : Catalog) (reference : ClassRef) : Prop :=
  (catalog.find? (ClassValue.user reference).identity).isSome

variable (module answers) in
/-- How a type shows what is drawn of an annotation: it has the sketch, and every class that the
description asks for has an entry. -/
structure Shown (value : Value) (catalog : Catalog) (sketch : Sketch) (type : TypeRef) : Prop where
  drawn : drawValue module answers (classSketch module answers) value = .ok sketch
  sketch : catalog.sketch? type = some sketch
  visited : ∀ reference ∈ visits module answers value, catalog.Knows reference

variable (module answers) in
/-- Whether some fields show, one by one, what is drawn of some hints. -/
def ShowsHints (catalog : Catalog) (hints : List (String × Value)) (fields : List Field) : Prop :=
  List.Forall₂ (fun hint field =>
    field.name = hint.1 ∧ ∃ sketch, Shown module answers hint.2 catalog sketch field.type)
    hints fields

variable (module answers asked usual) in
/-- How a catalog holds what is drawn, while some classes are being described. -/
structure Sound (opened : List ClassRef) (known : Knowledge) : Prop where
  usual : usual known.memory
  /-- Every entry is a drawn sketch with its identity. -/
  entries : ∀ {identity : String} {type : TypeRef}, known.catalog.find? identity = some type →
    ∃ sketch, Drawn module answers asked sketch ∧ sketch.identity = identity ∧
      known.catalog.sketch? type = some sketch
  /-- Only composites have fields. -/
  plain : ∀ {index : Nat} {atom : Atom}, known.catalog.atomAt? index = some atom →
    atom.kind ≠ .composite → atom.fields = []
  /-- Every composite is the entry of a class, and has its fields unless it is being described. -/
  composites : ∀ {index : Nat} {atom : Atom}, known.catalog.atomAt? index = some atom →
    atom.kind = .composite → ∃ reference, Occurs module answers asked (.user reference) ∧
      classSketch module answers reference = .ok (.atom atom.bare) ∧
      known.catalog.find? (ClassValue.user reference).identity = some (.atom index) ∧
      (reference ∈ opened ∨ ∃ hints, drawHints answers reference = .ok hints ∧
        ShowsHints module answers known.catalog hints atom.fields)
  /-- A class that is being described has an entry. -/
  begun : ∀ reference ∈ opened, known.catalog.Knows reference

section

variable {earlier later : Catalog} {value : Value} {sketch : Sketch} {type : TypeRef}

/-- An annotation stays shown. -/
theorem Shown.keep (shown : Shown module answers value earlier sketch type)
    (entries : ∀ {identity : String} {type : TypeRef}, earlier.find? identity = some type →
      later.find? identity = some type)
    (extended : later.Extends earlier) : Shown module answers value later sketch type where
  drawn := shown.drawn
  sketch := Catalog.sketch?_extend extended type shown.sketch
  visited reference member := by
    obtain ⟨found, known⟩ := Option.isSome_iff_exists.mp (shown.visited reference member)
    rw [Catalog.Knows, entries known]
    rfl

/-- Hints stay shown. -/
theorem ShowsHints.keep {hints : List (String × Value)} {fields : List Field}
    (shown : ShowsHints module answers earlier hints fields)
    (entries : ∀ {identity : String} {type : TypeRef}, earlier.find? identity = some type →
      later.find? identity = some type)
    (extended : later.Extends earlier) : ShowsHints module answers later hints fields :=
  shown.imp fun _ _ ⟨named, sketch, here⟩ => ⟨named, sketch, here.keep entries extended⟩

end

namespace Sound

variable {opened : List ClassRef} {known : Knowledge}

/-- What is remembered may change among the usual memories. -/
theorem withMemory (sound : Sound module answers asked usual opened known) {memory : Memory}
    (also : usual memory) : Sound module answers asked usual opened { known with memory } :=
  { sound with usual := also }

/-- A class is described when its composite shows its hints. -/
theorem closing {reference : ClassRef}
    (sound : Sound module answers asked usual (reference :: opened) known) {index : Nat}
    {hints : List (String × Value)}
    (found : known.catalog.find? (ClassValue.user reference).identity = some (.atom index))
    (told : drawHints answers reference = .ok hints)
    (shown : ∀ {atom : Atom}, known.catalog.atomAt? index = some atom →
      ShowsHints module answers known.catalog hints atom.fields) :
    Sound module answers asked usual opened known where
  usual := sound.usual
  entries := sound.entries
  plain := sound.plain
  composites {place atom} entered composite := by
    obtain ⟨other, occurs, drawn, standing, rest⟩ := sound.composites entered composite
    refine ⟨other, occurs, drawn, standing, ?_⟩
    rcases rest with among | complete
    · rcases List.mem_cons.mp among with rfl | still
      · obtain rfl := TypeRef.atom.inj (Option.some.inj (standing.symm.trans found))
        exact .inr ⟨hints, told, shown entered⟩
      · exact .inl still
    · exact .inr complete
  begun other member := sound.begun other (List.mem_cons_of_mem reference member)

/-- A new atom may be entered under its identity, when it is drawn and any class that it is the
composite of is under description from now on. -/
theorem push (sound : Sound module answers asked usual opened known) {atom : Atom}
    (unknown : known.catalog.find? atom.identity = none)
    (drawn : Drawn module answers asked (.atom atom)) (bare : atom.fields = [])
    {current : List ClassRef} (still : opened ⊆ current)
    (begins : ∀ reference ∈ current,
      reference ∈ opened ∨ (ClassValue.user reference).identity = atom.identity)
    (ofClass : atom.kind = .composite → ∃ reference ∈ current,
      Occurs module answers asked (.user reference) ∧
        classSketch module answers reference = .ok (.atom atom) ∧
        atom.identity = (ClassValue.user reference).identity) :
    Sound module answers asked usual current
        { known with catalog := known.catalog.push atom } ∧
      known.catalog.Keeps (known.catalog.push atom) ∧
      (known.catalog.push atom).find? atom.identity = some (.atom known.catalog.size) ∧
      (known.catalog.push atom).sketch? (.atom known.catalog.size) = some (.atom atom) := by
  have standing := known.catalog.atomAt?_push atom
  have keeps : known.catalog.Keeps (known.catalog.push atom) := .push unknown
  have new : (known.catalog.push atom).sketch? (.atom known.catalog.size) = some (.atom atom) := by
    refine Catalog.sketch?_atom.mpr ⟨atom, by rw [standing, if_pos rfl], ?_⟩
    rw [Atom.bare, ← bare]
  have own := known.catalog.find?_push_self atom
  refine ⟨⟨sound.usual, ?_, ?_, ?_, ?_⟩, keeps, own, new⟩
  · intro identity type found
    rcases Catalog.eq_or_find?_of_push found with ⟨same, rfl⟩ | found
    · exact ⟨.atom atom, drawn, same.symm, new⟩
    · obtain ⟨sketch, isDrawn, identical, shown⟩ := sound.entries found
      exact ⟨sketch, isDrawn, identical, keeps.sketch? shown⟩
  · intro index other present kind
    rw [standing] at present
    split_ifs at present
    · exact Option.some.inj present ▸ bare
    · exact sound.plain present kind
  · intro index other present kind
    rw [standing] at present
    split_ifs at present with last
    · -- The new composite has no fields yet, but its class is under description.
      obtain rfl := Option.some.inj present
      obtain ⟨reference, among, occurs, sketch, identity⟩ := ofClass kind
      refine ⟨reference, occurs, ?_, by rw [← identity, own, last], .inl among⟩
      rw [sketch, Atom.bare, ← bare]
    · obtain ⟨reference, occurs, sketch, found, rest⟩ := sound.composites present kind
      refine ⟨reference, occurs, sketch, keeps.entries found, rest.imp (still ·) ?_⟩
      rintro ⟨hints, told, shown⟩
      exact ⟨hints, told, shown.keep keeps.entries keeps.grown.extension⟩
  · intro reference member
    rcases begins reference member with before | same
    · exact keeps.isSome_find? (sound.begun reference before)
    · rw [Catalog.Knows, same, own]
      rfl

/-- A new construction may be entered under its identity, when it is drawn. -/
theorem enter (sound : Sound module answers asked usual opened known) {type : TypeRef}
    {sketch : Sketch} (shown : known.catalog.sketch? type = some sketch)
    (drawn : Drawn module answers asked sketch)
    (unknown : known.catalog.find? sketch.identity = none) :
    Sound module answers asked usual opened { known with catalog := known.catalog.enter type } ∧
      known.catalog.Keeps (known.catalog.enter type) := by
  have named := Catalog.identity_of_sketch? shown
  have keeps : known.catalog.Keeps (known.catalog.enter type) := .enter (named ▸ unknown)
  refine ⟨⟨sound.usual, ?_, sound.plain, ?_, fun reference member =>
    keeps.isSome_find? (sound.begun reference member)⟩, keeps⟩
  · intro identity other found
    rcases Catalog.eq_or_find?_of_enter found with ⟨same, rfl⟩ | found
    · exact ⟨sketch, drawn, named.symm.trans same.symm, keeps.sketch? shown⟩
    · obtain ⟨old, isDrawn, identical, standing⟩ := sound.entries found
      exact ⟨old, isDrawn, identical, keeps.sketch? standing⟩
  · intro index atom present kind
    obtain ⟨reference, occurs, own, found, rest⟩ := sound.composites present kind
    refine ⟨reference, occurs, own, keeps.entries found, rest.imp_right ?_⟩
    rintro ⟨hints, told, shownHints⟩
    exact ⟨hints, told, shownHints.keep keeps.entries keeps.grown.extension⟩

end Sound

end ServiceStubs
