import ServiceStubs.Proofs.Description.Growth
import ServiceStubs.Proofs.Results

/-!
# Sketches of types

A sketch is a type written out without the fields of its atoms, so it needs no table. It tells all
that can be seen of a type at once: its kind, its identity, its name, its members, its type
parameters, and of a construction its base and its arguments. What a catalog holds is compared by
sketches, since the same type may stand at different places of different catalogs. A type keeps its
sketch when a catalog is extended, because only fields are ever added to what is there.
-/

namespace ServiceStubs

/-- An atom without its fields. -/
def Atom.bare (atom : Atom) : Atom := { atom with fields := [] }

/-- A type written out without the fields of its atoms. -/
inductive Sketch
  /-- An atom without fields. -/
  | atom (bare : Atom)
  /-- A generic construction with its identity and name. -/
  | apply (identity name : String) (base : Sketch) (arguments : List Sketch)
deriving Inhabited

namespace Sketch

/-- The identity of what is sketched. -/
def identity : Sketch → String
  | atom bare => bare.identity
  | apply identity _ _ _ => identity

/-- The name of what is sketched. -/
def name : Sketch → String
  | atom bare => bare.name
  | apply _ name _ _ => name

/-- The type parameters of what is sketched. -/
def typeParameters : Sketch → List String
  | atom bare => bare.typeParameters
  | apply _ _ _ _ => []

/-- Whether a composite is sketched. -/
def isComposite : Sketch → Bool
  | atom bare => bare.kind = .composite
  | apply _ _ _ _ => false

/-- The sketch of a base applied to arguments. -/
def generic (base : Sketch) (arguments : List Sketch) : Sketch :=
  apply (base.identity ++ "[" ++ Text.joined "," (arguments.map identity) ++ "]") base.name base
    arguments

end Sketch

namespace Catalog

variable (catalog : Catalog)

mutual

/-- The sketch of a type whose atoms stand in the table of a catalog. -/
def sketch? : TypeRef → Option Sketch
  | .atom index => (catalog.atomAt? index).map fun atom => .atom atom.bare
  | .apply identity name base arguments => do
    let base ← sketch? base
    let arguments ← sketches? arguments
    return .apply identity name base arguments

/-- The sketches of several types. -/
def sketches? : List TypeRef → Option (List Sketch)
  | [] => some []
  | type :: rest => do
    let here ← sketch? type
    let later ← sketches? rest
    return here :: later

end

variable {catalog : Catalog}

/-- An atom has the sketch of what stands at its place. -/
theorem sketch?_atom {index : Nat} {sketch : Sketch} :
    catalog.sketch? (.atom index) = some sketch ↔
      ∃ atom, catalog.atomAt? index = some atom ∧ sketch = .atom atom.bare := by
  rw [sketch?, Option.map_eq_some_iff]
  exact exists_congr fun atom => and_congr_right fun _ => eq_comm

/-- A construction has a sketch when its base and its arguments have. -/
theorem sketch?_apply {identity name : String} {base : TypeRef} {arguments : List TypeRef}
    {sketch : Sketch} :
    catalog.sketch? (.apply identity name base arguments) = some sketch ↔
      ∃ first rest, catalog.sketch? base = some first ∧ catalog.sketches? arguments = some rest ∧
        sketch = .apply identity name first rest := by
  rw [sketch?]
  cases catalog.sketch? base <;> cases catalog.sketches? arguments <;> simp [eq_comm]

/-- Types have sketches when each of them has. -/
theorem sketches?_cons {type : TypeRef} {rest : List TypeRef} {sketches : List Sketch} :
    catalog.sketches? (type :: rest) = some sketches ↔
      ∃ first later, catalog.sketch? type = some first ∧ catalog.sketches? rest = some later ∧
        sketches = first :: later := by
  rw [sketches?]
  cases catalog.sketch? type <;> cases catalog.sketches? rest <;> simp [eq_comm]

/-- A place of the table has the atom of its graph. -/
theorem graph_atom {index : Nat} {atom : Atom} (entered : catalog.atomAt? index = some atom) :
    catalog.graph.atom index = atom :=
  Option.some.inj ((atomAt?_of_lt (lt_size entered)).symm.trans entered)

section

variable {type : TypeRef} {sketch : Sketch} (shown : catalog.sketch? type = some sketch)

include shown

/-- A type has the identity of its sketch. -/
theorem identity_of_sketch? : catalog.graph.identity type = sketch.identity := by
  cases type with
  | atom index =>
    obtain ⟨atom, entered, rfl⟩ := sketch?_atom.mp shown
    rw [TypeGraph.identity, graph_atom entered]
    rfl
  | apply identity name base arguments =>
    obtain ⟨_, _, _, _, rfl⟩ := sketch?_apply.mp shown
    rfl

/-- A type has the name of its sketch. -/
theorem name_of_sketch? : catalog.graph.name type = sketch.name := by
  cases type with
  | atom index =>
    obtain ⟨atom, entered, rfl⟩ := sketch?_atom.mp shown
    rw [TypeGraph.name, graph_atom entered]
    rfl
  | apply identity name base arguments =>
    obtain ⟨_, _, _, _, rfl⟩ := sketch?_apply.mp shown
    rfl

/-- A type has the type parameters of its sketch. -/
theorem typeParameters_of_sketch? : catalog.graph.typeParameters type = sketch.typeParameters := by
  cases type with
  | atom index =>
    obtain ⟨atom, entered, rfl⟩ := sketch?_atom.mp shown
    rw [TypeGraph.typeParameters, graph_atom entered]
    rfl
  | apply identity name base arguments =>
    obtain ⟨_, _, _, _, rfl⟩ := sketch?_apply.mp shown
    rfl

end

/-- Types have the identities of their sketches. -/
theorem identities_of_sketches? {types : List TypeRef} {sketches : List Sketch}
    (shown : catalog.sketches? types = some sketches) :
    types.map catalog.graph.identity = sketches.map Sketch.identity := by
  induction types generalizing sketches with
  | nil =>
    obtain rfl := Option.some.inj shown
    rfl
  | cons type rest ih =>
    obtain ⟨first, later, here, others, rfl⟩ := sketches?_cons.mp shown
    rw [List.map_cons, List.map_cons, ih others, identity_of_sketch? here]

/-- A generic construction has the sketch that is composed from those of its parts. -/
theorem sketch?_generic {base : TypeRef} {arguments : List TypeRef} {first : Sketch}
    {rest : List Sketch} (baseShown : catalog.sketch? base = some first)
    (argumentsShown : catalog.sketches? arguments = some rest) :
    catalog.sketch? (catalog.graph.generic base arguments) = some (.generic first rest) := by
  refine sketch?_apply.mpr ⟨first, rest, baseShown, argumentsShown, ?_⟩
  rw [TypeGraph.composedIdentity, identity_of_sketch? baseShown,
    identities_of_sketches? argumentsShown, name_of_sketch? baseShown]
  rfl

mutual

/-- A type keeps its sketch when the catalog is extended. -/
theorem sketch?_extend {later : Catalog} (extended : later.Extends catalog) (type : TypeRef)
    {sketch : Sketch}
    (shown : catalog.sketch? type = some sketch) : later.sketch? type = some sketch := by
  cases type with
  | atom index =>
    obtain ⟨atom, entered, rfl⟩ := sketch?_atom.mp shown
    obtain ⟨fields, kept⟩ := extended entered
    exact sketch?_atom.mpr ⟨_, kept, rfl⟩
  | apply identity name base arguments =>
    obtain ⟨first, rest, baseShown, argumentsShown, rfl⟩ := sketch?_apply.mp shown
    exact sketch?_apply.mpr ⟨first, rest, sketch?_extend extended base baseShown,
      sketches?_extend extended arguments argumentsShown, rfl⟩

/-- Types keep their sketches when the catalog is extended. -/
theorem sketches?_extend {later : Catalog} (extended : later.Extends catalog)
    (types : List TypeRef) {sketches : List Sketch}
    (shown : catalog.sketches? types = some sketches) :
    later.sketches? types = some sketches := by
  cases types with
  | nil => exact shown
  | cons type rest =>
    obtain ⟨first, others, here, elsewhere, rfl⟩ := sketches?_cons.mp shown
    exact sketches?_cons.mpr ⟨first, others, sketch?_extend extended type here,
      sketches?_extend extended rest elsewhere, rfl⟩

end

/-! ## Catalogs that keep what they have -/

/-- Whether a later catalog has all that an earlier one has as it was. -/
structure Keeps (earlier later : Catalog) : Prop where
  grown : Grown (fun _ _ => True) earlier later
  entries : ∀ {identity : String} {type : TypeRef}, earlier.find? identity = some type →
    later.find? identity = some type

namespace Keeps

variable {earlier later last : Catalog}

/-- A catalog keeps what it has. -/
theorem refl (catalog : Catalog) : Keeps catalog catalog := ⟨.refl _, id⟩

/-- What is kept twice is kept. -/
theorem trans (first : Keeps earlier later) (second : Keeps later last) : Keeps earlier last :=
  ⟨first.grown.trans (fun _ _ _ _ _ => trivial) second.grown,
    fun found => second.entries (first.entries found)⟩

/-- A new atom leaves what there is as it was. -/
theorem push {catalog : Catalog} {atom : Atom} (unknown : catalog.find? atom.identity = none) :
    catalog.Keeps (catalog.push atom) where
  grown := .of_push [] (.refl _) trivial
  entries found := by
    rw [find?_push, if_neg, found]
    rintro rfl
    exact absurd (unknown.symm.trans found) nofun

/-- A new entry leaves what there is as it was. -/
theorem enter {catalog : Catalog} {type : TypeRef}
    (unknown : catalog.find? (catalog.graph.identity type) = none) :
    catalog.Keeps (catalog.enter type) where
  grown := .of_graph rfl
  entries found := by
    rw [find?_enter, if_neg, found]
    rintro rfl
    exact absurd (unknown.symm.trans found) nofun

/-- A type keeps its sketch. -/
theorem sketch? (keeps : Keeps earlier later) {type : TypeRef} {sketch : Sketch}
    (shown : earlier.sketch? type = some sketch) : later.sketch? type = some sketch :=
  sketch?_extend keeps.grown.extension type shown

/-- Types keep their sketches. -/
theorem sketches? (keeps : Keeps earlier later) {types : List TypeRef} {sketches : List Sketch}
    (shown : earlier.sketches? types = some sketches) : later.sketches? types = some sketches :=
  sketches?_extend keeps.grown.extension types shown

/-- A known identity stays known. -/
theorem isSome_find? (keeps : Keeps earlier later) {identity : String}
    (known : (earlier.find? identity).isSome) : (later.find? identity).isSome := by
  obtain ⟨type, found⟩ := Option.isSome_iff_exists.mp known
  rw [keeps.entries found]
  rfl

end Keeps

end Catalog

end ServiceStubs
