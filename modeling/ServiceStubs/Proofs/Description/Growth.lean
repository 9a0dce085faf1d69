import Mathlib.Data.List.Basic
import ServiceStubs.Description.Catalog

/-!
# Growing catalogs

Requests enter types and append fields, and take nothing back. A catalog extends an earlier one
when every type stands where it stood and has at least the fields it had. It has grown when the
earlier types are even as they were and those entered since have some property, which may depend on
what the catalog holds as long as an extension does not spoil it.
-/

namespace ServiceStubs

namespace Catalog

/-- The type that a catalog has at a place of its table. -/
def atomAt? (catalog : Catalog) (index : Nat) : Option Atom := catalog.graph.atoms[index]?

/-- The number of types in the table of a catalog. -/
def size (catalog : Catalog) : Nat := catalog.graph.size

/-- Only places below the size of a table have a type. -/
theorem lt_size {catalog : Catalog} {index : Nat} {atom : Atom}
    (entered : catalog.atomAt? index = some atom) : index < catalog.size :=
  (Array.getElem?_eq_some_iff.mp entered).1

/-- Below the size of a table stands the type that its graph has there. -/
theorem atomAt?_of_lt {catalog : Catalog} {index : Nat} (below : index < catalog.size) :
    catalog.atomAt? index = some (catalog.graph.atom index) := by
  rw [TypeGraph.atom, Array.getD_eq_getD_getElem?, atomAt?, Array.getElem?_eq_getElem below]
  rfl

/-- A type of a graph that is a composite stands in the table. -/
theorem atomAt?_of_composite {catalog : Catalog} {index : Nat}
    (composite : (catalog.graph.atom index).kind = .composite) :
    catalog.atomAt? index = some (catalog.graph.atom index) := by
  by_cases below : index < catalog.size
  · exact atomAt?_of_lt below
  · rw [TypeGraph.atom, Array.getD_eq_getD_getElem?,
      Array.getElem?_eq_none (Nat.not_lt.mp below)] at composite
    cases composite

/-! ## Extensions -/

/-- Whether every type of an earlier catalog stands in a later one where it stood, with at least
its fields. -/
def Extends (later earlier : Catalog) : Prop :=
  ∀ ⦃index atom⦄, earlier.atomAt? index = some atom →
    ∃ fields, later.atomAt? index = some { atom with fields := atom.fields ++ fields }

/-- Extensions compose. -/
theorem Extends.trans {first second third : Catalog} (later : third.Extends second)
    (earlier : second.Extends first) : third.Extends first := by
  intro index atom entered
  obtain ⟨fields, kept⟩ := earlier entered
  obtain ⟨further, present⟩ := later kept
  exact ⟨fields ++ further, by rw [present, List.append_assoc]⟩

/-! ## Appended fields -/

/-- Append fields in order to the type at a place. -/
def appendFields (catalog : Catalog) (index : Nat) (fields : List Field) : Catalog :=
  fields.foldl (fun catalog field => catalog.appendField (.atom index) field) catalog

/-- The type at a place is the only one that gets fields. -/
theorem atomAt?_appendFields (catalog : Catalog) (index : Nat) (fields : List Field) (other : Nat) :
    (catalog.appendFields index fields).atomAt? other =
      if index = other then
        (catalog.atomAt? other).map fun atom => { atom with fields := atom.fields ++ fields }
      else catalog.atomAt? other := by
  induction fields generalizing catalog with
  | nil => simp [appendFields]
  | cons field rest ih =>
    have first : (catalog.appendField (.atom index) field).atomAt? other =
        if index = other then
          (catalog.atomAt? other).map fun atom => { atom with fields := atom.fields ++ [field] }
        else catalog.atomAt? other :=
      Array.getElem?_modify
    rw [appendFields, List.foldl_cons, ← appendFields, ih, first]
    by_cases same : index = other
    · simp [same, Function.comp_def]
    · simp [same]

/-- Fields take no place in the table. -/
theorem size_appendFields (catalog : Catalog) (index : Nat) (fields : List Field) :
    (catalog.appendFields index fields).size = catalog.size := by
  induction fields generalizing catalog with
  | nil => rfl
  | cons field rest ih =>
    rw [appendFields, List.foldl_cons, ← appendFields, ih]
    exact Array.size_modify

/-- Fields are no entries. -/
theorem find?_appendFields (catalog : Catalog) (index : Nat) (fields : List Field)
    (identity : String) :
    (catalog.appendFields index fields).find? identity = catalog.find? identity := by
  induction fields generalizing catalog with
  | nil => rfl
  | cons field rest ih =>
    rw [appendFields, List.foldl_cons, ← appendFields, ih]
    rfl

/-- A catalog is extended by fields. -/
theorem extends_appendFields (catalog : Catalog) (index : Nat) (fields : List Field) :
    (catalog.appendFields index fields).Extends catalog := by
  intro other atom entered
  rw [atomAt?_appendFields, entered]
  by_cases same : index = other
  · exact ⟨fields, by simp [same]⟩
  · exact ⟨[], by simp [same]⟩

/-! ## Growth -/

/-- How a catalog grows by types with a property. -/
structure Grown (holds : Catalog → Atom → Prop) (earlier later : Catalog) : Prop where
  size_le : earlier.size ≤ later.size
  /-- What was there before is as it was. -/
  kept : ∀ ⦃index⦄, index < earlier.size → later.atomAt? index = earlier.atomAt? index
  /-- What is new has the property. -/
  added : ∀ ⦃index atom⦄, earlier.size ≤ index → later.atomAt? index = some atom →
    holds later atom

/-- Whether a property of a type in a catalog outlasts extensions of the catalog. -/
def Lasting (holds : Catalog → Atom → Prop) : Prop :=
  ∀ ⦃earlier later atom⦄, Extends later earlier → holds earlier atom → holds later atom

namespace Grown

variable {holds : Catalog → Atom → Prop} {earlier later : Catalog}

/-- A grown catalog is an extension. -/
theorem extension (grown : Grown holds earlier later) : later.Extends earlier :=
  fun _ atom entered => ⟨[], by rw [grown.kept (lt_size entered), entered, List.append_nil]⟩

/-- A catalog has grown by nothing. -/
theorem refl (catalog : Catalog) : Grown holds catalog catalog where
  size_le := Nat.le_refl _
  kept _ _ := rfl
  added _ _ beyond entered := absurd (lt_size entered) (Nat.not_lt.mpr beyond)

/-- The property may be weakened. -/
theorem mono {weaker : Catalog → Atom → Prop} (grown : Grown holds earlier later)
    (implies : ∀ catalog atom, holds catalog atom → weaker catalog atom) :
    Grown weaker earlier later where
  size_le := grown.size_le
  kept := grown.kept
  added _ _ beyond entered := implies _ _ (grown.added beyond entered)

/-- What has grown twice has grown, when the property outlasts the second growth. -/
theorem trans (lasting : Lasting holds) {last : Catalog} (first : Grown holds earlier later)
    (second : Grown holds later last) : Grown holds earlier last where
  size_le := Nat.le_trans first.size_le second.size_le
  kept index below :=
    (second.kept (Nat.lt_of_lt_of_le below first.size_le)).trans (first.kept below)
  added index atom beyond entered := by
    by_cases early : index < later.size
    · rw [second.kept early] at entered
      exact lasting second.extension (first.added beyond entered)
    · exact second.added (Nat.not_lt.mp early) entered

/-- Fields may be appended to an earlier type before or after a catalog grows. -/
theorem appendFields (lasting : Lasting holds) (grown : Grown holds earlier later) {index : Nat}
    (early : index < earlier.size) (fields : List Field) :
    Grown holds (earlier.appendFields index fields) (later.appendFields index fields) where
  size_le := by
    rw [size_appendFields, size_appendFields]
    exact grown.size_le
  kept other below := by
    rw [size_appendFields] at below
    rw [atomAt?_appendFields, atomAt?_appendFields, grown.kept below]
  added other atom beyond entered := by
    rw [size_appendFields] at beyond
    rw [atomAt?_appendFields, if_neg (by omega)] at entered
    exact lasting (later.extends_appendFields index fields) (grown.added beyond entered)

/-- A catalog with the same table has grown by nothing. -/
theorem of_graph (same : later.graph = earlier.graph) : Grown holds earlier later := by
  have entries (index : Nat) : later.atomAt? index = earlier.atomAt? index := by
    rw [atomAt?, same, ← atomAt?]
  have sizes : later.size = earlier.size := congrArg TypeGraph.size same
  exact {
    size_le := Nat.le_of_eq sizes.symm
    kept := fun index _ => entries index
    added := fun index atom beyond entered =>
      absurd (sizes ▸ lt_size entered) (Nat.not_lt.mpr beyond) }

end Grown

/-! ## Entering types -/

/-- The catalog with a new atom at the end of its table and under its identity. -/
def push (catalog : Catalog) (atom : Atom) : Catalog where
  graph := ⟨catalog.graph.atoms.push atom⟩
  known := catalog.known.put atom.identity (.atom catalog.size)

/-- An atom with a known identity is not entered. -/
theorem keepAtom_of_known {catalog : Catalog} {atom : Atom} {type : TypeRef}
    (known : catalog.find? atom.identity = some type) :
    catalog.keepAtom atom = (type, catalog) := by
  rw [keepAtom, known]

/-- An atom with an unknown identity is entered. -/
theorem keepAtom_of_unknown {catalog : Catalog} {atom : Atom}
    (unknown : catalog.find? atom.identity = none) :
    catalog.keepAtom atom = (.atom catalog.size, catalog.push atom) := by
  rw [keepAtom, unknown]
  rfl

/-- A new atom stands at the end of the table. -/
theorem atomAt?_push (catalog : Catalog) (atom : Atom) (index : Nat) :
    (catalog.push atom).atomAt? index =
      if index = catalog.size then some atom else catalog.atomAt? index :=
  Array.getElem?_push

/-- A new atom takes one place. -/
theorem size_push (catalog : Catalog) (atom : Atom) :
    (catalog.push atom).size = catalog.size + 1 :=
  Array.size_push _

/-- A new atom stands at a place of the table. -/
theorem size_lt_push (catalog : Catalog) (atom : Atom) :
    catalog.size < (catalog.push atom).size :=
  Nat.lt_of_lt_of_eq (Nat.lt_succ_self _) (catalog.size_push atom).symm

/-- A new atom is found under its identity, and everything else as before. -/
theorem find?_push (catalog : Catalog) (atom : Atom) (identity : String) :
    (catalog.push atom).find? identity =
      if identity = atom.identity then some (.atom catalog.size) else catalog.find? identity :=
  OrderedMap.get?_put _ _ _ _

/-- A new atom is found. -/
theorem find?_push_self (catalog : Catalog) (atom : Atom) :
    (catalog.push atom).find? atom.identity = some (.atom catalog.size) := by
  rw [find?_push, if_pos rfl]

/-- What is found after a new atom is the atom, or was found before. -/
theorem eq_or_find?_of_push {catalog : Catalog} {atom : Atom} {identity : String} {type : TypeRef}
    (entry : (catalog.push atom).find? identity = some type) :
    identity = atom.identity ∧ type = .atom catalog.size ∨
      catalog.find? identity = some type := by
  rw [find?_push] at entry
  split_ifs at entry with same
  · exact .inl ⟨same, (Option.some.inj entry).symm⟩
  · exact .inr entry

/-- A new entry is found under its identity, and everything else as before. -/
theorem find?_enter (catalog : Catalog) (type : TypeRef) (identity : String) :
    (catalog.enter type).find? identity =
      if identity = catalog.graph.identity type then some type else catalog.find? identity :=
  OrderedMap.get?_put _ _ _ _

/-- A new entry is found. -/
theorem find?_enter_self (catalog : Catalog) (type : TypeRef) :
    (catalog.enter type).find? (catalog.graph.identity type) = some type := by
  rw [find?_enter, if_pos rfl]

/-- What is found after a new entry is the entry, or was found before. -/
theorem eq_or_find?_of_enter {catalog : Catalog} {type other : TypeRef} {identity : String}
    (entry : (catalog.enter type).find? identity = some other) :
    identity = catalog.graph.identity type ∧ other = type ∨
      catalog.find? identity = some other := by
  rw [find?_enter] at entry
  split_ifs at entry with same
  · exact .inl ⟨same, (Option.some.inj entry).symm⟩
  · exact .inr entry

/-- What an identity is kept as is its entry. -/
theorem find?_keepAtom {catalog later : Catalog} {atom : Atom} {type : TypeRef}
    (kept : catalog.keepAtom atom = (type, later)) : later.find? atom.identity = some type := by
  cases found : catalog.find? atom.identity with
  | some earlier =>
    obtain ⟨rfl, rfl⟩ := Prod.mk.inj ((keepAtom_of_known found).symm.trans kept)
    exact found
  | none =>
    obtain ⟨rfl, rfl⟩ := Prod.mk.inj ((keepAtom_of_unknown found).symm.trans kept)
    exact catalog.find?_push_self atom

/-- A catalog has grown since before a type was entered if it has grown since the type got its
fields, and if the type with them has the property in the end. -/
theorem Grown.of_push {holds : Catalog → Atom → Prop} {earlier later : Catalog} {atom : Atom}
    (fields : List Field)
    (grown : Grown holds ((earlier.push atom).appendFields earlier.size fields) later)
    (present : holds later { atom with fields := atom.fields ++ fields }) :
    Grown holds earlier later := by
  have size : ((earlier.push atom).appendFields earlier.size fields).size = earlier.size + 1 :=
    (size_appendFields _ _ _).trans (earlier.size_push atom)
  refine ⟨?_, fun index below => ?_, fun index found beyond standing => ?_⟩
  · have := grown.size_le
    omega
  · rw [grown.kept (by omega), atomAt?_appendFields, if_neg (by omega), atomAt?_push,
      if_neg (by omega)]
  · by_cases last : index = earlier.size
    · rw [grown.kept (by omega), atomAt?_appendFields, if_pos last.symm, atomAt?_push,
        if_pos last] at standing
      obtain rfl := Option.some.inj standing
      exact present
    · exact grown.added (by omega) standing

/-- A construction with a known identity is not entered. -/
theorem keepGeneric_of_known {catalog : Catalog} {base type : TypeRef} {arguments : List TypeRef}
    (known : catalog.find? (catalog.graph.composedIdentity base arguments) = some type) :
    catalog.keepGeneric base arguments = (type, catalog) := by
  rw [keepGeneric, TypeGraph.identity_generic, known]

/-- A construction with an unknown identity is entered. -/
theorem keepGeneric_of_unknown {catalog : Catalog} {base : TypeRef} {arguments : List TypeRef}
    (unknown : catalog.find? (catalog.graph.composedIdentity base arguments) = none) :
    catalog.keepGeneric base arguments =
      (catalog.graph.generic base arguments,
        catalog.enter (catalog.graph.generic base arguments)) := by
  rw [keepGeneric, TypeGraph.identity_generic, unknown]

/-- A constructed type takes no place in the table. -/
theorem graph_keepGeneric (catalog : Catalog) (base : TypeRef) (arguments : List TypeRef) :
    (catalog.keepGeneric base arguments).2.graph = catalog.graph := by
  cases found : catalog.find? (catalog.graph.composedIdentity base arguments) with
  | some type => rw [keepGeneric_of_known found]
  | none => rw [keepGeneric_of_unknown found]; rfl

end Catalog

end ServiceStubs
