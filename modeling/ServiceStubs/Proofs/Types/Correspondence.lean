import ServiceStubs.Proofs.Outcomes
import ServiceStubs.Proofs.Types.Leaves

/-!
# Corresponding types

The types of two graphs correspond when they are alike in everything but their identities and the
parts of the one correspond to the parts of the other, all the way down and round every cycle. Of
identities it only matters which ones are equal: two types have one identity on the one side exactly
when their counterparts have one on the other. So a graph corresponds to what it becomes when its
identities are renamed, and to any other way in which the same types are shared.
-/

namespace ServiceStubs.TypeGraph

variable {left right : TypeGraph} {related : TypeRef → TypeRef → Prop}

/-- Whether fields have one name and related types. -/
def FieldsAlike (related : TypeRef → TypeRef → Prop) (field other : Field) : Prop :=
  field.name = other.name ∧ related field.type other.type

/-- What two types of two graphs have in common when their parts are related. -/
structure Matches (left right : TypeGraph) (related : TypeRef → TypeRef → Prop)
    (first second : TypeRef) : Prop where
  kind : left.kind first = right.kind second
  name : left.name first = right.name second
  members : left.members first = right.members second
  typeParameters : left.typeParameters first = right.typeParameters second
  fields : List.Forall₂ (FieldsAlike related) (left.fields first) (right.fields second)
  base : Option.Rel related first.base? second.base?
  arguments : List.Forall₂ related first.arguments second.arguments

/-- A relation of the types of two graphs that are alike part by part. -/
structure Correspondence (left right : TypeGraph) (related : TypeRef → TypeRef → Prop) : Prop where
  alike : ∀ {first second : TypeRef}, related first second →
    left.Matches right related first second
  /-- Types are the same on the one side exactly when they are on the other. -/
  same : ∀ {first second third fourth : TypeRef}, related first second → related third fourth →
    (left.identity first = left.identity third ↔ right.identity second = right.identity fourth)

/-- Errors that tell the same of related types. -/
inductive SameError (left right : TypeGraph) (related : TypeRef → TypeRef → Prop) :
    StubError → StubError → Prop
  /-- Related types have the same wrong number of arguments. -/
  | genericArity {first second : TypeRef} (types : related first second) (count : Int) :
      SameError left right related (.genericArity (left.identity first) count)
        (.genericArity (right.identity second) count)
  /-- Related types cannot be declared. -/
  | unmappableType {first second : TypeRef} (types : related first second) (kind : String) :
      SameError left right related (.unmappableType (left.identity first) kind)
        (.unmappableType (right.identity second) kind)

/-- Whether two atoms are related as types. -/
def AtomsRelated (related : TypeRef → TypeRef → Prop) (index other : Nat) : Prop :=
  related (.atom index) (.atom other)

namespace Correspondence

variable (corresponds : left.Correspondence right related)

include corresponds

/-- Only an atom corresponds to an atom. -/
theorem of_atom {index : Nat} {second : TypeRef} (types : related (.atom index) second) :
    ∃ other, second = .atom other := by
  have kind := (corresponds.alike types).kind
  cases second with
  | atom other => exact ⟨other, rfl⟩
  | apply identity name base arguments =>
    change (left.atom index).kind.kind = .generic at kind
    cases shape : (left.atom index).kind <;> simp [shape, AtomKind.kind] at kind

/-- Only a construction corresponds to a construction, and their parts correspond. -/
theorem of_apply {identity name : String} {base : TypeRef} {arguments : List TypeRef}
    {second : TypeRef} (types : related (.apply identity name base arguments) second) :
    ∃ otherIdentity otherName otherBase otherArguments,
      second = .apply otherIdentity otherName otherBase otherArguments ∧
      related base otherBase ∧ List.Forall₂ related arguments otherArguments := by
  have alike := corresponds.alike types
  cases second with
  | atom index =>
    have kind : TypeKind.generic = (right.atom index).kind.kind := alike.kind
    cases shape : (right.atom index).kind <;> simp [shape, AtomKind.kind] at kind
  | apply otherIdentity otherName otherBase otherArguments =>
    have bases := alike.base
    simp only [TypeRef.base?, Option.rel_some_some] at bases
    exact ⟨_, _, _, _, rfl, bases, alike.arguments⟩

/-- Corresponding atoms are of one kind. -/
theorem atomKind {index other : Nat} (atoms : AtomsRelated related index other) :
    (left.atom index).kind = (right.atom other).kind := by
  have kinds : (left.atom index).kind.kind = (right.atom other).kind.kind :=
    (corresponds.alike atoms).kind
  cases first : (left.atom index).kind <;> cases second : (right.atom other).kind <;>
    simp [first, second, AtomKind.kind] at kinds ⊢

/-- Under corresponding types stand corresponding atoms, or both are malformed. -/
theorem leaves {first second : TypeRef} (types : related first second) :
    Agree (SameError left right related) (List.Forall₂ (AtomsRelated related)) first.leaves
      second.leaves := by
  induction first using TypeRef.leaves.induct generalizing second with
  | case1 index =>
    obtain ⟨other, rfl⟩ := corresponds.of_atom types
    exact .ok (.cons types .nil)
  | case2 identity name base argument inBase inArgument =>
    obtain ⟨_, _, otherBase, _, rfl, bases, arguments⟩ := corresponds.of_apply types
    obtain ⟨otherArgument, _, here, rest, rfl⟩ := List.forall₂_cons_left_iff.mp arguments
    obtain rfl := List.forall₂_nil_left_iff.mp rest
    rw [TypeRef.leaves, TypeRef.leaves]
    refine (inBase bases).bind fun _ _ baseAtoms => ?_
    exact (inArgument here).bind fun _ _ argumentAtoms =>
      .ok (List.rel_append baseAtoms argumentAtoms)
  | case3 identity name base arguments malformed =>
    obtain ⟨otherIdentity, otherName, otherBase, otherArguments, rfl, _, counted⟩ :=
      corresponds.of_apply types
    have lengths := counted.length_eq
    have alsoMalformed : ∀ argument, otherArguments = [argument] → False := by
      rintro argument rfl
      obtain ⟨single, rfl⟩ := List.length_eq_one_iff.mp lengths
      exact malformed single rfl
    rw [TypeRef.leaves.eq_3 _ _ _ _ malformed, TypeRef.leaves.eq_3 _ _ _ _ alsoMalformed, lengths]
    exact .error (.genericArity types _)

/-- Under corresponding types stand corresponding atoms, list by list. -/
theorem leavesOfAll {types others : List TypeRef} (lists : List.Forall₂ related types others) :
    Agree (SameError left right related) (List.Forall₂ (AtomsRelated related))
      (TypeRef.leavesOfAll types) (TypeRef.leavesOfAll others) := by
  induction lists with
  | nil => exact .ok .nil
  | cons here _ ih =>
    rw [TypeRef.leavesOfAll, TypeRef.leavesOfAll]
    refine (corresponds.leaves here).bind fun _ _ first => ?_
    exact ih.bind fun _ _ later => .ok (List.rel_append first later)

end Correspondence

end ServiceStubs.TypeGraph
