import ServiceStubs.Closure
import ServiceStubs.Proofs.Results

/-!
# Atoms under a type

Which atoms stand under a type does not depend on any registry: a generic construction has those
of its base and then those of its argument, and one without exactly one argument is an error. A
registry only sorts out the atoms that it knows already. A type is covered by a registry when it
has no malformed construction and the registry knows every atom under it; a registry that knows
more covers more.
-/

namespace ServiceStubs

/-- The atoms under a type in order. -/
def TypeRef.leaves : TypeRef → Except StubError (List Nat)
  | .atom index => .ok [index]
  | .apply _ _ base [argument] => do
    let inBase ← base.leaves
    let inArgument ← argument.leaves
    return inBase ++ inArgument
  | .apply identity _ _ arguments => .error (.genericArity identity arguments.length)

/-- The atoms under several types in order. -/
def TypeRef.leavesOfAll : List TypeRef → Except StubError (List Nat)
  | [] => .ok []
  | type :: rest => do
    let here ← type.leaves
    let later ← leavesOfAll rest
    return here ++ later

section

variable {left right : Except StubError (List Nat)}

/-- Two searches one after another succeed when both do, with what they find in order. -/
theorem appended_ok {found : List Nat} :
    (do
      let first ← left
      let second ← right
      return first ++ second) = .ok found ↔
      ∃ first second, left = .ok first ∧ right = .ok second ∧ found = first ++ second := by
  constructor
  · intro whole
    obtain ⟨first, fromLeft, others⟩ := bind_eq_ok.mp whole
    obtain ⟨second, fromRight, same⟩ := bind_eq_ok.mp others
    exact ⟨first, second, fromLeft, fromRight, (Except.ok.inj same).symm⟩
  · rintro ⟨first, second, rfl, rfl, rfl⟩
    rfl

/-- Sorting out atoms after two searches is sorting them out after each. -/
theorem appended_filter (keep : Nat → Bool) :
    (do
      let first ← left
      let second ← right
      return first ++ second).map (List.filter keep) =
      (do
        let first ← left.map (List.filter keep)
        let second ← right.map (List.filter keep)
        return first ++ second) := by
  cases left with
  | error failure => rfl
  | ok first =>
    cases right with
    | error failure => rfl
    | ok second => simp [bind, Except.bind, pure, Except.pure, Except.map]

end

namespace TypeRef

/-- Every type of a list whose atoms are found has its atoms among them. -/
theorem leavesOfAll_mem {types : List TypeRef} {atoms : List Nat}
    (found : leavesOfAll types = .ok atoms) {type : TypeRef} (member : type ∈ types) :
    ∃ here, type.leaves = .ok here ∧ here ⊆ atoms := by
  induction types generalizing atoms with
  | nil => simp at member
  | cons head rest ih =>
    obtain ⟨here, later, first, others, rfl⟩ := appended_ok.mp found
    rcases List.mem_cons.mp member with rfl | inRest
    · exact ⟨here, first, List.subset_append_left here later⟩
    · obtain ⟨part, located, inside⟩ := ih others inRest
      exact ⟨part, located, fun index known => List.mem_append_right here (inside known)⟩

/-- Every atom found under a list of types is found under one of them. -/
theorem mem_leavesOfAll {types : List TypeRef} {atoms : List Nat}
    (found : leavesOfAll types = .ok atoms) {index : Nat} (member : index ∈ atoms) :
    ∃ type ∈ types, ∃ here, type.leaves = .ok here ∧ index ∈ here := by
  induction types generalizing atoms with
  | nil =>
    obtain rfl : [] = atoms := by simpa [leavesOfAll] using found
    simp at member
  | cons head rest ih =>
    obtain ⟨here, later, first, others, rfl⟩ := appended_ok.mp found
    rcases List.mem_append.mp member with inHere | inLater
    · exact ⟨head, List.mem_cons_self, here, first, inHere⟩
    · obtain ⟨type, inRest, part, located, inPart⟩ := ih others inLater
      exact ⟨type, List.mem_cons_of_mem head inRest, part, located, inPart⟩

end TypeRef

namespace Registry

variable (registry : Registry) (graph : TypeGraph)

/-- The unknown atoms under a type are its atoms without those that are known. -/
theorem unknownAtoms_eq (type : TypeRef) :
    registry.unknownAtoms graph type =
      type.leaves.map (List.filter fun index => !registry.isKnown graph (.atom index)) := by
  induction type using TypeRef.leaves.induct with
  | case1 index =>
    cases known : registry.isKnown graph (.atom index) <;>
      simp [unknownAtoms, TypeRef.leaves, Except.map, known]
  | case2 identity name base argument inBase inArgument =>
    rw [unknownAtoms, TypeRef.leaves, inBase, inArgument, appended_filter]
  | case3 identity name base arguments malformed =>
    rw [unknownAtoms, TypeRef.leaves]
    · rfl
    · exact malformed
    · exact malformed

/-- The unknown atoms under several types are their atoms without those that are known. -/
theorem unknownAtomsOfAll_eq (types : List TypeRef) :
    Closure.unknownAtomsOfAll registry graph types =
      (TypeRef.leavesOfAll types).map
        (List.filter fun index => !registry.isKnown graph (.atom index)) := by
  induction types with
  | nil => rfl
  | cons head rest ih =>
    rw [Closure.unknownAtomsOfAll, TypeRef.leavesOfAll, unknownAtoms_eq, ih, appended_filter]

/-- Every construction under a type has one argument, and every atom under it is known. -/
def Covers (type : TypeRef) : Prop :=
  ∃ atoms, type.leaves = .ok atoms ∧ ∀ index ∈ atoms, registry.isKnown graph (.atom index)

/-- An atom is covered when it is known. -/
theorem covers_atom {index : Nat} :
    registry.Covers graph (.atom index) ↔ registry.isKnown graph (.atom index) := by
  simp [Covers, TypeRef.leaves]

/-- A construction is covered when its base and its argument are. -/
theorem covers_apply {identity name : String} {base argument : TypeRef} :
    registry.Covers graph (.apply identity name base [argument]) ↔
      registry.Covers graph base ∧ registry.Covers graph argument := by
  constructor
  · rintro ⟨atoms, found, known⟩
    obtain ⟨inBase, inArgument, baseFound, argumentFound, rfl⟩ := appended_ok.mp found
    exact ⟨⟨inBase, baseFound, fun index member => known index (List.mem_append_left _ member)⟩,
      ⟨inArgument, argumentFound, fun index member =>
        known index (List.mem_append_right _ member)⟩⟩
  · rintro ⟨⟨inBase, baseFound, baseKnown⟩, ⟨inArgument, argumentFound, argumentKnown⟩⟩
    refine ⟨inBase ++ inArgument,
      appended_ok.mpr ⟨_, _, baseFound, argumentFound, rfl⟩, fun index member => ?_⟩
    rcases List.mem_append.mp member with inFirst | inSecond
    · exact baseKnown index inFirst
    · exact argumentKnown index inSecond

/-- A construction that is covered has one argument. -/
theorem Covers.one_argument {registry : Registry} {graph : TypeGraph} {identity name : String}
    {base : TypeRef} {arguments : List TypeRef}
    (covered : registry.Covers graph (.apply identity name base arguments)) :
    ∃ argument, arguments = [argument] := by
  obtain ⟨atoms, found, _⟩ := covered
  by_contra malformed
  rw [TypeRef.leaves] at found
  · cases found
  · exact fun argument single => malformed ⟨argument, single⟩

/-- Every type of a list is covered. -/
def CoversAll (types : List TypeRef) : Prop := ∀ type ∈ types, registry.Covers graph type

end Registry

end ServiceStubs
