import ServiceStubs.Proofs.Registry.Registration
import ServiceStubs.Proofs.Types.Leaves

/-!
# Reachable types

A search that starts from seed types may follow a generic construction to its base and to its
argument, and a composite that its registry does not know to the types of its fields. Nothing
else leads on: a known composite is not entered, and enumerations, primitives and parameters have
no successors.

References are told apart by identity alone. The identity contract asks that types with one
identity also have one shape, as far as identities show it; then what holds of one reference for
the sake of its atoms holds of every other reference to the same type.
-/

namespace ServiceStubs

/-- What two references to one type have in common under the identity contract. -/
structure TypeGraph.SameShape (graph : TypeGraph) (left right : TypeRef) : Prop where
  kind : graph.kind left = graph.kind right
  fields : (graph.fields left).map (fun field => (field.name, graph.identity field.type)) =
    (graph.fields right).map fun field => (field.name, graph.identity field.type)
  base : left.base?.map graph.identity = right.base?.map graph.identity
  arguments : left.arguments.map graph.identity = right.arguments.map graph.identity

/-- Atoms of one shape are of one kind. -/
theorem TypeGraph.SameShape.atomKind {graph : TypeGraph} {left right : Nat}
    (shape : graph.SameShape (.atom left) (.atom right)) :
    (graph.atom left).kind = (graph.atom right).kind := by
  have kinds : (graph.atom left).kind.kind = (graph.atom right).kind.kind := shape.kind
  cases first : (graph.atom left).kind <;> cases second : (graph.atom right).kind <;>
    simp [first, second, AtomKind.kind] at kinds ⊢

/-- Every field of a type has a counterpart of the same type in all types of its shape. -/
theorem TypeGraph.SameShape.counterpart {graph : TypeGraph} {left right : TypeRef}
    (shape : graph.SameShape left right) {field : Field} (member : field ∈ graph.fields right) :
    ∃ twin ∈ graph.fields left, graph.identity twin.type = graph.identity field.type := by
  have image : (field.name, graph.identity field.type) ∈
      (graph.fields left).map fun field => (field.name, graph.identity field.type) := by
    rw [shape.fields]
    exact List.mem_map.mpr ⟨field, member, rfl⟩
  obtain ⟨twin, inLeft, same⟩ := List.mem_map.mp image
  exact ⟨twin, inLeft, congrArg Prod.snd same⟩

/-- Among some types, those with one identity have one shape. -/
def TypeGraph.IdentityContract (graph : TypeGraph) (among : TypeRef → Prop) : Prop :=
  ∀ left right, among left → among right → graph.identity left = graph.identity right →
    graph.SameShape left right

/-- The contract holds among some of the types among which it holds. -/
theorem TypeGraph.IdentityContract.mono {graph : TypeGraph} {among fewer : TypeRef → Prop}
    (contract : graph.IdentityContract among) (fewerAmong : ∀ type, fewer type → among type) :
    graph.IdentityContract fewer :=
  fun left right leftFewer rightFewer =>
    contract left right (fewerAmong left leftFewer) (fewerAmong right rightFewer)

instance (graph : TypeGraph) (left right : TypeRef) : Decidable (graph.SameShape left right) :=
  decidable_of_iff
    (graph.kind left = graph.kind right ∧
      (graph.fields left).map (fun field => (field.name, graph.identity field.type)) =
        (graph.fields right).map (fun field => (field.name, graph.identity field.type)) ∧
      left.base?.map graph.identity = right.base?.map graph.identity ∧
      left.arguments.map graph.identity = right.arguments.map graph.identity)
    ⟨fun ⟨kind, fields, base, arguments⟩ => ⟨kind, fields, base, arguments⟩,
      fun shape => ⟨shape.kind, shape.fields, shape.base, shape.arguments⟩⟩

/-- The contract holds among types that are all listed when it holds in the list. -/
theorem TypeGraph.identityContract_of_mem {graph : TypeGraph} {among : TypeRef → Prop}
    {types : List TypeRef} (listed : ∀ type, among type → type ∈ types)
    (alike : ∀ left ∈ types, ∀ right ∈ types, graph.identity left = graph.identity right →
      graph.SameShape left right) : graph.IdentityContract among :=
  fun left right leftAmong rightAmong =>
    alike left (listed left leftAmong) right (listed right rightAmong)

/-- The types that a type may lead to. -/
def TypeGraph.successors (graph : TypeGraph) : TypeRef → List TypeRef
  | .atom index => Closure.nextSeeds graph index
  | .apply _ _ base arguments => base :: arguments

/-- The types that a search from some seeds meets. -/
inductive Registry.Reaches (registry : Registry) (graph : TypeGraph) (seeds : List TypeRef) :
    TypeRef → Prop
  /-- Every seed is met. -/
  | seed {type : TypeRef} (member : type ∈ seeds) : Reaches registry graph seeds type
  /-- A construction leads to its base, whether or not its own identity is known. -/
  | base {identity name : String} {base argument : TypeRef}
      (whole : Reaches registry graph seeds (.apply identity name base [argument])) :
      Reaches registry graph seeds base
  /-- A construction leads to its argument, whether or not its own identity is known. -/
  | argument {identity name : String} {base argument : TypeRef}
      (whole : Reaches registry graph seeds (.apply identity name base [argument])) :
      Reaches registry graph seeds argument
  /-- An unknown composite leads to the types of its fields. -/
  | field {index : Nat} {field : Field} (owner : Reaches registry graph seeds (.atom index))
      (composite : (graph.atom index).kind = .composite)
      (unknown : registry.contains (graph.atom index).identity = false)
      (member : field ∈ (graph.atom index).fields) :
      Reaches registry graph seeds field.type

namespace Registry

variable {registry : Registry} {graph : TypeGraph} {seeds : List TypeRef}

/-- Every atom under a reached type is reached. -/
theorem Reaches.leaf {type : TypeRef} (reached : registry.Reaches graph seeds type)
    {atoms : List Nat} (found : type.leaves = .ok atoms) {index : Nat} (member : index ∈ atoms) :
    registry.Reaches graph seeds (.atom index) := by
  induction type using TypeRef.leaves.induct generalizing atoms with
  | case1 place =>
    obtain rfl : [place] = atoms := by simpa [TypeRef.leaves] using found
    rwa [List.mem_singleton.mp member]
  | case2 identity name base argument inBase inArgument =>
    obtain ⟨first, second, baseFound, argumentFound, rfl⟩ := appended_ok.mp found
    rcases List.mem_append.mp member with inFirst | inSecond
    · exact inBase reached.base baseFound inFirst
    · exact inArgument reached.argument argumentFound inSecond
  | case3 identity name base arguments malformed =>
    rw [TypeRef.leaves] at found
    · cases found
    · exact malformed

/-- Every atom under the types that a visit to a reached unknown atom leads to is reached. -/
theorem Reaches.nextSeed {index : Nat} (reached : registry.Reaches graph seeds (.atom index))
    (unknown : registry.contains (graph.atom index).identity = false) {type : TypeRef}
    (member : type ∈ Closure.nextSeeds graph index) : registry.Reaches graph seeds type := by
  unfold Closure.nextSeeds at member
  split at member
  · rename_i composite
    obtain ⟨field, inFields, rfl⟩ := List.mem_map.mp member
    exact reached.field composite unknown inFields
  · simp at member

/-- What some seeds lead to is led to by others that lead to these seeds, also under a registry that
knows less. -/
theorem Reaches.mono {later : Registry} {others : List TypeRef}
    (grown : ∀ identity, registry.contains identity → later.contains identity)
    (ofSeeds : ∀ type ∈ others, registry.Reaches graph seeds type) {type : TypeRef}
    (reached : later.Reaches graph others type) : registry.Reaches graph seeds type := by
  induction reached with
  | seed member => exact ofSeeds _ member
  | base _ whole => exact whole.base
  | argument _ whole => exact whole.argument
  | @field index _ _ composite unknown member owner =>
    refine owner.field composite ?_ member
    rw [← Bool.not_eq_true] at unknown ⊢
    exact fun known => unknown (grown _ known)

/-- A search meets no type outside a list that has its seeds and whatever its members lead to. -/
theorem Reaches.mem_of_closed {types : List TypeRef} (inside : seeds ⊆ types)
    (closed : ∀ type ∈ types, graph.successors type ⊆ types) {type : TypeRef}
    (reached : registry.Reaches graph seeds type) : type ∈ types := by
  induction reached with
  | seed member => exact inside member
  | base _ whole => exact closed _ whole List.mem_cons_self
  | argument _ whole => exact closed _ whole (List.mem_cons_of_mem _ List.mem_cons_self)
  | field _ composite _ member owner =>
    apply closed _ owner
    rw [TypeGraph.successors, Closure.nextSeeds, composite]
    exact List.mem_map_of_mem member

/-- Two lists of seeds lead to what the first or the second of them leads to. -/
theorem reaches_append {others : List TypeRef} {type : TypeRef} :
    registry.Reaches graph (seeds ++ others) type ↔
      registry.Reaches graph seeds type ∨ registry.Reaches graph others type := by
  constructor
  · intro reached
    induction reached with
    | seed member => exact (List.mem_append.mp member).imp .seed .seed
    | base _ whole => exact whole.imp .base .base
    | argument _ whole => exact whole.imp .argument .argument
    | field _ composite unknown member owner =>
      exact owner.imp (fun first => first.field composite unknown member)
        fun second => second.field composite unknown member
  · rintro (first | second)
    · exact first.mono (fun _ => id) fun type member => .seed (List.mem_append_left _ member)
    · exact second.mono (fun _ => id) fun type member => .seed (List.mem_append_right _ member)

/-- A type that has the kind of an atom is an atom. -/
theorem eq_atom_of_kind {type : TypeRef} {kind : AtomKind} (same : graph.kind type = kind.kind) :
    ∃ index, type = .atom index := by
  cases type with
  | atom index => exact ⟨index, rfl⟩
  | apply identity name base arguments => cases kind <;> cases same

/-- A type of the generic kind is a construction. -/
theorem eq_apply_of_kind {type : TypeRef} (same : graph.kind type = .generic) :
    ∃ identity name base arguments, type = .apply identity name base arguments := by
  cases type with
  | atom index =>
    change (graph.atom index).kind.kind = .generic at same
    cases kind : (graph.atom index).kind <;> simp [kind, AtomKind.kind] at same
  | apply identity name base arguments => exact ⟨identity, name, base, arguments, rfl⟩

/-- An atom that is covered and no parameter has a name. -/
theorem Covers.contains {index : Nat} (covered : registry.Covers graph (.atom index))
    (kind : (graph.atom index).kind ≠ .parameter) :
    registry.contains (graph.atom index).identity :=
  ((registry.isKnown_atom graph).mp ((registry.covers_atom graph).mp covered)).resolve_left kind

/-- Under the identity contract, a registry covers all references to one type or none. The
induction is on the reference that is covered; the contract hands the shape to the other one. -/
theorem covers_of_same_identity {later : Registry}
    (contract : graph.IdentityContract (registry.Reaches graph seeds)) {left right : TypeRef}
    (leftReached : registry.Reaches graph seeds left)
    (rightReached : registry.Reaches graph seeds right)
    (same : graph.identity left = graph.identity right) (covered : later.Covers graph left) :
    later.Covers graph right := by
  have shape := contract left right leftReached rightReached same
  induction left using TypeRef.leaves.induct generalizing right with
  | case1 index =>
    obtain ⟨place, rfl⟩ := eq_atom_of_kind shape.kind.symm
    rw [covers_atom] at covered ⊢
    rwa [isKnown, ← shape.kind, ← same]
  | case2 identity name base argument inBase inArgument =>
    obtain ⟨otherIdentity, otherName, otherBase, otherArguments, rfl⟩ :=
      eq_apply_of_kind shape.kind.symm
    obtain ⟨otherArgument, rfl, sameArgument⟩ : ∃ other, otherArguments = [other] ∧
        graph.identity other = graph.identity argument := by
      have listed : otherArguments.map graph.identity = [graph.identity argument] :=
        shape.arguments.symm
      simpa only [List.map_eq_singleton_iff] using listed
    have sameBase : graph.identity base = graph.identity otherBase :=
      Option.some.inj shape.base
    obtain ⟨baseCovered, argumentCovered⟩ := (covers_apply later graph).mp covered
    refine (covers_apply later graph).mpr ⟨?_, ?_⟩
    · exact inBase leftReached.base rightReached.base sameBase baseCovered
        (contract _ _ leftReached.base rightReached.base sameBase)
    · exact inArgument leftReached.argument rightReached.argument sameArgument.symm
        argumentCovered
        (contract _ _ leftReached.argument rightReached.argument sameArgument.symm)
  | case3 identity name base arguments malformed =>
    obtain ⟨argument, single⟩ := covered.one_argument
    exact absurd single (malformed argument)

end Registry

end ServiceStubs
