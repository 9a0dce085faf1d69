import ServiceStubs.Proofs.Closure.Loop
import ServiceStubs.Proofs.Types.Correspondence

/-!
# Closures of corresponding types

A registry reads identities, and names beside them. Two registries agree on the types of two graphs
when they have the same names in the same order and give corresponding types the same name. They go
on to agree when corresponding types are registered, so a search from corresponding seeds makes the
same rounds on both sides, whatever the sizes of the two graphs are, and ends with corresponding
types or with the same error.
-/

namespace ServiceStubs

open TypeGraph (AtomsRelated Correspondence SameError)

variable {left right : TypeGraph} {related : TypeRef → TypeRef → Prop}

/-- How two registries agree on the related types of two graphs. -/
structure Registry.Agrees (left right : TypeGraph) (related : TypeRef → TypeRef → Prop)
    (first second : Registry) : Prop where
  /-- The same names are built in. -/
  builtins : first.builtins.values = second.builtins.values
  reserved : first.reserved = second.reserved
  /-- The same names are registered, in the same order. -/
  entryNames : first.entryNames = second.entryNames
  /-- Related types have the same built-in name. -/
  builtin : ∀ {type other : TypeRef}, related type other →
    first.builtin? (left.identity type) = second.builtin? (right.identity other)
  /-- Related types have the same registered name. -/
  entry : ∀ {type other : TypeRef}, related type other →
    first.entry? (left.identity type) = second.entry? (right.identity other)

namespace Registry.Agrees

variable {first second : Registry} (agrees : first.Agrees left right related second)

include agrees

/-- The names that are taken are the same. -/
theorem takenNames : first.takenNames = second.takenNames := by
  rw [Registry.takenNames, Registry.takenNames, agrees.entryNames, agrees.builtins,
    agrees.reserved]

/-- Related types have the same name. -/
theorem name {type other : TypeRef} (types : related type other) :
    first.name? (left.identity type) = second.name? (right.identity other) := by
  rw [Registry.name?, Registry.name?, agrees.builtin types, agrees.entry types]

variable (corresponds : left.Correspondence right related)

include corresponds

/-- Related types are known or unknown together. -/
theorem isKnown {type other : TypeRef} (types : related type other) :
    first.isKnown left type = second.isKnown right other := by
  rw [Registry.isKnown, Registry.isKnown, (corresponds.alike types).kind, contains, contains,
    agrees.name types]

/-- Registering related types on both sides gives both the same name. -/
theorem register {type other : TypeRef} (types : related type other) :
    (first.register left type).Agrees left right related (second.register right other) := by
  have target : first.targetName (left.identity type) (left.name type) =
      second.targetName (right.identity other) (right.name other) := by
    rw [targetName, targetName, agrees.entry types, agrees.takenNames,
      (corresponds.alike types).name]
  constructor
  case builtins => exact agrees.builtins
  case reserved => exact agrees.reserved
  case entryNames =>
    rw [entryNames_register, entryNames_register, agrees.entry types, agrees.entryNames,
      agrees.takenNames, (corresponds.alike types).name]
  case builtin => exact agrees.builtin
  case entry =>
    intro third fourth others
    rw [entry?_register, entry?_register, target, agrees.entry others]
    exact if_congr (corresponds.same others types) rfl rfl

/-- Registering related atoms in turn keeps the registries in agreement. -/
theorem registerAll {atoms others : List Nat}
    (lists : List.Forall₂ (AtomsRelated related) atoms others) :
    (Closure.registerAll first left atoms).Agrees left right related
      (Closure.registerAll second right others) := by
  induction lists generalizing first second with
  | nil => exact agrees
  | cons here _ ih => exact ih (agrees.register corresponds here)

/-- The unknown atoms under related types are related. -/
theorem unknownAtomsOfAll {types others : List TypeRef}
    (lists : List.Forall₂ related types others) :
    Agree (SameError left right related) (List.Forall₂ (AtomsRelated related))
      (Closure.unknownAtomsOfAll first left types)
      (Closure.unknownAtomsOfAll second right others) := by
  rw [unknownAtomsOfAll_eq, unknownAtomsOfAll_eq]
  refine (corresponds.leavesOfAll lists).map fun _ _ atoms => ?_
  refine List.rel_filter (fun index other here => ?_) atoms
  simp only [agrees.isKnown corresponds here]

end Registry.Agrees

namespace Closure

/-- Of related atoms, the first ones with their identities are related. -/
theorem distinctAtoms_related (corresponds : left.Correspondence right related)
    {atoms others : List Nat} (lists : List.Forall₂ (AtomsRelated related) atoms others) :
    List.Forall₂ (AtomsRelated related) (distinctAtoms left atoms)
      (distinctAtoms right others) := by
  induction lists with
  | nil => exact .nil
  | cons here _ ih =>
    refine .cons here (List.rel_filter (fun index other also => ?_) ih)
    simp only [TypeGraph.same, Bool.not_eq_true', beq_eq_false_iff_ne, ne_eq,
      corresponds.same here also]

/-- A visit to related atoms leads to related types. -/
theorem nextSeeds_related (corresponds : left.Correspondence right related) {index other : Nat}
    (atoms : AtomsRelated related index other) :
    List.Forall₂ related (nextSeeds left index) (nextSeeds right other) := by
  have fields := (corresponds.alike atoms).fields
  rw [nextSeeds, nextSeeds, corresponds.atomKind atoms]
  cases (right.atom other).kind with
  | composite =>
    exact List.forall₂_map_left_iff.mpr (List.forall₂_map_right_iff.mpr
      (fields.imp fun _ _ alike => alike.2))
  | primitive => exact .nil
  | enumeration => exact .nil
  | parameter => exact .nil

/-- How two frontiers with the registries that know them agree. -/
def FrontiersAgree (left right : TypeGraph) (related : TypeRef → TypeRef → Prop)
    (first second : List Nat × Registry) : Prop :=
  List.Forall₂ (AtomsRelated related) first.1 second.1 ∧
    first.2.Agrees left right related second.2

/-- Advancing from related types finds related frontiers. -/
theorem advance_agree (corresponds : left.Correspondence right related) {first second : Registry}
    (agrees : first.Agrees left right related second) {types others : List TypeRef}
    (lists : List.Forall₂ related types others) :
    Agree (SameError left right related) (FrontiersAgree left right related)
      (advance first left types) (advance second right others) := by
  refine (agrees.unknownAtomsOfAll corresponds lists).bind fun _ _ found => ?_
  have frontier := distinctAtoms_related corresponds found
  exact .ok ⟨frontier, agrees.registerAll corresponds frontier⟩

/-- Emitting related owners emits related atoms, or fails for both. -/
theorem emit_agree (corresponds : left.Correspondence right related) {emitted others : List Nat}
    (lists : List.Forall₂ (AtomsRelated related) emitted others) {owner other : Option Nat}
    (owners : Option.Rel (AtomsRelated related) owner other) :
    Agree (SameError left right related) (List.Forall₂ (AtomsRelated related))
      (emit left emitted owner) (emit right others other) := by
  cases owners with
  | none => exact .ok lists
  | @some index counterpart atoms =>
    rw [emit, emit]
    simp only [corresponds.atomKind atoms]
    split_ifs
    · exact .ok (List.rel_append lists (.cons atoms .nil))
    · exact .error (.unmappableType atoms _)

/-- How two suspended frontiers agree. -/
structure Frame.Agrees (related : TypeRef → TypeRef → Prop) (first second : Frame) : Prop where
  pending : List.Forall₂ (AtomsRelated related) first.pending second.pending
  owner : Option.Rel (AtomsRelated related) first.owner second.owner

/-- How two searches that are under way agree. -/
structure Search.Agrees (left right : TypeGraph) (related : TypeRef → TypeRef → Prop)
    (first second : Search) : Prop where
  registry : first.registry.Agrees left right related second.registry
  frames : List.Forall₂ (Frame.Agrees related) first.frames second.frames
  emitted : List.Forall₂ (AtomsRelated related) first.emitted second.emitted

namespace Search

variable {search other : Search}

/-- Searches that agree are exhausted together. -/
theorem Agrees.exhausted (agrees : search.Agrees left right related other) :
    search.frames = [] ↔ other.frames = [] := by
  rw [← List.length_eq_zero_iff, ← List.length_eq_zero_iff, agrees.frames.length_eq]

/-- A round keeps searches in agreement. -/
theorem Agrees.step (corresponds : left.Correspondence right related)
    (agrees : search.Agrees left right related other) :
    Agree (SameError left right related) (Agrees left right related) (search.step left)
      (other.step right) := by
  obtain ⟨registry, frames, emitted⟩ := search
  obtain ⟨otherRegistry, otherFrames, otherEmitted⟩ := other
  obtain ⟨registries, sameFrames, sameEmitted⟩ := agrees
  cases sameFrames with
  | nil => exact .ok ⟨registries, .nil, sameEmitted⟩
  | @cons frame otherFrame rest otherRest here others =>
    obtain ⟨pending, owner⟩ := frame
    obtain ⟨otherPending, otherOwner⟩ := otherFrame
    obtain ⟨waiting, owners⟩ := here
    cases waiting with
    | nil =>
      exact (emit_agree corresponds sameEmitted owners).bind fun _ _ declared =>
        .ok ⟨registries, others, declared⟩
    | cons current later =>
      refine (advance_agree corresponds registries (nextSeeds_related corresponds current)).bind
        fun _ _ found => ?_
      exact .ok ⟨found.2, .cons ⟨found.1, .some current⟩ (.cons ⟨later, owners⟩ others),
        sameEmitted⟩

/-- Searches that agree make the same number of rounds and end alike. -/
theorem Loop.agree (corresponds : left.Correspondence right related) {rounds : Nat}
    {outcome : Except StubError Search} (loop : search.Loop left rounds outcome)
    (agrees : search.Agrees left right related other) :
    ∃ result, other.Loop right rounds result ∧
      Agree (SameError left right related) (Agrees left right related) outcome result := by
  induction loop generalizing other with
  | exhausted done => exact ⟨_, .exhausted (agrees.exhausted.mp done), .ok agrees⟩
  | failed running stepped =>
    have steps := agrees.step corresponds
    have alsoRunning := fun done => running (agrees.exhausted.mpr done)
    rw [stepped] at steps
    generalize again : other.step right = outcome at steps
    cases steps with
    | error same => exact ⟨_, .failed alsoRunning again, .error same⟩
  | next running stepped _ ih =>
    have steps := agrees.step corresponds
    have alsoRunning := fun done => running (agrees.exhausted.mpr done)
    rw [stepped] at steps
    generalize again : other.step right = outcome at steps
    cases steps with
    | ok later =>
      obtain ⟨result, rest, ends⟩ := ih later
      exact ⟨result, .next alsoRunning again rest, ends⟩

/-- Every search that has started has a loop, which ends within the rounds that it is given. -/
theorem exists_loop {registry : Registry} {graph : TypeGraph} {seeds : List TypeRef}
    (started : Search.start registry graph seeds = .ok search) :
    ∃ rounds outcome, search.Loop graph rounds outcome ∧ rounds ≤ enoughRounds graph := by
  obtain ⟨progress, single⟩ := Search.start_progress started
  obtain ⟨rounds, outcome, loop, within, _⟩ := progress.loop bounded_table
  have bound := progress.length_le bounded_table
  refine ⟨rounds, outcome, loop, within.trans ?_⟩
  simp only [TypeGraph.identities, List.length_map, List.length_range] at bound
  simp only [remaining, enoughRounds, TypeGraph.identities, List.length_map, List.length_range,
    single]
  omega

/-- Searches from related types start in agreement. -/
theorem start_agree (corresponds : left.Correspondence right related) {first second : Registry}
    (agrees : first.Agrees left right related second) {types others : List TypeRef}
    (lists : List.Forall₂ related types others) :
    Agree (SameError left right related) (Agrees left right related)
      (start first left types) (start second right others) :=
  (advance_agree corresponds agrees lists).bind fun _ _ found =>
    .ok ⟨found.2, .cons ⟨found.1, .none⟩ .nil, .nil⟩

end Search

/-- How two closures agree. -/
structure Agrees (left right : TypeGraph) (related : TypeRef → TypeRef → Prop)
    (first second : Closure) : Prop where
  types : List.Forall₂ (AtomsRelated related) first.types second.types
  registry : first.registry.Agrees left right related second.registry

/-- Related seeds have closures that agree, or the same error. -/
theorem resolve_agree (corresponds : left.Correspondence right related) {first second : Registry}
    (agrees : first.Agrees left right related second) {types others : List TypeRef}
    (lists : List.Forall₂ related types others) :
    Agree (SameError left right related) (Agrees left right related)
      (first.resolve left types) (second.resolve right others) := by
  have starts := Search.start_agree corresponds agrees lists
  generalize started : Search.start first left types = outcome at starts
  generalize alsoStarted : Search.start second right others = result at starts
  cases starts with
  | error same =>
    rw [Registry.resolve, Registry.resolve, started, alsoStarted]
    exact .error same
  | ok searches =>
    obtain ⟨rounds, outcome, loop, enough⟩ := Search.exists_loop started
    obtain ⟨others, result, otherLoop, otherEnough⟩ := Search.exists_loop alsoStarted
    obtain ⟨_, sameLoop, ends⟩ := loop.agree corresponds searches
    obtain ⟨rfl, rfl⟩ := otherLoop.unique sameLoop
    rw [loop.resolve enough started, otherLoop.resolve otherEnough alsoStarted]
    exact ends.map fun _ _ finished => ⟨finished.emitted, finished.registry⟩

end Closure

end ServiceStubs
