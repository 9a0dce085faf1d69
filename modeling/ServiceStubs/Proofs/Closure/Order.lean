import ServiceStubs.Proofs.Closure.Exactness

/-!
# The order of a closure

A type is emitted after everything that was first found under it, but what it depends on may have
been found before, under something else. While a search is under way, what it has emitted and what
its frames hold, read from the innermost frame outwards, stand in the order in which they are
emitted in the end: leaving a frame keeps this order, and a visit puts what it newly finds right
before the atom that is visited. So a type that the fields of a visited atom mention is new and
comes before it, or comes before it already, or is held by a frame around it. In the last case it
was found under the seeds, or under the fields of a composite that leads to the visited atom and
is emitted later.
-/

namespace ServiceStubs

/-! ## Positions in a list -/

/-- Whether one atom stands before another one in a list. -/
def Precedes (atoms : List Nat) (first second : Nat) : Prop := [first, second].Sublist atoms

namespace Precedes

variable {atoms : List Nat} {first second : Nat}

/-- More atoms between others leave these in order. -/
theorem mono {more : List Nat} (before : Precedes atoms first second)
    (grown : atoms.Sublist more) : Precedes more first second := before.trans grown

/-- An atom of a first part stands before an atom of a second part. -/
theorem of_mem_append {more : List Nat} (inFirst : first ∈ atoms) (inSecond : second ∈ more) :
    Precedes (atoms ++ more) first second :=
  (List.singleton_sublist.mpr inFirst).append (List.singleton_sublist.mpr inSecond)

/-- Of two atoms in a list, one stands before the other. -/
theorem total (listed : first ∈ atoms) (alsoListed : second ∈ atoms) (different : first ≠ second) :
    Precedes atoms first second ∨ Precedes atoms second first := by
  obtain ⟨before, after, rfl⟩ := List.append_of_mem listed
  rcases List.mem_append.mp alsoListed with inBefore | atOrAfter
  · exact .inr (of_mem_append inBefore List.mem_cons_self)
  · have inAfter := (List.mem_cons.mp atOrAfter).resolve_left (Ne.symm different)
    have pair : Precedes (first :: after) first second :=
      List.cons_sublist_cons.mpr (List.singleton_sublist.mpr inAfter)
    exact .inl (pair.mono (List.sublist_append_right before _))

/-- In a list without repetitions no two atoms stand before each other. -/
theorem asymm (distinct : atoms.Nodup) (before : Precedes atoms first second) :
    ¬ Precedes atoms second first := by
  induction atoms with
  | nil => exact fun after => absurd after.length_le (by simp)
  | cons head rest ih =>
    obtain ⟨absent, later⟩ := List.nodup_cons.mp distinct
    intro after
    rcases List.sublist_cons_iff.mp before with inRest | ⟨others, same, found⟩
    · rcases List.sublist_cons_iff.mp after with alsoInRest | ⟨others, same, _⟩
      · exact ih later inRest alsoInRest
      · obtain ⟨rfl, _⟩ := List.cons.inj same
        exact absent (inRest.subset (by simp))
    · obtain ⟨rfl, rfl⟩ := List.cons.inj same
      rcases List.sublist_cons_iff.mp after with alsoInRest | ⟨others, same, _⟩
      · exact absent (alsoInRest.subset (by simp))
      · obtain ⟨rfl, _⟩ := List.cons.inj same
        exact absent (List.singleton_sublist.mp found)

end Precedes

/-! ## Dependencies -/

/-- Whether an atom is found under some types. -/
def TypeRef.FoundUnder (types : List TypeRef) (index : Nat) : Prop :=
  ∃ type ∈ types, ∃ atoms, type.leaves = .ok atoms ∧ index ∈ atoms

/-- Whether the type of an atom occurs in some types or under their constructions. -/
def TypeGraph.Mentions (graph : TypeGraph) (types : List TypeRef) (index : Nat) : Prop :=
  ∃ place, TypeRef.FoundUnder types place ∧
    (graph.atom place).identity = (graph.atom index).identity

/-- Whether a type depends on another one directly: whether one of its fields, which count for a
composite alone, mentions it. -/
def TypeGraph.DependsOn (graph : TypeGraph) (dependent dependency : Nat) : Prop :=
  graph.Mentions (Closure.nextSeeds graph dependent) dependency

/-- Whether only composites have fields, as in every graph of types that can be built. -/
def TypeGraph.FieldsOfComposites (graph : TypeGraph) : Prop :=
  ∀ atom ∈ graph.atoms, atom.kind ≠ .composite → atom.fields = []

instance (graph : TypeGraph) : Decidable graph.FieldsOfComposites :=
  inferInstanceAs (Decidable (∀ atom ∈ graph.atoms, atom.kind ≠ .composite → atom.fields = []))

/-- Where only composites have fields, a visit leads to the types of all fields. -/
theorem Closure.nextSeeds_eq_fields {graph : TypeGraph} (composites : graph.FieldsOfComposites)
    (index : Nat) : nextSeeds graph index = (graph.atom index).fields.map Field.type := by
  by_cases composite : (graph.atom index).kind = .composite
  · rw [nextSeeds, composite]
  · have fieldless : (graph.atom index).fields = [] := by
      rw [TypeGraph.atom, Array.getD_eq_getD_getElem?] at composite ⊢
      cases listed : graph.atoms[index]? with
      | none => rfl
      | some atom =>
        rw [listed, Option.getD_some] at composite
        exact composites atom (Array.mem_of_getElem? listed) composite
    rw [fieldless, nextSeeds]
    split
    · rw [fieldless]
    · rfl

/-- There a type depends on another one exactly when one of its fields mentions it. -/
theorem TypeGraph.dependsOn_iff_fields {graph : TypeGraph} (composites : graph.FieldsOfComposites)
    (dependent dependency : Nat) :
    graph.DependsOn dependent dependency ↔
      graph.Mentions ((graph.atom dependent).fields.map Field.type) dependency := by
  rw [DependsOn, Closure.nextSeeds_eq_fields composites]

namespace Closure

open TypeRef (FoundUnder)

variable {registry : Registry} {graph : TypeGraph} {seeds : List TypeRef}

/-- Why a type may be emitted after one that depends on it: the seeds mention it, or a type that is
emitted later depends on it as well and leads to the other one. -/
def Postponed (registry : Registry) (graph : TypeGraph) (seeds : List TypeRef) (types : List Nat)
    (dependent dependency : Nat) : Prop :=
  graph.Mentions seeds dependency ∨
    ∃ owner, Precedes types dependent owner ∧ graph.DependsOn owner dependency ∧
      registry.Reaches graph [.atom owner] (.atom dependent)

/-- More types between those that are emitted take no reason away. -/
theorem Postponed.mono {types more : List Nat} {dependent dependency : Nat}
    (postponed : Postponed registry graph seeds types dependent dependency)
    (grown : types.Sublist more) : Postponed registry graph seeds more dependent dependency :=
  postponed.imp_right fun ⟨owner, later, depends, leads⟩ =>
    ⟨owner, later.mono grown, depends, leads⟩

/-- A composite leads to what is found under its fields. -/
theorem reaches_of_foundUnder {owner index : Nat}
    (unknown : registry.contains (graph.atom owner).identity = false)
    (found : FoundUnder (nextSeeds graph owner) index) :
    registry.Reaches graph [.atom owner] (.atom index) := by
  obtain ⟨type, member, atoms, located, inside⟩ := found
  have itself : registry.Reaches graph [.atom owner] (.atom owner) :=
    .seed (List.mem_singleton_self _)
  exact (itself.nextSeed unknown member).leaf located inside

/-! ## Frames within frames -/

/-- The types under which the frontier of a frame was found: those of the fields of its owner, or
the seeds. -/
def Frame.origin (graph : TypeGraph) (seeds : List TypeRef) (frame : Frame) : List TypeRef :=
  match frame.owner with
  | none => seeds
  | some owner => nextSeeds graph owner

/-- How frames stand within each other: what waits in a frame was found under the fields of its
owner, the owner was found in the frame around it, and the outermost frame belongs to the seeds. -/
inductive Lineage (graph : TypeGraph) (seeds : List TypeRef) : List Frame → Prop
  | exhausted : Lineage graph seeds []
  | outermost {pending : List Nat} (found : ∀ index ∈ pending, FoundUnder seeds index) :
      Lineage graph seeds [⟨pending, none⟩]
  | within {pending : List Nat} {owner : Nat} {outer : Frame} {rest : List Frame}
      (found : ∀ index ∈ pending, FoundUnder (nextSeeds graph owner) index)
      (owned : FoundUnder (outer.origin graph seeds) owner)
      (around : Lineage graph seeds (outer :: rest)) :
      Lineage graph seeds (⟨pending, some owner⟩ :: outer :: rest)

/-- The atoms that frames hold, in the order in which they will be emitted. -/
def held (frames : List Frame) : List Nat :=
  frames.flatMap fun frame => frame.pending ++ frame.owner.toList

/-- Frames hold their owners. -/
theorem mem_held_of_owner {frames : List Frame} {index : Nat}
    (owns : index ∈ frames.filterMap Frame.owner) : index ∈ held frames := by
  obtain ⟨frame, listed, owner⟩ := List.mem_filterMap.mp owns
  exact List.mem_flatMap.mpr
    ⟨frame, listed, List.mem_append_right _ (Option.mem_toList.mpr owner)⟩

namespace Lineage

variable {frames rest : List Frame} {pending : List Nat} {owner : Option Nat}

/-- The next atom of a frontier was found where the frontier was, and so was the rest of it. -/
theorem next {current : Nat}
    (lineage : Lineage graph seeds (⟨current :: pending, owner⟩ :: rest)) :
    FoundUnder (Frame.origin graph seeds ⟨pending, owner⟩) current ∧
      Lineage graph seeds (⟨pending, owner⟩ :: rest) := by
  cases lineage with
  | outermost found =>
    exact ⟨found current List.mem_cons_self,
      .outermost fun index member => found index (List.mem_cons_of_mem current member)⟩
  | within found owned around =>
    exact ⟨found current List.mem_cons_self,
      .within (fun index member => found index (List.mem_cons_of_mem current member)) owned around⟩

/-- The frames around an exhausted one stand within each other. -/
theorem leave (lineage : Lineage graph seeds (⟨[], owner⟩ :: rest)) :
    Lineage graph seeds rest := by
  cases lineage with
  | outermost _ => exact .exhausted
  | within _ _ around => exact around

/-- What frames hold was found under the seeds, or under the fields of one of their owners. The
owners lead to everything that the innermost of them leads to. -/
theorem found_of_held (lineage : Lineage graph seeds frames)
    (unknown : ∀ owner ∈ frames.filterMap Frame.owner,
      registry.contains (graph.atom owner).identity = false)
    {index : Nat} (leads : ∀ frame ∈ frames.head?, ∀ owner ∈ frame.owner,
      registry.Reaches graph [.atom owner] (.atom index))
    {other : Nat} (member : other ∈ held frames) :
    FoundUnder seeds other ∨ ∃ owner ∈ frames.filterMap Frame.owner,
      FoundUnder (nextSeeds graph owner) other ∧
        registry.Reaches graph [.atom owner] (.atom index) := by
  induction lineage with
  | exhausted => cases member
  | outermost found => exact .inl (found other (by simpa [held] using member))
  | @within pending owner outer rest found owned around ih =>
    have innermost : registry.Reaches graph [.atom owner] (.atom index) := leads _ rfl owner rfl
    have unknownAround : ∀ place ∈ (outer :: rest).filterMap Frame.owner,
        registry.contains (graph.atom place).identity = false :=
      fun place listed => unknown place (List.mem_cons_of_mem owner listed)
    have leadsAround : ∀ place, outer.owner = some place →
        registry.Reaches graph [.atom place] (.atom index) ∧
          FoundUnder (nextSeeds graph place) owner := by
      intro place owns
      have under : FoundUnder (nextSeeds graph place) owner := by
        simpa only [Frame.origin, owns] using owned
      have listed : place ∈ (outer :: rest).filterMap Frame.owner := by simp [owns]
      have step := reaches_of_foundUnder (unknownAround place listed) under
      refine ⟨innermost.mono (fun _ => id) fun type single => ?_, under⟩
      rwa [List.mem_singleton.mp single]
    have cases : other ∈ pending ∨ other = owner ∨ other ∈ held (outer :: rest) := by
      simpa [held, or_assoc] using member
    rcases cases with waits | rfl | inRest
    · exact .inr ⟨owner, by simp, found other waits, innermost⟩
    · cases owns : outer.owner with
      | none => exact .inl (by simpa only [Frame.origin, owns] using owned)
      | some place =>
        obtain ⟨reached, under⟩ := leadsAround place owns
        exact .inr ⟨place, by simp [owns], under, reached⟩
    · have headAround : ∀ frame ∈ (outer :: rest).head?, ∀ place ∈ frame.owner,
          registry.Reaches graph [.atom place] (.atom index) := by
        rintro _ ⟨⟩ place owns
        exact (leadsAround place owns).1
      refine (ih unknownAround headAround inRest).imp_right ?_
      rintro ⟨place, listed, rest⟩
      exact ⟨place, List.mem_cons_of_mem owner listed, rest⟩

/-- What frames hold behind the atom that is visited next was found under the seeds, or under the
fields of a composite that they hold and that leads to this atom. -/
theorem found_of_next {current other : Nat}
    (lineage : Lineage graph seeds (⟨current :: pending, owner⟩ :: rest))
    (unknown : ∀ place ∈ (⟨current :: pending, owner⟩ :: rest : List Frame).filterMap Frame.owner,
      registry.contains (graph.atom place).identity = false)
    (member : other ∈ held (⟨pending, owner⟩ :: rest)) :
    FoundUnder seeds other ∨ ∃ place ∈ held (⟨pending, owner⟩ :: rest),
      FoundUnder (nextSeeds graph place) other ∧
        registry.Reaches graph [.atom place] (.atom current) := by
  obtain ⟨currentFound, around⟩ := lineage.next
  have leads : ∀ frame ∈ (⟨pending, owner⟩ :: rest : List Frame).head?,
      ∀ place ∈ frame.owner, registry.Reaches graph [.atom place] (.atom current) := by
    rintro _ ⟨⟩ place owns
    obtain rfl : owner = some place := owns
    exact reaches_of_foundUnder (unknown place List.mem_cons_self) currentFound
  refine (around.found_of_held unknown leads member).imp_right ?_
  rintro ⟨place, owns, found⟩
  exact ⟨place, mem_held_of_owner owns, found⟩

end Lineage

/-! ## The order of a search -/

namespace Search

variable {registered : List Nat} {search : Search}

/-- What a search has emitted and what its frames hold, in the order in which it is emitted in the
end. -/
def order (search : Search) : List Nat := search.emitted ++ held search.frames

/-- The order of a search explains itself: frames stand within each other, and what a visited type
depends on comes before it, unless it is postponed. -/
structure Ordered (registry : Registry) (graph : TypeGraph) (seeds : List TypeRef)
    (search : Search) : Prop where
  lineage : Lineage graph seeds search.frames
  law : ∀ dependent ∈ search.emitted ++ search.owners, ∀ dependency ∈ search.order,
    (graph.atom dependency).identity ≠ (graph.atom dependent).identity →
    graph.DependsOn dependent dependency →
      Precedes search.order dependency dependent ∨
        Postponed registry graph seeds search.order dependent dependency

/-- A search that has started has visited nothing. -/
theorem start_ordered (started : start registry graph seeds = .ok search) :
    search.Ordered registry graph seeds := by
  obtain ⟨⟨frontier, later⟩, advanced, same⟩ := bind_eq_ok.mp started
  obtain rfl := Except.ok.inj same
  exact {
    lineage := .outermost (advance_ok advanced).under
    law := by simp [owners] }

/-- What a visited type depends on is known, when it is a reached type and no parameter. -/
theorem Progress.contains_of_dependsOn
    (progress : search.Progress registry graph seeds registered)
    (contract : graph.IdentityContract (registry.Reaches graph seeds)) {dependent dependency : Nat}
    (visited : dependent ∈ search.emitted ++ search.owners)
    (depends : graph.DependsOn dependent dependency)
    (reached : registry.Reaches graph seeds (.atom dependency))
    (kind : (graph.atom dependency).kind ≠ .parameter) :
    search.registry.contains (graph.atom dependency).identity := by
  obtain ⟨place, ⟨type, member, atoms, located, inside⟩, same⟩ := depends
  have listed : dependent ∈ registered :=
    progress.placed.mem_iff.mpr (List.mem_append_left _ visited)
  have unnamed := ((registry.isKnown_atom_eq_false graph).mp (progress.unknown _ listed)).2
  have placeReached := ((progress.reached _ listed).nextSeed unnamed member).leaf located inside
  obtain ⟨others, alsoLocated, known⟩ := progress.fieldsCovered dependent visited type member
  obtain rfl := Except.ok.inj (located.symm.trans alsoLocated)
  -- The place is known as a parameter or by its identity; the contract excludes the first.
  have shape := contract (.atom place) (.atom dependency) placeReached reached same
  rw [← same]
  exact ((search.registry.isKnown_atom graph).mp (known place inside)).resolve_left
    (shape.atomKind ▸ kind)

/-- The owners of frames are not known at the start. -/
theorem Progress.unknown_owner (progress : search.Progress registry graph seeds registered)
    {index : Nat} (owns : index ∈ search.frames.filterMap Frame.owner) :
    registry.contains (graph.atom index).identity = false := by
  have listed : index ∈ registered :=
    progress.placed.mem_iff.mpr (List.mem_append_left _ (List.mem_append_right _ owns))
  exact ((registry.isKnown_atom_eq_false graph).mp (progress.unknown index listed)).2

section

variable {current : Nat} {pending : List Nat} {owner : Option Nat} {rest : List Frame}

/-- What an atom that is visited depends on comes before it or is postponed, wherever what is newly
found is put. -/
theorem Ordered.place_visited (ordered : search.Ordered registry graph seeds)
    (progress : search.Progress registry graph seeds registered)
    (frames : search.frames = ⟨current :: pending, owner⟩ :: rest) {earlier : List Nat}
    {other : Nat} (listed : other ∈ earlier ++ current :: held (⟨pending, owner⟩ :: rest))
    (different : (graph.atom other).identity ≠ (graph.atom current).identity) :
    Precedes (earlier ++ current :: held (⟨pending, owner⟩ :: rest)) other current ∨
      Postponed registry graph seeds (earlier ++ current :: held (⟨pending, owner⟩ :: rest))
        current other := by
  rcases List.mem_append.mp listed with before | atOrBehind
  · exact .inl (.of_mem_append before List.mem_cons_self)
  · have behind := (List.mem_cons.mp atOrBehind).resolve_left
      fun same => different (congrArg (fun index => (graph.atom index).identity) same)
    have found := (frames ▸ ordered.lineage).found_of_next
      (fun place owns => progress.unknown_owner (frames ▸ owns)) behind
    rcases found with ofSeeds | ⟨place, alsoBehind, under, leads⟩
    · exact .inr (.inl ⟨other, ofSeeds, rfl⟩)
    · have pair : Precedes (current :: held (⟨pending, owner⟩ :: rest)) current place :=
        List.cons_sublist_cons.mpr (List.singleton_sublist.mpr alsoBehind)
      refine .inr (.inr ⟨place, ?_, ⟨other, under, rfl⟩, leads⟩)
      exact pair.mono (List.sublist_append_right _ _)

/-- Visiting an atom puts what is newly found right before it. -/
theorem Ordered.visit (ordered : search.Ordered registry graph seeds)
    (progress : search.Progress registry graph seeds registered)
    (contract : graph.IdentityContract (registry.Reaches graph seeds))
    {children : List Nat} {later : Registry}
    (frames : search.frames = ⟨current :: pending, owner⟩ :: rest)
    (advanced : advance search.registry graph (nextSeeds graph current) = .ok (children, later)) :
    Ordered registry graph seeds { search with
      registry := later, frames := ⟨children, some current⟩ :: ⟨pending, owner⟩ :: rest } := by
  have found := advance_ok advanced
  obtain ⟨currentFound, around⟩ := (frames ▸ ordered.lineage).next
  have before : search.order = search.emitted ++ current :: held (⟨pending, owner⟩ :: rest) := by
    simp [order, held, frames]
  have after : order { search with
      registry := later, frames := ⟨children, some current⟩ :: ⟨pending, owner⟩ :: rest } =
      search.emitted ++ children ++ current :: held (⟨pending, owner⟩ :: rest) := by
    simp [order, held]
  have grown : search.order.Sublist
      (search.emitted ++ children ++ current :: held (⟨pending, owner⟩ :: rest)) := by
    rw [before]
    exact (List.sublist_append_left _ _).append (List.Sublist.refl _)
  refine ⟨.within found.under currentFound around, ?_⟩
  intro dependent visited dependency listed different depends
  rw [after] at listed ⊢
  have placed : dependent = current ∨ dependent ∈ search.emitted ++ search.owners := by
    have sameOwners : search.owners =
        (⟨pending, owner⟩ :: rest : List Frame).filterMap Frame.owner := by
      rw [owners, frames]
      rfl
    rw [sameOwners]
    simpa [owners, or_left_comm] using visited
  rcases placed with rfl | visitedBefore
  · exact ordered.place_visited progress frames listed different
  · have inBefore : dependency ∈ search.order := by
      have cases : dependency ∈ search.order ∨ dependency ∈ children := by
        rw [before]
        simp only [List.mem_append, List.mem_cons] at listed ⊢
        tauto
      refine cases.resolve_right fun new => ?_
      -- What a visited type depends on is known already, so it cannot be newly found.
      obtain ⟨kind, unnamed⟩ :=
        (search.registry.isKnown_atom_eq_false graph).mp (found.unknown dependency new)
      have reached := (progress.visit frames advanced).reached dependency
        (List.mem_append_right _ new)
      have named := progress.contains_of_dependsOn contract visitedBefore depends reached kind
      rw [unnamed] at named
      cases named
    exact (ordered.law dependent visitedBefore dependency inBefore different depends).imp
      (fun first => first.mono grown) fun postponed => postponed.mono grown

end

/-- Leaving an exhausted frame keeps the order. -/
theorem Ordered.leave (ordered : search.Ordered registry graph seeds) {owner : Option Nat}
    {rest : List Frame} {emitted : List Nat} (frames : search.frames = ⟨[], owner⟩ :: rest)
    (done : emit graph search.emitted owner = .ok emitted) :
    Ordered registry graph seeds { search with frames := rest, emitted } := by
  obtain ⟨rfl, _⟩ := emit_ok done
  have same : order { search with frames := rest, emitted := search.emitted ++ owner.toList } =
      search.order := by
    simp [order, held, frames]
  refine ⟨(frames ▸ ordered.lineage).leave, ?_⟩
  intro dependent visited
  rw [same]
  apply ordered.law dependent
  cases owner <;> simpa [owners, frames, or_assoc] using visited

/-- A round keeps the order of a search. -/
theorem Ordered.round (ordered : search.Ordered registry graph seeds)
    (progress : search.Progress registry graph seeds registered)
    (contract : graph.IdentityContract (registry.Reaches graph seeds)) {next : Search}
    (stepped : search.step graph = .ok next) : next.Ordered registry graph seeds := by
  rcases step_cases stepped with ⟨_, rfl⟩ | ⟨owner, rest, emitted, frames, done, rfl⟩ |
    ⟨current, pending, owner, rest, children, later, frames, advanced, rfl⟩
  · exact ordered
  · exact ordered.leave frames done
  · exact ordered.visit progress contract frames advanced

/-- Any number of rounds keep the order of a search. -/
theorem Ordered.run (ordered : search.Ordered registry graph seeds)
    (progress : search.Progress registry graph seeds registered)
    (contract : graph.IdentityContract (registry.Reaches graph seeds)) {rounds : Nat}
    {finished : Search} (ran : search.run graph rounds = .ok finished) :
    finished.Ordered registry graph seeds := by
  induction rounds generalizing search registered with
  | zero =>
    obtain rfl : search = finished := Except.ok.inj ran
    exact ordered
  | succ rounds ih =>
    rw [Search.run] at ran
    split at ran
    · obtain rfl : search = finished := Except.ok.inj ran
      exact ordered
    · rename_i running
      obtain ⟨next, stepped, rest⟩ := bind_eq_ok.mp ran
      obtain ⟨more, kept, _⟩ := progress.round bounded_table
        (fun exhausted => running (List.isEmpty_iff.mpr exhausted)) stepped
      exact ih (ordered.round progress contract stepped) kept rest

end Search

/-- A closure that was resolved stands in the order of a search without frames. -/
theorem resolve_ordered {closure : Closure}
    (contract : graph.IdentityContract (registry.Reaches graph seeds))
    (resolved : registry.resolve graph seeds = .ok closure) :
    Search.Ordered registry graph seeds ⟨closure.registry, [], closure.types⟩ := by
  obtain ⟨search, started, rest⟩ := bind_eq_ok.mp resolved
  obtain ⟨finished, ran, same⟩ := bind_eq_ok.mp rest
  obtain rfl := Except.ok.inj same
  have exhausted := (Search.run_enoughRounds started ran).1
  have ordered := (Search.start_ordered started).run (Search.start_progress started).1 contract ran
  rwa [← exhausted]

/-- Under the identity contract, a type that is emitted after one that depends on it is postponed:
the seeds mention it, or a type that is emitted later depends on it as well and leads to the other
one. All other types are emitted before those that depend on them. -/
theorem resolve_order {closure : Closure}
    (contract : graph.IdentityContract (registry.Reaches graph seeds))
    (resolved : registry.resolve graph seeds = .ok closure) {dependent dependency : Nat}
    (emitted : dependent ∈ closure.types) (alsoEmitted : dependency ∈ closure.types)
    (different : (graph.atom dependency).identity ≠ (graph.atom dependent).identity)
    (depends : graph.DependsOn dependent dependency) :
    (Precedes closure.types dependent dependency →
      Postponed registry graph seeds closure.types dependent dependency) ∧
    (¬ Postponed registry graph seeds closure.types dependent dependency →
      Precedes closure.types dependency dependent) := by
  obtain ⟨registered, finished⟩ := resolve_progress resolved
  have distinct : closure.types.Nodup := finished.identities_nodup.of_map
  have ordered := resolve_ordered contract resolved
  have whole : Search.order ⟨closure.registry, [], closure.types⟩ = closure.types := by
    simp [Search.order, held]
  have law := ordered.law dependent (List.mem_append_left _ emitted) dependency
    (by rwa [whole]) different depends
  rw [whole] at law
  exact ⟨fun later => law.resolve_left (later.asymm distinct), law.resolve_right⟩

/-- A composite that leads to a part and to a color, of which the part has one as well. -/
def coloredPart : TypeGraph where
  atoms := #[
    .composite "Whole" "" [] [⟨"part", .atom 1⟩, ⟨"color", .atom 2⟩],
    .composite "Part" "" [] [⟨"whole", .atom 0⟩,
      ⟨"colors", .apply "list[Color]" "list" (.atom 3) [.atom 2]⟩],
    .enumeration "Color" [], .primitive listIdentity]

/-- The types that the composite leads to. -/
theorem coloredPart_reached {type : TypeRef}
    (reached : Registry.typescript.Reaches coloredPart [.atom 0] type) :
    type ∈ [.atom 0, .atom 1, .atom 2, .atom 3,
      .apply "list[Color]" "list" (.atom 3) [.atom 2]] := by
  refine reached.mem_of_closed (by simp) ?_
  simp [TypeGraph.successors, Closure.nextSeeds, coloredPart, TypeGraph.atom, Atom.composite,
    Atom.enumeration, Atom.primitive]

/-- The part is emitted before its color, which was found under the whole. The whole is emitted last
and after its color, which nothing postpones for it. -/
theorem resolve_order_coloredPart :
    coloredPart.FieldsOfComposites ∧
    coloredPart.IdentityContract (Registry.typescript.Reaches coloredPart [.atom 0]) ∧
    ∃ closure, Registry.typescript.resolve coloredPart [.atom 0] = .ok closure ∧
      closure.types = [1, 2, 0] ∧ coloredPart.DependsOn 1 2 ∧ coloredPart.DependsOn 0 2 ∧
      Postponed Registry.typescript coloredPart [.atom 0] closure.types 1 2 ∧
      ¬ Postponed Registry.typescript coloredPart [.atom 0] closure.types 0 2 ∧
      Precedes closure.types 2 0 := by
  have contract : coloredPart.IdentityContract
      (Registry.typescript.Reaches coloredPart [.atom 0]) :=
    TypeGraph.identityContract_of_mem (fun _ => coloredPart_reached) (by decide)
  have ofPart : coloredPart.DependsOn 1 2 :=
    ⟨2, ⟨_, List.mem_cons_of_mem _ List.mem_cons_self, _, rfl, by decide⟩, rfl⟩
  have ofWhole : coloredPart.DependsOn 0 2 :=
    ⟨2, ⟨_, List.mem_cons_of_mem _ List.mem_cons_self, _, rfl, by decide⟩, rfl⟩
  obtain ⟨closure, resolved, types⟩ : ∃ closure,
      Registry.typescript.resolve coloredPart [.atom 0] = .ok closure ∧
        closure.types = [1, 2, 0] := ⟨_, rfl, rfl⟩
  have plain : ¬ Postponed Registry.typescript coloredPart [.atom 0] closure.types 0 2 := by
    rintro (⟨place, ⟨type, member, atoms, located, inside⟩, same⟩ | ⟨owner, last, _⟩)
    · obtain rfl := List.mem_singleton.mp member
      obtain rfl := Except.ok.inj located
      obtain rfl := List.mem_singleton.mp inside
      exact absurd same (by decide)
    · simp [Precedes, types, List.sublist_cons_iff] at last
  have earlier := resolve_order contract resolved (by simp [types]) (by simp [types]) (by decide)
    ofPart
  have later := resolve_order contract resolved (by simp [types]) (by simp [types]) (by decide)
    ofWhole
  exact ⟨by decide, contract, closure, resolved, types, ofPart, ofWhole,
    earlier.1 (by simp [Precedes, types]), plain, later.2 plain⟩

end Closure

end ServiceStubs
