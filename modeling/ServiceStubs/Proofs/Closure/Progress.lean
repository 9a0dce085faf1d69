import Mathlib.Data.Finset.Card
import ServiceStubs.Proofs.Closure.Frontier

/-!
# Progress of a search

Every atom that a search has registered is in exactly one of three places: it waits in a suspended
frontier, or it has been visited and owns a frame, or it has been emitted. The registry of the
search is the first one with these atoms registered in the order in which they were found, and it
covers the seeds and the field types of every atom that was visited. A round moves atoms from one
place to the next and may add new ones to wait; the number of rounds that can still follow goes
down by one each time. So the rounds that a search is given are enough, and in the end every
registered atom has been emitted.
-/

namespace ServiceStubs.Closure

/-- The atoms that wait in suspended frontiers. -/
def Search.pending (search : Search) : List Nat := search.frames.flatMap Frame.pending

/-- The atoms that were visited and are not emitted yet. -/
def Search.owners (search : Search) : List Nat := search.frames.filterMap Frame.owner

/-- What holds of a search that started from some seeds and has registered some atoms. -/
structure Search.Progress (registry : Registry) (graph : TypeGraph) (seeds : List TypeRef)
    (registered : List Nat) (search : Search) : Prop where
  /-- The registry has grown by the registered atoms in order. -/
  grown : search.registry = registerAll registry graph registered
  /-- No identity was registered twice. -/
  distinct : (graph.identities registered).Nodup
  /-- Only atoms that the first registry does not know were registered. -/
  unknown : ∀ index ∈ registered, registry.isKnown graph (.atom index) = false
  /-- Only atoms that the seeds lead to were registered. -/
  reached : ∀ index ∈ registered, registry.Reaches graph seeds (.atom index)
  /-- Every registered atom is emitted, owns a frame or waits. -/
  placed : registered.Perm (search.emitted ++ search.owners ++ search.pending)
  /-- Nothing under the seeds is unknown. -/
  seedsCovered : search.registry.CoversAll graph seeds
  /-- Nothing under the fields of a visited atom is unknown. -/
  fieldsCovered : ∀ index ∈ search.emitted ++ search.owners,
    search.registry.CoversAll graph (nextSeeds graph index)
  /-- Only atoms that can be declared were emitted. -/
  declarable : ∀ index ∈ search.emitted, isDeclarable (graph.atom index).kind

/-- Emitting an owner that can be declared adds it at the end. -/
theorem emit_ok {graph : TypeGraph} {emitted result : List Nat} {owner : Option Nat}
    (done : emit graph emitted owner = .ok result) :
    result = emitted ++ owner.toList ∧ ∀ index ∈ owner, isDeclarable (graph.atom index).kind := by
  cases owner with
  | none =>
    cases done
    simp
  | some index =>
    by_cases allowed : isDeclarable (graph.atom index).kind
    · simp only [emit, if_pos allowed, Except.ok.injEq] at done
      subst done
      simp [allowed]
    · simp [emit, allowed] at done

namespace Search

variable {registry : Registry} {graph : TypeGraph} {seeds : List TypeRef}
variable {registered : List Nat} {search : Search}

/-- All that one round can do: nothing without frames, leave an exhausted frame, or visit the next
atom of the innermost frontier. -/
theorem step_cases {next : Search} (stepped : search.step graph = .ok next) :
    (search.frames = [] ∧ next = search) ∨
    (∃ owner rest emitted, search.frames = ⟨[], owner⟩ :: rest ∧
      emit graph search.emitted owner = .ok emitted ∧
      next = { search with frames := rest, emitted }) ∨
    (∃ current pending owner rest children later,
      search.frames = ⟨current :: pending, owner⟩ :: rest ∧
      advance search.registry graph (nextSeeds graph current) = .ok (children, later) ∧
      next = { search with
        registry := later, frames := ⟨children, some current⟩ :: ⟨pending, owner⟩ :: rest }) := by
  rw [step] at stepped
  split at stepped
  · rename_i none
    exact .inl ⟨none, (Except.ok.inj stepped).symm⟩
  · rename_i owner rest left
    obtain ⟨emitted, done, same⟩ := bind_eq_ok.mp stepped
    exact .inr (.inl ⟨owner, rest, emitted, left, done, (Except.ok.inj same).symm⟩)
  · rename_i current pending owner rest visited
    obtain ⟨⟨children, later⟩, advanced, same⟩ := bind_eq_ok.mp stepped
    exact .inr (.inr ⟨current, pending, owner, rest, children, later, visited, advanced,
      (Except.ok.inj same).symm⟩)

/-- A search that has started has registered its first frontier, and all of it waits. -/
theorem start_progress (started : start registry graph seeds = .ok search) :
    search.Progress registry graph seeds search.pending ∧ search.frames.length = 1 := by
  obtain ⟨⟨frontier, later⟩, advanced, same⟩ := bind_eq_ok.mp started
  obtain rfl := Except.ok.inj same
  have first := advance_ok advanced
  refine ⟨?_, rfl⟩
  have waiting : pending ⟨later, [⟨frontier, none⟩], []⟩ = frontier := by simp [pending]
  rw [waiting]
  exact {
    grown := first.registered
    distinct := first.distinct
    unknown := first.unknown
    reached := fun index member => by
      obtain ⟨seed, inSeeds, atoms, found, inAtoms⟩ := first.under index member
      exact (Registry.Reaches.seed inSeeds).leaf found inAtoms
    placed := by simp [owners, pending]
    seedsCovered := first.covered
    fieldsCovered := by simp [owners]
    declarable := by simp }

/-- What was covered stays covered when more atoms are registered. -/
theorem covers_registerAll {known : Registry} {types : List TypeRef} (atoms : List Nat)
    (covered : known.CoversAll graph types) :
    (registerAll known graph atoms).CoversAll graph types := by
  intro type member
  obtain ⟨leaves, found, below⟩ := covered type member
  refine ⟨leaves, found, fun index inLeaves => ?_⟩
  exact Registry.isKnown_mono
    (fun identity old => (contains_registerAll known graph atoms identity).mpr (.inr old))
    (below index inLeaves)

/-- What a search newly finds was not known at the start and is not registered yet. -/
theorem Progress.new (progress : search.Progress registry graph seeds registered)
    {types : List TypeRef} {children : List Nat} {later : Registry}
    (found : Advanced search.registry graph types children later) {index : Nat}
    (member : index ∈ children) :
    registry.isKnown graph (.atom index) = false ∧
      (graph.atom index).identity ∉ graph.identities registered := by
  obtain ⟨kind, unnamed⟩ :=
    (search.registry.isKnown_atom_eq_false graph).mp (found.unknown index member)
  rw [progress.grown, ← Bool.not_eq_true, contains_registerAll, not_or, Bool.not_eq_true] at unnamed
  exact ⟨(registry.isKnown_atom_eq_false graph).mpr ⟨kind, unnamed.2⟩, unnamed.1⟩

/-- Visiting the next atom of a frontier registers its frontier of new atoms. -/
theorem Progress.visit (progress : search.Progress registry graph seeds registered)
    {current : Nat} {pending : List Nat} {owner : Option Nat} {rest : List Frame}
    {children : List Nat} {later : Registry}
    (frames : search.frames = ⟨current :: pending, owner⟩ :: rest)
    (advanced : advance search.registry graph (nextSeeds graph current) = .ok (children, later)) :
    Progress registry graph seeds (registered ++ children) { search with
      registry := later, frames := ⟨children, some current⟩ :: ⟨pending, owner⟩ :: rest } := by
  have found := advance_ok advanced
  have currentRegistered : current ∈ registered := by
    apply progress.placed.mem_iff.mpr
    simp [Search.pending, frames]
  have currentUnknown := (registry.isKnown_atom_eq_false graph).mp
    (progress.unknown current currentRegistered)
  have coveredBefore : ∀ types, search.registry.CoversAll graph types →
      later.CoversAll graph types := by
    intro types covered
    rw [found.registered]
    exact covers_registerAll children covered
  constructor
  case grown => rw [registerAll_append, ← progress.grown, found.registered]
  case distinct =>
    rw [TypeGraph.identities, List.map_append, List.nodup_append]
    refine ⟨progress.distinct, found.distinct, fun left old right new same => ?_⟩
    obtain ⟨index, member, rfl⟩ := List.mem_map.mp new
    exact (progress.new found member).2 (same ▸ old)
  case unknown =>
    intro index member
    rcases List.mem_append.mp member with old | new
    · exact progress.unknown index old
    · exact (progress.new found new).1
  case reached =>
    intro index member
    rcases List.mem_append.mp member with old | new
    · exact progress.reached index old
    · obtain ⟨type, inFields, atoms, located, inAtoms⟩ := found.under index new
      have owned := progress.reached current currentRegistered
      exact (owned.nextSeed currentUnknown.2 inFields).leaf located inAtoms
  case placed =>
    have before := progress.placed
    simp only [Search.pending, Search.owners, frames, List.flatMap_cons, List.filterMap_cons]
      at before ⊢
    rw [List.perm_iff_count] at before ⊢
    intro index
    have counted := before index
    cases owner <;> simp only [List.count_append, List.count_cons] at counted ⊢ <;> omega
  case seedsCovered => exact coveredBefore seeds progress.seedsCovered
  case fieldsCovered =>
    intro index member
    have placed : index = current ∨ index ∈ search.emitted ++ search.owners := by
      simp only [Search.owners, frames, List.filterMap_cons] at member ⊢
      cases owner <;> simp at member ⊢ <;> tauto
    rcases placed with rfl | visited
    · exact found.covered
    · exact coveredBefore _ (progress.fieldsCovered index visited)
  case declarable => exact progress.declarable

/-- Leaving an exhausted frontier emits its owner. -/
theorem Progress.leave (progress : search.Progress registry graph seeds registered)
    {owner : Option Nat} {rest : List Frame} {emitted : List Nat}
    (frames : search.frames = ⟨[], owner⟩ :: rest)
    (done : emit graph search.emitted owner = .ok emitted) :
    Progress registry graph seeds registered { search with frames := rest, emitted } := by
  obtain ⟨rfl, allowed⟩ := emit_ok done
  have moved : search.owners = owner.toList ++ rest.filterMap Frame.owner := by
    cases owner <;> simp [Search.owners, frames]
  have waiting : search.pending = rest.flatMap Frame.pending := by simp [Search.pending, frames]
  exact {
    grown := progress.grown
    distinct := progress.distinct
    unknown := progress.unknown
    reached := progress.reached
    placed := by
      have before := progress.placed
      rw [moved, waiting] at before
      simpa [Search.owners, Search.pending] using before
    seedsCovered := progress.seedsCovered
    fieldsCovered := fun index member => by
      apply progress.fieldsCovered index
      rw [moved]
      simpa [Search.owners] using member
    declarable := fun index member => by
      rcases List.mem_append.mp member with old | new
      · exact progress.declarable index old
      · exact allowed index (Option.mem_toList.mp new) }

end Search

end ServiceStubs.Closure
