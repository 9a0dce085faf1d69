import Mathlib.Data.Set.Card
import ServiceStubs.Proofs.Closure.Exactness

/-!
# The loop of a search

A search goes round until its frames are exhausted or a round fails. `Search.Loop` tells how many
rounds that takes and what the search ends with, without any bound on the rounds: a search that
went round for ever would have no number of rounds. Every search has one, whatever way the fields
of its graph lead back to each other, because each round uses up one of the rounds that remain.
The rounds are at most two for each identity that can be registered and one more; a search that
succeeds makes exactly two for each type that it emits and one more.
-/

namespace ServiceStubs

/-- The identities that a search can register: those of the atoms that the seeds lead to and that
the registry does not know. -/
def Registry.newIdentities (registry : Registry) (graph : TypeGraph) (seeds : List TypeRef) :
    Set String :=
  {identity | ∃ index, registry.Reaches graph seeds (.atom index) ∧
    registry.isKnown graph (.atom index) = false ∧ (graph.atom index).identity = identity}

namespace Closure

/-- The rounds that a search makes until its frames are exhausted or a round fails, and what it
ends with. -/
inductive Search.Loop (graph : TypeGraph) : Search → Nat → Except StubError Search → Prop
  /-- Without frames no round is left to make. -/
  | exhausted {search : Search} (done : search.frames = []) : Loop graph search 0 (.ok search)
  /-- A round that fails is the last one. -/
  | failed {search : Search} {failure : StubError} (running : search.frames ≠ [])
      (stepped : search.step graph = .error failure) : Loop graph search 1 (.error failure)
  /-- After any other round the loop goes on. -/
  | next {search later : Search} {rounds : Nat} {outcome : Except StubError Search}
      (running : search.frames ≠ []) (stepped : search.step graph = .ok later)
      (rest : Loop graph later rounds outcome) : Loop graph search (rounds + 1) outcome

variable {registry : Registry} {graph : TypeGraph} {seeds : List TypeRef}

/-- A search makes one number of rounds and ends in one way. -/
theorem Search.Loop.unique {search : Search} {rounds others : Nat}
    {outcome result : Except StubError Search} (first : search.Loop graph rounds outcome)
    (second : search.Loop graph others result) : rounds = others ∧ outcome = result := by
  induction first generalizing others result with
  | exhausted done =>
    cases second with
    | exhausted _ => exact ⟨rfl, rfl⟩
    | failed running _ => exact absurd done running
    | next running _ _ => exact absurd done running
  | failed running stepped =>
    cases second with
    | exhausted done => exact absurd done running
    | failed _ again =>
      rw [stepped] at again
      exact ⟨rfl, congrArg Except.error (Except.error.inj again)⟩
    | next _ again _ =>
      rw [stepped] at again
      cases again
  | next running stepped _ ih =>
    cases second with
    | exhausted done => exact absurd done running
    | failed _ again =>
      rw [stepped] at again
      cases again
    | next _ again rest =>
      rw [stepped] at again
      obtain rfl := Except.ok.inj again
      obtain ⟨sameRounds, sameOutcome⟩ := ih rest
      exact ⟨congrArg (· + 1) sameRounds, sameOutcome⟩

/-- A search that is given at least the rounds of its loop ends as the loop does. -/
theorem Search.Loop.run {search : Search} {rounds given : Nat}
    {outcome : Except StubError Search} (loop : search.Loop graph rounds outcome)
    (enough : rounds ≤ given) : search.run graph given = outcome := by
  induction loop generalizing given with
  | exhausted done =>
    cases given with
    | zero => rfl
    | succ given => rw [Search.run, done, List.isEmpty_nil, if_pos rfl]
  | failed running stepped =>
    obtain ⟨given, rfl⟩ := Nat.exists_eq_add_of_le' enough
    rw [Search.run, if_neg (by simpa using running), stepped]
    rfl
  | next running stepped _ ih =>
    obtain ⟨given, rfl⟩ := Nat.exists_eq_add_of_le' (Nat.le_of_add_left_le enough)
    rw [Search.run, if_neg (by simpa using running), stepped]
    exact ih (by omega)

/-- The loop of a search that has made progress ends within the rounds that remain. If it does not
fail, it ends without frames, and the rounds that it has made no longer remain. -/
theorem Search.Progress.loop {search : Search} {registered : List Nat} {possible : List String}
    (progress : search.Progress registry graph seeds registered)
    (room : Bounded registry graph seeds possible) :
    ∃ rounds outcome, search.Loop graph rounds outcome ∧
      rounds ≤ search.remaining possible.length registered ∧
      ∀ finished, outcome = .ok finished → finished.frames = [] ∧
        ∃ all, finished.Progress registry graph seeds all ∧
          rounds + finished.remaining possible.length all =
            search.remaining possible.length registered := by
  -- The induction is on the rounds that remain, which every round lowers by exactly one.
  induction left : search.remaining possible.length registered
    generalizing search registered with
  | zero =>
    have exhausted : search.frames.length = 0 := by
      rw [remaining] at left
      omega
    have done := List.length_eq_zero_iff.mp exhausted
    refine ⟨0, .ok search, .exhausted done, le_refl 0, fun finished same => ?_⟩
    obtain rfl := Except.ok.inj same
    exact ⟨done, registered, progress, by omega⟩
  | succ count ih =>
    by_cases done : search.frames = []
    · refine ⟨0, .ok search, .exhausted done, Nat.zero_le _, fun finished same => ?_⟩
      obtain rfl := Except.ok.inj same
      exact ⟨done, registered, progress, by omega⟩
    · cases stepped : search.step graph with
      | error failure =>
        refine ⟨1, .error failure, .failed done stepped, by omega, fun finished same => ?_⟩
        cases same
      | ok next =>
        obtain ⟨more, kept, used⟩ := progress.round room done stepped
        obtain ⟨rounds, outcome, loop, bound, ends⟩ := ih kept (by omega)
        refine ⟨rounds + 1, outcome, .next done stepped loop, by omega, fun finished same => ?_⟩
        obtain ⟨exhausted, all, last, counted⟩ := ends finished same
        exact ⟨exhausted, all, last, by omega⟩

/-- The identities that a search can register are some of those of the table and of the place after
its end. -/
theorem newIdentities_subset (registry : Registry) (graph : TypeGraph) (seeds : List TypeRef) :
    registry.newIdentities graph seeds ⊆
      {identity | identity ∈ graph.identities (List.range (graph.size + 1))} := by
  rintro identity ⟨index, _, _, rfl⟩
  exact Search.identity_mem_table graph index

/-- The identities that a search can register are finitely many. -/
theorem newIdentities_finite (registry : Registry) (graph : TypeGraph) (seeds : List TypeRef) :
    (registry.newIdentities graph seeds).Finite :=
  (List.finite_toSet _).subset (newIdentities_subset registry graph seeds)

/-- Every search of a graph is given two rounds for each identity that it can register and one
more. -/
theorem newIdentities_enoughRounds (registry : Registry) (graph : TypeGraph)
    (seeds : List TypeRef) :
    2 * (registry.newIdentities graph seeds).ncard + 1 ≤ enoughRounds graph := by
  have table := Set.ncard_le_ncard (newIdentities_subset registry graph seeds)
    (List.finite_toSet _)
  have places : {identity | identity ∈ graph.identities (List.range (graph.size + 1))}.ncard ≤
      graph.size + 1 := by
    rw [← List.coe_toFinset, Set.ncard_coe_finset]
    refine (List.toFinset_card_le _).trans ?_
    rw [TypeGraph.identities, List.length_map, List.length_range]
  rw [enoughRounds]
  omega

/-- The identities that a search can register, in some order, are all that are possible. -/
theorem exists_bounded (registry : Registry) (graph : TypeGraph) (seeds : List TypeRef) :
    ∃ possible, Bounded registry graph seeds possible ∧
      possible.length = (registry.newIdentities graph seeds).ncard := by
  have finite := newIdentities_finite registry graph seeds
  refine ⟨finite.toFinset.toList, fun index reached unknown => ?_, ?_⟩
  · rw [Finset.mem_toList, Set.Finite.mem_toFinset]
    exact ⟨index, reached, unknown, rfl⟩
  · rw [Finset.length_toList, Set.ncard_eq_toFinset_card _ finite]

/-- A closure is what the loop of its search ends with, when the loop ends within the rounds that
the search is given. -/
theorem Search.Loop.resolve {search : Search} {rounds : Nat} {outcome : Except StubError Search}
    (loop : search.Loop graph rounds outcome) (enough : rounds ≤ enoughRounds graph)
    (started : Search.start registry graph seeds = .ok search) :
    registry.resolve graph seeds =
      outcome.map fun finished => ⟨finished.emitted, finished.registry⟩ := by
  rw [Registry.resolve, started]
  change (do
    let finished ← search.run graph (enoughRounds graph)
    return (⟨finished.emitted, finished.registry⟩ : Closure)) = _
  rw [loop.run enough]
  cases outcome <;> rfl

/-- The search for a closure fails before its loop starts, or its loop ends: after at most two
rounds for each identity that it can register and one more, and if it succeeds, after exactly two
rounds for each type that it emits and one more. The closure is what the loop ends with. -/
theorem resolve_rounds (registry : Registry) (graph : TypeGraph) (seeds : List TypeRef) :
    (∃ failure, Search.start registry graph seeds = .error failure ∧
      registry.resolve graph seeds = .error failure) ∨
    ∃ search, Search.start registry graph seeds = .ok search ∧
      (∃ rounds outcome, search.Loop graph rounds outcome) ∧
      ∀ rounds outcome, search.Loop graph rounds outcome →
        rounds ≤ 2 * (registry.newIdentities graph seeds).ncard + 1 ∧
        registry.resolve graph seeds =
          outcome.map (fun finished => ⟨finished.emitted, finished.registry⟩) ∧
        ∀ closure, registry.resolve graph seeds = .ok closure →
          rounds = 2 * closure.types.length + 1 := by
  cases started : Search.start registry graph seeds with
  | error failure =>
    refine .inl ⟨failure, rfl, ?_⟩
    rw [Registry.resolve, started]
    rfl
  | ok search =>
    obtain ⟨progress, single⟩ := Search.start_progress started
    obtain ⟨possible, room, counted⟩ := exists_bounded registry graph seeds
    have bound := progress.length_le room
    have atStart : search.remaining possible.length search.pending =
        2 * (registry.newIdentities graph seeds).ncard + 1 := by
      simp only [Search.remaining, single]
      omega
    obtain ⟨rounds, outcome, loop, within, ends⟩ := progress.loop room
    refine .inr ⟨search, rfl, ⟨rounds, outcome, loop⟩, fun others result again => ?_⟩
    obtain ⟨rfl, rfl⟩ := loop.unique again
    have given := newIdentities_enoughRounds registry graph seeds
    have resolved := loop.resolve (by omega) started
    refine ⟨by omega, resolved, fun closure success => ?_⟩
    rw [resolved] at success
    obtain ⟨finished, ended, rfl⟩ := map_eq_ok.mp success
    obtain ⟨exhausted, all, last, used⟩ := ends finished ended
    have emitted : all.length = finished.emitted.length := by
      have placed := last.placed.length_eq
      simpa [Search.owners, Search.pending, exhausted] using placed
    have inside := last.length_le room
    simp only [Search.remaining, Search.pending, exhausted, List.flatMap_nil, List.length_nil]
      at used atStart
    show rounds = 2 * finished.emitted.length + 1
    omega

end Closure

end ServiceStubs
