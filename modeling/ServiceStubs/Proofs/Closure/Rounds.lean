import ServiceStubs.Proofs.Closure.Progress

/-!
# Rounds of a search

The atoms that a search registers have different identities, so there are at most as many as the
graph has identities. Each of them takes two rounds, one to visit it and one to leave its frame,
and the seeds take one more. `Search.remaining` counts what is left of these rounds, and a round
lowers it by exactly one. A search that is given that many rounds therefore ends without frames,
and every registered atom has been emitted.
-/

namespace ServiceStubs.Closure

/-- Every identity that a search can register is one of those that are possible. -/
def Bounded (registry : Registry) (graph : TypeGraph) (seeds : List TypeRef)
    (possible : List String) : Prop :=
  ∀ index, registry.Reaches graph seeds (.atom index) →
    registry.isKnown graph (.atom index) = false → (graph.atom index).identity ∈ possible

/-- The rounds that can follow when at most `limit` atoms are registered in all: two for each atom
that may still be found and for each one that waits, and one for each frame. -/
def Search.remaining (limit : Nat) (registered : List Nat) (search : Search) : Nat :=
  2 * (limit - registered.length) + 2 * search.pending.length + search.frames.length

namespace Search

variable {registry : Registry} {graph : TypeGraph} {seeds : List TypeRef}
variable {registered : List Nat} {search : Search} {possible : List String}

/-- No more atoms are registered than there are identities for them. -/
theorem Progress.length_le (progress : search.Progress registry graph seeds registered)
    (room : Bounded registry graph seeds possible) :
    registered.length ≤ possible.length := by
  have inside : graph.identities registered ⊆ possible := by
    intro identity member
    obtain ⟨index, listed, rfl⟩ := List.mem_map.mp member
    exact room index (progress.reached index listed) (progress.unknown index listed)
  have bound := (progress.distinct.subperm inside).length_le
  simpa only [TypeGraph.identities, List.length_map] using bound

/-- A round of a search with frames keeps its progress and uses up one of its rounds. -/
theorem Progress.round (progress : search.Progress registry graph seeds registered)
    (room : Bounded registry graph seeds possible)
    (running : search.frames ≠ []) {next : Search} (stepped : search.step graph = .ok next) :
    ∃ more, next.Progress registry graph seeds (registered ++ more) ∧
      next.remaining possible.length (registered ++ more) + 1 =
        search.remaining possible.length registered := by
  rcases step_cases stepped with ⟨none, _⟩ | ⟨owner, rest, emitted, frames, done, rfl⟩ |
    ⟨current, pending, owner, rest, children, later, frames, advanced, rfl⟩
  · exact absurd none running
  · refine ⟨[], by simpa using progress.leave frames done, ?_⟩
    simp only [remaining, Search.pending, frames, List.append_nil, List.flatMap_cons,
      List.nil_append, List.length_cons]
    omega
  · have visited := progress.visit frames advanced
    have bound := visited.length_le room
    refine ⟨children, visited, ?_⟩
    simp only [remaining, Search.pending, frames, List.flatMap_cons, List.length_append,
      List.length_cons] at bound ⊢
    omega

/-- A search that is given its remaining rounds and does not fail ends without frames. -/
theorem Progress.run (progress : search.Progress registry graph seeds registered)
    (room : Bounded registry graph seeds possible)
    {rounds : Nat} (enough : search.remaining possible.length registered ≤ rounds)
    {finished : Search} (ran : search.run graph rounds = .ok finished) :
    finished.frames = [] ∧ ∃ all, finished.Progress registry graph seeds all := by
  induction rounds generalizing search registered with
  | zero =>
    obtain rfl : search = finished := Except.ok.inj ran
    have exhausted : search.frames.length = 0 := by
      rw [remaining] at enough
      omega
    exact ⟨List.length_eq_zero_iff.mp exhausted, registered, progress⟩
  | succ rounds ih =>
    rw [Search.run] at ran
    split at ran
    · rename_i exhausted
      obtain rfl : search = finished := Except.ok.inj ran
      exact ⟨List.isEmpty_iff.mp exhausted, registered, progress⟩
    · rename_i running
      obtain ⟨next, stepped, rest⟩ := bind_eq_ok.mp ran
      obtain ⟨more, kept, used⟩ :=
        progress.round room (fun exhausted => running (List.isEmpty_iff.mpr exhausted)) stepped
      exact ih kept (by omega) rest

/-- The identity of every atom is that of a place of the table or of the place after its end. -/
theorem identity_mem_table (graph : TypeGraph) (index : Nat) :
    (graph.atom index).identity ∈ graph.identities (List.range (graph.size + 1)) := by
  refine List.mem_map.mpr ⟨min index graph.size, List.mem_range.mpr (by omega), ?_⟩
  by_cases inside : index ≤ graph.size
  · rw [min_eq_left inside]
  · have outside : graph.atoms.size ≤ index := Nat.le_of_lt (Nat.lt_of_not_ge inside)
    rw [show min index graph.size = graph.size from min_eq_right outside]
    simp [TypeGraph.atom, TypeGraph.size, Array.getD, Nat.not_lt.mpr outside]

/-- The identities of the table and of the place after its end are all that are possible. -/
theorem bounded_table :
    Bounded registry graph seeds (graph.identities (List.range (graph.size + 1))) :=
  fun index _ _ => identity_mem_table graph index

/-- The rounds that every search of a graph is given are enough. -/
theorem run_enoughRounds {finished : Search} (started : start registry graph seeds = .ok search)
    (ran : search.run graph (enoughRounds graph) = .ok finished) :
    finished.frames = [] ∧ ∃ all, finished.Progress registry graph seeds all := by
  obtain ⟨progress, single⟩ := start_progress started
  refine progress.run bounded_table ?_ ran
  have bound := progress.length_le bounded_table
  simp only [TypeGraph.identities, List.length_map, List.length_range] at bound
  simp only [remaining, enoughRounds, TypeGraph.identities, List.length_map, List.length_range]
  omega

end Search

/-- A closure that was resolved is what a search without frames has emitted. -/
theorem resolve_progress {registry : Registry} {graph : TypeGraph} {seeds : List TypeRef}
    {closure : Closure} (resolved : registry.resolve graph seeds = .ok closure) :
    ∃ registered,
      Search.Progress registry graph seeds registered ⟨closure.registry, [], closure.types⟩ := by
  obtain ⟨search, started, rest⟩ := bind_eq_ok.mp resolved
  obtain ⟨finished, ran, same⟩ := bind_eq_ok.mp rest
  obtain rfl := Except.ok.inj same
  obtain ⟨exhausted, all, progress⟩ := Search.run_enoughRounds started ran
  refine ⟨all, ?_⟩
  rwa [← exhausted]

end ServiceStubs.Closure
