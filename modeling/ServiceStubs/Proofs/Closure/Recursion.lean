import ServiceStubs.Proofs.Closure.Rounds

/-!
# The search as a recursion

The closure has a recursive description: advance from the seeds, and for each atom of the frontier
in order, with one registry handed on, advance from the types that the atom leads to, recurse into
the new frontier, and then emit the atom if it can be declared. The recursion has no bound; where
it would not end it has no value. The search with an explicit stack of frames computes it: each
round keeps what the suspended frames still have to do, and since the rounds of a search are
enough, the recursion always has a value, which is the result of the search.
-/

namespace ServiceStubs.TypeGraph

open Closure (advance emit nextSeeds)

/-- Declare the atoms of a frontier in order, each after what is found under it. -/
def explore (graph : TypeGraph) (registry : Registry) :
    List Nat → ExceptT StubError Option (List Nat × Registry)
  | [] => return ([], registry)
  | index :: rest => do
    let (children, registry) ← advance registry graph (nextSeeds graph index)
    let (below, registry) ← graph |>.explore registry children
    let declared ← emit graph below (some index)
    let (others, registry) ← graph |>.explore registry rest
    return (declared ++ others, registry)
partial_fixpoint

end ServiceStubs.TypeGraph

namespace ServiceStubs.Closure

/-- The closure of some seed types by recursion. -/
def resolveRecursively (registry : Registry) (graph : TypeGraph) (seeds : List TypeRef) :
    ExceptT StubError Option Closure := do
  let (frontier, registry) ← advance registry graph seeds
  let (types, registry) ← graph.explore registry frontier
  return ⟨types, registry⟩

/-- What suspended frames still have to do: explore what waits in the innermost frontier, emit its
owner, and go on with the frames around it. -/
def resumeFrames (graph : TypeGraph) (registry : Registry) (emitted : List Nat) :
    List Frame → ExceptT StubError Option (List Nat × Registry)
  | [] => return (emitted, registry)
  | ⟨pending, owner⟩ :: rest => do
    let (below, registry) ← graph.explore registry pending
    let emitted ← emit graph (emitted ++ below) owner
    resumeFrames graph registry emitted rest

/-- What a search still has to do, by recursion. -/
def Search.resume (graph : TypeGraph) (search : Search) :
    ExceptT StubError Option (List Nat × Registry) :=
  resumeFrames graph search.registry search.emitted search.frames

variable {graph : TypeGraph}

/-- A success that is lifted is a result. -/
theorem lift_ok {α : Type} (value : α) :
    (liftM (Except.ok value : Except StubError α) : ExceptT StubError Option α) = pure value := rfl

/-- An owner is emitted after whatever was emitted before. -/
theorem emit_append (before emitted : List Nat) (index : Nat) :
    emit graph (before ++ emitted) (some index) =
      (emit graph emitted (some index)).map (before ++ ·) := by
  by_cases allowed : isDeclarable (graph.atom index).kind <;>
    simp [emit, allowed, Except.map]

/-- Leaving an exhausted frame does what the frame still had to do. -/
theorem resumeFrames_leave (registry : Registry) (emitted : List Nat) (owner : Option Nat)
    (rest : List Frame) :
    resumeFrames graph registry emitted (⟨[], owner⟩ :: rest) =
      (do
        let emitted ← emit graph emitted owner
        resumeFrames graph registry emitted rest) := by
  simp only [resumeFrames, TypeGraph.explore, pure_bind, List.append_nil]

/-- Visiting an atom does the first part of what its frame still had to do. -/
theorem resumeFrames_visit (registry : Registry) (emitted : List Nat) (current : Nat)
    (pending : List Nat) (owner : Option Nat) (rest : List Frame) :
    resumeFrames graph registry emitted (⟨current :: pending, owner⟩ :: rest) =
      (do
        let (children, registry) ← advance registry graph (nextSeeds graph current)
        resumeFrames graph registry emitted
          (⟨children, some current⟩ :: ⟨pending, owner⟩ :: rest)) := by
  simp only [resumeFrames, TypeGraph.explore, bind_assoc, pure_bind]
  congr 1
  funext found
  congr 1
  funext below
  -- The recursion emits the atom into a list of its own, the search behind what was emitted before.
  rw [emit_append]
  cases emit graph below.1 (some current) with
  | error failure => rfl
  | ok declared => simp only [Except.map, lift_ok, pure_bind, List.append_assoc]

/-- A round of a search with frames does the first part of what the search still had to do. -/
theorem Search.resume_step (search : Search) (running : search.frames ≠ []) :
    search.resume graph =
      (do
        let next ← search.step graph
        next.resume graph) := by
  obtain ⟨registry, frames, emitted⟩ := search
  match frames, running with
  | ⟨[], owner⟩ :: rest, _ =>
    rw [resume, resumeFrames_leave, step]
    dsimp only
    cases emit graph emitted owner with
    | error failure => rfl
    | ok declared => rfl
  | ⟨current :: pending, owner⟩ :: rest, _ =>
    rw [resume, resumeFrames_visit, step]
    dsimp only
    cases advance registry graph (nextSeeds graph current) with
    | error failure => rfl
    | ok found => rfl

/-- Any number of rounds does the first part of what a search still has to do. -/
theorem Search.resume_run (search : Search) (rounds : Nat) :
    search.resume graph =
      (do
        let later ← search.run graph rounds
        later.resume graph) := by
  induction rounds generalizing search with
  | zero => rfl
  | succ rounds ih =>
    rw [run]
    split
    · rfl
    · rename_i running
      rw [search.resume_step fun exhausted => running (List.isEmpty_iff.mpr exhausted)]
      cases search.step graph with
      | error failure => rfl
      | ok next => exact ih next

/-- The recursion does what a search that has just started still has to do. -/
theorem resolveRecursively_start (registry : Registry) (graph : TypeGraph)
    (seeds : List TypeRef) :
    resolveRecursively registry graph seeds =
      (do
        let search ← Search.start registry graph seeds
        let (types, registry) ← search.resume graph
        return ⟨types, registry⟩) := by
  rw [resolveRecursively, Search.start]
  cases advance registry graph seeds with
  | error failure => rfl
  | ok found =>
    obtain ⟨frontier, later⟩ := found
    have whole : Search.resume graph ⟨later, [⟨frontier, none⟩], []⟩ =
        graph.explore later frontier := by
      simp only [Search.resume, resumeFrames, emit, List.nil_append, lift_ok, pure_bind]
      exact bind_pure (graph.explore later frontier)
    simp only [lift_ok, pure_bind]
    exact congrArg (· >>= _) whole.symm

/-- The recursion has a value for every registry, graph and seeds, and the search with an explicit
stack returns it: the same types in the same order with the same registry, or the same error. -/
theorem resolveRecursively_eq (registry : Registry) (graph : TypeGraph) (seeds : List TypeRef) :
    (resolveRecursively registry graph seeds).run = some (registry.resolve graph seeds) := by
  rw [resolveRecursively_start, Registry.resolve]
  cases started : Search.start registry graph seeds with
  | error failure => rfl
  | ok search =>
    change _ = some (do
      let finished ← search.run graph (enoughRounds graph)
      return (⟨finished.emitted, finished.registry⟩ : Closure))
    simp only [lift_ok, pure_bind, search.resume_run (enoughRounds graph)]
    cases ran : search.run graph (enoughRounds graph) with
    | error failure => rfl
    | ok finished =>
      have exhausted := (Search.run_enoughRounds started ran).1
      simp only [lift_ok, pure_bind, Search.resume, exhausted, resumeFrames]
      rfl

end ServiceStubs.Closure
