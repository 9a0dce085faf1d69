import ServiceStubs.Proofs.Closure.Exactness

/-!
# When a closure cannot be resolved

Two things stand in the way of a closure: a construction without exactly one argument, which is
noticed while a frontier is computed, and a primitive that the registry does not know, which is
noticed when it would be emitted. A search fails with one of those that the seeds lead to, and
under the identity contract it fails whenever there is one: a search that succeeds has covered
every type that it could reach, and has emitted a type for every unknown identity among them.
-/

namespace ServiceStubs

/-- The failures that the types which some seeds lead to call for. -/
inductive Registry.Flaw (registry : Registry) (graph : TypeGraph) (seeds : List TypeRef) :
    StubError → Prop
  /-- A construction does not have exactly one argument. -/
  | arity {identity name : String} {base : TypeRef} {arguments : List TypeRef}
      (reached : registry.Reaches graph seeds (.apply identity name base arguments))
      (malformed : arguments.length ≠ 1) :
      Flaw registry graph seeds (.genericArity identity arguments.length)
  /-- A primitive has no name. -/
  | primitive {index : Nat} (reached : registry.Reaches graph seeds (.atom index))
      (kind : (graph.atom index).kind = .primitive)
      (unknown : registry.contains (graph.atom index).identity = false) :
      Flaw registry graph seeds (.unmappableType (graph.atom index).identity "primitive")

variable {registry : Registry} {graph : TypeGraph} {seeds : List TypeRef}

/-- The atoms under a reached type cannot be found because of a construction under it that does not
have exactly one argument. -/
theorem Registry.Reaches.flaw_of_leaves {type : TypeRef}
    (reached : registry.Reaches graph seeds type) {failure : StubError}
    (failed : type.leaves = .error failure) : registry.Flaw graph seeds failure := by
  induction type using TypeRef.leaves.induct with
  | case1 index =>
    rw [TypeRef.leaves] at failed
    cases failed
  | case2 identity name base argument inBase inArgument =>
    rw [TypeRef.leaves, bind_eq_error] at failed
    rcases failed with baseFailed | ⟨_, _, rest⟩
    · exact inBase reached.base baseFailed
    · rcases bind_eq_error.mp rest with argumentFailed | ⟨_, _, found⟩
      · exact inArgument reached.argument argumentFailed
      · cases found
  | case3 identity name base arguments malformed =>
    rw [TypeRef.leaves] at failed
    · obtain rfl := Except.error.inj failed
      refine .arity reached fun single => ?_
      obtain ⟨argument, rfl⟩ := List.length_eq_one_iff.mp single
      exact malformed argument rfl
    · exact malformed

/-- The atoms under some types cannot be found because those under one of them cannot. -/
theorem TypeRef.leavesOfAll_error {types : List TypeRef} {failure : StubError}
    (failed : leavesOfAll types = .error failure) :
    ∃ type ∈ types, type.leaves = .error failure := by
  induction types with
  | nil => cases failed
  | cons head rest ih =>
    rw [leavesOfAll, bind_eq_error] at failed
    rcases failed with here | ⟨_, _, others⟩
    · exact ⟨head, List.mem_cons_self, here⟩
    · rcases bind_eq_error.mp others with later | ⟨_, _, found⟩
      · obtain ⟨type, member, here⟩ := ih later
        exact ⟨type, List.mem_cons_of_mem head member, here⟩
      · cases found

namespace Closure

/-- Advancing from some types fails because the atoms under one of them cannot be found. -/
theorem advance_error {types : List TypeRef} {failure : StubError}
    (failed : advance registry graph types = .error failure) :
    ∃ type ∈ types, type.leaves = .error failure := by
  rw [advance, registry.unknownAtomsOfAll_eq] at failed
  rcases bind_eq_error.mp failed with unsorted | ⟨_, _, kept⟩
  · exact TypeRef.leavesOfAll_error (map_eq_error.mp unsorted)
  · cases kept

/-- An owner is not emitted because its kind cannot be declared. -/
theorem emit_error {emitted : List Nat} {owner : Option Nat} {failure : StubError}
    (failed : emit graph emitted owner = .error failure) :
    ∃ index, owner = some index ∧ isDeclarable (graph.atom index).kind = false ∧
      failure = .unmappableType (graph.atom index).identity (graph.atom index).kind.kind.word := by
  cases owner with
  | none => cases failed
  | some index =>
    by_cases allowed : isDeclarable (graph.atom index).kind
    · simp [emit, allowed] at failed
    · rw [Bool.not_eq_true] at allowed
      simp only [emit, allowed, Bool.false_eq_true, if_false] at failed
      exact ⟨index, rfl, allowed, (Except.error.inj failed).symm⟩

namespace Search

variable {registered : List Nat} {search : Search}

/-- A round fails because the owner of the exhausted frame cannot be emitted, or because the search
cannot advance from the atom that is visited. -/
theorem step_error {failure : StubError} (failed : search.step graph = .error failure) :
    (∃ owner rest, search.frames = ⟨[], owner⟩ :: rest ∧
      emit graph search.emitted owner = .error failure) ∨
    ∃ current pending owner rest, search.frames = ⟨current :: pending, owner⟩ :: rest ∧
      advance search.registry graph (nextSeeds graph current) = .error failure := by
  rw [step] at failed
  split at failed
  · cases failed
  · rename_i owner rest left
    rcases bind_eq_error.mp failed with refused | ⟨_, _, done⟩
    · exact .inl ⟨owner, rest, left, refused⟩
    · cases done
  · rename_i current pending owner rest visited
    rcases bind_eq_error.mp failed with refused | ⟨_, _, done⟩
    · exact .inr ⟨current, pending, owner, rest, visited, refused⟩
    · cases done

/-- A round of a search that has made progress fails with what a reached type calls for. Only atoms
that are no parameters are registered, so one that cannot be declared is a primitive. -/
theorem Progress.flaw_of_step (progress : search.Progress registry graph seeds registered)
    {failure : StubError} (failed : search.step graph = .error failure) :
    registry.Flaw graph seeds failure := by
  rcases step_error failed with ⟨owner, rest, frames, refused⟩ |
    ⟨current, pending, owner, rest, frames, refused⟩
  · obtain ⟨index, rfl, undeclarable, rfl⟩ := emit_error refused
    have listed : index ∈ registered := by
      apply progress.placed.mem_iff.mpr
      simp [owners, frames]
    obtain ⟨notParameter, unnamed⟩ := (registry.isKnown_atom_eq_false graph).mp
      (progress.unknown index listed)
    have primitive : (graph.atom index).kind = .primitive := by
      cases kind : (graph.atom index).kind <;>
        simp [kind, isDeclarable] at undeclarable notParameter ⊢
    rw [primitive]
    exact .primitive (progress.reached index listed) primitive unnamed
  · have listed : current ∈ registered := by
      apply progress.placed.mem_iff.mpr
      simp [Search.pending, frames]
    have unknown := (registry.isKnown_atom_eq_false graph).mp (progress.unknown current listed)
    obtain ⟨type, member, here⟩ := advance_error refused
    exact ((progress.reached current listed).nextSeed unknown.2 member).flaw_of_leaves here

/-- Rounds of a search that has made progress fail with what a reached type calls for. -/
theorem Progress.flaw_of_run (progress : search.Progress registry graph seeds registered)
    {rounds : Nat} {failure : StubError} (failed : search.run graph rounds = .error failure) :
    registry.Flaw graph seeds failure := by
  induction rounds generalizing search registered with
  | zero => cases failed
  | succ rounds ih =>
    rw [Search.run] at failed
    split at failed
    · cases failed
    · rename_i running
      rcases bind_eq_error.mp failed with refused | ⟨next, stepped, rest⟩
      · exact progress.flaw_of_step refused
      · obtain ⟨more, kept, _⟩ := progress.round bounded_table
          (fun exhausted => running (List.isEmpty_iff.mpr exhausted)) stepped
        exact ih kept rest

/-- A search that has finished leaves no flaw: it covers all that was reached, and what it emitted
can be declared. -/
theorem Progress.no_flaw {types : List Nat} {later : Registry}
    (finished : Progress registry graph seeds registered ⟨later, [], types⟩)
    (contract : graph.IdentityContract (registry.Reaches graph seeds)) {failure : StubError} :
    ¬ registry.Flaw graph seeds failure := by
  rintro (⟨reached, malformed⟩ | ⟨reached, kind, unknown⟩)
  · obtain ⟨argument, rfl⟩ := (finished.covers contract reached).one_argument
    exact malformed rfl
  · rename_i index
    have emitted := (finished.mem_identities contract _).mpr
      ⟨index, reached, by simp [kind], unknown, rfl⟩
    obtain ⟨twin, listed, _, _, shape⟩ :=
      finished.exists_twin (fun _ => .seed) contract reached emitted
    have declarable := finished.declarable twin listed
    rw [shape.atomKind, kind] at declarable
    cases declarable

end Search

/-- Whatever a closure fails with is called for by a type that the seeds lead to. -/
theorem resolve_flaw {failure : StubError}
    (failed : registry.resolve graph seeds = .error failure) :
    registry.Flaw graph seeds failure := by
  rcases bind_eq_error.mp failed with refused | ⟨search, started, rest⟩
  · rcases bind_eq_error.mp refused with unadvanced | ⟨_, _, found⟩
    · obtain ⟨type, member, here⟩ := advance_error unadvanced
      exact (Registry.Reaches.seed member).flaw_of_leaves here
    · cases found
  · rcases bind_eq_error.mp rest with stopped | ⟨_, _, done⟩
    · exact (Search.start_progress started).1.flaw_of_run stopped
    · cases done

/-- Under the identity contract, a closure is resolved exactly when no type that the seeds lead to
calls for a failure; and whatever it fails with, such a type calls for. -/
theorem resolve_iff_no_flaw (contract : graph.IdentityContract (registry.Reaches graph seeds)) :
    ((∃ closure, registry.resolve graph seeds = .ok closure) ↔
      ∀ failure, ¬ registry.Flaw graph seeds failure) ∧
    ∀ failure, registry.resolve graph seeds = .error failure →
      registry.Flaw graph seeds failure := by
  refine ⟨⟨?_, fun clean => ?_⟩, fun failure failed => resolve_flaw failed⟩
  · rintro ⟨closure, resolved⟩ failure flaw
    obtain ⟨registered, finished⟩ := resolve_progress resolved
    exact finished.no_flaw contract flaw
  · cases outcome : registry.resolve graph seeds with
    | ok closure => exact ⟨closure, rfl⟩
    | error failure => exact absurd (resolve_flaw outcome) (clean failure)

/-- A composite that leads to itself and, in a list, to a primitive that has no name. -/
def unnamedAmount : TypeGraph where
  atoms := #[
    .composite "Invoice" "" [] [⟨"previous", .atom 0⟩,
      ⟨"amounts", .apply "list[decimal]" "list" (.atom 2) [.atom 1]⟩],
    .primitive "decimal", .primitive listIdentity]

/-- The types that the composite leads to. -/
theorem unnamedAmount_reached {type : TypeRef}
    (reached : Registry.typescript.Reaches unnamedAmount [.atom 0] type) :
    type ∈ [.atom 0, .atom 1, .atom 2, .apply "list[decimal]" "list" (.atom 2) [.atom 1]] := by
  refine reached.mem_of_closed (by simp) ?_
  simp [TypeGraph.successors, Closure.nextSeeds, unnamedAmount, TypeGraph.atom, Atom.composite,
    Atom.primitive]

/-- A closure fails with a primitive without a name that stands under a cycle and a list. -/
theorem resolve_unnamedAmount :
    unnamedAmount.IdentityContract (Registry.typescript.Reaches unnamedAmount [.atom 0]) ∧
    ((∃ closure, Registry.typescript.resolve unnamedAmount [.atom 0] = .ok closure) ↔
      ∀ failure, ¬ Registry.typescript.Flaw unnamedAmount [.atom 0] failure) ∧
    Registry.typescript.resolve unnamedAmount [.atom 0] =
      .error (.unmappableType "decimal" "primitive") ∧
    Registry.typescript.Flaw unnamedAmount [.atom 0] (.unmappableType "decimal" "primitive") := by
  have contract : unnamedAmount.IdentityContract
      (Registry.typescript.Reaches unnamedAmount [.atom 0]) :=
    TypeGraph.identityContract_of_mem (fun _ => unnamedAmount_reached) (by decide)
  exact ⟨contract, (resolve_iff_no_flaw contract).1, rfl, (resolve_iff_no_flaw contract).2 _ rfl⟩

end Closure

end ServiceStubs
