import ServiceStubs.Proofs.Closure.Failure
import ServiceStubs.Proofs.Closure.Loop

/-!
# Closures in two steps

The seeds of a closure may be resolved in two steps, the second one from the registry that the first
one returns. The second search does not enter what the first one has registered, and need not: the
first registry covers all that its own seeds lead to, so whatever the second search leaves out is
covered already. Both steps succeed when the whole does, and together they emit the same types, none
of them twice, although in another order and perhaps under other names.
-/

namespace ServiceStubs

variable {registry : Registry} {graph : TypeGraph} {first second : List TypeRef}

/-- The seeds of a first list are reached from both lists. -/
theorem Registry.reaches_of_mem_left {type : TypeRef} (member : type ∈ first) :
    registry.Reaches graph (first ++ second) type := .seed (List.mem_append_left _ member)

/-- The contract that holds among all that both lists of seeds lead to holds for the first one. -/
theorem TypeGraph.IdentityContract.of_append
    (contract : graph.IdentityContract (registry.Reaches graph (first ++ second))) :
    graph.IdentityContract (registry.Reaches graph first) :=
  contract.mono fun _ reached => Registry.reaches_append.mpr (.inl reached)

/-- Two lists of seeds call for the failures that the first or the second of them calls for. -/
theorem Registry.flaw_append {failure : StubError} :
    registry.Flaw graph (first ++ second) failure ↔
      registry.Flaw graph first failure ∨ registry.Flaw graph second failure := by
  constructor
  · rintro (⟨reached, malformed⟩ | ⟨reached, kind, unknown⟩)
    · exact (reaches_append.mp reached).imp (.arity · malformed) (.arity · malformed)
    · exact (reaches_append.mp reached).imp (.primitive · kind unknown) (.primitive · kind unknown)
  · rintro ((⟨reached, malformed⟩ | ⟨reached, kind, unknown⟩) |
      (⟨reached, malformed⟩ | ⟨reached, kind, unknown⟩))
    · exact .arity (reaches_append.mpr (.inl reached)) malformed
    · exact .primitive (reaches_append.mpr (.inl reached)) kind unknown
    · exact .arity (reaches_append.mpr (.inr reached)) malformed
    · exact .primitive (reaches_append.mpr (.inr reached)) kind unknown

namespace Closure

/-! ## The second step -/

namespace Search.Progress

variable {registered types : List Nat} {later : Registry}

/-- The registry that a search returns knows what the first registry knew. -/
theorem contains_mono
    (finished : Search.Progress registry graph first registered ⟨later, [], types⟩)
    (identity : String) (known : registry.contains identity) : later.contains identity :=
  (finished.contains_iff identity).mpr (.inr known)

/-- What the registry that a search returns does not know, the first registry did not know. -/
theorem unknown_of_unknown
    (finished : Search.Progress registry graph first registered ⟨later, [], types⟩)
    {identity : String} (unknown : later.contains identity = false) :
    registry.contains identity = false := by
  rw [← Bool.not_eq_true] at unknown ⊢
  exact fun known => unknown (finished.contains_mono identity known)

/-- What other seeds lead to from the registry that a search returns, they lead to from the first
registry. -/
theorem reaches_of_later
    (finished : Search.Progress registry graph first registered ⟨later, [], types⟩)
    {type : TypeRef} (reached : later.Reaches graph second type) :
    registry.Reaches graph second type :=
  reached.mono finished.contains_mono fun _ => .seed

variable (finished : Search.Progress registry graph first registered ⟨later, [], types⟩)
variable (contract : graph.IdentityContract (registry.Reaches graph (first ++ second)))

include finished contract

/-- What other seeds lead to from the first registry, they lead to from the one that a search
returns, unless that one covers it. -/
theorem reaches_or_covers {type : TypeRef} (reached : registry.Reaches graph second type) :
    later.Reaches graph second type ∨ later.Covers graph type := by
  induction reached with
  | seed member => exact .inl (.seed member)
  | base _ whole => exact whole.imp .base fun covered => ((later.covers_apply graph).mp covered).1
  | argument _ whole =>
    exact whole.imp .argument fun covered => ((later.covers_apply graph).mp covered).2
  | @field index field owner composite unknown member ownerCase =>
    by_cases named : later.contains (graph.atom index).identity
    · -- The search has visited an atom of this type, and covers its fields.
      exact .inr (finished.covers_field (fun _ => Registry.reaches_of_mem_left) contract
        (Registry.reaches_append.mpr (.inr owner)) composite unknown member
        (finished.mem_of_contains named unknown))
    · rcases ownerCase with laterOwner | covered
      · exact .inl (laterOwner.field composite (by simpa using named) member)
      · exact absurd (covered.contains (by simp [composite])) named

/-- What other seeds lead to and the registry that a search returns does not know, they lead to from
that registry. -/
theorem reaches_of_unknown {index : Nat} (reached : registry.Reaches graph second (.atom index))
    (kind : (graph.atom index).kind ≠ .parameter)
    (unknown : later.contains (graph.atom index).identity = false) :
    later.Reaches graph second (.atom index) := by
  refine (finished.reaches_or_covers contract reached).resolve_right fun covered => ?_
  have named := covered.contains kind
  rw [unknown] at named
  cases named

/-- What other seeds call for from the first registry, they call for from the one that a search
returns: nothing that the search has registered is flawed. -/
theorem flaw_of_first {failure : StubError} (flaw : registry.Flaw graph second failure) :
    later.Flaw graph second failure := by
  cases flaw with
  | arity reached malformed =>
    rcases finished.reaches_or_covers contract reached with laterReached | covered
    · exact .arity laterReached malformed
    · obtain ⟨argument, rfl⟩ := covered.one_argument
      exact absurd rfl malformed
  | @primitive index reached kind unknown =>
    have stillUnknown : later.contains (graph.atom index).identity = false := by
      rw [← Bool.not_eq_true]
      intro named
      obtain ⟨twin, listed, _, _, shape⟩ := finished.exists_twin
        (fun _ => Registry.reaches_of_mem_left) contract
        (Registry.reaches_append.mpr (.inr reached)) (finished.mem_of_contains named unknown)
      have declarable := finished.declarable twin listed
      rw [shape.atomKind, kind] at declarable
      cases declarable
    have laterReached := finished.reaches_of_unknown contract reached (by simp [kind]) stillUnknown
    exact .primitive laterReached kind stillUnknown

omit contract in
/-- What other seeds call for from the registry that a search returns, they call for from the first
registry. -/
theorem flaw_of_later {failure : StubError} (flaw : later.Flaw graph second failure) :
    registry.Flaw graph second failure := by
  cases flaw with
  | arity reached malformed => exact .arity (finished.reaches_of_later reached) malformed
  | primitive reached kind unknown =>
    exact .primitive (finished.reaches_of_later reached) kind (finished.unknown_of_unknown unknown)

end Search.Progress

/-- A closure whose seeds call for no failure is resolved. -/
theorem exists_resolve {seeds : List TypeRef}
    (clean : ∀ failure, ¬ registry.Flaw graph seeds failure) :
    ∃ closure, registry.resolve graph seeds = .ok closure := by
  cases outcome : registry.resolve graph seeds with
  | ok closure => exact ⟨closure, rfl⟩
  | error failure => exact absurd (resolve_flaw outcome) (clean failure)

/-- Types that are covered have no unknown atoms under them. -/
theorem unknownAtomsOfAll_of_coversAll {seeds : List TypeRef}
    (covered : registry.CoversAll graph seeds) :
    unknownAtomsOfAll registry graph seeds = .ok [] := by
  induction seeds with
  | nil => rfl
  | cons seed rest ih =>
    obtain ⟨atoms, found, known⟩ := covered seed List.mem_cons_self
    have nothing : registry.unknownAtoms graph seed = .ok [] := by
      rw [registry.unknownAtoms_eq, found, Except.map, List.filter_eq_nil_iff.mpr]
      intro index member
      simp [known index member]
    rw [unknownAtomsOfAll, nothing, ih fun type member => covered type (.tail _ member)]
    rfl

/-- Nothing is emitted or registered for seeds that are covered. -/
theorem resolve_of_coversAll {seeds : List TypeRef} (covered : registry.CoversAll graph seeds) :
    registry.resolve graph seeds = .ok ⟨[], registry⟩ := by
  have started : Search.start registry graph seeds = .ok ⟨registry, [⟨[], none⟩], []⟩ := by
    rw [Search.start, advance, unknownAtomsOfAll_of_coversAll covered]
    rfl
  have loop : Search.Loop graph ⟨registry, [⟨[], none⟩], []⟩ 1 (.ok ⟨registry, [], []⟩) :=
    .next (List.cons_ne_nil _ _) rfl (.exhausted rfl)
  rw [loop.resolve (by rw [enoughRounds]; omega) started]
  rfl

/-! ## Both steps and the whole -/

section

variable {registered added all : List Nat} {here later whole : Closure}
variable (finished : Search.Progress registry graph first registered
  ⟨here.registry, [], here.types⟩)
variable (followed : Search.Progress here.registry graph second added
  ⟨later.registry, [], later.types⟩)

include finished

/-- The contract that holds among all that both lists of seeds lead to holds in the second step. -/
theorem Search.Progress.contract_of_append
    (contract : graph.IdentityContract (registry.Reaches graph (first ++ second))) :
    graph.IdentityContract (here.registry.Reaches graph second) :=
  contract.mono fun _ reached =>
    Registry.reaches_append.mpr (.inr (finished.reaches_of_later reached))

include followed

/-- The second step emits no identity that the first one has emitted. -/
theorem Search.Progress.disjoint_identities :
    (graph.identities here.types).Disjoint (graph.identities later.types) := by
  intro identity inHere inLater
  obtain ⟨index, listed, rfl⟩ := List.mem_map.mp inLater
  have unknown := (here.registry.isKnown_atom_eq_false graph).mp
    (followed.unknown index (followed.emitted.mem_iff.mpr listed))
  have known := (finished.contains_iff _).mpr (.inl inHere)
  rw [unknown.2] at known
  cases known

/-- The whole emits an identity that one of the steps emits, and no other. -/
theorem Search.Progress.mem_identities_append
    (complete : Search.Progress registry graph (first ++ second) all
      ⟨whole.registry, [], whole.types⟩)
    (contract : graph.IdentityContract (registry.Reaches graph (first ++ second)))
    (identity : String) :
    identity ∈ graph.identities whole.types ↔
      identity ∈ graph.identities here.types ∨ identity ∈ graph.identities later.types := by
  have ofFirst := contract.of_append
  have ofSecond := finished.contract_of_append contract
  rw [complete.mem_identities contract, finished.mem_identities ofFirst,
    followed.mem_identities ofSecond]
  constructor
  · rintro ⟨index, reached, kind, unknown, rfl⟩
    rcases Registry.reaches_append.mp reached with fromFirst | fromSecond
    · exact .inl ⟨index, fromFirst, kind, unknown, rfl⟩
    · by_cases named : here.registry.contains (graph.atom index).identity
      · exact .inl ((finished.mem_identities ofFirst _).mp
          (finished.mem_of_contains named unknown))
      · rw [Bool.not_eq_true] at named
        exact .inr ⟨index, finished.reaches_of_unknown contract fromSecond kind named, kind, named,
          rfl⟩
  · rintro (⟨index, reached, kind, unknown, rfl⟩ | ⟨index, reached, kind, unknown, rfl⟩)
    · exact ⟨index, Registry.reaches_append.mpr (.inl reached), kind, unknown, rfl⟩
    · exact ⟨index, Registry.reaches_append.mpr (.inr (finished.reaches_of_later reached)), kind,
        finished.unknown_of_unknown unknown, rfl⟩

end

/-- Under the identity contract, a closure of two lists of seeds is resolved exactly when that of
the first is and that of the second from the registry of the first. The whole then emits the
identities of both, which have none in common; and whatever seeds are taken again from the first
list, nothing is emitted for them. -/
theorem resolve_append
    (contract : graph.IdentityContract (registry.Reaches graph (first ++ second))) :
    ((∃ whole, registry.resolve graph (first ++ second) = .ok whole) ↔
      ∃ here, registry.resolve graph first = .ok here ∧
        ∃ later, here.registry.resolve graph second = .ok later) ∧
    (∀ whole here later, registry.resolve graph (first ++ second) = .ok whole →
      registry.resolve graph first = .ok here → here.registry.resolve graph second = .ok later →
      (graph.identities whole.types).Perm
        (graph.identities here.types ++ graph.identities later.types) ∧
      (graph.identities here.types).Disjoint (graph.identities later.types)) ∧
    ∀ here again, registry.resolve graph first = .ok here → again ⊆ first →
      here.registry.resolve graph again = .ok ⟨[], here.registry⟩ := by
  have ofFirst := contract.of_append
  refine ⟨⟨?_, ?_⟩, ?_, ?_⟩
  · rintro ⟨whole, resolved⟩
    obtain ⟨all, complete⟩ := resolve_progress resolved
    have clean (failure : StubError) (flaw : registry.Flaw graph (first ++ second) failure) :
        False := complete.no_flaw contract flaw
    obtain ⟨here, resolvedFirst⟩ := exists_resolve fun failure flaw =>
      clean failure (Registry.flaw_append.mpr (.inl flaw))
    obtain ⟨registered, finished⟩ := resolve_progress resolvedFirst
    exact ⟨here, resolvedFirst, exists_resolve fun failure flaw =>
      clean failure (Registry.flaw_append.mpr (.inr (finished.flaw_of_later flaw)))⟩
  · rintro ⟨here, resolvedFirst, later, resolvedSecond⟩
    obtain ⟨registered, finished⟩ := resolve_progress resolvedFirst
    obtain ⟨added, followed⟩ := resolve_progress resolvedSecond
    refine exists_resolve fun failure flaw => ?_
    rcases Registry.flaw_append.mp flaw with inFirst | inSecond
    · exact finished.no_flaw ofFirst inFirst
    · exact followed.no_flaw (finished.contract_of_append contract)
        (finished.flaw_of_first contract inSecond)
  · intro whole here later resolved resolvedFirst resolvedSecond
    obtain ⟨all, complete⟩ := resolve_progress resolved
    obtain ⟨registered, finished⟩ := resolve_progress resolvedFirst
    obtain ⟨added, followed⟩ := resolve_progress resolvedSecond
    have apart := finished.disjoint_identities followed
    have distinct := finished.identities_nodup.append followed.identities_nodup apart
    refine ⟨(List.perm_ext_iff_of_nodup complete.identities_nodup distinct).mpr ?_, apart⟩
    intro identity
    rw [List.mem_append]
    exact finished.mem_identities_append followed complete contract identity
  · intro here again resolved inside
    obtain ⟨registered, finished⟩ := resolve_progress resolved
    exact resolve_of_coversAll fun type member => finished.seedsCovered type (inside member)

/-- An order and a supplier that both lead to an item. -/
def sharedItem : TypeGraph where
  atoms := #[
    .composite "Order" "" [] [⟨"previous", .atom 0⟩, ⟨"item", .atom 2⟩],
    .composite "Supplier" "" [] [⟨"country", .atom 4⟩,
      ⟨"items", .apply "list[Item]" "list" (.atom 3) [.atom 2]⟩],
    .enumeration "Item" [], .primitive listIdentity, .enumeration "Country" []]

/-- The types that the order, the item and the supplier lead to. -/
theorem sharedItem_reached {type : TypeRef}
    (reached : Registry.typescript.Reaches sharedItem ([.atom 0] ++ [.atom 2, .atom 1]) type) :
    type ∈ [.atom 0, .atom 1, .atom 2, .atom 3, .atom 4,
      .apply "list[Item]" "list" (.atom 3) [.atom 2]] := by
  refine reached.mem_of_closed (by simp) ?_
  simp [TypeGraph.successors, Closure.nextSeeds, sharedItem, TypeGraph.atom, Atom.composite,
    Atom.enumeration, Atom.primitive]

/-- The item is emitted before the order when the order is resolved first, and after it when both
are seeds. -/
theorem resolve_append_sharedItem :
    sharedItem.IdentityContract
      (Registry.typescript.Reaches sharedItem ([.atom 0] ++ [.atom 2, .atom 1])) ∧
    ∃ whole here later,
      Registry.typescript.resolve sharedItem ([.atom 0] ++ [.atom 2, .atom 1]) = .ok whole ∧
      whole.types = [0, 2, 4, 1] ∧
      Registry.typescript.resolve sharedItem [.atom 0] = .ok here ∧ here.types = [2, 0] ∧
      here.registry.resolve sharedItem [.atom 2, .atom 1] = .ok later ∧ later.types = [4, 1] ∧
      (sharedItem.identities whole.types).Perm
        (sharedItem.identities here.types ++ sharedItem.identities later.types) ∧
      (sharedItem.identities here.types).Disjoint (sharedItem.identities later.types) ∧
      here.registry.resolve sharedItem [.atom 0] = .ok ⟨[], here.registry⟩ := by
  have contract : sharedItem.IdentityContract
      (Registry.typescript.Reaches sharedItem ([.atom 0] ++ [.atom 2, .atom 1])) :=
    TypeGraph.identityContract_of_mem (fun _ => sharedItem_reached) (by decide)
  obtain ⟨_, kept, again⟩ := resolve_append contract
  obtain ⟨both, apart⟩ := kept _ _ _ rfl rfl rfl
  exact ⟨contract, _, _, _, rfl, rfl, rfl, rfl, rfl, rfl, both, apart,
    again _ _ rfl (List.Subset.refl _)⟩

end Closure

end ServiceStubs
