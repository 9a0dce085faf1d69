import Mathlib.Order.Bounds.Basic
import ServiceStubs.Proofs.Registry.Entries

/-!
# The search for a free name

A type that is to be registered proposes its own name. As long as the candidate is taken, the search
goes on to the own name with the next numeral after it, from two on. Nothing in this loop becomes
smaller: it comes to an end because no candidate comes twice, while there are only so many names
that are taken. So it tries at most one candidate more than there are taken names, a name that is
taken in several ways counted once. Where it ends every earlier candidate was taken, and that is
what makes the numeral the least one.
-/

namespace ServiceStubs

/-- The candidates in order: the own name, and then the own name with each numeral from two on. -/
def candidate (own : String) : Nat → String
  | 0 => own
  | place + 1 => own ++ toString (place + 2)

/-- A numeral after a name makes another name. -/
theorem append_numeral_ne (own : String) (number : Nat) : own ++ toString number ≠ own := by
  intro same
  have lengths := congrArg String.length same
  have positive : 0 < (toString number).length := by
    rw [Nat.toString_eq_ofList_toDigits, String.length_ofList]
    exact Nat.length_toDigits_pos
  rw [String.length_append] at lengths
  omega

/-- No candidate comes twice, also when the own name ends in digits. -/
theorem candidate_injective (own : String) : Function.Injective (candidate own) := by
  intro left right same
  cases left with
  | zero =>
    cases right with
    | zero => rfl
    | succ right => exact absurd same.symm (append_numeral_ne own (right + 2))
  | succ left =>
    cases right with
    | zero => exact absurd same (append_numeral_ne own (left + 2))
    | succ right =>
      have numbers : left + 2 = right + 2 := numeralSuffix_injective own same
      omega

/-- The loop of the search. With `name` as its candidate and `counter` as its next numeral it makes
a number of tries, each of one candidate, and stops with the name that it has found. -/
inductive Probes (taken : List String) (own : String) :
    (name : String) → (counter tries : Nat) → (found : String) → Prop
  /-- The candidate is free. -/
  | stop {name : String} {counter : Nat} (free : name ∉ taken) :
      Probes taken own name counter 1 name
  /-- The candidate is taken, and the search goes on with the next one. -/
  | next {name found : String} {counter tries : Nat} (used : name ∈ taken)
      (later : Probes taken own (own ++ toString counter) (counter + 1) tries found) :
      Probes taken own name counter (tries + 1) found

variable {taken : List String} {own : String}

/-- The loop stops in one way only. -/
theorem Probes.unique {name found other : String} {counter tries count : Nat}
    (first : Probes taken own name counter tries found)
    (second : Probes taken own name counter count other) : tries = count ∧ found = other := by
  induction first generalizing count with
  | stop free =>
    cases second with
    | stop => exact ⟨rfl, rfl⟩
    | next used => exact absurd used free
  | next used _ ih =>
    cases second with
    | stop free => exact absurd used free
    | next _ later =>
      obtain ⟨counts, same⟩ := ih later
      exact ⟨congrArg (· + 1) counts, same⟩

/-- From any candidate up to the first one that is free, the loop stops there. -/
theorem probes_of_rejected {place rejected last : Nat} (counted : place + rejected = last)
    (run : ∀ earlier < last, candidate own earlier ∈ taken) (free : candidate own last ∉ taken) :
    Probes taken own (candidate own place) (place + 2) (rejected + 1) (candidate own last) := by
  -- What becomes smaller is the number of candidates that are still to be rejected.
  induction rejected generalizing place with
  | zero =>
    obtain rfl : place = last := counted
    exact .stop free
  | succ rejected ih =>
    have later : Probes taken own (candidate own (place + 1)) (place + 1 + 2) (rejected + 1)
        (candidate own last) := ih (by omega)
    exact .next (run place (by omega)) later

/-- A name made free is the first candidate that is not taken. -/
theorem exists_candidate (taken : List String) (own : String) :
    ∃ place, freeName taken own = candidate own place ∧ candidate own place ∉ taken ∧
      ∀ earlier < place, candidate own earlier ∈ taken := by
  have free := freeName_not_mem taken own
  by_cases used : own ∈ taken
  · obtain ⟨offset, -, found, before, -⟩ := firstFreeNumbered_stops taken own taken.length 2
    have named : freeName taken own = candidate own (offset + 1) := by
      rw [freeName, if_pos (List.contains_iff_mem.mpr used), found, candidate, Nat.add_comm 2]
    refine ⟨offset + 1, named, named ▸ free, fun earlier below => ?_⟩
    cases earlier with
    | zero => exact used
    | succ earlier =>
      rw [candidate, Nat.add_comm earlier]
      exact before earlier (by omega)
  · have named : freeName taken own = own := by
      rw [freeName, if_neg (by simpa using used)]
    exact ⟨0, named, used, fun earlier below => absurd below (Nat.not_lt_zero earlier)⟩

namespace Registry

/-- Whether nothing has a name: it is neither registered nor built in nor reserved. -/
structure IsFree (registry : Registry) (name : String) : Prop where
  unregistered : name ∉ registry.entryNames
  foreign : name ∉ registry.builtins.values
  unreserved : name ∉ registry.reserved

variable (registry : Registry)

/-- A name is free when it is not among those that a newly registered type may not have. -/
theorem isFree_iff (name : String) : registry.IsFree name ↔ name ∉ registry.takenNames := by
  simp only [takenNames, List.mem_append, not_or]
  exact ⟨fun free => ⟨⟨free.unregistered, free.foreign⟩, free.unreserved⟩,
    fun apart => ⟨apart.1.1, apart.1.2, apart.2⟩⟩

/-- The name for a type that has none yet is found by the loop with the own name of the type as its
first candidate and two as its first numeral. The loop stops, and it does so in one way only, after
at most one try more than there are taken names. What it finds is the own name when that is free,
and otherwise the own name with the least numeral from two on that makes it free. -/
theorem targetName_least {identity : String} (unregistered : registry.entry? identity = none)
    (own : String) :
    (∃ tries ≤ registry.takenNames.toFinset.card + 1, ∀ count found,
      Probes registry.takenNames own own 2 count found ↔
        count = tries ∧ found = registry.targetName identity own) ∧
    (registry.IsFree own → registry.targetName identity own = own) ∧
    (¬registry.IsFree own → ∃ numeral,
      registry.targetName identity own = own ++ toString numeral ∧
      IsLeast {number | 2 ≤ number ∧ registry.IsFree (own ++ toString number)} numeral) := by
  obtain ⟨place, found, free, before⟩ := exists_candidate registry.takenNames own
  have target : registry.targetName identity own = candidate own place := by
    rw [targetName, unregistered, Option.getD_none, found]
  have probes : Probes registry.takenNames own own 2 (place + 1) (candidate own place) :=
    probes_of_rejected (Nat.zero_add place) before free
  have rejected := candidates_le_card (candidate_injective own) before
  refine ⟨⟨place + 1, Nat.succ_le_succ rejected, fun count name => ?_⟩, fun ownFree => ?_,
    fun used => ?_⟩
  · rw [target]
    constructor
    · intro others
      exact others.unique probes
    · rintro ⟨rfl, rfl⟩
      exact probes
  · cases place with
    | zero => exact target
    | succ place =>
      exact absurd (before 0 (Nat.succ_pos place)) ((registry.isFree_iff own).mp ownFree)
  · cases place with
    | zero => exact absurd ((registry.isFree_iff own).mpr free) used
    | succ place =>
      refine ⟨place + 2, target, ⟨by omega, (registry.isFree_iff _).mpr free⟩, ?_⟩
      rintro number ⟨fromTwo, numberFree⟩
      by_contra lesser
      obtain ⟨earlier, rfl⟩ : ∃ earlier, number = earlier + 2 := ⟨number - 2, by omega⟩
      exact (registry.isFree_iff _).mp numberFree (before (earlier + 1) (by omega))

/-- A registry in which one name is registered twice and reserved, and two of the names made from it
are reserved and built in. A third one is hidden by a newer layer. -/
def crowded : Registry where
  builtins := .ofList [("sheet", "Widget23")]
  layers := [.ofList [("a.Widget", "Widget2")],
    .ofList [("b.Widget", "Widget2"), ("a.Widget", "Widget24")]]
  reserved := ["Widget22", "Widget2"]

/-- Three names are taken, and the fourth candidate is free. -/
theorem targetName_least_crowded :
    crowded.entry? "c.Widget" = none ∧
    crowded.targetName "c.Widget" "Widget2" = "Widget24" ∧
    crowded.takenNames.toFinset.card = 3 ∧
    (∃ tries ≤ 3 + 1, ∀ count found,
      Probes crowded.takenNames "Widget2" "Widget2" 2 count found ↔
        count = tries ∧ found = "Widget24") ∧
    IsLeast {number | 2 ≤ number ∧ crowded.IsFree ("Widget2" ++ toString number)} 4 := by
  have unregistered : crowded.entry? "c.Widget" = none := by decide +kernel
  have target : crowded.targetName "c.Widget" "Widget2" = "Widget24" := by decide +kernel
  have taken : crowded.takenNames.toFinset.card = 3 := by decide +kernel
  obtain ⟨probed, -, numbered⟩ := crowded.targetName_least unregistered "Widget2"
  rw [target, taken] at probed
  obtain ⟨numeral, named, least⟩ :=
    numbered fun free => free.unregistered (by decide +kernel)
  have four : numeral = 4 := numeralSuffix_injective "Widget2" (named.symm.trans target)
  exact ⟨unregistered, target, taken, probed, four ▸ least⟩

end Registry

end ServiceStubs
