import Mathlib.Data.Finset.Card
import ServiceStubs.Registry

/-!
# Free names

The search for a name that nothing else has tries the name itself and then the name followed by
the numerals from two on. Numerals tell numbers apart, so as many taken names as there are tries
use up the whole list of taken names and the last candidate is free. This is why the search is
right although it stops after a number of tries that is known in advance.
-/

namespace ServiceStubs

/-- Different numerals after one name make different names. -/
theorem numeralSuffix_injective (name : String) :
    Function.Injective fun counter : Nat => name ++ toString counter := by
  intro left right same
  have numerals : toString left = toString right := (String.append_right_inj name).mp same
  have digits := congrArg String.toList numerals
  simp only [Nat.toString_eq_ofList_toDigits, String.toList_ofList] at digits
  have numbers := congrArg (fun characters => Nat.ofDigitChars 10 characters 0) digits
  simpa only [Nat.ofDigitChars_ten_toDigits] using numbers

/-- Distinct candidates that are all taken are no more than the taken names, each counted once. -/
theorem candidates_le_card {taken : List String} {candidates : Nat → String}
    (distinct : Function.Injective candidates) {count : Nat}
    (run : ∀ place < count, candidates place ∈ taken) : count ≤ taken.toFinset.card := by
  have inside : (Finset.range count).image candidates ⊆ taken.toFinset := by
    intro name member
    obtain ⟨place, below, rfl⟩ := Finset.mem_image.mp member
    exact List.mem_toFinset.mpr (run place (Finset.mem_range.mp below))
  calc
    count = ((Finset.range count).image candidates).card := by
      rw [Finset.card_image_of_injective _ distinct, Finset.card_range]
    _ ≤ taken.toFinset.card := Finset.card_le_card inside

/-- Names with consecutive numerals that are all taken are no more than the taken names. -/
theorem numeralSuffix_run_le {taken : List String} {name : String} {counter count : Nat}
    (run : ∀ offset < count, name ++ toString (counter + offset) ∈ taken) :
    count ≤ taken.length := by
  have distinct : Function.Injective fun offset => name ++ toString (counter + offset) := by
    intro left right same
    have sums := numeralSuffix_injective name same
    omega
  exact (candidates_le_card distinct run).trans (List.toFinset_card_le taken)

/-- The numeral at which a search stops: every earlier one is taken, and so is its own only when
no tries are left. -/
theorem firstFreeNumbered_stops (taken : List String) (name : String) (tries counter : Nat) :
    ∃ offset ≤ tries,
      firstFreeNumbered taken name tries counter = name ++ toString (counter + offset) ∧
      (∀ earlier < offset, name ++ toString (counter + earlier) ∈ taken) ∧
      (name ++ toString (counter + offset) ∈ taken → offset = tries) := by
  induction tries generalizing counter with
  | zero => exact ⟨0, le_refl 0, rfl, fun _ below => absurd below (Nat.not_lt_zero _), fun _ => rfl⟩
  | succ tries ih =>
    by_cases used : name ++ toString counter ∈ taken
    · obtain ⟨offset, inside, found, before, last⟩ := ih (counter + 1)
      refine ⟨offset + 1, by omega, ?_, ?_, ?_⟩
      · rw [firstFreeNumbered, if_pos (List.contains_iff_mem.mpr used), found]
        rw [show counter + 1 + offset = counter + (offset + 1) by omega]
      · intro earlier below
        cases earlier with
        | zero => exact used
        | succ earlier =>
          have member := before earlier (by omega)
          rwa [show counter + 1 + earlier = counter + (earlier + 1) by omega] at member
      · intro member
        rw [show counter + (offset + 1) = counter + 1 + offset by omega] at member
        rw [last member]
    · refine ⟨0, Nat.zero_le _, ?_, fun _ below => absurd below (Nat.not_lt_zero _), ?_⟩
      · rw [firstFreeNumbered, if_neg (by simpa using used), Nat.add_zero]
      · exact fun member => absurd member used

/-- With as many tries as there are taken names, the search ends at a name that is not taken. -/
theorem firstFreeNumbered_not_mem (taken : List String) (name : String) (counter : Nat) :
    firstFreeNumbered taken name taken.length counter ∉ taken := by
  obtain ⟨offset, _, found, before, last⟩ :=
    firstFreeNumbered_stops taken name taken.length counter
  intro member
  rw [found] at member
  have exhausted : offset = taken.length := last member
  have run : ∀ earlier < taken.length + 1, name ++ toString (counter + earlier) ∈ taken := by
    intro earlier below
    rcases Nat.lt_succ_iff_lt_or_eq.mp below with strictly | reached
    · exact before earlier (exhausted ▸ strictly)
    · rwa [reached, ← exhausted]
  have bound := numeralSuffix_run_le run
  omega

/-- A name made free is not taken. -/
theorem freeName_not_mem (taken : List String) (name : String) : freeName taken name ∉ taken := by
  by_cases used : name ∈ taken
  · rw [freeName, if_pos (List.contains_iff_mem.mpr used)]
    exact firstFreeNumbered_not_mem taken name 2
  · rw [freeName, if_neg (by simpa using used)]
    exact used

end ServiceStubs
