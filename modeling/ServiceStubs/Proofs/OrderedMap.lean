import Mathlib.Data.List.Basic
import Mathlib.Data.List.Induction
import ServiceStubs.OrderedMap

/-!
# Order and membership in insertion-ordered dictionaries

Keeping first occurrences loses no member and repeats none, and a value added at the end is kept
only when it is new. Reading a dictionary succeeds exactly at its keys. In a dictionary that is
made of a list, the order is that of the first entries and each value is that of the last one.
-/

namespace ServiceStubs

section

variable {α : Type} [DecidableEq α]

/-- Keeping first occurrences keeps every member. -/
theorem mem_firstOccurrences {value : α} {values : List α} :
    value ∈ firstOccurrences values ↔ value ∈ values := by
  induction values with
  | nil => rfl
  | cons head rest ih =>
    by_cases same : value = head
    · simp [firstOccurrences, same]
    · simp [firstOccurrences, same, ih]

/-- First occurrences are not repeated. -/
theorem firstOccurrences_nodup (values : List α) : (firstOccurrences values).Nodup := by
  induction values with
  | nil => exact List.nodup_nil
  | cons head rest ih =>
    refine List.nodup_cons.mpr ⟨fun member => ?_, ih.filter _⟩
    simp at member

/-- A value at the end is a first occurrence when it did not occur before. -/
theorem firstOccurrences_concat (values : List α) (value : α) :
    firstOccurrences (values ++ [value]) =
      if value ∈ values then firstOccurrences values else firstOccurrences values ++ [value] := by
  induction values with
  | nil => simp [firstOccurrences]
  | cons head rest ih =>
    rw [List.cons_append, firstOccurrences, ih]
    by_cases same : value = head
    · subst same
      by_cases member : value ∈ rest <;> simp [firstOccurrences, member]
    · by_cases member : value ∈ rest
      · simp [firstOccurrences, member]
      · simp [firstOccurrences, member, same]

/-- The first occurrences of what is chosen are those chosen of the first occurrences. -/
theorem firstOccurrences_filter (chosen : α → Bool) (values : List α) :
    firstOccurrences (values.filter chosen) = (firstOccurrences values).filter chosen := by
  induction values with
  | nil => rfl
  | cons head rest ih =>
    rw [firstOccurrences, List.filter_cons, List.filter_cons]
    have exchanged : ((firstOccurrences rest).filter (· ≠ head)).filter chosen =
        ((firstOccurrences rest).filter chosen).filter (· ≠ head) := by
      simp only [List.filter_filter, Bool.and_comm]
    split
    · rw [firstOccurrences, ih, exchanged]
    · rename_i left
      have absent : ∀ value ∈ (firstOccurrences rest).filter chosen, value ≠ head := by
        rintro value member rfl
        exact left (List.of_mem_filter member)
      rw [ih, exchanged]
      exact (List.filter_eq_self.mpr (by simpa using absent)).symm

end

/-- Reading entries from the end gives what all entries of a key agree on. -/
theorem find?_reverse_eq {κ α : Type} [DecidableEq κ] {entries : List (κ × α)} {key : κ}
    {reading : Option α} (agreed : ∀ entry ∈ entries, entry.1 = key → reading = some entry.2)
    (listed : reading.isSome → key ∈ entries.map Prod.fst) :
    (entries.reverse.find? fun entry => entry.1 = key).map Prod.snd = reading := by
  cases found : entries.reverse.find? fun entry => entry.1 = key with
  | some entry =>
    have member := List.mem_reverse.mp (List.mem_of_find?_eq_some found)
    have same : entry.1 = key := by simpa using List.find?_some found
    exact (agreed entry member same).symm
  | none =>
    have absent : key ∉ entries.map Prod.fst := fun member => by
      obtain ⟨entry, inside, same⟩ := List.mem_map.mp member
      simpa [same] using List.find?_eq_none.mp found entry (List.mem_reverse.mpr inside)
    cases reading with
    | none => rfl
    | some value => exact absurd (listed rfl) absent

namespace OrderedMap

variable {κ α : Type}

/-- The empty dictionary has no key. -/
theorem keys_empty : (empty : OrderedMap κ α).keys = [] := rfl

variable [DecidableEq κ]

/-- The empty dictionary has no value. -/
theorem get?_empty (key : κ) : (empty : OrderedMap κ α).get? key = none := rfl

/-- A dictionary has a value exactly under its keys. -/
theorem isSome_get? (map : OrderedMap κ α) (key : κ) : (map.get? key).isSome ↔ key ∈ map.keys := by
  simp [get?, keys]

/-- Reading a dictionary finds each of its entries. -/
theorem get?_of_mem_entries {map : OrderedMap κ α} {entry : κ × α} (member : entry ∈ map.entries) :
    map.get? entry.1 = some entry.2 := by
  obtain ⟨entries, distinct⟩ := map
  change (entries.find? fun other => other.1 = entry.1).map Prod.snd = some entry.2
  replace member : entry ∈ entries := member
  induction entries with
  | nil => cases member
  | cons head rest ih =>
    obtain ⟨absent, later⟩ := List.nodup_cons.mp distinct
    rcases List.mem_cons.mp member with rfl | inRest
    · simp
    · have different : head.1 ≠ entry.1 := fun same =>
        absent (same ▸ List.mem_map_of_mem inRest)
      rw [List.find?_cons_of_neg (by simpa using different)]
      exact ih later inRest

/-- The entries of a dictionary are its keys with what is read under them. -/
theorem entries_eq_keys (map : OrderedMap κ α) :
    map.entries = map.keys.filterMap fun key => (map.get? key).map fun value => (key, value) := by
  have found : ∀ entry ∈ map.entries,
      (map.get? entry.1).map (fun value => (entry.1, value)) = some entry := fun entry member => by
    rw [get?_of_mem_entries member, Option.map_some]
  rw [keys, List.filterMap_map]
  calc
    map.entries = map.entries.filterMap some := List.filterMap_some.symm
    _ = _ := List.filterMap_congr fun entry member => (found entry member).symm

/-- The values of a dictionary are what is read under its keys in order. -/
theorem values_eq_keys (map : OrderedMap κ α) : map.values = map.keys.filterMap map.get? := by
  rw [values, entries_eq_keys, List.map_filterMap]
  congr 1
  funext key
  cases map.get? key <;> rfl

/-- Each key has one entry, so the entries may be searched from either end. -/
theorem find?_entries_reverse (map : OrderedMap κ α) (key : κ) :
    (map.entries.reverse.find? fun entry => entry.1 = key).map Prod.snd = map.get? key :=
  find?_reverse_eq (fun _ member same => same ▸ get?_of_mem_entries member)
    (map.isSome_get? key).mp

/-- A dictionary made of a list stores the last entry of the list last. -/
theorem ofList_concat (entries : List (κ × α)) (entry : κ × α) :
    ofList (entries ++ [entry]) = (ofList entries).put entry.1 entry.2 := by
  rw [ofList, putAll, List.foldl_append]
  rfl

/-- The keys of a dictionary made of a list stand in the order of their first entries. -/
theorem keys_ofList (entries : List (κ × α)) :
    (ofList entries).keys = firstOccurrences (entries.map Prod.fst) := by
  induction entries using List.reverseRecOn with
  | nil => rfl
  | append_singleton earlier entry ih =>
    rw [ofList_concat, keys_put, List.map_append, List.map_cons, List.map_nil,
      firstOccurrences_concat, ih]
    simp only [mem_firstOccurrences]

/-- A dictionary made of a list has under each key the value of its last entry. -/
theorem get?_ofList (entries : List (κ × α)) (key : κ) :
    (ofList entries).get? key =
      (entries.reverse.find? fun entry => entry.1 = key).map Prod.snd := by
  induction entries using List.reverseRecOn with
  | nil => rfl
  | append_singleton earlier entry ih =>
    rw [ofList_concat, get?_put, List.reverse_append, List.reverse_singleton,
      List.singleton_append, List.find?_cons, ih]
    by_cases same : entry.1 = key
    · simp [same]
    · simp [same, Ne.symm same]

end OrderedMap

end ServiceStubs
