/-!
# Insertion-ordered dictionaries

A dictionary that remembers the order in which its keys were first stored. Storing a key again
replaces its value and leaves its place alone, so the order of the keys is the order of their
first appearances. No key occurs twice; the invariant is part of the type.
-/

namespace ServiceStubs

/-- The members of a list without later repetitions. -/
def firstOccurrences {α : Type} [DecidableEq α] : List α → List α
  | [] => []
  | value :: rest => value :: (firstOccurrences rest).filter (· ≠ value)

/-- Replace the value of the first entry with the given key, or append a new entry. -/
def putEntry {κ α : Type} [DecidableEq κ] (key : κ) (value : α) :
    List (κ × α) → List (κ × α)
  | [] => [(key, value)]
  | entry :: rest =>
    if entry.1 = key then (key, value) :: rest else entry :: putEntry key value rest

/-- Storing adds at most the stored key to the keys. -/
theorem mem_keys_putEntry {κ α : Type} [DecidableEq κ] {key other : κ} {value : α}
    {entries : List (κ × α)} :
    other ∈ (putEntry key value entries).map Prod.fst ↔
      other ∈ entries.map Prod.fst ∨ other = key := by
  induction entries with
  | nil => simp [putEntry]
  | cons entry rest ih =>
    by_cases same : entry.1 = key
    · simp only [putEntry, if_pos same, List.map_cons, List.mem_cons]
      grind
    · simp only [putEntry, if_neg same, List.map_cons, List.mem_cons, ih]
      grind

/-- Storing keeps the keys distinct. -/
theorem putEntry_nodup {κ α : Type} [DecidableEq κ] {key : κ} {value : α}
    {entries : List (κ × α)} (distinct : (entries.map Prod.fst).Nodup) :
    ((putEntry key value entries).map Prod.fst).Nodup := by
  induction entries with
  | nil => simp [putEntry]
  | cons entry rest ih =>
    have ⟨absent, later⟩ := List.nodup_cons.mp distinct
    by_cases same : entry.1 = key
    · simp only [putEntry, if_pos same, List.map_cons]
      exact List.nodup_cons.mpr ⟨same ▸ absent, later⟩
    · simp only [putEntry, if_neg same, List.map_cons]
      refine List.nodup_cons.mpr ⟨fun member => ?_, ih later⟩
      rcases mem_keys_putEntry.mp member with old | new
      · exact absent old
      · exact same new

/-- A finite map whose keys keep the order in which they were first stored. -/
structure OrderedMap (κ α : Type) where
  /-- Keys and values in order of first storage. -/
  entries : List (κ × α)
  /-- No key has two entries. -/
  distinct : (entries.map Prod.fst).Nodup

namespace OrderedMap

variable {κ α : Type}

/-- The map without entries. -/
def empty : OrderedMap κ α := ⟨[], List.nodup_nil⟩

instance : Inhabited (OrderedMap κ α) := ⟨empty⟩

/-- The keys in order of first storage. -/
def keys (map : OrderedMap κ α) : List κ := map.entries.map Prod.fst

/-- The values in the order of their keys. -/
def values (map : OrderedMap κ α) : List α := map.entries.map Prod.snd

variable [DecidableEq κ]

/-- The value stored last under a key. -/
def get? (map : OrderedMap κ α) (key : κ) : Option α :=
  (map.entries.find? fun entry => entry.1 = key).map Prod.snd

/-- Whether a key was ever stored. -/
def contains (map : OrderedMap κ α) (key : κ) : Bool := (map.get? key).isSome

/-- Store a value; a key stored before keeps its place. -/
def put (map : OrderedMap κ α) (key : κ) (value : α) : OrderedMap κ α :=
  ⟨putEntry key value map.entries, putEntry_nodup map.distinct⟩

/-- Store several entries in turn. -/
def putAll (map : OrderedMap κ α) (entries : List (κ × α)) : OrderedMap κ α :=
  entries.foldl (fun stored entry => stored.put entry.1 entry.2) map

/-- Store entries in turn, starting from the empty map. -/
def ofList (entries : List (κ × α)) : OrderedMap κ α := empty.putAll entries

/-- Reading after storing finds the new value under its key and the old one elsewhere. -/
theorem get?_put (map : OrderedMap κ α) (key other : κ) (value : α) :
    (map.put key value).get? other = if other = key then some value else map.get? other := by
  have entriesLaw : ∀ entries : List (κ × α),
      ((putEntry key value entries).find? fun entry => entry.1 = other).map Prod.snd =
        if other = key then some value
        else (entries.find? fun entry => entry.1 = other).map Prod.snd := by
    intro entries
    induction entries with
    | nil => by_cases same : key = other <;> grind [putEntry]
    | cons entry rest ih =>
      by_cases same : entry.1 = key <;> by_cases found : entry.1 = other <;>
        grind [putEntry]
  exact entriesLaw map.entries

/-- Storing a new key appends it to the keys; storing an old one leaves them alone. -/
theorem keys_put (map : OrderedMap κ α) (key : κ) (value : α) :
    (map.put key value).keys = if key ∈ map.keys then map.keys else map.keys ++ [key] := by
  have entriesLaw : ∀ entries : List (κ × α),
      (putEntry key value entries).map Prod.fst =
        if key ∈ entries.map Prod.fst then entries.map Prod.fst
        else entries.map Prod.fst ++ [key] := by
    intro entries
    induction entries with
    | nil => simp [putEntry]
    | cons entry rest ih =>
      by_cases same : entry.1 = key
      · simp [putEntry, same]
      · by_cases member : key ∈ rest.map Prod.fst <;> grind [putEntry]
  exact entriesLaw map.entries

end OrderedMap

end ServiceStubs
