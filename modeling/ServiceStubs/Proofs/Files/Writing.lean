import ServiceStubs.Files.Workspace
import ServiceStubs.Proofs.Results
import ServiceStubs.Proofs.Text.Lines

/-!
# What writing a file changes

A path is followed from directory to directory, so where it leads does not change as long as no
directory goes away. Writing a file takes no directory away and changes what is at one place alone.
Files that are written to one directory under names of one part stand side by side there, each with
the text that was written last under its name.
-/

namespace ServiceStubs

/-! ## Names of one part -/

/-- A text that names one part of a path. -/
structure Path.OnePart (text : String) : Prop where
  /-- It holds no slash. -/
  unbroken : '/' ∉ text.toList
  /-- It leads somewhere. -/
  leads : Path.isStep text
  /-- It does not lead out of a directory. -/
  inward : text ≠ upward

/-- A text that names one part is a path of that part. -/
theorem Path.OnePart.ofText {text : String} (single : Path.OnePart text) :
    Path.ofText text = ⟨"", [text]⟩ := by
  have noRoot : Path.rootOf text.toList = "" := by
    have none : text.toList.takeWhile (· = '/') = [] := by
      cases characters : text.toList with
      | nil => rfl
      | cons character rest =>
        have other : character ≠ '/' := by
          rintro rfl
          exact single.unbroken (characters ▸ List.mem_cons_self)
        simp [other]
    rw [Path.rootOf, none]
    rfl
  have whole : Text.pieces '/' text = [text] := by
    rw [Text.pieces, Text.breakAt_of_not_mem single.unbroken, List.map_singleton,
      String.ofList_toList]
  rw [Path.ofText, noRoot, whole, List.filter_singleton, single.leads, cond_true]

namespace Workspace

variable {before after : Workspace} {path : Path} {place : Place}

/-! ## Places that stay -/

/-- Whether every directory of a workspace is one of another. -/
def KeepsDirectories (before after : Workspace) : Prop :=
  ∀ place, before.entry? place = some .directory → after.entry? place = some .directory

/-- Directories are kept from one workspace to the next. -/
theorem KeepsDirectories.trans {middle : Workspace} (first : before.KeepsDirectories middle)
    (second : middle.KeepsDirectories after) : before.KeepsDirectories after :=
  fun place found => second place (first place found)

/-- A step leads on exactly from directories. -/
theorem step_eq_ok {part : String} {target : Place} :
    before.step place part = .ok target ↔
      before.entry? place = some .directory ∧ part.utf8ByteSize ≤ longestName ∧
        target = next place part := by
  rw [step]
  cases found : before.entry? place with
  | none => simp
  | some entry =>
    cases entry with
    | file content => simp
    | directory =>
      by_cases long : part.utf8ByteSize > longestName
      · simp [long, Nat.not_le_of_gt long]
      · simp only [if_neg long, Except.ok.injEq, true_and]
        exact ⟨fun same => ⟨Nat.le_of_not_gt long, same.symm⟩, fun both => both.2.symm⟩

/-- Steps lead where they did when directories are kept. -/
theorem KeepsDirectories.steps (kept : before.KeepsDirectories after) {parts : List String}
    {start : Place} (reached : parts.foldlM before.step start = .ok place) :
    parts.foldlM after.step start = .ok place := by
  induction parts generalizing start with
  | nil => exact reached
  | cons part rest ih =>
    rw [List.foldlM_cons] at reached ⊢
    obtain ⟨target, stepped, rest⟩ := bind_eq_ok.mp reached
    obtain ⟨directory, fits, rfl⟩ := step_eq_ok.mp stepped
    exact bind_eq_ok.mpr ⟨_, step_eq_ok.mpr ⟨kept _ directory, fits, rfl⟩, ih rest⟩

/-- A path leads somewhere when it is short enough and its steps do. -/
theorem placeOf_eq_ok :
    before.placeOf path = .ok place ↔ path.text.utf8ByteSize ≤ longestPath ∧
      path.parts.foldlM before.step (if path.root = "" then [] else [rootName]) = .ok place := by
  rw [placeOf]
  by_cases long : path.text.utf8ByteSize > longestPath
  · simp [long, Nat.not_le_of_gt long]
  · simp [long, Nat.le_of_not_gt long]

/-- A path leads where it did when directories are kept. -/
theorem KeepsDirectories.placeOf (kept : before.KeepsDirectories after)
    (led : before.placeOf path = .ok place) : after.placeOf path = .ok place := by
  obtain ⟨short, steps⟩ := placeOf_eq_ok.mp led
  exact placeOf_eq_ok.mpr ⟨short, kept.steps steps⟩

/-- A name of one part leads from a directory to the place with that name in it. -/
theorem placeOf_join {name : String} {home : Place} {directory : Path}
    (single : Path.OnePart name) (led : before.placeOf directory = .ok home)
    (joined : before.placeOf (directory.join (.ofText name)) = .ok place) :
    place = home ++ [name] := by
  obtain ⟨_, steps⟩ := placeOf_eq_ok.mp joined
  rw [single.ofText, Path.join, if_pos rfl, List.foldlM_append] at steps
  obtain ⟨start, reached, last⟩ := bind_eq_ok.mp steps
  obtain rfl := Except.ok.inj (reached.symm.trans (placeOf_eq_ok.mp led).2)
  rw [List.foldlM_cons] at last
  obtain ⟨target, stepped, finished⟩ := bind_eq_ok.mp last
  obtain ⟨_, _, rfl⟩ := step_eq_ok.mp stepped
  exact (Except.ok.inj finished).symm.trans (if_pos single.inward)

/-! ## What is stored -/

/-- Storing an entry changes what is at its place alone, unless that is always a directory. -/
theorem entry?_put (workspace : Workspace) (listed : isGiven place = false) (entry : Entry)
    (other : Place) : Workspace.entry? (workspace.put place entry) other =
      if other = place then some entry else workspace.entry? other := by
  simp only [ entry?, put, OrderedMap.get?_put]
  by_cases same : other = place
  · rw [if_pos same, if_pos same, same, listed, if_neg Bool.false_ne_true]
  · rw [if_neg same, if_neg same]

/-- A place where no directory is could hold anything. -/
theorem isGiven_eq_false (free : before.entry? place ≠ some .directory) :
    isGiven place = false := by
  by_contra given
  rw [Bool.not_eq_false] at given
  exact free (by rw [ entry?, if_pos given])

/-- Storing an entry where no directory is takes no directory away. -/
theorem keepsDirectories_put {entry : Entry} (free : before.entry? place ≠ some .directory) :
    before.KeepsDirectories (before.put place entry) := by
  intro other found
  rw [before.entry?_put (isGiven_eq_false free), if_neg, found]
  rintro rfl
  exact free found

end Workspace

namespace Filing

variable {before after : Workspace} {path : Path} {place : Place} {text : String}

/-- Looking up a place changes nothing. -/
theorem placeOf_ok (found : placeOf path before = .ok place after) :
    before.placeOf path = .ok place ∧ after = before := by
  rw [placeOf] at found
  cases refused : Workspace.refusal? path with
  | some fault =>
    rw [refused] at found
    cases found
  | none =>
    rw [refused] at found
    obtain ⟨workspace, _, read, rest⟩ := run_bind_eq_ok.mp found
    obtain ⟨rfl, rfl⟩ := EStateM.Result.ok.inj read
    cases led : Workspace.placeOf _ path with
    | ok target =>
      rw [led] at rest
      obtain ⟨rfl, rfl⟩ := EStateM.Result.ok.inj rest
      exact ⟨rfl, rfl⟩
    | error obstacle =>
      rw [led] at rest
      cases rest

/-- A file is written at the place of its path, where no directory is. -/
theorem write_ok (wrote : write path text before = .ok () after) :
    ∃ place, before.placeOf path = .ok place ∧ before.entry? place ≠ some .directory ∧
      after = before.put place (.file (.text text)) := by
  rw [write] at wrote
  obtain ⟨place, _, found, rest⟩ := run_bind_eq_ok.mp wrote
  obtain ⟨led, rfl⟩ := placeOf_ok found
  obtain ⟨workspace, _, read, stored⟩ := run_bind_eq_ok.mp rest
  obtain ⟨rfl, rfl⟩ := EStateM.Result.ok.inj read
  cases there : Workspace.entry? _ place with
  | none =>
    rw [there] at stored
    obtain ⟨_, rfl⟩ := EStateM.Result.ok.inj stored
    exact ⟨place, led, by simp [there], rfl⟩
  | some entry =>
    cases entry with
    | directory =>
      rw [there] at stored
      cases stored
    | file content =>
      rw [there] at stored
      obtain ⟨_, rfl⟩ := EStateM.Result.ok.inj stored
      exact ⟨place, led, by simp [there], rfl⟩

/-- Where a directory is made, or was already, its path leads to it. Otherwise a directory above it
is missing. -/
theorem ensureDirectory_ok {isThere : Bool}
    (made : ensureDirectory path before = .ok isThere after) :
    if isThere then ∃ home, after.placeOf path = .ok home ∧ after.entry? home = some .directory
    else before.placeOf path = .error .missing := by
  rw [ensureDirectory] at made
  cases refused : Workspace.refusal? path with
  | some fault =>
    rw [refused] at made
    cases made
  | none =>
    rw [refused] at made
    obtain ⟨workspace, _, read, rest⟩ := run_bind_eq_ok.mp made
    obtain ⟨rfl, rfl⟩ := EStateM.Result.ok.inj read
    cases led : before.placeOf path with
    | error obstacle =>
      rw [led] at rest
      cases obstacle with
      | missing =>
        obtain ⟨rfl, _⟩ := EStateM.Result.ok.inj rest
        rfl
      | _ => cases rest
    | ok home =>
      rw [led] at rest
      cases there : before.entry? home with
      | none =>
        simp only [there] at rest
        obtain ⟨_, _, stored, last⟩ := run_bind_eq_ok.mp rest
        obtain ⟨_, rfl⟩ := EStateM.Result.ok.inj stored
        obtain ⟨rfl, rfl⟩ := EStateM.Result.ok.inj last
        have free : before.entry? home ≠ some .directory := by simp [there]
        refine ⟨home, (Workspace.keepsDirectories_put free).placeOf led, ?_⟩
        rw [before.entry?_put (Workspace.isGiven_eq_false free), if_pos rfl]
      | some entry =>
        cases entry with
        | file content =>
          simp only [there] at rest
          cases rest
        | directory =>
          simp only [there] at rest
          obtain ⟨rfl, rfl⟩ := EStateM.Result.ok.inj rest
          exact ⟨home, led, there⟩

/-- The first names of a path lead to a directory once their directories are made. -/
theorem ensureDirectories_ok {count : Nat}
    (made : ensureDirectories path count before = .ok () after) :
    ∃ home, after.placeOf { path with parts := path.parts.take count } = .ok home ∧
      after.entry? home = some .directory := by
  cases count with
  | zero =>
    -- Without names the path is a root or the working directory, which nothing can be missing for.
    have ensured : (ensureDirectory { path with parts := [] } >>= fun _ => pure ()) before =
      .ok () after := made
    obtain ⟨isThere, _, first, rest⟩ := run_bind_eq_ok.mp ensured
    obtain ⟨_, rfl⟩ := EStateM.Result.ok.inj rest
    have answer := ensureDirectory_ok first
    cases isThere with
    | true => exact answer
    | false =>
      simp only [Bool.false_eq_true, if_false, Workspace.placeOf] at answer
      split at answer <;> cases answer
  | succ count =>
    rw [ensureDirectories] at made
    obtain ⟨isThere, between, first, rest⟩ := run_bind_eq_ok.mp made
    cases isThere with
    | true =>
      obtain ⟨_, rfl⟩ := EStateM.Result.ok.inj rest
      exact ensureDirectory_ok first
    | false =>
      obtain ⟨_, above, _, rest⟩ := run_bind_eq_ok.mp rest
      obtain ⟨isThere, last, second, rest⟩ := run_bind_eq_ok.mp rest
      cases isThere with
      | true =>
        obtain ⟨_, rfl⟩ := EStateM.Result.ok.inj rest
        exact ensureDirectory_ok second
      | false => cases rest

/-- A path leads to a directory once its directories are made. -/
theorem makeDirectories_ok (made : makeDirectories path before = .ok () after) :
    ∃ home, after.placeOf path = .ok home ∧ after.entry? home = some .directory := by
  obtain ⟨home, led, there⟩ := ensureDirectories_ok made
  rw [List.take_length] at led
  exact ⟨home, led, there⟩

end Filing

end ServiceStubs
