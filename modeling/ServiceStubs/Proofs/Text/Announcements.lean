import ServiceStubs.Proofs.Text.Words

/-!
# Lines that announce names

A reader of a text finds the types that it declares by the lines that begin with `interface` or
`enum`, and the names that it exports by the line that begins with `export`. Every other line has to
be told apart from these by how it opens: with another word, or with a word that is not followed by
a space.
-/

namespace ServiceStubs.Text

/-! ## Readers -/

/-- The name that a line declares: the word after `interface` or `enum`, when a space or an angle
bracket follows it. -/
def declaredIn? (line : List Char) : Option (List Char) :=
  match (afterOpening? "interface ".toList line).or (afterOpening? "enum ".toList line) with
  | none => none
  | some rest =>
    let name := rest.takeWhile isWordCharacter
    let mark := (rest.dropWhile isWordCharacter).head?
    if name ≠ [] ∧ (mark = some ' ' ∨ mark = some '<') then some name else none

/-- Whether a line exports names. -/
def Exports (line : List Char) : Prop := "export ".toList <+: line

/-- The names that a line exports: the characters of words in each of its parts between commas. -/
def exportedIn (line : List Char) : List (List Char) :=
  (breakAt ',' (line.drop "export ".length)).map fun part => part.filter isWordCharacter

/-- The words that lines begin with which announce names. -/
def announcingWords : List (List Char) := ["interface".toList, "enum".toList, "export".toList]

/-! ## Silent lines -/

/-- Whether a line announces nothing. -/
structure Silent (line : List Char) : Prop where
  undeclared : declaredIn? line = none
  unexported : ¬ Exports line

/-- Nothing is announced by an empty line. -/
theorem silent_nil : Silent [] := ⟨rfl, by rw [Exports]; decide⟩

/-- Nothing is announced by a line that opens with another word, or with a word that is not followed
by a space. -/
theorem Opens.silent {line word : List Char} {mark : Char} (opens : Opens line word mark)
    (other : mark = ' ' → word ∉ announcingWords) : Silent line := by
  have foreign : ∀ announcing ∈ announcingWords, ∀ rest, line ≠ announcing ++ ' ' :: rest := by
    rintro announcing member rest rfl
    have characters : ∀ word ∈ announcingWords, OfWord word := by decide
    obtain ⟨rfl, rfl⟩ := opens.unique ⟨characters announcing member, by decide, rest, rfl⟩
    exact other rfl member
  constructor
  case undeclared =>
    have noInterface : afterOpening? "interface ".toList line = none :=
      Option.eq_none_iff_forall_ne_some.mpr fun rest found =>
        foreign "interface".toList (by decide) rest ((afterOpening?_eq_some.mp found).trans rfl)
    have noEnum : afterOpening? "enum ".toList line = none :=
      Option.eq_none_iff_forall_ne_some.mpr fun rest found =>
        foreign "enum".toList (by decide) rest ((afterOpening?_eq_some.mp found).trans rfl)
    rw [declaredIn?, noInterface, noEnum, Option.or_none]
  case unexported =>
    rintro ⟨rest, rfl⟩
    exact foreign "export".toList (by decide) rest rfl

/-! ## Lines that declare a name -/

/-- A line that opens with `interface` or `enum` declares the word that follows, where a space or an
angle bracket ends the word, and exports nothing. -/
theorem declares {keyword : String} (declaring : keyword = "interface" ∨ keyword = "enum")
    {name : String} (word : IsWord name) {mark : Char} (marks : mark = ' ' ∨ mark = '<')
    (rest : List Char) :
    declaredIn? (keyword.toList ++ ' ' :: (name.toList ++ mark :: rest)) = some name.toList ∧
      ¬ Exports (keyword.toList ++ ' ' :: (name.toList ++ mark :: rest)) := by
  have opens : Opens (name.toList ++ mark :: rest) name.toList mark :=
    ⟨word.2, by rcases marks with rfl | rfl <;> decide, rest, rfl⟩
  have found : (afterOpening? "interface ".toList
      (keyword.toList ++ ' ' :: (name.toList ++ mark :: rest))).or
        (afterOpening? "enum ".toList
          (keyword.toList ++ ' ' :: (name.toList ++ mark :: rest))) =
      some (name.toList ++ mark :: rest) := by
    rcases declaring with rfl | rfl <;> rfl
  constructor
  · rw [declaredIn?, found]
    simp only [opens.split.1, opens.split.2, Option.some.injEq]
    exact if_pos ⟨word.1, marks⟩
  · rintro ⟨other, same⟩
    rcases declaring with rfl | rfl <;> cases same

/-! ## Lines that export names -/

/-- A line that exports names declares none. -/
theorem Exports.undeclared {line : List Char} (exports : Exports line) :
    declaredIn? line = none := by
  obtain ⟨rest, rfl⟩ := exports
  rfl

/-- The words between commas are read back, whatever else stands around them. -/
theorem parts_commaJoined {names : List String} (nonempty : names ≠ [])
    (words : ∀ name ∈ names, IsWord name) {before after : List Char}
    (beforeMarks : before.filter isWordCharacter = [] ∧ ',' ∉ before)
    (afterMarks : after.filter isWordCharacter = [] ∧ ',' ∉ after) :
    (breakAt ',' (before ++ (commaJoined names).toList ++ after)).map
      (fun part => part.filter isWordCharacter) = names.map String.toList := by
  induction names generalizing before with
  | nil => exact absurd rfl nonempty
  | cons name rest ih =>
    have word := words name List.mem_cons_self
    have kept : name.toList.filter isWordCharacter = name.toList := List.filter_eq_self.mpr word.2
    have commaless : ',' ∉ name.toList := fun member => absurd (word.2 _ member) (by decide)
    cases rest with
    | nil =>
      have single : ',' ∉ before ++ name.toList ++ after := by
        simp [beforeMarks.2, commaless, afterMarks.2]
      change (breakAt ',' (before ++ name.toList ++ after)).map _ = _
      rw [breakAt_of_not_mem single]
      simp [beforeMarks.1, afterMarks.1, kept]
    | cons other rest =>
      have split : before ++ (commaJoined (name :: other :: rest)).toList ++ after =
          (before ++ name.toList) ++
            ',' :: ([' '] ++ (commaJoined (other :: rest)).toList ++ after) := by
        change before ++ (name ++ ", " ++ commaJoined (other :: rest)).toList ++ after = _
        simp
      have first : ',' ∉ before ++ name.toList := by
        simp [beforeMarks.2, commaless]
      rw [split, breakAt_append first, List.map_cons,
        ih (List.cons_ne_nil _ _) (fun later member => words later (List.mem_cons_of_mem _ member))
          (by decide)]
      simp [beforeMarks.1, kept]

end ServiceStubs.Text
