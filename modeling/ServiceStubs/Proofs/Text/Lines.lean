import Mathlib.Data.List.Basic
import Mathlib.Tactic.SplitIfs
import ServiceStubs.Text.Lines

/-!
# Pieces of text

What breaking a text at its separators and dropping its ending leave: pieces that hold no separator,
and a beginning of the text. A text may be broken, and its ending dropped, in two parts.
-/

namespace ServiceStubs.Text

/-- A text without separators stands before the first piece of what follows. -/
theorem breakAt_append_of_not_mem {separator : Char} {text more first : List Char}
    {others : List (List Char)} (absent : separator ∉ text)
    (broken : breakAt separator more = first :: others) :
    breakAt separator (text ++ more) = (text ++ first) :: others := by
  induction text with
  | nil => exact broken
  | cons character rest ih =>
    rw [List.mem_cons, not_or] at absent
    rw [List.cons_append, breakAt, if_neg (Ne.symm absent.1), ih absent.2]
    rfl

/-- A text without separators is a single piece. -/
theorem breakAt_of_not_mem {separator : Char} {text : List Char} (absent : separator ∉ text) :
    breakAt separator text = [text] := by
  have none : breakAt separator [] = [[]] := rfl
  rw [← List.append_nil text, breakAt_append_of_not_mem absent none]

/-- The pieces of a text between its separators hold none. -/
theorem not_mem_of_mem_breakAt {separator : Char} {text piece : List Char}
    (member : piece ∈ breakAt separator text) : separator ∉ piece := by
  induction text generalizing piece with
  | nil =>
    rw [List.mem_singleton.mp member]
    exact List.not_mem_nil
  | cons character rest ih =>
    rw [breakAt] at member
    split_ifs at member with separates
    · rcases List.mem_cons.mp member with rfl | later
      · exact List.not_mem_nil
      · exact ih later
    · cases pieces : breakAt separator rest with
      | nil => exact absurd pieces (breakAt_ne_nil separator rest)
      | cons first others =>
        rw [pieces] at member ih
        rcases List.mem_cons.mp member with rfl | later
        · exact List.not_mem_cons_of_ne_of_not_mem (Ne.symm separates) (ih List.mem_cons_self)
        · exact ih (List.mem_cons_of_mem first later)

/-- The pieces of a text are made of its characters. -/
theorem subset_of_mem_breakAt {separator : Char} {text piece : List Char}
    (member : piece ∈ breakAt separator text) : piece ⊆ text := by
  induction text generalizing piece with
  | nil =>
    rw [List.mem_singleton.mp member]
    exact List.Subset.refl _
  | cons character rest ih =>
    rw [breakAt] at member
    split_ifs at member
    · rcases List.mem_cons.mp member with rfl | later
      · exact List.nil_subset _
      · exact List.subset_cons_of_subset character (ih later)
    · cases pieces : breakAt separator rest with
      | nil => exact absurd pieces (breakAt_ne_nil separator rest)
      | cons first others =>
        rw [pieces] at member ih
        rcases List.mem_cons.mp member with rfl | later
        · exact List.cons_subset_cons character (ih List.mem_cons_self)
        · exact List.subset_cons_of_subset character (ih (List.mem_cons_of_mem first later))

/-- A text without its ending is part of the text. -/
theorem dropTrailing_prefix (unwanted : Char) (text : List Char) :
    dropTrailing unwanted text <+: text := by
  induction text with
  | nil => exact List.nil_prefix
  | cons character rest ih =>
    rw [dropTrailing]
    cases kept : dropTrailing unwanted rest with
    | nil =>
      dsimp only
      split_ifs
      · exact List.nil_prefix
      · exact List.cons_prefix_cons.mpr ⟨rfl, List.nil_prefix⟩
    | cons first others =>
      rw [kept] at ih
      exact List.cons_prefix_cons.mpr ⟨rfl, ih⟩

/-- A text without its ending holds no character that the text does not hold. -/
theorem not_mem_dropTrailing {unwanted character : Char} {text : List Char}
    (absent : character ∉ text) : character ∉ dropTrailing unwanted text := by
  have kept := dropTrailing_prefix unwanted text
  exact fun member => absent (kept.subset member)

/-- A text without its ending ends with another character. -/
theorem getLast?_dropTrailing (unwanted : Char) (text : List Char) :
    (dropTrailing unwanted text).getLast? ≠ some unwanted := by
  induction text with
  | nil => simp [dropTrailing]
  | cons character rest ih =>
    rw [dropTrailing]
    cases kept : dropTrailing unwanted rest with
    | nil =>
      dsimp only
      split_ifs with same
      · simp
      · simpa using same
    | cons first others =>
      rw [kept] at ih
      simpa using ih

/-- A text that ends with another character is kept before whatever follows, of which the ending is
dropped. -/
theorem dropTrailing_append {unwanted : Char} {text : List Char}
    (ending : text.getLast? ≠ some unwanted) (more : List Char) :
    dropTrailing unwanted (text ++ more) = text ++ dropTrailing unwanted more := by
  induction text with
  | nil => rfl
  | cons character rest ih =>
    rw [List.cons_append, dropTrailing]
    cases rest with
    | nil =>
      have wanted : character ≠ unwanted := fun same => ending (congrArg some same)
      cases kept : dropTrailing unwanted more <;> simp [kept, wanted]
    | cons next rest =>
      rw [List.getLast?_cons_cons] at ending
      rw [ih ending]
      rfl

/-- A text that ends with another character has nothing to drop. -/
theorem dropTrailing_of_getLast? {unwanted : Char} {text : List Char}
    (ending : text.getLast? ≠ some unwanted) : dropTrailing unwanted text = text := by
  have whole := dropTrailing_append ending []
  rwa [dropTrailing, List.append_nil] at whole

/-- What follows an opening is the rest of the text. -/
theorem afterOpening?_eq_some {opening text rest : List Char} :
    afterOpening? opening text = some rest ↔ text = opening ++ rest := by
  induction opening generalizing text with
  | nil => simp [afterOpening?, eq_comm]
  | cons wanted opening ih =>
    cases text with
    | nil => simp [afterOpening?]
    | cons character text =>
      rw [afterOpening?]
      split_ifs with same
      · simp [ih, same]
      · simp [Ne.symm same]

end ServiceStubs.Text
