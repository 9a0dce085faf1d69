import Mathlib.Data.List.Basic

/-!
# Braces in text

Braces nest in a text when no beginning of it closes more braces than it opens. As many braces are
open at its end as it opens more than it closes, so what follows may close that many. The level of a
line is the number of braces that are open before it, without the one that the line begins with
closing; lines are aligned when each of them that is not empty is indented by its level.
-/

namespace ServiceStubs.Text

/-! ## Nested braces -/

/-- Whether braces nest in a text, of which some are open at its end. -/
structure Nests (text : List Char) (opened : Nat) : Prop where
  /-- No beginning closes more braces than it opens. -/
  beginnings : ∀ before, before <+: text → before.count '\x7d' ≤ before.count '\x7b'
  total : text.count '\x7b' = text.count '\x7d' + opened

/-- Whether a text that some braces are open before closes no others, and leaves some of them and of
its own open after it. -/
structure Turns (text : List Char) (opened after : Nat) : Prop where
  few : text.count '\x7d' ≤ opened
  total : text.count '\x7b' + opened = text.count '\x7d' + after

/-- An opening brace is open. -/
theorem turns_opening (opened : Nat) : Turns ['\x7b'] opened (opened + 1) :=
  ⟨by simp, by simp [Nat.add_comm]⟩

/-- A closing brace closes one that is open. -/
theorem turns_closing (opened : Nat) : Turns ['\x7d'] (opened + 1) opened :=
  ⟨by simp, by simp [Nat.add_comm]⟩

/-- How many more braces a text opens than it closes. -/
def openBraces (text : List Char) : Nat := text.count '\x7b' - text.count '\x7d'

/-- The level of a line by its visible part and the number of braces that are open before it: a line
that begins with a closing brace stands where that brace was opened. -/
def levelOf (opened : Nat) (visible : List Char) : Nat :=
  if visible.head? = some '\x7d' then opened - 1 else opened

/-- Whether a text holds no brace. -/
structure Braceless (text : List Char) : Prop where
  opening : '\x7b' ∉ text
  closing : '\x7d' ∉ text

instance (text : List Char) : Decidable (Braceless text) :=
  decidable_of_iff ('\x7b' ∉ text ∧ '\x7d' ∉ text)
    ⟨fun both => ⟨both.1, both.2⟩, fun braceless => ⟨braceless.opening, braceless.closing⟩⟩

/-- A part of what holds no brace holds none. -/
theorem Braceless.mono {text part : List Char} (braceless : Braceless text) (inside : part ⊆ text) :
    Braceless part :=
  ⟨fun member => braceless.opening (inside member), fun member => braceless.closing (inside member)⟩

/-- What holds no brace opens and closes none. -/
theorem Braceless.turns {text : List Char} (braceless : Braceless text) (opened : Nat) :
    Turns text opened opened := by
  have opening := List.count_eq_zero.mpr braceless.opening
  have closing := List.count_eq_zero.mpr braceless.closing
  exact ⟨by omega, by omega⟩

/-- A line that begins without a brace stands at the level of the braces before it. -/
theorem Braceless.levelOf {text : List Char} (braceless : Braceless text) (opened : Nat) :
    levelOf opened text = opened :=
  if_neg fun begins => braceless.closing (List.mem_of_mem_head? begins)

namespace Nests

variable {text more : List Char} {opened after : Nat}

/-- Nothing is open in an empty text. -/
theorem nil : Nests [] 0 where
  beginnings before inside := by
    rw [List.prefix_nil.mp inside]
    exact Nat.le_refl 0
  total := rfl

/-- The braces that are open at the end. -/
theorem openBraces_eq (nests : Nests text opened) : openBraces text = opened := by
  rw [openBraces, nests.total, Nat.add_sub_cancel_left]

/-- A text goes on with one that turns the braces which are open at its end. -/
theorem append (nests : Nests text opened) (turns : Turns more opened after) :
    Nests (text ++ more) after where
  beginnings before inside := by
    rcases List.prefix_or_prefix_of_prefix inside (List.prefix_append text more) with
      earlier | ⟨rest, rfl⟩
    · exact nests.beginnings before earlier
    · have part := ((List.prefix_append_right_inj text).mp inside).sublist.count_le '\x7d'
      have whole := nests.total
      have few := turns.few
      rw [List.count_append, List.count_append]
      omega
  total := by
    have whole := nests.total
    have more := turns.total
    rw [List.count_append, List.count_append]
    omega

end Nests

/-- Spaces hold no brace. -/
theorem braceless_spaces (count : Nat) : Braceless (List.replicate count ' ') :=
  ⟨by simp, by simp⟩

/-- The ends of lines without braces open and close none. -/
theorem openBraces_flatMap {ending : List Char} (braceless : Braceless ending)
    (lines : List (List Char)) :
    openBraces (lines.flatMap (· ++ ending)) = openBraces lines.flatten := by
  have counts {brace : Char} (absent : brace ∉ ending) :
      (lines.flatMap (· ++ ending)).count brace = lines.flatten.count brace := by
    induction lines with
    | nil => rfl
    | cons line rest ih =>
      rw [List.flatMap_cons, List.flatten_cons, List.count_append, List.count_append,
        List.count_append, ih, List.count_eq_zero.mpr absent, Nat.add_zero]
  rw [openBraces, openBraces, counts braceless.opening, counts braceless.closing]

/-! ## Aligned lines -/

/-- Whether a line that some open braces stand before is indented by its level: it begins with some
width of spaces for each brace, and does not end with them. -/
structure Stands (width opened : Nat) (line : List Char) : Prop where
  visible : line.dropWhile (· = ' ') ≠ []
  spaces : (line.takeWhile (· = ' ')).length =
    width * levelOf opened (line.dropWhile (· = ' '))

/-- What begins with another character is indented by spaces before it. -/
theorem stands_indented {visible : List Char} (shown : visible ≠ [])
    (begins : visible.head? ≠ some ' ') (width opened : Nat) :
    Stands width opened (List.replicate (width * levelOf opened visible) ' ' ++ visible) := by
  obtain ⟨first, rest, rfl⟩ := List.exists_cons_of_ne_nil shown
  have other : first ≠ ' ' := fun same => begins (congrArg some same)
  have spaces (count : Nat) :
      ∀ character ∈ List.replicate count ' ', decide (character = ' ') = true := by simp
  constructor
  · rw [List.dropWhile_append_of_pos (spaces _)]
    simp [other]
  · rw [List.dropWhile_append_of_pos (spaces _), List.takeWhile_append_of_pos (spaces _)]
    simp [other]

/-- A line that goes on stands as before. -/
theorem Stands.append {width opened : Nat} {line : List Char} (stands : Stands width opened line)
    (more : List Char) : Stands width opened (line ++ more) := by
  have visible := stands.visible
  have split := congrArg List.length
    (List.takeWhile_append_dropWhile : line.takeWhile (· = ' ') ++ line.dropWhile (· = ' ') = line)
  rw [List.length_append] at split
  have before : (line.takeWhile (· = ' ')).length ≠ line.length := by
    have shown := List.length_pos_iff.mpr visible
    omega
  have behind : ¬ (line.dropWhile (· = ' ')).isEmpty := by simpa using visible
  have level : levelOf opened (line.dropWhile (· = ' ') ++ more) =
      levelOf opened (line.dropWhile (· = ' ')) := by
    rw [levelOf, List.head?_append_of_ne_nil _ visible, ← levelOf]
  constructor
  · rw [List.dropWhile_append, if_neg behind]
    exact List.append_ne_nil_of_left_ne_nil visible more
  · rw [List.dropWhile_append, if_neg behind, level, List.takeWhile_append, if_neg before]
    exact stands.spaces

/-- Whether each line that is not empty stands at its level, by the braces in the lines before
it. -/
def Aligned (width : Nat) (lines : List (List Char)) : Prop :=
  ∀ earlier line later, lines = earlier ++ line :: later → line ≠ [] →
    Stands width (openBraces earlier.flatten) line

/-- No lines are aligned. -/
theorem aligned_nil {width : Nat} : Aligned width [] :=
  fun _ _ _ split => absurd split.symm (by simp)

/-- Lines are aligned with another one when they are without it and it stands behind them. -/
theorem aligned_concat {width : Nat} {lines : List (List Char)} {last : List Char} :
    Aligned width (lines ++ [last]) ↔
      Aligned width lines ∧ (last ≠ [] → Stands width (openBraces lines.flatten) last) := by
  constructor
  · refine fun aligned => ⟨fun earlier line later split => ?_, aligned lines last [] rfl⟩
    refine aligned earlier line (later ++ [last]) ?_
    rw [split, List.append_assoc, List.cons_append]
  · rintro ⟨aligned, stands⟩ earlier line later split
    rcases List.eq_nil_or_concat later with rfl | ⟨others, other, rfl⟩
    · obtain ⟨rfl, rfl⟩ := List.append_singleton_inj.mp split
      exact stands
    · rw [List.concat_eq_append, ← List.cons_append, ← List.append_assoc] at split
      exact aligned earlier line others (List.append_singleton_inj.mp split).1

end ServiceStubs.Text
