import ServiceStubs.Proofs.Text.Lines

/-!
# Indented lines

A text is indented by a unit when the unit stands before each of its lines that is not empty. What
is written piece by piece is indented piece by piece: of what was written before, only whether a
line has just begun is needed.
-/

namespace ServiceStubs.Text

/-- A line with a unit before it, unless it is empty. -/
def indentLine (unit line : List Char) : List Char := if line.isEmpty then [] else unit ++ line

/-- A text with a unit before each line that is not empty. -/
def indentLines (unit text : List Char) : List Char :=
  ['\n'].intercalate ((breakAt '\n' text).map (indentLine unit))

/-- Whether a line has just begun after a text, when it is told whether one had before. -/
def lineBegins : Bool → List Char → Bool
  | begins, [] => begins
  | _, character :: rest => lineBegins (character = '\n') rest

/-- The rest of a text with a unit before each line that is not empty, when it is told whether a
line begins with the rest. -/
def indentFrom (unit : List Char) : Bool → List Char → List Char
  | _, [] => []
  | begins, character :: rest =>
    if character = '\n' then '\n' :: indentFrom unit true rest
    else (if begins then unit else []) ++ character :: indentFrom unit false rest

/-- What has been written last tells whether a line begins. -/
theorem lineBegins_append (begins : Bool) (text more : List Char) :
    lineBegins begins (text ++ more) = lineBegins (lineBegins begins text) more := by
  induction text generalizing begins with
  | nil => rfl
  | cons character rest ih => exact ih (character = '\n')

/-- A text is indented piece by piece. -/
theorem indentFrom_append (unit : List Char) (begins : Bool) (text more : List Char) :
    indentFrom unit begins (text ++ more) =
      indentFrom unit begins text ++ indentFrom unit (lineBegins begins text) more := by
  induction text generalizing begins with
  | nil => rfl
  | cons character rest ih =>
    rw [List.cons_append, indentFrom, indentFrom, lineBegins, ih, ih]
    by_cases feed : character = '\n' <;> simp [feed]

/-- No line begins after a visible piece without line feeds. -/
theorem lineBegins_of_not_mem {begins : Bool} {piece : List Char} (unbroken : '\n' ∉ piece)
    (visible : piece ≠ []) : lineBegins begins piece = false := by
  induction piece generalizing begins with
  | nil => exact absurd rfl visible
  | cons character rest ih =>
    rw [List.mem_cons, not_or] at unbroken
    rw [lineBegins, decide_eq_false (Ne.symm unbroken.1)]
    by_cases last : rest = []
    · rw [last, lineBegins]
    · exact ih unbroken.2 last

/-- A piece without line feeds stays as it is where no line begins. -/
theorem indentFrom_false_of_not_mem {unit piece : List Char} (unbroken : '\n' ∉ piece) :
    indentFrom unit false piece = piece := by
  induction piece with
  | nil => rfl
  | cons character rest ih =>
    rw [List.mem_cons, not_or] at unbroken
    simp [indentFrom, Ne.symm unbroken.1, ih unbroken.2]

/-- A visible piece without line feeds has the unit before it where a line begins. -/
theorem indentFrom_true_of_not_mem {unit piece : List Char} (unbroken : '\n' ∉ piece)
    (visible : piece ≠ []) : indentFrom unit true piece = unit ++ piece := by
  cases piece with
  | nil => exact absurd rfl visible
  | cons character rest =>
    rw [List.mem_cons, not_or] at unbroken
    rw [indentFrom, if_neg (Ne.symm unbroken.1), if_pos rfl,
      indentFrom_false_of_not_mem unbroken.2]

/-- What stands before the first line stands before all lines. -/
theorem intercalate_append_cons (separator start line : List Char) (others : List (List Char)) :
    separator.intercalate ((start ++ line) :: others) =
      start ++ separator.intercalate (line :: others) := by
  cases others with
  | nil => simp
  | cons other rest => simp

/-- The rest of a text is indented line by line, but for its first line if none begins there. -/
theorem indentFrom_eq_intercalate (unit : List Char) {begins : Bool} {text first : List Char}
    {others : List (List Char)} (broken : breakAt '\n' text = first :: others) :
    indentFrom unit begins text = ['\n'].intercalate
      ((if begins then indentLine unit first else first) :: others.map (indentLine unit)) := by
  induction text generalizing begins first others with
  | nil =>
    obtain ⟨rfl, rfl⟩ := List.cons.inj broken
    cases begins <;> rfl
  | cons character rest ih =>
    obtain ⟨next, later, inRest⟩ := List.exists_cons_of_ne_nil (breakAt_ne_nil '\n' rest)
    rw [breakAt, inRest] at broken
    rw [indentFrom]
    by_cases feed : character = '\n'
    · rw [if_pos feed] at broken ⊢
      obtain ⟨rfl, rfl⟩ := List.cons.inj broken
      rw [ih inRest, if_pos rfl]
      cases begins <;> simp [indentLine]
    · rw [if_neg feed] at broken ⊢
      obtain ⟨rfl, rfl⟩ := List.cons.inj broken
      have whole : (if begins then indentLine unit (character :: next) else character :: next) =
          (if begins then unit else []) ++ [character] ++ next := by
        cases begins <;> simp [indentLine]
      rw [ih inRest, whole, intercalate_append_cons, List.append_assoc]
      rfl

/-- A whole text is indented line by line. -/
theorem indentFrom_true (unit text : List Char) :
    indentFrom unit true text = indentLines unit text := by
  obtain ⟨first, others, broken⟩ := List.exists_cons_of_ne_nil (breakAt_ne_nil '\n' text)
  rw [indentFrom_eq_intercalate unit broken, indentLines, broken, List.map_cons, if_pos rfl]

/-- Neither an empty line between two others nor the one after the last line feed is indented. -/
example : indentLines [' ', ' '] "a\n\n b\n".toList = "  a\n\n   b\n".toList := by decide

end ServiceStubs.Text
