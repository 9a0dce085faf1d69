import ServiceStubs.Proofs.Writing.Indentation

/-!
# Pieces and sequences

A piece of a line adds nothing where nothing of it is visible, its characters where the line has
begun, and the indentation before them where the line begins; there it can be refused.

An emission that is refused is the last of a sequence: the emissions after it are not begun. So two
emissions are refused together when one of them is, and the text up to the refusal is the text
before it. What is shown of each emission carries over to sequences of them.
-/

namespace ServiceStubs.Writing

variable {layout : Layout} {first second : Emission} {cursor : Cursor}

/-! ## Pieces of a line -/

section

variable {piece : List Char}

/-- A piece without anything visible adds nothing. -/
theorem fragment_of_empty (empty : Text.dropTrailing '\r' piece = []) :
    fragment layout piece cursor = { text := [], cursor } := by
  simp [fragment, empty]

/-- A later piece of a line is added as it is. -/
theorem fragment_continuing (visible : Text.dropTrailing '\r' piece ≠ [])
    (begun : cursor.atLineStart = false) :
    fragment layout piece cursor = { text := Text.dropTrailing '\r' piece, cursor } := by
  simp [fragment, visible, begun]

/-- The first piece of a line is indented. -/
theorem fragment_opening (visible : Text.dropTrailing '\r' piece ≠ [])
    (begins : cursor.atLineStart = true) (fits : layout.fits cursor.depth) :
    fragment layout piece cursor =
      { text := layout.spaces cursor.depth ++ Text.dropTrailing '\r' piece
        cursor := { cursor with atLineStart := false } } := by
  simp [fragment, visible, begins, Layout.indentation?_of_fits fits]

/-- The first piece of a line is refused where the line cannot be indented. -/
theorem fragment_refused (visible : Text.dropTrailing '\r' piece ≠ [])
    (begins : cursor.atLineStart = true) (unfit : layout.fits cursor.depth = false) :
    fragment layout piece cursor = { text := [], cursor, isRefused := true } := by
  simp [fragment, visible, begins, Layout.indentation?, unfit]

end

/-! ## Sequences -/

/-- Nothing follows an emission that is refused. -/
theorem append_of_refused (refused : (first cursor).isRefused) :
    (first ++ second) cursor = first cursor := by
  change Emission.andThen first second cursor = _
  rw [Emission.andThen]
  exact if_pos refused

/-- An emission that is not refused is followed by the next one, where it has left the cursor. -/
theorem append_of_written (written : (first cursor).isRefused = false) :
    (first ++ second) cursor =
      let more := second (first cursor).cursor
      { more with text := (first cursor).text ++ more.text } := by
  change Emission.andThen first second cursor = _
  rw [Emission.andThen]
  exact if_neg (Bool.eq_false_iff.mp written)

/-- Two emissions are written when the first one is, and the second one where the first has left the
cursor. -/
theorem append_isRefused :
    ((first ++ second) cursor).isRefused = false ↔
      (first cursor).isRefused = false ∧ (second (first cursor).cursor).isRefused = false := by
  cases refused : (first cursor).isRefused with
  | true => simp [append_of_refused refused, refused]
  | false => simp [append_of_written refused]

/-- Three emissions one after another may be grouped in either way. -/
theorem append_assoc (first second third : Emission) :
    first ++ second ++ third = first ++ (second ++ third) := by
  funext cursor
  cases refused : (first cursor).isRefused with
  | true =>
    have both : (first ++ second) cursor = first cursor := append_of_refused refused
    rw [append_of_refused refused, append_of_refused (both ▸ refused), both]
  | false =>
    rw [append_of_written refused]
    have both : (first ++ second) cursor = _ := append_of_written refused
    cases later : (second (first cursor).cursor).isRefused with
    | true => rw [append_of_refused (by rw [both]; exact later), append_of_refused later, both]
    | false =>
      rw [append_of_written (by rw [both]; exact later), append_of_written later, both]
      simp only [List.append_assoc]

/-- Emissions in two groups are those of the first group and then those of the second. -/
theorem Emission.sequence_append (emissions more : List Emission) :
    sequence (emissions ++ more) = sequence emissions ++ sequence more := by
  induction emissions with
  | nil => rfl
  | cons emission rest ih => rw [List.cons_append, sequence, ih, sequence, append_assoc]

/-- What holds of nothing, and of two emissions one after the other when it holds of both, holds of
emissions in order when it holds of each. -/
theorem sequence_induction (holds : Emission → Prop) (nothing : holds .nothing)
    (append : ∀ {first second : Emission}, holds first → holds second → holds (first ++ second))
    {emissions : List Emission} (each : ∀ emission ∈ emissions, holds emission) :
    holds (.sequence emissions) := by
  induction emissions with
  | nil => exact nothing
  | cons emission rest ih =>
    exact append (each emission List.mem_cons_self)
      (ih fun other member => each other (List.mem_cons_of_mem emission member))

/-- What holds of nothing, of the end of a line, and of two emissions one after the other when it
holds of both, holds of pieces on lines of their own when it holds of each. -/
theorem fragments_induction (holds : Emission → Prop) (nothing : holds .nothing)
    (append : ∀ {first second : Emission}, holds first → holds second → holds (first ++ second))
    (newLine : holds (newLine layout)) {pieces : List (List Char)}
    (each : ∀ piece ∈ pieces, holds (fragment layout piece)) : holds (fragments layout pieces) := by
  induction pieces with
  | nil => exact nothing
  | cons piece rest ih =>
    have here := each piece List.mem_cons_self
    have others := ih fun other member => each other (List.mem_cons_of_mem piece member)
    cases rest with
    | nil => exact here
    | cons other rest => exact append (append here newLine) others

end ServiceStubs.Writing
