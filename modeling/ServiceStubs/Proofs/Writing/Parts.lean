import ServiceStubs.Proofs.Writing.Lines

/-!
# Text written in parts

A text may be written in one piece or in two, one after the other: what is added is the same, and
so is the cursor afterwards, wherever the text begins. Line feeds tell lines apart on both sides of
the cut alike, and the indentation before the first visible piece of a line is added only once. The
carriage returns at the end of what is written are dropped, so a cut may not stand behind one: in
the whole text it may be followed by more of its line, and stays. Where a line cannot be indented,
the two parts are refused as the whole is, after the same text.
-/

namespace ServiceStubs.Writing

variable {layout : Layout}

/-- A piece of a line may be written in two parts: after the first of them, unless it is empty, the
line has begun and is not indented again. -/
theorem fragment_append {piece : List Char} (ending : piece.getLast? ≠ some '\r')
    (more : List Char) :
    fragment layout (piece ++ more) = fragment layout piece ++ fragment layout more := by
  have whole := Text.dropTrailing_append ending more
  have first := Text.dropTrailing_of_getLast? ending
  funext cursor
  change _ = Emission.andThen (fragment layout piece) (fragment layout more) cursor
  rw [Emission.andThen]
  cases piece with
  | nil => rfl
  | cons character rest =>
    rw [List.cons_append] at whole ⊢
    cases begins : cursor.atLineStart with
    | false =>
      cases kept : Text.dropTrailing '\r' more <;> simp [fragment, whole, first, begins, kept]
    | true =>
      cases known : layout.indentation? cursor.depth with
      | none => simp [fragment, whole, first, begins, known]
      | some indentation =>
        cases kept : Text.dropTrailing '\r' more <;>
          simp [fragment, whole, first, begins, known, kept]

/-- A line that another one follows is ended by the newline. -/
theorem fragments_cons (piece : List Char) {others : List (List Char)} (nonempty : others ≠ []) :
    fragments layout (piece :: others) =
      fragment layout piece ++ newLine layout ++ fragments layout others := by
  cases others with
  | nil => exact absurd rfl nonempty
  | cons other others => rfl

/-- The first line of a text is written before the rest of the text. -/
theorem fragments_breakAt_append {line : List Char} (unbroken : '\n' ∉ line) (rest : List Char) :
    fragments layout (Text.breakAt '\n' (line ++ '\n' :: rest)) =
      fragment layout line ++ newLine layout ++ fragments layout (Text.breakAt '\n' rest) := by
  rw [Text.breakAt_append unbroken, fragments_cons line (Text.breakAt_ne_nil '\n' rest)]

/-- Characters may be written in two parts. The recursion goes along the lines of the first part, of
which the last one is continued by the first line of the second part. -/
theorem fragments_append {text : List Char} (ending : text.getLast? ≠ some '\r')
    (more : List Char) :
    fragments layout (Text.breakAt '\n' (text ++ more)) =
      fragments layout (Text.breakAt '\n' text) ++ fragments layout (Text.breakAt '\n' more) := by
  by_cases feed : '\n' ∈ text
  · obtain ⟨line, rest, split, unbroken⟩ := List.eq_append_cons_of_mem feed
    have shorter : rest.length < text.length := by
      rw [split, List.length_append, List.length_cons]
      omega
    have later : rest.getLast? ≠ some '\r' := by
      rw [split] at ending
      cases rest with
      | nil => simp
      | cons next rest => simpa using ending
    rw [split, List.append_assoc, List.cons_append, fragments_breakAt_append unbroken,
      fragments_breakAt_append unbroken, fragments_append later more]
    exact (append_assoc _ _ _).symm
  · obtain ⟨first, others, broken⟩ :=
      List.exists_cons_of_ne_nil (Text.breakAt_ne_nil '\n' more)
    rw [Text.breakAt_append_of_not_mem feed broken, Text.breakAt_of_not_mem feed, broken]
    cases others with
    | nil => exact fragment_append ending first
    | cons other others =>
      rw [fragments_cons _ (List.cons_ne_nil other others),
        fragments_cons _ (List.cons_ne_nil other others), fragment_append ending first]
      simp only [fragments, append_assoc]
termination_by text.length
decreasing_by exact shorter

/-- Two texts written one after the other add what they add when they are written as one, and leave
the same cursor, at whatever depth and place of a line they begin, unless the first of them ends
with a carriage return. They are refused when the one text is, and then as much of it is added. -/
theorem write_append (layout : Layout) {text : String} (ending : text.toList.getLast? ≠ some '\r')
    (more : String) (cursor : Cursor) :
    (write layout text ++ write layout more) cursor = write layout (text ++ more) cursor := by
  rw [write, write, write, String.toList_append, fragments_append ending]

/-- The cut stands behind a line feed, and carriage returns follow it, of which one ends the text of
a line and the others are the text of the next. -/
theorem write_append_returns :
    "a\r\nb\n".toList.getLast? ≠ some '\r' ∧
    (write ⟨2, "\r\n"⟩ "a\r\nb\n" ++ write ⟨2, "\r\n"⟩ "\r\n\r\rc\r") ⟨1, true⟩ =
      write ⟨2, "\r\n"⟩ ("a\r\nb\n" ++ "\r\n\r\rc\r") ⟨1, true⟩ ∧
    write ⟨2, "\r\n"⟩ "a\r\nb\n\r\n\r\rc\r" ⟨1, true⟩ =
      { text := "  a\r\n  b\r\n\r\n  \r\rc".toList, cursor := ⟨1, false⟩ } :=
  ⟨by decide, write_append ⟨2, "\r\n"⟩ (by decide) "\r\n\r\rc\r" ⟨1, true⟩, by decide⟩

end ServiceStubs.Writing
