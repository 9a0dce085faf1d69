import ServiceStubs.Document
import ServiceStubs.Proofs.Text.Words
import ServiceStubs.Proofs.Writing.Sequences

/-!
# Written lines

What is written from the start of a line on in whole lines, without line breaks of its own, adds
these lines, each after its indentation, and is at the start of a line again at the same depth. So
the text of a construct, unless it is refused, is told by its lines: the header and the opening
brace, the members one level deeper, and the closing brace.
-/

namespace ServiceStubs

namespace Writing

/-- Whether an emission that begins with a line at a depth, and is not refused, adds some lines and
nothing else. -/
def Emission.WritesLines (layout : Layout) (depth : Nat) (emission : Emission)
    (lines : List (List Char)) : Prop :=
  (emission ⟨depth, true⟩).isRefused = false → emission ⟨depth, true⟩ =
    { text := lines.flatMap (· ++ layout.newline.toList), cursor := ⟨depth, true⟩ }

namespace Emission.WritesLines

variable {layout : Layout} {depth : Nat} {first second body : Emission}
variable {lines more : List (List Char)}

/-- Nothing is written in no lines. -/
theorem nothing : Emission.nothing.WritesLines layout depth [] := fun _ => rfl

/-- Emissions one after the other write their lines one after the other. -/
theorem append (writes : first.WritesLines layout depth lines)
    (next : second.WritesLines layout depth more) :
    (first ++ second).WritesLines layout depth (lines ++ more) := by
  intro written
  obtain ⟨here, there⟩ := append_isRefused.mp written
  rw [append_of_written here]
  rw [writes here] at there ⊢
  simp only [next there, List.flatMap_append]

/-- The end of a line that has just begun writes an empty line. -/
theorem newLine : (newLine layout).WritesLines layout depth [[]] :=
  fun _ => by simp [Writing.newLine]

/-- A text without line breaks is a single piece, from which nothing is dropped. -/
theorem write_of_unbroken {content : String} (unbroken : Text.Unbroken content)
    (visible : content ≠ "") (cursor : Cursor)
    (written : (write layout content cursor).isRefused = false) :
    write layout content cursor =
      { text := if cursor.atLineStart then layout.spaces cursor.depth ++ content.toList
          else content.toList
        cursor := { cursor with atLineStart := false } } := by
  have same := Text.dropTrailing_of_not_mem unbroken.2
  have kept : Text.dropTrailing '\r' content.toList ≠ [] := fun empty =>
    visible (String.toList_inj.mp (same ▸ empty))
  rw [write, Text.breakAt_of_not_mem unbroken.1, fragments] at written ⊢
  obtain ⟨depth, begins⟩ := cursor
  cases begins with
  | false => rw [fragment_continuing kept rfl, same]; rfl
  | true =>
    cases fits : layout.fits depth with
    | true => rw [fragment_opening kept rfl fits, same]; rfl
    | false =>
      rw [fragment_refused kept rfl fits] at written
      cases written

/-- A line is such a text and its end. -/
theorem line_of_unbroken {content : String} (unbroken : Text.Unbroken content)
    (visible : content ≠ "") (cursor : Cursor)
    (written : (Writing.line layout content cursor).isRefused = false) :
    Writing.line layout content cursor =
      { text := (if cursor.atLineStart then layout.spaces cursor.depth ++ content.toList
          else content.toList) ++ layout.newline.toList
        cursor := { cursor with atLineStart := true } } := by
  have here := (append_isRefused.mp written).1
  change (write layout content ++ Writing.newLine layout) cursor = _
  rw [append_of_written here, write_of_unbroken unbroken visible cursor here]
  rfl

/-- A line writes its content after the indentation. -/
theorem line {content : String} (unbroken : Text.Unbroken content) (visible : content ≠ "") :
    (line layout content).WritesLines layout depth
      [layout.spaces depth ++ content.toList] := by
  intro written
  rw [line_of_unbroken unbroken visible _ written]
  simp

/-- Lines in order. -/
theorem inOrder {contents : List String}
    (each : ∀ content ∈ contents, Text.Unbroken content ∧ content ≠ "") :
    (Document.lines layout contents).WritesLines layout depth
      (contents.map fun content => layout.spaces depth ++ content.toList) := by
  induction contents with
  | nil => exact nothing
  | cons content rest ih =>
    obtain ⟨unbroken, visible⟩ := each content List.mem_cons_self
    exact (line unbroken visible).append
      (ih fun other member => each other (List.mem_cons_of_mem content member))

/-- A body one level deeper that writes lines is finished when it ends. -/
theorem deeper (writes : body.WritesLines layout (depth + 1) lines) :
    (body ++ finishLine layout).indented.WritesLines layout depth lines := by
  intro written
  have here : (body ⟨depth + 1, true⟩).isRefused = false := (append_isRefused.mp written).1
  have inside : (body ++ finishLine layout) ⟨depth + 1, true⟩ =
      { text := lines.flatMap (· ++ layout.newline.toList), cursor := ⟨depth + 1, true⟩ } := by
    rw [append_of_written here, writes here]
    simp [finishLine]
  rw [Emission.indented, inside]
  rfl

/-- A header and an opening brace are written on one line. -/
theorem opening {header : String} (unbroken : Text.Unbroken header) (visible : header ≠ "") :
    (write layout header ++ Writing.line layout "\x7b").WritesLines layout depth
      [layout.spaces depth ++ (header ++ "\x7b").toList] := by
  intro written
  obtain ⟨here, brace⟩ := append_isRefused.mp written
  rw [append_of_written here]
  rw [write_of_unbroken unbroken visible _ here] at brace ⊢
  rw [line_of_unbroken (by decide) (by decide) _ brace]
  simp

/-- A header and a block write a line for the header and the opening brace, the lines of the body
and a line for the closing brace. -/
theorem headed {header : String} (unbroken : Text.Unbroken header) (visible : header ≠ "")
    (writes : body.WritesLines layout (depth + 1) lines) :
    (write layout header ++ block layout body).WritesLines layout depth
      ([layout.spaces depth ++ (header ++ "\x7b").toList] ++ lines ++
        [layout.spaces depth ++ ['\x7d']]) := by
  have closing : (Writing.line layout "\x7d").WritesLines layout depth
      [layout.spaces depth ++ ['\x7d']] := line (by decide) (by decide)
  rw [block, ← append_assoc, ← append_assoc]
  exact ((opening unbroken visible).append writes.deeper).append closing

/-- The text of a document that is written in lines is made of these. -/
theorem text_eq (writes : body.WritesLines layout 0 lines) {text : String}
    (made : body.text = .ok text) : text.toList = lines.flatMap (· ++ layout.newline.toList) := by
  unfold Emission.text at made
  cases refused : (body {}).isRefused with
  | true => simp [refused] at made
  | false =>
    have written := writes refused
    simp only [refused, Bool.false_eq_true, if_false, Except.ok.injEq] at made
    rw [← made, String.toList_ofList]
    exact congrArg Written.text written

end Emission.WritesLines

end Writing

end ServiceStubs
