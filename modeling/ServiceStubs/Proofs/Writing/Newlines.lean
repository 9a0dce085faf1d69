import Mathlib.Tactic.SplitIfs
import ServiceStubs.Proofs.Text.Lines
import ServiceStubs.Proofs.Writing.Sequences
import ServiceStubs.Writing.Program

/-!
# Newlines of written text

Line feeds of what is written never reach the text: they begin new lines, and every line is ended
by the newline of the layout. So the text with some newline is the text with line feeds in which
each line feed is replaced by that newline, whatever is written, and nothing else of a run depends
on the newline: not the cursor, not which lines are refused, not which steps complete, and not which
failures are caught.
-/

namespace ServiceStubs

namespace Text

/-- A text with every line feed replaced. -/
def withNewline (newline : String) (text : List Char) : List Char :=
  text.flatMap fun character => if character = '\n' then newline.toList else [character]

/-- Line feeds are replaced in each part of a text. -/
theorem withNewline_append (newline : String) (text more : List Char) :
    withNewline newline (text ++ more) = withNewline newline text ++ withNewline newline more :=
  List.flatMap_append

/-- A text without line feeds stays as it is. -/
theorem withNewline_of_not_mem {newline : String} {text : List Char} (absent : '\n' ∉ text) :
    withNewline newline text = text := by
  induction text with
  | nil => rfl
  | cons character rest ih =>
    rw [List.mem_cons, not_or] at absent
    rw [withNewline, List.flatMap_cons, if_neg (Ne.symm absent.1), ← withNewline, ih absent.2]
    rfl

/-- A line feed may be replaced by itself. -/
theorem withNewline_lineFeed (text : List Char) : withNewline "\n" text = text := by
  induction text with
  | nil => rfl
  | cons character rest ih =>
    rw [withNewline, List.flatMap_cons, ← withNewline, ih]
    split_ifs with feed
    · rw [feed]
      rfl
    · rfl

/-- Line feeds that are replaced by something without line feeds are gone. -/
theorem not_mem_withNewline {newline : String} (feedless : '\n' ∉ newline.toList)
    (text : List Char) : '\n' ∉ withNewline newline text := by
  intro member
  obtain ⟨character, _, inside⟩ := List.mem_flatMap.mp member
  split_ifs at inside with feed
  · exact feedless inside
  · exact feed (List.mem_singleton.mp inside).symm

/-- Where line feeds were replaced by a carriage return and a line feed, every line feed has a
carriage return of its own before it. -/
theorem return_before_feed {text before after : List Char}
    (split : withNewline "\r\n" text = before ++ '\n' :: after) :
    ∃ start, before = start ++ ['\r'] := by
  induction text generalizing before with
  | nil => simp [withNewline] at split
  | cons character rest ih =>
    rw [withNewline, List.flatMap_cons, ← withNewline] at split
    split_ifs at split with feed
    · -- The two characters that stand for the line feed come first.
      match before with
      | [] => cases (List.cons.inj split).1
      | [first] => exact ⟨[], congrArg (fun mark => [mark]) (List.cons.inj split).1.symm⟩
      | first :: second :: others =>
        obtain ⟨start, rfl⟩ := ih (List.cons.inj (List.cons.inj split).2).2
        exact ⟨first :: second :: start, rfl⟩
    · match before with
      | [] => exact absurd (List.cons.inj split).1 feed
      | first :: others =>
        obtain ⟨start, rfl⟩ := ih (List.cons.inj split).2
        exact ⟨first :: start, rfl⟩

end Text

namespace Writing

/-! ## Emissions -/

/-- An emission with every line feed of its text replaced. -/
def Emission.withNewline (newline : String) (emission : Emission) : Emission := fun cursor =>
  { emission cursor with text := Text.withNewline newline (emission cursor).text }

section

variable {newline : String} {width : Int}

/-- Line feeds are replaced in each of two emissions. -/
theorem Emission.withNewline_append (first second : Emission) :
    (first ++ second).withNewline newline =
      first.withNewline newline ++ second.withNewline newline := by
  funext cursor
  cases refused : (first cursor).isRefused with
  | true =>
    have here : (first.withNewline newline cursor).isRefused := refused
    rw [append_of_refused here, withNewline, append_of_refused refused]
    rfl
  | false =>
    have here : (first.withNewline newline cursor).isRefused = false := refused
    rw [append_of_written here, withNewline, append_of_written refused, Text.withNewline_append]
    rfl

/-- Line feeds are replaced in each of some emissions. -/
theorem Emission.withNewline_sequence (emissions : List Emission) :
    (sequence emissions).withNewline newline =
      sequence (emissions.map (Emission.withNewline newline)) := by
  induction emissions with
  | nil => rfl
  | cons emission rest ih =>
    rw [sequence, withNewline_append, ih]
    rfl

/-- What ends a line is the newline. -/
theorem newLine_withNewline :
    newLine ⟨width, newline⟩ = (newLine ⟨width, "\n"⟩).withNewline newline := by
  funext cursor
  simp [newLine, Emission.withNewline, Text.withNewline]

/-- A piece of a line holds no line feed, and neither does its indentation. -/
theorem fragment_withNewline {piece : List Char} (unbroken : '\n' ∉ piece) :
    fragment ⟨width, newline⟩ piece = (fragment ⟨width, "\n"⟩ piece).withNewline newline := by
  have kept : '\n' ∉ Text.dropTrailing '\r' piece := Text.not_mem_dropTrailing unbroken
  funext cursor
  rw [Emission.withNewline]
  by_cases empty : Text.dropTrailing '\r' piece = []
  · rw [fragment_of_empty empty, fragment_of_empty empty]
    rfl
  cases begins : cursor.atLineStart with
  | false =>
    rw [fragment_continuing empty begins, fragment_continuing empty begins,
      Text.withNewline_of_not_mem kept]
  | true =>
    cases fits : Layout.fits ⟨width, newline⟩ cursor.depth with
    | false =>
      have same : Layout.fits ⟨width, "\n"⟩ cursor.depth = false := fits
      rw [fragment_refused empty begins fits, fragment_refused empty begins same]
      rfl
    | true =>
      have same : Layout.fits ⟨width, "\n"⟩ cursor.depth := fits
      have whole : '\n' ∉ Layout.spaces ⟨width, "\n"⟩ cursor.depth ++
          Text.dropTrailing '\r' piece := by
        rw [List.mem_append, not_or]
        exact ⟨Layout.not_mem_spaces _ _, kept⟩
      rw [fragment_opening empty begins fits, fragment_opening empty begins same,
        Text.withNewline_of_not_mem whole]
      rfl

/-- Pieces without line feeds are ended by the newline. -/
theorem fragments_withNewline {pieces : List (List Char)}
    (unbroken : ∀ piece ∈ pieces, '\n' ∉ piece) :
    fragments ⟨width, newline⟩ pieces = (fragments ⟨width, "\n"⟩ pieces).withNewline newline := by
  induction pieces with
  | nil => rfl
  | cons piece rest ih =>
    have here : fragment ⟨width, newline⟩ piece = _ :=
      fragment_withNewline (unbroken piece List.mem_cons_self)
    have others := ih fun other member => unbroken other (List.mem_cons_of_mem piece member)
    cases rest with
    | nil => exact here
    | cons other rest =>
      change fragment _ piece ++ newLine _ ++ fragments _ (other :: rest) =
        Emission.withNewline newline (fragment _ piece ++ newLine _ ++ fragments _ (other :: rest))
      rw [Emission.withNewline_append, Emission.withNewline_append, ← here, ← newLine_withNewline,
        ← others]

/-- Line feeds of written text are replaced by the newline. -/
theorem write_withNewline (content : String) :
    write ⟨width, newline⟩ content = (write ⟨width, "\n"⟩ content).withNewline newline :=
  fragments_withNewline fun _ member => Text.not_mem_of_mem_breakAt member

/-- A line is ended by the newline. -/
theorem line_withNewline (content : String) :
    line ⟨width, newline⟩ content = (line ⟨width, "\n"⟩ content).withNewline newline := by
  rw [line, line, Emission.withNewline_append, ← write_withNewline, ← newLine_withNewline]

/-- An unfinished line is ended by the newline. -/
theorem finishLine_withNewline :
    finishLine ⟨width, newline⟩ = (finishLine ⟨width, "\n"⟩).withNewline newline := by
  funext cursor
  change (if cursor.atLineStart then { text := [], cursor } else newLine ⟨width, newline⟩ cursor) =
    Emission.withNewline newline (finishLine ⟨width, "\n"⟩) cursor
  unfold Emission.withNewline finishLine
  cases cursor.atLineStart with
  | true => rfl
  | false => exact congrFun newLine_withNewline cursor

/-- The lines of a block are ended by the newline when those of its body are. -/
theorem block_withNewline (body : Emission) :
    block ⟨width, newline⟩ (body.withNewline newline) =
      (block ⟨width, "\n"⟩ body).withNewline newline := by
  have inside : (body.withNewline newline ++ finishLine ⟨width, newline⟩).indented =
      Emission.withNewline newline (body ++ finishLine ⟨width, "\n"⟩).indented := by
    rw [finishLine_withNewline, ← Emission.withNewline_append]
    rfl
  have brace (content : String) : line ⟨width, newline⟩ content = _ := line_withNewline content
  rw [block, inside, brace, brace, block, Emission.withNewline_append, Emission.withNewline_append]

end

/-! ## Programs -/

/-- An event with every line feed of an added text replaced. -/
def Event.withNewline (newline : String) : Event → Event
  | .added text => .added (Text.withNewline newline text)
  | .completed step depth caught => .completed step depth caught

/-- A run with every line feed of its added texts replaced. -/
def Run.withNewline (newline : String) (run : Run) : Run :=
  { run with events := run.events.map (Event.withNewline newline) }

section

variable {newline : String} {width : Int}

/-- The text of a run has the line feeds of all its added texts replaced. -/
theorem Run.text_withNewline (run : Run) :
    (run.withNewline newline).text = Text.withNewline newline run.text := by
  rw [text, withNewline, text]
  induction run.events with
  | nil => rfl
  | cons event rest ih =>
    rw [List.map_cons, List.flatMap_cons, List.flatMap_cons, ih, Text.withNewline_append]
    cases event <;> rfl

/-- Line feeds are replaced in each of two runs. -/
theorem Run.withNewline_andThen (first : Run) {second other : Cursor → Run}
    (same : ∀ cursor, other cursor = (second cursor).withNewline newline) :
    (first.withNewline newline).andThen other = (first.andThen second).withNewline newline := by
  obtain ⟨events, cursor, failure⟩ := first
  cases failure with
  | some interruption => rfl
  | none => simp [andThen, withNewline, same]

/-- The completion of a step adds no text. -/
theorem Run.withNewline_complete (run : Run) (step : StepKind) :
    (run.withNewline newline).complete step = (run.complete step).withNewline newline :=
  run.withNewline_andThen fun _ => rfl

/-- Line feeds are replaced one level deeper. -/
theorem Run.withNewline_indented {body other : Cursor → Run}
    (same : ∀ cursor, other cursor = (body cursor).withNewline newline) (cursor : Cursor) :
    Run.indented other cursor = (Run.indented body cursor).withNewline newline := by
  rw [Run.indented, same]
  rfl

/-- The catch of a failure adds no text. -/
theorem Run.withNewline_caught (catching : Catching) (run : Run) :
    (run.withNewline newline).caught catching = (run.caught catching).withNewline newline := by
  unfold caught withNewline
  dsimp only
  split_ifs
  · simp [Event.withNewline]
  · rfl

/-- The lines of a block are ended by the newline when those of its body are. -/
theorem Run.withNewline_block {body other : Cursor → Run}
    (same : ∀ cursor, other cursor = (body cursor).withNewline newline) (cursor : Cursor) :
    Run.block ⟨width, newline⟩ other cursor =
      (Run.block ⟨width, "\n"⟩ body cursor).withNewline newline := by
  have brace (content : String) (place : Cursor) : Run.emit (line ⟨width, newline⟩ content) place =
      (Run.emit (line ⟨width, "\n"⟩ content) place).withNewline newline := by
    rw [line_withNewline]
    rfl
  have finished (place : Cursor) : Run.emit (finishLine ⟨width, newline⟩) place =
      (Run.emit (finishLine ⟨width, "\n"⟩) place).withNewline newline := by
    rw [finishLine_withNewline]
    rfl
  have inside (inner : Cursor) : (other inner).andThen (Run.emit (finishLine ⟨width, newline⟩)) =
      ((body inner).andThen (Run.emit (finishLine ⟨width, "\n"⟩))).withNewline newline := by
    rw [same, withNewline_andThen _ finished]
  unfold Run.block
  dsimp only
  rw [brace, withNewline_andThen _ (withNewline_indented inside), withNewline_andThen _ (brace _),
    withNewline_complete]

mutual

/-- A step adds the same text but for the newlines, and is otherwise the same. -/
theorem Step.run_withNewline (step : Step) (cursor : Cursor) :
    step.run ⟨width, newline⟩ cursor = (step.run ⟨width, "\n"⟩ cursor).withNewline newline := by
  cases step with
  | line text =>
    rw [Step.run, line_withNewline]
    exact (Run.emit (line ⟨width, "\n"⟩ text) cursor).withNewline_complete .line
  | write text =>
    rw [Step.run, write_withNewline]
    exact (Run.emit (write ⟨width, "\n"⟩ text) cursor).withNewline_complete .write
  | newLine =>
    rw [Step.run, newLine_withNewline]
    exact (Run.emit (newLine ⟨width, "\n"⟩) cursor).withNewline_complete .newLine
  | textBlock text =>
    refine Run.withNewline_block (fun inner => ?_) cursor
    rw [write_withNewline]
    rfl
  | block body =>
    rw [Step.run, Step.run]
    exact Run.withNewline_block (runSteps_withNewline body) cursor
  | indented body =>
    rw [Step.run, Step.run, Run.withNewline_indented (runSteps_withNewline body) cursor]
    exact Run.withNewline_complete _ .indented
  | fail message => rfl
  | attempt catching body =>
    rw [Step.run, Step.run, runSteps_withNewline body cursor]
    exact Run.withNewline_caught catching _

/-- A program adds the same text but for the newlines, and is otherwise the same. -/
theorem runSteps_withNewline (steps : List Step) (cursor : Cursor) :
    runSteps ⟨width, newline⟩ steps cursor =
      (runSteps ⟨width, "\n"⟩ steps cursor).withNewline newline := by
  cases steps with
  | nil => rfl
  | cons step rest =>
    rw [runSteps, runSteps, Step.run_withNewline step cursor]
    exact Run.withNewline_andThen _ (runSteps_withNewline rest)

end

end

end Writing

end ServiceStubs
