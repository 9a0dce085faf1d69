import ServiceStubs.Proofs.Text.Braces
import ServiceStubs.Proofs.Text.Words
import ServiceStubs.Proofs.Writing.Nesting

/-!
# Braces and indentation

A program of lines, texts and blocks opens a brace exactly where it goes one level deeper, and
closes it where it comes back, so wherever it stands as many braces are open as its depth says. A
line is indented by the depth at its first piece; this is the level of the line unless it begins
with the closing brace of a block, which is written one level less deep while its brace is still
open. Texts with braces of their own, and scopes without braces, are what would set the two apart.
-/

namespace ServiceStubs

namespace Text

/-- Whether a text holds no brace and none of its lines begins with a space. -/
structure Flush (text : String) : Prop where
  braceless : Braceless text.toList
  begins : ∀ piece ∈ breakAt '\n' text.toList, piece.head? ≠ some ' '

instance (text : String) : Decidable (Flush text) :=
  decidable_of_iff (Braceless text.toList ∧
      ∀ piece ∈ breakAt '\n' text.toList, piece.head? ≠ some ' ')
    ⟨fun both => ⟨both.1, both.2⟩, fun flush => ⟨flush.braceless, flush.begins⟩⟩

/-- Whether a text is a piece of a line that is not empty and does not begin with a space, so that
it shows where the indentation before it ends. -/
structure Shows (piece : List Char) : Prop where
  visible : piece ≠ []
  isLine : IsLine piece
  begins : piece.head? ≠ some ' '

end Text

namespace Writing

variable {layout : Layout}

/-! ## Text that is laid out -/

/-- A text by its lines: those that are ended, and the one that is not. -/
structure Page where
  finished : List (List Char) := []
  current : List Char := []

/-- The lines of a page. -/
def Page.lines (page : Page) : List (List Char) := page.finished ++ [page.current]

/-- The text of a page. -/
def Page.text (newline : String) (page : Page) : List Char :=
  page.finished.flatMap (· ++ newline.toList) ++ page.current

/-- Whether a page is laid out for a cursor: its braces nest, of which some are open, and its lines
are aligned with them. -/
structure Page.Laid (layout : Layout) (page : Page) (opened : Nat) (cursor : Cursor) : Prop where
  begins : cursor.atLineStart = page.current.isEmpty
  finished : ∀ line ∈ page.finished, Text.IsLine line
  current : Text.IsLine page.current
  nests : Text.Nests (page.text layout.newline) opened
  aligned : Text.Aligned layout.indentWidth.toNat page.lines

/-- Whether a text that is written up to a cursor is that of a page which is laid out for it. -/
def LaidOut (layout : Layout) (text : List Char) (opened : Nat) (cursor : Cursor) : Prop :=
  ∃ page : Page, page.text layout.newline = text ∧ page.Laid layout opened cursor

namespace LaidOut

variable {text : List Char} {opened after : Nat} {cursor : Cursor}

/-- A document that nothing is written in is laid out. -/
theorem nil : LaidOut layout [] 0 {} := by
  refine ⟨{}, rfl, rfl, fun line member => absurd member List.not_mem_nil, Text.isLine_nil, .nil,
    ?_⟩
  exact Text.aligned_concat.mpr ⟨Text.aligned_nil, absurd rfl⟩

/-- Scopes are entered and left without any text. -/
theorem atDepth (laid : LaidOut layout text opened cursor) (depth : Nat) :
    LaidOut layout text opened { cursor with depth } := by
  obtain ⟨page, same, begins, finished, current, nests, aligned⟩ := laid
  exact ⟨page, same, begins, finished, current, nests, aligned⟩

/-- A later piece of a line leaves the line where it stands. -/
theorem continuing {piece : List Char} (shows : Text.Shows piece)
    (turns : Text.Turns piece opened after) (begun : cursor.atLineStart = false)
    (laid : LaidOut layout text opened cursor) : LaidOut layout (text ++ piece) after cursor := by
  obtain ⟨⟨finished, current⟩, rfl, laid⟩ := laid
  have before : current ≠ [] := List.isEmpty_eq_false_iff.mp (laid.begins.symm.trans begun)
  have shown : current ++ piece ≠ [] := List.append_ne_nil_of_left_ne_nil before _
  have whole : Page.text layout.newline ⟨finished, current ++ piece⟩ =
      Page.text layout.newline ⟨finished, current⟩ ++ piece := (List.append_assoc _ _ _).symm
  refine ⟨⟨finished, current ++ piece⟩, whole,
    begun.trans (List.isEmpty_eq_false_iff.mpr shown).symm, laid.finished,
    shows.isLine.prepend laid.current.unbroken shows.visible, ?_, ?_⟩
  · rw [whole]
    exact laid.nests.append turns
  · obtain ⟨earlier, stands⟩ := Text.aligned_concat.mp laid.aligned
    exact Text.aligned_concat.mpr ⟨earlier, fun _ => (stands before).append piece⟩

section

variable (ends : Text.Braceless layout.newline.toList)

include ends

/-- The end of a line begins an empty one. -/
theorem newLine (laid : LaidOut layout text opened cursor) :
    LaidOut layout (text ++ (Writing.newLine layout cursor).text) opened
      (Writing.newLine layout cursor).cursor := by
  obtain ⟨page, rfl, laid⟩ := laid
  have whole : Page.text layout.newline ⟨page.lines, []⟩ =
      page.text layout.newline ++ layout.newline.toList := by
    simp [Page.text, Page.lines]
  refine ⟨⟨page.lines, []⟩, whole, rfl, fun line member => ?_, Text.isLine_nil, ?_, ?_⟩
  · rcases List.mem_append.mp member with earlier | last
    · exact laid.finished line earlier
    · rw [List.mem_singleton.mp last]
      exact laid.current
  · rw [whole]
    exact laid.nests.append (ends.turns opened)
  · exact Text.aligned_concat.mpr ⟨laid.aligned, absurd rfl⟩

/-- The first piece of a line is indented by the depth, which is the level of the line. -/
theorem opening {piece : List Char} (shows : Text.Shows piece)
    (turns : Text.Turns piece opened after) (begins : cursor.atLineStart)
    (level : Text.levelOf opened piece = cursor.depth)
    (laid : LaidOut layout text opened cursor) :
    LaidOut layout (text ++ (layout.spaces cursor.depth ++ piece)) after
      { cursor with atLineStart := false } := by
  obtain ⟨⟨finished, current⟩, rfl, laid⟩ := laid
  obtain rfl : current = [] := List.isEmpty_iff.mp (laid.begins ▸ begins)
  have shown : layout.spaces cursor.depth ++ piece ≠ [] :=
    List.append_ne_nil_of_right_ne_nil _ shows.visible
  have whole : Page.text layout.newline ⟨finished, layout.spaces cursor.depth ++ piece⟩ =
      Page.text layout.newline ⟨finished, []⟩ ++ (layout.spaces cursor.depth ++ piece) := by
    simp [Page.text]
  refine ⟨⟨finished, layout.spaces cursor.depth ++ piece⟩, whole,
    (List.isEmpty_eq_false_iff.mpr shown).symm, laid.finished,
    shows.isLine.prepend (layout.not_mem_spaces _) shows.visible, ?_, ?_⟩
  · have indented : Text.Braceless (layout.spaces cursor.depth) := Text.braceless_spaces _
    rw [whole, ← List.append_assoc]
    exact (laid.nests.append (indented.turns opened)).append turns
  · -- Nothing of the line is written yet, so its level is told by the lines before it alone.
    have before : Text.openBraces finished.flatten = opened := by
      have all := laid.nests.openBraces_eq
      rwa [Page.text, List.append_nil, Text.openBraces_flatMap ends] at all
    refine Text.aligned_concat.mpr ⟨(Text.aligned_concat.mp laid.aligned).1, fun _ => ?_⟩
    rw [Layout.spaces, before, ← level]
    exact Text.stands_indented shows.visible shows.begins _ opened

/-- A piece begins a line at the level of the line, or goes on with one. -/
theorem fragment {piece : List Char} (shows : Text.Shows piece)
    (turns : Text.Turns piece opened after)
    (level : cursor.atLineStart → Text.levelOf opened piece = cursor.depth)
    (written : (Writing.fragment layout piece cursor).isRefused = false)
    (laid : LaidOut layout text opened cursor) :
    LaidOut layout (text ++ (Writing.fragment layout piece cursor).text) after
      (Writing.fragment layout piece cursor).cursor := by
  have same := Text.dropTrailing_of_getLast? shows.isLine.ending
  have visible : Text.dropTrailing '\r' piece ≠ [] := by
    rw [same]
    exact shows.visible
  cases begins : cursor.atLineStart with
  | false =>
    rw [fragment_continuing visible begins, same]
    exact laid.continuing shows turns begins
  | true =>
    cases fits : layout.fits cursor.depth with
    | true =>
      rw [fragment_opening visible begins fits, same]
      exact laid.opening ends shows turns begins (level begins)
    | false =>
      rw [fragment_refused visible begins fits] at written
      cases written

/-- A line of a single piece is written at its level, or behind what its line begins with. -/
theorem line {content : String} (shows : Text.Shows content.toList)
    (turns : Text.Turns content.toList opened after)
    (level : cursor.atLineStart → Text.levelOf opened content.toList = cursor.depth)
    (written : (Writing.line layout content cursor).isRefused = false)
    (laid : LaidOut layout text opened cursor) :
    LaidOut layout (text ++ (Writing.line layout content cursor).text) after
      (Writing.line layout content cursor).cursor := by
  have single : Writing.line layout content =
      Writing.fragment layout content.toList ++ Writing.newLine layout := by
    rw [Writing.line, write, Text.breakAt_of_not_mem shows.isLine.unbroken, fragments]
  rw [single] at written ⊢
  obtain ⟨here, -⟩ := append_isRefused.mp written
  have ended := (laid.fragment ends shows turns level here).newLine ends
  rw [append_of_written here]
  rwa [List.append_assoc] at ended

end

end LaidOut

/-! ## Emissions at their level -/

/-- Whether an emission, unless it is refused, leaves text laid out with as many open braces as its
depth says. -/
def Emission.Lays (layout : Layout) (emission : Emission) : Prop :=
  ∀ text cursor, (emission cursor).isRefused = false → LaidOut layout text cursor.depth cursor →
    LaidOut layout (text ++ (emission cursor).text) (emission cursor).cursor.depth
      (emission cursor).cursor

namespace Emission.Lays

variable {first second : Emission}

/-- Nothing leaves text as it is. -/
theorem nothing : Emission.nothing.Lays layout := by
  intro text cursor _ laid
  rwa [Emission.nothing, List.append_nil]

/-- Emissions one after the other leave text laid out. -/
theorem append (lays : first.Lays layout) (next : second.Lays layout) :
    (first ++ second).Lays layout := by
  intro text cursor written laid
  obtain ⟨here, there⟩ := append_isRefused.mp written
  have whole := next _ _ there (lays text cursor here laid)
  rw [append_of_written here]
  rwa [List.append_assoc] at whole

section

variable (ends : Text.Braceless layout.newline.toList)

include ends

/-- The end of a line leaves text laid out. -/
theorem newLine : (newLine layout).Lays layout := fun _ _ _ laid => laid.newLine ends

/-- The end of an unfinished line leaves text laid out. -/
theorem finishLine : (finishLine layout).Lays layout := by
  intro text cursor _ laid
  unfold Writing.finishLine
  split_ifs
  · exact nothing text cursor rfl laid
  · exact newLine ends text cursor rfl laid

/-- A piece without braces that does not begin with a space leaves text laid out, whether or not
anything of it is left without its trailing carriage returns. -/
theorem fragment {piece : List Char} (unbroken : '\n' ∉ piece) (braceless : Text.Braceless piece)
    (begins : piece.head? ≠ some ' ') : (fragment layout piece).Lays layout := by
  intro text cursor written laid
  have kept := Text.dropTrailing_prefix '\r' piece
  have ending := Text.getLast?_dropTrailing '\r' piece
  by_cases empty : Text.dropTrailing '\r' piece = []
  · rw [fragment_of_empty empty]
    exact nothing text cursor rfl laid
  · have same : Writing.fragment layout piece =
        Writing.fragment layout (Text.dropTrailing '\r' piece) := by
      unfold Writing.fragment
      rw [Text.dropTrailing_of_getLast? ending]
    have visible : Text.Braceless (Text.dropTrailing '\r' piece) := braceless.mono kept.subset
    have shows : Text.Shows (Text.dropTrailing '\r' piece) := by
      refine ⟨empty, ⟨Text.not_mem_dropTrailing unbroken, ending⟩, ?_⟩
      obtain ⟨dropped, whole⟩ := kept
      rwa [← whole, List.head?_append_of_ne_nil _ empty] at begins
    rw [(Emission.Within.fragment _).depth cursor, same]
    exact laid.fragment ends shows (visible.turns _) (fun _ => visible.levelOf _) (same ▸ written)

/-- Text without braces whose lines do not begin with spaces is laid out. -/
theorem write {content : String} (flush : Text.Flush content) :
    (write layout content).Lays layout := by
  refine fragments_induction (Lays layout) nothing append (newLine ends) fun piece member => ?_
  have braceless := flush.braceless.mono (Text.subset_of_mem_breakAt member)
  exact fragment ends (Text.not_mem_of_mem_breakAt member) braceless (flush.begins piece member)

/-- A line without braces that does not begin with a space is laid out. -/
theorem line {content : String} (flush : Text.Flush content) : (line layout content).Lays layout :=
  (write ends flush).append (newLine ends)

end

end Emission.Lays

/-! ## Runs at their level -/

/-- A run after some text completes and leaves the text laid out. -/
structure Run.LaidOut (layout : Layout) (text : List Char) (opened : Nat) (run : Run) : Prop where
  completes : run.failure = none
  laid : Writing.LaidOut layout (text ++ run.text) opened run.cursor

namespace Run.LaidOut

variable {text : List Char} {opened after : Nat} {cursor : Cursor} {run : Run}

/-- An emission that leaves text laid out is run. -/
theorem emit {emission : Emission} (written : (emission cursor).isRefused = false)
    (laid : Writing.LaidOut layout (text ++ (emission cursor).text) opened
      (emission cursor).cursor) :
    (Run.emit emission cursor).LaidOut layout text opened := by
  refine ⟨by simp [Run.emit, written], ?_⟩
  simpa [Run.emit, Run.text] using laid

/-- A run goes on with one that leaves the text laid out. -/
theorem andThen {second : Cursor → Run} (first : run.LaidOut layout text opened)
    (next : ∀ text, Writing.LaidOut layout text opened run.cursor →
      (second run.cursor).LaidOut layout text after) :
    (run.andThen second).LaidOut layout text after := by
  obtain ⟨events, cursor, failure⟩ := run
  obtain ⟨completes, laid⟩ := first
  obtain rfl : failure = none := completes
  obtain ⟨ends, whole⟩ := next _ laid
  refine ⟨ends, ?_⟩
  simpa [Run.andThen, Run.text, List.flatMap_append] using whole

/-- The completion of a step adds no text. -/
theorem complete (laid : run.LaidOut layout text opened) (step : StepKind) :
    (run.complete step).LaidOut layout text opened :=
  laid.andThen fun _ same => ⟨rfl, by simpa [Run.text] using same⟩

/-- An attempt without a failure adds no text. -/
theorem caught (laid : run.LaidOut layout text opened) (catching : Catching) :
    (run.caught catching).LaidOut layout text opened := by
  obtain ⟨events, cursor, failure⟩ := run
  obtain ⟨completes, same⟩ := laid
  obtain rfl : failure = none := completes
  refine ⟨rfl, ?_⟩
  simpa [Run.caught, Run.text, List.flatMap_append] using same

/-- A scope adds no text to that of its body. -/
theorem indented {body : Cursor → Run}
    (inside : (body { cursor with depth := cursor.depth + 1 }).LaidOut layout text opened) :
    (Run.indented body cursor).LaidOut layout text opened :=
  ⟨inside.completes, inside.laid.atDepth _⟩

end Run.LaidOut

/-- Whether the runs of a body of which no line is refused complete and leave text laid out with as
many open braces as the depth says at which they begin. -/
def Run.Lays (layout : Layout) (body : Cursor → Run) : Prop :=
  ∀ text cursor, (body cursor).isRefused = false → Writing.LaidOut layout text cursor.depth cursor →
    (body cursor).LaidOut layout text cursor.depth

namespace Run.Lays

variable {body : Cursor → Run}

/-- An emission that gives its depth back is run. -/
theorem emit {emission : Emission} {levels : Nat} (within : emission.Within layout levels)
    (lays : emission.Lays layout) : Run.Lays layout (Run.emit emission) := by
  intro text cursor written laid
  rw [isRefused_emit] at written
  exact .emit written (within.depth cursor ▸ lays text cursor written laid)

/-- A body goes on with one that leaves text laid out. -/
theorem andThen {second : Cursor → Run} (lays : Run.Lays layout body)
    (level : ∀ cursor, (body cursor).cursor.depth = cursor.depth) (next : Run.Lays layout second) :
    Run.Lays layout fun cursor => (body cursor).andThen second := by
  intro text cursor unrefused laid
  obtain ⟨here, there⟩ := isRefused_andThen.mp unrefused
  have first := lays text cursor here laid
  refine first.andThen fun text between => ?_
  have later := next text (body cursor).cursor (there first.completes)
  rw [level] at later
  exact later between

/-- The completion of a step leaves text as it is. -/
theorem complete (lays : Run.Lays layout body) (step : StepKind) :
    Run.Lays layout fun cursor => (body cursor).complete step :=
  fun text cursor unrefused laid =>
    (lays text cursor ((isRefused_complete step).mp unrefused) laid).complete step

/-- A body one level deeper leaves text laid out in which one more brace is open. -/
theorem deeper (lays : Run.Lays layout body) {text : List Char} {cursor : Cursor}
    (unrefused : (Run.indented body cursor).isRefused = false)
    (laid : Writing.LaidOut layout text (cursor.depth + 1) cursor) :
    (Run.indented body cursor).LaidOut layout text (cursor.depth + 1) :=
  .indented (lays text { cursor with depth := cursor.depth + 1 } unrefused (laid.atDepth _))

/-- The brace of a block is open in its body, which is one level deeper, and it is closed where the
body has ended. -/
theorem block (ends : Text.Braceless layout.newline.toList) (lays : Run.Lays layout body)
    (level : ∀ cursor, (body cursor).cursor.depth = cursor.depth) :
    Run.Lays layout (Run.block layout body) := by
  have opening : Text.Shows "\x7b".toList := ⟨by decide, ⟨by decide, by decide⟩, by decide⟩
  have closing : Text.Shows "\x7d".toList := ⟨by decide, ⟨by decide, by decide⟩, by decide⟩
  have braced : (line layout "\x7b").Within layout 0 := .line _
  have finished : (finishLine layout).Within layout 0 := .finishLine
  have inside : Run.Lays layout fun inner => (body inner).andThen (Run.emit (finishLine layout)) :=
    andThen lays level (emit finished (.finishLine ends))
  intro text cursor unrefused laid
  obtain ⟨before, last⟩ := isRefused_andThen.mp ((isRefused_complete .block).mp unrefused)
  obtain ⟨first, scope⟩ := isRefused_andThen.mp before
  rw [isRefused_emit] at first
  have entering : (Run.emit (line layout "\x7b") cursor).cursor.depth = cursor.depth :=
    braced.depth cursor
  have opened : (Run.emit (line layout "\x7b") cursor).LaidOut layout text (cursor.depth + 1) :=
    .emit first (laid.line ends opening (Text.turns_opening _) (fun _ => rfl) first)
  have nested := opened.andThen fun text entered => by
    rw [← entering] at entered
    exact entering ▸ inside.deeper (scope opened.completes) entered
  -- The depth is that of the opening brace again while the brace is still open: the line of the
  -- closing brace stands one level less deep than the braces before it say.
  have leaving := (Run.andThen_depth (Run.indented_depth (Run.finished_depth layout level))).trans
    entering
  have brace := last nested.completes
  rw [isRefused_emit] at brace
  have closed := nested.andThen fun text left => Run.LaidOut.emit brace
    (left.line ends closing (Text.turns_closing _) (fun _ => leaving.symm) brace)
  exact closed.complete .block

end Run.Lays

/-! ## Programs at their level -/

mutual

/-- Whether a step is made of lines, texts and blocks whose texts hold no brace and do not begin
their lines with spaces. -/
def Step.isBlockwise : Step → Bool
  | .line text | .write text | .textBlock text => decide (Text.Flush text)
  | .newLine => true
  | .block body | .attempt _ body => areBlockwise body
  | .indented _ | .fail _ => false

/-- Whether steps are made of lines, texts and blocks whose texts hold no brace and do not begin
their lines with spaces. -/
def areBlockwise : List Step → Bool
  | [] => true
  | step :: rest => step.isBlockwise && areBlockwise rest

end

mutual

/-- A step of lines, texts and blocks leaves text laid out. -/
theorem Step.run_lays (ends : Text.Braceless layout.newline.toList) {step : Step}
    (blockwise : step.isBlockwise) : Run.Lays layout (step.run layout) := by
  cases step with
  | line content =>
    have flush := of_decide_eq_true blockwise
    exact (Run.Lays.emit (.line content) (.line ends flush)).complete .line
  | write content =>
    have flush := of_decide_eq_true blockwise
    exact (Run.Lays.emit (.write content) (.write ends flush)).complete .write
  | newLine =>
    have within : (newLine layout).Within layout 0 := .newLine
    exact (Run.Lays.emit within (.newLine ends)).complete .newLine
  | textBlock content =>
    have flush := of_decide_eq_true blockwise
    have within : (write layout content).Within layout 0 := .write content
    exact Run.Lays.block ends (.emit within (.write ends flush)) within.depth
  | block body =>
    have inside : areBlockwise body := blockwise
    exact Run.Lays.block ends (runSteps_lays ends inside) (runSteps_depth layout body)
  | attempt catching body =>
    have inside : areBlockwise body := blockwise
    intro text cursor unrefused laid
    have all : (runSteps layout body cursor).isRefused = false :=
      (Run.isRefused_caught catching).symm.trans unrefused
    exact (runSteps_lays ends inside text cursor all laid).caught catching
  | indented body => cases blockwise
  | fail message => cases blockwise

/-- A program of lines, texts and blocks leaves text laid out. -/
theorem runSteps_lays (ends : Text.Braceless layout.newline.toList) {steps : List Step}
    (blockwise : areBlockwise steps) : Run.Lays layout (runSteps layout steps) := by
  cases steps with
  | nil => exact fun _ _ _ laid => ⟨rfl, by simpa [runSteps, Run.idle, Run.text] using laid⟩
  | cons step rest =>
    rw [areBlockwise, Bool.and_eq_true] at blockwise
    exact (Step.run_lays ends blockwise.1).andThen (Step.run_depth layout step)
      (runSteps_lays ends blockwise.2)

end

/-- The lines that are read from a page which is laid out are aligned. -/
theorem Page.Laid.aligned_feedLines {page : Page} {opened : Nat} {cursor : Cursor}
    (ended : layout.newline = "\n" ∨ layout.newline = "\r\n")
    (laid : page.Laid layout opened cursor) :
    Text.Aligned layout.indentWidth.toNat (Text.feedLines (page.text layout.newline)) := by
  have aligned := laid.aligned
  rw [Page.text, Text.feedLines_flatMap_append ended laid.finished]
  by_cases empty : page.current = []
  · have nothing : Text.feedLines [] = [] := rfl
    rw [empty, nothing, List.append_nil]
    exact (Text.aligned_concat.mp aligned).1
  · rwa [Text.feedLines_of_isLine laid.current empty]

/-- A program of lines, texts and blocks that is performed in a new document completes, and the
braces of its text nest. Each line that is not empty is indented by exactly as many levels as braces
are open before it, less one when it begins with a closing brace. The program is performed when
lines can be indented as deep as its blocks stand in each other. -/
theorem perform_braces {layout : Layout}
    (ended : layout.newline = "\n" ∨ layout.newline = "\r\n") {steps : List Step}
    (blockwise : areBlockwise steps) :
    (∀ run, perform layout steps {} = .ok run →
      run.failure = none ∧ Text.Nests run.text 0 ∧
        Text.Aligned layout.indentWidth.toNat (Text.feedLines run.text)) ∧
    (layout.fits (levelsOf steps) → ∃ run, perform layout steps {} = .ok run) := by
  constructor
  · intro run performed
    obtain ⟨unrefused, rfl⟩ := perform_eq_ok.mp performed
    have ends : Text.Braceless layout.newline.toList := by
      rcases ended with newline | newline <;> rw [newline] <;> decide
    obtain ⟨completes, page, same, laid⟩ := runSteps_lays ends blockwise [] {} unrefused .nil
    rw [List.nil_append] at same
    rw [← same]
    exact ⟨completes, laid.nests, laid.aligned_feedLines ended⟩
  · intro fits
    refine ⟨_, perform_of_fits ?_⟩
    rwa [Nat.zero_add]

/-- Blocks behind unfinished lines, with empty lines and blocks and a body of two lines. -/
def nestedBlocks : List Step :=
  [.write "a", .block [.write "b\r\n\nc", .block [], .textBlock "d\ne"], .newLine, .write "f"]

/-- Opening braces stand behind what their lines begin with, and closing braces one level less deep
than the lines before them. -/
theorem perform_braces_nestedBlocks :
    areBlockwise nestedBlocks ∧ Layout.fits ⟨2, "\r\n"⟩ (levelsOf nestedBlocks) ∧
    ∃ run, perform ⟨2, "\r\n"⟩ nestedBlocks {} = .ok run ∧
      run.text = ("a\x7b\r\n  b\r\n\r\n  c\x7b\r\n  \x7d\r\n" ++
        "  \x7b\r\n    d\r\n    e\r\n  \x7d\r\n\x7d\r\n\r\nf").toList ∧
      run.failure = none ∧ Text.Nests run.text 0 ∧ Text.Aligned 2 (Text.feedLines run.text) := by
  have blockwise : areBlockwise nestedBlocks := by decide
  have fits : Layout.fits ⟨2, "\r\n"⟩ (levelsOf nestedBlocks) := by decide
  have ended : Layout.newline ⟨2, "\r\n"⟩ = "\n" ∨ Layout.newline ⟨2, "\r\n"⟩ = "\r\n" := .inr rfl
  obtain ⟨laid, enough⟩ := perform_braces ended blockwise
  obtain ⟨run, performed⟩ := enough fits
  obtain ⟨-, rfl⟩ := perform_eq_ok.mp performed
  exact ⟨blockwise, fits, _, performed, by decide, laid _ performed⟩

/-- A block with a line is refused when the width of an indentation is below every size that there
is. -/
theorem perform_braces_refused :
    areBlockwise [.block [.line "a"]] ∧
    perform ⟨-12345678901234567890, "\n"⟩ [.block [.line "a"]] {} = .error indentationFault :=
  ⟨by decide, rfl⟩

end Writing

end ServiceStubs
