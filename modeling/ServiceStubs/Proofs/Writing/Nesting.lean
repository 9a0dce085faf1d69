import ServiceStubs.Proofs.Text.Indentation
import ServiceStubs.Proofs.Writing.Scopes

/-!
# Nested programs

What a program writes one level deeper is what it writes otherwise, with one more unit of
indentation before each line that is not empty. The two runs go side by side: their cursors differ
by one level and agree on whether a line has just begun, and it is there that the text of the outer
run tells where the inner one writes a unit more. The same steps complete and the same failures are
caught or end the run, for no step looks at the depth. Only a line that cannot be indented makes a
difference, which an inner run may have where the outer one has none; where the inner run has none,
the outer one has none either.
-/

namespace ServiceStubs.Writing

/-! ## Refused runs -/

/-- Whether an attempt completes that has caught the refusal of a line. -/
def Event.isRefused : Event → Bool
  | .completed _ _ (some .refused) => true
  | _ => false

/-- Whether a line of a run could not be indented, be it that this ends the run or that an attempt
has caught it. -/
def Run.isRefused (run : Run) : Bool :=
  run.failure = some .refused || run.events.any Event.isRefused

namespace Run

variable {layout : Layout} {levels : Nat} {run : Run} {body second : Cursor → Run}

/-- A line of an emission is refused when the emission is. -/
theorem isRefused_emit (emission : Emission) (cursor : Cursor) :
    (emit emission cursor).isRefused = (emission cursor).isRefused := by
  cases refused : (emission cursor).isRefused <;> simp [isRefused, emit, Event.isRefused, refused]

/-- No line of two runs is refused when none of the first is, and none of the second where the first
is complete. -/
theorem isRefused_andThen :
    (run.andThen second).isRefused = false ↔
      run.isRefused = false ∧ (run.failure = none → (second run.cursor).isRefused = false) := by
  obtain ⟨events, cursor, failure⟩ := run
  cases failure with
  | some interruption => simp [andThen]
  | none =>
    simp only [andThen, isRefused, List.any_append, reduceCtorEq, decide_false, Bool.false_or,
      forall_const, Bool.or_eq_false_iff]
    exact and_left_comm

/-- The completion of a step refuses no line. -/
theorem isRefused_complete (step : StepKind) :
    (run.complete step).isRefused = false ↔ run.isRefused = false := by
  rw [complete, isRefused_andThen]
  exact and_iff_left fun _ => rfl

/-- A refusal that is caught is still told. -/
theorem isRefused_caught (catching : Catching) :
    (run.caught catching).isRefused = run.isRefused := by
  obtain ⟨events, cursor, failure⟩ := run
  unfold caught
  split_ifs
  · rw [Bool.eq_iff_iff]
    cases failure with
    | none => simp [isRefused, Event.isRefused]
    | some interruption => cases interruption <;> simp [isRefused, Event.isRefused]
  · rfl

/-- Whether no line of a body is refused where lines can be indented some levels deeper. -/
def Unrefused (layout : Layout) (levels : Nat) (body : Cursor → Run) : Prop :=
  ∀ cursor : Cursor, layout.fits (cursor.depth + levels) → (body cursor).isRefused = false

namespace Unrefused

/-- More levels may be allowed. -/
theorem mono {more : Nat} (unrefused : Unrefused layout levels body) (fewer : levels ≤ more) :
    Unrefused layout more body :=
  fun cursor fits =>
    unrefused cursor (Layout.fits_mono (Nat.add_le_add_left fewer cursor.depth) fits)

/-- An emission is not refused where its lines can be indented. -/
theorem emit {emission : Emission} (within : emission.Within layout levels) :
    Unrefused layout levels (Run.emit emission) :=
  fun cursor fits => (isRefused_emit emission cursor).trans (within.written cursor fits)

/-- A body goes on at the depth at which it began. -/
theorem andThen (unrefused : Unrefused layout levels body)
    (level : ∀ cursor, (body cursor).cursor.depth = cursor.depth)
    (next : Unrefused layout levels second) :
    Unrefused layout levels fun cursor => (body cursor).andThen second := by
  intro cursor fits
  refine isRefused_andThen.mpr ⟨unrefused cursor fits, fun _ => next _ ?_⟩
  rwa [level]

/-- The completion of a step refuses no line. -/
theorem complete (unrefused : Unrefused layout levels body) (step : StepKind) :
    Unrefused layout levels fun cursor => (body cursor).complete step :=
  fun cursor fits => (isRefused_complete step).mpr (unrefused cursor fits)

/-- The lines of a scope are one level deeper. -/
theorem indented (unrefused : Unrefused layout levels body) :
    Unrefused layout (levels + 1) (Run.indented body) := by
  intro cursor fits
  refine unrefused { cursor with depth := cursor.depth + 1 } ?_
  rwa [Nat.add_assoc, Nat.add_comm 1 levels]

end Unrefused

/-- A run gives the depth back with which another one ends when what follows does. -/
theorem andThen_depth (kept : ∀ cursor, (second cursor).cursor.depth = cursor.depth) :
    (run.andThen second).cursor.depth = run.cursor.depth := by
  obtain ⟨events, cursor, failure⟩ := run
  cases failure with
  | some interruption => rfl
  | none => exact kept cursor

/-- A scope gives the depth back when its body does. -/
theorem indented_depth (level : ∀ cursor, (body cursor).cursor.depth = cursor.depth)
    (cursor : Cursor) : (indented body cursor).cursor.depth = cursor.depth :=
  congrArg (· - 1) (level { cursor with depth := cursor.depth + 1 })

/-- A body gives the depth back when the line that it leaves is finished. -/
theorem finished_depth (layout : Layout)
    (level : ∀ cursor, (body cursor).cursor.depth = cursor.depth) (cursor : Cursor) :
    ((body cursor).andThen (emit (finishLine layout))).cursor.depth = cursor.depth := by
  have finished : (finishLine layout).Within layout 0 := .finishLine
  exact (andThen_depth finished.depth).trans (level cursor)

/-- The lines of the body of a block are one level deeper than its braces. -/
theorem Unrefused.block (unrefused : Unrefused layout levels body)
    (level : ∀ cursor, (body cursor).cursor.depth = cursor.depth) :
    Unrefused layout (levels + 1) (Run.block layout body) := by
  have brace (content : String) : (line layout content).Within layout (levels + 1) :=
    (Emission.Within.line content).mono (Nat.zero_le _)
  have finished : (finishLine layout).Within layout levels := .finishLine
  have inside := (unrefused.andThen level (emit finished)).indented
  have entered := (emit (brace "\x7b")).andThen (brace "\x7b").depth inside
  have entering (cursor : Cursor) : ((Run.emit (line layout "\x7b") cursor).andThen
      (Run.indented fun inner =>
        (body inner).andThen (Run.emit (finishLine layout)))).cursor.depth =
        cursor.depth :=
    (andThen_depth (indented_depth (finished_depth layout level))).trans
      ((brace "\x7b").depth cursor)
  exact (entered.andThen entering (emit (brace "\x7d"))).complete .block

end Run

mutual

/-- How many scopes of a step stand in each other at most. -/
def Step.levels : Step → Nat
  | .textBlock _ => 1
  | .block body | .indented body => levelsOf body + 1
  | .attempt _ body => levelsOf body
  | .line _ | .write _ | .newLine | .fail _ => 0

/-- How many scopes of some steps stand in each other at most. -/
def levelsOf : List Step → Nat
  | [] => 0
  | step :: rest => max step.levels (levelsOf rest)

end

mutual

/-- No line of a step is refused where lines can be indented as deep as its scopes stand in each
other. -/
theorem Step.run_unrefused (layout : Layout) (step : Step) :
    Run.Unrefused layout step.levels (step.run layout) := by
  cases step with
  | line text => exact (Run.Unrefused.emit (.line text)).complete .line
  | write text => exact (Run.Unrefused.emit (.write text)).complete .write
  | newLine => exact (Run.Unrefused.emit .newLine).complete .newLine
  | textBlock text =>
    have within : (write layout text).Within layout 0 := .write text
    exact (Run.Unrefused.emit within).block within.depth
  | block body => exact (runSteps_unrefused layout body).block (runSteps_depth layout body)
  | indented body => exact (runSteps_unrefused layout body).indented.complete .indented
  | fail message => exact fun _ _ => rfl
  | attempt catching body =>
    exact fun cursor fits =>
      (Run.isRefused_caught catching).trans (runSteps_unrefused layout body cursor fits)

/-- No line of a run is refused where lines can be indented as deep as its scopes stand in each
other. -/
theorem runSteps_unrefused (layout : Layout) (steps : List Step) :
    Run.Unrefused layout (levelsOf steps) (runSteps layout steps) := by
  cases steps with
  | nil => exact fun _ _ => rfl
  | cons step rest =>
    have here := (Step.run_unrefused layout step).mono (Nat.le_max_left _ (levelsOf rest))
    have later := (runSteps_unrefused layout rest).mono (Nat.le_max_right step.levels _)
    exact here.andThen (step.run_depth layout) later

end

/-! ## Two runs side by side -/

/-- The cursor of a run and that of one which is one level deeper. -/
structure Cursor.Deeper (outer inner : Cursor) : Prop where
  depth : inner.depth = outer.depth + 1
  atLineStart : inner.atLineStart = outer.atLineStart

/-- What is written from a cursor and from one that is one level deeper: no line is refused, and the
inner text is the outer one with a unit before each line that is not empty. -/
structure Shifted (layout : Layout) (outer : Cursor) (plain nested : Written) : Prop where
  written : plain.isRefused = false
  deeper : plain.cursor.Deeper nested.cursor
  begins : plain.cursor.atLineStart = Text.lineBegins outer.atLineStart plain.text
  text : nested.text = Text.indentFrom layout.unit outer.atLineStart plain.text

/-- Nothing is shifted where nothing is written. -/
theorem Shifted.nothing {layout : Layout} {outer inner : Cursor} (deeper : outer.Deeper inner) :
    Shifted layout outer { text := [], cursor := outer } { text := [], cursor := inner } :=
  ⟨rfl, deeper, rfl, rfl⟩

/-- What is written in two parts is shifted when both parts are. -/
theorem Shifted.trans {layout : Layout} {outer : Cursor}
    {plain nested morePlain moreNested : Written} (first : Shifted layout outer plain nested)
    (second : Shifted layout plain.cursor morePlain moreNested) :
    Shifted layout outer { morePlain with text := plain.text ++ morePlain.text }
      { moreNested with text := nested.text ++ moreNested.text } where
  written := second.written
  deeper := second.deeper
  begins := by rw [Text.lineBegins_append, ← first.begins, second.begins]
  text := by rw [Text.indentFrom_append, ← first.begins, ← first.text, ← second.text]

/-- An emission that is not refused one level deeper writes shifted text there. -/
def Emission.Shifts (layout : Layout) (emission : Emission) : Prop :=
  ∀ outer inner : Cursor, outer.Deeper inner → (emission inner).isRefused = false →
    Shifted layout outer (emission outer) (emission inner)

namespace Emission.Shifts

variable {layout : Layout} {width : Int} {first second : Emission}

/-- An emission of nothing is shifted. -/
theorem nothing : Emission.nothing.Shifts layout :=
  fun _ _ deeper _ => .nothing deeper

/-- Emissions one after the other write shifted text one after the other. -/
theorem append (shifts : first.Shifts layout) (next : second.Shifts layout) :
    (first ++ second).Shifts layout := by
  intro outer inner deeper written
  obtain ⟨here, there⟩ := append_isRefused.mp written
  have before := shifts outer inner deeper here
  rw [append_of_written before.written, append_of_written here]
  exact before.trans (next _ _ before.deeper there)

/-- A line feed is not indented, and a line begins after it. -/
theorem newLine : (newLine ⟨width, "\n"⟩).Shifts ⟨width, "\n"⟩ :=
  fun _ _ deeper _ =>
    { written := rfl
      deeper := ⟨deeper.depth, rfl⟩
      begins := by simp [Writing.newLine, Text.lineBegins]
      text := by simp [Writing.newLine, Text.indentFrom] }

/-- A piece of a line has one unit more before it where a line begins. -/
theorem fragment {piece : List Char} (unbroken : '\n' ∉ piece) :
    (fragment layout piece).Shifts layout := by
  intro outer inner deeper written
  have kept : '\n' ∉ Text.dropTrailing '\r' piece := Text.not_mem_dropTrailing unbroken
  by_cases empty : Text.dropTrailing '\r' piece = []
  · rw [fragment_of_empty empty, fragment_of_empty empty]
    exact .nothing deeper
  cases begins : outer.atLineStart with
  | false =>
    rw [fragment_continuing empty begins, fragment_continuing empty (deeper.atLineStart ▸ begins)]
    refine ⟨rfl, deeper, ?_, ?_⟩
    · rw [begins, Text.lineBegins_of_not_mem kept empty]
    · rw [begins, Text.indentFrom_false_of_not_mem kept]
  | true =>
    have both : inner.atLineStart = true := deeper.atLineStart ▸ begins
    cases fits : layout.fits inner.depth with
    | false =>
      rw [fragment_refused empty both fits] at written
      cases written
    | true =>
      have outside : layout.fits outer.depth := by
        rw [deeper.depth] at fits
        exact Layout.fits_mono (Nat.le_succ _) fits
      have whole : '\n' ∉ layout.spaces outer.depth ++ Text.dropTrailing '\r' piece := by
        rw [List.mem_append, not_or]
        exact ⟨layout.not_mem_spaces outer.depth, kept⟩
      have visible : layout.spaces outer.depth ++ Text.dropTrailing '\r' piece ≠ [] :=
        List.append_ne_nil_of_right_ne_nil _ empty
      rw [fragment_opening empty begins outside, fragment_opening empty both fits]
      refine ⟨rfl, ⟨deeper.depth, rfl⟩, (Text.lineBegins_of_not_mem whole visible).symm, ?_⟩
      rw [begins, Text.indentFrom_true_of_not_mem whole visible, deeper.depth,
        Layout.spaces_succ, List.append_assoc]

/-- Pieces on lines of their own are indented by one unit more. -/
theorem fragments {pieces : List (List Char)} (unbroken : ∀ piece ∈ pieces, '\n' ∉ piece) :
    (fragments ⟨width, "\n"⟩ pieces).Shifts ⟨width, "\n"⟩ :=
  fragments_induction (Shifts ⟨width, "\n"⟩) nothing append newLine
    fun piece member => fragment (unbroken piece member)

/-- Written text is indented by one unit more. -/
theorem write (content : String) : (write ⟨width, "\n"⟩ content).Shifts ⟨width, "\n"⟩ :=
  fragments fun _ member => Text.not_mem_of_mem_breakAt member

/-- A line is indented by one unit more. -/
theorem line (content : String) : (line ⟨width, "\n"⟩ content).Shifts ⟨width, "\n"⟩ :=
  (write content).append newLine

/-- A line is unfinished one level deeper where it is unfinished. -/
theorem finishLine : (finishLine ⟨width, "\n"⟩).Shifts ⟨width, "\n"⟩ := by
  intro outer inner deeper written
  have begun := deeper.atLineStart
  unfold Writing.finishLine
  cases begins : outer.atLineStart with
  | true =>
    rw [begun, begins]
    exact nothing outer inner deeper rfl
  | false =>
    rw [begun, begins]
    exact newLine outer inner deeper rfl

end Emission.Shifts

/-- The steps that complete in a run in order, with the failures that attempts have caught. -/
def Run.completed (run : Run) : List (StepKind × Option Interruption) :=
  run.events.filterMap fun
    | .added _ => none
    | .completed step _ caught => some (step, caught)

/-- All that a run writes. -/
def Run.written (run : Run) : Written :=
  { text := run.text, cursor := run.cursor, isRefused := run.isRefused }

/-- A run and one that is one level deeper: the text is shifted, the same steps complete, and the
same failure ends them, if one does. -/
structure Run.Shifted (layout : Layout) (outer : Cursor) (plain nested : Run) : Prop where
  written : Writing.Shifted layout outer plain.written nested.written
  completed : nested.completed = plain.completed
  failure : nested.failure = plain.failure

/-- A body runs shifted one level deeper when none of its lines is refused there. -/
def Run.Shifts (layout : Layout) (body : Cursor → Run) : Prop :=
  ∀ outer inner : Cursor, outer.Deeper inner → (body inner).isRefused = false →
    Run.Shifted layout outer (body outer) (body inner)

/-- What two runs write one after the other. -/
theorem Run.written_andThen {run : Run} {second : Cursor → Run} (complete : run.failure = none)
    (unrefused : run.isRefused = false) :
    (run.andThen second).written =
      { (second run.cursor).written with
        text := run.text ++ (second run.cursor).written.text } := by
  obtain ⟨events, cursor, failure⟩ := run
  obtain rfl : failure = none := complete
  have uncaught : events.any Event.isRefused = false := by simpa [isRefused] using unrefused
  simp only [written, andThen, text, isRefused, List.flatMap_append, List.any_append, uncaught,
    Bool.false_or]
  rfl

namespace Run.Shifts

variable {layout : Layout} {body second : Cursor → Run}

/-- An emission that writes shifted text runs shifted. -/
theorem emit {emission : Emission} (shifts : emission.Shifts layout) :
    Run.Shifts layout (Run.emit emission) := by
  intro outer inner deeper written
  rw [isRefused_emit] at written
  have here := shifts outer inner deeper written
  have same (cursor : Cursor) : (Run.emit emission cursor).written = emission cursor := by
    rw [Run.written, isRefused_emit]
    simp [Run.text, Run.emit]
  refine ⟨by rwa [same, same], rfl, ?_⟩
  simp [Run.emit, written, here.written]

/-- Bodies one after the other are shifted one after the other. -/
theorem andThen (shifts : Run.Shifts layout body) (next : Run.Shifts layout second) :
    Run.Shifts layout fun cursor => (body cursor).andThen second := by
  intro outer inner deeper unrefused
  obtain ⟨here, there⟩ := isRefused_andThen.mp unrefused
  have before := shifts outer inner deeper here
  have outside : (body outer).isRefused = false := before.written.written
  cases failed : (body inner).failure with
  | some interruption =>
    have same : (body outer).failure = some interruption := before.failure ▸ failed
    simp only [Run.andThen, failed, same]
    exact before
  | none =>
    have same : (body outer).failure = none := before.failure ▸ failed
    have later := next _ _ before.written.deeper (there failed)
    have completed := before.completed
    have last := later.completed
    refine ⟨?_, ?_, ?_⟩
    · rw [written_andThen same outside, written_andThen failed here]
      exact before.written.trans later.written
    · simp only [Run.completed, Run.andThen, failed, same, List.filterMap_append]
        at completed last ⊢
      rw [completed]
      exact congrArg _ last
    · simp only [Run.andThen, failed, same]
      exact later.failure

/-- The same step completes one level deeper. -/
theorem complete (shifts : Run.Shifts layout body) (step : StepKind) :
    Run.Shifts layout fun cursor => (body cursor).complete step :=
  shifts.andThen fun _ _ deeper _ => ⟨.nothing deeper, rfl, rfl⟩

/-- The same failure is caught one level deeper. -/
theorem caught (shifts : Run.Shifts layout body) (catching : Catching) :
    Run.Shifts layout fun cursor => (body cursor).caught catching := by
  intro outer inner deeper unrefused
  rw [isRefused_caught] at unrefused
  have here := shifts outer inner deeper unrefused
  have written (run : Run) : (run.caught catching).written = run.written := by
    rw [Run.written, Run.written, isRefused_caught]
    unfold Run.caught
    split_ifs <;> simp [Run.text]
  refine ⟨by rw [written, written]; exact here.written, ?_, ?_⟩
  · have completed := here.completed
    unfold Run.caught
    dsimp only
    rw [here.failure]
    split_ifs
    · simp only [Run.completed, List.filterMap_append] at completed ⊢
      rw [completed]
      rfl
    · exact completed
  · unfold Run.caught
    dsimp only
    rw [here.failure]
    split_ifs
    · rfl
    · exact here.failure

/-- A scope is shifted when its body is, and gives its level back. -/
theorem indented (shifts : Run.Shifts layout body)
    (level : ∀ cursor, (body cursor).cursor.depth = cursor.depth) :
    Run.Shifts layout (Run.indented body) := by
  intro outer inner deeper unrefused
  have entered : Cursor.Deeper { outer with depth := outer.depth + 1 }
      { inner with depth := inner.depth + 1 } :=
    ⟨congrArg (· + 1) deeper.depth, deeper.atLineStart⟩
  have inside := shifts _ _ entered unrefused
  have written := inside.written
  have left : (Run.indented body outer).cursor.Deeper (Run.indented body inner).cursor := by
    refine ⟨?_, written.deeper.atLineStart⟩
    rw [Run.indented_depth level, Run.indented_depth level]
    exact deeper.depth
  exact ⟨⟨written.written, left, written.begins, written.text⟩, inside.completed, inside.failure⟩

/-- A block is shifted when its body is. -/
theorem block {width : Int} (shifts : Run.Shifts ⟨width, "\n"⟩ body)
    (level : ∀ cursor, (body cursor).cursor.depth = cursor.depth) :
    Run.Shifts ⟨width, "\n"⟩ (Run.block ⟨width, "\n"⟩ body) := by
  have brace (content : String) :
      Run.Shifts ⟨width, "\n"⟩ (Run.emit (line ⟨width, "\n"⟩ content)) := emit (.line content)
  have inside := (shifts.andThen (emit .finishLine)).indented (Run.finished_depth _ level)
  exact (((brace "\x7b").andThen inside).andThen (brace "\x7d")).complete .block

end Run.Shifts

mutual

/-- A step runs shifted one level deeper. -/
theorem Step.run_shifts (width : Int) (step : Step) :
    Run.Shifts ⟨width, "\n"⟩ (step.run ⟨width, "\n"⟩) := by
  cases step with
  | line text => exact (Run.Shifts.emit (.line text)).complete .line
  | write text => exact (Run.Shifts.emit (.write text)).complete .write
  | newLine => exact (Run.Shifts.emit .newLine).complete .newLine
  | textBlock text =>
    have within : (write ⟨width, "\n"⟩ text).Within ⟨width, "\n"⟩ 0 := .write text
    exact Run.Shifts.block (.emit (.write text)) within.depth
  | block body => exact (runSteps_shifts width body).block (runSteps_depth _ body)
  | indented body =>
    exact ((runSteps_shifts width body).indented (runSteps_depth _ body)).complete .indented
  | fail message => exact fun _ _ deeper _ => ⟨.nothing deeper, rfl, rfl⟩
  | attempt catching body => exact (runSteps_shifts width body).caught catching

/-- A program runs shifted one level deeper. -/
theorem runSteps_shifts (width : Int) (steps : List Step) :
    Run.Shifts ⟨width, "\n"⟩ (runSteps ⟨width, "\n"⟩ steps) := by
  cases steps with
  | nil => exact fun _ _ deeper _ => ⟨.nothing deeper, rfl, rfl⟩
  | cons step rest => exact (Step.run_shifts width step).andThen (runSteps_shifts width rest)

end

/-! ## Lines that cannot be indented -/

/-- The run of steps, or a fault when one of its lines cannot be indented, whether or not an attempt
catches that. -/
def perform (layout : Layout) (steps : List Step) (cursor : Cursor) : Except Source.Fault Run :=
  let run := runSteps layout steps cursor
  if run.isRefused then .error indentationFault else .ok run

/-- Steps are performed when no line of their run is refused. -/
theorem perform_eq_ok {layout : Layout} {steps : List Step} {cursor : Cursor} {run : Run} :
    perform layout steps cursor = .ok run ↔
      (runSteps layout steps cursor).isRefused = false ∧ runSteps layout steps cursor = run := by
  unfold perform
  dsimp only
  split_ifs with refused <;> simp [refused]

/-- Steps are performed when lines can be indented as deep as their scopes stand in each other. -/
theorem perform_of_fits {layout : Layout} {steps : List Step} {cursor : Cursor}
    (fits : layout.fits (cursor.depth + levelsOf steps)) :
    perform layout steps cursor = .ok (runSteps layout steps cursor) :=
  perform_eq_ok.mpr ⟨runSteps_unrefused layout steps cursor fits, rfl⟩

/-- A scope around steps adds its own completion to their run one level deeper, if they complete. -/
theorem runSteps_indented (layout : Layout) (steps : List Step) (cursor : Cursor) :
    runSteps layout [.indented steps] cursor =
      let inside := runSteps layout steps { cursor with depth := cursor.depth + 1 }
      { events := inside.events ++
          (if inside.failure.isNone then [.completed .indented cursor.depth none] else [])
        cursor := { inside.cursor with depth := cursor.depth }
        failure := inside.failure } := by
  have level := runSteps_depth layout steps { cursor with depth := cursor.depth + 1 }
  simp only [runSteps, Step.run, Run.indented, Run.complete, level]
  cases (runSteps layout steps { cursor with depth := cursor.depth + 1 }).failure with
  | some message => simp [Run.andThen]
  | none => simp [Run.andThen, Run.idle]

/-- A line is refused in a scope around steps when one is refused in their run one level deeper. -/
theorem isRefused_runSteps_indented (layout : Layout) (steps : List Step) (cursor : Cursor) :
    (runSteps layout [.indented steps] cursor).isRefused =
      (runSteps layout steps { cursor with depth := cursor.depth + 1 }).isRefused := by
  rw [runSteps_indented]
  unfold Run.isRefused
  dsimp only
  rw [List.any_append]
  split_ifs <;> simp [Event.isRefused]

/-- When steps that begin a line are performed in one more scope, they are performed without it as
well. In the scope the text has one unit more before each line that is not empty, the same steps
complete, and then the scope, and the same failures are caught or end the run. The steps are
performed in the scope when lines can be indented as deep as their scopes stand in each other. -/
theorem perform_indented (width : Int) (steps : List Step) {cursor : Cursor}
    (fresh : cursor.atLineStart) :
    (∀ nested, perform ⟨width, "\n"⟩ [.indented steps] cursor = .ok nested →
      ∃ plain, perform ⟨width, "\n"⟩ steps cursor = .ok plain ∧
        nested.text = Text.indentLines (List.replicate width.toNat ' ') plain.text ∧
        nested.completed = plain.completed ++
          (if plain.failure.isNone then [(.indented, none)] else []) ∧
        nested.failure = plain.failure ∧
        nested.cursor.depth = plain.cursor.depth ∧
        nested.cursor.atLineStart = plain.cursor.atLineStart) ∧
    (Layout.fits ⟨width, "\n"⟩ (cursor.depth + (levelsOf steps + 1)) →
      ∃ nested, perform ⟨width, "\n"⟩ [.indented steps] cursor = .ok nested) := by
  constructor
  · intro nested performed
    obtain ⟨unrefused, rfl⟩ := perform_eq_ok.mp performed
    have deeper : cursor.Deeper { cursor with depth := cursor.depth + 1 } := ⟨rfl, rfl⟩
    have shifted := runSteps_shifts width steps _ _ deeper
      ((isRefused_runSteps_indented _ steps cursor).symm.trans unrefused)
    rw [runSteps_indented]
    refine ⟨_, perform_eq_ok.mpr ⟨shifted.written.written, rfl⟩, ?_, ?_, shifted.failure, ?_, ?_⟩
    · have text : (runSteps ⟨width, "\n"⟩ steps { cursor with depth := cursor.depth + 1 }).text =
          Text.indentFrom (List.replicate width.toNat ' ') cursor.atLineStart
            (runSteps ⟨width, "\n"⟩ steps cursor).text := shifted.written.text
      rw [Run.text, List.flatMap_append, ← Run.text, text, fresh, Text.indentFrom_true]
      split_ifs <;> exact List.append_nil _
    · rw [← shifted.failure, ← shifted.completed, Run.completed, List.filterMap_append,
        ← Run.completed]
      split_ifs <;> rfl
    · exact (runSteps_depth _ steps cursor).symm
    · exact shifted.written.deeper.atLineStart
  · intro fits
    refine ⟨_, perform_of_fits ?_⟩
    rwa [levelsOf, Step.levels, levelsOf, Nat.max_zero]

/-- A text with an empty line, and a block that a failure leaves in the middle of a line. -/
def leftBlock : List Step :=
  [.write "a\n\nb", .attempt .raised [.block [.write "\r\n\rc", .fail "stop"]],
    .line "d"]

/-- The line that the failure leaves is finished by the next step, and is indented once. -/
theorem perform_indented_leftBlock :
    ({} : Cursor).atLineStart ∧ Layout.fits ⟨2, "\n"⟩ 2 ∧
    ∃ nested plain, perform ⟨2, "\n"⟩ [.indented leftBlock] {} = .ok nested ∧
      perform ⟨2, "\n"⟩ leftBlock {} = .ok plain ∧
      plain.text = "a\n\nb\x7b\n\n  \rcd\n".toList ∧
      nested.text = "  a\n\n  b\x7b\n\n    \rcd\n".toList ∧
      nested.text = Text.indentLines [' ', ' '] plain.text ∧
      nested.completed =
        [(.write, none), (.write, none), (.attempt, some (.raised "stop")), (.line, none),
          (.indented, none)] := by
  have fresh : ({} : Cursor).atLineStart := rfl
  obtain ⟨shifts, enough⟩ := perform_indented 2 leftBlock fresh
  obtain ⟨nested, performed⟩ := enough (by decide)
  obtain ⟨plain, outer, text, completed, -⟩ := shifts nested performed
  obtain ⟨-, rfl⟩ := perform_eq_ok.mp outer
  obtain ⟨-, rfl⟩ := perform_eq_ok.mp performed
  exact ⟨fresh, by decide, _, _, performed, outer, by decide, by decide, text, by decide⟩

/-- A line may be refused one level deeper that has no indentation where it stands, when the width
of an indentation is below every size that there is. -/
theorem perform_indented_refused :
    (∃ plain, perform ⟨-12345678901234567890, "\n"⟩ [.line "a"] {} = .ok plain ∧
      plain.text = "a\n".toList) ∧
    perform ⟨-12345678901234567890, "\n"⟩ [.indented [.line "a"]] {} = .error indentationFault :=
  ⟨⟨_, rfl, rfl⟩, rfl⟩

end ServiceStubs.Writing
