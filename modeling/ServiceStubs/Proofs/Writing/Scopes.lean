import ServiceStubs.Proofs.Writing.Depth
import ServiceStubs.Writing.Program

/-!
# Scopes of a run

A run passes through points: one before each step, one after each event, one where a scope is
entered and one where it is left. An account tells a run point by point, and at each of them how
many block bodies and indented scopes enclose it; without this count it is the run. The count
follows the program, not the cursor, so it can be compared with the depth: at every point the depth
is that of the start and one more for each enclosing scope. A failure leaves its scopes on the way
out, whether a step fails with a message or a line inside them cannot be indented, so this holds
also after an attempt has caught it and at the end of a run that it ends.
-/

namespace ServiceStubs.Writing

/-! ## Accounts -/

/-- A point of a run. -/
structure Point where
  /-- How many block bodies and indented scopes enclose the point. -/
  enclosing : Nat
  /-- What has happened just before, if anything has. -/
  event : Option Event := none
  cursor : Cursor
deriving DecidableEq, Repr, Inhabited

/-- A point as it is told from outside one more scope. -/
def Point.enclosed (point : Point) : Point := { point with enclosing := point.enclosing + 1 }

/-- A run that is told by its points. -/
structure Account where
  /-- Points in order. -/
  points : List Point
  /-- The cursor when the run ends. -/
  cursor : Cursor
  /-- The failure that ends the run, if one does. -/
  failure : Option Interruption := none
deriving DecidableEq, Repr, Inhabited

namespace Account

/-- The run that an account tells. -/
def run (account : Account) : Run :=
  { events := account.points.filterMap Point.event
    cursor := account.cursor
    failure := account.failure }

/-- A single point at which nothing happens. -/
def still (cursor : Cursor) : Account := { points := [{ enclosing := 0, cursor }], cursor }

/-- The text of an emission is added, up to a line that is refused. -/
def emit (emission : Emission) (cursor : Cursor) : Account :=
  let written := emission cursor
  { points := [⟨0, some (.added written.text), written.cursor⟩]
    cursor := written.cursor
    failure := if written.isRefused then some .refused else none }

/-- An account followed by another one, unless its run failed. -/
def andThen (first : Account) (second : Cursor → Account) : Account :=
  match first.failure with
  | some _ => first
  | none =>
    let next := second first.cursor
    { next with points := first.points ++ next.points }

/-- An account followed by the completion of its step, unless its run failed. -/
def complete (account : Account) (step : StepKind) : Account :=
  account.andThen fun cursor =>
    { points := [⟨0, some (.completed step cursor.depth none), cursor⟩], cursor }

/-- A scope around a body: it is entered, and left whether or not the body fails. -/
def indented (body : Cursor → Account) (cursor : Cursor) : Account :=
  let entered := { cursor with depth := cursor.depth + 1 }
  let account := body entered
  let left := { account.cursor with depth := account.cursor.depth - 1 }
  { account with
    points := { enclosing := 1, cursor := entered } :: account.points.map Point.enclosed ++
      [{ enclosing := 0, cursor := left }]
    cursor := left }

/-- An account of a run whose failure, if there is one of a kind, is caught. -/
def caught (catching : Catching) (account : Account) : Account :=
  if account.failure.all catching.catches then
    { points := account.points ++
        [⟨0, some (.completed .attempt account.cursor.depth account.failure), account.cursor⟩]
      cursor := account.cursor }
  else account

/-- The account of a block around a body. -/
def block (layout : Layout) (body : Cursor → Account) (cursor : Cursor) : Account :=
  let opened := emit (line layout "\x7b") cursor
  let inside := opened.andThen <| indented fun inner =>
    (body inner).andThen (emit (finishLine layout))
  (inside.andThen (emit (line layout "\x7d"))).complete .block

end Account

mutual

/-- The account of one step. -/
def Step.account (layout : Layout) : Step → Cursor → Account
  | .line text, cursor => (Account.emit (Writing.line layout text) cursor).complete .line
  | .write text, cursor => (Account.emit (Writing.write layout text) cursor).complete .write
  | .newLine, cursor => (Account.emit (Writing.newLine layout) cursor).complete .newLine
  | .textBlock text, cursor =>
    Account.block layout (Account.emit (Writing.write layout text)) cursor
  | .block body, cursor => Account.block layout (accountOf layout body) cursor
  | .indented body, cursor =>
    (Account.indented (accountOf layout body) cursor).complete .indented
  | .fail message, cursor => { points := [], cursor, failure := some (.raised message) }
  | .attempt catching body, cursor => (accountOf layout body cursor).caught catching

/-- The account of steps in order, up to the first that fails. -/
def accountOf (layout : Layout) : List Step → Cursor → Account
  | [], cursor => .still cursor
  | step :: rest, cursor => (Account.still cursor).andThen fun before =>
    (step.account layout before).andThen (accountOf layout rest)

end

/-! ## The run that is told -/

namespace Account

variable {layout : Layout}

/-- An emission is told as a run of it. -/
theorem run_emit (emission : Emission) (cursor : Cursor) :
    (emit emission cursor).run = Run.emit emission cursor := rfl

/-- Accounts one after the other tell runs one after the other. -/
theorem run_andThen (first : Account) {second : Cursor → Account} {other : Cursor → Run}
    (same : ∀ cursor, (second cursor).run = other cursor) :
    (first.andThen second).run = first.run.andThen other := by
  obtain ⟨points, cursor, failure⟩ := first
  cases failure with
  | some message => rfl
  | none =>
    simp only [andThen, run, Run.andThen, List.filterMap_append, ← same]

/-- The completion of a step is told after its account. -/
theorem run_complete (account : Account) (step : StepKind) :
    (account.complete step).run = account.run.complete step :=
  account.run_andThen fun _ => rfl

/-- What encloses a body adds no event. -/
theorem run_indented {body : Cursor → Account} {other : Cursor → Run}
    (same : ∀ cursor, (body cursor).run = other cursor) (cursor : Cursor) :
    (indented body cursor).run = Run.indented other cursor := by
  have events (points : List Point) :
      (points.map Point.enclosed).filterMap Point.event = points.filterMap Point.event :=
    List.filterMap_map
  simp only [indented, run, Run.indented, ← same, List.cons_append, List.filterMap_cons,
    List.filterMap_append, events, List.filterMap_nil, List.append_nil]

/-- The catch of a failure is told after the account. -/
theorem run_caught (catching : Catching) (account : Account) :
    (account.caught catching).run = account.run.caught catching := by
  have same : account.run.failure = account.failure := rfl
  unfold caught Run.caught
  rw [same]
  split_ifs
  · simp only [run, List.filterMap_append, List.filterMap_cons, List.filterMap_nil]
  · rfl

/-- A block is told by an account of its body. -/
theorem run_block {body : Cursor → Account} {other : Cursor → Run}
    (same : ∀ cursor, (body cursor).run = other cursor) (cursor : Cursor) :
    (block layout body cursor).run = Run.block layout other cursor := by
  have inside (inner : Cursor) : ((body inner).andThen (emit (finishLine layout))).run =
      (other inner).andThen (Run.emit (finishLine layout)) := by
    rw [run_andThen _ (run_emit _), same]
  unfold block Run.block
  dsimp only
  rw [run_complete, run_andThen _ (run_emit _), run_andThen _ (run_indented inside), run_emit]

end Account

mutual

/-- The account of a step tells its run. -/
theorem Step.run_account (layout : Layout) (step : Step) (cursor : Cursor) :
    (step.account layout cursor).run = step.run layout cursor := by
  cases step with
  | textBlock text => exact Account.run_block (fun _ => rfl) cursor
  | block body => exact Account.run_block (run_accountOf layout body) cursor
  | indented body =>
    rw [Step.account, Step.run, Account.run_complete,
      Account.run_indented (run_accountOf layout body)]
  | fail message => rfl
  | attempt catching body =>
    rw [Step.account, Step.run, Account.run_caught, run_accountOf layout body]
  | _ => exact Account.run_complete _ _

/-- The account of steps tells their run. -/
theorem run_accountOf (layout : Layout) (steps : List Step) (cursor : Cursor) :
    (accountOf layout steps cursor).run = runSteps layout steps cursor := by
  cases steps with
  | nil => rfl
  | cons step rest =>
    have here (before : Cursor) :
        ((step.account layout before).andThen (accountOf layout rest)).run =
          (step.run layout before).andThen (runSteps layout rest) := by
      rw [Account.run_andThen _ (run_accountOf layout rest), Step.run_account layout step before]
    rw [accountOf, runSteps, Account.run_andThen _ here]
    rfl

end

/-! ## The depth at a point -/

/-- The depth at a point is that of the start and one more for each scope that encloses the point,
and a step that completes there tells it. -/
structure Point.Level (start : Nat) (point : Point) : Prop where
  depth : point.cursor.depth = start + point.enclosing
  told : ∀ step depth caught, point.event = some (.completed step depth caught) →
    depth = start + point.enclosing

/-- An account keeps the depth of its start, up to the scopes that enclose its points. -/
structure Account.Levelled (start : Cursor) (account : Account) : Prop where
  level : ∀ point ∈ account.points, point.Level start.depth
  depth : account.cursor.depth = start.depth

namespace Account.Levelled

variable {levels : Nat} {start : Cursor} {account : Account} {layout : Layout}

/-- Where nothing happens the depth stays. -/
theorem still : (Account.still start).Levelled start where
  level point member := by
    obtain rfl := List.mem_singleton.mp member
    exact ⟨rfl, fun _ _ _ happened => by cases happened⟩
  depth := rfl

/-- An emission gives the depth back, also when it is refused. -/
theorem emit {emission : Emission} (within : emission.Within layout levels) :
    (Account.emit emission start).Levelled start where
  level point member := by
    obtain rfl := List.mem_singleton.mp member
    exact ⟨within.depth start, fun _ _ _ happened => by cases happened⟩
  depth := within.depth start

/-- Accounts one after the other keep one depth. -/
theorem andThen {second : Cursor → Account} (levelled : account.Levelled start)
    (next : ∀ cursor, (second cursor).Levelled cursor) :
    (account.andThen second).Levelled start := by
  obtain ⟨points, cursor, failure⟩ := account
  cases failure with
  | some interruption => exact levelled
  | none =>
    have same : cursor.depth = start.depth := levelled.depth
    have later := next cursor
    refine ⟨fun point member => ?_, later.depth.trans same⟩
    rcases List.mem_append.mp member with earlier | inNext
    · exact levelled.level point earlier
    · exact same ▸ later.level point inNext

/-- A step completes at the depth at which it began. -/
theorem complete (levelled : account.Levelled start) (step : StepKind) :
    (account.complete step).Levelled start :=
  levelled.andThen fun cursor =>
    { level := fun point member => by
        obtain rfl := List.mem_singleton.mp member
        refine ⟨rfl, fun _ _ _ happened => ?_⟩
        cases happened
        rfl
      depth := rfl }

/-- A scope is one level deeper than what encloses it, and gives its level back. -/
theorem indented {body : Cursor → Account} (levelled : ∀ cursor, (body cursor).Levelled cursor) :
    (Account.indented body start).Levelled start := by
  have inside := levelled { start with depth := start.depth + 1 }
  refine ⟨fun point member => ?_, congrArg (· - 1) inside.depth⟩
  rcases List.mem_append.mp member with entered | left
  · rcases List.mem_cons.mp entered with rfl | enclosed
    · exact ⟨rfl, fun _ _ _ happened => by cases happened⟩
    · obtain ⟨inner, inBody, rfl⟩ := List.mem_map.mp enclosed
      have level := inside.level inner inBody
      have count : start.depth + 1 + inner.enclosing = start.depth + inner.enclosed.enclosing :=
        Nat.add_right_comm _ _ _
      exact ⟨level.depth.trans count, fun step depth caught happened =>
        (level.told step depth caught happened).trans count⟩
  · obtain rfl := List.mem_singleton.mp left
    exact ⟨congrArg (· - 1) inside.depth, fun _ _ _ happened => by cases happened⟩

/-- A failure is caught at the depth at which its attempt began, and one that is not caught has left
all scopes of the attempt. -/
theorem caught (catching : Catching) (levelled : account.Levelled start) :
    (account.caught catching).Levelled start := by
  unfold Account.caught
  split_ifs
  · refine ⟨fun point member => ?_, levelled.depth⟩
    rcases List.mem_append.mp member with inside | last
    · exact levelled.level point inside
    · obtain rfl := List.mem_singleton.mp last
      refine ⟨levelled.depth, fun _ _ _ happened => ?_⟩
      cases happened
      exact levelled.depth
  · exact levelled

/-- The body of a block is one level deeper than its braces. -/
theorem block {body : Cursor → Account} (levelled : ∀ cursor, (body cursor).Levelled cursor) :
    (Account.block layout body start).Levelled start := by
  have brace (content : String) (cursor : Cursor) :
      (Account.emit (line layout content) cursor).Levelled cursor := emit (.line content)
  have ended : (finishLine layout).Within layout 0 := .finishLine
  have finished (cursor : Cursor) : (Account.emit (finishLine layout) cursor).Levelled cursor :=
    emit ended
  have inside (cursor : Cursor) := (levelled cursor).andThen finished
  exact (((brace _ start).andThen fun _ => indented inside).andThen (brace _)).complete .block

end Account.Levelled

mutual

/-- The account of a step keeps the depth. -/
theorem Step.account_levelled (layout : Layout) (step : Step) (cursor : Cursor) :
    (step.account layout cursor).Levelled cursor := by
  cases step with
  | line text =>
    have within : (line layout text).Within layout 0 := .line text
    exact (Account.Levelled.emit within).complete .line
  | write text =>
    have within : (write layout text).Within layout 0 := .write text
    exact (Account.Levelled.emit within).complete .write
  | newLine =>
    have within : (newLine layout).Within layout 0 := .newLine
    exact (Account.Levelled.emit within).complete .newLine
  | textBlock text =>
    have within : (write layout text).Within layout 0 := .write text
    exact .block fun _ => .emit within
  | block body => exact .block (accountOf_levelled layout body)
  | indented body =>
    exact (Account.Levelled.indented (accountOf_levelled layout body)).complete .indented
  | fail message => exact ⟨fun _ member => (by cases member), rfl⟩
  | attempt catching body => exact (accountOf_levelled layout body cursor).caught catching

/-- The account of steps keeps the depth. -/
theorem accountOf_levelled (layout : Layout) (steps : List Step) (cursor : Cursor) :
    (accountOf layout steps cursor).Levelled cursor := by
  cases steps with
  | nil => exact .still
  | cons step rest =>
    exact Account.Levelled.still.andThen fun before =>
      (Step.account_levelled layout step before).andThen (accountOf_levelled layout rest)

end

/-- A run gives the depth back, also when it fails. -/
theorem runSteps_depth (layout : Layout) (steps : List Step) (cursor : Cursor) :
    (runSteps layout steps cursor).cursor.depth = cursor.depth := by
  rw [← run_accountOf]
  exact (accountOf_levelled layout steps cursor).depth

/-- A step gives the depth back, also when it fails. -/
theorem Step.run_depth (layout : Layout) (step : Step) (cursor : Cursor) :
    (step.run layout cursor).cursor.depth = cursor.depth := by
  rw [← Step.run_account]
  exact (Step.account_levelled layout step cursor).depth

/-- At every point of a run the depth is that of the start and one more for each block body and
indented scope that encloses the point, and so a step that completes there tells it. Every step
gives the depth back, whatever it fails with or has caught, and so does the whole run, also where a
line inside its scopes cannot be indented. -/
theorem depth_at_points (layout : Layout) (steps : List Step) (cursor : Cursor) :
    (accountOf layout steps cursor).run = runSteps layout steps cursor ∧
    (∀ point ∈ (accountOf layout steps cursor).points, point.Level cursor.depth) ∧
    (∀ (step : Step) (before : Cursor), (step.run layout before).cursor.depth = before.depth) ∧
    (runSteps layout steps cursor).cursor.depth = cursor.depth :=
  ⟨run_accountOf layout steps cursor, (accountOf_levelled layout steps cursor).level,
    fun step before => step.run_depth layout before, runSteps_depth layout steps cursor⟩

/-- A layout with which lines can be indented by two levels but not by three. -/
def narrowLayout : Layout := ⟨-3689348814741910324, "\n"⟩

/-- A block with an attempt that catches a failure of two more scopes, another one that catches a
line which cannot be indented, and such a line after it. -/
def brokenBlock : List Step :=
  [.block [.attempt .raised [.indented [.block [.fail "stop"]]],
    .attempt .every [.indented [.block [.line "a"]]], .line "b",
    .attempt .raised [.indented [.indented [.line "c"]]]]]

/-- The refused line stands in three scopes, the attempts that catch a failure complete in one, and
the run that the last line leaves ends in none. -/
theorem depth_at_points_brokenBlock :
    (∃ point ∈ (accountOf narrowLayout brokenBlock {}).points, point.Level 0 ∧
      point.enclosing = 3 ∧ point.event = some (.added [])) ∧
    (∃ point ∈ (accountOf narrowLayout brokenBlock {}).points, point.Level 0 ∧
      point.enclosing = 1 ∧
        point.event = some (.completed .attempt 1 (some (.raised "stop")))) ∧
    (∃ point ∈ (accountOf narrowLayout brokenBlock {}).points, point.Level 0 ∧
      point.enclosing = 1 ∧ point.event = some (.completed .attempt 1 (some .refused))) ∧
    (accountOf narrowLayout brokenBlock {}).run = runSteps narrowLayout brokenBlock {} ∧
    (runSteps narrowLayout brokenBlock {}).failure = some .refused ∧
    (runSteps narrowLayout brokenBlock {}).cursor.depth = 0 := by
  obtain ⟨told, level, -, last⟩ := depth_at_points narrowLayout brokenBlock {}
  obtain ⟨line, inLine, deep⟩ : ∃ point ∈ (accountOf narrowLayout brokenBlock {}).points,
      point.enclosing = 3 ∧ point.event = some (.added []) := by decide
  obtain ⟨attempt, inAttempt, caught⟩ : ∃ point ∈ (accountOf narrowLayout brokenBlock {}).points,
      point.enclosing = 1 ∧
        point.event = some (.completed .attempt 1 (some (.raised "stop"))) := by decide
  obtain ⟨other, inOther, refused⟩ : ∃ point ∈ (accountOf narrowLayout brokenBlock {}).points,
      point.enclosing = 1 ∧ point.event = some (.completed .attempt 1 (some .refused)) := by decide
  exact ⟨⟨line, inLine, level line inLine, deep⟩,
    ⟨attempt, inAttempt, level attempt inAttempt, caught⟩,
    ⟨other, inOther, level other inOther, refused⟩, told, by decide, last⟩

end ServiceStubs.Writing
