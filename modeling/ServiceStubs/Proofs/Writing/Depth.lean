import Mathlib.Tactic.SplitIfs
import ServiceStubs.Document
import ServiceStubs.Proofs.Writing.Sequences

/-!
# Depth of emissions

Blocks and indented scopes give the depth back that they take, so everything that a document is
made of leaves the depth at which it was begun, also where a line is refused. How deep its lines are
indented follows its nesting: a body is one level deeper than what encloses it, and the constructs
of a document have bodies of plain lines, so no line of a document stands deeper than one level,
however files are nested. Where lines can be indented as deep as this, none is refused.
-/

namespace ServiceStubs

namespace Writing

/-- An emission leaves the depth at which it was begun, and indents lines at most some levels
deeper. -/
structure Emission.Within (layout : Layout) (levels : Nat) (emission : Emission) : Prop where
  depth : ∀ cursor, (emission cursor).cursor.depth = cursor.depth
  written : ∀ cursor : Cursor, layout.fits (cursor.depth + levels) →
    (emission cursor).isRefused = false

namespace Emission.Within

variable {levels : Nat} {first second body : Emission} {layout : Layout}

/-- More levels may be allowed. -/
theorem mono {more : Nat} (within : first.Within layout levels) (fewer : levels ≤ more) :
    first.Within layout more where
  depth := within.depth
  written cursor fits :=
    within.written cursor (Layout.fits_mono (Nat.add_le_add_left fewer cursor.depth) fits)

/-- Nothing is indented where nothing is added. -/
theorem nothing : Emission.nothing.Within layout levels where
  depth _ := rfl
  written _ _ := rfl

/-- Emissions one after the other begin at one depth. -/
theorem append (within : first.Within layout levels) (next : second.Within layout levels) :
    (first ++ second).Within layout levels where
  depth cursor := by
    cases refused : (first cursor).isRefused with
    | true =>
      rw [append_of_refused refused]
      exact within.depth cursor
    | false =>
      rw [append_of_written refused]
      exact (next.depth (first cursor).cursor).trans (within.depth cursor)
  written cursor fits := by
    refine append_isRefused.mpr ⟨within.written cursor fits, next.written _ ?_⟩
    rwa [within.depth cursor]

/-- Emissions in order begin at one depth. -/
theorem sequence {emissions : List Emission}
    (each : ∀ emission ∈ emissions, emission.Within layout levels) :
    (Emission.sequence emissions).Within layout levels :=
  sequence_induction (Within layout levels) nothing append each

/-- What is one level deeper gives its level back. -/
theorem indented (within : body.Within layout levels) :
    body.indented.Within layout (levels + 1) where
  depth cursor := congrArg (· - 1) (within.depth { cursor with depth := cursor.depth + 1 })
  written cursor fits := by
    refine within.written { cursor with depth := cursor.depth + 1 } ?_
    rwa [Nat.add_assoc, Nat.add_comm 1 levels]

/-- The end of a line is not indented. -/
theorem newLine : (newLine layout).Within layout levels where
  depth _ := rfl
  written _ _ := rfl

/-- A piece of a line is indented at the depth where it stands. -/
theorem fragment (piece : List Char) : (fragment layout piece).Within layout 0 where
  depth cursor := by
    unfold Writing.fragment
    dsimp only
    split_ifs
    · rfl
    · split <;> rfl
    · rfl
  written cursor fits := by
    by_cases empty : Text.dropTrailing '\r' piece = []
    · rw [fragment_of_empty empty]
    · cases begins : cursor.atLineStart with
      | true => rw [fragment_opening empty begins fits]
      | false => rw [fragment_continuing empty begins]

/-- Pieces on lines of their own are indented at the depth where they stand. -/
theorem fragments (pieces : List (List Char)) : (fragments layout pieces).Within layout 0 :=
  fragments_induction (Within layout 0) nothing append newLine fun piece _ => fragment piece

/-- Text is indented at the depth where it stands. -/
theorem write (content : String) : (write layout content).Within layout 0 := fragments _

/-- A line is indented at the depth where it stands. -/
theorem line (content : String) : (line layout content).Within layout 0 :=
  (write content).append newLine

/-- The end of an unfinished line is not indented. -/
theorem finishLine : (finishLine layout).Within layout levels where
  depth cursor := by
    unfold Writing.finishLine
    split_ifs <;> rfl
  written cursor _ := by
    unfold Writing.finishLine
    split_ifs <;> rfl

/-- A block indents its body one level deeper. -/
theorem block (within : body.Within layout levels) :
    (block layout body).Within layout (levels + 1) := by
  have brace (content : String) : (Writing.line layout content).Within layout (levels + 1) :=
    (line content).mono (Nat.zero_le _)
  exact ((brace _).append (within.append finishLine).indented).append (brace _)

end Emission.Within

/-- A document whose lines can be indented has a text. -/
theorem Emission.text_of_written {emission : Emission} (written : (emission {}).isRefused = false) :
    emission.text = .ok (String.ofList (emission {}).text) := by
  simp only [Emission.text, written, Bool.false_eq_true, if_false]

/-- A document has no text only when a line of it cannot be indented. -/
theorem Emission.text_eq_error {emission : Emission} {fault : Source.Fault}
    (failed : emission.text = .error fault) : fault = indentationFault := by
  unfold text at failed
  dsimp only at failed
  split_ifs at failed
  exact (Except.error.inj failed).symm

end Writing

namespace Document

open Writing

variable {layout : Layout}

/-- Lines in order are indented at the depth where they stand. -/
theorem lines_within (texts : List String) : (lines layout texts).Within layout 0 := by
  refine .sequence fun emission member => ?_
  obtain ⟨text, _, rfl⟩ := List.mem_map.mp member
  exact .line text

/-- A construct with members indents them one level deeper. -/
theorem membersBlock_within (header : String) (members : List String) :
    (membersBlock layout header members).Within layout 1 :=
  ((Emission.Within.write header).mono (Nat.zero_le 1)).append (lines_within members).block

/-- Exported names are indented at the depth where they stand. -/
theorem exportEmission_within (names : List String) :
    (exportEmission layout names).Within layout 0 := by
  unfold exportEmission
  split_ifs
  · exact .nothing
  · exact .line _

/-- Imports are indented at the depth where they stand. -/
theorem importsEmission_within (imports : List Import) :
    (importsEmission layout imports).Within layout 0 := by
  unfold importsEmission
  split_ifs
  · exact .nothing
  · exact (lines_within _).append .newLine

mutual

/-- A construct indents no line deeper than one level. -/
theorem Node.emission_within (node : Node) : (node.emission layout).Within layout 1 := by
  have plain {emission : Emission} (within : emission.Within layout 0) :
      emission.Within layout 1 := within.mono (Nat.zero_le 1)
  cases node with
  | interface node => exact membersBlock_within _ _
  | enum node => exact membersBlock_within _ _
  | «export» names => exact plain (exportEmission_within names)
  | file imports contents exports =>
    rw [Node.emission]
    refine .append (.append ?_ (contentsEmission_within contents)) ?_
    · exact plain (importsEmission_within imports)
    · exact plain (exportEmission_within exports)
  | _ => exact plain (.line _)

/-- Constructs in a file indent no line deeper than one level. -/
theorem contentsEmission_within (nodes : List Node) :
    (contentsEmission layout nodes).Within layout 1 := by
  cases nodes with
  | nil => exact .nothing
  | cons node rest =>
    rw [contentsEmission]
    exact ((Node.emission_within node).append .newLine).append (contentsEmission_within rest)

end

/-- Constructs one after another indent no line deeper than one level. -/
theorem emissionOfAll_within (nodes : List Node) :
    (emissionOfAll layout nodes).Within layout 1 := by
  refine .sequence fun emission member => ?_
  obtain ⟨node, _, rfl⟩ := List.mem_map.mp member
  exact node.emission_within

/-- Every document has a text when lines can be indented by one level. -/
theorem render_of_fits_one (one : layout.fits 1) (nodes : List Node) :
    ∃ text, render layout nodes = .ok text :=
  ⟨_, Emission.text_of_written ((emissionOfAll_within nodes).written {} one)⟩

end Document

end ServiceStubs
