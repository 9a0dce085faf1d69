import Mathlib.Tactic.SplitIfs
import ServiceStubs.Proofs.Writing.Depth

/-!
# Documents one after the other

A construct that begins with a line ends with one, at the depth at which it was begun, whatever
names are pasted into it. So the next construct is written as if it stood in a document of its own:
of what was written before, it sees only that a line begins, and at which depth. The text of
constructs in order is therefore the text of the first ones followed by the text of the others, and
a line that cannot be indented is refused in the whole exactly when it is refused in its part. Also
where a construct is refused a line begins, for nothing of the refused line is written.
-/

namespace ServiceStubs

namespace Writing

variable {layout : Layout} {first second body : Emission}

/-! ## Refused lines -/

/-- Whether an emission that is refused is refused at the start of a line. -/
def Emission.RefusedAtStart (emission : Emission) : Prop :=
  ∀ cursor, (emission cursor).isRefused → (emission cursor).cursor.atLineStart

namespace Emission.RefusedAtStart

/-- Nothing is not refused. -/
theorem nothing : Emission.nothing.RefusedAtStart := fun _ refused => by cases refused

/-- The refused one of two emissions is refused at the start of a line. -/
theorem append (atStart : first.RefusedAtStart) (next : second.RefusedAtStart) :
    (first ++ second).RefusedAtStart := by
  intro cursor refused
  cases here : (first cursor).isRefused with
  | true =>
    rw [append_of_refused here]
    exact atStart cursor here
  | false =>
    rw [append_of_written here] at refused ⊢
    exact next _ refused

/-- An emission one level deeper is refused where it is refused otherwise. -/
theorem indented (atStart : body.RefusedAtStart) : body.indented.RefusedAtStart :=
  fun cursor => atStart { cursor with depth := cursor.depth + 1 }

/-- The end of a line is not refused. -/
theorem newLine : (newLine layout).RefusedAtStart := fun _ refused => by cases refused

/-- A piece of a line is refused before it is begun. -/
theorem fragment (piece : List Char) : (fragment layout piece).RefusedAtStart := by
  intro cursor refused
  by_cases empty : Text.dropTrailing '\r' piece = []
  · rw [fragment_of_empty empty] at refused
    cases refused
  · cases begins : cursor.atLineStart with
    | false =>
      rw [fragment_continuing empty begins] at refused
      cases refused
    | true =>
      cases fits : layout.fits cursor.depth with
      | true =>
        rw [fragment_opening empty begins fits] at refused
        cases refused
      | false =>
        rw [fragment_refused empty begins fits]
        exact begins

/-- Text is refused where one of its lines begins. -/
theorem write (content : String) : (write layout content).RefusedAtStart :=
  fragments_induction RefusedAtStart nothing append newLine fun piece _ => fragment piece

/-- A line is refused where it begins. -/
theorem line (content : String) : (line layout content).RefusedAtStart :=
  (write content).append newLine

/-- The end of an unfinished line is not refused. -/
theorem finishLine : (finishLine layout).RefusedAtStart := by
  intro cursor refused
  unfold Writing.finishLine at refused
  split_ifs at refused
  cases refused

/-- A block is refused where one of its lines begins. -/
theorem block (inside : body.RefusedAtStart) : (block layout body).RefusedAtStart :=
  ((line _).append (inside.append finishLine).indented).append (line _)

end Emission.RefusedAtStart

/-! ## Emissions that stand apart -/

/-- Whether an emission stands apart from what is written around it: begun with a line it ends with
one, or is refused before one. -/
structure Emission.Apart (emission : Emission) : Prop where
  keepsLines : ∀ cursor : Cursor, cursor.atLineStart → (emission cursor).cursor.atLineStart
  refusedAtStart : emission.RefusedAtStart

namespace Emission.Apart

/-- Where nothing is added the line is the same. -/
theorem nothing : Emission.nothing.Apart := ⟨fun _ begins => begins, .nothing⟩

/-- Emissions one after the other stand apart when each of them does. -/
theorem append (apart : first.Apart) (next : second.Apart) : (first ++ second).Apart where
  keepsLines cursor begins := by
    have between := apart.keepsLines cursor begins
    cases refused : (first cursor).isRefused with
    | true => rwa [append_of_refused refused]
    | false =>
      rw [append_of_written refused]
      exact next.keepsLines _ between
  refusedAtStart := apart.refusedAtStart.append next.refusedAtStart

/-- Emissions in order stand apart when each of them does. -/
theorem sequence {emissions : List Emission} (each : ∀ emission ∈ emissions, emission.Apart) :
    (Emission.sequence emissions).Apart := sequence_induction Apart nothing append each

/-- What ends with a line stands apart when what is written before the end is refused at the start
of a line. -/
theorem ended (inside : first.RefusedAtStart) : (first ++ Writing.newLine layout).Apart where
  keepsLines cursor _ := by
    cases refused : (first cursor).isRefused with
    | true =>
      rw [append_of_refused refused]
      exact inside cursor refused
    | false =>
      rw [append_of_written refused]
      rfl
  refusedAtStart := inside.append .newLine

/-- An empty line stands apart. -/
theorem newLine : (newLine layout).Apart := ⟨fun _ _ => rfl, .newLine⟩

/-- A line stands apart. -/
theorem line (content : String) : (line layout content).Apart := ended (.write content)

/-- A block stands apart together with what its opening brace is written behind. -/
theorem block (before : first.RefusedAtStart) (inside : body.RefusedAtStart) :
    (first ++ block layout body).Apart := by
  have scope : (body ++ finishLine layout).indented.RefusedAtStart :=
    (inside.append .finishLine).indented
  have closing : (write layout "\x7d").RefusedAtStart := .write "\x7d"
  have opening : (Writing.line layout "\x7b").RefusedAtStart := .line "\x7b"
  have shape : first ++ Writing.block layout body =
      first ++ (Writing.line layout "\x7b" ++ (body ++ finishLine layout).indented ++
        write layout "\x7d") ++ Writing.newLine layout := by
    simp only [Writing.block, Writing.line, append_assoc]
  rw [shape]
  exact ended (before.append ((opening.append scope).append closing))

end Emission.Apart

/-- What follows a document that ends with a line is written as in a document of its own. -/
theorem Emission.text_append (depth : (first {}).cursor.depth = 0)
    (ends : (first {}).cursor.atLineStart) :
    (first ++ second).text = do
      let before ← first.text
      let after ← second.text
      return before ++ after := by
  have fresh : (first {}).cursor = {} := by
    generalize (first {}).cursor = place at depth ends ⊢
    obtain ⟨_, _⟩ := place
    cases depth
    cases ends
    rfl
  unfold Emission.text
  cases refused : (first {}).isRefused with
  | true => simp [append_of_refused refused, refused, bind, Except.bind]
  | false =>
    rw [append_of_written refused, fresh]
    cases later : (second {}).isRefused <;>
      simp [refused, later, bind, Except.bind, pure, Except.pure]

end Writing

namespace Document

open Writing

variable {layout : Layout}

/-- Lines in order stand apart. -/
theorem lines_apart (texts : List String) : (lines layout texts).Apart := by
  refine .sequence fun emission member => ?_
  obtain ⟨text, _, rfl⟩ := List.mem_map.mp member
  exact .line text

/-- A construct with members stands apart, whatever stands in its header. -/
theorem membersBlock_apart (header : String) (members : List String) :
    (membersBlock layout header members).Apart :=
  .block (.write header) (lines_apart members).refusedAtStart

/-- The line of exported names stands apart. -/
theorem exportEmission_apart (names : List String) : (exportEmission layout names).Apart := by
  unfold exportEmission
  split_ifs
  · exact .nothing
  · exact .line _

/-- The lines of imports stand apart. -/
theorem importsEmission_apart (imports : List Import) : (importsEmission layout imports).Apart := by
  unfold importsEmission
  split_ifs
  · exact .nothing
  · exact (lines_apart _).append .newLine

mutual

/-- A construct of any kind stands apart. -/
theorem Node.emission_apart (node : Node) : (node.emission layout).Apart := by
  cases node with
  | interface node => exact membersBlock_apart _ _
  | enum node => exact membersBlock_apart _ _
  | «export» names => exact exportEmission_apart names
  | file imports contents exports =>
    rw [Node.emission]
    exact ((importsEmission_apart imports).append (contentsEmission_apart contents)).append
      (exportEmission_apart exports)
  | _ => exact .line _

/-- The constructs in a file stand apart. -/
theorem contentsEmission_apart (nodes : List Node) : (contentsEmission layout nodes).Apart := by
  cases nodes with
  | nil => exact .nothing
  | cons node rest =>
    rw [contentsEmission]
    exact ((Node.emission_apart node).append .newLine).append (contentsEmission_apart rest)

end

/-- A construct of any kind that begins with a line ends with one, at the depth at which it was
begun. So the text of constructs in order is the text of the first ones followed by the text of the
others in a document of its own, and it is refused when either of the two is. -/
theorem rendering_append (layout : Layout) :
    (∀ (node : Node) (cursor : Cursor), cursor.atLineStart →
      (node.emission layout cursor).cursor.depth = cursor.depth ∧
        (node.emission layout cursor).cursor.atLineStart) ∧
    ∀ nodes more, render layout (nodes ++ more) = do
      let first ← render layout nodes
      let second ← render layout more
      return first ++ second := by
  constructor
  · exact fun node cursor begins =>
      ⟨node.emission_within.depth cursor, node.emission_apart.keepsLines cursor begins⟩
  · intro nodes more
    have apart : (emissionOfAll layout nodes).Apart := by
      refine .sequence fun emission member => ?_
      obtain ⟨node, _, rfl⟩ := List.mem_map.mp member
      exact node.emission_apart
    have whole : emissionOfAll layout (nodes ++ more) =
        emissionOfAll layout nodes ++ emissionOfAll layout more := by
      rw [emissionOfAll, List.map_append, Emission.sequence_append]
      rfl
    rw [render, whole]
    exact Emission.text_append ((emissionOfAll_within nodes).depth {}) (apart.keepsLines {} rfl)

/-- A file with an import and a file inside, in whose names lines are broken. -/
def brokenFile : Node :=
  .file [⟨"a\nb", "c\r"⟩] [.file [] [.interface { name := "" }, .enum ⟨"D\r\n", ["", "E\n"]⟩] []]
    ["F"]

/-- The line breaks in the names of a file indent what follows them, and leave neither the depth nor
the place of a line to what is written after the file. -/
theorem rendering_append_brokenFile :
    (({ depth := 1 } : Cursor).atLineStart ∧
      (brokenFile.emission ⟨2, "\n"⟩ { depth := 1 }).cursor.depth = 1 ∧
      (brokenFile.emission ⟨2, "\n"⟩ { depth := 1 }).cursor.atLineStart) ∧
    (render ⟨2, "\n"⟩ ([brokenFile] ++ [.export [], brokenFile]) = do
      let first ← render ⟨2, "\n"⟩ [brokenFile]
      let second ← render ⟨2, "\n"⟩ [.export [], brokenFile]
      return first ++ second) ∧
    (render ⟨2, "\n"⟩ [brokenFile]).toOption = some ("import * as a\nb from \"c\r\";\n\n" ++
      "interface  \x7b\n\x7d\n\nenum D\n \x7b\n  ,\n  E\n  ,\n\x7d\n\n\n" ++
      "export \x7b F \x7d;\n") := by
  obtain ⟨apart, composed⟩ := rendering_append ⟨2, "\n"⟩
  have begins : ({ depth := 1 } : Cursor).atLineStart := rfl
  exact ⟨⟨begins, apart brokenFile { depth := 1 } begins⟩,
    composed [brokenFile] [.export [], brokenFile], by decide +kernel⟩

end Document

end ServiceStubs
