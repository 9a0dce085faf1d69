import ServiceStubs.Source.Fault
import ServiceStubs.Text.Lines

/-!
# Indented text

Text is written at a cursor, which knows how deeply blocks are nested and whether a line has just
begun. An emission says what is added at a cursor and where the cursor is afterwards; emissions
one after another add their texts one after another. Indentation is not added when a line begins
but before its first visible piece, so a line without text stays empty.

The size of an indentation has limits. A line whose indentation is beyond them is refused: nothing
of it is added, and nothing is added after it, but every scope that the refusal leaves gives its
level back.

Line feeds inside written text begin new lines. Carriage returns before a line feed and at the end
of a written text are dropped, and every line ends with the newline of the layout.
-/

namespace ServiceStubs.Writing

/-- How lines are indented and ended. -/
structure Layout where
  /-- Spaces for each level of nesting; a negative width is no indentation. -/
  indentWidth : Int := 4
  newline : String := "\r\n"
deriving DecidableEq, Repr, Inhabited

/-- The sizes that an indentation may have are at least the negative of this number and less than
it. -/
def Layout.sizeLimit : Int := 9223372036854775808

/-- Whether a line can be indented at a depth. -/
def Layout.fits (layout : Layout) (depth : Nat) : Bool :=
  -sizeLimit ≤ layout.indentWidth * depth && layout.indentWidth * depth < sizeLimit

/-- The indentation of a line at a depth, if the line can be indented. -/
def Layout.indentation? (layout : Layout) (depth : Nat) : Option (List Char) :=
  if layout.fits depth then some (List.replicate (layout.indentWidth * depth).toNat ' ') else none

/-- The fault of a line that cannot be indented. -/
def indentationFault : Source.Fault := .tooGreat "cannot fit 'int' into an index-sized integer"

/-- A place in text that is being written. -/
structure Cursor where
  /-- How many blocks and indented scopes enclose the place. -/
  depth : Nat := 0
  /-- Nothing has been added to the current line. -/
  atLineStart : Bool := true
deriving DecidableEq, Repr, Inhabited

/-- What is written at a cursor. -/
structure Written where
  /-- The text that is added. -/
  text : List Char
  /-- The cursor afterwards. -/
  cursor : Cursor
  /-- A line could not be indented, and nothing was added from there on. -/
  isRefused : Bool := false
deriving DecidableEq, Repr, Inhabited

/-- What is written, wherever the cursor is. -/
def Emission := Cursor → Written

namespace Emission

/-- Add nothing. -/
def nothing : Emission := fun cursor => { text := [], cursor }

/-- One emission and then another, unless the first one is refused. -/
def andThen (first second : Emission) : Emission := fun cursor =>
  let written := first cursor
  if written.isRefused then written
  else
    let more := second written.cursor
    { more with text := written.text ++ more.text }

instance : Append Emission := ⟨andThen⟩

/-- Emissions in order. -/
def sequence : List Emission → Emission
  | [] => nothing
  | first :: rest => first ++ sequence rest

/-- An emission one level deeper. The level is given back even when the emission is refused. -/
def indented (body : Emission) : Emission := fun cursor =>
  let written := body { cursor with depth := cursor.depth + 1 }
  { written with cursor := { written.cursor with depth := written.cursor.depth - 1 } }

/-- The text of an emission that starts a document. -/
def text (emission : Emission) : Except Source.Fault String :=
  let written := emission {}
  if written.isRefused then .error indentationFault else .ok (String.ofList written.text)

end Emission

/-- End the current line. -/
def newLine (layout : Layout) : Emission := fun cursor =>
  { text := layout.newline.toList, cursor := { cursor with atLineStart := true } }

/-- Write a piece of a line without its trailing carriage returns; a line that gets its first
piece is indented before it. -/
def fragment (layout : Layout) (piece : List Char) : Emission := fun cursor =>
  let kept := Text.dropTrailing '\r' piece
  if kept.isEmpty then { text := [], cursor }
  else if cursor.atLineStart then
    match layout.indentation? cursor.depth with
    | none => { text := [], cursor, isRefused := true }
    | some indentation =>
      { text := indentation ++ kept, cursor := { cursor with atLineStart := false } }
  else { text := kept, cursor }

/-- Write pieces, each on a line of its own. -/
def fragments (layout : Layout) : List (List Char) → Emission
  | [] => .nothing
  | [piece] => fragment layout piece
  | piece :: rest => fragment layout piece ++ newLine layout ++ fragments layout rest

/-- Write text; its line feeds begin new lines. -/
def write (layout : Layout) (content : String) : Emission :=
  fragments layout (Text.breakAt '\n' content.toList)

/-- Write text and end the line. -/
def line (layout : Layout) (content : String) : Emission :=
  write layout content ++ newLine layout

/-- End the current line unless it has just begun. -/
def finishLine (layout : Layout) : Emission := fun cursor =>
  if cursor.atLineStart then { text := [], cursor } else newLine layout cursor

/-- Write an opening brace, a body one level deeper, and a closing brace on a line of its own. -/
def block (layout : Layout) (body : Emission) : Emission :=
  line layout "\x7b" ++ (body ++ finishLine layout).indented ++ line layout "\x7d"

end ServiceStubs.Writing
