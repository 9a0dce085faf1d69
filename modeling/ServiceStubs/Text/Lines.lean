/-!
# Lines and lists in text

Breaking text at line feeds, dropping trailing characters, and joining words with a separator.
Text is taken apart as a list of characters, so that each operation is a recursion on it.
-/

namespace ServiceStubs.Text

/-- The pieces of a text between its separators; a text without one is a single piece. -/
def breakAt (separator : Char) : List Char → List (List Char)
  | [] => [[]]
  | character :: rest =>
    if character = separator then [] :: breakAt separator rest
    else match breakAt separator rest with
      | [] => [[character]]
      | piece :: pieces => (character :: piece) :: pieces

/-- A text has at least one piece. -/
theorem breakAt_ne_nil (separator : Char) (text : List Char) : breakAt separator text ≠ [] := by
  cases text with
  | nil => simp [breakAt]
  | cons character rest => grind [breakAt]

/-- A text without its longest ending made of one character. -/
def dropTrailing (unwanted : Char) : List Char → List Char
  | [] => []
  | character :: rest =>
    match dropTrailing unwanted rest with
    | [] => if character = unwanted then [] else [character]
    | kept => character :: kept

/-- Words with a separator between neighbours. -/
def joined (separator : String) : List String → String
  | [] => ""
  | [word] => word
  | word :: rest => word ++ separator ++ joined separator rest

/-- Words with a comma and a space between neighbours. -/
def commaJoined (words : List String) : String := joined ", " words

/-- The pieces of a string between its separators. -/
def pieces (separator : Char) (text : String) : List String :=
  (breakAt separator text.toList).map String.ofList

/-- The rest of a text after an opening, when the text begins with it. -/
def afterOpening? : List Char → List Char → Option (List Char)
  | [], text => some text
  | _ :: _, [] => none
  | wanted :: opening, character :: text =>
    if wanted = character then afterOpening? opening text else none

/-- Whether a string begins with an opening. -/
def opensWith (opening text : String) : Bool :=
  (afterOpening? opening.toList text.toList).isSome

/-- Whether a string ends with an ending. -/
def endsWith (ending text : String) : Bool :=
  (afterOpening? ending.toList.reverse text.toList.reverse).isSome

/-- What stands between two given characters, when a text begins and ends with them. -/
def trimmedOne (mark : Char) : List Char → Option (List Char)
  | first :: second :: rest =>
    if first = mark && (second :: rest).getLast? = some mark then
      some (second :: rest).dropLast
    else none
  | _ => none

/-- The parts before and after the first separator; without one, the second part is empty. -/
def cutAtFirst (separator : Char) (text : String) : String × String :=
  let before := text.toList.takeWhile (· ≠ separator)
  let after := (text.toList.dropWhile (· ≠ separator)).drop 1
  (String.ofList before, String.ofList after)

end ServiceStubs.Text
