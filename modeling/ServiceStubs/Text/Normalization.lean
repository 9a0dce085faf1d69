import ServiceStubs.Text.CombiningClass
import ServiceStubs.Text.Composition
import ServiceStubs.Text.Replacement

/-!
# Normal forms of names

Two spellings of a name are the same name when their compatible compositions are equal. A name is
brought to that form in three steps: every character is taken apart into what it stands for, the
marks after a letter are put in the order of their classes, and then letters and marks are
composed as far as possible.
-/

namespace ServiceStubs.Text

/-! ## Syllables -/

/-- The code points of the first consonant, the first vowel, the code point before the first final
consonant, and the first syllable of the Korean script. -/
def firstConsonant : Nat := 0x1100
@[inherit_doc firstConsonant] def firstVowel : Nat := 0x1161
@[inherit_doc firstConsonant] def beforeFinals : Nat := 0x11a7
@[inherit_doc firstConsonant] def firstSyllable : Nat := 0xac00

/-- The numbers of consonants, vowels and final consonants, where no final consonant counts as
one. -/
def consonantCount : Nat := 19
@[inherit_doc consonantCount] def vowelCount : Nat := 21
@[inherit_doc consonantCount] def finalCount : Nat := 28

/-- The letters of a syllable. -/
def lettersOfSyllable? (code : Nat) : Option (List Nat) :=
  let index := code - firstSyllable
  if code < firstSyllable || consonantCount * vowelCount * finalCount ≤ index then none
  else
    let open_ := [firstConsonant + index / (vowelCount * finalCount),
      firstVowel + index % (vowelCount * finalCount) / finalCount]
    some (if index % finalCount = 0 then open_
      else open_ ++ [beforeFinals + index % finalCount])

/-- The syllable of two letters, or of a syllable without a final consonant and that consonant. -/
def syllableOf? (first second : Nat) : Option Nat :=
  if firstConsonant ≤ first && first < firstConsonant + consonantCount &&
      firstVowel ≤ second && second < firstVowel + vowelCount then
    some (firstSyllable +
      ((first - firstConsonant) * vowelCount + (second - firstVowel)) * finalCount)
  else if firstSyllable ≤ first &&
      first < firstSyllable + consonantCount * vowelCount * finalCount &&
      (first - firstSyllable) % finalCount = 0 &&
      beforeFinals < second && second < beforeFinals + finalCount then
    some (first + (second - beforeFinals))
  else none

/-! ## Taking apart -/

/-- The code points that a code point stands for in the end; `depth` bounds how often a composed
character is composed of another one. -/
def takenApart : Nat → Nat → List Nat
  | 0, code => [code]
  | depth + 1, code =>
    match lettersOfSyllable? code with
    | some letters => letters
    | none =>
      match pairOf? code with
      | some (first, second) => takenApart depth first ++ takenApart depth second
      | none => (replacementOf? code).getD [code]

/-- Letters carry no more marks in one character than this. -/
def mostComposed : Nat := 4

/-! ## Order of marks -/

/-- Insert a code point before others; a mark goes behind the marks of lower classes. -/
def insertMark (code : Nat) : List Nat → List Nat
  | [] => [code]
  | next :: rest =>
    if combiningClass code ≠ 0 && combiningClass next ≠ 0 &&
        combiningClass next < combiningClass code then
      next :: insertMark code rest
    else code :: next :: rest

/-- Code points with the marks after each letter in the order of their classes. -/
def orderedMarks (codes : List Nat) : List Nat := codes.foldr insertMark []

/-! ## Composing -/

/-- Compose a letter with what follows. `skipped` holds the marks that stayed apart, the last one
first; a mark is composed unless one of its own class or of a higher one stands before it. -/
def composeFrom (letter : Nat) (skipped : List Nat) : List Nat → List Nat
  | [] => letter :: skipped.reverse
  | next :: rest =>
    let isFree := match skipped with
      | [] => true
      | last :: _ => combiningClass last < combiningClass next
    match if isFree then (composedOf? letter next).or (syllableOf? letter next) else none with
    | some composed => composeFrom composed skipped rest
    | none =>
      if combiningClass next = 0 then letter :: skipped.reverse ++ composeFrom next [] rest
      else composeFrom letter (next :: skipped) rest

/-- Code points composed as far as possible. -/
def composed : List Nat → List Nat
  | [] => []
  | letter :: rest => composeFrom letter [] rest

/-- The form of a name that all its spellings share. -/
def normalized (text : String) : String :=
  if text.toList.all fun character => character.toNat < 0x80 then text
  else
    let codes := text.toList.flatMap fun character => takenApart mostComposed character.toNat
    String.ofList ((composed (orderedMarks codes)).map Char.ofNat)

end ServiceStubs.Text
