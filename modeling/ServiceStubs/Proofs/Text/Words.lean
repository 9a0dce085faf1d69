import ServiceStubs.Proofs.Text.Lines
import ServiceStubs.Text.Parts

/-!
# Words and lines in text

A word is made of letters, digits and underscores. A line that opens with a word goes on with the
first character that belongs to no word, and no line does so in two ways: this is what tells kinds
of lines apart. Lines without line breaks of their own are read back from the text that they make,
whether it ends them with line feeds alone or with carriage returns before these.
-/

namespace ServiceStubs.Text

/-! ## Words -/

/-- Whether a character may stand in a word: a letter, a digit or an underscore. Of the characters
beyond ASCII, which the letters and digits of other scripts are among, none is told apart. -/
def isWordCharacter (character : Char) : Bool :=
  character.isAlphanum || character = '_' || 128 ≤ character.toNat

/-- Whether all of some characters may stand in words. -/
def OfWord (characters : List Char) : Prop :=
  ∀ character ∈ characters, isWordCharacter character

instance (characters : List Char) : Decidable (OfWord characters) :=
  decidable_of_iff (characters.all isWordCharacter) List.all_eq_true

/-- Whether a text is a word that is not empty. -/
def IsWord (text : String) : Prop := text.toList ≠ [] ∧ OfWord text.toList

instance (text : String) : Decidable (IsWord text) := inferInstanceAs (Decidable (_ ∧ _))

/-- A word with more characters of words after it is a word. -/
theorem IsWord.append {text more : String} (word : IsWord text)
    (ofWord : OfWord more.toList) : IsWord (text ++ more) := by
  rw [IsWord, String.toList_append]
  refine ⟨List.append_ne_nil_of_left_ne_nil word.1 _, fun character member => ?_⟩
  exact (List.mem_append.mp member).elim (word.2 character) (ofWord character)

/-- Whether a line opens with the characters of a word and goes on with a mark that belongs to no
word. The word may be empty. -/
def Opens (line word : List Char) (mark : Char) : Prop :=
  OfWord word ∧ isWordCharacter mark = false ∧ ∃ rest, line = word ++ mark :: rest

/-- What a line opens with is found by going through the characters of words. -/
theorem Opens.split {line word : List Char} {mark : Char} (opens : Opens line word mark) :
    line.takeWhile isWordCharacter = word ∧
      (line.dropWhile isWordCharacter).head? = some mark := by
  obtain ⟨ofWord, ends, rest, rfl⟩ := opens
  constructor
  · rw [List.takeWhile_append_of_pos ofWord, List.takeWhile_cons, ends]
    simp
  · rw [List.dropWhile_append_of_pos ofWord, List.dropWhile_cons, ends]
    simp

/-- A line opens in one way. -/
theorem Opens.unique {line word other : List Char} {mark otherMark : Char}
    (opens : Opens line word mark) (alsoOpens : Opens line other otherMark) :
    word = other ∧ mark = otherMark :=
  ⟨opens.split.1.symm.trans alsoOpens.split.1,
    Option.some.inj (opens.split.2.symm.trans alsoOpens.split.2)⟩

/-- Nothing is opened by an empty line. -/
theorem not_opens_nil {word : List Char} {mark : Char} : ¬ Opens [] word mark := by
  rintro ⟨_, _, rest, same⟩
  cases word <;> cases same

/-! ## Unbroken texts -/

/-- Whether a text holds neither a line feed nor a carriage return. -/
def Unbroken (text : String) : Prop := '\n' ∉ text.toList ∧ '\r' ∉ text.toList

instance (text : String) : Decidable (Unbroken text) := inferInstanceAs (Decidable (_ ∧ _))

/-- A text made of two is unbroken when both are. -/
@[simp]
theorem unbroken_append {text more : String} :
    Unbroken (text ++ more) ↔ Unbroken text ∧ Unbroken more := by
  simp only [Unbroken, String.toList_append, List.mem_append, not_or]
  tauto

/-- Words are unbroken. -/
theorem IsWord.unbroken {text : String} (word : IsWord text) : Unbroken text :=
  ⟨fun member => absurd (word.2 _ member) (by decide),
    fun member => absurd (word.2 _ member) (by decide)⟩

/-- Words after each other, with a separator between neighbours, are unbroken when all of them
are. -/
theorem unbroken_joined {separator : String} (between : Unbroken separator) {words : List String}
    (each : ∀ word ∈ words, Unbroken word) : Unbroken (joined separator words) := by
  induction words with
  | nil => exact ⟨List.not_mem_nil, List.not_mem_nil⟩
  | cons word rest ih =>
    have here := each word List.mem_cons_self
    have later := ih fun other member => each other (List.mem_cons_of_mem word member)
    cases rest with
    | nil => exact here
    | cons other rest => exact unbroken_append.mpr ⟨unbroken_append.mpr ⟨here, between⟩, later⟩

/-- A list of unbroken texts is unbroken. -/
theorem unbroken_commaJoined {words : List String} (each : ∀ word ∈ words, Unbroken word) :
    Unbroken (commaJoined words) := unbroken_joined (by decide) each

/-! ## Lines -/

/-- A text without the unwanted character has nothing to drop. -/
theorem dropTrailing_of_not_mem {unwanted : Char} {text : List Char} (absent : unwanted ∉ text) :
    dropTrailing unwanted text = text :=
  dropTrailing_of_getLast? fun ending => absent (List.mem_of_getLast? ending)

/-- A first line is broken off. -/
theorem breakAt_append {separator : Char} {line : List Char} (absent : separator ∉ line)
    (rest : List Char) :
    breakAt separator (line ++ separator :: rest) = line :: breakAt separator rest := by
  have broken : breakAt separator (separator :: rest) = [] :: breakAt separator rest := if_pos rfl
  rw [breakAt_append_of_not_mem absent broken, List.append_nil]

/-- The lines of a text, each of which ends with a line feed or with a carriage return and a line
feed. -/
def feedLines (text : List Char) : List (List Char) := linesOf (· = '\n') false text

/-- A line feed ends an empty line. -/
theorem feedLines_feed (rest : List Char) : feedLines ('\n' :: rest) = [] :: feedLines rest := by
  rw [feedLines, linesOf.eq_def]
  rfl

/-- A character that ends no line stands before the first of the lines that follow. A carriage
return ends one together with a line feed behind it. -/
theorem feedLines_cons {character : Char} (noFeed : character ≠ '\n') {rest : List Char}
    (apart : character = '\r' → rest.head? ≠ some '\n') {first : List Char}
    {others : List (List Char)} (following : feedLines rest = first :: others) :
    feedLines (character :: rest) = (character :: first) :: others := by
  rw [feedLines] at following
  cases rest with
  | nil => cases following
  | cons next rest =>
    rw [feedLines, linesOf.eq_def]
    split
    case h_1 same => cases same
    case h_2 same =>
      obtain ⟨rfl, others⟩ := List.cons.inj same
      exact absurd (congrArg some (List.cons.inj others).1) (apart rfl)
    case h_3 same =>
      obtain ⟨rfl, rfl⟩ := List.cons.inj same
      simp [following, noFeed]

/-- Whether a text is a line without what ends it: it holds no line feed, and no carriage return
stands where one may follow. -/
structure IsLine (line : List Char) : Prop where
  unbroken : '\n' ∉ line
  ending : line.getLast? ≠ some '\r'

/-- An empty line is a line. -/
theorem isLine_nil : IsLine [] := ⟨List.not_mem_nil, by simp⟩

/-- The rest of a line is a line, and a line feed does not follow a carriage return in it. -/
theorem IsLine.tail {character : Char} {line : List Char} (isLine : IsLine (character :: line)) :
    IsLine line ∧ character ≠ '\n' ∧
      ∀ after, character = '\r' → (line ++ after).head? ≠ some '\n' := by
  obtain ⟨unbroken, ending⟩ := isLine
  rw [List.mem_cons, not_or] at unbroken
  cases line with
  | nil =>
    exact ⟨isLine_nil, Ne.symm unbroken.1, fun _ same => absurd (congrArg some same) ending⟩
  | cons next line =>
    rw [List.getLast?_cons_cons] at ending
    refine ⟨⟨unbroken.2, ending⟩, Ne.symm unbroken.1, fun _ _ feed => unbroken.2 ?_⟩
    exact Option.some.inj feed ▸ List.mem_cons_self

/-- A line with unbroken text before it is a line, provided that it is not empty. -/
theorem IsLine.prepend {text line : List Char} (unbroken : '\n' ∉ text) (isLine : IsLine line)
    (visible : line ≠ []) : IsLine (text ++ line) where
  unbroken := by
    rw [List.mem_append, not_or]
    exact ⟨unbroken, isLine.unbroken⟩
  ending := by
    rw [List.getLast?_append_of_ne_nil _ visible]
    exact isLine.ending

/-- A first line that ends with a line feed, or with a carriage return and a line feed, is read
off. -/
theorem feedLines_append {newline : String} (ended : newline = "\n" ∨ newline = "\r\n")
    {line : List Char} (isLine : IsLine line) (rest : List Char) :
    feedLines (line ++ (newline.toList ++ rest)) = line :: feedLines rest := by
  induction line with
  | nil =>
    rcases ended with rfl | rfl
    · exact feedLines_feed rest
    · rfl
  | cons character line ih =>
    obtain ⟨others, noFeed, apart⟩ := isLine.tail
    exact feedLines_cons noFeed (apart _) (ih others)

/-- Lines are read off the text that they begin. -/
theorem feedLines_flatMap_append {newline : String} (ended : newline = "\n" ∨ newline = "\r\n")
    {lines : List (List Char)} (each : ∀ line ∈ lines, IsLine line) (rest : List Char) :
    feedLines (lines.flatMap (· ++ newline.toList) ++ rest) = lines ++ feedLines rest := by
  induction lines with
  | nil => rfl
  | cons line lines ih =>
    rw [List.flatMap_cons, List.append_assoc, List.append_assoc,
      feedLines_append ended (each line List.mem_cons_self),
      ih fun other member => each other (List.mem_cons_of_mem line member)]
    rfl

/-- A last line that nothing ends is read as it is. -/
theorem feedLines_of_isLine {line : List Char} (isLine : IsLine line) (visible : line ≠ []) :
    feedLines line = [line] := by
  induction line with
  | nil => exact absurd rfl visible
  | cons character line ih =>
    obtain ⟨others, noFeed, apart⟩ := isLine.tail
    cases line with
    | nil => simp [feedLines, linesOf, noFeed]
    | cons next line =>
      have alone := apart []
      rw [List.append_nil] at alone
      exact feedLines_cons noFeed alone (ih others (List.cons_ne_nil next line))

/-- Unbroken lines are read back from the text that they make. -/
theorem feedLines_flatMap {newline : String} (ended : newline = "\n" ∨ newline = "\r\n")
    {lines : List (List Char)} (unbroken : ∀ line ∈ lines, '\n' ∉ line ∧ '\r' ∉ line) :
    feedLines (lines.flatMap (· ++ newline.toList)) = lines := by
  have each : ∀ line ∈ lines, IsLine line := fun line member =>
    ⟨(unbroken line member).1, fun last => (unbroken line member).2 (List.mem_of_getLast? last)⟩
  have nothing : feedLines [] = [] := rfl
  have whole := feedLines_flatMap_append ended each []
  rwa [nothing, List.append_nil, List.append_nil] at whole

end ServiceStubs.Text
