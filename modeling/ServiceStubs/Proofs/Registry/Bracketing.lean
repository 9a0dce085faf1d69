import Mathlib.Data.List.Infix
import ServiceStubs.Registry

/-!
# Texts in angle brackets

A template applied to an argument is written as the text of the template followed by the text of
the argument in angle brackets. Names of types hold no angle bracket, so in a text that is composed
of names every end of the text closes at least as many brackets as it opens, and the whole text
closes exactly those it opens. The bracket that opens the argument is therefore the only one that
splits the text with such a text after it, and a composed text comes from one template and one
argument, however deep brackets stand in both.
-/

namespace ServiceStubs

/-- Whether a text holds no angle bracket. -/
def Plain (text : String) : Prop := '<' ∉ text.toList ∧ '>' ∉ text.toList

instance (text : String) : Decidable (Plain text) := inferInstanceAs (Decidable (_ ∧ _))

/-- Whether every bracket that opens is closed later and no other bracket closes. -/
structure Balanced (characters : List Char) : Prop where
  /-- As many brackets close as open. -/
  closed : characters.count '<' = characters.count '>'
  /-- No end of the text opens more brackets than it closes. -/
  within : ∀ ending, ending <:+ characters → ending.count '<' ≤ ending.count '>'

/-- A text without brackets is balanced. -/
theorem Balanced.of_plain {text : String} (plain : Plain text) : Balanced text.toList := by
  have opens := List.count_eq_zero.mpr plain.1
  have closes := List.count_eq_zero.mpr plain.2
  refine ⟨opens.trans closes.symm, fun ending suffix => ?_⟩
  have fewer := suffix.sublist.count_le '<'
  omega

/-- A text that opens a bracket and then closes all that it opens later is no end of a balanced
text. -/
theorem Balanced.not_suffix {whole ending : List Char} (balanced : Balanced whole)
    (closed : Balanced ending) : ¬('<' :: ending <:+ whole) := by
  intro suffix
  have bound := balanced.within _ suffix
  have same := closed.closed
  simp only [List.count_cons_self, List.count_cons_of_ne (show '<' ≠ '>' by decide)] at bound
  omega

/-- A balanced text after another one, in brackets, is balanced with it. -/
theorem Balanced.apply {base argument : List Char} (first : Balanced base)
    (second : Balanced argument) : Balanced (base ++ '<' :: argument ++ ['>']) := by
  have firstClosed := first.closed
  have secondClosed := second.closed
  constructor
  case closed => simp [List.count_append, firstClosed, secondClosed]
  case within =>
    intro ending suffix
    rw [List.suffix_concat_iff] at suffix
    rcases suffix with rfl | ⟨before, rfl, inside⟩
    · simp
    obtain ⟨start, whole⟩ := inside
    -- What stands before the last bracket ends in the argument, or goes on into the base.
    rcases List.append_eq_append_iff.mp whole with ⟨rest, rfl, split⟩ | ⟨rest, rfl, split⟩
    · have bound := first.within rest (List.suffix_append start rest)
      simp [split, List.count_append, secondClosed]
      omega
    · cases rest with
      | nil =>
        rw [List.nil_append] at split
        simp [← split, secondClosed]
      | cons opening rest =>
        obtain ⟨rfl, rfl⟩ := List.cons.inj split
        have bound := second.within before (List.suffix_append rest before)
        simp [List.count_append]
        omega

/-- A text splits in one way at an opening bracket with a balanced text after it. -/
theorem Balanced.split_unique {left right first second : List Char} (firstBalanced : Balanced first)
    (secondBalanced : Balanced second) (same : left ++ '<' :: first = right ++ '<' :: second) :
    left = right ∧ first = second := by
  rcases List.append_eq_append_iff.mp same with ⟨rest, longer, split⟩ | ⟨rest, longer, split⟩
  · cases rest with
    | nil => exact ⟨by simpa using longer.symm, (List.cons.inj split).2⟩
    | cons opening rest =>
      have ended : first = rest ++ '<' :: second := (List.cons.inj split).2
      exact absurd ⟨rest, ended.symm⟩ (firstBalanced.not_suffix secondBalanced)
  · cases rest with
    | nil => exact ⟨by simpa using longer, (List.cons.inj split).2.symm⟩
    | cons opening rest =>
      have ended : second = rest ++ '<' :: first := (List.cons.inj split).2
      exact absurd ⟨rest, ended.symm⟩ (secondBalanced.not_suffix firstBalanced)

namespace Registry

/-- The characters of a composed text. -/
theorem toList_composeGeneric (base argument : String) :
    (composeGeneric base argument).toList = base.toList ++ '<' :: argument.toList ++ ['>'] := by
  simp [composeGeneric]

/-- A composed text is not plain. -/
theorem not_plain_composeGeneric (base argument : String) :
    ¬Plain (composeGeneric base argument) := by
  intro plain
  exact plain.1 (by simp [toList_composeGeneric])

/-- A text composed of balanced texts is balanced. -/
theorem balanced_composeGeneric {base argument : String} (first : Balanced base.toList)
    (second : Balanced argument.toList) : Balanced (composeGeneric base argument).toList := by
  rw [toList_composeGeneric]
  exact first.apply second

/-- A text with a balanced argument is composed of one base and one argument. -/
theorem composeGeneric_injective {base argument otherBase otherArgument : String}
    (first : Balanced argument.toList) (second : Balanced otherArgument.toList)
    (same : composeGeneric base argument = composeGeneric otherBase otherArgument) :
    base = otherBase ∧ argument = otherArgument := by
  have characters := congrArg String.toList same
  rw [toList_composeGeneric, toList_composeGeneric] at characters
  have split := first.split_unique second (List.append_cancel_right characters)
  exact ⟨String.toList_inj.mp split.1, String.toList_inj.mp split.2⟩

end Registry

end ServiceStubs
