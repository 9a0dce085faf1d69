import Mathlib.Data.List.Forall2

/-!
# Outcomes that agree

Two computations that may fail agree when both have results that are related or both have failures
that are related. Agreement is carried through sequences and lists, so that two runs of one program
on related inputs are compared step by step.
-/

namespace ServiceStubs

variable {ε ζ α β γ δ : Type}

/-- Whether two outcomes are both results that are related, or both failures that are related. -/
inductive Agree (failures : ε → ζ → Prop) (results : α → β → Prop) :
    Except ε α → Except ζ β → Prop
  /-- Both have a result. -/
  | ok {first : α} {second : β} (related : results first second) :
      Agree failures results (.ok first) (.ok second)
  /-- Both fail. -/
  | error {first : ε} {second : ζ} (related : failures first second) :
      Agree failures results (.error first) (.error second)

namespace Agree

variable {failures : ε → ζ → Prop} {results : α → β → Prop} {laterResults : γ → δ → Prop}
variable {first : Except ε α} {second : Except ζ β}

/-- Results may be related more coarsely. -/
theorem mono {coarser : α → β → Prop} (agree : Agree failures results first second)
    (implies : ∀ left right, results left right → coarser left right) :
    Agree failures coarser first second := by
  cases agree with
  | ok related => exact .ok (implies _ _ related)
  | error related => exact .error related

/-- Sequences agree when their first steps do and their second steps do from related results. -/
theorem bind {next : α → Except ε γ} {other : β → Except ζ δ}
    (agree : Agree failures results first second)
    (rest : ∀ left right, results left right →
      Agree failures laterResults (next left) (other right)) :
    Agree failures laterResults (first >>= next) (second >>= other) := by
  cases agree with
  | ok related => exact rest _ _ related
  | error related => exact .error related

/-- Changed results agree when the changes take related results to related ones. -/
theorem map {change : α → γ} {other : β → δ} (agree : Agree failures results first second)
    (changed : ∀ left right, results left right → laterResults (change left) (other right)) :
    Agree failures laterResults (first.map change) (second.map other) := by
  cases agree with
  | ok related => exact .ok (changed _ _ related)
  | error related => exact .error related

/-- Lists that are related member by member are mapped alike by steps that agree. -/
theorem mapM {step : α → Except ε γ} {other : β → Except ζ δ} {values : List α} {others : List β}
    (related : List.Forall₂ results values others)
    (steps : ∀ left right, results left right →
      Agree failures laterResults (step left) (other right)) :
    Agree failures (List.Forall₂ laterResults) (values.mapM step) (others.mapM other) := by
  induction related with
  | nil => exact .ok .nil
  | cons here _ ih =>
    rw [List.mapM_cons, List.mapM_cons]
    refine (steps _ _ here).bind fun head otherHead heads => ?_
    exact ih.bind fun tail otherTail tails => .ok (.cons heads tails)

/-- Lists that are mapped to equal members are mapped to one list. -/
theorem mapM_eq {step : α → Except ε γ} {other : β → Except ζ γ} {values : List α}
    {others : List β} (related : List.Forall₂ results values others)
    (steps : ∀ left right, results left right → Agree failures Eq (step left) (other right)) :
    Agree failures Eq (values.mapM step) (others.mapM other) :=
  (mapM related steps).mono fun _ _ same => List.forall₂_eq_eq_eq ▸ same

end Agree

end ServiceStubs
