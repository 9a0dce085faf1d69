import Mathlib.Data.List.Forall2

/-!
# Results in sequence

A sequence of steps that may fail has a result exactly when each step has one, and a list is
mapped by such a step exactly when every member is; steps that change a state hand it on. Lists
related member by member stay related when the relation is refined at the members of the first.
-/

namespace ServiceStubs

variable {ε α β : Type}

/-- A relation of lists may be refined at the members of the first list. -/
theorem forall₂_imp_of_mem {coarse fine : α → β → Prop} {values : List α} {results : List β}
    (related : List.Forall₂ coarse values results)
    (refined : ∀ value ∈ values, ∀ result, coarse value result → fine value result) :
    List.Forall₂ fine values results :=
  ((List.forall₂_and_left _ _).mpr ⟨refined, related⟩).imp
    fun _ result both => both.1 result both.2

/-- Every member of the first of two related lists is related to one of the second. -/
theorem exists_of_forall₂ {relation : α → β → Prop} {values : List α} {results : List β}
    (related : List.Forall₂ relation values results) {value : α} (member : value ∈ values) :
    ∃ result ∈ results, relation value result := by
  induction related with
  | nil => cases member
  | cons here _ ih =>
    rcases List.mem_cons.mp member with rfl | inRest
    · exact ⟨_, List.mem_cons_self, here⟩
    · obtain ⟨result, listed, there⟩ := ih inRest
      exact ⟨result, List.mem_cons_of_mem _ listed, there⟩

/-- Lists whose members agree in order under two functions have the same images. -/
theorem map_eq_of_forall₂ {γ : Type} {image : α → γ} {other : β → γ} {values : List α}
    {results : List β}
    (related : List.Forall₂ (fun value result => other result = image value) values results) :
    results.map other = values.map image := by
  induction related with
  | nil => rfl
  | cons same _ ih => rw [List.map_cons, List.map_cons, same, ih]

/-- Two steps have a result when the first has one from which the second has it. -/
theorem bind_eq_ok {first : Except ε α} {next : α → Except ε β} {result : β} :
    (first >>= next) = .ok result ↔ ∃ value, first = .ok value ∧ next value = .ok result := by
  cases first with
  | error failure => simp [bind, Except.bind]
  | ok value => simp [bind, Except.bind]

/-- Two steps fail when the first one does, or when the second one does from what the first one
gives. -/
theorem bind_eq_error {first : Except ε α} {next : α → Except ε β} {failure : ε} :
    (first >>= next) = .error failure ↔
      first = .error failure ∨ ∃ value, first = .ok value ∧ next value = .error failure := by
  cases first with
  | error earlier => simp [bind, Except.bind]
  | ok value => simp [bind, Except.bind]

/-- Two steps with a state have a result when the first has one and the second has it from the
state that the first leaves. -/
theorem run_bind_eq_ok {σ : Type} {first : EStateM ε σ α} {next : α → EStateM ε σ β}
    {before after : σ} {result : β} :
    (first >>= next) before = .ok result after ↔
      ∃ value between, first before = .ok value between ∧
        next value between = .ok result after := by
  cases outcome : first before with
  | ok value between => simp [bind, EStateM.bind, outcome]
  | error failure between => simp [bind, EStateM.bind, outcome]

/-- Two steps with a state go on from what a first step with a result leaves. -/
theorem run_bind_of_ok {σ : Type} {first : EStateM ε σ α} {next : α → EStateM ε σ β}
    {before between : σ} {value : α} (done : first before = .ok value between) :
    (first >>= next) before = next value between := by
  simp [bind, EStateM.bind, done]

/-- Two steps with a state fail when the first one does, or when the second one does from the state
that the first leaves. -/
theorem run_bind_eq_error {σ : Type} {first : EStateM ε σ α} {next : α → EStateM ε σ β}
    {before after : σ} {failure : ε} :
    (first >>= next) before = .error failure after ↔
      first before = .error failure after ∨
      ∃ value between, first before = .ok value between ∧
        next value between = .error failure after := by
  cases outcome : first before with
  | ok value between => simp [bind, EStateM.bind, outcome]
  | error earlier between => simp [bind, EStateM.bind, outcome]

/-- A result is changed when there is one. -/
theorem map_eq_ok {change : α → β} {first : Except ε α} {result : β} :
    first.map change = .ok result ↔ ∃ value, first = .ok value ∧ change value = result := by
  cases first with
  | error failure => simp [Except.map]
  | ok value => simp [Except.map]

/-- A change of the result changes no failure. -/
theorem map_eq_error {change : α → β} {first : Except ε α} {failure : ε} :
    first.map change = .error failure ↔ first = .error failure := by
  cases first with
  | error earlier => simp [Except.map]
  | ok value => simp [Except.map]

/-- A change of the failure changes no result. -/
theorem mapError_eq_ok {ζ : Type} {change : ε → ζ} {first : Except ε α} {result : α} :
    first.mapError change = .ok result ↔ first = .ok result := by
  cases first with
  | error failure => simp [Except.mapError]
  | ok value => simp [Except.mapError]

/-- A sequence that gives something has it as its result. -/
theorem eq_ok_of_toOption {first : Except ε α} {value : α} (given : first.toOption = some value) :
    first = .ok value := by
  cases first with
  | ok found => exact congrArg Except.ok (Option.some.inj given)
  | error failure => cases given

/-- A list is mapped when each of its members is, in order. -/
theorem mapM_eq_ok {step : α → Except ε β} {values : List α} {results : List β} :
    values.mapM step = .ok results ↔
      List.Forall₂ (fun value result => step value = .ok result) values results := by
  induction values generalizing results with
  | nil =>
    rw [List.mapM_nil, List.forall₂_nil_left_iff]
    exact ⟨fun same => (Except.ok.inj same).symm, fun empty => empty ▸ rfl⟩
  | cons value rest ih =>
    rw [List.mapM_cons, bind_eq_ok]
    constructor
    · rintro ⟨first, here, others⟩
      obtain ⟨later, mapped, same⟩ := bind_eq_ok.mp others
      obtain rfl : first :: later = results := Except.ok.inj same
      exact .cons here (ih.mp mapped)
    · rintro (_ | ⟨here, others⟩)
      exact ⟨_, here, bind_eq_ok.mpr ⟨_, ih.mpr others, rfl⟩⟩

/-- A list is mapped by a step that has a result for each of its members. -/
theorem exists_mapM {step : α → Except ε β} {values : List α}
    (each : ∀ value ∈ values, ∃ result, step value = .ok result) :
    ∃ results, values.mapM step = .ok results := by
  induction values with
  | nil => exact ⟨[], rfl⟩
  | cons value rest ih =>
    obtain ⟨result, here⟩ := each value List.mem_cons_self
    obtain ⟨results, others⟩ :=
      ih fun other member => each other (List.mem_cons_of_mem value member)
    rw [List.mapM_cons]
    exact ⟨_, bind_eq_ok.mpr ⟨_, here, bind_eq_ok.mpr ⟨_, others, rfl⟩⟩⟩

end ServiceStubs
