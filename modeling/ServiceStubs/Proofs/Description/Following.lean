import ServiceStubs.Proofs.Description.Soundness

/-!
# Requests that follow drawings

A request that reads and extends a sound catalog has the outcome of the drawing that needs none. An
entry that is found is what is drawn, since identities tell drawn sketches apart. A class that is
found is not described again, but drawing it would not fail: the classes in its fields have entries
as well, down to those that are being described, which a drawing does not enter either. The depth to
which classes are described within each other is enough for all classes of the module.
-/

namespace ServiceStubs

open Source (ClassRef ClassValue Fault Failure Function Value Memory Evaluating Module)
open Source.Module (compositeAtom_ok)
open Describing

variable {module : Module} {answers : Answers} {asked : Describing.Call → Prop}
variable {usual : Memory → Prop} {opened : List ClassRef}

variable (module answers asked usual opened) in
/-- Whether a request on a sound catalog has the outcome of a drawing: it gives what shows the drawn
result, or fails with the failure of the drawing. -/
structure Follows {α β : Type} (shown : Catalog → β → α → Prop) (drawn : Except Failure β)
    (request : Describing α) (before : Knowledge) : Prop where
  ok : ∀ {value : α} {after : Knowledge}, request before = .ok value after →
    ∃ result, drawn = .ok result ∧ shown after.catalog result value ∧
      Sound module answers asked usual opened after ∧ before.catalog.Keeps after.catalog
  error : ∀ {failure : Failure} {after : Knowledge}, request before = .error failure after →
    drawn = .error failure

namespace Follows

variable {α β γ δ : Type} {shown : Catalog → β → α → Prop} {laterShown : Catalog → δ → γ → Prop}
variable {drawn : Except Failure β} {request : Describing α} {before : Knowledge}

/-- A result that is given. -/
theorem pure (sound : Sound module answers asked usual opened before) {result : β} {value : α}
    (here : shown before.catalog result value) :
    Follows module answers asked usual opened shown (.ok result) (pure value) before where
  ok done := by
    obtain ⟨rfl, rfl⟩ := EStateM.Result.ok.inj done
    exact ⟨result, rfl, here, sound, .refl _⟩
  error failed := by cases failed

/-- A failure that is given. -/
theorem throw (failure : Failure) :
    Follows module answers asked usual opened shown (.error failure) (throw failure) before where
  ok done := by cases done
  error failed := by
    obtain ⟨rfl, _⟩ := EStateM.Result.error.inj failed
    rfl

/-- Requests in sequence follow drawings in sequence. -/
theorem bind {drawNext : β → Except Failure δ} {next : α → Describing γ}
    (first : Follows module answers asked usual opened shown drawn request before)
    (rest : ∀ {result : β} {value : α} {between : Knowledge}, drawn = .ok result →
      Sound module answers asked usual opened between → before.catalog.Keeps between.catalog →
      shown between.catalog result value →
      Follows module answers asked usual opened laterShown (drawNext result) (next value) between) :
    Follows module answers asked usual opened laterShown (drawn >>= drawNext) (request >>= next)
      before where
  ok done := by
    obtain ⟨value, between, started, finished⟩ := run_bind_eq_ok.mp done
    obtain ⟨result, rfl, here, sound, keeps⟩ := first.ok started
    obtain ⟨last, drawnLast, there, soundLast, also⟩ := (rest rfl sound keeps here).ok finished
    exact ⟨last, drawnLast, there, soundLast, keeps.trans also⟩
  error failed := by
    rcases run_bind_eq_error.mp failed with started | ⟨value, between, started, finished⟩
    · rw [first.error started]
      rfl
    · obtain ⟨result, rfl, here, sound, keeps⟩ := first.ok started
      exact (rest rfl sound keeps here).error finished

/-- A request after one that follows a drawing without failures. -/
theorem andThen {result : β} {drawLast : Except Failure δ} {next : α → Describing γ}
    (first : Follows module answers asked usual opened shown (.ok result) request before)
    (rest : ∀ {value : α} {between : Knowledge},
      Sound module answers asked usual opened between → before.catalog.Keeps between.catalog →
      shown between.catalog result value →
      Follows module answers asked usual opened laterShown drawLast (next value) between) :
    Follows module answers asked usual opened laterShown drawLast (request >>= next) before := by
  have sequence : drawLast = (.ok result : Except Failure β) >>= fun _ => drawLast := rfl
  rw [sequence]
  refine first.bind fun same sound keeps here => rest sound keeps ?_
  exact Except.ok.inj same ▸ here

/-- What is shown may be told otherwise. -/
theorem mono {other : Catalog → β → α → Prop}
    (follows : Follows module answers asked usual opened shown drawn request before)
    (implies : ∀ {catalog : Catalog} {result : β} {value : α}, before.catalog.Keeps catalog →
      drawn = .ok result → shown catalog result value → other catalog result value) :
    Follows module answers asked usual opened other drawn request before where
  ok done := by
    obtain ⟨result, same, here, sound, keeps⟩ := follows.ok done
    exact ⟨result, same, implies keeps same here, sound, keeps⟩
  error := follows.error

/-- A request may be given otherwise. -/
theorem congr {other : Describing α} (same : request before = other before)
    (follows : Follows module answers asked usual opened shown drawn other before) :
    Follows module answers asked usual opened shown drawn request before where
  ok done := follows.ok (same.symm.trans done)
  error failed := follows.error (same.symm.trans failed)

/-- A request that depends on the types described so far. -/
theorem ofCatalog {next : Catalog → Describing α}
    (follows : Follows module answers asked usual opened shown drawn (next before.catalog) before) :
    Follows module answers asked usual opened shown drawn (Describing.catalog >>= next) before :=
  ⟨follows.ok, follows.error⟩

/-- A request for the sake of what it enters. -/
theorem discard (follows : Follows module answers asked usual opened shown drawn request before) :
    Follows module answers asked usual opened
      (fun catalog result _ => ∃ value, shown catalog result value) drawn (discard request)
      before := by
  have drawing : drawn = drawn >>= fun result => .ok result := (bind_pure drawn).symm
  rw [Describing.discard_eq, drawing]
  exact follows.bind fun _ sound _ here => .pure sound ⟨_, here⟩

/-- An evaluation tells the answer and reads no catalog. -/
theorem ofEvaluating (sound : Sound module answers asked usual opened before)
    {answer : Except Fault α} {evaluation : Evaluating α} (tells : Tells usual answer evaluation)
    (told : Fault → Failure) :
    Follows module answers asked usual opened
      (fun catalog result value => result = value ∧ catalog = before.catalog)
      (answer.mapError told) (.ofEvaluating told evaluation) before := by
  obtain ⟨later, also, outcome⟩ := tells before.memory sound.usual
  cases answer with
  | ok value =>
    refine ⟨fun done => ?_, fun failed => ?_⟩ <;>
      simp only [Describing.ofEvaluating, outcome] at *
    · obtain ⟨rfl, rfl⟩ := EStateM.Result.ok.inj done
      exact ⟨value, rfl, ⟨rfl, rfl⟩, sound.withMemory also, .refl _⟩
    · cases failed
  | error fault =>
    refine ⟨fun done => ?_, fun failed => ?_⟩ <;>
      simp only [Describing.ofEvaluating, outcome] at *
    · cases done
    · obtain ⟨rfl, _⟩ := EStateM.Result.error.inj failed
      rfl

/-- A question of the host has its answer. -/
theorem ofHost (sound : Sound module answers asked usual opened before) (found : Except Fault α) :
    Follows module answers asked usual opened
      (fun catalog result value => result = value ∧ catalog = before.catalog)
      (found.mapError .host) (.ofHost found) before := by
  cases found with
  | ok value => exact .pure sound ⟨rfl, rfl⟩
  | error fault => exact .throw _

end Follows

/-! ## Types without fields -/

/-- How a type shows a sketch. -/
def Catalog.Sketches (catalog : Catalog) (sketch : Sketch) (type : TypeRef) : Prop :=
  catalog.sketch? type = some sketch

section

variable (orderly : Orderly module answers asked usual) {before : Knowledge}
variable (sound : Sound module answers asked usual opened before)

include orderly sound

/-- What has an identity that is drawn is the drawn sketch. -/
theorem Sound.sketch_of_find {identity : String} {type : TypeRef} {sketch : Sketch}
    (found : before.catalog.find? identity = some type)
    (drawn : Drawn module answers asked sketch) (same : sketch.identity = identity) :
    before.catalog.sketch? type = some sketch := by
  obtain ⟨other, isDrawn, identical, shown⟩ := sound.entries found
  rwa [orderly.apart drawn isDrawn (same.trans identical.symm)]

/-- An atom that is drawn is kept, whether or not it has an entry. -/
theorem keepAtom_follows {atom : Atom} (drawn : Drawn module answers asked (.atom atom))
    (bare : atom.fields = []) (plain : atom.kind ≠ .composite) :
    Follows module answers asked usual opened Catalog.Sketches (.ok (.atom atom))
      (.keepAtom atom) before where
  ok {type after} done := by
    have run : Describing.keepAtom atom before = .ok (before.catalog.keepAtom atom).1
        { before with catalog := (before.catalog.keepAtom atom).2 } := rfl
    obtain ⟨rfl, rfl⟩ := EStateM.Result.ok.inj (run.symm.trans done)
    cases found : before.catalog.find? atom.identity with
    | some earlier =>
      rw [Catalog.keepAtom_of_known found]
      exact ⟨_, rfl, sound.sketch_of_find orderly found drawn rfl, sound, .refl _⟩
    | none =>
      obtain ⟨also, keeps, _, shown⟩ := sound.push found drawn bare (List.Subset.refl opened)
        (fun _ => .inl) (fun composite => absurd composite plain)
      rw [Catalog.keepAtom_of_unknown found]
      exact ⟨_, rfl, shown, also, keeps⟩
  error failed := by cases failed

/-- A construction that is drawn is kept, whether or not it has an entry. -/
theorem keepGeneric_follows {base : TypeRef} {arguments : List TypeRef} {first : Sketch}
    {rest : List Sketch} (drawn : Drawn module answers asked (.generic first rest))
    (baseShown : before.catalog.sketch? base = some first)
    (argumentsShown : before.catalog.sketches? arguments = some rest) :
    Follows module answers asked usual opened Catalog.Sketches (.ok (.generic first rest))
      (.keepGeneric base arguments) before where
  ok {type after} done := by
    have run : Describing.keepGeneric base arguments before =
        .ok (before.catalog.keepGeneric base arguments).1
          { before with catalog := (before.catalog.keepGeneric base arguments).2 } := rfl
    obtain ⟨rfl, rfl⟩ := EStateM.Result.ok.inj (run.symm.trans done)
    have shown := Catalog.sketch?_generic baseShown argumentsShown
    have identity : before.catalog.graph.composedIdentity base arguments =
        (Sketch.generic first rest).identity := Catalog.identity_of_sketch? shown
    cases found : before.catalog.find? (before.catalog.graph.composedIdentity base arguments) with
    | some earlier =>
      rw [Catalog.keepGeneric_of_known found]
      exact ⟨_, rfl, sound.sketch_of_find orderly (identity ▸ found) drawn rfl, sound, .refl _⟩
    | none =>
      obtain ⟨also, keeps⟩ := sound.enter shown drawn (identity ▸ found)
      rw [Catalog.keepGeneric_of_unknown found]
      exact ⟨_, rfl, keeps.sketch? shown, also, keeps⟩
  error failed := by cases failed

/-- A type of lists is kept. -/
theorem keepList_follows {arguments : List TypeRef} {rest : List Sketch}
    (drawn : Drawn module answers asked (.generic listSketch rest))
    (shown : before.catalog.sketches? arguments = some rest) :
    Follows module answers asked usual opened Catalog.Sketches (.ok (.generic listSketch rest))
      (.keepList arguments) before :=
  (keepAtom_follows orderly sound .list rfl nofun).andThen fun also keeps here =>
    keepGeneric_follows orderly also drawn here (keeps.sketches? shown)

/-- A type that is known by its displayed form is kept. -/
theorem keepDisplayed_follows {value : Value}
    (drawn : ∀ sketch, drawDisplayed value = .ok sketch → Drawn module answers asked sketch) :
    Follows module answers asked usual opened Catalog.Sketches (drawDisplayed value)
      (keepDisplayed value) before := by
  cases shown : value.displayed with
  | error fault =>
    rw [drawDisplayed, keepDisplayed, shown]
    exact Follows.bind (.ofHost sound (.error fault)) fun same => nomatch same
  | ok text =>
    have isDrawn := drawn (.atom (.primitive text)) (by rw [drawDisplayed, shown]; rfl)
    rw [drawDisplayed, keepDisplayed, shown]
    refine Follows.andThen (.ofHost sound (.ok text)) fun also _ same => ?_
    obtain ⟨rfl, _⟩ := same
    exact keepAtom_follows orderly also isDrawn rfl nofun

/-! ## Annotations -/

/-- A value that is kept by its displayed form is shown when that is all that is drawn of it. -/
theorem displayed_follows {value : Value} (occurs : Occurs module answers asked value)
    (alone : drawValue module answers (classSketch module answers) value = drawDisplayed value)
    (visited : ∀ reference ∈ visits module answers value, before.catalog.Knows reference) :
    Follows module answers asked usual opened (Shown module answers value) (drawDisplayed value)
      (keepDisplayed value) before :=
  (keepDisplayed_follows orderly sound fun _ same => .ofValue occurs (alone.trans same)).mono
    fun keeps same shown => ⟨alone.trans same, shown, fun reference member =>
      keeps.isSome_find? (visited reference member)⟩

/-- A value that is kept as a type of lists is shown when that is what is drawn of it. -/
theorem list_follows {value : Value} (occurs : Occurs module answers asked value)
    {arguments : List TypeRef} {rest : List Sketch}
    (alone : drawValue module answers (classSketch module answers) value =
      .ok (.generic listSketch rest))
    (visited : ∀ reference ∈ visits module answers value, before.catalog.Knows reference)
    (shown : before.catalog.sketches? arguments = some rest) :
    Follows module answers asked usual opened (Shown module answers value)
      (.ok (.generic listSketch rest)) (.keepList arguments) before :=
  (keepList_follows orderly sound (.ofValue occurs alone) shown).mono
    fun keeps same shown => ⟨alone.trans same, shown, fun reference member =>
      keeps.isSome_find? (visited reference member)⟩

/-- A value that is compared with the list types is described as it is drawn. -/
theorem compared_follows {value : Value} (occurs : Occurs module answers asked value)
    (unusual : value.isUnusual)
    (alone : drawValue module answers (classSketch module answers) value = do
      if ← (answers.listLike value).mapError .host then return .generic listSketch []
      else drawDisplayed value)
    (visited : visits module answers value = []) :
    Follows module answers asked usual opened (Shown module answers value)
      (do
        if ← (answers.listLike value).mapError .host then return .generic listSketch []
        else drawDisplayed value)
      (do
        if ← .ofEvaluating .host (module.seemsListLike value) then .keepList []
        else keepDisplayed value) before := by
  refine (Follows.ofEvaluating sound (orderly.listLike occurs unusual) .host).bind
    fun {found _ _} same also _ told => ?_
  obtain ⟨rfl, _⟩ := told
  rw [same] at alone
  cases found with
  | true => exact list_follows orderly also occurs alone (by simp [visited]) rfl
  | false => exact displayed_follows orderly also occurs alone (by simp [visited])

/-- A plain value is described as it is drawn. -/
theorem describeDatum_follows {datum : Datum}
    (occurs : Occurs module answers asked (.constant datum)) :
    Follows module answers asked usual opened Catalog.Sketches (drawDatum datum)
      (describeDatum datum) before := by
  have drawn (sketch : Sketch) (same : drawDatum datum = .ok sketch) :
      Drawn module answers asked sketch := .ofValue occurs same
  cases datum with
  | missing => exact keepAtom_follows orderly sound (drawn _ rfl) rfl nofun
  | _ => exact keepDisplayed_follows orderly sound drawn

omit orderly in
/-- Values that are described one after the other for the sake of what they enter. -/
theorem forM_follows {α : Type} {draw : α → Except Failure Sketch}
    {describe : α → Describing TypeRef} {values : List α}
    (each : ∀ value ∈ values, ∀ {before : Knowledge},
      Sound module answers asked usual opened before →
      Follows module answers asked usual opened Catalog.Sketches (draw value) (describe value)
        before) :
    Follows module answers asked usual opened (fun _ _ _ => True) (drawEach draw values)
      (values.forM fun value => discard (describe value)) before := by
  induction values generalizing before with
  | nil => exact .pure sound trivial
  | cons value rest ih =>
    refine Follows.bind (each value List.mem_cons_self sound).discard fun _ also _ _ => ?_
    exact ih also fun other member => each other (List.mem_cons_of_mem value member)

/-- The hints of the fields of a class are those that are drawn. -/
theorem fieldHints_follows {reference : ClassRef}
    (occurs : Occurs module answers asked (.user reference)) :
    Follows module answers asked usual opened
      (fun catalog result value => result = value ∧ catalog = before.catalog)
      (drawHints answers reference) (module.fieldHints (.user reference)) before := by
  refine Follows.bind (.ofEvaluating sound (orderly.classHints occurs) _) fun _ also _ same => ?_
  obtain ⟨rfl, unchanged⟩ := same
  exact .pure also ⟨rfl, unchanged⟩

/-- Whether a class has fields is told as it is drawn. -/
theorem isComposite_follows {reference : ClassRef}
    (occurs : Occurs module answers asked (.user reference)) :
    Follows module answers asked usual opened
      (fun catalog result value => result = value ∧ catalog = before.catalog)
      (drawsFields module answers reference) (module.isComposite (.user reference)) before := by
  unfold drawsFields Module.isComposite
  by_cases record : module.isRecord (.user reference)
  · rw [if_pos record, if_pos record]
    exact .pure sound ⟨rfl, rfl⟩
  · have moduleName : (ClassValue.user reference).moduleName = reference.moduleName := rfl
    rw [if_neg record, if_neg record, moduleName]
    by_cases framework : Source.frameworkModules.contains reference.moduleName
    · rw [if_pos framework, if_pos framework]
      exact .pure sound ⟨rfl, rfl⟩
    · rw [if_neg framework, if_neg framework]
      refine (fieldHints_follows orderly sound occurs).bind fun _ also _ same => ?_
      obtain ⟨rfl, unchanged⟩ := same
      exact .pure also ⟨rfl, unchanged⟩

end

/-! ## Classes in annotations -/

variable (module answers) in
/-- How a type shows a class: it has the sketch of the class, and the class has an entry. -/
structure ShownClass (reference : ClassRef) (catalog : Catalog) (sketch : Sketch)
    (type : TypeRef) : Prop where
  drawn : classSketch module answers reference = .ok sketch
  sketch : catalog.sketch? type = some sketch
  known : catalog.Knows reference

variable (module answers) in
/-- How types show what is drawn of annotations, one by one. -/
structure ShownAll (values : List Value) (catalog : Catalog) (sketches : List Sketch)
    (types : List TypeRef) : Prop where
  drawn : drawValues module answers (classSketch module answers) values = .ok sketches
  sketches : catalog.sketches? types = some sketches
  visited : ∀ reference ∈ visitsOfAll module answers values, catalog.Knows reference

variable (module answers asked usual opened) in
/-- Whether classes that occur are described as they are drawn. -/
def ClassesFollow (draw : ClassRef → Except Failure Sketch)
    (describeClass : ClassRef → Describing TypeRef) : Prop :=
  ∀ {reference : ClassRef} {before : Knowledge}, Occurs module answers asked (.user reference) →
    Sound module answers asked usual opened before →
    Follows module answers asked usual opened (ShownClass module answers reference)
      (draw reference) (describeClass reference) before

/-- A class stays known. -/
theorem Catalog.Keeps.knows {earlier later : Catalog} (keeps : earlier.Keeps later)
    {reference : ClassRef} (known : earlier.Knows reference) : later.Knows reference :=
  keeps.isSome_find? known

section

variable (orderly : Orderly module answers asked usual)
variable {draw : ClassRef → Except Failure Sketch} {describeClass : ClassRef → Describing TypeRef}
variable (classes : ClassesFollow module answers asked usual opened draw describeClass)

include orderly classes

/-- A class that is not applied is described as it is drawn. -/
theorem describeBareClass_follows {before : Knowledge}
    (sound : Sound module answers asked usual opened before) {value : ClassValue}
    (occurs : Occurs module answers asked (.classValue value)) :
    Follows module answers asked usual opened (Shown module answers (.classValue value))
      (drawBareClass draw value) (describeBareClass describeClass value) before := by
  cases value with
  | standard value =>
    have alone : drawValue module answers (classSketch module answers)
        (.classValue (.standard value)) = .ok (standardSketch value) := rfl
    have drawn : Drawn module answers asked (standardSketch value) := .ofValue occurs alone
    have kept : Follows module answers asked usual opened Catalog.Sketches
        (.ok (standardSketch value)) (describeBareClass describeClass (.standard value))
        before := by
      unfold standardSketch at drawn ⊢
      unfold describeBareClass
      dsimp only
      cases shared : sharedIdentity? value with
      | some identity =>
        rw [shared] at drawn
        exact keepAtom_follows orderly sound drawn rfl nofun
      | none =>
        rw [shared] at drawn
        dsimp only at drawn ⊢
        split_ifs at drawn ⊢
        · exact keepList_follows orderly sound drawn rfl
        · exact keepAtom_follows orderly sound drawn rfl nofun
        · exact keepAtom_follows orderly sound drawn rfl nofun
    exact kept.mono fun _ same shown => ⟨alone.trans same, shown, by simp [visits]⟩
  | user reference =>
    refine (classes occurs sound).bind fun {sketch type between} _ also keeps shown => ?_
    have parameters := Catalog.typeParameters_of_sketch? shown.sketch
    have identity := Catalog.identity_of_sketch? shown.sketch
    have visited : ∀ other ∈ visits module answers (.classValue (.user reference)),
        between.catalog.Knows other := by simp [visits, shown.known]
    have alone : drawValue module answers (classSketch module answers)
        (.classValue (.user reference)) = if sketch.typeParameters.isEmpty then pure sketch
          else throw (.stub (.genericArity sketch.identity 0)) := by
      rw [drawValue, drawBareClass, shown.drawn]
      rfl
    refine Follows.ofCatalog ?_
    dsimp only
    rw [parameters, identity]
    cases empty : sketch.typeParameters.isEmpty with
    | true =>
      simp only [empty, if_true] at alone ⊢
      exact .pure also ⟨alone, shown.sketch, visited⟩
    | false =>
      simp only [Bool.false_eq_true, if_false]
      exact .throw _

/-- A class that is applied is described as it is drawn. -/
theorem describeApplication_follows {before : Knowledge}
    (sound : Sound module answers asked usual opened before) {value : Value} {origin : ClassValue}
    {arguments : List Value} {types : List TypeRef} {sketches : List Sketch}
    (occurs : Occurs module answers asked value)
    (occursOrigin : Occurs module answers asked (.classValue origin))
    (alone : drawValue module answers (classSketch module answers) value =
      drawApplication module answers (classSketch module answers) value origin sketches)
    (visited : visits module answers value =
      visitsOfAll module answers arguments ++ originVisits module answers origin)
    (shown : ShownAll module answers arguments before.catalog sketches types) :
    Follows module answers asked usual opened (Shown module answers value)
      (drawApplication module answers draw value origin sketches)
      (describeApplication module describeClass value origin types) before := by
  cases origin with
  | standard standard =>
    rw [originVisits, List.append_nil] at visited
    rw [drawApplication] at alone ⊢
    rw [describeApplication]
    split_ifs at alone ⊢
    · exact list_follows orderly sound occurs alone (visited ▸ shown.visited) shown.sketches
    · exact displayed_follows orderly sound occurs alone (visited ▸ shown.visited)
  | user reference =>
    rw [drawApplication] at alone ⊢
    rw [describeApplication]
    refine (isComposite_follows orderly sound occursOrigin).bind
      fun {found _ between} same also keeps told => ?_
    obtain ⟨rfl, unchanged⟩ := told
    -- The class counts as visited only when its fields are drawn.
    rw [same] at alone
    rw [originVisits, same] at visited
    cases found with
    | false =>
      rw [List.append_nil] at visited
      exact displayed_follows orderly also occurs alone fun reference member =>
        keeps.knows (shown.visited reference (visited ▸ member))
    | true =>
      refine (classes occursOrigin also).bind
        fun {template type later} _ alsoLater keptClass shownClass => ?_
      have whole : drawValue module answers (classSketch module answers) value =
          .ok (.generic template sketches) := by
        rw [alone]
        simp only [bind, Except.bind, if_true, shownClass.drawn]
        rfl
      have kept := keeps.trans keptClass
      refine (keepGeneric_follows orderly alsoLater (.ofValue occurs whole) shownClass.sketch
        (kept.sketches? shown.sketches)).mono fun since same here => ?_
      refine ⟨whole.trans same, here, fun other member => ?_⟩
      rw [visited] at member
      rcases List.mem_append.mp member with inArguments | inOrigin
      · exact since.knows (kept.knows (shown.visited other inArguments))
      · rw [List.mem_singleton.mp inOrigin]
        exact since.knows shownClass.known

end

mutual

/-- An annotation is described as it is drawn. -/
theorem describeValue_follows (orderly : Orderly module answers asked usual)
    {draw : ClassRef → Except Failure Sketch} {describeClass : ClassRef → Describing TypeRef}
    (classes : ClassesFollow module answers asked usual opened draw describeClass)
    (value : Value) {before : Knowledge}
    (sound : Sound module answers asked usual opened before)
    (occurs : Occurs module answers asked value) :
    Follows module answers asked usual opened (Shown module answers value)
      (drawValue module answers draw value) (describeValue module describeClass value) before := by
  cases value with
  | constant datum =>
    exact (describeDatum_follows orderly sound occurs).mono fun _ same shown =>
      ⟨same, shown, by simp [visits]⟩
  | typeVariable binder =>
    exact (keepAtom_follows orderly sound (.ofValue occurs rfl) rfl nofun).mono
      fun _ same shown => ⟨same, shown, by simp [visits]⟩
  | classValue value => exact describeBareClass_follows orderly classes sound occurs
  | bareAlias word =>
    have alone : drawValue module answers (classSketch module answers) (.bareAlias word) =
        .ok (if word.origin.isListLike then .generic listSketch []
          else .atom (.primitive word.text)) :=
      rfl
    rw [drawValue, describeValue]
    split_ifs at alone ⊢
    · exact list_follows orderly sound occurs alone (by simp [visits]) rfl
    · exact (keepAtom_follows orderly sound (.ofValue occurs alone) rfl nofun).mono
        fun _ same shown => ⟨alone.trans same, shown, by simp [visits]⟩
  | builtinOf origin arguments | templateOf origin arguments =>
    -- The origin comes after its arguments, as in the description.
    have inside : ∀ argument ∈ arguments, Occurs module answers asked argument :=
      fun argument member => .part occurs (List.mem_cons_of_mem _ member)
    refine (describeValues_follows orderly classes arguments sound inside).bind
      fun _ also _ shown => ?_
    refine describeApplication_follows orderly classes also occurs
      (.part occurs List.mem_cons_self) ?_ ?_ shown
    · rw [drawValue, shown.drawn]
      rfl
    · rw [visits]
  | aliasOf word arguments =>
    have inside : ∀ argument ∈ arguments, Occurs module answers asked argument :=
      fun argument member => .part occurs member
    refine (describeValues_follows orderly classes arguments sound inside).bind
      fun {sketches _ _} _ also _ shown => ?_
    have alone : drawValue module answers (classSketch module answers) (.aliasOf word arguments) =
        if word.origin.isListLike then .ok (.generic listSketch sketches)
        else drawDisplayed (.aliasOf word arguments) := by
      rw [drawValue, shown.drawn]
      rfl
    split_ifs at alone ⊢
    · exact list_follows orderly also occurs alone (by rw [visits]; exact shown.visited)
        shown.sketches
    · exact displayed_follows orderly also occurs alone (by rw [visits]; exact shown.visited)
  | qualified word argument =>
    refine (describeValue_follows orderly classes argument sound
      (.part occurs List.mem_cons_self)).discard.bind fun _ also _ shown => ?_
    obtain ⟨_, shown⟩ := shown
    exact displayed_follows orderly also occurs (by rw [drawValue, shown.drawn]; rfl)
      (by rw [visits]; exact shown.visited)
  | union members | alternatives members =>
    refine (describeValues_follows orderly classes members sound
      fun member inside => .part occurs inside).discard.bind fun _ also _ shown => ?_
    obtain ⟨_, shown⟩ := shown
    exact displayed_follows orderly also occurs (by rw [drawValue, shown.drawn]; rfl)
      (by rw [visits]; exact shown.visited)
  | literal values =>
    refine (forM_follows sound fun datum member before sound => describeDatum_follows orderly sound
      (.part occurs (List.mem_map_of_mem member))).bind fun same also _ _ => ?_
    exact displayed_follows orderly also occurs (by rw [drawValue, same]; rfl) (by simp [visits])
  | callable arguments result =>
    refine (keepDisplayed_follows orderly sound fun _ drawn => .arguments occurs drawn
      ).discard.bind fun listed also _ _ => ?_
    refine (describeValue_follows orderly classes result also
      (.part occurs List.mem_cons_self)).discard.bind fun _ also _ shown => ?_
    obtain ⟨_, shown⟩ := shown
    exact displayed_follows orderly also occurs (by rw [drawValue, listed, shown.drawn]; rfl)
      (by rw [visits]; exact shown.visited)
  | annotated inner notes =>
    refine (describeValue_follows orderly classes inner sound
      (.part occurs List.mem_cons_self)).discard.bind fun _ also _ shown => ?_
    obtain ⟨_, shown⟩ := shown
    refine (forM_follows also fun note member before sound => describeDatum_follows orderly sound
      (.part occurs (List.mem_cons_of_mem _ (List.mem_map_of_mem member)))).bind
      fun same later keeps _ => ?_
    exact displayed_follows orderly later occurs (by rw [drawValue, shown.drawn, same]; rfl)
      (by rw [visits]; exact fun reference member => keeps.knows (shown.visited reference member))
  | _ => exact compared_follows orderly sound occurs rfl rfl rfl

/-- Several annotations are described as they are drawn. -/
theorem describeValues_follows (orderly : Orderly module answers asked usual)
    {draw : ClassRef → Except Failure Sketch} {describeClass : ClassRef → Describing TypeRef}
    (classes : ClassesFollow module answers asked usual opened draw describeClass)
    (values : List Value) {before : Knowledge}
    (sound : Sound module answers asked usual opened before)
    (occurs : ∀ value ∈ values, Occurs module answers asked value) :
    Follows module answers asked usual opened (ShownAll module answers values)
      (drawValues module answers draw values) (describeValues module describeClass values)
      before := by
  cases values with
  | nil => exact .pure sound ⟨rfl, rfl, by simp [visitsOfAll]⟩
  | cons value rest =>
    refine (describeValue_follows orderly classes value sound
      (occurs value List.mem_cons_self)).bind fun _ also _ here => ?_
    refine (describeValues_follows orderly classes rest also fun other member =>
      occurs other (List.mem_cons_of_mem value member)).bind fun _ later keeps others => ?_
    refine .pure later ⟨?_, ?_, fun reference member => ?_⟩
    · rw [drawValues, here.drawn, others.drawn]
      rfl
    · exact Catalog.sketches?_cons.mpr ⟨_, _, keeps.sketch? here.sketch, others.sketches, rfl⟩
    · rw [visitsOfAll] at member
      rcases List.mem_append.mp member with inHere | inRest
      · exact keeps.knows (here.visited reference inHere)
      · exact others.visited reference inRest

end

end ServiceStubs
