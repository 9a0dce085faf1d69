import ServiceStubs.Proofs.Description.Entering
import ServiceStubs.Proofs.Stub.Correspondence

/-!
# Comparison of describers

A request that follows a drawing has one outcome whatever else its describer knows. So two
describers with sound catalogs answer it alike: with the same failure, or with results that have the
same sketches. Types with one sketch correspond, because the fields of a composite are told by its
class. They even have the same identities, so what the answers differ in is how their parts are
shared.
-/

namespace ServiceStubs

open Source (ClassRef ClassValue Failure Fault Function Value Memory Evaluating Module)
open Source.Module (functionFailure unannotated)
open TypeGraph (Correspondence FieldsAlike)
open Describing

variable {module : Module} {answers : Answers} {asked : Describing.Call → Prop}
variable {usual : Memory → Prop}

/-! ## Types with one sketch -/

/-- Whether types of two catalogs have one sketch. -/
def Catalog.SameSketch (left right : Catalog) (first second : TypeRef) : Prop :=
  ∃ sketch, left.sketch? first = some sketch ∧ right.sketch? second = some sketch

namespace Catalog.SameSketch

variable {left right : Catalog}

/-- Types keep having one sketch. -/
theorem keep {laterLeft laterRight : Catalog} {first second : TypeRef}
    (same : left.SameSketch right first second) (keepsLeft : left.Keeps laterLeft)
    (keepsRight : right.Keeps laterRight) : laterLeft.SameSketch laterRight first second := by
  obtain ⟨sketch, shown, alsoShown⟩ := same
  exact ⟨sketch, keepsLeft.sketch? shown, keepsRight.sketch? alsoShown⟩

/-- Types with one sketch have one identity. -/
theorem identity_eq {first second : TypeRef} (same : left.SameSketch right first second) :
    left.graph.identity first = right.graph.identity second := by
  obtain ⟨sketch, shown, alsoShown⟩ := same
  rw [identity_of_sketch? shown, identity_of_sketch? alsoShown]

/-- Lists of types with the same sketches are related member by member. -/
theorem of_sketches {types others : List TypeRef} {sketches : List Sketch}
    (shown : left.sketches? types = some sketches)
    (alsoShown : right.sketches? others = some sketches) :
    List.Forall₂ (left.SameSketch right) types others := by
  induction types generalizing others sketches with
  | nil =>
    obtain rfl := Option.some.inj shown
    cases others with
    | nil => exact .nil
    | cons other rest =>
      obtain ⟨_, _, _, _, impossible⟩ := sketches?_cons.mp alsoShown
      cases impossible
  | cons type rest ih =>
    obtain ⟨first, later, here, elsewhere, rfl⟩ := sketches?_cons.mp shown
    cases others with
    | nil => cases alsoShown
    | cons other others =>
      obtain ⟨_, _, alsoHere, alsoElsewhere, same⟩ := sketches?_cons.mp alsoShown
      obtain ⟨rfl, rfl⟩ := List.cons.inj same
      exact .cons ⟨first, here, alsoHere⟩ (ih elsewhere alsoElsewhere)

end Catalog.SameSketch

/-- Fields that show the same hints are alike. -/
theorem ShowsHints.alike {left right : Catalog} {hints : List (String × Value)}
    {fields others : List Field} (shown : ShowsHints module answers left hints fields)
    (alsoShown : ShowsHints module answers right hints others) :
    List.Forall₂ (FieldsAlike (left.SameSketch right)) fields others := by
  induction shown generalizing others with
  | nil =>
    obtain rfl := List.forall₂_nil_left_iff.mp alsoShown
    exact .nil
  | cons here _ ih =>
    obtain ⟨other, rest, there, elsewhere, rfl⟩ := List.forall₂_cons_left_iff.mp alsoShown
    obtain ⟨named, sketch, shown⟩ := here
    obtain ⟨alsoNamed, also, alsoShown⟩ := there
    obtain rfl := Except.ok.inj (shown.drawn.symm.trans alsoShown.drawn)
    exact .cons ⟨named.trans alsoNamed.symm, sketch, shown.sketch, alsoShown.sketch⟩
      (ih elsewhere)

section

variable {left right : Knowledge} (orderly : Orderly module answers asked usual)
variable (first : Sound module answers asked usual [] left)
variable (second : Sound module answers asked usual [] right)

include orderly first second

/-- Atoms that are alike but for their fields have fields that are alike. -/
theorem Sound.fields_alike {index place : Nat} {atom other : Atom}
    (entered : left.catalog.atomAt? index = some atom)
    (alsoEntered : right.catalog.atomAt? place = some other) (same : atom.bare = other.bare) :
    List.Forall₂ (FieldsAlike (left.catalog.SameSketch right.catalog)) atom.fields
      other.fields := by
  obtain ⟨kinds, identities, _⟩ := Atom.mk.inj same
  by_cases composite : atom.kind = .composite
  · obtain ⟨reference, occurs, _, found, opened | ⟨hints, told, shown⟩⟩ :=
      first.composites entered composite
    · cases opened
    obtain ⟨owner, alsoOccurs, _, alsoFound, opened | ⟨alsoHints, alsoTold, alsoShown⟩⟩ :=
      second.composites alsoEntered (kinds ▸ composite)
    · cases opened
    have owners := (first.identity_of_find found entered).symm.trans
      (identities.trans (second.identity_of_find alsoFound alsoEntered))
    obtain rfl := orderly.classes occurs alsoOccurs owners
    obtain rfl := Except.ok.inj (told.symm.trans alsoTold)
    exact shown.alike alsoShown
  · rw [first.plain entered composite, second.plain alsoEntered (kinds ▸ composite)]
    exact .nil

/-- The types of two sound catalogs correspond when they have one sketch. -/
theorem Sound.corresponds :
    left.catalog.graph.Correspondence right.catalog.graph
      (left.catalog.SameSketch right.catalog) where
  same alike other := by rw [alike.identity_eq, other.identity_eq]
  alike {type counterpart} alike := by
    obtain ⟨sketch, shown, alsoShown⟩ := alike
    cases type with
    | atom index =>
      obtain ⟨atom, entered, rfl⟩ := Catalog.sketch?_atom.mp shown
      cases counterpart with
      | apply identity name base arguments =>
        obtain ⟨_, _, _, _, impossible⟩ := Catalog.sketch?_apply.mp alsoShown
        cases impossible
      | atom place =>
        obtain ⟨other, alsoEntered, same⟩ := Catalog.sketch?_atom.mp alsoShown
        have bare : atom.bare = other.bare := Sketch.atom.inj same
        obtain ⟨kinds, _, names, _, members, typeParameters⟩ := Atom.mk.inj bare
        have here := Catalog.graph_atom entered
        have there := Catalog.graph_atom alsoEntered
        rw [← here, ← there] at kinds names members typeParameters
        refine ⟨congrArg AtomKind.kind kinds, names, members, typeParameters, ?_, .none, .nil⟩
        -- A sketch leaves the fields open, since these may lead back to the class.
        rw [TypeGraph.fields, TypeGraph.fields, here, there]
        exact Sound.fields_alike orderly first second entered alsoEntered bare
    | apply identity name base arguments =>
      obtain ⟨baseSketch, argumentSketches, baseShown, argumentsShown, rfl⟩ :=
        Catalog.sketch?_apply.mp shown
      cases counterpart with
      | atom place =>
        obtain ⟨_, _, impossible⟩ := Catalog.sketch?_atom.mp alsoShown
        cases impossible
      | apply otherIdentity otherName otherBase otherArguments =>
        obtain ⟨_, _, alsoBase, alsoArguments, same⟩ := Catalog.sketch?_apply.mp alsoShown
        obtain ⟨rfl, rfl, rfl, rfl⟩ := Sketch.apply.inj same
        exact ⟨rfl, rfl, rfl, rfl, .nil, .some ⟨_, baseShown, alsoBase⟩,
          Catalog.SameSketch.of_sketches argumentsShown alsoArguments⟩

end

/-! ## Requests in parallel -/

variable (module answers asked usual) in
/-- Whether two requests have one outcome on two states of knowledge: results that are alike in
sound catalogs, or one failure. -/
inductive Parallel {α : Type} (alike : Catalog → Catalog → α → α → Prop)
    (request other : Describing α) (left right : Knowledge) : Prop
  /-- Both have a result. -/
  | ok {value counterpart : α} {leftAfter rightAfter : Knowledge}
      (done : request left = .ok value leftAfter)
      (alsoDone : other right = .ok counterpart rightAfter)
      (sound : Sound module answers asked usual [] leftAfter)
      (alsoSound : Sound module answers asked usual [] rightAfter)
      (keeps : left.catalog.Keeps leftAfter.catalog)
      (alsoKeeps : right.catalog.Keeps rightAfter.catalog)
      (same : alike leftAfter.catalog rightAfter.catalog value counterpart)
  /-- Both fail. -/
  | error {failure : Failure} {leftAfter rightAfter : Knowledge}
      (failed : request left = .error failure leftAfter)
      (alsoFailed : other right = .error failure rightAfter)

namespace Parallel

variable {α β γ : Type} {alike : Catalog → Catalog → α → α → Prop}
variable {laterAlike : Catalog → Catalog → γ → γ → Prop}
variable {request other : Describing α} {left right : Knowledge}

/-- Results that are given. -/
theorem pure (first : Sound module answers asked usual [] left)
    (second : Sound module answers asked usual [] right) {value counterpart : α}
    (same : alike left.catalog right.catalog value counterpart) :
    Parallel module answers asked usual alike (pure value) (pure counterpart) left right :=
  .ok rfl rfl first second (.refl _) (.refl _) same

/-- Sequences have one outcome when their first requests have one and their second requests have one
on whatever is known after these. -/
theorem bind {next otherNext : α → Describing γ}
    (first : Parallel module answers asked usual alike request other left right)
    (rest : ∀ {value counterpart : α} {leftAfter rightAfter : Knowledge},
      Sound module answers asked usual [] leftAfter →
      Sound module answers asked usual [] rightAfter →
      alike leftAfter.catalog rightAfter.catalog value counterpart →
      left.catalog.Keeps leftAfter.catalog → right.catalog.Keeps rightAfter.catalog →
      Parallel module answers asked usual laterAlike (next value) (otherNext counterpart) leftAfter
        rightAfter) :
    Parallel module answers asked usual laterAlike (request >>= next) (other >>= otherNext) left
      right := by
  cases first with
  | ok done alsoDone sound alsoSound keeps alsoKeeps same =>
    cases rest sound alsoSound same keeps alsoKeeps with
    | ok last alsoLast soundLast alsoSoundLast keepsLast alsoKeepsLast sameLast =>
      exact .ok (run_bind_eq_ok.mpr ⟨_, _, done, last⟩)
        (run_bind_eq_ok.mpr ⟨_, _, alsoDone, alsoLast⟩) soundLast alsoSoundLast
        (keeps.trans keepsLast) (alsoKeeps.trans alsoKeepsLast) sameLast
    | error failed alsoFailed =>
      exact .error (run_bind_eq_error.mpr (.inr ⟨_, _, done, failed⟩))
        (run_bind_eq_error.mpr (.inr ⟨_, _, alsoDone, alsoFailed⟩))
  | error failed alsoFailed =>
    exact .error (run_bind_eq_error.mpr (.inl failed)) (run_bind_eq_error.mpr (.inl alsoFailed))

/-- Requests that follow one drawing have one outcome. -/
theorem ofFollows {shown alsoShown : Catalog → β → α → Prop} {drawn : Except Failure β}
    (first : Follows module answers asked usual [] shown drawn request left)
    (second : Follows module answers asked usual [] alsoShown drawn other right) :
    Parallel module answers asked usual (fun leftAfter rightAfter value counterpart =>
      ∃ result, drawn = .ok result ∧ shown leftAfter result value ∧
        alsoShown rightAfter result counterpart) request other left right := by
  cases outcome : request left with
  | ok value leftAfter =>
    obtain ⟨result, rfl, here, sound, keeps⟩ := first.ok outcome
    cases alsoOutcome : other right with
    | ok counterpart rightAfter =>
      obtain ⟨_, same, there, alsoSound, alsoKeeps⟩ := second.ok alsoOutcome
      obtain rfl := Except.ok.inj same
      exact .ok outcome alsoOutcome sound alsoSound keeps alsoKeeps ⟨result, rfl, here, there⟩
    | error failure rightAfter => cases second.error alsoOutcome
  | error failure leftAfter =>
    obtain rfl := first.error outcome
    cases alsoOutcome : other right with
    | ok counterpart rightAfter =>
      obtain ⟨_, impossible, _⟩ := second.ok alsoOutcome
      cases impossible
    | error otherFailure rightAfter =>
      obtain rfl := Except.error.inj (second.error alsoOutcome)
      exact .error outcome alsoOutcome

/-- What is alike may be told otherwise. -/
theorem mono {coarser : Catalog → Catalog → α → α → Prop}
    (parallel : Parallel module answers asked usual alike request other left right)
    (implies : ∀ {leftAfter rightAfter : Catalog} {value counterpart : α},
      alike leftAfter rightAfter value counterpart →
      coarser leftAfter rightAfter value counterpart) :
    Parallel module answers asked usual coarser request other left right := by
  cases parallel with
  | ok done alsoDone sound alsoSound keeps alsoKeeps same =>
    exact .ok done alsoDone sound alsoSound keeps alsoKeeps (implies same)
  | error failed alsoFailed => exact .error failed alsoFailed

end Parallel

/-! ## Services -/

section

variable {left right : Knowledge} (orderly : Orderly module answers asked usual)
variable (first : Sound module answers asked usual [] left)
variable (second : Sound module answers asked usual [] right)

include orderly first second

/-- An annotation is described alike by any two describers. -/
theorem describe_parallel {value : Value} (occurs : Occurs module answers asked value) :
    Parallel module answers asked usual Catalog.SameSketch (module.describe value)
      (module.describe value) left right := by
  have room : LeavesRoom module answers asked [] module.classes.size :=
    ⟨List.nodup_nil, List.forall_mem_nil _, Nat.le_add_right _ _⟩
  have follows {before : Knowledge} (sound : Sound module answers asked usual [] before) :
      Follows module answers asked usual [] (Shown module answers value)
        (drawValue module answers (drawClass module answers module.classes.size []) value)
        (module.describe value) before :=
    describeValue_follows orderly (describeClass_follows orderly room) value sound occurs
  exact (Parallel.ofFollows (follows first) (follows second)).mono
    fun ⟨sketch, _, shown, alsoShown⟩ => ⟨sketch, shown.sketch, alsoShown.sketch⟩

/-- Parameters are described alike when their hints occur. -/
theorem describeParameters_parallel {hints : List (String × Value)}
    (occurs : ∀ hint ∈ hints, Occurs module answers asked hint.2)
    (parameters : List Source.Parameter) :
    Parallel module answers asked usual
      (fun left right => List.Forall₂ (ParamsAlike (left.SameSketch right)))
      (module.describeParameters hints parameters) (module.describeParameters hints parameters) left
      right := by
  induction parameters generalizing left right with
  | nil => exact .pure first second .nil
  | cons parameter rest ih =>
    have hint : Occurs module answers asked ((hints.lookup parameter.name).getD unannotated) := by
      cases found : hints.lookup parameter.name with
      | none => exact .unannotated
      | some value =>
        obtain ⟨earlier, later, rfl, _⟩ := List.lookup_eq_some_iff.mp found
        exact occurs (parameter.name, value) (List.mem_append_right _ List.mem_cons_self)
    refine (describe_parallel orderly first second hint).bind fun sound alsoSound same _ _ => ?_
    refine (ih sound alsoSound).bind fun last alsoLast others keeps alsoKeeps => ?_
    exact .pure last alsoLast (.cons ⟨rfl, same.keep keeps alsoKeeps⟩ others)

/-- A function of a service is described alike. -/
theorem describeFunction_parallel {owner : ClassValue} {name : String} {function : Function}
    (call : asked (.serviceOf owner)) (member : (name, function) ∈ module.declaredFunctions owner) :
    Parallel module answers asked usual
      (fun left right found other =>
        List.Forall₂ (ParamsAlike (left.SameSketch right)) found.1 other.1 ∧
          left.SameSketch right found.2 other.2)
      (module.describeFunction function) (module.describeFunction function) left right := by
  have tells := orderly.functionHints call member
  refine (Parallel.ofFollows (.ofEvaluating first tells (functionFailure function))
    (.ofEvaluating second tells (functionFailure function))).bind
    fun {found other _ _} sound alsoSound same _ _ => ?_
  obtain ⟨⟨hints, result⟩, drawn, ⟨rfl, _⟩, rfl, _⟩ := same
  have told := mapError_eq_ok.mp drawn
  have returned : Occurs module answers asked (result.getD unannotated) := by
    cases result with
    | none => exact .unannotated
    | some value => exact .result call member told
  refine (describeParameters_parallel orderly sound alsoSound
    (fun _ listed => .parameter call member told listed) _).bind
    fun later alsoLater params _ _ => ?_
  refine (describe_parallel orderly later alsoLater returned).bind
    fun last alsoLast type keeps alsoKeeps => ?_
  exact .pure last alsoLast ⟨params.imp fun _ _ same => ⟨same.1, same.2.keep keeps alsoKeeps⟩, type⟩

/-- Functions are described alike and appended to services that are alike. -/
theorem describeFunctions_parallel {owner : ClassValue} (call : asked (.serviceOf owner))
    {functions : List (String × Function)} (members : functions ⊆ module.declaredFunctions owner)
    {service other : Service}
    (alike : ServicesAlike (left.catalog.SameSketch right.catalog) service other) :
    Parallel module answers asked usual
      (fun left right => ServicesAlike (left.SameSketch right))
      (module.describeFunctions service functions) (module.describeFunctions other functions) left
      right := by
  induction functions generalizing service other left right with
  | nil => exact .pure first second alike
  | cons entry rest ih =>
    obtain ⟨name, function⟩ := entry
    have member := members List.mem_cons_self
    refine (describeFunction_parallel orderly first second call member).bind
      fun sound alsoSound same keeps alsoKeeps => ?_
    obtain ⟨params, type⟩ := same
    have kept := alike.imp fun _ _ types => types.keep keeps alsoKeeps
    refine ih sound alsoSound (fun _ later => members (List.mem_cons_of_mem _ later)) ?_
    split_ifs
    · exact { kept with events := List.rel_append kept.events (.cons ⟨rfl, params⟩ .nil) }
    · exact { kept with
        methods := List.rel_append kept.methods (.cons ⟨rfl, params, type, rfl⟩ .nil) }

/-- The service of a class is described alike by any two describers. -/
theorem describeService_parallel {owner : ClassValue} (call : asked (.serviceOf owner)) :
    Parallel module answers asked usual (fun left right => ServicesAlike (left.SameSketch right))
      (module.describeService owner) (module.describeService owner) left right :=
  describeFunctions_parallel orderly first second call (List.Subset.refl _) ⟨rfl, .nil, .nil⟩

end

end ServiceStubs
