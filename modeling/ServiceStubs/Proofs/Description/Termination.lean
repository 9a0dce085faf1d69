import Mathlib.Data.List.Nodup
import Mathlib.Data.List.Perm.Subperm
import ServiceStubs.Proofs.Description.History
import ServiceStubs.Proofs.Description.Lacking
import ServiceStubs.Proofs.Description.Occasions
import ServiceStubs.Proofs.Description.Walks

/-!
# Descriptions come to an end

A class is entered in the catalog before its fields are walked, and it is walked only while it has
no entry. Nothing takes an entry back. So every class is walked at most once in a description, and
classes are walked within each other no more often than there are classes without an entry: what
would be done beyond that depth is never asked for. This is so however the classes of a module refer
to each other, and whether the description succeeds or fails.
-/

namespace ServiceStubs

open Source (ClassRef ClassValue Failure Value Module)

namespace Source.Module

section

variable (module : Module)

/-- Whether a set of annotations has the parts of its annotations and the hints of its classes. -/
structure Closed (involved : Value → Prop) : Prop where
  part : ∀ {value part : Value}, involved value → part ∈ value.innerAnnotations → involved part
  field : ∀ {reference : ClassRef} {hints : List (String × Value)} {hint : String × Value},
    involved (.user reference) → module.HintsOf reference hints → hint ∈ hints → involved hint.2

/-- The annotations that the description of an annotation may come upon. -/
inductive Encountered (start : Value) : Value → Prop
  /-- The annotation itself. -/
  | start : Encountered start start
  /-- A part of an annotation. -/
  | part {value part : Value} (whole : Encountered start value)
      (member : part ∈ value.innerAnnotations) : Encountered start part
  /-- The hint of a field of a class. -/
  | field {reference : ClassRef} {hints : List (String × Value)} {hint : String × Value}
      (holder : Encountered start (.user reference)) (told : module.HintsOf reference hints)
      (listed : hint ∈ hints) : Encountered start hint.2

end

variable {module : Module}

/-- What a description may come upon has its parts and the hints of its classes. -/
theorem encountered_closed (start : Value) : module.Closed (module.Encountered start) where
  part whole member := .part whole member
  field holder told listed := .field holder told listed

/-- What a description may come upon is the least that has its parts and the hints of its
classes. -/
theorem Encountered.least {involved : Value → Prop} {start value : Value}
    (closed : module.Closed involved) (given : involved start)
    (here : module.Encountered start value) : involved value := by
  induction here with
  | start => exact given
  | part _ member ih => exact closed.part ih member
  | field _ told listed ih => exact closed.field ih told listed

/-! ## Walked classes -/

variable (module) in
/-- What walking some classes leaves: no entry is taken back, the classes are those that were
entered with fields since, and each of them was walked once, when it had no entry, and has one
since. -/
structure Walked (before after : Catalog) (walked : List ClassRef) : Prop where
  continues : after.Continues before
  composites : after.composites = before.composites ++ identities walked
  distinct : (identities walked).Nodup
  lacking : identities walked ⊆ module.lacking before
  entered : ∀ identity ∈ identities walked, (after.find? identity).isSome

namespace Walked

variable {before between after : Catalog} {walked : List ClassRef}

/-- No class is walked. -/
theorem none (plainly : after.ContinuesPlainly before) : module.Walked before after [] where
  continues := plainly.continues
  composites := plainly.composites.trans (List.append_nil _).symm
  distinct := .nil
  lacking := List.nil_subset _
  entered _ member := by cases member

/-- The class of a new composite is walked. -/
theorem push {reference : ClassRef} {atom : Atom} (composite : atom.kind = .composite)
    (identity : atom.identity = (ClassValue.user reference).identity)
    (lacked : (ClassValue.user reference).identity ∈ module.lacking before) :
    module.Walked before (before.push atom) [reference] where
  continues := .push (identity ▸ find?_of_mem_lacking lacked)
  composites := by rw [Catalog.composites_push, if_pos composite, identity]; rfl
  distinct := List.nodup_singleton _
  lacking := List.cons_subset.mpr ⟨lacked, List.nil_subset _⟩
  entered _ member := by
    obtain rfl := List.mem_singleton.mp member
    dsimp only
    rw [← identity]
    exact before.isSome_find?_push atom

/-- Classes are walked after others. -/
theorem append {later : List ClassRef} (first : module.Walked before between walked)
    (second : module.Walked between after later) :
    module.Walked before after (walked ++ later) where
  continues := second.continues.trans first.continues
  composites := by
    rw [second.composites, first.composites, List.append_assoc, identities_append]
  distinct := by
    rw [identities_append]
    refine List.Nodup.append first.distinct second.distinct fun identity early late => ?_
    have entered := first.entered identity early
    rw [find?_of_mem_lacking (second.lacking late)] at entered
    cases entered
  lacking := by
    rw [identities_append]
    exact List.append_subset.mpr ⟨first.lacking,
      List.Subset.trans second.lacking (lacking_subset first.continues)⟩
  entered identity member := by
    rw [identities_append] at member
    rcases List.mem_append.mp member with early | late
    · exact second.continues.isSome_find? (first.entered identity early)
    · exact second.entered identity late

/-- No more classes are walked than are lacking. -/
theorem length_le (all : module.Walked before after walked) :
    walked.length ≤ (module.lacking before).length := by
  have within := (List.subperm_of_subset all.distinct all.lacking).length_le
  rwa [identities, List.length_map] at within

end Walked

/-! ## Walks as descriptions -/

variable (module) in
/-- Whether a walk ends as a request does, after it walked some classes that were lacking. -/
def Mirrors {α : Type} (walking : Walking α) (request : Describing α) (known : Knowledge) : Prop :=
  ∃ walked, module.Walked known.catalog (request.knowledgeAfter known).catalog walked ∧
    ∀ earlier, walking ⟨known, earlier⟩ = journaled (earlier ++ walked) (request known)

namespace Mirrors

variable {α β : Type} {walking : Walking α} {request : Describing α} {known : Knowledge}

/-- A request that walks no class. -/
theorem ofDescribing (plain : request.Plain known) :
    module.Mirrors (.ofDescribing request) request known :=
  ⟨[], .none plain, fun earlier => by rw [List.append_nil]; rfl⟩

/-- A request that only reads a catalog. -/
theorem of_reads (reads : request.Reads) : module.Mirrors (.ofDescribing request) request known :=
  ofDescribing (.of_reads reads)

/-- A failure. -/
theorem throw {failure : Failure} :
    module.Mirrors (throw failure) (throw failure : Describing α) known :=
  of_reads (.throw failure)

/-- A result. -/
theorem pure {value : α} : module.Mirrors (pure value) (Pure.pure value) known :=
  of_reads (.pure value)

/-- Walks in sequence. -/
theorem bind {nextWalking : α → Walking β} {next : α → Describing β}
    (first : module.Mirrors walking request known)
    (rest : ∀ {value : α} {between : Knowledge}, request known = .ok value between →
      between.catalog.Continues known.catalog →
      module.Mirrors (nextWalking value) (next value) between) :
    module.Mirrors (walking >>= nextWalking) (request >>= next) known := by
  obtain ⟨walked, all, ends⟩ := first
  cases outcome : request known with
  | ok value between =>
    rw [Describing.knowledgeAfter, outcome] at all
    obtain ⟨later, others, endsLater⟩ := rest outcome all.continues
    refine ⟨walked ++ later, ?_, fun earlier => ?_⟩
    · rw [Describing.knowledgeAfter_bind_of_ok outcome]
      exact all.append others
    · have done := ends earlier
      rw [outcome, journaled] at done
      rw [run_bind_of_ok done, run_bind_of_ok outcome, endsLater, List.append_assoc]
  | error failure between =>
    refine ⟨walked, ?_, fun earlier => ?_⟩
    · rwa [Describing.knowledgeAfter_bind_of_error outcome]
    · have failed := ends earlier
      rw [outcome, journaled] at failed
      rw [run_bind_eq_error.mpr (.inl failed), run_bind_eq_error.mpr (.inl outcome), journaled]

/-- A class is noted once it was entered. -/
theorem note {nextWalking : α → Walking β} {next : α → Describing β} {value : α}
    {between : Knowledge} {reference : ClassRef} (done : request known = .ok value between)
    (entered : module.Walked known.catalog between.catalog [reference])
    (rest : module.Mirrors (nextWalking value) (next value) between) :
    module.Mirrors (.ofDescribing request >>= fun value => do
      .note reference
      nextWalking value) (request >>= next) known := by
  obtain ⟨later, others, ends⟩ := rest
  refine ⟨reference :: later, ?_, fun earlier => ?_⟩
  · rw [Describing.knowledgeAfter_bind_of_ok done]
    exact entered.append others
  · have first : Walking.ofDescribing request ⟨known, earlier⟩ = .ok value ⟨between, earlier⟩ := by
      rw [Walking.ofDescribing, done, journaled]
    have noted : Walking.note reference ⟨between, earlier⟩ =
        .ok () ⟨between, earlier ++ [reference]⟩ := rfl
    rw [run_bind_of_ok first, run_bind_of_ok noted, run_bind_of_ok done, ends, List.append_assoc,
      List.singleton_append]

/-- A walk for the sake of what it enters. -/
theorem discard (mirrors : module.Mirrors walking request known) :
    module.Mirrors (discard walking) (discard request) known := by
  have sequence : Functor.discard walking = walking >>= fun _ => Pure.pure () := by
    rw [Functor.discard, map_const, bind_pure_comp]
    rfl
  rw [sequence, Describing.discard_eq]
  exact mirrors.bind fun _ _ => pure

/-! ## Annotations -/

section

variable {involved : Value → Prop} {room : Nat} {walk : ClassRef → Walking TypeRef}
  {describeClass : ClassRef → Describing TypeRef}

variable (module involved room walk describeClass) in
/-- Whether walks of classes mirror their descriptions as long as no more classes are lacking than
there is room for. -/
def OfClasses : Prop :=
  ∀ reference known, involved (.user reference) → (module.lacking known.catalog).length ≤ room →
    module.Mirrors (walk reference) (describeClass reference) known

/-- A class that is not applied. -/
theorem walkBareClass (classes : OfClasses module involved room walk describeClass)
    {value : ClassValue} (source : involved (.classValue value))
    (within : (module.lacking known.catalog).length ≤ room) :
    module.Mirrors (walkBareClass walk value) (describeBareClass describeClass value) known := by
  cases value with
  | standard value => exact ofDescribing (.describeBareClass value)
  | user reference =>
    refine bind (classes reference known source within) fun {type between} _ _ => ?_
    refine bind (of_reads .catalog) fun {catalog same} _ _ => ?_
    dsimp only
    split_ifs
    · exact pure
    · exact throw

/-- An application. -/
theorem walkApplication (closed : module.Closed involved)
    (classes : OfClasses module involved room walk describeClass) {value : Value}
    {origin : ClassValue} {arguments : List Value}
    (form : value = .builtinOf origin arguments ∨ value = .templateOf origin arguments)
    (source : involved value) {types : List TypeRef}
    (within : (module.lacking known.catalog).length ≤ room) :
    module.Mirrors (walkApplication module walk value origin types)
      (describeApplication module describeClass value origin types) known := by
  cases origin with
  | standard standard =>
    refine ofDescribing ?_
    unfold describeApplication
    dsimp only
    split_ifs
    · exact .keepList _
    · exact .keepDisplayed _
  | user reference =>
    have applied : involved (.user reference) := by
      refine closed.part source ?_
      rcases form with rfl | rfl <;> exact List.mem_cons_self
    refine bind (of_reads (reads_isComposite _)) fun {composite between} _ continues => ?_
    split_ifs
    · exact bind (classes reference between applied
        (length_lacking_le continues within)) fun _ _ => ofDescribing (.keepGeneric _ _)
    · exact ofDescribing (.keepDisplayed _)

mutual

/-- An annotation. -/
theorem walkValue (closed : module.Closed involved)
    (classes : OfClasses module involved room walk describeClass) (value : Value)
    (source : involved value) (known : Knowledge)
    (within : (module.lacking known.catalog).length ≤ room) :
    module.Mirrors (walkValue module walk value) (describeValue module describeClass value)
      known := by
  -- Parts are among the annotations as well, and no more is lacking when they are described.
  have inner {part : Value} (member : part ∈ value.innerAnnotations) : involved part :=
    closed.part source member
  have later {between : Knowledge} (continues : between.catalog.Continues known.catalog) :
      (module.lacking between.catalog).length ≤ room :=
    length_lacking_le continues within
  cases value with
  | constant datum => exact ofDescribing (.describeDatum datum)
  | typeVariable binder => exact ofDescribing (.keepAtom _ nofun)
  | classValue value => exact walkBareClass classes source within
  | bareAlias word =>
    refine ofDescribing ?_
    rw [describeValue]
    split_ifs
    · exact .keepList _
    · exact .keepPrimitive
  | builtinOf origin arguments =>
    refine bind (walkValues closed classes arguments (fun part member => ?_) _ within)
      fun _ continues => walkApplication closed classes (.inl rfl) source (later continues)
    exact inner (List.mem_cons_of_mem _ member)
  | templateOf origin arguments =>
    refine bind (walkValues closed classes arguments (fun part member => ?_) _ within)
      fun _ continues => walkApplication closed classes (.inr rfl) source (later continues)
    exact inner (List.mem_cons_of_mem _ member)
  | aliasOf word arguments =>
    refine bind (walkValues closed classes arguments (fun part member => inner member) _ within)
      fun _ _ => ?_
    split_ifs
    · exact ofDescribing (.keepList _)
    · exact ofDescribing (.keepDisplayed _)
  | qualified word argument =>
    exact bind (discard (walkValue closed classes argument (inner List.mem_cons_self) _ within))
      fun _ _ => ofDescribing (.keepDisplayed _)
  | union members =>
    exact bind (discard (walkValues closed classes members (fun _ member => inner member) _ within))
      fun _ _ => ofDescribing (.keepDisplayed _)
  | alternatives members =>
    exact bind (discard (walkValues closed classes members (fun _ member => inner member) _ within))
      fun _ _ => ofDescribing (.keepDisplayed _)
  | literal values =>
    exact ofDescribing ((Describing.Plain.forM fun _ _ => .discard (.describeDatum _)).bind
      fun _ _ => .keepDisplayed _)
  | callable arguments result =>
    exact bind (ofDescribing (.discard (.keepDisplayed _))) fun _ continues =>
      bind (discard (walkValue closed classes result (inner List.mem_cons_self) _
        (later continues))) fun _ _ => ofDescribing (.keepDisplayed _)
  | annotated inside notes =>
    exact bind (discard (walkValue closed classes inside (inner List.mem_cons_self) _ within))
      fun _ _ => bind (ofDescribing (.forM fun _ _ => .discard (.describeDatum _)))
        fun _ _ => ofDescribing (.keepDisplayed _)
  | _ =>
    refine ofDescribing (.bind (.of_reads (.ofEvaluating _ _)) fun listLike _ => ?_)
    split_ifs
    · exact .keepList _
    · exact .keepDisplayed _

/-- Several annotations. -/
theorem walkValues (closed : module.Closed involved)
    (classes : OfClasses module involved room walk describeClass) (values : List Value)
    (sources : ∀ value ∈ values, involved value) (known : Knowledge)
    (within : (module.lacking known.catalog).length ≤ room) :
    module.Mirrors (walkValues module walk values) (describeValues module describeClass values)
      known := by
  cases values with
  | nil => exact pure
  | cons value rest =>
    refine bind (walkValue closed classes value (sources value List.mem_cons_self) _ within)
      fun _ continues => ?_
    refine bind (walkValues closed classes rest
      (fun other member => sources other (List.mem_cons_of_mem value member)) _
      (length_lacking_le continues within)) fun _ _ => pure

end

/-- Fields. -/
theorem walkFields (closed : module.Closed involved)
    (classes : OfClasses module involved room walk describeClass) {composite : TypeRef}
    {hints : List (String × Value)} (sources : ∀ hint ∈ hints, involved hint.2)
    (within : (module.lacking known.catalog).length ≤ room) :
    module.Mirrors (walkFields module walk composite hints)
      (describeFields module describeClass composite hints) known := by
  induction hints generalizing known with
  | nil => exact pure
  | cons hint rest ih =>
    refine bind (walkValue closed classes hint.2 (sources hint List.mem_cons_self) _ within)
      fun _ continues => ?_
    refine bind (ofDescribing (.appendField _ _)) fun _ appended => ?_
    exact ih (fun other member => sources other (List.mem_cons_of_mem hint member))
      (length_lacking_le (appended.trans continues) within)

end

/-! ## Classes -/

section

variable {involved : Value → Prop} {stop : ClassRef → Walking TypeRef}

/-- A class is walked from when its composite is entered. -/
theorem enterClass (closed : module.Closed involved) {room depth reach : Nat}
    (classes : OfClasses module involved room (walkClass module stop reach)
      (describeClass module depth)) {reference : ClassRef} (source : involved (.user reference))
    (lacked : (ClassValue.user reference).identity ∈ module.lacking known.catalog)
    (within : (module.lacking known.catalog).length ≤ room + 1) :
    module.Mirrors
      (do
        let atom ← .ofDescribing (.ofHost (module.compositeAtom reference))
        let type ← .ofDescribing (.keepAtom atom)
        .note reference
        let hints ← .ofDescribing (module.fieldHints (.user reference))
        ServiceStubs.walkFields module (walkClass module stop reach) type hints
        return type)
      (do
        let type ← .keepAtom (← .ofHost (module.compositeAtom reference))
        let hints ← module.fieldHints (.user reference)
        describeFields module (describeClass module depth) type hints
        return type) known := by
  refine bind (of_reads (.ofHost _)) fun {atom between} made _ => ?_
  obtain ⟨composite, _, identity⟩ := compositeAtom_ok (Describing.ofHost_ok made)
  rw [← (Describing.Reads.ofHost _).ok made] at lacked within
  have unknown : between.catalog.find? atom.identity = .none :=
    identity ▸ find?_of_mem_lacking lacked
  have entered := Walked.push composite identity lacked
  refine note (Describing.keepAtom_of_unknown unknown) entered ?_
  refine bind (of_reads (reads_fieldHints _)) fun {hints after} told since => ?_
  refine bind (walkFields closed classes (fun hint listed =>
    closed.field source ⟨_, _, told⟩ listed) ?_) fun _ _ => pure
  -- The class itself is not lacking any more.
  have fewer := length_lacking_lt (since.trans entered.continues) lacked
    (since.isSome_find? (entered.entered _ List.mem_cons_self))
  omega

/-- Classes, when there is room for those that are lacking and the classes in them have less. -/
theorem walkClass_of_inner (closed : module.Closed involved)
    (housed : ∀ reference, involved (.user reference) → module.Houses reference) {room : Nat}
    (inner : ∀ smaller, room = smaller + 1 → ∀ depth reach, smaller ≤ depth → smaller ≤ reach →
      OfClasses module involved smaller (ServiceStubs.walkClass module stop reach)
        (describeClass module depth)) {depth reach : Nat} (enough : room ≤ depth)
    (reaches : room ≤ reach) :
    OfClasses module involved room (ServiceStubs.walkClass module stop reach)
      (describeClass module depth) := by
  intro reference known source within
  unfold ServiceStubs.walkClass describeClass
  dsimp only
  split
  · exact throw
  · refine bind (of_reads .catalog) fun {catalog same} done _ => ?_
    obtain ⟨rfl, rfl⟩ := EStateM.Result.ok.inj done
    cases unknown : known.catalog.find? (ClassValue.user reference).identity with
    | some type => exact pure
    | none =>
      dsimp only
      split
      · refine bind (of_reads (.ofEvaluating _ _)) fun {atom between} made _ => ?_
        have kind := enumerationAtom_ok (Describing.ofEvaluating_ok made)
        exact ofDescribing (.keepAtom _ fun composite => by cases kind.symm.trans composite)
      · refine bind (of_reads (reads_isComposite _)) fun {composite between} told _ => ?_
        have same := (reads_isComposite _).ok told
        split
        · exact ofDescribing .keepPrimitive
        · rename_i fields
          have lacked : (ClassValue.user reference).identity ∈ module.lacking between.catalog := by
            rw [same]
            cases composite with
            | false => exact absurd rfl fields
            | true => exact mem_lacking (housed reference source) ⟨_, _, told⟩ unknown
          have here : (module.lacking between.catalog).length ≤ room := by rwa [same]
          have positive := List.length_pos_of_mem lacked
          obtain ⟨smaller, rfl⟩ : ∃ smaller, room = smaller + 1 :=
            Nat.exists_eq_add_one_of_ne_zero (by omega)
          obtain ⟨shallow, rfl⟩ : ∃ shallow, depth = shallow + 1 :=
            Nat.exists_eq_add_one_of_ne_zero (by omega)
          obtain ⟨shallower, rfl⟩ : ∃ shallower, reach = shallower + 1 :=
            Nat.exists_eq_add_one_of_ne_zero (by omega)
          exact enterClass closed (inner smaller rfl shallow shallower (by omega) (by omega))
            source lacked here

/-- Classes, when there is room for those that are lacking. -/
theorem walkClass (closed : module.Closed involved)
    (housed : ∀ reference, involved (.user reference) → module.Houses reference)
    (room : Nat) {depth reach : Nat} (enough : room ≤ depth) (reaches : room ≤ reach) :
    OfClasses module involved room (ServiceStubs.walkClass module stop reach)
      (describeClass module depth) := by
  induction room generalizing depth reach with
  | zero => exact walkClass_of_inner closed housed (fun _ same => by cases same) enough reaches
  | succ room ih =>
    refine walkClass_of_inner closed housed (fun smaller same depth reach => ?_) enough reaches
    obtain rfl := Nat.succ.inj same
    exact ih

end

end Mirrors

/-! ## Descriptions -/

/-- A description comes to an end: a walk that may go as deep as there are classes without an entry
ends as the description does, whatever would be done beyond. The classes that it walks are those
that the description enters with fields: classes that have no entry before, each of them once, and
so no more than there are. -/
theorem describe_terminates {value : Value}
    (housed : ∀ reference, module.Encountered value (.user reference) → module.Houses reference)
    (known : Knowledge) (stop : ClassRef → Walking TypeRef) {depth : Nat}
    (enough : (module.lacking known.catalog).length ≤ depth) :
    ∃ walked,
      walkValue module (walkClass module stop depth) value ⟨known, []⟩ =
        journaled walked (module.describe value known) ∧
      ((module.describe value).knowledgeAfter known).catalog.composites =
        known.catalog.composites ++ identities walked ∧
      (identities walked).Nodup ∧ identities walked ⊆ module.lacking known.catalog ∧
      walked.length ≤ (module.lacking known.catalog).length := by
  have closed : module.Closed (module.Encountered value) := encountered_closed value
  have classes : Mirrors.OfClasses module (module.Encountered value)
      (module.lacking known.catalog).length (walkClass module stop depth)
      (describeClass module module.classes.size) :=
    Mirrors.walkClass closed housed _ (length_lacking_le_size _) enough
  obtain ⟨walked, all, ends⟩ := Mirrors.walkValue closed classes value .start known (Nat.le_refl _)
  exact ⟨walked, ends [], all.composites, all.distinct, all.lacking, all.length_le⟩

end Source.Module

/-! ## Classes that refer to themselves and to each other -/

/-- A generic class that refers to its application to lists of its own parameter. -/
def branch : ClassRef :=
  { index := 0, moduleName := "svc", qualifiedName := "Branch", name := "Branch" }

/-- A class that refers to itself, to lists of itself, to applications of the generic class and to a
class that is not declared. -/
def tree : ClassRef := { index := 1, moduleName := "svc", qualifiedName := "Tree", name := "Tree" }

/-- A class that a call makes. -/
def label : ClassRef :=
  { index := 2, moduleName := "svc", qualifiedName := "Label", name := "Label" }

/-- The generic class applied to an annotation. -/
def branchOf (argument : Value) : Value := .templateOf (.user branch) [argument]

/-- Lists of an annotation. -/
def listOf (argument : Value) : Value := .builtinOf (.standard .list) [argument]

/-- A module with the first two classes. -/
def trees : Module where
  name := "svc"
  classes := #[
    { reference := branch, order := [.user branch, .standard .generic, .standard .object]
      annotations := [("owner", .user tree), ("rest", branchOf (listOf (.typeVariable ⟨0, "T"⟩)))]
      attributes := recordAttributes [.typeVariable ⟨0, "T"⟩] },
    { reference := tree, order := [.user tree, .standard .object]
      annotations := [("parent", .user tree), ("children", listOf (.user tree)),
        ("branch", branchOf (.user tree)), ("label", .user label)]
      attributes := recordAttributes [] }]

/-- The annotations that the second class leads to. -/
def treeAnnotations : List Value :=
  [.user tree, listOf (.user tree), branchOf (.user tree), .user branch, .standard .list,
    branchOf (listOf (.typeVariable ⟨0, "T"⟩)), listOf (.typeVariable ⟨0, "T"⟩),
    .typeVariable ⟨0, "T"⟩, .user label]

/-- The annotations name no class but the three. -/
theorem eq_of_mem_treeAnnotations {reference : ClassRef}
    (member : .user reference ∈ treeAnnotations) :
    reference = tree ∨ reference = branch ∨ reference = label := by
  simpa [treeAnnotations, branchOf, listOf, Value.user, Value.standard] using member

/-- The annotations have their parts and the hints of both classes among them. -/
theorem trees_closed : trees.Closed (· ∈ treeAnnotations) where
  part {value _} whole member := by
    have parts : ∀ value ∈ treeAnnotations, value.innerAnnotations ⊆ treeAnnotations := by
      simp [treeAnnotations, branchOf, listOf, Value.innerAnnotations, Value.user, Value.standard]
    exact parts value whole member
  field holder told listed := by
    obtain rfl | rfl | rfl := eq_of_mem_treeAnnotations holder
    · obtain ⟨before, after, found⟩ := told
      have hinted : trees.fieldHints (.user tree) before = .ok [("parent", .user tree),
        ("children", listOf (.user tree)), ("branch", branchOf (.user tree)),
        ("label", .user label)] before := rfl
      cases hinted.symm.trans found
      simp only [List.mem_cons, List.not_mem_nil, or_false] at listed
      obtain rfl | rfl | rfl | rfl := listed <;> simp [treeAnnotations]
    · obtain ⟨before, after, found⟩ := told
      have hinted : trees.fieldHints (.user branch) before = .ok [("owner", .user tree),
        ("rest", branchOf (listOf (.typeVariable ⟨0, "T"⟩)))] before := rfl
      cases hinted.symm.trans found
      simp only [List.mem_cons, List.not_mem_nil, or_false] at listed
      obtain rfl | rfl := listed <;> simp [treeAnnotations]
    · rw [Source.Module.eq_nil_of_unplaced (by decide) told] at listed
      cases listed

/-- What is known when the class that is not declared was described before. -/
def labelKnown : Knowledge where
  catalog := ({} : Catalog).push (namedAtom (.user label))
  memory := {}

/-- Both classes of the module are walked once, as deep as there are classes. -/
theorem describe_terminates_trees :
    (∀ reference, trees.Encountered (.user tree) (.user reference) → trees.Houses reference) ∧
      (trees.lacking labelKnown.catalog).length ≤ 2 ∧
      ((trees.describe (.user tree)).result? labelKnown).isSome ∧
      ((trees.describe (.user tree)).knowledgeAfter labelKnown).catalog.composites =
        ["svc.Tree", "svc.Branch"] ∧
      ∀ stop, ∃ walked,
        walkValue trees (walkClass trees stop 2) (.user tree) ⟨labelKnown, []⟩ =
          journaled walked (trees.describe (.user tree) labelKnown) ∧
        ((trees.describe (.user tree)).knowledgeAfter labelKnown).catalog.composites =
          labelKnown.catalog.composites ++ identities walked ∧
        (identities walked).Nodup ∧ identities walked ⊆ trees.lacking labelKnown.catalog ∧
        walked.length ≤ (trees.lacking labelKnown.catalog).length := by
  have housed : ∀ reference, trees.Encountered (.user tree) (.user reference) →
      trees.Houses reference := by
    intro reference here
    have member := here.least trees_closed List.mem_cons_self
    obtain rfl | rfl | rfl := eq_of_mem_treeAnnotations member
    · exact fun _ => by decide
    · exact fun _ => by decide
    · exact Source.Module.houses_of_unplaced (by decide) rfl
  have enough : (trees.lacking labelKnown.catalog).length ≤ 2 := by decide
  exact ⟨housed, enough, by decide +kernel, by decide +kernel, fun stop =>
    Source.Module.describe_terminates housed _ stop enough⟩

end ServiceStubs
