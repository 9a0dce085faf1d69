import Mathlib.Data.List.Perm.Subperm
import ServiceStubs.Proofs.Description.Following

/-!
# Classes that follow drawings

A class that has an entry is not described again. Drawing it once more does not fail either: the
classes in its fields have entries, and so have those in their fields, down to the classes that are
being described, which a drawing does not enter. A class that has no entry is entered, and from then
on it is under description until all its fields are appended. The classes under description are
different classes of the module, so the depth that is left is enough for the others.
-/

namespace ServiceStubs

open Source (ClassRef ClassValue Failure Value Module)
open Source.Module (compositeAtom_ok enumerationAtom_ok)
open Describing

variable {module : Module} {answers : Answers} {asked : Describing.Call → Prop}
variable {usual : Source.Memory → Prop}

/-! ## Classes that occur -/

mutual

/-- The classes that an annotation asks for occur with it. -/
theorem Occurs.visits (value : Value) (occurs : Occurs module answers asked value)
    {reference : ClassRef} (member : reference ∈ ServiceStubs.visits module answers value) :
    Occurs module answers asked (.user reference) := by
  cases value with
  | classValue value =>
    cases value with
    | standard value => cases member
    | user other => exact List.mem_singleton.mp member ▸ occurs
  | builtinOf origin arguments | templateOf origin arguments =>
    rw [ServiceStubs.visits] at member
    rcases List.mem_append.mp member with inArguments | inOrigin
    · exact Occurs.visitsOfAll arguments
        (fun _ inside => .part occurs (List.mem_cons_of_mem _ inside)) inArguments
    · cases origin with
      | standard value => cases inOrigin
      | user other =>
        rw [originVisits] at inOrigin
        split at inOrigin
        · exact List.mem_singleton.mp inOrigin ▸ .part occurs List.mem_cons_self
        · cases inOrigin
  | aliasOf word arguments | union arguments | alternatives arguments =>
    rw [ServiceStubs.visits] at member
    exact Occurs.visitsOfAll arguments (fun _ inside => .part occurs inside) member
  | qualified word inner | callable arguments inner | annotated inner notes =>
    rw [ServiceStubs.visits] at member
    exact Occurs.visits inner (.part occurs List.mem_cons_self) member
  | _ => cases member

/-- The classes that annotations ask for occur with them. -/
theorem Occurs.visitsOfAll (values : List Value)
    (occurs : ∀ value ∈ values, Occurs module answers asked value) {reference : ClassRef}
    (member : reference ∈ ServiceStubs.visitsOfAll module answers values) :
    Occurs module answers asked (.user reference) := by
  cases values with
  | nil => cases member
  | cons value rest =>
    rw [ServiceStubs.visitsOfAll] at member
    rcases List.mem_append.mp member with here | later
    · exact Occurs.visits value (occurs value List.mem_cons_self) here
    · exact Occurs.visitsOfAll rest
        (fun other inside => occurs other (List.mem_cons_of_mem value inside)) later

end

variable (module answers asked) in
/-- Whether classes may still be described within each other `depth` times, when some classes are
under description: these are different ones, and the depth is enough for all others. -/
structure LeavesRoom (opened : List ClassRef) (depth : Nat) : Prop where
  distinct : opened.Nodup
  occurs : ∀ reference ∈ opened, Occurs module answers asked (.user reference)
  enough : module.classes.size ≤ depth + opened.length

/-- There is room for every class that is not under description. -/
theorem LeavesRoom.enter (orderly : Orderly module answers asked usual) {opened : List ClassRef}
    {depth : Nat} (room : LeavesRoom module answers asked opened depth) {reference : ClassRef}
    (occurs : Occurs module answers asked (.user reference)) (fresh : reference ∉ opened) :
    ∃ smaller, depth = smaller + 1 ∧
      LeavesRoom module answers asked (reference :: opened) smaller := by
  have distinct : (reference :: opened).Nodup := List.nodup_cons.mpr ⟨fresh, room.distinct⟩
  have occurring : ∀ other ∈ reference :: opened, Occurs module answers asked (.user other) :=
    List.forall_mem_cons.mpr ⟨occurs, room.occurs⟩
  have listed : (reference :: opened) ⊆ module.classes.toList.map (·.reference) :=
    fun other member => orderly.listed (occurring other member)
  have bound : opened.length + 1 ≤ module.classes.size := by
    have counted := (List.subperm_of_subset distinct listed).length_le
    rwa [List.length_cons, List.length_map, Array.length_toList] at counted
  have enough := room.enough
  obtain ⟨smaller, rfl⟩ := Nat.exists_eq_add_one_of_ne_zero (show depth ≠ 0 by omega)
  exact ⟨smaller, rfl, distinct, occurring, by rw [List.length_cons]; omega⟩

/-! ## Entries of classes -/

/-- Only an atom of the table has the sketch of a composite. -/
theorem Catalog.atom_of_composite {catalog : Catalog} {type : TypeRef} {sketch : Sketch}
    (shown : catalog.sketch? type = some sketch) (composite : sketch.isComposite) :
    ∃ index atom, type = .atom index ∧ catalog.atomAt? index = some atom ∧
      atom.kind = .composite ∧ sketch = .atom atom.bare := by
  cases type with
  | atom index =>
    obtain ⟨atom, entered, rfl⟩ := Catalog.sketch?_atom.mp shown
    exact ⟨index, atom, rfl, entered, of_decide_eq_true composite, rfl⟩
  | apply identity name base arguments =>
    obtain ⟨_, _, _, _, rfl⟩ := Catalog.sketch?_apply.mp shown
    cases composite

/-- Fields are drawn without a failure when they are shown and the classes in them are drawn as they
are by themselves. -/
theorem drawFields_of_shows {draw : ClassRef → Except Failure Sketch} {catalog : Catalog}
    {hints : List (String × Value)} {fields : List Field}
    (shown : ShowsHints module answers catalog hints fields)
    (alone : ∀ hint ∈ hints, ∀ reference,
      reference ∈ visits module answers hint.2 ∧ catalog.Knows reference →
      draw reference = classSketch module answers reference) :
    drawFields module answers draw hints = .ok () := by
  induction shown with
  | nil => rfl
  | @cons hint field hints fields here _ ih =>
    obtain ⟨_, sketch, shown⟩ := here
    have drawn : drawValue module answers draw hint.2 = .ok sketch :=
      (drawValue_congr hint.2 fun reference member => alone hint List.mem_cons_self reference
        ⟨member, shown.visited reference member⟩).trans shown.drawn
    rw [drawFields, drawn]
    exact ih fun other member => alone other (List.mem_cons_of_mem hint member)

/-- Whether the entry of a class is the composite at a place of the table. -/
structure Catalog.CompositeAt (catalog : Catalog) (reference : ClassRef) (index : Nat) : Prop where
  found : catalog.find? (ClassValue.user reference).identity = some (.atom index)
  standing : ∃ atom, catalog.atomAt? index = some atom ∧ atom.kind = .composite

namespace Catalog.CompositeAt

variable {earlier later : Catalog} {reference : ClassRef} {index : Nat}

/-- A composite stands within the table. -/
theorem lt_size (place : earlier.CompositeAt reference index) : index < earlier.size := by
  obtain ⟨atom, entered, _⟩ := place.standing
  exact Catalog.lt_size entered

/-- A composite stays at its place. -/
theorem keep (place : earlier.CompositeAt reference index) (keeps : earlier.Keeps later) :
    later.CompositeAt reference index where
  found := keeps.entries place.found
  standing := by
    obtain ⟨atom, entered, composite⟩ := place.standing
    exact ⟨atom, (keeps.grown.kept place.lt_size).trans entered, composite⟩

/-- A composite with more fields is at its place. -/
theorem appendFields (place : earlier.CompositeAt reference index) (fields : List Field) :
    (earlier.appendFields index fields).CompositeAt reference index where
  found := (Catalog.find?_appendFields _ index fields _).trans place.found
  standing := by
    obtain ⟨atom, entered, composite⟩ := place.standing
    refine ⟨{ atom with fields := atom.fields ++ fields }, ?_, composite⟩
    rw [Catalog.atomAt?_appendFields, if_pos rfl, entered]
    rfl

end Catalog.CompositeAt

namespace Sound

variable {opened : List ClassRef} {known : Knowledge}

/-- An atom is found by its own identity only. -/
theorem identity_of_find (sound : Sound module answers asked usual opened known)
    {identity : String} {index : Nat} {atom : Atom}
    (found : known.catalog.find? identity = some (.atom index))
    (entered : known.catalog.atomAt? index = some atom) : atom.identity = identity := by
  obtain ⟨sketch, _, identical, shown⟩ := sound.entries found
  obtain ⟨other, present, rfl⟩ := Catalog.sketch?_atom.mp shown
  obtain rfl := Option.some.inj (entered.symm.trans present)
  exact identical

/-- The composite that is found for a class has its fields unless it is being described. -/
theorem fields_of_find (orderly : Orderly module answers asked usual)
    (sound : Sound module answers asked usual opened known) {reference : ClassRef}
    (occurs : Occurs module answers asked (.user reference)) {index : Nat} {atom : Atom}
    (found : known.catalog.find? (ClassValue.user reference).identity = some (.atom index))
    (entered : known.catalog.atomAt? index = some atom) (composite : atom.kind = .composite) :
    reference ∈ opened ∨ ∃ hints, drawHints answers reference = .ok hints ∧
      ShowsHints module answers known.catalog hints atom.fields := by
  obtain ⟨other, occursOther, _, standing, rest⟩ := sound.composites entered composite
  have same := (sound.identity_of_find standing entered).symm.trans
    (sound.identity_of_find found entered)
  rwa [orderly.classes occursOther occurs same] at rest

/-- A class with an entry is drawn without a failure, as its entry is. -/
theorem drawClass_of_knows (orderly : Orderly module answers asked usual)
    (sound : Sound module answers asked usual opened known) {inside : List ClassRef} {depth : Nat}
    (room : LeavesRoom module answers asked inside depth) (all : opened ⊆ inside)
    {reference : ClassRef} (occurs : Occurs module answers asked (.user reference))
    (knows : known.catalog.Knows reference) :
    ∃ sketch, classSketch module answers reference = .ok sketch ∧
      drawClass module answers depth inside reference = .ok sketch := by
  -- By induction on the depth: the classes in the fields have entries too, and are drawn within
  -- this class.
  induction depth using Nat.strongRecOn generalizing inside reference with
  | ind depth ih =>
    obtain ⟨type, found⟩ := Option.isSome_iff_exists.mp knows
    obtain ⟨sketch, drawn, identical, shown⟩ := sound.entries found
    have own := orderly.owned occurs drawn identical
    refine ⟨sketch, own, ?_⟩
    by_cases stops : sketch.isComposite → reference ∈ inside
    · exact drawClass_of_stops own stops
    · obtain ⟨composite, fresh⟩ := Classical.not_imp.mp stops
      obtain ⟨index, atom, rfl, entered, kind, rfl⟩ := Catalog.atom_of_composite shown composite
      obtain ⟨smaller, rfl, deeper⟩ := room.enter orderly occurs fresh
      obtain ⟨hints, told, shownHints⟩ := (sound.fields_of_find orderly occurs found entered
        kind).resolve_left fun member => fresh (all member)
      have fields : drawFields module answers
          (drawClass module answers smaller (reference :: inside)) hints = .ok () := by
        refine drawFields_of_shows shownHints fun hint listed other visited => ?_
        have otherOccurs := Occurs.visits hint.2 (.field occurs told listed) visited.1
        obtain ⟨otherSketch, otherOwn, drawnOther⟩ := ih smaller (Nat.lt_succ_self smaller) deeper
          (List.subset_cons_of_subset reference all) otherOccurs visited.2
        rw [drawnOther, otherOwn]
      rw [drawClass_of_enters own composite fresh, told]
      simp only [bind, Except.bind, fields]
      rfl

/-- Fields may be appended to the composite of a class that is being described. -/
theorem appendFields (orderly : Orderly module answers asked usual)
    (sound : Sound module answers asked usual opened known) {reference : ClassRef}
    (occurs : Occurs module answers asked (.user reference)) (among : reference ∈ opened)
    {index : Nat} (place : known.catalog.CompositeAt reference index) (fields : List Field) :
    Sound module answers asked usual opened
      { known with catalog := known.catalog.appendFields index fields } := by
  obtain ⟨found, atom, entered, composite⟩ := place
  have extended := known.catalog.extends_appendFields index fields
  have entries (identity : String) :
      (known.catalog.appendFields index fields).find? identity = known.catalog.find? identity :=
    Catalog.find?_appendFields _ index fields identity
  have kept {identity : String} {type : TypeRef}
      (standing : known.catalog.find? identity = some type) :
      (known.catalog.appendFields index fields).find? identity = some type :=
    (entries identity).trans standing
  refine ⟨sound.usual, ?_, ?_, ?_, fun other member => ?_⟩
  · intro identity type standing
    obtain ⟨sketch, drawn, identical, shown⟩ :=
      sound.entries ((entries identity).symm.trans standing)
    exact ⟨sketch, drawn, identical, Catalog.sketch?_extend extended type shown⟩
  · intro place other present plain
    rw [Catalog.atomAt?_appendFields] at present
    split_ifs at present with same
    · rw [← same, entered] at present
      obtain rfl := Option.some.inj present
      exact absurd composite plain
    · exact sound.plain present plain
  · intro place other present kind
    rw [Catalog.atomAt?_appendFields] at present
    split_ifs at present with same
    · rw [← same, entered] at present
      obtain rfl := Option.some.inj present
      obtain ⟨owner, occursOwner, drawn, standing, _⟩ := sound.composites entered composite
      have identical := (sound.identity_of_find standing entered).symm.trans
        (sound.identity_of_find found entered)
      obtain rfl := orderly.classes occursOwner occurs identical
      exact ⟨owner, occursOwner, drawn, kept (same ▸ standing), .inl among⟩
    · obtain ⟨owner, occursOwner, drawn, standing, rest⟩ := sound.composites present kind
      refine ⟨owner, occursOwner, drawn, kept standing, rest.imp_right ?_⟩
      rintro ⟨hints, told, shown⟩
      exact ⟨hints, told, shown.keep kept extended⟩
  · rw [Catalog.Knows, entries]
    exact sound.begun other member

end Sound

/-! ## Fields -/

/-- Fields may be appended before or after a catalog that keeps what it has. -/
theorem Catalog.Keeps.appendFields {earlier later : Catalog} (keeps : earlier.Keeps later)
    {index : Nat} (early : index < earlier.size) (fields : List Field) :
    (earlier.appendFields index fields).Keeps (later.appendFields index fields) where
  grown := keeps.grown.appendFields (fun _ _ _ _ _ => trivial) early fields
  entries found := by
    rw [Catalog.find?_appendFields] at found ⊢
    exact keeps.entries found

section

variable {opened : List ClassRef} (orderly : Orderly module answers asked usual)
variable {draw : ClassRef → Except Failure Sketch} {describeClass : ClassRef → Describing TypeRef}
variable (classes : ClassesFollow module answers asked usual opened draw describeClass)
variable {reference : ClassRef} (occurs : Occurs module answers asked (.user reference))
variable (among : reference ∈ opened) {hints : List (String × Value)}
variable (inside : ∀ hint ∈ hints, Occurs module answers asked hint.2) {index : Nat}
variable {before after : Knowledge} (sound : Sound module answers asked usual opened before)
variable (place : before.catalog.CompositeAt reference index)

include orderly classes occurs among inside sound place

/-- Fields that are described show their hints, and are appended to the composite of their class. -/
theorem describeFields_shows
    (done : describeFields module describeClass (.atom index) hints before = .ok () after) :
    drawFields module answers draw hints = .ok () ∧
      Sound module answers asked usual opened after ∧
      ∃ fields, ShowsHints module answers after.catalog hints fields ∧
        (before.catalog.appendFields index fields).Keeps after.catalog := by
  induction hints generalizing before with
  | nil =>
    cases done
    exact ⟨rfl, sound, [], .nil, .refl _⟩
  | cons entry rest ih =>
    obtain ⟨type, between, described, others⟩ := run_bind_eq_ok.mp done
    obtain ⟨sketch, drawn, shown, also, keeps⟩ := (describeValue_follows orderly classes entry.2
      sound (inside entry List.mem_cons_self)).ok described
    have first := keeps.appendFields place.lt_size [⟨entry.1, type⟩]
    have stillEarly : index < (before.catalog.appendFields index [⟨entry.1, type⟩]).size :=
      (place.appendFields _).lt_size
    have appended := also.appendFields orderly occurs among (place.keep keeps) [⟨entry.1, type⟩]
    obtain ⟨drawnRest, last, fields, shownRest, since⟩ := ih
      (fun hint member => inside hint (List.mem_cons_of_mem entry member)) appended
      ((place.keep keeps).appendFields _) others
    have later := (Catalog.extends_appendFields _ index fields).trans
      (between.catalog.extends_appendFields index [⟨entry.1, type⟩])
    have entries {identity : String} {type : TypeRef}
        (found : between.catalog.find? identity = some type) :
        after.catalog.find? identity = some type :=
      since.entries (by rwa [Catalog.find?_appendFields, Catalog.find?_appendFields])
    refine ⟨?_, last, ⟨entry.1, type⟩ :: fields, .cons ⟨rfl, sketch, ?_⟩ shownRest, ?_⟩
    · rw [drawFields, drawn]
      exact drawnRest
    · exact shown.keep entries (since.grown.extension.trans later)
    · exact (first.appendFields stillEarly fields).trans since

/-- The first field that is not described is the first one that is not drawn. -/
theorem describeFields_fails {failure : Failure}
    (failed : describeFields module describeClass (.atom index) hints before =
      .error failure after) :
    drawFields module answers draw hints = .error failure := by
  induction hints generalizing before with
  | nil => cases failed
  | cons entry rest ih =>
    have follows := describeValue_follows orderly classes entry.2 sound
      (inside entry List.mem_cons_self)
    rcases run_bind_eq_error.mp failed with here | ⟨type, between, described, others⟩
    · rw [drawFields, follows.error here]
      rfl
    · obtain ⟨sketch, drawn, _, also, keeps⟩ := follows.ok described
      have appended := also.appendFields orderly occurs among (place.keep keeps) [⟨entry.1, type⟩]
      rw [drawFields, drawn]
      exact ih (fun hint member => inside hint (List.mem_cons_of_mem entry member)) appended
        ((place.keep keeps).appendFields _) others

end

/-! ## Classes -/

variable {opened : List ClassRef} {before : Knowledge} {depth : Nat}

section

variable {reference : ClassRef} (occurs : Occurs module answers asked (.user reference))
variable {atom : Atom} (made : module.compositeAtom reference = .ok atom)
variable (own : classSketch module answers reference = .ok (.atom atom))

include occurs made own

/-- The composite of a class is entered before its fields, and the class is under description from
then on. -/
theorem Sound.beginClass (sound : Sound module answers asked usual opened before)
    (unknown : before.catalog.find? (ClassValue.user reference).identity = none) :
    Sound module answers asked usual (reference :: opened)
        { before with catalog := before.catalog.push atom } ∧
      before.catalog.Keeps (before.catalog.push atom) ∧
      (before.catalog.push atom).CompositeAt reference before.catalog.size ∧
      Describing.keepAtom atom before = .ok (.atom before.catalog.size)
        { before with catalog := before.catalog.push atom } := by
  obtain ⟨composite, bare, identity⟩ := compositeAtom_ok made
  rw [← identity] at unknown
  obtain ⟨also, keeps, found, _⟩ := sound.push unknown (.ofClass occurs own) bare
    (List.subset_cons_self reference opened)
    (List.forall_mem_cons.mpr ⟨.inr identity.symm, fun _ => .inl⟩)
    (fun _ => ⟨reference, List.mem_cons_self, occurs, own, identity⟩)
  refine ⟨also, keeps, ⟨identity ▸ found, atom, ?_, composite⟩, keepAtom_of_unknown unknown⟩
  rw [Catalog.atomAt?_push, if_pos rfl]

omit occurs in
/-- A class shows its sketch when its composite has all fields, and is under description no more. -/
theorem Sound.finishClass {after : Knowledge}
    (last : Sound module answers asked usual (reference :: opened) after)
    (keeps : before.catalog.Keeps (before.catalog.push atom))
    (place : (before.catalog.push atom).CompositeAt reference before.catalog.size)
    {hints : List (String × Value)} (told : drawHints answers reference = .ok hints)
    {fields : List Field} (shown : ShowsHints module answers after.catalog hints fields)
    (since : ((before.catalog.push atom).appendFields before.catalog.size fields).Keeps
      after.catalog) :
    ShownClass module answers reference after.catalog (.atom atom) (.atom before.catalog.size) ∧
      Sound module answers asked usual opened after ∧ before.catalog.Keeps after.catalog := by
  obtain ⟨_, bare, _⟩ := compositeAtom_ok made
  have complete : after.catalog.atomAt? before.catalog.size = some { atom with fields } := by
    rw [since.grown.kept (place.appendFields fields).lt_size, Catalog.atomAt?_appendFields,
      if_pos rfl, Catalog.atomAt?_push, if_pos rfl, Option.map_some, bare, List.nil_append]
  have entry := since.entries (place.appendFields fields).found
  refine ⟨⟨own, ?_, ?_⟩, ?_, .of_push fields since.grown trivial, fun found => ?_⟩
  · exact Catalog.sketch?_atom.mpr ⟨_, complete, by rw [Atom.bare, ← bare]⟩
  · rw [Catalog.Knows, entry]
    rfl
  · exact last.closing entry told fun present =>
      Option.some.inj (complete.symm.trans present) ▸ shown
  · refine since.entries ?_
    rw [Catalog.find?_appendFields]
    exact keeps.entries found

end

/-- A class with fields and without an entry is entered and described as it is drawn. -/
theorem enterClass_follows (orderly : Orderly module answers asked usual)
    {reference : ClassRef} (occurs : Occurs module answers asked (.user reference))
    (fresh : reference ∉ opened)
    (inner : ClassesFollow module answers asked usual (reference :: opened)
      (drawClass module answers depth (reference :: opened)) (describeClass module depth))
    (sound : Sound module answers asked usual opened before)
    (unknown : before.catalog.find? (ClassValue.user reference).identity = none)
    (own : classSketch module answers reference = do
      return .atom (← (module.compositeAtom reference).mapError .host)) :
    Follows module answers asked usual opened (ShownClass module answers reference)
      (drawClass module answers (depth + 1) opened reference) (do
        let type ← .keepAtom (← .ofHost (module.compositeAtom reference))
        let hints ← module.fieldHints (.user reference)
        describeFields module (describeClass module depth) type hints
        return type) before := by
  cases made : module.compositeAtom reference with
  | error fault =>
    have drawn : drawClass module answers (depth + 1) opened reference = .error (.host fault) := by
      rw [drawClass, own, made]
      rfl
    rw [drawn]
    exact .congr rfl (.throw _)
  | ok atom =>
    rw [made] at own
    obtain ⟨also, keeps, place, kept⟩ := sound.beginClass occurs made own unknown
    have follows := fieldHints_follows orderly also occurs
    rw [drawClass_of_enters own (decide_eq_true (compositeAtom_ok made).1) fresh]
    constructor
    · intro value after done
      obtain ⟨_, _, same, rest⟩ := run_bind_eq_ok.mp done
      obtain ⟨rfl, rfl⟩ := EStateM.Result.ok.inj same
      obtain ⟨_, _, entered, rest⟩ := run_bind_eq_ok.mp rest
      obtain ⟨rfl, rfl⟩ := EStateM.Result.ok.inj (kept.symm.trans entered)
      obtain ⟨hints, hinted, listed, rest⟩ := run_bind_eq_ok.mp rest
      obtain ⟨_, told, ⟨rfl, unchanged⟩, alsoHinted, hintedKeeps⟩ := follows.ok listed
      obtain ⟨_, filled, described, rest⟩ := run_bind_eq_ok.mp rest
      obtain ⟨rfl, rfl⟩ := EStateM.Result.ok.inj rest
      obtain ⟨fieldsDrawn, last, fields, shownFields, since⟩ := describeFields_shows orderly inner
        occurs List.mem_cons_self (fun _ listed => .field occurs told listed) alsoHinted
        (place.keep hintedKeeps) described
      rw [unchanged] at since
      refine ⟨.atom atom, ?_, last.finishClass made own keeps place told shownFields since⟩
      rw [told]
      simp only [bind, Except.bind, fieldsDrawn]
      rfl
    · intro failure after failed
      rcases run_bind_eq_error.mp failed with impossible | ⟨_, _, same, rest⟩
      · cases impossible
      obtain ⟨rfl, rfl⟩ := EStateM.Result.ok.inj same
      rcases run_bind_eq_error.mp rest with impossible | ⟨_, _, entered, rest⟩
      · cases impossible
      obtain ⟨rfl, rfl⟩ := EStateM.Result.ok.inj (kept.symm.trans entered)
      rcases run_bind_eq_error.mp rest with hintless | ⟨hints, hinted, listed, rest⟩
      · rw [follows.error hintless]
        rfl
      obtain ⟨_, told, ⟨rfl, _⟩, alsoHinted, hintedKeeps⟩ := follows.ok listed
      rcases run_bind_eq_error.mp rest with stopped | ⟨_, _, _, impossible⟩
      · rw [told]
        simp only [bind, Except.bind]
        rw [describeFields_fails orderly inner occurs List.mem_cons_self
          (fun _ listed => .field occurs told listed) alsoHinted (place.keep hintedKeeps) stopped]
      · cases impossible

/-- The atom of an enumeration has no fields, and the identity of its class. -/
theorem Orderly.enumeration_plain (orderly : Orderly module answers asked usual)
    {memory : Source.Memory} (recalled : usual memory) {reference : ClassRef}
    (occurs : Occurs module answers asked (.user reference))
    (kind : module.isKindOf (.user reference) .enum) {atom : Atom}
    (told : answers.enumeration reference = .ok atom) :
    atom.kind ≠ .composite ∧ atom.fields = [] ∧
      atom.identity = (ClassValue.user reference).identity := by
  obtain ⟨later, _, outcome⟩ := orderly.enumeration occurs kind memory recalled
  rw [told] at outcome
  obtain ⟨names, _, _, rest⟩ := run_bind_eq_ok.mp outcome
  cases rest
  exact ⟨nofun, rfl, if_neg (Source.Module.identity_ne_empty _)⟩

/-- The atom of a class without fields is kept for the class. -/
theorem keepAtom_followsClass (orderly : Orderly module answers asked usual)
    {reference : ClassRef} (occurs : Occurs module answers asked (.user reference))
    (sound : Sound module answers asked usual opened before) {atom : Atom}
    (own : classSketch module answers reference = .ok (.atom atom))
    (plain : atom.kind ≠ .composite ∧ atom.fields = [] ∧
      atom.identity = (ClassValue.user reference).identity) :
    Follows module answers asked usual opened (ShownClass module answers reference)
      (drawClass module answers depth opened reference) (.keepAtom atom) before := by
  have drawn : drawClass module answers depth opened reference = .ok (.atom atom) :=
    drawClass_of_stops own fun composite => absurd (of_decide_eq_true composite) plain.1
  have follows := keepAtom_follows orderly sound (.ofClass occurs own) plain.2.1 plain.1
  rw [drawn]
  refine ⟨fun done => ?_, follows.error⟩
  obtain ⟨_, same, shown, also, keeps⟩ := follows.ok done
  obtain rfl := Except.ok.inj same
  have entry := Catalog.find?_keepAtom (ofCatalog_ok done)
  rw [plain.2.2] at entry
  exact ⟨_, rfl, ⟨own, shown, by rw [Catalog.Knows, entry]; rfl⟩, also, keeps⟩

/-- A class is described as it is drawn, when the classes in it are. -/
theorem describeClass_follows_of_inner (orderly : Orderly module answers asked usual)
    (room : LeavesRoom module answers asked opened depth)
    (inner : ∀ {smaller : Nat} {owner : ClassRef}, depth = smaller + 1 →
      LeavesRoom module answers asked (owner :: opened) smaller →
      ClassesFollow module answers asked usual (owner :: opened)
        (drawClass module answers smaller (owner :: opened)) (describeClass module smaller)) :
    ClassesFollow module answers asked usual opened (drawClass module answers depth opened)
      (describeClass module depth) := by
  intro reference before occurs sound
  unfold describeClass
  dsimp only
  by_cases hidden : reference.moduleName.isEmpty && module.classes.size ≤ reference.index
  · have drawn : drawClass module answers depth opened reference =
        .error (.host (.hiddenAttribute Source.moduleAttribute)) := by
      rw [drawClass, classSketch, if_pos hidden]
      rfl
    rw [if_pos hidden, drawn]
    exact .throw _
  have own : classSketch module answers reference = _ := if_neg hidden
  rw [if_neg hidden]
  refine Follows.ofCatalog ?_
  cases found : before.catalog.find? (ClassValue.user reference).identity with
  | some type =>
    -- The entry may have been made by another request: that it shows the class of this one is
    -- what identities that tell apart are needed for.
    have knows : before.catalog.Knows reference := by
      rw [Catalog.Knows, found]
      rfl
    obtain ⟨sketch, drawn, identical, shown⟩ := sound.entries found
    obtain ⟨_, alone, drawnClass⟩ := sound.drawClass_of_knows orderly room (List.Subset.refl opened)
      occurs knows
    rw [orderly.owned occurs drawn identical] at alone
    obtain rfl := Except.ok.inj alone
    rw [drawnClass]
    exact .pure sound ⟨orderly.owned occurs drawn identical, shown, knows⟩
  | none =>
    have fresh : reference ∉ opened := by
      intro among
      have knows := sound.begun reference among
      rw [Catalog.Knows, found] at knows
      cases knows
    obtain ⟨smaller, rfl, deeper⟩ := room.enter orderly occurs fresh
    by_cases enumeration : module.isKindOf (.user reference) .enum
    · rw [if_pos enumeration] at own ⊢
      -- The drawing asks once more what the description asks first, so that both go in step.
      have drawing : drawClass module answers (smaller + 1) opened reference = (do
          let _ ← (answers.enumeration reference).mapError .host
          drawClass module answers (smaller + 1) opened reference) := by
        cases told : answers.enumeration reference with
        | ok atom => rfl
        | error fault =>
          rw [drawClass, own, told]
          rfl
      rw [drawing]
      refine (Follows.ofEvaluating sound (orderly.enumeration occurs enumeration) .host).bind
        fun {atom _ between} same also _ shown => ?_
      obtain ⟨rfl, _⟩ := shown
      rw [same] at own
      exact keepAtom_followsClass orderly occurs also own
        (orderly.enumeration_plain sound.usual occurs enumeration (mapError_eq_ok.mp same))
    · rw [if_neg enumeration] at own ⊢
      have drawing : drawClass module answers (smaller + 1) opened reference = (do
          let _ ← drawsFields module answers reference
          drawClass module answers (smaller + 1) opened reference) := by
        cases told : drawsFields module answers reference with
        | ok found => rfl
        | error fault =>
          rw [drawClass, own, told]
          rfl
      rw [drawing]
      refine (isComposite_follows orderly sound occurs).bind
        fun {found _ between} same also _ shown => ?_
      obtain ⟨rfl, unchanged⟩ := shown
      rw [same] at own
      cases found with
      | false =>
        exact keepAtom_followsClass orderly occurs also own ⟨AtomKind.noConfusion, rfl, rfl⟩
      | true =>
        exact enterClass_follows orderly occurs fresh (inner rfl deeper) also (unchanged ▸ found)
          own

/-- Classes are described as they are drawn, as long as there is room for further classes. -/
theorem describeClass_follows (orderly : Orderly module answers asked usual)
    (room : LeavesRoom module answers asked opened depth) :
    ClassesFollow module answers asked usual opened (drawClass module answers depth opened)
      (describeClass module depth) := by
  -- On the depth, with the classes that are open: the class that is entered is open in the next
  -- level, and takes its room.
  induction depth generalizing opened with
  | zero => exact describeClass_follows_of_inner orderly room fun same => by cases same
  | succ depth ih =>
    refine describeClass_follows_of_inner orderly room fun same deeper => ?_
    obtain rfl := Nat.succ.inj same
    exact ih deeper

end ServiceStubs
