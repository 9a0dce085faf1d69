import ServiceStubs.Proofs.Description.Soundness
import ServiceStubs.Proofs.Types.Identities

/-!
# Names that tell sketches apart

What is drawn of annotations is built of atoms by generic constructions, and the identity of a
construction tells how it is built up when no atom has a mark of composed identities in its own
identity. So identities tell apart all that is drawn when they tell apart the atoms. A class is told
apart by its qualified name, when no other class and nothing else has the name.
-/

namespace ServiceStubs

open Source (ClassRef ClassValue Failure Memory Module Value)

/-! ## Sketches that are built of atoms -/

namespace Sketch

mutual

/-- How what is sketched is built up. -/
def structureOf : Sketch → Structure
  | atom bare => .atom bare.identity
  | apply _ _ base arguments => .apply (structureOf base) (structuresOf arguments)

/-- How what is sketched several times is built up. -/
def structuresOf : List Sketch → List Structure
  | [] => []
  | sketch :: rest => structureOf sketch :: structuresOf rest

end

/-- Several sketches have the structures of each of them in order. -/
theorem structuresOf_eq_map (sketches : List Sketch) :
    structuresOf sketches = sketches.map structureOf := by
  induction sketches with
  | nil => rfl
  | cons sketch rest ih => rw [structuresOf, ih, List.map_cons]

/-- The sketches that are built of some atoms by generic constructions. -/
inductive Built (atoms : Atom → Prop) : Sketch → Prop
  | atom {bare : Atom} (member : atoms bare) : Built atoms (.atom bare)
  | generic {base : Sketch} {arguments : List Sketch} (based : Built atoms base)
      (applied : ∀ argument ∈ arguments, Built atoms argument) :
      Built atoms (.generic base arguments)

namespace Built

variable {atoms : Atom → Prop} {first second sketch : Sketch}

/-- What is built has the identity that its structure has. -/
theorem identity_eq (built : sketch.Built atoms) :
    sketch.identity = sketch.structureOf.identity := by
  induction built with
  | atom member => rfl
  | @generic base arguments _ _ based applied =>
    change base.identity ++ "[" ++ Text.joined "," (arguments.map identity) ++ "]" =
      (Structure.apply base.structureOf (structuresOf arguments)).identity
    rw [Structure.identity, Structure.identities_eq_map, structuresOf_eq_map, List.map_map, based]
    exact congrArg (fun identities => _ ++ Text.joined "," identities ++ "]")
      (List.map_congr_left applied)

/-- What is built of atoms without marks is unmarked. -/
theorem unmarked (names : ∀ {bare : Atom}, atoms bare → IsAtomic bare.identity)
    (built : sketch.Built atoms) : sketch.structureOf.Unmarked := by
  induction built with
  | atom member => exact .atom (names member)
  | generic _ _ based applied =>
    refine .apply based fun argument member => ?_
    rw [structuresOf_eq_map] at member
    obtain ⟨sketch, listed, rfl⟩ := List.mem_map.mp member
    exact applied sketch listed

/-- What is built in one way of atoms that are told apart by their identities is the same. -/
theorem eq_of_structureOf_eq
    (single : ∀ {bare other : Atom}, atoms bare → atoms other →
      bare.identity = other.identity → bare = other)
    (firstBuilt : first.Built atoms) (secondBuilt : second.Built atoms)
    (same : first.structureOf = second.structureOf) : first = second := by
  induction firstBuilt generalizing second with
  | atom member =>
    cases secondBuilt with
    | atom other => rw [single member other (Structure.atom.inj same)]
    | generic => cases same
  | @generic base arguments _ _ based applied =>
    cases secondBuilt with
    | atom => cases same
    | @generic otherBase otherArguments otherBased otherApplied =>
      obtain ⟨sameBase, sameArguments⟩ := Structure.apply.inj same
      rw [structuresOf_eq_map, structuresOf_eq_map] at sameArguments
      have alike : List.Forall₂ (fun sketch other => sketch.structureOf = other.structureOf)
          arguments otherArguments :=
        List.forall₂_map_right_iff.mp (List.forall₂_map_left_iff.mp
          (List.forall₂_eq_eq_eq ▸ sameArguments))
      have fromFirst := forall₂_imp_of_mem alike fun sketch member other same built =>
        applied sketch member built same
      have fromBoth := forall₂_imp_of_mem fromFirst.flip fun other member sketch given =>
        given (otherApplied other member)
      have sameList : arguments = otherArguments := List.forall₂_eq_eq_eq ▸ fromBoth.flip
      rw [based otherBased sameBase, sameList]

/-- Identities tell apart what is built of atoms that they tell apart, when no atom has a mark in
its identity. -/
theorem eq_of_identity_eq (names : ∀ {bare : Atom}, atoms bare → IsAtomic bare.identity)
    (single : ∀ {bare other : Atom}, atoms bare → atoms other →
      bare.identity = other.identity → bare = other)
    (firstBuilt : first.Built atoms) (secondBuilt : second.Built atoms)
    (same : first.identity = second.identity) : first = second := by
  rw [firstBuilt.identity_eq, secondBuilt.identity_eq] at same
  exact firstBuilt.eq_of_structureOf_eq single secondBuilt
    ((firstBuilt.unmarked names).eq_of_identity_eq (secondBuilt.unmarked names) same)

end Built

end Sketch

/-! ## What is drawn -/

section

variable (module : Module) (answers : Answers) (asked : Describing.Call → Prop)

/-- The atoms that are drawn. -/
def DrawnAtom (bare : Atom) : Prop := Drawn module answers asked (.atom bare)

/-- The atoms that are drawn of what is no class of the module. -/
inductive Foreign : Atom → Prop
  /-- The atom of an annotation. -/
  | ofValue {value : Value} {bare : Atom} (occurs : Occurs module answers asked value)
      (other : ∀ reference, value ≠ .user reference)
      (drawn : drawValue module answers (classSketch module answers) value = .ok (.atom bare)) :
      Foreign bare
  /-- The list template. -/
  | list : Foreign (.primitive listIdentity)
  /-- The arguments of a callable. -/
  | arguments {arguments : List Value} {result : Value} {bare : Atom}
      (occurs : Occurs module answers asked (.callable arguments result))
      (drawn : drawDisplayed (.list arguments) = .ok (.atom bare)) : Foreign bare

/-- Whether what some calls lead to is told apart by names: no name has a mark of composed
identities, no two classes share a qualified name, nothing else has the name of a class, and no two
other things share a name. -/
structure WellNamed : Prop where
  unmarked : ∀ {bare : Atom}, DrawnAtom module answers asked bare → IsAtomic bare.identity
  classes : ∀ {reference other : ClassRef}, Occurs module answers asked (.user reference) →
    Occurs module answers asked (.user other) →
    (ClassValue.user reference).identity = (ClassValue.user other).identity → reference = other
  classNames : ∀ {reference : ClassRef}, Occurs module answers asked (.user reference) →
    IsAtomic (ClassValue.user reference).identity
  enumerations : ∀ {reference : ClassRef} {atom : Atom},
    Occurs module answers asked (.user reference) → answers.enumeration reference = .ok atom →
    atom.identity = (ClassValue.user reference).identity
  foreign : ∀ {bare : Atom} {reference : ClassRef}, Foreign module answers asked bare →
    Occurs module answers asked (.user reference) →
    bare.identity ≠ (ClassValue.user reference).identity
  others : ∀ {bare other : Atom}, Foreign module answers asked bare →
    Foreign module answers asked other → bare.identity = other.identity → bare = other

end

variable {module : Module} {answers : Answers} {asked : Describing.Call → Prop}

/-- What is known by its displayed form alone is an atom. -/
theorem atom_of_drawDisplayed {value : Value} {sketch : Sketch}
    (drawn : drawDisplayed value = .ok sketch) : ∃ bare, sketch = .atom bare := by
  obtain ⟨_, _, rest⟩ := bind_eq_ok.mp drawn
  exact ⟨_, (Except.ok.inj rest).symm⟩

/-- A class alone is an atom. -/
theorem atom_of_classSketch {reference : ClassRef} {sketch : Sketch}
    (drawn : classSketch module answers reference = .ok sketch) : ∃ bare, sketch = .atom bare := by
  unfold classSketch at drawn
  split_ifs at drawn
  · obtain ⟨_, _, rest⟩ := bind_eq_ok.mp drawn
    exact ⟨_, (Except.ok.inj rest).symm⟩
  · obtain ⟨fields, _, rest⟩ := bind_eq_ok.mp drawn
    split_ifs at rest
    · obtain ⟨_, _, last⟩ := bind_eq_ok.mp rest
      exact ⟨_, (Except.ok.inj last).symm⟩
    · exact ⟨_, (Except.ok.inj rest).symm⟩

/-- A class of the standard library is built of drawn atoms. -/
theorem built_standardSketch {value : Source.StandardClass}
    (whole : Drawn module answers asked (standardSketch value)) :
    (standardSketch value).Built (DrawnAtom module answers asked) := by
  unfold standardSketch at whole ⊢
  cases shared : sharedIdentity? value with
  | some identity =>
    rw [shared] at whole
    exact .atom whole
  | none =>
    rw [shared] at whole
    dsimp only at whole ⊢
    split_ifs at whole ⊢
    · exact .generic (.atom .list) fun _ none => nomatch none
    · exact .atom whole
    · exact .atom whole

/-- An application of drawn arguments is built of drawn atoms. -/
theorem built_of_drawApplication {shown : Value} {origin : ClassValue} {arguments : List Sketch}
    {sketch : Sketch} (applied : Occurs module answers asked (.classValue origin))
    (parts : ∀ argument ∈ arguments, argument.Built (DrawnAtom module answers asked))
    (whole : Drawn module answers asked sketch)
    (drawn : drawApplication module answers (classSketch module answers) shown origin arguments =
      .ok sketch) : sketch.Built (DrawnAtom module answers asked) := by
  have displayed (drawn : drawDisplayed shown = .ok sketch) :
      sketch.Built (DrawnAtom module answers asked) := by
    obtain ⟨bare, rfl⟩ := atom_of_drawDisplayed drawn
    exact .atom whole
  cases origin with
  | standard value =>
    rw [drawApplication] at drawn
    split_ifs at drawn
    · obtain rfl := Except.ok.inj drawn
      exact .generic (.atom .list) parts
    · exact displayed drawn
  | user reference =>
    obtain ⟨fields, _, rest⟩ := bind_eq_ok.mp drawn
    split_ifs at rest
    · obtain ⟨template, ofClass, last⟩ := bind_eq_ok.mp rest
      obtain rfl := Except.ok.inj last
      obtain ⟨bare, rfl⟩ := atom_of_classSketch ofClass
      exact .generic (.atom (.ofClass applied ofClass)) parts
    · exact displayed rest

mutual

/-- What is drawn of an annotation is built of drawn atoms. -/
theorem built_of_drawValue (value : Value) (occurs : Occurs module answers asked value)
    {sketch : Sketch}
    (drawn : drawValue module answers (classSketch module answers) value = .ok sketch) :
    sketch.Built (DrawnAtom module answers asked) := by
  have whole : Drawn module answers asked sketch := .ofValue occurs drawn
  have displayed {value : Value} (shown : drawDisplayed value = .ok sketch) :
      sketch.Built (DrawnAtom module answers asked) := by
    obtain ⟨bare, rfl⟩ := atom_of_drawDisplayed shown
    exact .atom whole
  have list : Sketch.Built (DrawnAtom module answers asked) (.generic listSketch []) :=
    .generic (.atom .list) fun _ none => nomatch none
  cases value with
  | constant datum =>
    cases datum with
    | missing =>
      obtain rfl := Except.ok.inj drawn
      exact .atom whole
    | _ => exact displayed drawn
  | typeVariable binder =>
    obtain rfl := Except.ok.inj drawn
    exact .atom whole
  | classValue value =>
    cases value with
    | standard value =>
      obtain rfl := Except.ok.inj drawn
      exact built_standardSketch whole
    | user reference =>
      obtain ⟨own, ofClass, rest⟩ := bind_eq_ok.mp drawn
      split_ifs at rest
      obtain rfl := Except.ok.inj rest
      obtain ⟨bare, rfl⟩ := atom_of_classSketch ofClass
      exact .atom whole
  | bareAlias word =>
    have same := Except.ok.inj drawn
    split_ifs at same
    · exact same ▸ list
    · obtain rfl := same
      exact .atom whole
  | builtinOf origin arguments | templateOf origin arguments =>
    obtain ⟨sketches, parts, rest⟩ := bind_eq_ok.mp drawn
    refine built_of_drawApplication (.part occurs List.mem_cons_self) ?_ whole rest
    exact built_of_drawValues arguments
      (fun part member => .part occurs (List.mem_cons_of_mem _ member)) parts
  | aliasOf word arguments =>
    obtain ⟨sketches, parts, rest⟩ := bind_eq_ok.mp drawn
    split_ifs at rest
    · obtain rfl := Except.ok.inj rest
      exact .generic (.atom .list) (built_of_drawValues arguments
        (fun part member => .part occurs member) parts)
    · exact displayed rest
  | qualified | union | alternatives | literal =>
    obtain ⟨_, _, rest⟩ := bind_eq_ok.mp drawn
    exact displayed rest
  | callable | annotated =>
    obtain ⟨_, _, rest⟩ := bind_eq_ok.mp drawn
    obtain ⟨_, _, last⟩ := bind_eq_ok.mp rest
    exact displayed last
  | _ =>
    obtain ⟨alike, _, rest⟩ := bind_eq_ok.mp drawn
    split_ifs at rest
    · exact Except.ok.inj rest ▸ list
    · exact displayed rest

/-- What is drawn of annotations is built of drawn atoms. -/
theorem built_of_drawValues (values : List Value)
    (occurs : ∀ value ∈ values, Occurs module answers asked value) {sketches : List Sketch}
    (drawn : drawValues module answers (classSketch module answers) values = .ok sketches) :
    ∀ sketch ∈ sketches, sketch.Built (DrawnAtom module answers asked) := by
  cases values with
  | nil =>
    obtain rfl := Except.ok.inj drawn
    exact List.forall_mem_nil _
  | cons value rest =>
    obtain ⟨first, here, others⟩ := bind_eq_ok.mp drawn
    obtain ⟨later, there, last⟩ := bind_eq_ok.mp others
    obtain rfl := Except.ok.inj last
    exact List.forall_mem_cons.mpr
      ⟨built_of_drawValue value (occurs value List.mem_cons_self) here,
        built_of_drawValues rest
          (fun other member => occurs other (List.mem_cons_of_mem value member)) there⟩

end

/-- Whatever is drawn is built of drawn atoms. -/
theorem Drawn.built {sketch : Sketch} (drawn : Drawn module answers asked sketch) :
    sketch.Built (DrawnAtom module answers asked) := by
  cases drawn with
  | ofValue occurs shown => exact built_of_drawValue _ occurs shown
  | ofClass occurs shown =>
    obtain ⟨bare, rfl⟩ := atom_of_classSketch shown
    exact .atom (.ofClass occurs shown)
  | list => exact .atom .list
  | arguments occurs shown =>
    obtain ⟨bare, rfl⟩ := atom_of_drawDisplayed shown
    exact .atom (.arguments occurs shown)

/-- A drawn atom is that of a class, or foreign to all classes. -/
theorem DrawnAtom.cases {bare : Atom} (drawn : DrawnAtom module answers asked bare) :
    (∃ reference, Occurs module answers asked (.user reference) ∧
      classSketch module answers reference = .ok (.atom bare)) ∨
        Foreign module answers asked bare := by
  unfold DrawnAtom at drawn
  cases drawn with
  | @ofValue value _ occurs shown =>
    by_cases isClass : ∃ reference, value = .user reference
    · obtain ⟨reference, rfl⟩ := isClass
      obtain ⟨own, ofClass, rest⟩ := bind_eq_ok.mp shown
      split_ifs at rest
      obtain rfl := Except.ok.inj rest
      exact .inl ⟨reference, occurs, ofClass⟩
    · exact .inr (.ofValue occurs (fun reference same => isClass ⟨reference, same⟩) shown)
  | ofClass occurs shown => exact .inl ⟨_, occurs, shown⟩
  | list => exact .inr .list
  | arguments occurs shown => exact .inr (.arguments occurs shown)

/-- A class alone has the qualified name of the class, if it has that as an enumeration. -/
theorem identity_of_classSketch {reference : ClassRef} {sketch : Sketch}
    (enumerations : ∀ {atom : Atom}, answers.enumeration reference = .ok atom →
      atom.identity = (ClassValue.user reference).identity)
    (drawn : classSketch module answers reference = .ok sketch) :
    sketch.identity = (ClassValue.user reference).identity := by
  unfold classSketch at drawn
  split_ifs at drawn
  · obtain ⟨atom, told, rest⟩ := bind_eq_ok.mp drawn
    obtain rfl := Except.ok.inj rest
    exact enumerations (mapError_eq_ok.mp told)
  · obtain ⟨fields, _, rest⟩ := bind_eq_ok.mp drawn
    split_ifs at rest
    · obtain ⟨atom, made, last⟩ := bind_eq_ok.mp rest
      obtain rfl := Except.ok.inj last
      exact (Source.Module.compositeAtom_ok (mapError_eq_ok.mp made)).2.2
    · obtain rfl := Except.ok.inj rest
      rfl

/-! ## Names -/

namespace WellNamed

variable (named : WellNamed module answers asked)

include named

/-- A drawn atom with the name of a class is that of the class. -/
theorem classSketch_eq {bare : Atom} {reference : ClassRef}
    (drawn : DrawnAtom module answers asked bare)
    (occurs : Occurs module answers asked (.user reference))
    (same : bare.identity = (ClassValue.user reference).identity) :
    classSketch module answers reference = .ok (.atom bare) := by
  rcases drawn.cases with ⟨other, also, ofClass⟩ | foreign
  · have own := identity_of_classSketch (named.enumerations also) ofClass
    rw [named.classes occurs also (same.symm.trans own), ofClass]
  · exact absurd same (named.foreign foreign occurs)

/-- Drawn atoms with one identity are one atom. -/
theorem eq_of_identity_eq {bare other : Atom} (drawn : DrawnAtom module answers asked bare)
    (also : DrawnAtom module answers asked other) (same : bare.identity = other.identity) :
    bare = other := by
  rcases drawn.cases with ⟨reference, occurs, ofClass⟩ | foreign
  · have own : bare.identity = (ClassValue.user reference).identity :=
      identity_of_classSketch (named.enumerations occurs) ofClass
    have found := named.classSketch_eq also occurs (same.symm.trans own)
    exact Sketch.atom.inj (Except.ok.inj (ofClass.symm.trans found))
  · rcases also.cases with ⟨reference, occurs, ofClass⟩ | alsoForeign
    · have own := identity_of_classSketch (named.enumerations occurs) ofClass
      exact absurd (same.trans own) (named.foreign foreign occurs)
    · exact named.others foreign alsoForeign same

/-- No two drawn sketches share an identity. -/
theorem apart {sketch other : Sketch} (drawn : Drawn module answers asked sketch)
    (also : Drawn module answers asked other) (same : sketch.identity = other.identity) :
    sketch = other :=
  drawn.built.eq_of_identity_eq named.unmarked named.eq_of_identity_eq also.built same

/-- The name of a class belongs to its sketch alone. -/
theorem owned {reference : ClassRef} {sketch : Sketch}
    (occurs : Occurs module answers asked (.user reference))
    (drawn : Drawn module answers asked sketch)
    (same : sketch.identity = (ClassValue.user reference).identity) :
    classSketch module answers reference = .ok sketch := by
  have built := drawn.built
  cases built with
  | atom member => exact named.classSketch_eq member occurs same
  | generic =>
    refine absurd (by decide) ((named.classNames occurs).unmarked '[' ?_)
    rw [← same]
    simp [Sketch.identity, Sketch.generic]

end WellNamed

end ServiceStubs
