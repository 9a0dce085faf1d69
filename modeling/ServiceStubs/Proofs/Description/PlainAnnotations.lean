import ServiceStubs.Proofs.Description.Answers
import ServiceStubs.Proofs.Description.Naming

/-!
# Modules with plain annotations

Most modules annotate with nothing but shared primitives, type variables, their own classes, lists,
and applications of their records. All that is drawn of such annotations is called by a few words,
by type variables, and by qualified names, so names tell it apart when those of the classes have no
mark and no two are the same. What a host tells of such a module can be computed, so whether the
module is orderly is a matter of a few checks.
-/

namespace ServiceStubs

open Source (ClassRef ClassValue Evaluating Function Memory Module Value)
open Describing

/-! ## Plain annotations -/

section

variable (module : Module) (classes : List ClassRef)

mutual

/-- Whether an annotation is made of shared primitives, type variables and some classes of a module,
as they are, in lists and in applications of records. -/
def isPlain : Value → Bool
  | .constant .missing => true
  | .typeVariable binder => decide (IsAtomic (Atom.parameter binder.name).identity)
  | .classValue (.standard value) => (sharedIdentity? value).isSome || value.isListLike
  | .classValue (.user reference) => decide (reference ∈ classes)
  | .bareAlias word => word.origin.isListLike
  | .builtinOf (.standard origin) arguments | .templateOf (.standard origin) arguments =>
    origin.isListLike && arePlain arguments
  | .builtinOf (.user reference) arguments | .templateOf (.user reference) arguments =>
    decide (reference ∈ classes) && module.isRecord (.user reference) && arePlain arguments
  | .aliasOf word arguments => word.origin.isListLike && arePlain arguments
  | _ => false

/-- Whether several annotations are plain. -/
def arePlain : List Value → Bool
  | [] => true
  | value :: rest => isPlain value && arePlain rest

end

/-- Whether the hints of a function are plain and their evaluation remembers nothing. -/
def hintsPlain (function : Function) : Bool :=
  (module.functionHints function).isForgetful &&
    match module.firstAnswers.functionHints function with
    | .ok (hints, result) =>
      hints.all (isPlain module classes ·.2) && result.all (isPlain module classes)
    | .error _ => false

/-- What has to be checked of a module and its classes: what the host tells of them remembers
nothing, their hints are plain, and each has a name of its own that no other kind of name has. -/
structure PlainlyAnnotated : Prop where
  listed : ∀ reference ∈ classes, reference ∈ module.classes.toList.map (·.reference)
  classHints : ∀ reference ∈ classes, (module.classHints (.user reference)).isForgetful
  fieldHints : ∀ reference ∈ classes, (drawHints module.firstAnswers reference).toOption.all
    fun hints => hints.all (isPlain module classes ·.2)
  enumerations : ∀ reference ∈ classes, module.isKindOf (.user reference) .enum →
    (module.enumerationAtom reference).isForgetful
  unmarked : ∀ reference ∈ classes, IsAtomic (ClassValue.user reference).identity
  untilded : ∀ reference ∈ classes, (ClassValue.user reference).identity.toList.head? ≠ some '~'
  distinct : (classes.map fun reference => (ClassValue.user reference).identity).Nodup

end

/-- The words by which what is plain may be called. -/
def plainWords : List String :=
  [voidIdentity, objectIdentity, listIdentity, "int", "double", "bool", "string"]

variable {module : Module} {classes : List ClassRef}

/-- Several annotations are plain when each of them is. -/
theorem arePlain_iff {values : List Value} :
    arePlain module classes values ↔ ∀ value ∈ values, isPlain module classes value := by
  induction values with
  | nil => simp [arePlain]
  | cons value rest ih => simp [arePlain, ih]

/-- The parts of a plain annotation are plain. -/
theorem isPlain_part {value part : Value} (plain : isPlain module classes value)
    (member : part ∈ value.innerAnnotations) : isPlain module classes part := by
  cases value with
  | builtinOf origin arguments | templateOf origin arguments =>
    cases origin with
    | standard value =>
      rw [isPlain, Bool.and_eq_true, arePlain_iff] at plain
      rcases List.mem_cons.mp member with rfl | inArguments
      · rw [isPlain, plain.1, Bool.or_true]
      · exact plain.2 part inArguments
    | user reference =>
      rw [isPlain, Bool.and_eq_true, Bool.and_eq_true, arePlain_iff] at plain
      rcases List.mem_cons.mp member with rfl | inArguments
      · exact plain.1.1
      · exact plain.2 part inArguments
  | aliasOf word arguments =>
    rw [isPlain, Bool.and_eq_true, arePlain_iff] at plain
    exact plain.2 part member
  | constant | typeVariable | classValue | bareAlias => cases member
  | _ => cases plain

/-- A plain annotation has a usual form. -/
theorem not_isUnusual {value : Value} (plain : isPlain module classes value) :
    ¬ value.isUnusual := by
  cases value <;> first | exact Bool.false_ne_true | cases plain

/-- A shared primitive is called by a plain word. -/
theorem mem_plainWords {value : Source.StandardClass} {identity : String}
    (shared : sharedIdentity? value = some identity) : identity ∈ plainWords := by
  cases value <;> cases shared <;> decide

/-- A record is drawn with its fields. -/
theorem drawsFields_of_isRecord {answers : Answers} {reference : ClassRef}
    (record : module.isRecord (.user reference)) :
    drawsFields module answers reference = .ok true := if_pos record

/-- The atoms that are drawn of plain annotations which are no classes of the module. -/
inductive PlainAtom : Atom → Prop
  | word {identity : String} (member : identity ∈ plainWords) : PlainAtom (.primitive identity)
  | parameter {name : String} (unmarked : IsAtomic (Atom.parameter name).identity) :
      PlainAtom (.parameter name)

/-- A plain atom has no mark in its identity. -/
theorem PlainAtom.unmarked {bare : Atom} (plain : PlainAtom bare) : IsAtomic bare.identity := by
  cases plain with
  | word member =>
    have words : ∀ identity ∈ plainWords, IsAtomic identity := by decide
    exact words _ member
  | parameter unmarked => exact unmarked

/-- Plain atoms are told apart by their identities. -/
theorem PlainAtom.eq_of_identity_eq {bare other : Atom} (plain : PlainAtom bare)
    (also : PlainAtom other) (same : bare.identity = other.identity) : bare = other := by
  -- No word starts with a tilde, as the identity of a type variable does.
  have apart {identity name : String} (member : identity ∈ plainWords) :
      identity ≠ (Atom.parameter name).identity := by
    have words : ∀ identity ∈ plainWords, identity.toList.head? ≠ some '~' := by decide
    rintro rfl
    refine words _ member ?_
    simp [Atom.parameter]
  cases plain with
  | word member =>
    cases also with
    | word => exact congrArg (Atom.primitive ·) same
    | parameter => exact absurd same (apart member)
  | parameter =>
    cases also with
    | word member => exact absurd same.symm (apart member)
    | parameter => exact congrArg (Atom.parameter ·) (String.append_right_inj _ |>.mp same)

/-- No class has the identity of a plain atom when its name does not start with a tilde. -/
theorem PlainAtom.identity_ne {bare : Atom} {reference : ClassRef} (plain : PlainAtom bare)
    (untilded : (ClassValue.user reference).identity.toList.head? ≠ some '~') :
    bare.identity ≠ (ClassValue.user reference).identity := by
  generalize own : (ClassValue.user reference).identity = identity at untilded
  rintro rfl
  cases plain with
  | @word word member =>
    have dotless : ∀ identity ∈ plainWords, '.' ∉ identity.toList := by decide
    have called : word = (ClassValue.user reference).identity := own.symm
    refine dotless _ member ?_
    rw [called]
    simp [ClassValue.identity]
  | parameter =>
    refine untilded ?_
    simp [Atom.parameter]

/-- An atom that is drawn of a plain annotation which is no class of the module is plain. -/
theorem plainAtom_of_drawn {answers : Answers} {value : Value} {bare : Atom}
    (plain : isPlain module classes value) (other : ∀ reference, value ≠ .user reference)
    (drawn : drawValue module answers (classSketch module answers) value = .ok (.atom bare)) :
    PlainAtom bare := by
  cases value with
  | constant datum =>
    cases datum with
    | missing =>
      obtain rfl := Sketch.atom.inj (Except.ok.inj drawn)
      exact .word (by decide)
    | _ => cases plain
  | typeVariable binder =>
    obtain rfl := Sketch.atom.inj (Except.ok.inj drawn)
    exact .parameter (of_decide_eq_true plain)
  | classValue value =>
    cases value with
    | standard value =>
      have same := Except.ok.inj drawn
      unfold standardSketch at same
      cases shared : sharedIdentity? value with
      | some identity =>
        rw [shared] at same
        obtain rfl := Sketch.atom.inj same
        exact .word (mem_plainWords shared)
      | none =>
        rw [isPlain, shared] at plain
        rw [shared] at same
        cases (if_pos plain).symm.trans same
    | user reference => exact absurd rfl (other reference)
  | bareAlias word =>
    cases (if_pos plain).symm.trans (Except.ok.inj drawn)
  | builtinOf origin arguments | templateOf origin arguments =>
    obtain ⟨sketches, _, rest⟩ := bind_eq_ok.mp drawn
    cases origin with
    | standard value =>
      rw [isPlain, Bool.and_eq_true] at plain
      cases (if_pos plain.1).symm.trans rest
    | user reference =>
      rw [isPlain, Bool.and_eq_true, Bool.and_eq_true] at plain
      obtain ⟨_, fields, last⟩ := bind_eq_ok.mp rest
      obtain rfl := Except.ok.inj ((drawsFields_of_isRecord plain.1.2).symm.trans fields)
      obtain ⟨_, _, applied⟩ := bind_eq_ok.mp last
      cases applied
  | aliasOf word arguments =>
    obtain ⟨sketches, _, rest⟩ := bind_eq_ok.mp drawn
    rw [isPlain, Bool.and_eq_true] at plain
    cases (if_pos plain.1).symm.trans rest
  | _ => cases plain

/-! ## Orderly modules -/

/-- What is told is the result of an evaluation when nothing is remembered. -/
theorem ok_of_told {α : Type} {evaluation : Evaluating α} {value : α}
    (told : evaluation.told = .ok value) : ∃ later, evaluation {} = .ok value later := by
  unfold Evaluating.told at told
  split at told
  · rename_i found later done
    exact ⟨later, Except.ok.inj told ▸ done⟩
  · cases told

section

variable {asked : Call → Prop}
variable (wanted : ∀ value, asked (.typeOf value) → isPlain module classes value)
variable (offered : ∀ owner, asked (.serviceOf owner) →
  (module.declaredFunctions owner).all fun entry => hintsPlain module classes entry.2)
variable (checked : PlainlyAnnotated module classes)

include wanted offered checked

/-- Nothing but plain annotations occurs. -/
theorem isPlain_of_occurs {value : Value} (occurs : Occurs module module.firstAnswers asked value) :
    isPlain module classes value := by
  have ofFunction {owner : ClassValue} {name : String} {function : Function}
      (call : asked (.serviceOf owner))
      (member : (name, function) ∈ module.declaredFunctions owner) :
      hintsPlain module classes function := List.all_eq_true.mp (offered owner call) _ member
  induction occurs with
  | wanted call => exact wanted _ call
  | unannotated => rfl
  | parameter call member told listed =>
    have hints := ofFunction call member
    simp only [hintsPlain, told, Bool.and_eq_true, List.all_eq_true] at hints
    exact hints.2.1 _ listed
  | result call member told =>
    have hints := ofFunction call member
    simp only [hintsPlain, told, Bool.and_eq_true] at hints
    exact hints.2.2
  | part _ member plain => exact isPlain_part plain member
  | @field reference hints hint owner told listed plain =>
    have fields := checked.fieldHints reference (of_decide_eq_true plain)
    rw [told] at fields
    exact List.all_eq_true.mp fields _ listed

/-- The classes that occur are among those that were checked. -/
theorem mem_of_occurs {reference : ClassRef}
    (occurs : Occurs module module.firstAnswers asked (.user reference)) : reference ∈ classes :=
  of_decide_eq_true (isPlain_of_occurs wanted offered checked occurs)

/-- What occurs is told apart by names. -/
theorem PlainlyAnnotated.wellNamed : WellNamed module module.firstAnswers asked := by
  have plain {bare : Atom} (foreign : Foreign module module.firstAnswers asked bare) :
      PlainAtom bare := by
    cases foreign with
    | ofValue occurs other drawn =>
      exact plainAtom_of_drawn (isPlain_of_occurs wanted offered checked occurs) other drawn
    | list => exact .word (by decide)
    | arguments occurs => cases isPlain_of_occurs wanted offered checked occurs
  have among := @mem_of_occurs module classes asked wanted offered checked
  have enumerations {reference : ClassRef} {atom : Atom}
      (told : module.firstAnswers.enumeration reference = .ok atom) :
      atom.identity = (ClassValue.user reference).identity := by
    obtain ⟨_, made⟩ := ok_of_told told
    exact Source.Module.enumerationAtom_identity made
  constructor
  case unmarked =>
    intro bare drawn
    rcases drawn.cases with ⟨reference, occurs, ofClass⟩ | foreign
    · have own : bare.identity = _ := identity_of_classSketch enumerations ofClass
      exact own ▸ checked.unmarked reference (among occurs)
    · exact (plain foreign).unmarked
  case classes =>
    intro reference other occurs also same
    exact List.inj_on_of_nodup_map checked.distinct (among occurs) (among also) same
  case classNames => exact fun occurs => checked.unmarked _ (among occurs)
  case enumerations => exact fun _ => enumerations
  case foreign =>
    exact fun foreign occurs => (plain foreign).identity_ne (checked.untilded _ (among occurs))
  case others => exact fun foreign also => (plain foreign).eq_of_identity_eq (plain also)

/-- Such a module tells what it is asked, and identities tell apart what is drawn. -/
theorem PlainlyAnnotated.orderly : Orderly module module.firstAnswers asked (· = {}) := by
  have named := checked.wellNamed wanted offered
  have among := @mem_of_occurs module classes asked wanted offered checked
  constructor
  case classHints =>
    exact fun occurs => tells_of_isForgetful (checked.classHints _ (among occurs))
  case functionHints =>
    intro owner name function call member
    have hints := List.all_eq_true.mp (offered owner call) _ member
    exact tells_of_isForgetful (Bool.and_eq_true_iff.mp hints).1
  case enumeration =>
    exact fun occurs kind => tells_of_isForgetful (checked.enumerations _ (among occurs) kind)
  case listLike =>
    intro value occurs unusual
    exact absurd unusual (not_isUnusual (isPlain_of_occurs wanted offered checked occurs))
  case listed => exact fun occurs => checked.listed _ (among occurs)
  case classes => exact named.classes
  case owned => exact named.owned
  case apart => exact named.apart

end

/-! ## A module with several classes -/

/-- A class whose fields lead to lines. -/
def orderClass : ClassRef :=
  { index := 0, moduleName := "svc", qualifiedName := "Order", name := "Order" }

/-- A class whose fields lead back to an order. -/
def lineClass : ClassRef :=
  { index := 1, moduleName := "svc", qualifiedName := "Line", name := "Line" }

/-- A generic class. -/
def orderPage : ClassRef :=
  { index := 2, moduleName := "svc", qualifiedName := "Page", name := "Page" }

/-- A service with a function that gives pages of orders. -/
def shop : ClassRef := { index := 3, moduleName := "svc", qualifiedName := "Shop", name := "Shop" }

/-- A module with these classes. -/
def orders : Module where
  name := "svc"
  classes := #[
    { reference := orderClass, order := [.user orderClass, .standard .object]
      annotations := [("lines", .builtinOf (.standard .list) [.user lineClass])]
      attributes := recordAttributes [] },
    { reference := lineClass, order := [.user lineClass, .standard .object]
      annotations := [("order", .user orderClass), ("count", .standard .int)]
      attributes := recordAttributes [] },
    { reference := orderPage, order := [.user orderPage, .standard .generic, .standard .object]
      annotations := [("items", .builtinOf (.standard .list) [.typeVariable ⟨0, "T"⟩])]
      attributes := recordAttributes [.typeVariable ⟨0, "T"⟩] },
    { reference := shop, order := [.user shop, .standard .object], annotations := []
      attributes := .ofList [("all", .function ⟨0, "svc", "Shop.all", "all"⟩)] }]
  functions := #[{ qualifiedName := "Shop.all", parameters := [{ name := "self" }]
                   returns := some (.templateOf (.user orderPage) [.user orderClass]) }]

/-- The classes with fields. -/
def orderClasses : List ClassRef := [orderClass, lineClass, orderPage]

/-- The calls for any plain annotation and for the service. -/
def orderCalls : Call → Prop
  | .typeOf value => isPlain orders orderClasses value
  | .serviceOf owner => owner = .user shop

/-- The classes have plain hints and names of their own. -/
theorem orders_plainlyAnnotated : PlainlyAnnotated orders orderClasses where
  listed := by decide +kernel
  classHints := by decide +kernel
  fieldHints := by decide +kernel
  enumerations := by decide +kernel
  unmarked := by decide +kernel
  untilded := by decide +kernel
  distinct := by decide +kernel

/-- The module tells what it is asked, and identities tell apart all that is drawn of its plain
annotations. -/
theorem orders_orderly : Orderly orders orders.firstAnswers orderCalls (· = {}) := by
  refine orders_plainlyAnnotated.orderly (fun value call => call) fun owner call => ?_
  obtain rfl := call
  decide +kernel

end ServiceStubs
