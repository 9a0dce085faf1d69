import Mathlib.Data.List.Basic
import ServiceStubs.Types.Graph

/-!
# Structures that identities tell

The identity of a generic construction is one text: the identity of the base, and in square
brackets after it those of the arguments with commas between them. A base may be a construction
itself, and there may be no argument at all. As long as no atom has one of these marks in its
identity, or no identity at all, the text tells the whole structure. A reader that goes through it
once, with the constructions that are still open on a stack, finds the structure of the type again,
whatever is open around it. So types with one identity have one structure, in whatever graphs they
are, and types with one structure have one identity.
-/

namespace ServiceStubs

/-- How a type is built up: it stands for itself, or it applies a base to arguments. -/
inductive Structure
  /-- A type that stands for itself. -/
  | atom (identity : String)
  /-- A base applied to arguments. -/
  | apply (base : Structure) (arguments : List Structure)
deriving Inhabited

namespace Structure

mutual

/-- The identity of what is built up. -/
def identity : Structure → String
  | atom identity => identity
  | apply base arguments =>
    identity base ++ "[" ++ Text.joined "," (identities arguments) ++ "]"

/-- The identities of what is built up, one by one. -/
def identities : List Structure → List String
  | [] => []
  | first :: rest => identity first :: identities rest

end

/-- Several structures have the identities of each of them in order. -/
theorem identities_eq_map (structures : List Structure) :
    identities structures = structures.map identity := by
  induction structures with
  | nil => rfl
  | cons first rest ih => rw [identities, ih, List.map_cons]

end Structure

namespace TypeGraph

variable (graph : TypeGraph)

mutual

/-- The structure of a type. Of a construction only its parts count. -/
def structureOf : TypeRef → Structure
  | .atom index => .atom (graph.atom index).identity
  | .apply _ _ base arguments => .apply (structureOf base) (structuresOf arguments)

/-- The structures of several types. -/
def structuresOf : List TypeRef → List Structure
  | [] => []
  | type :: rest => structureOf type :: structuresOf rest

end

/-- Several types have the structures of each of them in order. -/
theorem structuresOf_eq_map (types : List TypeRef) :
    graph.structuresOf types = types.map graph.structureOf := by
  induction types with
  | nil => rfl
  | cons type rest ih => rw [structuresOf, ih, List.map_cons]

end TypeGraph

/-- The marks of composed identities. -/
def identityMarks : List Char := ['[', ',', ']']

/-- Whether an identity is that of an atom: it is not empty and has none of the marks. -/
structure IsAtomic (identity : String) : Prop where
  nonempty : identity ≠ ""
  unmarked : ∀ character ∈ identity.toList, character ∉ identityMarks

/-- An identity is that of an atom when a look at each of its characters finds no mark. -/
theorem isAtomic_iff (identity : String) :
    IsAtomic identity ↔
      identity ≠ "" ∧ identity.toList.all (fun character => character ∉ identityMarks) := by
  simp only [List.all_eq_true, decide_eq_true_eq]
  exact ⟨fun atomic => ⟨atomic.nonempty, atomic.unmarked⟩, fun both => ⟨both.1, both.2⟩⟩

instance (identity : String) : Decidable (IsAtomic identity) :=
  decidable_of_iff' _ (isAtomic_iff identity)

namespace TypeGraph

/-- The types that are made of atoms by generic constructions, with constructions as bases and as
arguments and with any number of arguments. -/
inductive Composed (graph : TypeGraph) : TypeRef → Prop
  | atom {index : Nat} (atomic : IsAtomic (graph.atom index).identity) :
      Composed graph (.atom index)
  | generic {base : TypeRef} {arguments : List TypeRef} (based : Composed graph base)
      (applied : ∀ argument ∈ arguments, Composed graph argument) :
      Composed graph (graph.generic base arguments)

/-- Lists are constructions over the list template, whose identity is that of an atom. -/
theorem Composed.listOf {graph : TypeGraph} {template : Nat} {argument : TypeRef}
    (isList : (graph.atom template).identity = listIdentity)
    (composed : graph.Composed argument) :
    graph.Composed (graph.generic (.atom template) [argument]) := by
  refine .generic (.atom ?_) fun other member => ?_
  · rw [isList]
    decide
  · rwa [List.mem_singleton.mp member]

end TypeGraph

/-! ## The reader -/

/-- What has been read of an identity. -/
structure Reading where
  /-- The structure that was read last, unless a further one is to begin. -/
  current : Option Structure := none
  /-- The bases of the constructions that are open with the arguments so far, the innermost
  first. -/
  opened : List (Structure × List Structure) := []

namespace Reading

/-- What was read last is a base, and its arguments begin. -/
def openArguments (reading : Reading) : Reading :=
  ⟨none, (reading.current.getD default, []) :: reading.opened⟩

/-- What was read last is an argument, and a further one begins. -/
def nextArgument (reading : Reading) : Reading :=
  match reading.opened with
  | [] => reading
  | (base, arguments) :: outer => ⟨none, (base, arguments ++ reading.current.toList) :: outer⟩

/-- What was read last, if anything, is the last argument. -/
def closeArguments (reading : Reading) : Reading :=
  match reading.opened with
  | [] => reading
  | (base, arguments) :: outer =>
    ⟨some (.apply base (arguments ++ reading.current.toList)), outer⟩

/-- A character of the identity of an atom. -/
def extend (reading : Reading) (character : Char) : Reading :=
  match reading.current with
  | some (.atom identity) =>
    { reading with current := some (.atom (identity ++ String.singleton character)) }
  | _ => { reading with current := some (.atom (String.singleton character)) }

/-- The reading with one more character. -/
def step (reading : Reading) (character : Char) : Reading :=
  if character = '[' then reading.openArguments
  else if character = ',' then reading.nextArgument
  else if character = ']' then reading.closeArguments
  else reading.extend character

/-- The reading with more text. -/
def read (reading : Reading) (text : String) : Reading := text.toList.foldl step reading

variable {reading : Reading}

/-- A text in two parts is read one part after the other. -/
theorem read_append (reading : Reading) (first second : String) :
    reading.read (first ++ second) = (reading.read first).read second := by
  rw [read, String.toList_append, List.foldl_append]
  rfl

/-- A character that is no mark belongs to an atom. -/
theorem step_of_unmarked {character : Char} (unmarked : character ∉ identityMarks) :
    reading.step character = reading.extend character := by
  simp only [identityMarks, List.mem_cons, List.not_mem_nil, or_false, not_or] at unmarked
  rw [step, if_neg unmarked.1, if_neg unmarked.2.1, if_neg unmarked.2.2]

/-- An atom that is begun is continued by characters that are no marks. -/
theorem foldl_step_atom (identity : String) (opened : List (Structure × List Structure))
    {characters : List Char} (unmarked : ∀ character ∈ characters, character ∉ identityMarks) :
    characters.foldl step ⟨some (.atom identity), opened⟩ =
      ⟨some (.atom (identity ++ String.ofList characters)), opened⟩ := by
  induction characters generalizing identity with
  | nil => simp
  | cons character rest ih =>
    have later := ih (identity ++ String.singleton character) fun other member =>
      unmarked other (List.mem_cons_of_mem character member)
    rw [List.foldl_cons, step_of_unmarked (unmarked character List.mem_cons_self), extend, later,
      String.append_assoc, String.ofList_cons]

/-- The identity of an atom is read as that atom. -/
theorem read_atom {identity : String} (atomic : IsAtomic identity)
    (opened : List (Structure × List Structure)) :
    read ⟨none, opened⟩ identity = ⟨some (.atom identity), opened⟩ := by
  obtain ⟨characters, rfl⟩ : ∃ characters, identity = String.ofList characters :=
    ⟨identity.toList, String.ofList_toList.symm⟩
  obtain ⟨nonempty, unmarked⟩ := atomic
  rw [String.toList_ofList] at unmarked
  cases characters with
  | nil => exact absurd rfl nonempty
  | cons character rest =>
    have later := foldl_step_atom (String.singleton character) opened fun other member =>
      unmarked other (List.mem_cons_of_mem character member)
    rw [read, String.toList_ofList, List.foldl_cons,
      step_of_unmarked (unmarked character List.mem_cons_self), extend, later, String.ofList_cons]

/-- Arguments are read in order when each of them is read, whatever is open around it. The bracket
after them completes the construction. -/
theorem read_arguments {arguments : List Structure}
    (each : ∀ argument ∈ arguments, ∀ opened,
      read ⟨none, opened⟩ argument.identity = ⟨some argument, opened⟩)
    (base : Structure) (earlier : List Structure) (outer : List (Structure × List Structure)) :
    (read ⟨none, (base, earlier) :: outer⟩
        (Text.joined "," (arguments.map Structure.identity))).closeArguments =
      ⟨some (.apply base (earlier ++ arguments)), outer⟩ := by
  -- Each argument joins those before it, so the induction is over all that may stand before.
  induction arguments generalizing earlier with
  | nil => rfl
  | cons argument rest ih =>
    have here := each argument List.mem_cons_self ((base, earlier) :: outer)
    cases rest with
    | nil =>
      rw [List.map_singleton, Text.joined, here]
      rfl
    | cons next others =>
      have later := ih (fun other member => each other (List.mem_cons_of_mem argument member))
        (earlier ++ [argument])
      have split : Text.joined "," ((argument :: next :: others).map Structure.identity) =
          argument.identity ++ "," ++
            Text.joined "," ((next :: others).map Structure.identity) := rfl
      rw [List.append_assoc] at later
      rw [split, read_append, read_append, here]
      exact later

end Reading

namespace Structure

/-- Whether nothing in a structure stands for itself but atoms. -/
inductive Unmarked : Structure → Prop
  | atom {identity : String} (atomic : IsAtomic identity) : Unmarked (.atom identity)
  | apply {base : Structure} {arguments : List Structure} (based : Unmarked base)
      (applied : ∀ argument ∈ arguments, Unmarked argument) : Unmarked (.apply base arguments)

/-- The identity of an unmarked structure is read as the structure, whatever is open around it. -/
theorem Unmarked.read_identity {whole : Structure} (unmarked : whole.Unmarked)
    (opened : List (Structure × List Structure)) :
    Reading.read ⟨none, opened⟩ whole.identity = ⟨some whole, opened⟩ := by
  induction unmarked generalizing opened with
  | atom atomic => exact Reading.read_atom atomic opened
  | @apply base arguments _ _ based applied =>
    have parts := Reading.read_arguments applied base [] opened
    rw [identity, identities_eq_map, Reading.read_append, Reading.read_append,
      Reading.read_append, based]
    exact parts

/-- Unmarked structures with one identity are one structure. -/
theorem Unmarked.eq_of_identity_eq {first second : Structure} (firstUnmarked : first.Unmarked)
    (secondUnmarked : second.Unmarked) (same : first.identity = second.identity) :
    first = second := by
  have readings := firstUnmarked.read_identity []
  rw [same, secondUnmarked.read_identity []] at readings
  exact Option.some.inj (congrArg Reading.current readings).symm

end Structure

namespace TypeGraph

variable {graph left right : TypeGraph} {type first second : TypeRef}

/-- The structure of a composed type is unmarked. -/
theorem Composed.unmarked (composed : graph.Composed type) :
    (graph.structureOf type).Unmarked := by
  induction composed with
  | atom atomic => exact .atom atomic
  | @generic base arguments _ _ based applied =>
    refine .apply based fun argument member => ?_
    rw [structuresOf_eq_map] at member
    obtain ⟨type, listed, rfl⟩ := List.mem_map.mp member
    exact applied type listed

/-- The identity of a composed type is that of its structure. -/
theorem Composed.identity_eq (composed : graph.Composed type) :
    graph.identity type = (graph.structureOf type).identity := by
  induction composed with
  | atom atomic => rfl
  | @generic base arguments _ _ based applied =>
    change graph.composedIdentity base arguments = (Structure.apply (graph.structureOf base)
      (graph.structuresOf arguments)).identity
    rw [composedIdentity, Structure.identity, Structure.identities_eq_map, structuresOf_eq_map,
      List.map_map, based]
    exact congrArg (fun identities => _ ++ Text.joined "," identities ++ "]")
      (List.map_congr_left applied)

/-- Composed types with one identity have one structure, in whatever graphs they are, and composed
types with one structure have one identity: nothing but the structure enters an identity, and all of
it does. -/
theorem identity_eq_iff_structure_eq (firstComposed : left.Composed first)
    (secondComposed : right.Composed second) :
    left.identity first = right.identity second ↔
      left.structureOf first = right.structureOf second := by
  rw [firstComposed.identity_eq, secondComposed.identity_eq]
  constructor
  case mp => exact firstComposed.unmarked.eq_of_identity_eq secondComposed.unmarked
  case mpr => exact congrArg Structure.identity

/-- A page template, the list template and a number. -/
def pages : TypeGraph where
  atoms := #[.composite "Page" "svc.Page", .primitive listIdentity, .primitive "int"]

/-- Other types with the same identities at other places. -/
def otherPages : TypeGraph where
  atoms := #[.enumeration "int" [], .parameter "P" "svc.Page", .primitive listIdentity]

/-- A page of a list and of a page of nothing, applied to a number once more. -/
def pageOfPages (graph : TypeGraph) (page list number : TypeRef) : TypeRef :=
  graph.generic (graph.generic page [graph.generic list [number], graph.generic page []]) [number]

/-- The pages are composed of their template, of a list template and of a number. -/
theorem composed_pageOfPages {page list number : Nat}
    (template : IsAtomic (graph.atom page).identity)
    (isList : (graph.atom list).identity = listIdentity)
    (atomic : IsAtomic (graph.atom number).identity) :
    graph.Composed (pageOfPages graph (.atom page) (.atom list) (.atom number)) := by
  have numbers := Composed.listOf isList (.atom atomic)
  refine .generic (.generic (.atom template) fun argument member => ?_) fun argument member => ?_
  · rcases List.mem_cons.mp member with rfl | member
    · exact numbers
    · rw [List.mem_singleton.mp member]
      exact .generic (.atom template) fun _ absent => nomatch absent
  · rw [List.mem_singleton.mp member]
    exact .atom atomic

/-- The pages of both graphs are composed and have one identity, so they have one structure. -/
theorem identity_eq_iff_structure_eq_pages :
    pages.Composed (pageOfPages pages (.atom 0) (.atom 1) (.atom 2)) ∧
    otherPages.Composed (pageOfPages otherPages (.atom 1) (.atom 2) (.atom 0)) ∧
    pages.identity (pageOfPages pages (.atom 0) (.atom 1) (.atom 2)) =
      "svc.Page[list[int],svc.Page[]][int]" ∧
    otherPages.identity (pageOfPages otherPages (.atom 1) (.atom 2) (.atom 0)) =
      "svc.Page[list[int],svc.Page[]][int]" ∧
    pages.structureOf (pageOfPages pages (.atom 0) (.atom 1) (.atom 2)) =
      otherPages.structureOf (pageOfPages otherPages (.atom 1) (.atom 2) (.atom 0)) := by
  have composed : pages.Composed (pageOfPages pages (.atom 0) (.atom 1) (.atom 2)) :=
    composed_pageOfPages (by decide) rfl (by decide)
  have otherComposed :
      otherPages.Composed (pageOfPages otherPages (.atom 1) (.atom 2) (.atom 0)) :=
    composed_pageOfPages (by decide) rfl (by decide)
  have same : pages.identity (pageOfPages pages (.atom 0) (.atom 1) (.atom 2)) =
      otherPages.identity (pageOfPages otherPages (.atom 1) (.atom 2) (.atom 0)) := rfl
  exact ⟨composed, otherComposed, rfl, rfl,
    (identity_eq_iff_structure_eq composed otherComposed).mp same⟩

end TypeGraph

end ServiceStubs
