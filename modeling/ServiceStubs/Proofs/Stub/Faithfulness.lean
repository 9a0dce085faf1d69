import ServiceStubs.Proofs.Registry.Bracketing
import ServiceStubs.Proofs.Stub.Readings

/-!
# Faithful texts of types

A registry is obtained from the built-in names by reserving names and by resolving types of a
graph, in any order and any number of times. Whatever its history, its names are apart and each of
them comes from the name of a type of the graph. When these names hold no angle bracket, the text
of a type says how the type is built: two types that are built from known types have one text only
when they are built in the same way and differ at most in built-in types with one name. So two
declared types, or two constructions, are never written alike.
-/

namespace ServiceStubs

/-- Two types that are built in the same way from types with one identity or from built-in types
with one name. -/
inductive TypeGraph.Alike (graph : TypeGraph) : TypeRef → TypeRef → Prop
  /-- Types with one identity are alike. -/
  | identical {left right : Nat} (same : (graph.atom left).identity = (graph.atom right).identity) :
      Alike graph (.atom left) (.atom right)
  /-- Built-in types with one name are alike. -/
  | builtin {left right : Nat} {text : String}
      (first : Registry.typescript.builtin? (graph.atom left).identity = some text)
      (second : Registry.typescript.builtin? (graph.atom right).identity = some text) :
      Alike graph (.atom left) (.atom right)
  /-- Constructions are alike when their bases and their arguments are. -/
  | apply {identity name otherIdentity otherName : String}
      {base argument otherBase otherArgument : TypeRef} (bases : Alike graph base otherBase)
      (arguments : Alike graph argument otherArgument) :
      Alike graph (.apply identity name base [argument])
        (.apply otherIdentity otherName otherBase [otherArgument])

/-- Whether no type has an identity, neither a built-in one nor one of the graph. -/
def TypeGraph.Unclaimed (graph : TypeGraph) (identity : String) : Prop :=
  Registry.typescript.builtin? identity = none ∧
    ∀ index < graph.size, (graph.atom index).identity ≠ identity

instance (graph : TypeGraph) (identity : String) : Decidable (graph.Unclaimed identity) :=
  inferInstanceAs (Decidable (_ ∧ _))

/-- A name derived from a plain name is plain, since numerals hold digits alone. -/
theorem DerivedName.plain {own name : String} (derived : DerivedName own name) (plain : Plain own) :
    Plain name := by
  cases derived with
  | own => exact plain
  | @numbered counter _ =>
    have absent : ∀ bracket : Char, bracket.isDigit = false →
        bracket ∉ (toString counter).toList := by
      intro bracket noDigit member
      exact absurd (isDigit_of_mem_numeral member) (by simp [noDigit])
    simp only [Plain, String.toList_append, List.mem_append, not_or]
    exact ⟨⟨plain.1, absent _ rfl⟩, plain.2, absent _ rfl⟩

namespace Registry

/-- A registry that starts with the built-in names and in which names were reserved and types of
a graph were resolved. -/
inductive Obtained (graph : TypeGraph) : Registry → Prop
  /-- The built-in names alone. -/
  | typescript : Obtained graph .typescript
  /-- Names are reserved. -/
  | reserve {registry : Registry} (names : List String) (before : Obtained graph registry) :
      Obtained graph (registry.reserve names)
  /-- A closure is resolved. -/
  | resolve {registry : Registry} {seeds : List TypeRef} {closure : Closure}
      (before : Obtained graph registry) (resolved : registry.resolve graph seeds = .ok closure) :
      Obtained graph closure.registry

/-- A type that is built by applying one argument at a time, from types that a registry knows and
that are no parameters. No type has the identity of a construction. -/
inductive Built (registry : Registry) (graph : TypeGraph) : TypeRef → Prop
  /-- A known type that stands for itself. -/
  | atom {index : Nat} (concrete : (graph.atom index).kind ≠ .parameter)
      (known : registry.isKnown graph (.atom index)) : Built registry graph (.atom index)
  /-- A construction with an identity of its own. -/
  | apply {identity name : String} {base argument : TypeRef} (own : graph.Unclaimed identity)
      (template : Built registry graph base) (applied : Built registry graph argument) :
      Built registry graph (.apply identity name base [argument])

/-- What holds of the names of a registry that types of a graph were registered in. -/
structure Sourced (graph : TypeGraph) (registry : Registry) : Prop where
  /-- The built-in names are those of the target language. -/
  builtins : registry.builtins = typescriptNames
  /-- Registered names are not repeated. -/
  distinct : registry.entryNames.Nodup
  /-- Registered names are not built in. -/
  free : ∀ name ∈ registry.entryNames, name ∉ typescriptNames.values
  /-- Registered names are derived from the names of types of the graph with their identities. -/
  sources : ∀ identity name, registry.entry? identity = some name →
    ∃ index < graph.size, (graph.atom index).identity = identity ∧
      DerivedName (graph.atom index).name name

namespace Sourced

variable {graph : TypeGraph} {registry : Registry}

/-- Without registered names there is nothing to hold. -/
theorem typescript (graph : TypeGraph) : Sourced graph .typescript where
  builtins := rfl
  distinct := List.nodup_nil
  free := by simp [entryNames, entryIdentities, Registry.typescript, firstOccurrences]
  sources := by simp [ entry?, Registry.typescript]

/-- Reserving names changes no name that is registered. -/
theorem reserve (sourced : Sourced graph registry) (names : List String) :
    Sourced graph (registry.reserve names) :=
  ⟨sourced.builtins, sourced.distinct, sourced.free, sourced.sources⟩

/-- A type of the graph is registered under the name it has, or under one that is free. -/
theorem register (sourced : Sourced graph registry) {index : Nat} (inside : index < graph.size) :
    Sourced graph (registry.register graph (.atom index)) := by
  have names := registry.entryNames_register graph (.atom index)
  have found := registry.entry?_register graph (.atom index)
  cases old : registry.entry? (graph.atom index).identity with
  | some own =>
    simp only [TypeGraph.identity, targetName, old, Option.isSome_some, if_true, Option.getD_some]
      at names found
    refine ⟨sourced.builtins, names ▸ sourced.distinct, names ▸ sourced.free,
      fun identity name entered => ?_⟩
    rw [found] at entered
    split_ifs at entered with same
    · exact sourced.sources identity name (same ▸ old.trans entered)
    · exact sourced.sources identity name entered
  | none =>
    have fresh := freeName_not_mem registry.takenNames (graph.atom index).name
    simp only [TypeGraph.identity, TypeGraph.name, targetName, old, Option.isSome_none,
      Bool.false_eq_true, if_false, Option.getD_none] at names found
    simp only [takenNames, List.mem_append, not_or] at fresh
    refine ⟨sourced.builtins, ?_, fun name member => ?_, fun identity name entered => ?_⟩
    · rw [names, List.nodup_append]
      refine ⟨sourced.distinct, List.nodup_singleton _, fun left member right single => ?_⟩
      rintro rfl
      exact fresh.1.1 (List.mem_singleton.mp single ▸ member)
    · rw [names, List.mem_append, List.mem_singleton] at member
      rcases member with before | rfl
      · exact sourced.free name before
      · exact sourced.builtins ▸ fresh.1.2
    · rw [found] at entered
      split_ifs at entered with same
      · obtain rfl := Option.some.inj entered
        exact ⟨index, inside, same.symm, freeName_derived _ _⟩
      · exact sourced.sources identity name entered

/-- Types of the graph are registered one after another. -/
theorem registerAll (sourced : Sourced graph registry) {atoms : List Nat}
    (inside : ∀ index ∈ atoms, index < graph.size) :
    Sourced graph (Closure.registerAll registry graph atoms) := by
  induction atoms generalizing registry with
  | nil => exact sourced
  | cons index rest ih =>
    exact ih (sourced.register (inside index List.mem_cons_self))
      fun other later => inside other (List.mem_cons_of_mem index later)

/-- All that a resolved closure registered are types of the graph that can be declared. -/
theorem resolve (sourced : Sourced graph registry) {seeds : List TypeRef} {closure : Closure}
    (resolved : registry.resolve graph seeds = .ok closure) : Sourced graph closure.registry := by
  obtain ⟨registered, progress⟩ := Closure.resolve_progress resolved
  have grown : closure.registry = Closure.registerAll registry graph registered := progress.grown
  rw [grown]
  refine sourced.registerAll fun index member => ?_
  have emitted : index ∈ closure.types := by
    simpa [Closure.Search.owners, Closure.Search.pending] using progress.placed.mem_iff.mp member
  exact Stub.lt_size_of_emitted resolved emitted

/-- What is built in does not depend on what was registered. -/
theorem builtin?_eq (sourced : Sourced graph registry) (identity : String) :
    registry.builtin? identity = Registry.typescript.builtin? identity := by
  rw [builtin?, builtin?, sourced.builtins]
  rfl

/-- A name is built in or registered. -/
theorem name?_cases (sourced : Sourced graph registry) {identity name : String}
    (named : registry.name? identity = some name) :
    Registry.typescript.builtin? identity = some name ∨ registry.entry? identity = some name := by
  rw [name?, sourced.builtin?_eq, Option.or_eq_some_iff] at named
  exact named.imp_right And.right

/-- An identity that no type has is without a name. -/
theorem name?_of_unclaimed (sourced : Sourced graph registry) {identity : String}
    (own : graph.Unclaimed identity) : registry.name? identity = none := by
  by_contra named
  obtain ⟨name, found⟩ := Option.ne_none_iff_exists'.mp named
  rcases sourced.name?_cases found with builtin | entered
  · simp [own.1] at builtin
  · obtain ⟨index, inside, same, _⟩ := sourced.sources identity name entered
    exact own.2 index inside same

/-- Two identities have one name only when they are equal or both built in. -/
theorem name?_unique (sourced : Sourced graph registry) {left right name : String}
    (first : registry.name? left = some name) (second : registry.name? right = some name) :
    left = right ∨ Registry.typescript.builtin? left = some name ∧
      Registry.typescript.builtin? right = some name := by
  have entryFree : ∀ identity, registry.entry? identity = some name →
      name ∉ typescriptNames.values := by
    intro identity entered
    refine sourced.free name ?_
    rw [← entries_map_snd]
    exact List.mem_map_of_mem ((registry.mem_entries identity name).mpr entered)
  rcases sourced.name?_cases first with leftBuiltin | leftEntered <;>
    rcases sourced.name?_cases second with rightBuiltin | rightEntered
  · exact .inr ⟨leftBuiltin, rightBuiltin⟩
  · exact absurd (Stub.mem_typescriptNames leftBuiltin) (entryFree right rightEntered)
  · exact absurd (Stub.mem_typescriptNames rightBuiltin) (entryFree left leftEntered)
  · have distinct := sourced.distinct
    rw [← entries_map_snd] at distinct
    have equal := List.inj_on_of_nodup_map distinct
      ((registry.mem_entries left name).mpr leftEntered)
      ((registry.mem_entries right name).mpr rightEntered) rfl
    exact .inl (congrArg Prod.fst equal)

/-- Names derived from plain names are plain, and so are those that are built in. -/
theorem plain_name (sourced : Sourced graph registry)
    (plain : ∀ index < graph.size, Plain (graph.atom index).name) {identity name : String}
    (named : registry.name? identity = some name) : Plain name := by
  rcases sourced.name?_cases named with builtin | entered
  · have builtins : ∀ text ∈ typescriptNames.values, Plain text := by decide
    exact builtins name (Stub.mem_typescriptNames builtin)
  · obtain ⟨index, inside, _, derived⟩ := sourced.sources identity name entered
    exact derived.plain (plain index inside)

end Sourced

variable {graph : TypeGraph} {registry : Registry}

/-- Every registry that is obtained from the built-in names has names that are apart and come from
names of the graph. -/
theorem Obtained.sourced (obtained : Obtained graph registry) : Sourced graph registry := by
  induction obtained with
  | typescript => exact .typescript graph
  | reserve names _ sourced => exact sourced.reserve names
  | resolve _ resolved sourced => exact sourced.resolve resolved

/-- A known type that is no parameter is written by the name of its identity. -/
theorem map_of_known {index : Nat} (concrete : (graph.atom index).kind ≠ .parameter)
    (known : registry.isKnown graph (.atom index)) :
    ∃ name, registry.name? (graph.atom index).identity = some name ∧
      registry.map graph (.atom index) = .ok name := by
  have contained := ((registry.isKnown_atom graph).mp known).resolve_left concrete
  obtain ⟨name, named⟩ := Option.isSome_iff_exists.mp contained
  refine ⟨name, named, ?_⟩
  rw [map_atom, nameOf, named, Option.getD_some]

/-- A construction without a name is composed of the texts of its base and of its argument. -/
theorem map_apply {identity name baseText argumentText : String} {base argument : TypeRef}
    (unnamed : registry.name? identity = none) (first : registry.map graph base = .ok baseText)
    (second : registry.map graph argument = .ok argumentText) :
    registry.map graph (.apply identity name base [argument]) =
      .ok (composeGeneric baseText argumentText) := by
  rw [map, unnamed, first, second]
  rfl

section

variable (sourced : Sourced graph registry)
variable (plain : ∀ index < graph.size, Plain (graph.atom index).name)

include sourced plain

/-- A type that is built from known types has a text, and its brackets are balanced. -/
theorem Built.exists_text {type : TypeRef} (built : Built registry graph type) :
    ∃ text, registry.map graph type = .ok text ∧ Balanced text.toList := by
  induction built with
  | atom concrete known =>
    obtain ⟨name, named, written⟩ := map_of_known concrete known
    exact ⟨name, written, .of_plain (sourced.plain_name plain named)⟩
  | apply own _ _ template applied =>
    obtain ⟨baseText, first, baseBalanced⟩ := template
    obtain ⟨argumentText, second, argumentBalanced⟩ := applied
    exact ⟨_, map_apply (sourced.name?_of_unclaimed own) first second,
      balanced_composeGeneric baseBalanced argumentBalanced⟩

/-- The text of a known type that stands for itself is no text of a construction. -/
theorem Built.map_atom_ne_apply {index : Nat} {identity name : String} {base argument : TypeRef}
    (first : Built registry graph (.atom index))
    (second : Built registry graph (.apply identity name base [argument])) :
    registry.map graph (.atom index) ≠
      registry.map graph (.apply identity name base [argument]) := by
  intro same
  cases first with
  | atom concrete known =>
    cases second with
    | apply own template applied =>
      obtain ⟨text, named, written⟩ := map_of_known concrete known
      obtain ⟨baseText, baseWritten, _⟩ := template.exists_text sourced plain
      obtain ⟨argumentText, argumentWritten, _⟩ := applied.exists_text sourced plain
      rw [written, map_apply (sourced.name?_of_unclaimed own) baseWritten argumentWritten] at same
      have composed := sourced.plain_name plain named
      rw [Except.ok.inj same] at composed
      exact not_plain_composeGeneric baseText argumentText composed

/-- Types that are built from known types and have one text are alike. -/
theorem Built.alike {left right : TypeRef} (first : Built registry graph left)
    (second : Built registry graph right)
    (same : registry.map graph left = registry.map graph right) : graph.Alike left right := by
  induction first generalizing right with
  | atom concrete known =>
    cases second with
    | atom otherConcrete otherKnown =>
      obtain ⟨text, named, written⟩ := map_of_known concrete known
      obtain ⟨otherText, otherNamed, otherWritten⟩ := map_of_known otherConcrete otherKnown
      rw [written, otherWritten] at same
      obtain rfl := Except.ok.inj same
      rcases sourced.name?_unique named otherNamed with identical | ⟨builtin, otherBuiltin⟩
      · exact .identical identical
      · exact .builtin builtin otherBuiltin
    | apply own template applied =>
      exact absurd same ((Built.atom concrete known).map_atom_ne_apply sourced plain
        (.apply own template applied))
  | apply own template applied bases arguments =>
    cases second with
    | atom otherConcrete otherKnown =>
      exact absurd same.symm ((Built.atom otherConcrete otherKnown).map_atom_ne_apply sourced plain
        (.apply own template applied))
    | apply otherOwn otherTemplate otherApplied =>
      obtain ⟨baseText, baseWritten, _⟩ := template.exists_text sourced plain
      obtain ⟨argumentText, argumentWritten, balanced⟩ := applied.exists_text sourced plain
      obtain ⟨otherBase, otherBaseWritten, _⟩ := otherTemplate.exists_text sourced plain
      obtain ⟨otherArgument, otherArgumentWritten, otherBalanced⟩ :=
        otherApplied.exists_text sourced plain
      rw [map_apply (sourced.name?_of_unclaimed own) baseWritten argumentWritten,
        map_apply (sourced.name?_of_unclaimed otherOwn) otherBaseWritten otherArgumentWritten]
        at same
      obtain ⟨rfl, rfl⟩ := composeGeneric_injective balanced otherBalanced (Except.ok.inj same)
      exact .apply (bases otherTemplate (baseWritten.trans otherBaseWritten.symm))
        (arguments otherApplied (argumentWritten.trans otherArgumentWritten.symm))

omit plain in
/-- Types that are alike have one text. -/
theorem map_eq_of_alike {left right : TypeRef} (alike : graph.Alike left right)
    (first : Built registry graph left) (second : Built registry graph right) :
    registry.map graph left = registry.map graph right := by
  induction alike with
  | identical same =>
    cases first with
    | atom concrete known =>
      cases second with
      | atom otherConcrete otherKnown =>
        obtain ⟨text, named, written⟩ := map_of_known concrete known
        obtain ⟨otherText, otherNamed, otherWritten⟩ := map_of_known otherConcrete otherKnown
        rw [same, otherNamed] at named
        rw [written, otherWritten, Option.some.inj named]
  | @builtin left right text inTable otherInTable =>
    simp only [map, name?, sourced.builtin?_eq, inTable, otherInTable, Option.some_or,
      Option.getD_some]
  | apply _ _ bases arguments =>
    cases first with
    | apply own template applied =>
      cases second with
      | apply otherOwn otherTemplate otherApplied =>
        rw [map, map, sourced.name?_of_unclaimed own, sourced.name?_of_unclaimed otherOwn,
          bases template otherTemplate, arguments applied otherApplied]

end

/-- In every registry that is obtained by reserving names and resolving types of a graph with
plain names, types that are built from known types have texts, and two of them have one text
exactly when they are alike. -/
theorem map_eq_iff_alike (obtained : Obtained graph registry)
    (plain : ∀ index < graph.size, Plain (graph.atom index).name) {left right : TypeRef}
    (first : Built registry graph left) (second : Built registry graph right) :
    ∃ leftText rightText, registry.map graph left = .ok leftText ∧
      registry.map graph right = .ok rightText ∧
      (leftText = rightText ↔ graph.Alike left right) := by
  have sourced := obtained.sourced
  obtain ⟨leftText, leftWritten, _⟩ := first.exists_text sourced plain
  obtain ⟨rightText, rightWritten, _⟩ := second.exists_text sourced plain
  refine ⟨leftText, rightText, leftWritten, rightWritten, fun same => ?_, fun alike => ?_⟩
  · exact first.alike sourced plain second (by rw [leftWritten, rightWritten, same])
  · have same := map_eq_of_alike sourced alike first second
    rw [leftWritten, rightWritten] at same
    exact Except.ok.inj same

/-- A graph with two types of one name and a third that has the name with a numeral as its own. -/
def itemPages : TypeGraph where
  atoms := #[.composite "Page" "shop.Page" ["T"] [⟨"item", .atom 1⟩], .parameter "T",
    .composite "Item" "shop.Item", .composite "Item" "sale.Item", .composite "Item2" "extra.Item2",
    .primitive listIdentity, .primitive "int", .primitive "long"]

/-- A page of items that is applied to a list, of one of the types, that is applied to a number. -/
def itemPage (item number : Nat) : TypeRef :=
  itemPages.generic (itemPages.generic (.atom 0) [.atom 2])
    [itemPages.generic (itemPages.generic (.atom 5) [.atom item]) [.atom number]]

/-- The name that a numeral makes for one item is not the text of the item that has it as its own,
whatever stands around it. -/
theorem map_eq_iff_alike_itemPages :
    ∃ closure,
      (typescript.reserve ["Page"]).resolve itemPages [.atom 0, .atom 2, .atom 3, .atom 4] =
        .ok closure ∧
      (∀ index < itemPages.size, Plain (itemPages.atom index).name) ∧
      Built closure.registry itemPages (itemPage 3 6) ∧
      Built closure.registry itemPages (itemPage 4 7) ∧
      ∃ leftText rightText, closure.registry.map itemPages (itemPage 3 6) = .ok leftText ∧
        closure.registry.map itemPages (itemPage 4 7) = .ok rightText ∧
        (leftText = rightText ↔ itemPages.Alike (itemPage 3 6) (itemPage 4 7)) := by
  obtain ⟨closure, resolved, known⟩ : ∃ closure,
      (typescript.reserve ["Page"]).resolve itemPages [.atom 0, .atom 2, .atom 3, .atom 4] =
        .ok closure ∧
      ∀ index ∈ [0, 2, 3, 4, 5, 6, 7], closure.registry.isKnown itemPages (.atom index) :=
    ⟨_, rfl, by decide⟩
  have plain : ∀ index < itemPages.size, Plain (itemPages.atom index).name := by decide
  have leaf : ∀ index ∈ [0, 2, 3, 4, 5, 6, 7], Built closure.registry itemPages (.atom index) := by
    intro index member
    have concrete : ∀ place ∈ [0, 2, 3, 4, 5, 6, 7], (itemPages.atom place).kind ≠ .parameter := by
      decide
    exact .atom (concrete index member) (known index member)
  have pageOfItem : Built closure.registry itemPages (itemPages.generic (.atom 0) [.atom 2]) :=
    .apply (by decide) (leaf 0 (by decide)) (leaf 2 (by decide))
  have first : Built closure.registry itemPages (itemPage 3 6) :=
    .apply (by decide) pageOfItem (.apply (by decide)
      (.apply (by decide) (leaf 5 (by decide)) (leaf 3 (by decide))) (leaf 6 (by decide)))
  have second : Built closure.registry itemPages (itemPage 4 7) :=
    .apply (by decide) pageOfItem (.apply (by decide)
      (.apply (by decide) (leaf 5 (by decide)) (leaf 4 (by decide))) (leaf 7 (by decide)))
  exact ⟨closure, resolved, plain, first, second,
    map_eq_iff_alike (.resolve (.reserve _ .typescript) resolved) plain first second⟩

end Registry

end ServiceStubs
