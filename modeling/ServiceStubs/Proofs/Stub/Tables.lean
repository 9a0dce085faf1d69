import ServiceStubs.Proofs.Text.Words
import ServiceStubs.Stub

/-!
# Tables that are read back

The two constants of a stub hold tables in the text of one expression each: the names of the
methods, and for each method the names of its arguments. Names stand between double quotes as they
are, so a reader takes every second piece between double quotes for a name, whatever stands in it,
as long as no name holds a double quote. Of the pieces between two names only the first character
matters: a colon begins the row of the name before it. In this way both tables are read back from
their texts, and equal texts are of equal tables.
-/

namespace ServiceStubs.Stub

/-! ## The reader -/

/-- What is read from a text: names, and then rows, each of a name and the names that follow it. -/
structure Table where
  names : List String := []
  rows : List (String × List String) := []
deriving DecidableEq, Repr, Inhabited

/-- A table with a name before all others. -/
def Table.addName (name : String) (table : Table) : Table :=
  { table with names := name :: table.names }

/-- A table with a row before all others. The names that stood before the rows belong to it, after
some names of its own. -/
def Table.addRow (name : String) (own : List String) (table : Table) : Table :=
  { rows := (name, own ++ table.names) :: table.rows }

/-- The table in pieces of which every second one is a name, the first one included. A name begins
a row when a colon follows it. -/
def tableOf : List (List Char) → Table
  | name :: after :: rest =>
    if after.head? = some ':' then (tableOf rest).addRow (String.ofList name) []
    else (tableOf rest).addName (String.ofList name)
  | _ => {}

/-- The table that is read from a text whose names stand between double quotes. -/
def readTable (text : List Char) : Table := tableOf (Text.breakAt '"' text).tail

/-- The names that are read from an expression before any row. -/
def readNames (expression : String) : List String := (readTable expression.toList).names

/-- The rows that are read from an expression. -/
def readRows (expression : String) : List (String × List String) :=
  (readTable expression.toList).rows

/-! ## Texts that are read -/

/-- What stands outside of double quotes is skipped. -/
theorem readTable_append {before : List Char} (outside : '"' ∉ before) (text : List Char) :
    readTable (before ++ text) = readTable text := by
  obtain ⟨first, others, broken⟩ := List.exists_cons_of_ne_nil (Text.breakAt_ne_nil '"' text)
  rw [readTable, Text.breakAt_append_of_not_mem outside broken, readTable, broken]
  rfl

/-- A text and its first piece begin with the same character, if it is no separator. -/
theorem head?_of_breakAt {separator character : Char} (other : character ≠ separator)
    {text first : List Char} {others : List (List Char)}
    (broken : Text.breakAt separator text = first :: others) :
    first.head? = some character ↔ text.head? = some character := by
  cases text with
  | nil =>
    obtain ⟨rfl, rfl⟩ := List.cons.inj broken
    rfl
  | cons next rest =>
    obtain ⟨piece, pieces, following⟩ :=
      List.exists_cons_of_ne_nil (Text.breakAt_ne_nil separator rest)
    rw [Text.breakAt, following] at broken
    by_cases separates : next = separator
    · rw [if_pos separates] at broken
      obtain ⟨rfl, rfl⟩ := List.cons.inj broken
      simp [separates, Ne.symm other]
    · rw [if_neg separates] at broken
      obtain ⟨rfl, rfl⟩ := List.cons.inj broken
      rfl

/-- A name between double quotes begins a row when a colon follows it, and otherwise is one more
name. -/
theorem readTable_doubleQuoted {name : String} (quoteless : '"' ∉ name.toList) (text : List Char) :
    readTable ((doubleQuoted name).toList ++ text) =
      if text.head? = some ':' then (readTable text).addRow name []
      else (readTable text).addName name := by
  obtain ⟨after, rest, broken⟩ := List.exists_cons_of_ne_nil (Text.breakAt_ne_nil '"' text)
  have whole : (doubleQuoted name).toList ++ text = [] ++ '"' :: (name.toList ++ '"' :: text) := by
    simp [doubleQuoted]
  have pieces : (Text.breakAt '"' ((doubleQuoted name).toList ++ text)).tail =
      name.toList :: after :: rest := by
    rw [whole, Text.breakAt_append List.not_mem_nil, Text.breakAt_append quoteless, broken]
    rfl
  have colon : after.head? = some ':' ↔ text.head? = some ':' :=
    head?_of_breakAt (by decide) broken
  rw [readTable, pieces, tableOf, readTable, broken]
  simp only [colon, String.ofList_toList, List.tail_cons]

/-- A list is read item by item from its end, when each item is read before a comma and before what
follows the list. -/
theorem readTable_commaJoined {α : Type} (add : α → Table → Table) {items : List α}
    {written : α → String} {after : List Char}
    (each : ∀ item ∈ items, ∀ text, text.head? = some ',' ∨ text = after →
      readTable ((written item).toList ++ text) = add item (readTable text)) :
    readTable ((Text.commaJoined (items.map written)).toList ++ after) =
      items.foldr add (readTable after) := by
  induction items with
  | nil => rfl
  | cons item rest ih =>
    have here := each item List.mem_cons_self
    have later := ih fun other member => each other (List.mem_cons_of_mem item member)
    cases rest with
    | nil => exact here after (.inr rfl)
    | cons other rest =>
      have split : (Text.commaJoined ((item :: other :: rest).map written)).toList ++ after =
          (written item).toList ++ (", ".toList ++
            ((Text.commaJoined ((other :: rest).map written)).toList ++ after)) := by
        change (written item ++ ", " ++ Text.commaJoined ((other :: rest).map written)).toList ++
          after = _
        simp only [String.toList_append, List.append_assoc]
      rw [split, here _ (.inl rfl), readTable_append (by decide), later]
      rfl

/-! ## The tables of a stub -/

/-- The name of an operation with those of its parameters. -/
def row (operation : Operation) : String × List String :=
  (operation.name, operation.params.map Param.name)

/-- Whether no name of an operation and its parameters holds a double quote. -/
structure Quoteless (operation : Operation) : Prop where
  name : '"' ∉ operation.name.toList
  params : ∀ param ∈ operation.params, '"' ∉ param.name.toList

instance (operation : Operation) : Decidable (Quoteless operation) :=
  decidable_of_iff
    ('"' ∉ operation.name.toList ∧ ∀ param ∈ operation.params, '"' ∉ param.name.toList)
    ⟨fun both => ⟨both.1, both.2⟩, fun quoteless => ⟨quoteless.name, quoteless.params⟩⟩

/-- Names in square brackets are read in order. -/
theorem readTable_bracketed {α : Type} {items : List α} {nameOf : α → String}
    (quoteless : ∀ item ∈ items, '"' ∉ (nameOf item).toList) (text : List Char) :
    readTable ("[".toList ++ ((Text.commaJoined (items.map fun item =>
      doubleQuoted (nameOf item))).toList ++ ("]".toList ++ text))) =
      { readTable text with names := items.map nameOf ++ (readTable text).names } := by
  rw [readTable_append (by decide), readTable_commaJoined fun item => Table.addName (nameOf item),
    readTable_append (by decide)]
  · induction items with
    | nil => rfl
    | cons item rest ih =>
      have others := ih fun other member => quoteless other (List.mem_cons_of_mem item member)
      rw [List.foldr_cons, others]
      rfl
  · intro item member after follows
    have noColon : after.head? ≠ some ':' := by
      rcases follows with comma | rfl
      · simp [comma]
      · simp
    rw [readTable_doubleQuoted (quoteless item member), if_neg noColon]

/-- The entry of a method is read as its row. -/
theorem readTable_argumentEntry {operation : Operation} (quoteless : Quoteless operation)
    (text : List Char) :
    readTable ((argumentEntry operation).toList ++ text) =
      (readTable text).addRow operation.name (operation.params.map Param.name) := by
  have split : (argumentEntry operation).toList ++ text =
      (doubleQuoted operation.name).toList ++ (": ".toList ++ ("[".toList ++
        ((Text.commaJoined (operation.params.map fun param => doubleQuoted param.name)).toList ++
          ("]".toList ++ text)))) := by
    simp [argumentEntry]
  rw [split, readTable_doubleQuoted quoteless.name, readTable_append (by decide),
    readTable_bracketed quoteless.params]
  exact if_pos rfl

/-- The names of the methods are read back from the list of callable methods. -/
theorem readNames_methodsExpression {operations : List Operation}
    (quoteless : ∀ operation ∈ operations, Quoteless operation) :
    readNames (methodsExpression operations) = operations.map Operation.name := by
  have read := readTable_bracketed (fun operation member => (quoteless operation member).name) []
  rw [readNames, methodsExpression, String.toList_append, String.toList_append, List.append_assoc]
  rw [List.append_nil] at read
  rw [read]
  exact List.append_nil _

/-- The rows of the methods are read back from the table of argument names. -/
theorem readRows_argumentsExpression {operations : List Operation}
    (quoteless : ∀ operation ∈ operations, Quoteless operation) :
    readRows (argumentsExpression operations) = operations.map row := by
  have read : readTable ((Text.commaJoined (operations.map argumentEntry)).toList ++
      "\x7d".toList) = { rows := operations.map row } := by
    rw [readTable_commaJoined
      (fun operation => Table.addRow operation.name (operation.params.map Param.name))
      fun operation member text _ => readTable_argumentEntry (quoteless operation member) text]
    clear quoteless
    induction operations with
    | nil => rfl
    | cons operation rest ih =>
      rw [List.foldr_cons, ih, Table.addRow, List.append_nil]
      rfl
  rw [readRows, argumentsExpression, String.toList_append, String.toList_append, List.append_assoc,
    readTable_append (by decide), read]

/-- As long as no name holds a double quote, the table of argument names and the list of callable
methods are read back from their texts, whatever else the names hold. So methods whose tables are
the same text have the same names and parameters in order, and methods whose lists are the same text
have the same names. -/
theorem expressions_read {operations others : List Operation}
    (quoteless : ∀ operation ∈ operations, Quoteless operation)
    (othersQuoteless : ∀ operation ∈ others, Quoteless operation) :
    readRows (argumentsExpression operations) = operations.map row ∧
    readNames (methodsExpression operations) = operations.map Operation.name ∧
    (argumentsExpression operations = argumentsExpression others →
      operations.map row = others.map row) ∧
    (methodsExpression operations = methodsExpression others →
      operations.map Operation.name = others.map Operation.name) := by
  have rows := readRows_argumentsExpression quoteless
  have names := readNames_methodsExpression quoteless
  refine ⟨rows, names, fun same => ?_, fun same => ?_⟩
  · rw [← rows, same, readRows_argumentsExpression othersQuoteless]
  · rw [← names, same, readNames_methodsExpression othersQuoteless]

/-- Methods in whose names the marks of the tables stand. -/
def markedMethods : List Operation :=
  [⟨"]: [", [⟨", ", .atom 0⟩, ⟨"", .atom 0⟩], .atom 0⟩, ⟨"", [], .atom 0⟩]

/-- The same methods with the empty parameter at the other one. -/
def movedParameter : List Operation :=
  [⟨"]: [", [⟨", ", .atom 0⟩], .atom 0⟩, ⟨"", [⟨"", .atom 0⟩], .atom 0⟩]

/-- Marks and empty names are read back, and where a parameter has moved the tables differ while the
lists of methods are the same. -/
theorem expressions_read_markedMethods :
    (∀ operation ∈ markedMethods, Quoteless operation) ∧
    (∀ operation ∈ movedParameter, Quoteless operation) ∧
    argumentsExpression markedMethods = "\x7b\"]: [\": [\", \", \"\"], \"\": []\x7d" ∧
    readRows (argumentsExpression markedMethods) = [("]: [", [", ", ""]), ("", [])] ∧
    readNames (methodsExpression markedMethods) = ["]: [", ""] ∧
    argumentsExpression markedMethods ≠ argumentsExpression movedParameter ∧
    methodsExpression markedMethods = methodsExpression movedParameter := by
  have quoteless : ∀ operation ∈ markedMethods, Quoteless operation := by decide
  have movedQuoteless : ∀ operation ∈ movedParameter, Quoteless operation := by decide
  obtain ⟨rows, names, apart, -⟩ := expressions_read quoteless movedQuoteless
  exact ⟨quoteless, movedQuoteless, rfl, rows, names, fun same => absurd (apart same) (by decide),
    rfl⟩

end ServiceStubs.Stub
