import ServiceStubs.Proofs.Stub.Words
import ServiceStubs.Proofs.Text.Announcements
import ServiceStubs.Proofs.Writing.Depth
import ServiceStubs.Proofs.Writing.Lines

/-!
# Announcements of a stub

Where all names are words, the text of a stub tells what it declares and what it exports. A member
of an interface or of an enumeration may be named like a word that announces something, and its line
may begin at the first column, but no such name is followed by a space. The constants of a service
begin with a word of their own. So the declarations are found by the words that their lines begin
with, and the exports are those of the last line.
-/

namespace ServiceStubs.Stub

open Writing
open Document (Argument Field MethodSignature EventSignature Interface Enum)

/-! ## Lines -/

/-- Lines that can be read back, declare some names and export nothing. -/
structure Declaring (names : List String) (lines : List (List Char)) : Prop where
  unbroken : ∀ line ∈ lines, '\n' ∉ line ∧ '\r' ∉ line
  declared : lines.filterMap Text.declaredIn? = names.map String.toList
  unexported : ∀ line ∈ lines, ¬ Text.Exports line

namespace Declaring

variable {names others : List String} {lines more : List (List Char)}

/-- Lines that announce nothing declare nothing. -/
theorem of_silent (unbroken : ∀ line ∈ lines, '\n' ∉ line ∧ '\r' ∉ line)
    (silent : ∀ line ∈ lines, Text.Silent line) : Declaring [] lines :=
  ⟨unbroken, List.filterMap_eq_nil_iff.mpr fun line member => (silent line member).undeclared,
    fun line member => (silent line member).unexported⟩

/-- Lines after other lines declare their names after those of the others. -/
theorem append (first : Declaring names lines) (second : Declaring others more) :
    Declaring (names ++ others) (lines ++ more) where
  unbroken := List.forall_mem_append.mpr ⟨first.unbroken, second.unbroken⟩
  declared := by rw [List.filterMap_append, first.declared, second.declared, List.map_append]
  unexported := List.forall_mem_append.mpr ⟨first.unexported, second.unexported⟩

end Declaring

/-! ## Members -/

/-- Whether a text can be the line of a member: it opens with a name that something else than a
space follows. -/
structure IsMember (content : String) : Prop where
  unbroken : Text.Unbroken content
  opens : ∃ word mark, Text.Opens content.toList word mark ∧ mark ≠ ' '

/-- The line of a member is not empty. -/
theorem IsMember.visible {content : String} (member : IsMember content) : content ≠ "" := by
  rintro rfl
  obtain ⟨_, _, opens, _⟩ := member.opens
  exact Text.not_opens_nil opens

/-- Arguments are unbroken when their names are words and their types are spelled. -/
theorem unbroken_argumentList {params : List Param} {arguments : List Argument}
    (shown : ShowsParams Spells params arguments)
    (words : ∀ param ∈ params, Text.IsWord param.name) :
    Text.Unbroken (Document.argumentList arguments) := by
  refine Text.unbroken_commaJoined fun text member => ?_
  obtain ⟨argument, inArguments, rfl⟩ := List.mem_map.mp member
  obtain ⟨param, inParams, same, spelled⟩ := exists_of_forall₂ shown.flip inArguments
  simp only [Argument.declaration, Text.unbroken_append]
  exact ⟨⟨same ▸ (words param inParams).unbroken, by decide⟩, spelled.unbroken⟩

/-- The line of a method is that of a member. -/
theorem ShowsOperation.isMember {options : Options} {operation : Operation}
    {member : MethodSignature} (shown : ShowsOperation Spells options operation member)
    (name : Text.IsWord operation.name)
    (params : ∀ param ∈ operation.params, Text.IsWord param.name)
    (promise : Text.IsWord options.promiseType) : IsMember member.member := by
  obtain ⟨text, spelled, written⟩ := shown.result
  rw [← shown.name] at name
  constructor
  case unbroken =>
    simp only [MethodSignature.member, written, Text.unbroken_append]
    exact ⟨⟨⟨⟨⟨name.unbroken, by decide⟩, unbroken_argumentList shown.params params⟩, by decide⟩,
      unbroken_composeGeneric promise.unbroken spelled.unbroken⟩, by decide⟩
  case opens =>
    refine ⟨member.name.toList, '(', ⟨name.2, by decide, ?_⟩, by decide⟩
    simp [MethodSignature.member]

/-- The line of an event is that of a member. -/
theorem ShowsEvent.isMember {event : Event} {member : EventSignature}
    (shown : ShowsEvent Spells event member) (name : Text.IsWord event.name)
    (params : ∀ param ∈ event.params, Text.IsWord param.name) : IsMember member.member := by
  rw [← shown.name] at name
  constructor
  case unbroken =>
    simp only [EventSignature.member, Text.unbroken_append]
    exact ⟨⟨⟨name.unbroken, by decide⟩, unbroken_argumentList shown.params params⟩, by decide⟩
  case opens =>
    refine ⟨member.name.toList, '(', ⟨name.2, by decide, ?_⟩, by decide⟩
    simp [EventSignature.member]

/-- The line of a field is that of a member. -/
theorem isMember_field {field : Document.Field} (name : Text.IsWord field.name)
    (type : Text.Unbroken field.type) : IsMember field.member := by
  constructor
  case unbroken =>
    simp only [Field.member, Text.unbroken_append]
    exact ⟨⟨⟨name.unbroken, by decide⟩, type⟩, by decide⟩
  case opens =>
    refine ⟨field.name.toList, ':', ⟨name.2, by decide, ?_⟩, by decide⟩
    simp [Field.member]

/-- The line of a member of an enumeration is that of a member. -/
theorem isMember_told {told : String} (word : Text.IsWord told) : IsMember (told ++ ",") where
  unbroken := Text.unbroken_append.mpr ⟨word.unbroken, by decide⟩
  opens := ⟨told.toList, ',', ⟨word.2, by decide, [], by simp⟩, by decide⟩

/-- The line of a member announces nothing, however it is indented. -/
theorem IsMember.declaring {contents : List String}
    (members : ∀ content ∈ contents, IsMember content) (layout : Layout) (depth : Nat) :
    Declaring [] (contents.map fun content => layout.spaces depth ++ content.toList) := by
  unfold Layout.spaces
  generalize layout.indentWidth.toNat * depth = width
  refine .of_silent (List.forall_mem_map.mpr fun content member => ?_)
    (List.forall_mem_map.mpr fun content member => ?_)
  · have unbroken := (members content member).unbroken
    simp [List.mem_replicate, unbroken.1, unbroken.2]
  · obtain ⟨word, mark, opens, visible⟩ := (members content member).opens
    cases width with
    | zero => exact opens.silent fun blank => absurd blank visible
    | succ width =>
      have indented : Text.Opens (List.replicate (width + 1) ' ' ++ content.toList) [] ' ' :=
        ⟨by decide, by decide, _, rfl⟩
      exact indented.silent fun _ => by decide

/-! ## Constructs -/

/-- Whether an emission that begins a document, or goes on with it at a new line, writes lines that
declare some names and nothing else. -/
def Declares (layout : Layout) (names : List String) (emission : Emission) : Prop :=
  ∃ lines, emission.WritesLines layout 0 lines ∧ Declaring names lines

namespace Declares

variable {layout : Layout} {names others : List String} {first second : Emission}

/-- Nothing declares nothing. -/
theorem nothing : Declares layout [] .nothing :=
  ⟨[], .nothing, .of_silent (by simp) (by simp)⟩

/-- Emissions one after the other declare their names one after the other. -/
theorem append (writes : Declares layout names first) (next : Declares layout others second) :
    Declares layout (names ++ others) (first ++ second) := by
  obtain ⟨lines, here, declaring⟩ := writes
  obtain ⟨more, there, declaringMore⟩ := next
  exact ⟨lines ++ more, here.append there, declaring.append declaringMore⟩

/-- An empty line declares nothing. -/
theorem newLine : Declares layout [] (newLine layout) :=
  ⟨[[]], .newLine, .of_silent (by simp) (by simp [Text.silent_nil])⟩

/-- The line of a constant declares nothing. -/
theorem constant {statement : String} (unbroken : Text.Unbroken statement)
    (opened : "const ".toList <+: statement.toList) :
    Declares layout [] (line layout statement) := by
  obtain ⟨rest, opened⟩ := opened
  have visible : statement ≠ "" := by
    rintro rfl
    cases opened
  have opens : Text.Opens statement.toList "const".toList ' ' :=
    ⟨by decide, by decide, rest, opened.symm⟩
  refine ⟨[layout.spaces 0 ++ statement.toList], .line unbroken visible, ?_⟩
  rw [layout.spaces_zero, List.nil_append]
  exact .of_silent (List.forall_mem_singleton.mpr unbroken)
    (List.forall_mem_singleton.mpr (opens.silent fun _ => by decide))

/-- A header that opens with `interface` or `enum` and a block of members declare the name in the
header. -/
theorem membersBlock {keyword : String} (declaring : keyword = "interface" ∨ keyword = "enum")
    {name : String} (word : Text.IsWord name) {mark : Char} (marks : mark = ' ' ∨ mark = '<')
    {header : String} (unbroken : Text.Unbroken header) {rest : List Char}
    (opened : header.toList = keyword.toList ++ ' ' :: (name.toList ++ mark :: rest))
    {members : List String} (each : ∀ content ∈ members, IsMember content) :
    Declares layout [name] (Document.membersBlock layout header members) := by
  have visible : header ≠ "" := by
    rintro rfl
    rcases declaring with rfl | rfl <;> cases opened
  have body : (Document.lines layout members).WritesLines layout (0 + 1) _ :=
    .inOrder fun content member => ⟨(each content member).unbroken, (each content member).visible⟩
  refine ⟨_, .headed unbroken visible body, ?_⟩
  rw [layout.spaces_zero, List.nil_append, List.nil_append]
  have opening : (header ++ "\x7b").toList =
      keyword.toList ++ ' ' :: (name.toList ++ mark :: (rest ++ ['\x7b'])) := by
    simp [opened]
  obtain ⟨declared, unexported⟩ := Text.declares declaring word marks (rest ++ ['\x7b'])
  have first : Declaring [name] [(header ++ "\x7b").toList] := by
    refine ⟨List.forall_mem_singleton.mpr (Text.unbroken_append.mpr ⟨unbroken, by decide⟩), ?_,
      List.forall_mem_singleton.mpr (opening ▸ unexported)⟩
    rw [opening, List.filterMap_cons, declared]
    rfl
  have last : Declaring [] [['\x7d']] := by
    have opens : Text.Opens ['\x7d'] [] '\x7d' := ⟨by decide, by decide, [], rfl⟩
    exact .of_silent (by decide) (List.forall_mem_singleton.mpr (opens.silent (by decide)))
  exact (first.append (IsMember.declaring each layout (0 + 1))).append last

/-- An interface declares its name. -/
theorem interface {node : Interface} (name : Text.IsWord node.name)
    (parameters : ∀ parameter ∈ node.typeParameters, Text.IsWord parameter)
    (members : ∀ content ∈ node.members, IsMember content) :
    Declares layout [node.name] ((Document.Node.interface node).emission layout) := by
  rw [Document.Node.emission]
  by_cases plain : node.typeParameters = []
  · have unbroken : Text.Unbroken node.header := by
      simp only [Interface.header, plain, List.isEmpty_nil, if_true, Text.unbroken_append]
      exact ⟨⟨⟨by decide, name.unbroken⟩, by decide⟩, by decide⟩
    have opened : node.header.toList =
        "interface".toList ++ ' ' :: (node.name.toList ++ ' ' :: []) := by
      simp [Interface.header, plain]
    exact membersBlock (.inl rfl) name (.inl rfl) unbroken opened members
  · have listed : Text.Unbroken (Text.commaJoined node.typeParameters) :=
      Text.unbroken_commaJoined fun parameter member => (parameters parameter member).unbroken
    have unbroken : Text.Unbroken node.header := by
      simp only [Interface.header, List.isEmpty_iff, plain, if_false, Text.unbroken_append]
      exact ⟨⟨⟨by decide, name.unbroken⟩, ⟨by decide, listed⟩, by decide⟩, by decide⟩
    have opened : node.header.toList = "interface".toList ++ ' ' :: (node.name.toList ++
        '<' :: ((Text.commaJoined node.typeParameters).toList ++ ['>', ' '])) := by
      simp [Interface.header, plain]
    exact membersBlock (.inl rfl) name (.inr rfl) unbroken opened members

/-- An enumeration declares its name. -/
theorem enum {node : Enum} (name : Text.IsWord node.name)
    (members : ∀ member ∈ node.members, Text.IsWord member) :
    Declares layout [node.name] ((Document.Node.enum node).emission layout) := by
  have unbroken : Text.Unbroken node.header := by
    simp only [Enum.header, Text.unbroken_append]
    exact ⟨⟨by decide, name.unbroken⟩, by decide⟩
  have opened : node.header.toList =
      "enum".toList ++ ' ' :: (node.name.toList ++ ' ' :: []) := by
    simp [Enum.header]
  rw [Document.Node.emission]
  exact membersBlock (.inr rfl) name (.inl rfl) unbroken opened
    (List.forall_mem_map.mpr fun member listed => isMember_told (members member listed))

/-- Constructs with empty lines between them declare their names in order. -/
theorem contents {nodes : List Document.Node}
    (each : ∀ node ∈ nodes, Declares layout (declaredName? node).toList (node.emission layout)) :
    Declares layout (nodes.filterMap declaredName?) (Document.contentsEmission layout nodes) := by
  induction nodes with
  | nil => exact nothing
  | cons node rest ih =>
    have here := (each node List.mem_cons_self).append newLine
    have later := ih fun other member => each other (List.mem_cons_of_mem node member)
    rw [Document.contentsEmission]
    have whole := here.append later
    cases found : declaredName? node <;> simpa [found] using whole

/-- The declaration of an atom declares its name. -/
theorem atom {graph : TypeGraph} {index : Nat} {node : Document.Node}
    (shown : ShowsAtom Spells graph index node) (words : (graph.atom index).InWords) :
    Declares layout (declaredName? node).toList (node.emission layout) := by
  cases shown with
  | enumeration kind named =>
    exact enum (named.word index rfl) (List.forall_mem_map.mpr words.members)
  | interface kind named written =>
    refine interface (named.word index rfl) words.typeParameters ?_
    refine List.forall_mem_map.mpr fun field member => ?_
    obtain ⟨source, listed, same, spelled⟩ := exists_of_forall₂ written.flip member
    exact isMember_field (same ▸ words.fields source listed) spelled.unbroken

end Declares

/-! ## Stubs -/

variable {options : Options} {graph : TypeGraph} {service : Service} {stub : Stub}
variable {closure : Closure} {declarations : List Document.Node}
variable {methods : List MethodSignature} {events : List EventSignature}

/-- What is declared for a closure and a service where all names are words is spelled. -/
theorem ShowsContents.spells
    (shown : ShowsContents (fun type text => closure.registry.map graph type = .ok text) options
      graph service closure.types declarations methods events)
    (resolved :
      (startingRegistry service.name).resolve graph service.members.types = .ok closure)
    (words : InWords options graph service) :
    ShowsContents Spells options graph service closure.types declarations methods events := by
  refine shown.refine ?atoms ?fields ?members
  case atoms =>
    intro index member text mapped
    exact spells_of_map resolved words.atoms (reached_of_emitted resolved member).1 mapped
  case fields =>
    intro index member kind field inFields text mapped
    obtain ⟨reached, unknown⟩ := reached_of_emitted resolved member
    have composite := composite_of_emitted resolved member kind
    exact spells_of_map resolved words.atoms (reached.field composite unknown inFields) mapped
  case members =>
    intro type member text mapped
    exact spells_of_map resolved words.atoms (.seed member) mapped

/-- A name between quotes is unbroken when it is a word. -/
theorem unbroken_doubleQuoted {name : String} (word : Text.IsWord name) :
    Text.Unbroken (doubleQuoted name) := by
  simp only [doubleQuoted, Text.unbroken_append]
  exact ⟨⟨by decide, word.unbroken⟩, by decide⟩

/-- The list of the callable methods is unbroken. -/
theorem unbroken_methodsExpression {operations : List Operation}
    (words : ∀ operation ∈ operations, Text.IsWord operation.name) :
    Text.Unbroken (methodsExpression operations) := by
  simp only [methodsExpression, Text.unbroken_append]
  refine ⟨⟨by decide, Text.unbroken_commaJoined (List.forall_mem_map.mpr ?_)⟩, by decide⟩
  exact fun operation member => unbroken_doubleQuoted (words operation member)

/-- The table of argument names is unbroken. -/
theorem unbroken_argumentsExpression {operations : List Operation}
    (words : ∀ operation ∈ operations,
      Text.IsWord operation.name ∧ ∀ param ∈ operation.params, Text.IsWord param.name) :
    Text.Unbroken (argumentsExpression operations) := by
  simp only [argumentsExpression, Text.unbroken_append]
  refine ⟨⟨by decide, Text.unbroken_commaJoined (List.forall_mem_map.mpr ?_)⟩, by decide⟩
  intro operation member
  obtain ⟨name, params⟩ := words operation member
  simp only [argumentEntry, Text.unbroken_append]
  refine ⟨⟨⟨unbroken_doubleQuoted name, by decide⟩, ?_⟩, by decide⟩
  exact Text.unbroken_commaJoined (List.forall_mem_map.mpr fun param inParams =>
    unbroken_doubleQuoted (params param inParams))

/-- Of the constructs of a service beside its types, the interface declares its name and the two
constants declare nothing. -/
theorem declares_service {layout : Layout}
    (spelled : ShowsContents Spells options graph service closure.types declarations methods events)
    (words : InWords options graph service) :
    ∀ node ∈ serviceConstructs service methods events,
      Declares layout (declaredName? node).toList (node.emission layout) := by
  have names := isWord_ownNames words.own
  simp only [ownNames, List.forall_mem_cons] at names
  obtain ⟨name, methodsNamed, argumentsNamed, _⟩ := names
  have methodMembers : ∀ content ∈ methods.map MethodSignature.member, IsMember content := by
    refine List.forall_mem_map.mpr fun member listed => ?_
    obtain ⟨operation, inOperations, shown⟩ := exists_of_forall₂ spelled.operations.flip listed
    obtain ⟨word, params⟩ := words.operations operation inOperations
    exact shown.isMember word params words.promise
  have eventMembers : ∀ content ∈ events.map EventSignature.member, IsMember content := by
    refine List.forall_mem_map.mpr fun member listed => ?_
    obtain ⟨event, inEvents, shown⟩ := exists_of_forall₂ spelled.events.flip listed
    obtain ⟨word, params⟩ := words.events event inEvents
    exact shown.isMember word params
  have methodList := unbroken_methodsExpression fun operation member =>
    (words.operations operation member).1
  have argumentTable := unbroken_argumentsExpression words.operations
  rw [serviceConstructs, List.forall_mem_cons, List.forall_mem_cons, List.forall_mem_singleton]
  refine ⟨.interface name (by simp) ?members, ?methodsConstant, ?argumentsConstant⟩
  case members =>
    simp only [Interface.members, List.map_nil, List.append_nil]
    exact List.forall_mem_append.mpr ⟨methodMembers, eventMembers⟩
  case methodsConstant =>
    refine .constant ?_ (by simp [Document.TypedConstant.statement])
    simp only [Document.TypedConstant.statement, Text.unbroken_append]
    exact ⟨⟨⟨⟨⟨⟨by decide, methodsNamed.unbroken⟩, by decide⟩,
      ⟨⟨by decide, name.unbroken⟩, by decide⟩⟩, by decide⟩, methodList⟩, by decide⟩
  case argumentsConstant =>
    refine .constant ?_ (by simp [Document.Constant.statement])
    simp only [Document.Constant.statement, Text.unbroken_append]
    exact ⟨⟨⟨⟨by decide, argumentsNamed.unbroken⟩, by decide⟩, argumentTable⟩, by decide⟩

/-- What the lines of a text announce: the names that the text exports, and all of these but the
last two as names of types that it declares. -/
structure Announces (exported : List (List Char)) (text : List Char) : Prop where
  /-- The last line of the text exports the names, and no other line exports anything. -/
  last : ∃ before exportLine, Text.feedLines text = before ++ [exportLine] ∧
    Text.Exports exportLine ∧ Text.exportedIn exportLine = exported ∧
      ∀ line ∈ before, ¬ Text.Exports line
  /-- The declarations give, in order, the exported names without the last two. -/
  declared : (Text.feedLines text).filterMap Text.declaredIn? = exported.dropLast.dropLast

/-- The names of an export line are read back. -/
theorem exports_exportStatement {names : List String} (nonempty : names ≠ [])
    (words : ∀ name ∈ names, Text.IsWord name) :
    Text.Exports (Document.exportStatement names).toList ∧
      Text.exportedIn (Document.exportStatement names).toList = names.map String.toList := by
  have written : (Document.exportStatement names).toList = "export ".toList ++
      ("\x7b ".toList ++ (Text.commaJoined names).toList ++ " \x7d;".toList) := by
    simp [Document.exportStatement]
  rw [written]
  refine ⟨List.prefix_append _ _, ?_⟩
  exact Text.parts_commaJoined nonempty words (by decide) (by decide)

/-- The names of the declarations of some types are those of the types in order. -/
theorem declaredName?_declarations {registry : Registry} {types : List Nat}
    (shown : List.Forall₂
      (ShowsAtom (fun type text => registry.map graph type = .ok text) graph) types declarations) :
    declarations.filterMap declaredName? = types.map (registry.nameOf graph) := by
  induction shown with
  | nil => rfl
  | cons first _ ih =>
    rw [List.filterMap_cons, declaredName?_of_shows first, List.map_cons, ih]

/-- The file of a stub exports the names of the types and those of the service. -/
theorem document_eq
    (shown : ShowsContents (fun type text => closure.registry.map graph type = .ok text) options
      graph service closure.types declarations methods events) :
    document (declarations ++ serviceConstructs service methods events) =
      .file [] (declarations ++ serviceConstructs service methods events)
        (typeNames graph closure ++ ownNames service.name) := by
  have exported := congrArg (List.filterMap id) (exportedName?_declarations shown.types)
  rw [List.filterMap_map, List.filterMap_map, Function.id_comp] at exported
  rw [document, List.filterMap_append, exported]
  simp [typeNames, serviceConstructs, exportedName?, ownNames]

/-- An export line is unbroken. -/
theorem unbroken_exportStatement {names : List String} (words : ∀ name ∈ names, Text.IsWord name) :
    Text.Unbroken (Document.exportStatement names) := by
  simp only [Document.exportStatement, Text.unbroken_append]
  exact ⟨⟨by decide, Text.unbroken_commaJoined fun name member => (words name member).unbroken⟩,
    by decide⟩

/-- A file is written in the lines of its constructs and an export line. -/
theorem document_writesLines {layout : Layout} {constructs : List Document.Node}
    {exported : List String} (nonempty : exported ≠ [])
    (words : ∀ name ∈ exported, Text.IsWord name) {lines : List (List Char)}
    (written : (Document.contentsEmission layout constructs).WritesLines layout 0 lines) :
    (Document.emissionOfAll layout [.file [] constructs exported]).WritesLines layout 0
      (lines ++ [(Document.exportStatement exported).toList]) := by
  have unbroken := unbroken_exportStatement words
  have visible : Document.exportStatement exported ≠ "" := by
    intro empty
    simpa [Document.exportStatement] using congrArg String.toList empty
  have last : (Document.exportEmission layout exported).WritesLines layout 0
      [layout.spaces 0 ++ (Document.exportStatement exported).toList] := by
    rw [Document.exportEmission, if_neg (by simpa using nonempty)]
    exact .line unbroken visible
  rw [layout.spaces_zero, List.nil_append] at last
  have whole := ((Emission.WritesLines.nothing.append written).append last).append .nothing
  rw [List.append_nil, List.nil_append] at whole
  exact whole

/-- A file whose constructs declare the names that it exports but the last two announces its
exports and its declarations. -/
theorem document_announces {layout : Layout}
    (ended : layout.newline = "\n" ∨ layout.newline = "\r\n")
    {constructs : List Document.Node} {names exported : List String}
    (declares : Declares layout names (Document.contentsEmission layout constructs))
    (nonempty : exported ≠ []) (words : ∀ name ∈ exported, Text.IsWord name)
    (butTwo : exported.dropLast.dropLast = names) {text : String}
    (made : Document.render layout [.file [] constructs exported] = .ok text) :
    Announces (exported.map String.toList) text.toList := by
  obtain ⟨lines, written, declaring⟩ := declares
  obtain ⟨exports, read⟩ := exports_exportStatement nonempty words
  have exportUnbroken := unbroken_exportStatement words
  have readBack : Text.feedLines text.toList =
      lines ++ [(Document.exportStatement exported).toList] := by
    rw [(document_writesLines nonempty words written).text_eq made]
    refine Text.feedLines_flatMap ended (List.forall_mem_append.mpr ⟨declaring.unbroken, ?_⟩)
    exact List.forall_mem_singleton.mpr exportUnbroken
  constructor
  case last => exact ⟨lines, _, readBack, exports, read, declaring.unexported⟩
  case declared =>
    rw [readBack, List.filterMap_append, declaring.declared, List.filterMap_cons,
      exports.undeclared, List.filterMap_nil, List.append_nil, ← butTwo, List.map_dropLast,
      List.map_dropLast]

/-- Where all names are words and lines are ended by line feeds, with carriage returns or without,
the text of a stub announces its exports and its declarations, however it is indented. There is a
text when lines can be indented by one level. -/
theorem text_announces (generated : generate options graph service = .ok stub)
    (newline : options.newline = "\n" ∨ options.newline = "\r\n")
    (words : InWords options graph service) :
    ∃ closure,
      (startingRegistry service.name).resolve graph service.members.types = .ok closure ∧
      (∀ text, stub.text = .ok text →
        Announces ((typeNames graph closure ++ ownNames service.name).map String.toList)
          text.toList) ∧
      (options.layout.fits 1 → ∃ text, stub.text = .ok text) := by
  obtain ⟨closure, declarations, methods, events, built, shown⟩ := generate_ok generated
  have spelled := shown.spells built.resolved words
  have exportWords : ∀ name ∈ typeNames graph closure ++ ownNames service.name,
      Text.IsWord name := List.forall_mem_append.mpr
    ⟨isWord_typeNames built.resolved words.atoms, isWord_ownNames words.own⟩
  have constructs : ∀ node ∈ declarations ++ serviceConstructs service methods events,
      Declares options.layout (declaredName? node).toList (node.emission options.layout) := by
    refine List.forall_mem_append.mpr ⟨fun node member => ?_, declares_service spelled words⟩
    obtain ⟨index, listed, atom⟩ := exists_of_forall₂ spelled.types.flip member
    exact .atom atom (words.atoms index (reached_of_emitted built.resolved listed).1)
  have names : (declarations ++ serviceConstructs service methods events).filterMap declaredName? =
      typeNames graph closure ++ [service.name] := by
    rw [List.filterMap_append, declaredName?_declarations shown.types]
    rfl
  rw [built.text]
  refine ⟨closure, built.resolved, fun text made => ?_,
    fun one => Document.render_of_fits_one one _⟩
  rw [document_eq shown] at made
  refine document_announces newline (.contents constructs) (by simp [ownNames]) exportWords ?_ made
  rw [names]
  simp [ownNames, List.dropLast_append_of_ne_nil]

/-- Types named like the words that lines begin with which announce names. -/
def announcers : TypeGraph where
  atoms := #[
    .composite "interface" "m.interface" ["export"] [⟨"export", .atom 1⟩,
      ⟨"interface", .apply "list[enum]" "list" (.atom 3) [.atom 2]⟩],
    .parameter "export",
    .enumeration "enum" [.text "enum", .text "export"],
    .primitive listIdentity]

/-- A service whose members are named like these words as well. -/
def announcerService : Service :=
  { name := "export",
    methods := [{ name := "interface", params := [⟨"enum", .atom 2⟩],
                  returnType := .apply "interface[enum]" "interface" (.atom 0) [.atom 2] }],
    events := [{ name := "enum", params := [⟨"export", .atom 2⟩] }] }

/-- Lines that all begin at the first column. -/
def announcerOptions : Options := { indentWidth := -1, newline := "\n", promiseType := "enum" }

/-- The types that the service leads to. -/
theorem announcers_reached {type : TypeRef}
    (reached : (startingRegistry "export").Reaches announcers announcerService.members.types type) :
    type ∈ [.atom 0, .atom 1, .atom 2, .atom 3,
      .apply "list[enum]" "list" (.atom 3) [.atom 2],
      .apply "interface[enum]" "interface" (.atom 0) [.atom 2]] := by
  have seeds : announcerService.members.types =
      [.atom 2, .apply "interface[enum]" "interface" (.atom 0) [.atom 2], .atom 2] := rfl
  refine reached.mem_of_closed (by simp [seeds]) ?_
  simp [TypeGraph.successors, Closure.nextSeeds, announcers, TypeGraph.atom, Atom.composite,
    Atom.enumeration, Atom.parameter, Atom.primitive]

/-- All names are words. -/
theorem announcers_inWords : InWords announcerOptions announcers announcerService where
  own := by decide
  promise := by decide
  operations := by decide
  events := by decide
  atoms := by
    intro index reached
    have place : index = 0 ∨ index = 1 ∨ index = 2 ∨ index = 3 := by
      simpa using announcers_reached reached
    rcases place with rfl | rfl | rfl | rfl <;>
      exact ⟨by decide, by decide, by decide, by decide⟩

/-- Where members, types and the service are named like the words that announce something and all
lines begin at the first column, the text still announces its exports and its declarations. -/
theorem text_announces_announcers :
    ∃ stub, generate announcerOptions announcers announcerService = .ok stub ∧
      InWords announcerOptions announcers announcerService ∧
      ∃ closure, (startingRegistry announcerService.name).resolve announcers
          announcerService.members.types = .ok closure ∧
        ∃ text, stub.text = .ok text ∧
          Announces ((typeNames announcers closure ++ ownNames announcerService.name).map
            String.toList) text.toList := by
  refine ⟨_, rfl, announcers_inWords, ?_⟩
  obtain ⟨closure, resolved, announced, enough⟩ :=
    text_announces rfl (.inl rfl) announcers_inWords
  obtain ⟨text, made⟩ := enough (by decide)
  exact ⟨closure, resolved, text, made, announced text made⟩

end ServiceStubs.Stub
