import ServiceStubs.Proofs.Results
import ServiceStubs.Proofs.Writing.Newlines
import ServiceStubs.Stub

/-!
# Newlines of documents and stubs

The constructs of a document write all their text through the same few emissions, so a document
depends on its newline only where lines end, whatever line feeds and carriage returns stand in its
names. The constructs of a stub do not depend on the newline at all.
-/

namespace ServiceStubs

open Writing

namespace Document

variable {newline : String} {width : Int}

/-- Lines in order are ended by the newline. -/
theorem lines_withNewline (texts : List String) :
    lines ⟨width, newline⟩ texts = (lines ⟨width, "\n"⟩ texts).withNewline newline := by
  rw [lines, lines, Emission.withNewline_sequence, List.map_map]
  exact congrArg Emission.sequence (List.map_congr_left fun text _ => line_withNewline text)

/-- The lines of a construct with members are ended by the newline. -/
theorem membersBlock_withNewline (header : String) (members : List String) :
    membersBlock ⟨width, newline⟩ header members =
      (membersBlock ⟨width, "\n"⟩ header members).withNewline newline := by
  rw [membersBlock, membersBlock, write_withNewline, lines_withNewline, block_withNewline,
    ← Emission.withNewline_append]

/-- The line of exported names is ended by the newline. -/
theorem exportEmission_withNewline (names : List String) :
    exportEmission ⟨width, newline⟩ names =
      (exportEmission ⟨width, "\n"⟩ names).withNewline newline := by
  unfold exportEmission
  split
  · rfl
  · exact line_withNewline _

/-- The lines of imports are ended by the newline. -/
theorem importsEmission_withNewline (imports : List Import) :
    importsEmission ⟨width, newline⟩ imports =
      (importsEmission ⟨width, "\n"⟩ imports).withNewline newline := by
  unfold importsEmission
  split
  · rfl
  · rw [lines_withNewline, newLine_withNewline, ← Emission.withNewline_append]

mutual

/-- The lines of a construct are ended by the newline. -/
theorem Node.emission_withNewline (node : Node) :
    node.emission ⟨width, newline⟩ = (node.emission ⟨width, "\n"⟩).withNewline newline := by
  cases node with
  | interface node => exact membersBlock_withNewline _ _
  | enum node => exact membersBlock_withNewline _ _
  | «export» names => exact exportEmission_withNewline names
  | file imports contents exports =>
    rw [Node.emission, Node.emission, importsEmission_withNewline,
      contentsEmission_withNewline contents, exportEmission_withNewline,
      ← Emission.withNewline_append, ← Emission.withNewline_append]
  | _ => exact line_withNewline _

/-- The lines of constructs in a file are ended by the newline. -/
theorem contentsEmission_withNewline (nodes : List Node) :
    contentsEmission ⟨width, newline⟩ nodes =
      (contentsEmission ⟨width, "\n"⟩ nodes).withNewline newline := by
  cases nodes with
  | nil => rfl
  | cons node rest =>
    rw [contentsEmission, contentsEmission, Node.emission_withNewline node, newLine_withNewline,
      contentsEmission_withNewline rest, ← Emission.withNewline_append,
      ← Emission.withNewline_append]

end

/-- Constructs in order are ended by the newline. -/
theorem emissionOfAll_withNewline (nodes : List Node) :
    emissionOfAll ⟨width, newline⟩ nodes =
      (emissionOfAll ⟨width, "\n"⟩ nodes).withNewline newline := by
  rw [emissionOfAll, emissionOfAll, Emission.withNewline_sequence, List.map_map]
  exact congrArg Emission.sequence (List.map_congr_left fun node _ => node.emission_withNewline)

end Document

/-- The text of an emission with some newline is the text with line feeds, replaced. -/
theorem Writing.Emission.text_withNewline (newline : String) (emission : Emission) :
    (emission.withNewline newline).text =
      emission.text.map fun text => String.ofList (Text.withNewline newline text.toList) := by
  unfold Emission.text Emission.withNewline
  dsimp only
  split_ifs
  · rfl
  · rw [Except.map, String.toList_ofList]

/-- The text of a document with some newline is the text with line feeds, replaced. -/
theorem Document.render_withNewline (width : Int) (nodes : List Node) (newline : String) :
    render ⟨width, newline⟩ nodes = (render ⟨width, "\n"⟩ nodes).map fun text =>
      String.ofList (Text.withNewline newline text.toList) := by
  rw [render, render, emissionOfAll_withNewline, Emission.text_withNewline]

/-- How a text depends on the newline it is made with: only where lines end. -/
structure Text.NewlineAlone (made : String → List Char) : Prop where
  /-- The text with a newline is the text with line feeds, each of which is replaced. -/
  replaced : ∀ newline, made newline = withNewline newline (made "\n")
  /-- With a carriage return and a line feed, every line feed has its carriage return before it. -/
  returned : ∀ before after, made "\r\n" = before ++ '\n' :: after →
    ∃ start, before = start ++ ['\r']
  /-- No line feed comes from elsewhere. -/
  feedless : ∀ newline : String, '\n' ∉ newline.toList → '\n' ∉ made newline

/-- A text whose line feeds are replaced depends on the newline where lines end. -/
theorem Text.NewlineAlone.of_replaced {made : String → List Char}
    (replaced : ∀ newline, made newline = withNewline newline (made "\n")) : NewlineAlone made where
  replaced := replaced
  returned _ _ split := return_before_feed ((replaced "\r\n").symm.trans split)
  feedless newline absent := replaced newline ▸ not_mem_withNewline absent _

/-- How a text that may have a fault instead depends on the newline it is made with: every newline
gives this fault, or every newline gives a text and only the ends of lines differ. -/
inductive Text.NewlineAtMost (made : String → Except Source.Fault String) : Prop
  | fault (fault : Source.Fault) (same : ∀ newline, made newline = .error fault)
  | text (texts : String → List Char) (alone : NewlineAlone texts)
      (same : ∀ newline, made newline = .ok (String.ofList (texts newline)))

/-- The text of a document depends on the newline where lines end. -/
theorem Document.newlineAtMost (width : Int) (nodes : List Node) :
    Text.NewlineAtMost fun newline => render ⟨width, newline⟩ nodes := by
  have replaced := render_withNewline width nodes
  cases made : render ⟨width, "\n"⟩ nodes with
  | error fault => exact .fault fault fun newline => by rw [replaced, made]; rfl
  | ok text =>
    have alone : Text.NewlineAlone fun newline => Text.withNewline newline text.toList :=
      .of_replaced fun newline => by rw [Text.withNewline_lineFeed]
    exact .text _ alone fun newline => by rw [replaced, made]; rfl

namespace Stub

/-- Whether a service has a stub does not depend on the newline, nor does what a stub tells beside
its text. -/
theorem generate_newline (options : Options) (graph : TypeGraph) (service : Service) :
    (∃ error, ∀ newline, generate { options with newline } graph service = .error error) ∨
    ∃ (stub : Stub) (constructs : List Document.Node),
      ∀ newline, generate { options with newline } graph service =
        .ok { stub with text := Document.render ⟨options.indentWidth, newline⟩ constructs } := by
  cases resolved : (startingRegistry service.name).resolve graph service.members.types with
  | error error =>
    refine .inl ⟨error, fun newline => ?_⟩
    rw [generate, resolved]
    rfl
  | ok closure =>
    cases built : contents options graph service closure with
    | error error =>
      refine .inl ⟨error, fun newline => ?_⟩
      have same : contents { options with newline } graph service closure = .error error := built
      rw [generate, resolved]
      simp only [bind, Except.bind, same]
    | ok constructs =>
      let stub : Stub :=
        { fileName := options.fileName service.name
          text := Document.render options.layout [document constructs]
          methodCount := service.members.operations.length
          eventCount := service.members.events.length
          typeCount := closure.types.length
          registeredNames := closure.registry.entryNames }
      refine .inr ⟨stub, [document constructs], fun newline => ?_⟩
      have same : contents { options with newline } graph service closure = .ok constructs := built
      rw [generate, resolved]
      simp only [bind, Except.bind, same]
      rfl

/-- What programs, documents and stubs write depends on the newline only where lines end: a program
completes the same steps and catches the same failures, and a service has a stub with every newline
or with none, and otherwise the same one. -/
theorem texts_withNewline :
    (∀ width steps,
      Text.NewlineAlone (fun newline => (runSteps ⟨width, newline⟩ steps {}).text) ∧
      ∀ newline, runSteps ⟨width, newline⟩ steps {} =
        (runSteps ⟨width, "\n"⟩ steps {}).withNewline newline) ∧
    (∀ width nodes, Text.NewlineAtMost fun newline => Document.render ⟨width, newline⟩ nodes) ∧
    ∀ (options : Options) graph service,
      (∃ error, ∀ newline, generate { options with newline } graph service = .error error) ∨
      ∃ (stub : Stub) (texts : String → Except Source.Fault String), Text.NewlineAtMost texts ∧
        ∀ newline, generate { options with newline } graph service =
          .ok { stub with text := texts newline } := by
  refine ⟨fun width steps => ⟨.of_replaced fun newline => ?_, fun newline => ?_⟩,
    Document.newlineAtMost, fun options graph service => ?_⟩
  · rw [runSteps_withNewline, Run.text_withNewline]
  · exact runSteps_withNewline steps {}
  · refine (generate_newline options graph service).imp_right ?_
    rintro ⟨stub, constructs, made⟩
    exact ⟨stub, _, Document.newlineAtMost options.indentWidth constructs, made⟩

end Stub

end ServiceStubs
