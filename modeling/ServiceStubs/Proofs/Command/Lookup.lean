import ServiceStubs.Proofs.Command.Failure

/-!
# Looking for a generator

A name of a generator goes through several stages: it stands for a path, the path is cut into a
module and a class, the module is imported, a generator class is looked for in it, and a generator
is made of the class with the options of the run. Where a name leads to no generator, the search is
meant to fail with the message that no generator has this name. It does so at every stage but for
four kinds of paths. A path with a class and no module, or with a module that is named relative to a
package, stops the import with an exception that is no failure to import; so may a module that is
executed; and of the class that is found no generator may be made, because it only states what
generators have in common or because its own code fails. These failures leave the search, and with
it the run. Of a module whose text holds what is not executed here nothing is known.
-/

namespace ServiceStubs

open Source (ClassRef Failure Fault Memory Module)

variable {creation : Creation} {workspace : Workspace} {name : String} {options : Options}
variable {known : Knowledge} {fault : Fault}

namespace GeneratorClass

/-- The module in the path of a name. -/
def moduleName (name : String) : String := (Text.cutAtFirst ':' (pathOf name)).1

/-- The class in the path of a name. -/
def className (name : String) : String := (Text.cutAtFirst ':' (pathOf name)).2

/-- The search for a class in a module, which is imported for it. -/
def findIn (workspace : Workspace) (name moduleName className : String) :
    Describing GeneratorClass := do
  let imported ← Describing.ofEvaluating (importFailure name)
    (Loading.importModule workspace moduleName)
  match inModule? imported.module className with
  | some found => return found
  | none => throw (notFound name)

/-- The class of any other path is searched in its module. -/
theorem find_of_class (named : className name ≠ "") :
    find workspace name = findIn workspace name (moduleName name) (className name) := by
  rw [find, moduleName]
  rw [className] at named ⊢
  generalize Text.cutAtFirst ':' (pathOf name) = parts at named ⊢
  obtain ⟨moduleName, className⟩ := parts
  exact if_neg named

/-- A search ends with what stops the import of its module. -/
theorem find_of_stopped {memory : Memory} (named : className name ≠ "")
    (stopped : Loading.importModule workspace (moduleName name) known.memory =
      .error fault memory) :
    find workspace name known = .error (importFailure name fault) { known with memory } := by
  have asked : Describing.ofEvaluating (importFailure name)
      (Loading.importModule workspace (moduleName name)) known =
      .error (importFailure name fault) { known with memory } := by
    rw [Describing.ofEvaluating, stopped]
  rw [find_of_class named]
  exact run_bind_eq_error.mpr (.inl asked)

/-- A search finds what the imported module has under the name of the class. -/
theorem find_of_imported {imported : Loading.Imported} {memory : Memory}
    (named : className name ≠ "")
    (done : Loading.importModule workspace (moduleName name) known.memory = .ok imported memory) :
    find workspace name known =
      match inModule? imported.module (className name) with
      | some found => .ok found { known with memory }
      | none => .error (notFound name) { known with memory } := by
  have asked : Describing.ofEvaluating (importFailure name)
      (Loading.importModule workspace (moduleName name)) known =
      .ok imported { known with memory } := by
    rw [Describing.ofEvaluating, done]
  rw [find_of_class named, findIn, run_bind_of_ok asked]
  cases inModule? imported.module (className name) <;> rfl

end GeneratorClass

open GeneratorClass (className moduleName)

namespace Loading

/-- No module has an empty name. -/
theorem importModule_empty (workspace : Workspace) (memory : Memory) :
    importModule workspace "" memory = .error (.wrongValue "Empty module name") memory := rfl

/-- The fault of a module that is named relative to a package, when there is none. -/
def relativeFault (name : String) : Fault :=
  .wrongType ("the 'package' argument is required to perform a relative import for " ++
    Text.quoted name)

/-- No module is named relative to a package. -/
theorem importModule_relative {name : String} (dotted : Text.opensWith "." name)
    (memory : Memory) :
    importModule workspace name memory = .error (relativeFault name) memory := by
  have given : name ≠ "" := by
    rintro rfl
    exact absurd dotted (by decide)
  rw [importModule, importWith, if_neg given, if_pos dotted]
  rfl

end Loading

namespace GeneratorClass

/-- The class that generators are made from. -/
def reference : GeneratorClass → ClassRef
  | contract => Loading.baseGenerator
  | typescript => Loading.typescriptGenerator
  | user owner => owner

end GeneratorClass

/-- What is not executed is no failure to import. -/
theorem Source.Fault.isImportFailure_of_unexecuted (unknown : fault.isException = false) :
    fault.isImportFailure = false := by
  cases fault with
  | unexecuted construct => rfl
  | _ => cases unknown

namespace Generator

/-- The failures that leave the search for a generator of a name, when something is known. -/
inductive Escapes (creation : Creation) (workspace : Workspace) (name : String)
    (options : Options) (known : Knowledge) : Failure → Prop
  /-- The path has a class and no module. -/
  | noModule (named : className name ≠ "") (absent : moduleName name = "") :
      Escapes creation workspace name options known (.host (.wrongValue "Empty module name"))
  /-- The module is named relative to a package. -/
  | relative (named : className name ≠ "") (dotted : Text.opensWith "." (moduleName name)) :
      Escapes creation workspace name options known
        (.host (Loading.relativeFault (moduleName name)))
  /-- A module on the way is executed, and stops with an exception that is no failure to
  import. -/
  | stopped {fault : Fault} {memory : Memory} (named : className name ≠ "")
      (given : moduleName name ≠ "") (absolute : Text.opensWith "." (moduleName name) = false)
      (broken : Loading.importModule workspace (moduleName name) known.memory =
        .error fault memory)
      (isException : fault.isException) (foreign : fault.isImportFailure = false) :
      Escapes creation workspace name options known (.host fault)
  /-- A module on the way holds what is not executed here. -/
  | unexecuted {fault : Fault} {memory : Memory} (named : className name ≠ "")
      (broken : Loading.importModule workspace (moduleName name) known.memory =
        .error fault memory)
      (unknown : fault.isException = false) :
      Escapes creation workspace name options known (.host fault)
  /-- No generator can be made of the class that is found. -/
  | refused {failure : Failure} {imported : Loading.Imported} {memory : Memory}
      {found : GeneratorClass} (named : className name ≠ "")
      (done : Loading.importModule workspace (moduleName name) known.memory = .ok imported memory)
      (there : GeneratorClass.inModule? imported.module (className name) = some found)
      (failed : found.create creation options = .error failure) :
      Escapes creation workspace name options known failure

/-- What leaves the search does so at its place in it. -/
theorem Escapes.find {failure : Failure}
    (escapes : Escapes creation workspace name options known failure) :
    ∃ later, Generator.find creation workspace name options known = .error failure later := by
  have told {imports : Fault} {memory : Memory} (named : className name ≠ "")
      (broken : Loading.importModule workspace (moduleName name) known.memory =
        .error imports memory) (foreign : imports.isImportFailure = false) :
      Generator.find creation workspace name options known =
        .error (.host imports) { known with memory } := by
    have first := GeneratorClass.find_of_stopped named broken
    rw [GeneratorClass.importFailure, foreign, if_neg Bool.false_ne_true] at first
    exact run_bind_eq_error.mpr (.inl first)
  cases escapes with
  | noModule named absent =>
    have broken := Loading.importModule_empty workspace known.memory
    exact ⟨_, told named (absent ▸ broken) rfl⟩
  | relative named dotted => exact ⟨_, told named (Loading.importModule_relative dotted _) rfl⟩
  | stopped named _ _ broken _ foreign => exact ⟨_, told named broken foreign⟩
  | unexecuted named broken unknown =>
    exact ⟨_, told named broken (Fault.isImportFailure_of_unexecuted unknown)⟩
  | refused named done there failed =>
    have first := GeneratorClass.find_of_imported named done
    rw [there] at first
    rw [Generator.find, run_bind_of_ok first, failed]
    exact ⟨_, rfl⟩

/-- How a generator of a name is found: the module of its path is imported, it has a generator class
under the name in the path, and the generator is made of that class with the options. -/
structure Found (creation : Creation) (workspace : Workspace) (name : String) (options : Options)
    (known : Knowledge) (generator : Generator) : Prop where
  /-- The generator is an instance of a generator class of the module. -/
  made : ∃ (imported : Loading.Imported) (memory : Memory) (found : GeneratorClass),
    Loading.importModule workspace (moduleName name) known.memory = .ok imported memory ∧
    imported.module.attribute? (className name) = some (.classValue (.user found.reference)) ∧
    (found = .contract ∨ found = .typescript ∨
      imported.module.derivesFrom (.user found.reference) (.user Loading.baseGenerator)) ∧
    found.create creation options = .ok generator
  /-- It has the options that were asked for. -/
  options : generator.options = options

end Generator

namespace Command

variable {request : Request} {words : List String} {ready : Workspace} {session : Session}

end Command

end ServiceStubs
