import ServiceStubs.Arity
import ServiceStubs.Closure
import ServiceStubs.Command.Arguments
import ServiceStubs.Command.Help
import ServiceStubs.Command.Run
import ServiceStubs.Datum
import ServiceStubs.Description.Catalog
import ServiceStubs.Description.Service
import ServiceStubs.Description.Types
import ServiceStubs.Document
import ServiceStubs.Error
import ServiceStubs.Files.Path
import ServiceStubs.Files.Workspace
import ServiceStubs.Generator
import ServiceStubs.Loading.Import
import ServiceStubs.Loading.Program
import ServiceStubs.Loading.Source
import ServiceStubs.Main
import ServiceStubs.Members
import ServiceStubs.Number.Complex
import ServiceStubs.Number.Dyadic
import ServiceStubs.Number.Floating
import ServiceStubs.Number.Layout
import ServiceStubs.Number.Notation
import ServiceStubs.Number.Shortest
import ServiceStubs.Options
import ServiceStubs.OrderedMap
import ServiceStubs.Proofs.Closure.Correspondence
import ServiceStubs.Proofs.Closure.Exactness
import ServiceStubs.Proofs.Closure.Failure
import ServiceStubs.Proofs.Closure.Frontier
import ServiceStubs.Proofs.Closure.Loop
import ServiceStubs.Proofs.Closure.Progress
import ServiceStubs.Proofs.Closure.Recursion
import ServiceStubs.Proofs.Closure.Rounds
import ServiceStubs.Proofs.Description.Drawing
import ServiceStubs.Proofs.Description.Growth
import ServiceStubs.Proofs.Description.History
import ServiceStubs.Proofs.Description.Requests
import ServiceStubs.Proofs.Description.Sketches
import ServiceStubs.Proofs.Description.Soundness
import ServiceStubs.Proofs.Description.Wholeness
import ServiceStubs.Proofs.OrderedMap
import ServiceStubs.Proofs.Outcomes
import ServiceStubs.Proofs.Registry.Entries
import ServiceStubs.Proofs.Registry.FreeName
import ServiceStubs.Proofs.Registry.Registration
import ServiceStubs.Proofs.Results
import ServiceStubs.Proofs.Stub.Construction
import ServiceStubs.Proofs.Stub.Correspondence
import ServiceStubs.Proofs.Stub.GivenNames
import ServiceStubs.Proofs.Stub.Names
import ServiceStubs.Proofs.Stub.Parameters
import ServiceStubs.Proofs.Stub.Readings
import ServiceStubs.Proofs.Stub.References
import ServiceStubs.Proofs.Stub.Renaming
import ServiceStubs.Proofs.Types.Correspondence
import ServiceStubs.Proofs.Types.Leaves
import ServiceStubs.Proofs.Types.Reachability
import ServiceStubs.Registry
import ServiceStubs.Source.Arguments
import ServiceStubs.Source.Arithmetic
import ServiceStubs.Source.Asking
import ServiceStubs.Source.Attributes
import ServiceStubs.Source.Bases
import ServiceStubs.Source.Body
import ServiceStubs.Source.Brackets
import ServiceStubs.Source.Builtin
import ServiceStubs.Source.Call
import ServiceStubs.Source.Comparison
import ServiceStubs.Source.Conversion
import ServiceStubs.Source.Creation
import ServiceStubs.Source.Declaration
import ServiceStubs.Source.Display
import ServiceStubs.Source.Enumeration
import ServiceStubs.Source.Equality
import ServiceStubs.Source.Escapes
import ServiceStubs.Source.Evaluation
import ServiceStubs.Source.Execution
import ServiceStubs.Source.Expression
import ServiceStubs.Source.Expression.Grammar
import ServiceStubs.Source.Fault
import ServiceStubs.Source.Hints
import ServiceStubs.Source.Indexing
import ServiceStubs.Source.Instances
import ServiceStubs.Source.Instantiation
import ServiceStubs.Source.Items
import ServiceStubs.Source.Kinship
import ServiceStubs.Source.Library
import ServiceStubs.Source.Library.Tools
import ServiceStubs.Source.Library.Values
import ServiceStubs.Source.MemberNames
import ServiceStubs.Source.Memory
import ServiceStubs.Source.Method
import ServiceStubs.Source.Method.Collection
import ServiceStubs.Source.Method.Number
import ServiceStubs.Source.Method.Operator
import ServiceStubs.Source.Method.Text
import ServiceStubs.Source.Module
import ServiceStubs.Source.Names
import ServiceStubs.Source.Operators
import ServiceStubs.Source.Parameters
import ServiceStubs.Source.Reader
import ServiceStubs.Source.Records
import ServiceStubs.Source.Refusal
import ServiceStubs.Source.ResolutionOrder
import ServiceStubs.Source.Scanning
import ServiceStubs.Source.Scope
import ServiceStubs.Source.Script
import ServiceStubs.Source.Signature
import ServiceStubs.Source.StandardAttributes
import ServiceStubs.Source.StandardClass
import ServiceStubs.Source.StandardModules
import ServiceStubs.Source.StandardNames
import ServiceStubs.Source.Statement
import ServiceStubs.Source.Statement.Grammar
import ServiceStubs.Source.Statement.Placement
import ServiceStubs.Source.Template
import ServiceStubs.Source.Token
import ServiceStubs.Source.Told
import ServiceStubs.Source.Traits
import ServiceStubs.Source.Typing
import ServiceStubs.Source.Value
import ServiceStubs.Stub
import ServiceStubs.Text.Case
import ServiceStubs.Text.CombiningClass
import ServiceStubs.Text.Composition
import ServiceStubs.Text.IntegerNumeral
import ServiceStubs.Text.Layout
import ServiceStubs.Text.Lines
import ServiceStubs.Text.NameCharacters
import ServiceStubs.Text.Normalization
import ServiceStubs.Text.Parts
import ServiceStubs.Text.Printable
import ServiceStubs.Text.Quoted
import ServiceStubs.Text.Replacement
import ServiceStubs.Types.Graph
import ServiceStubs.Types.Service
import ServiceStubs.Writing.Emission
import ServiceStubs.Writing.Program
import ServiceStubs.Proofs.Description.Following
import ServiceStubs.Proofs.Description.Entering
import ServiceStubs.Proofs.Description.Comparison
import ServiceStubs.Proofs.Command.Independence
import ServiceStubs.Proofs.Stub.Faithfulness
import ServiceStubs.Proofs.Command.Generation
import ServiceStubs.Proofs.Command.Failure
import ServiceStubs.Proofs.Command.Retention
import ServiceStubs.Proofs.Description.Recorded
import ServiceStubs.Proofs.Description.Recording
import ServiceStubs.Proofs.Stub.Support
import ServiceStubs.Proofs.Stub.Contributions
import ServiceStubs.Proofs.Registry.History
import ServiceStubs.Proofs.Description.Members
import ServiceStubs.Proofs.Description.Naming
import ServiceStubs.Proofs.Description.PlainAnnotations
import ServiceStubs.Proofs.Description.PrivateFunctions
import ServiceStubs.Proofs.Description.Mistakes
import ServiceStubs.Proofs.Description.Occasions
import ServiceStubs.Proofs.Stub.Applications
import ServiceStubs.Proofs.Writing.Depth
import ServiceStubs.Proofs.Stub.Rendering
import ServiceStubs.Proofs.Text.Lines
import ServiceStubs.Proofs.Writing.Newlines
import ServiceStubs.Proofs.Stub.Newlines
import ServiceStubs.Proofs.Text.Words
import ServiceStubs.Proofs.Text.Announcements
import ServiceStubs.Proofs.Writing.Lines
import ServiceStubs.Proofs.Stub.Words
import ServiceStubs.Proofs.Stub.Announcements
import ServiceStubs.Proofs.Description.Walks
import ServiceStubs.Proofs.Description.Lacking
import ServiceStubs.Proofs.Description.Termination
import ServiceStubs.Proofs.Closure.Order
import ServiceStubs.Proofs.Closure.Splitting
import ServiceStubs.Proofs.Text.Indentation
import ServiceStubs.Proofs.Writing.Indentation
import ServiceStubs.Proofs.Writing.Scopes
import ServiceStubs.Proofs.Writing.Nesting
import ServiceStubs.Proofs.Text.Braces
import ServiceStubs.Proofs.Writing.Parts
import ServiceStubs.Proofs.Writing.Composition
import ServiceStubs.Proofs.Stub.Tables
import ServiceStubs.Proofs.Writing.Braces
import ServiceStubs.Proofs.Registry.Flattening
import ServiceStubs.Proofs.Types.Identities
import ServiceStubs.Proofs.Command.Lookup
import ServiceStubs.Proofs.Registry.Candidates
