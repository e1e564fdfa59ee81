import RetentionPlan.Unicode.Lowercase
import RetentionPlan.Unicode.Decimal
import RetentionPlan.Unicode.Compatibility
import RetentionPlan.Unicode.Identifier
import RetentionPlan.Source.ModuleName
import RetentionPlan.Scan.Exclusion
import RetentionPlan.Distinct
import RetentionPlan.Loading.Ancestry
import RetentionPlan.Types.Graph
import RetentionPlan.Rules
import RetentionPlan.Reachability
import RetentionPlan.Providers
import RetentionPlan.Markers
import RetentionPlan.Number.Shortest
import RetentionPlan.FieldStream.Reader
import RetentionPlan.Json.Reader
import RetentionPlan.Json.Render
import RetentionPlan.FileTree.Workspace
import RetentionPlan.Scan.Universe
import RetentionPlan.Source.Lexer
import RetentionPlan.Source.Classpath
import RetentionPlan.Registration.Dump
import RetentionPlan.Plan.Analysis
import RetentionPlan.Text.Template
import RetentionPlan.Main
import RetentionPlan.Proofs.Loading.Correspondence
import RetentionPlan.Proofs.Plan.Correspondence
import RetentionPlan.Proofs.Plan.Holdings
import RetentionPlan.Proofs.Plan.Accounting
import RetentionPlan.Proofs.Loading.Spelling
import RetentionPlan.Proofs.Plan.Exactness
import RetentionPlan.Proofs.FileTree.Refusals
import RetentionPlan.Proofs.Loading.Trace
import RetentionPlan.Proofs.Plan.Aliases
import RetentionPlan.Proofs.Plan.BrokenEntries
import RetentionPlan.Proofs.Source.Sessions
import RetentionPlan.Proofs.Source.Search
import RetentionPlan.Proofs.Scan.Coverage
import RetentionPlan.Proofs.Plan.Growth
import RetentionPlan.Proofs.Plan.Lifecycle
import RetentionPlan.Proofs.Plan.Independence
import RetentionPlan.Proofs.Loading.Closure
import RetentionPlan.Proofs.FieldStream.Fields
import RetentionPlan.Proofs.FieldStream.Sets
import RetentionPlan.Proofs.FieldStream.Decoding
import RetentionPlan.Proofs.FieldStream.Histories
import RetentionPlan.Proofs.Source.DefiningNames
import RetentionPlan.Proofs.Manifest
import RetentionPlan.Proofs.Scan.Enumeration
import RetentionPlan.Proofs.Loading.Ancestors
import RetentionPlan.Proofs.Registration.Members
import RetentionPlan.Proofs.Source.Qualification
import RetentionPlan.Proofs.Source.Described
import RetentionPlan.Proofs.Source.Members
import RetentionPlan.Proofs.Registration.Constructors
import RetentionPlan.Proofs.Source.NestedTypes
import RetentionPlan.Proofs.Plan.SourceLoaders
import RetentionPlan.Proofs.Rules
import RetentionPlan.Proofs.Providers
import RetentionPlan.Proofs.Config
import RetentionPlan.Proofs.Source.Redeclarations
import RetentionPlan.Proofs.Config
import RetentionPlan.Proofs.Source.Redeclarations
