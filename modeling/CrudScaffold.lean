import CrudScaffold.Assembly.Basic
import CrudScaffold.Assembly.Endpoints
import CrudScaffold.Assembly.Identity
import CrudScaffold.Assembly.Pipeline
import CrudScaffold.Assembly.Predicates
import CrudScaffold.Assembly.Storage
import CrudScaffold.Assembly.Transfer
import CrudScaffold.Code.Attribute.Layout
import CrudScaffold.Code.Expansion.Layout
import CrudScaffold.Code.Expr
import CrudScaffold.Code.Expr.Layout
import CrudScaffold.Code.Expr.Tokens
import CrudScaffold.Code.Grammar.Basic
import CrudScaffold.Code.Grammar.Expr
import CrudScaffold.Code.Grammar.Item
import CrudScaffold.Code.Grammar.Path
import CrudScaffold.Code.Grammar.Pattern
import CrudScaffold.Code.Grammar.Statement
import CrudScaffold.Code.Grammar.Type
import CrudScaffold.Code.Item
import CrudScaffold.Code.Item.Layout
import CrudScaffold.Code.Item.Tokens
import CrudScaffold.Code.Lexer
import CrudScaffold.Code.Pat.Layout
import CrudScaffold.Code.Phrase
import CrudScaffold.Code.Reading
import CrudScaffold.Code.Source
import CrudScaffold.Code.Token
import CrudScaffold.Code.Token.Nested
import CrudScaffold.Code.Tree
import CrudScaffold.Code.Tree.Element
import CrudScaffold.Code.Tree.Layout
import CrudScaffold.Code.Tree.Tokens
import CrudScaffold.Codec.Arity
import CrudScaffold.Codec.Composite
import CrudScaffold.Codec.Integer
import CrudScaffold.Codec.Segments
import CrudScaffold.CommandLine.Arguments
import CrudScaffold.CommandLine.Basic
import CrudScaffold.Config
import CrudScaffold.Decimal.Shortest
import CrudScaffold.Error
import CrudScaffold.FilePath
import CrudScaffold.FileTree
import CrudScaffold.Files
import CrudScaffold.Layout.Doc
import CrudScaffold.Layout.Lines
import CrudScaffold.Main
import CrudScaffold.Manifest.Basic
import CrudScaffold.Manifest.Decode
import CrudScaffold.Manifest.File
import CrudScaffold.Manifest.Validation
import CrudScaffold.Model.Basic
import CrudScaffold.Model.Catalog
import CrudScaffold.Model.Graph
import CrudScaffold.Model.Resolution
import CrudScaffold.Model.TypeIndex
import CrudScaffold.Name.Namespace
import CrudScaffold.Name.Naming
import CrudScaffold.Name.Qualified
import CrudScaffold.Rendering.Basic
import CrudScaffold.Rendering.Endpoints
import CrudScaffold.Rendering.Identity
import CrudScaffold.Rendering.Predicates
import CrudScaffold.Rendering.Source
import CrudScaffold.Rendering.Storage
import CrudScaffold.Rendering.Transfer
import CrudScaffold.Report.Basic
import CrudScaffold.Report.Document
import CrudScaffold.Report.Lookup
import CrudScaffold.Run.Basic
import CrudScaffold.Run.Emission
import CrudScaffold.Run.Log
import CrudScaffold.Run.Plan
import CrudScaffold.Run.Registry
import CrudScaffold.Settings
import CrudScaffold.Spec.Basic
import CrudScaffold.Spec.EntityGraph
import CrudScaffold.Spec.Kind
import CrudScaffold.Spec.Member
import CrudScaffold.Store.Basic
import CrudScaffold.Store.Directory
import CrudScaffold.Store.Memory
import CrudScaffold.Text.Blank
import CrudScaffold.Text.CharClass
import CrudScaffold.Text.Pieces
import CrudScaffold.Text.Quoted
import CrudScaffold.Text.Table.Alphabetic
import CrudScaffold.Text.Table.CaseMap
import CrudScaffold.Text.Table.Cased
import CrudScaffold.Text.Table.Identifier
import CrudScaffold.Text.Table.Printable
import CrudScaffold.Text.WordCase
import CrudScaffold.Toml.Node
import CrudScaffold.Toml.Quoted
import CrudScaffold.Toml.Reader
import CrudScaffold.Toml.Shape
import CrudScaffold.Toml.Sheet
import CrudScaffold.Toml.Value
import CrudScaffold.Proofs.Assembly.Embedding
import CrudScaffold.Proofs.Codec.Segments
import CrudScaffold.Proofs.Codec.Composite
import CrudScaffold.Proofs.Run.Emission
import CrudScaffold.Proofs.Run.Account
import CrudScaffold.Proofs.Run.Claims
import CrudScaffold.Proofs.Run.Reports
import CrudScaffold.Proofs.Run.Independence
import CrudScaffold.Proofs.Run.Repetition
import CrudScaffold.Proofs.Model.Catalog
import CrudScaffold.Proofs.Assembly.Graph
import CrudScaffold.Proofs.Run.Undisturbed
import CrudScaffold.Proofs.Run.Order
import CrudScaffold.Proofs.Model.Resolution
import CrudScaffold.Proofs.Spec.References
import CrudScaffold.Proofs.Assembly.Closure
import CrudScaffold.Proofs.Run.References
import CrudScaffold.Proofs.Assembly.Views
import CrudScaffold.Proofs.Assembly.FetchPlan
import CrudScaffold.Proofs.Assembly.Members
import CrudScaffold.Proofs.Assembly.Operations
import CrudScaffold.Proofs.Assembly.Routes
import CrudScaffold.Proofs.Assembly.Agreement
import CrudScaffold.Proofs.Run.Loop
import CrudScaffold.Proofs.Run.Passes
import CrudScaffold.Proofs.Run.Isolation
import CrudScaffold.Proofs.Text.Path
import CrudScaffold.Proofs.Name.Namespace
import CrudScaffold.Proofs.Name.Qualified
import CrudScaffold.Proofs.Model.Filing
import CrudScaffold.Proofs.Model.Variants
import CrudScaffold.Proofs.Model.WellFormed
import CrudScaffold.Proofs.Assembly.Calls
import CrudScaffold.Proofs.Run.Statuses
import CrudScaffold.Proofs.Text.FilePath
import CrudScaffold.Proofs.Store.FileTree
import CrudScaffold.Proofs.Store.Directory
import CrudScaffold.Proofs.Run.Files
import CrudScaffold.Proofs.Run.Concurrency
import CrudScaffold.Proofs.Assembly.Switches
import CrudScaffold.Proofs.Run.Suppression
import CrudScaffold.Proofs.Rendering.SoftDelete
import CrudScaffold.Proofs.Spec.Renaming
import CrudScaffold.Proofs.Rendering.Template
import CrudScaffold.Proofs.Rendering.Places.Transfer
import CrudScaffold.Proofs.Rendering.Places.Identity
import CrudScaffold.Proofs.Rendering.Places.Storage
import CrudScaffold.Proofs.Rendering.Places.Endpoints
import CrudScaffold.Proofs.Rendering.Places
import CrudScaffold.Proofs.Rendering.KnownTypes
import CrudScaffold.Proofs.Spec.FetchPaths
import CrudScaffold.Proofs.Model.Search
import CrudScaffold.Proofs.Model.Lookup
import CrudScaffold.Proofs.Manifest.Validation
import CrudScaffold.Proofs.Model.Acceptance
import CrudScaffold.Proofs.Model.FullPath
import CrudScaffold.Proofs.Name.Naming
import CrudScaffold.Proofs.Assembly.Lookups
import CrudScaffold.Proofs.Rendering.CompositeAdapter
import CrudScaffold.Proofs.Assembly.Columns
import CrudScaffold.Proofs.Text.Descent
import CrudScaffold.Proofs.Store.OutputRoot
import CrudScaffold.Proofs.Rendering.Optional
import CrudScaffold.Proofs.Model.Containers
import CrudScaffold.Proofs.Toml.Quoted
import CrudScaffold.Proofs.Toml.Line
import CrudScaffold.Proofs.Toml.Draft
import CrudScaffold.Proofs.Toml.Sheet
import CrudScaffold.Proofs.Report.Document
