import RecordDesk.Arguments.Help
import RecordDesk.Arguments.Outcome
import RecordDesk.Arguments.Scan
import RecordDesk.Arguments.Usage
import RecordDesk.Calendar.Date
import RecordDesk.Calendar.Reading
import RecordDesk.Catalog.Basic
import RecordDesk.Catalog.Properties
import RecordDesk.Client.Basic
import RecordDesk.Client.Records
import RecordDesk.Client.Script
import RecordDesk.Client.Wire
import RecordDesk.Command.Basic
import RecordDesk.Command.Call
import RecordDesk.Config.Files
import RecordDesk.Config.Loaded
import RecordDesk.Config.Store
import RecordDesk.Decimal.Binary
import RecordDesk.Decimal.Fixed
import RecordDesk.Decimal.Read
import RecordDesk.Decimal.Shortest
import RecordDesk.Derive.Changes
import RecordDesk.Derive.Plan
import RecordDesk.Desk.Basic
import RecordDesk.Desk.Tasks
import RecordDesk.Dict
import RecordDesk.Document.FormField
import RecordDesk.Document.ListColumn
import RecordDesk.Document.PrimaryKey
import RecordDesk.Document.Reading
import RecordDesk.Document.Rules
import RecordDesk.Document.Table
import RecordDesk.Error
import RecordDesk.Form.Input
import RecordDesk.Form.Session
import RecordDesk.Form.Widget
import RecordDesk.Formula.Eval
import RecordDesk.Formula.Expr
import RecordDesk.Formula.Parse
import RecordDesk.Formula.Token
import RecordDesk.Graph
import RecordDesk.Host.Basic
import RecordDesk.Host.Disk
import RecordDesk.Host.Path
import RecordDesk.Json.Parse
import RecordDesk.Json.Print
import RecordDesk.Json.Written
import RecordDesk.Listing.Cell
import RecordDesk.Listing.View
import RecordDesk.Lookups
import RecordDesk.Main
import RecordDesk.Pattern.Named
import RecordDesk.Pattern.Node
import RecordDesk.Pattern.Parse
import RecordDesk.Program
import RecordDesk.Proofs.Config.Loaded
import RecordDesk.Proofs.Derive.Collect
import RecordDesk.Proofs.Derive.Current
import RecordDesk.Proofs.Derive.Order
import RecordDesk.Proofs.Derive.Pass
import RecordDesk.Proofs.Derive.Triggers
import RecordDesk.Proofs.Form.Current
import RecordDesk.Proofs.Formula.Fields
import RecordDesk.Proofs.Graph.Cycle
import RecordDesk.Proofs.Graph.Order
import RecordDesk.Proofs.Graph.Search
import RecordDesk.Proofs.Record.Key
import RecordDesk.Proofs.Record.Lookup
import RecordDesk.Proofs.Steps
import RecordDesk.Proofs.Value.Equality
import RecordDesk.Record.Basic
import RecordDesk.Record.Key
import RecordDesk.Schema.Basic
import RecordDesk.Schema.Enrich
import RecordDesk.Schema.Files
import RecordDesk.Schema.Generate
import RecordDesk.Screen.Form
import RecordDesk.Screen.Grid
import RecordDesk.Settings.Action
import RecordDesk.Settings.Basic
import RecordDesk.Settings.Document
import RecordDesk.Source.Basic
import RecordDesk.Source.Memory
import RecordDesk.Submission
import RecordDesk.Text.Blank
import RecordDesk.Text.Case
import RecordDesk.Text.Category
import RecordDesk.Text.CodeSet
import RecordDesk.Text.Folding
import RecordDesk.Text.Localized
import RecordDesk.Text.Property
import RecordDesk.Text.Script
import RecordDesk.Text.Search
import RecordDesk.Text.Title
import RecordDesk.Toml.Basic
import RecordDesk.Toml.Draft
import RecordDesk.Toml.Parse
import RecordDesk.Toml.Print
import RecordDesk.Toml.Quoted
import RecordDesk.Toml.Scalar
import RecordDesk.Validation
import RecordDesk.Value.Basic
import RecordDesk.Value.Reading
import RecordDesk.Proofs.Form.Opened
import RecordDesk.Proofs.Derive.Inputs
import RecordDesk.Proofs.Submission
import RecordDesk.Proofs.Text.Case
import RecordDesk.Proofs.Form.Reading
import RecordDesk.Proofs.Form.Confluence
import RecordDesk.Proofs.Record.Case
import RecordDesk.Proofs.Derive.Alike
import RecordDesk.Proofs.Listing.Case
import RecordDesk.Proofs.Form.Case
import RecordDesk.Proofs.Decimal.Rounding
import RecordDesk.Proofs.Decimal.Exact
import RecordDesk.Proofs.Decimal.Scientific
import RecordDesk.Proofs.Decimal.Shortest
import RecordDesk.Proofs.Decimal.Text
import RecordDesk.Proofs.Value.Agreement
import RecordDesk.Proofs.Formula.Grammar
import RecordDesk.Proofs.Decimal.Order
import RecordDesk.Proofs.Listing.Sort
import RecordDesk.Proofs.Listing.Order
import RecordDesk.Proofs.Formula.Defined
import RecordDesk.Proofs.Form.Created
import RecordDesk.Proofs.Form.Update
import RecordDesk.Proofs.Dict
import RecordDesk.Proofs.Text.Lines
import RecordDesk.Proofs.Catalog.Properties
import RecordDesk.Proofs.Document.Books
import RecordDesk.Proofs.Host.Disk
import RecordDesk.Proofs.Schema.Files
import RecordDesk.Proofs.Schema.Usable
import RecordDesk.Proofs.Lookups.Load
import RecordDesk.Proofs.Lookups.Offers
import RecordDesk.Proofs.Config.Store
import RecordDesk.Proofs.Source.Memory
import RecordDesk.Proofs.Desk.Reading
import RecordDesk.Proofs.Desk.Submit
import RecordDesk.Proofs.Settings.Environment
import RecordDesk.Proofs.Derive.Operations
import RecordDesk.Proofs.Derive.Glitch
import RecordDesk.Proofs.Derive.Fixpoint
import RecordDesk.Proofs.Derive.Filled
import RecordDesk.Proofs.Formula.References
import RecordDesk.Proofs.Listing.View
import RecordDesk.Proofs.Form.Report
import RecordDesk.Proofs.Text.Replace
import RecordDesk.Proofs.Catalog.Fill
import RecordDesk.Proofs.Toml.Ordered
import RecordDesk.Proofs.Toml.Assign
import RecordDesk.Proofs.Settings.Change
import RecordDesk.Proofs.Catalog.Comments
import RecordDesk.Proofs.Schema.Columns
import RecordDesk.Proofs.Schema.References
import RecordDesk.Proofs.Schema.Labels
import RecordDesk.Proofs.Client.Calls
import RecordDesk.Proofs.Json.Blank
import RecordDesk.Proofs.Client.Retry
import RecordDesk.Proofs.Client.Failure
import RecordDesk.Proofs.Text.CaseTable
import RecordDesk.Proofs.Record.Edited
import RecordDesk.Proofs.Decimal.Spelling
import RecordDesk.Proofs.Settings.Texts
import RecordDesk.Proofs.Catalog.Ascii
import RecordDesk.Proofs.Form.Typed
import RecordDesk.Proofs.Calendar.Layouts
import RecordDesk.Proofs.Calendar.WallTime
