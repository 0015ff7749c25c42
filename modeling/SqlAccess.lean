import SqlAccess.Blueprint
import SqlAccess.Blueprint.ColumnType
import SqlAccess.Blueprint.Conversion
import SqlAccess.Blueprint.Identifier
import SqlAccess.Catalog
import SqlAccess.Catalog.Info
import SqlAccess.Config
import SqlAccess.Cursor
import SqlAccess.Database
import SqlAccess.Engine
import SqlAccess.Engine.Script
import SqlAccess.Entity
import SqlAccess.Entity.Family
import SqlAccess.Entity.Finding
import SqlAccess.Entity.Saving
import SqlAccess.Fault
import SqlAccess.Invocation
import SqlAccess.Migration
import SqlAccess.Migration.Hook
import SqlAccess.Migration.State
import SqlAccess.Number.Digit
import SqlAccess.Number.Floating
import SqlAccess.Number.Floating.Display
import SqlAccess.Number.Floating.Reading
import SqlAccess.Number.Floating.Shortest
import SqlAccess.Number.Integer
import SqlAccess.Number.Power
import SqlAccess.Path
import SqlAccess.Proofs.Action.Accounts
import SqlAccess.Proofs.Action.Ends
import SqlAccess.Proofs.Action.Keeps
import SqlAccess.Proofs.Action.Log
import SqlAccess.Proofs.Action.Mirrors
import SqlAccess.Proofs.Blueprint.Closure
import SqlAccess.Proofs.Blueprint.Order
import SqlAccess.Proofs.Blueprint.PrimaryKey
import SqlAccess.Proofs.Blueprint.Relisting
import SqlAccess.Proofs.Blueprint.Rounds
import SqlAccess.Proofs.Blueprint.Sequence
import SqlAccess.Proofs.Blueprint.WellFormed
import SqlAccess.Proofs.Cursor.First
import SqlAccess.Proofs.Cursor.Pages
import SqlAccess.Proofs.Cursor.Slice
import SqlAccess.Proofs.Engine.Advance
import SqlAccess.Proofs.Engine.Archive
import SqlAccess.Proofs.Engine.Connection
import SqlAccess.Proofs.Engine.Exchange
import SqlAccess.Proofs.Engine.Numbering
import SqlAccess.Proofs.Engine.Schema
import SqlAccess.Proofs.Engine.Shelf
import SqlAccess.Proofs.Engine.Transactional
import SqlAccess.Proofs.Engine.Versioned
import SqlAccess.Proofs.Engine.Window
import SqlAccess.Proofs.Entity.Creation
import SqlAccess.Proofs.Entity.Finding
import SqlAccess.Proofs.Entity.Giving
import SqlAccess.Proofs.Entity.Saving
import SqlAccess.Proofs.Entity.Updating
import SqlAccess.Proofs.Fault.Cause
import SqlAccess.Proofs.Fault.Failing
import SqlAccess.Proofs.Fault.Library
import SqlAccess.Proofs.Migration.Course
import SqlAccess.Proofs.Migration.History
import SqlAccess.Proofs.Number.Numeral
import SqlAccess.Proofs.Query.Direct
import SqlAccess.Proofs.Query.RoundTrip
import SqlAccess.Proofs.Registry.Handle
import SqlAccess.Proofs.Row.Columns
import SqlAccess.Proofs.Row.Lookup
import SqlAccess.Proofs.Row.Sorted
import SqlAccess.Proofs.Schema.Alteration
import SqlAccess.Proofs.Schema.Convergence
import SqlAccess.Proofs.Schema.CopiedColumns
import SqlAccess.Proofs.Schema.CopiedDefaults
import SqlAccess.Proofs.Schema.CopiedIndexes
import SqlAccess.Proofs.Schema.CopiedKeys
import SqlAccess.Proofs.Schema.CopiedNames
import SqlAccess.Proofs.Schema.CopiedText
import SqlAccess.Proofs.Schema.Live
import SqlAccess.Proofs.Schema.Rendering
import SqlAccess.Proofs.Schema.Statements
import SqlAccess.Proofs.Schema.Submission
import SqlAccess.Proofs.Schema.Survey
import SqlAccess.Proofs.Schema.Telling
import SqlAccess.Proofs.Session.Accounts
import SqlAccess.Proofs.Session.Reach
import SqlAccess.Proofs.Session.Ready
import SqlAccess.Proofs.Session.Sight
import SqlAccess.Proofs.Session.Surface
import SqlAccess.Proofs.Sorting.Failing
import SqlAccess.Proofs.Sorting.Galloping
import SqlAccess.Proofs.Sorting.Keyed
import SqlAccess.Proofs.Sorting.Merged
import SqlAccess.Proofs.Sorting.Merging
import SqlAccess.Proofs.Sorting.Stable
import SqlAccess.Proofs.Statement.Binding
import SqlAccess.Proofs.Statement.FirstWord
import SqlAccess.Proofs.Statement.Insertion
import SqlAccess.Proofs.Statement.Placeholders
import SqlAccess.Proofs.Statement.Plain
import SqlAccess.Proofs.Statement.Wording
import SqlAccess.Proofs.Table.Declared
import SqlAccess.Proofs.Table.Definition
import SqlAccess.Proofs.Table.Parts
import SqlAccess.Proofs.Text.Literal
import SqlAccess.Proofs.Text.Segment
import SqlAccess.Proofs.Text.Token
import SqlAccess.Proofs.Text.Words
import SqlAccess.Proofs.Transaction.Atomicity
import SqlAccess.Proofs.Transaction.Bracket
import SqlAccess.Proofs.Transaction.ResultRows
import SqlAccess.Proofs.Transaction.RowNumber
import SqlAccess.Proofs.Validation.PlainData
import SqlAccess.Proofs.Value.Integers
import SqlAccess.Proofs.Workload.Bracket
import SqlAccess.Proofs.Workload.Bracketing
import SqlAccess.Proofs.Workload.Building
import SqlAccess.Proofs.Workload.CopiedRows
import SqlAccess.Proofs.Workload.Course
import SqlAccess.Proofs.Workload.Failing
import SqlAccess.Proofs.Workload.Frame
import SqlAccess.Proofs.Workload.Inquiry
import SqlAccess.Proofs.Workload.Isolation
import SqlAccess.Proofs.Workload.Life
import SqlAccess.Proofs.Workload.Opening
import SqlAccess.Proofs.Workload.Ownership
import SqlAccess.Proofs.Workload.Preparation
import SqlAccess.Proofs.Workload.Release
import SqlAccess.Proofs.Workload.Surface
import SqlAccess.Proofs.Workload.Surfacing
import SqlAccess.Proofs.Workload.Turn
import SqlAccess.Query
import SqlAccess.Query.Refinement
import SqlAccess.Query.Script
import SqlAccess.Record
import SqlAccess.Registry
import SqlAccess.Row
import SqlAccess.Row.Lookup
import SqlAccess.Schema
import SqlAccess.Schema.Copy
import SqlAccess.Session
import SqlAccess.Session.Opening
import SqlAccess.Sorting
import SqlAccess.Sorting.Comparing
import SqlAccess.Sorting.Gallop
import SqlAccess.Sorting.Merge
import SqlAccess.Sorting.Run
import SqlAccess.Statement
import SqlAccess.Statement.Control
import SqlAccess.Statement.Select
import SqlAccess.Statement.Write
import SqlAccess.Table
import SqlAccess.Table.Definition
import SqlAccess.Table.Draft
import SqlAccess.Table.Script
import SqlAccess.Text.Blank
import SqlAccess.Text.Case
import SqlAccess.Text.Listing
import SqlAccess.Text.Literal
import SqlAccess.Text.Printable
import SqlAccess.Text.Quoted
import SqlAccess.Transaction
import SqlAccess.Validation.Checked
import SqlAccess.Validation.Issue
import SqlAccess.Validation.Reader
import SqlAccess.Validation.Refusal
import SqlAccess.Value
import SqlAccess.Value.Conversion
import SqlAccess.Value.Display
import SqlAccess.Value.Equality
import SqlAccess.Value.Order
import SqlAccess.Workload.Holding
import SqlAccess.Workload.Member
import SqlAccess.Workload.Run
import SqlAccess.Workload.Task
import SqlAccess.Workload.World
