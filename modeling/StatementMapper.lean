import StatementMapper.Cache.Backing
import StatementMapper.Cache.Exchange
import StatementMapper.Interception.Description
import StatementMapper.Main
import StatementMapper.Proofs.Cache.Isolation
import StatementMapper.Proofs.Session.Transparency
import StatementMapper.Proofs.Source.Fixed
import StatementMapper.Proofs.Source.Placeholders
import StatementMapper.Rehearsal.Handlers
import StatementMapper.Rows.Layout
import StatementMapper.Session.History
import StatementMapper.Sessions
import StatementMapper.Settings.Reader
import StatementMapper.Proofs.Markup.Entity
import StatementMapper.Proofs.Source.Literal
import StatementMapper.Proofs.Execution.Requests
import StatementMapper.Proofs.Execution.Buffering
import StatementMapper.Proofs.Execution.Ending
import StatementMapper.Proofs.Session.Effects
import StatementMapper.Proofs.Session.Settlement
import StatementMapper.Proofs.Cache.Thinning
import StatementMapper.Proofs.Session.Hits
import StatementMapper.Proofs.Session.Spreading
import StatementMapper.Proofs.Sessions.Course
import StatementMapper.Proofs.Sessions.Flushes
import StatementMapper.Proofs.Source.Forms
import StatementMapper.Proofs.Interception.Composition
import StatementMapper.Proofs.Markup.Tree
import StatementMapper.Proofs.Expr.ReadBack
import StatementMapper.Proofs.Source.Nesting
import StatementMapper.Proofs.Execution.Slots
import StatementMapper.Proofs.Execution.Calls
import StatementMapper.Proofs.Execution.Retired
import StatementMapper.Proofs.Execution.Accounts
import StatementMapper.Proofs.Session.Posture
import StatementMapper.Proofs.Session.Runs
import StatementMapper.Proofs.Session.Closed
import StatementMapper.Proofs.Session.Dangling
import StatementMapper.Proofs.Interception.Checking
import StatementMapper.Proofs.Execution.Identity
import StatementMapper.Proofs.Execution.Confinement
import StatementMapper.Proofs.Execution.Emptying
import StatementMapper.Proofs.Cache.Assorted
import StatementMapper.Proofs.Cache.Eviction
import StatementMapper.Proofs.Cache.Chronicle
import StatementMapper.Proofs.Execution.Streaming
import StatementMapper.Proofs.Execution.Transient
import StatementMapper.Proofs.Execution.Provenance
import StatementMapper.Proofs.Sessions.Outputs
import StatementMapper.Proofs.Template.Clauses
import StatementMapper.Proofs.Template.Overrides
import StatementMapper.Proofs.Template.Spans
import StatementMapper.Proofs.Template.Rescanning
import StatementMapper.Proofs.Template.Rounds
import StatementMapper.Proofs.Template.Consumers
import StatementMapper.Proofs.Markup.Comments
import StatementMapper.Proofs.Template.Wrapping
import StatementMapper.Proofs.Template.Renaming
import StatementMapper.Proofs.Expr.Integers
import StatementMapper.Proofs.Expr.Numerals
import StatementMapper.Proofs.Mapping.Options
import StatementMapper.Proofs.Source.Faults
import StatementMapper.Proofs.Number.Comparison
import StatementMapper.Proofs.Number.Reading
import StatementMapper.Proofs.Value.Order
import StatementMapper.Proofs.Expr.Equality
import StatementMapper.Proofs.Expr.Membership
import StatementMapper.Proofs.Expr.Regions
import StatementMapper.Proofs.Template.Joining
import StatementMapper.Proofs.Interception.Resolution
import StatementMapper.Proofs.Execution.Delivery
import StatementMapper.Proofs.Template.Naming
import StatementMapper.Proofs.Template.Appending
import StatementMapper.Proofs.Expr.Quoting
