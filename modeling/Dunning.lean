import Dunning.Action.Call
import Dunning.Action.Contact
import Dunning.Action.Error
import Dunning.Action.Kind
import Dunning.Action.Payment
import Dunning.Action.Query
import Dunning.Action.QueryData
import Dunning.Action.Registry
import Dunning.Action.Reply
import Dunning.Action.Standard
import Dunning.Agent
import Dunning.Condition.Builtin
import Dunning.Condition.Evaluator
import Dunning.Condition.Expr
import Dunning.ConfigError
import Dunning.Context
import Dunning.Conversation.Basic
import Dunning.Conversation.Id
import Dunning.Conversation.Record
import Dunning.Decimal.Binary
import Dunning.Decimal.Fixed
import Dunning.Decimal.Layout
import Dunning.Decimal.Reader
import Dunning.Decimal.Shortest
import Dunning.Decision
import Dunning.Document
import Dunning.Engine
import Dunning.Fields
import Dunning.Files
import Dunning.Flow.Definition
import Dunning.Flow.Load
import Dunning.Flow.Store
import Dunning.Flow.Validation
import Dunning.Json.Basic
import Dunning.Json.Reader
import Dunning.Json.Record
import Dunning.Json.Text
import Dunning.Main
import Dunning.Monitor.Alert
import Dunning.Monitor.Basic
import Dunning.Monitor.Config
import Dunning.Monitor.Summary
import Dunning.Monitor.Window
import Dunning.Negotiation
import Dunning.Record
import Dunning.Routing
import Dunning.Session
import Dunning.Settings.Basic
import Dunning.Settings.Layer
import Dunning.Settings.Load
import Dunning.Settings.Source
import Dunning.Template
import Dunning.Text.Blank
import Dunning.Text.DecimalDigit
import Dunning.Text.Lowercase
import Dunning.Text.Ranges
import Dunning.Text.Search
import Dunning.Text.WordChar
import Dunning.Tier
import Dunning.Timestamp
import Dunning.Toml.Document
import Dunning.Toml.Scalar
import Dunning.Yaml.Cursor
import Dunning.Yaml.Node
import Dunning.Yaml.Scalar
import Dunning.Yaml.Token
import Dunning.Yaml.Value
import Dunning.Yaml.Strict.Scalar
import Dunning.Yaml.Strict.Token
import Dunning.Proofs.Condition.Grammar
import Dunning.Proofs.Condition.Meaning
import Dunning.Proofs.Engine.Selection
import Dunning.Proofs.Engine.Step
import Dunning.Proofs.Conversation.Atomicity
import Dunning.Proofs.Except
import Dunning.Proofs.Flow.Resolution
import Dunning.Proofs.Flow.Listing
import Dunning.Proofs.Flow.Validation
import Dunning.Proofs.Conversation.ClosedFlow
import Dunning.Proofs.Monitor.Samples
import Dunning.Proofs.Monitor.History
import Dunning.Proofs.Monitor.Summary
import Dunning.Proofs.Action.Standard
import Dunning.Proofs.Conversation.Dispatches
import Dunning.Proofs.Fields
import Dunning.Proofs.Agent.Start
import Dunning.Proofs.Action.Footprint
import Dunning.Proofs.Conversation.Lines
import Dunning.Proofs.Negotiation.Table
import Dunning.Proofs.Negotiation.Agreement
import Dunning.Proofs.Negotiation.Answers
import Dunning.Proofs.Negotiation.Sessions
import Dunning.Proofs.Monitor.Deduplication
import Dunning.Proofs.Conversation.Path
import Dunning.Proofs.Monitor.Breaches
import Dunning.Proofs.Conversation.Accounts
import Dunning.Proofs.Routing
import Dunning.Proofs.Session.Renewal
import Dunning.Proofs.Action.Query
import Dunning.Proofs.Action.QueryTables
import Dunning.Proofs.Document.Forms
import Dunning.Proofs.Document.Search
import Dunning.Proofs.Document.Extraction
import Dunning.Proofs.Document.Runs
import Dunning.Proofs.Document.Completeness
import Dunning.Proofs.Document.Validity
import Dunning.Proofs.Template.Cut
import Dunning.Proofs.Template.Substitution
import Dunning.Proofs.Action.Deadline
import Dunning.Proofs.Action.Registrations
import Dunning.Proofs.Condition.Registrations
import Dunning.Proofs.Condition.Reach
import Dunning.Proofs.Engine.Introspection
import Dunning.Proofs.Flow.Defaults
import Dunning.Proofs.Decimal.Finite
import Dunning.Proofs.Action.Balance
import Dunning.Proofs.Json.Text
import Dunning.Proofs.Action.Spelling
import Dunning.Proofs.Json.Record
import Dunning.Proofs.Flow.RoundTrip
import Dunning.Proofs.Settings.Overlay
import Dunning.Proofs.Settings.Layering
import Dunning.Proofs.Timestamp.Calendar
import Dunning.Proofs.Timestamp.Text
import Dunning.Proofs.Action.Reminder
