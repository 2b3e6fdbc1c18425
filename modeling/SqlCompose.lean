import SqlCompose.Execute.Session
import SqlCompose.Json.Reader
import SqlCompose.Log.Event
import SqlCompose.Log.Printer
import SqlCompose.Log.Tally
import SqlCompose.Pool.Lending
import SqlCompose.Postgres.Conversation
import SqlCompose.Proofs.Building
import SqlCompose.Proofs.Cancellation
import SqlCompose.Proofs.Cuts
import SqlCompose.Proofs.Dangling
import SqlCompose.Proofs.Definitions
import SqlCompose.Proofs.Embedding
import SqlCompose.Proofs.Fetching
import SqlCompose.Proofs.Grouping
import SqlCompose.Proofs.Leads
import SqlCompose.Proofs.Literals
import SqlCompose.Proofs.Placement
import SqlCompose.Proofs.Qualifiers
import SqlCompose.Proofs.Rebinding
import SqlCompose.Proofs.Records
import SqlCompose.Proofs.Routes
import SqlCompose.Proofs.Savepoints
import SqlCompose.Proofs.Scopes
import SqlCompose.Proofs.Segments
import SqlCompose.Proofs.Sources
import SqlCompose.Proofs.Statistics
import SqlCompose.Proofs.Styles
import SqlCompose.Proofs.Toplevel
import SqlCompose.Statement.Call
import SqlCompose.Statement.Functions
import SqlCompose.Statement.Render
import SqlCompose.Statement.Schema
import SqlCompose.Time.Reader
import SqlCompose.Transaction.Plan
