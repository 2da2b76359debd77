import Parley.Command
import Parley.Condition
import Parley.Desk
import Parley.Document.Json.Reader
import Parley.Document.Json.Writer
import Parley.Document.Yaml.Reader
import Parley.Execution.Record
import Parley.Flow.Diagram
import Parley.Flow.File
import Parley.Flow.Registry
import Parley.Keyword
import Parley.Knowledge
import Parley.Locks
import Parley.Main
import Parley.Outbox
import Parley.Prompt
import Parley.Scheduler
import Parley.Settings
import Parley.Store
import Parley.Store.File
import Parley.Subject
import Parley.Template
import Parley.Variables.Watched
import Parley.Proofs.Computation
import Parley.Proofs.Records
import Parley.Proofs.Graphs
import Parley.Proofs.Validation
import Parley.Proofs.Rejections
import Parley.Proofs.Keywords
import Parley.Proofs.Conditions
import Parley.Proofs.Rereading
import Parley.Proofs.Steps
import Parley.Proofs.Handling
import Parley.Proofs.Visits
import Parley.Proofs.Rounds
import Parley.Proofs.Errands
import Parley.Proofs.Moves
import Parley.Proofs.Calls
import Parley.Proofs.Subjects
import Parley.Proofs.Waiting
import Parley.Proofs.Refusals
import Parley.Proofs.History
import Parley.Proofs.Laws
import Parley.Proofs.Payloads
import Parley.Proofs.Shapes
import Parley.Proofs.Walks
import Parley.Proofs.Progress
import Parley.Proofs.Turns
import Parley.Proofs.Stints
import Parley.Proofs.Containment
import Parley.Proofs.Calendar
import Parley.Proofs.Timestamps
import Parley.Proofs.Moments
import Parley.Proofs.Native
import Parley.Proofs.Restoring
import Parley.Proofs.Due
import Parley.Proofs.Agreement
import Parley.Proofs.Recovery
import Parley.Proofs.Upkeep
import Parley.Proofs.Clocks
import Parley.Proofs.Passes
import Parley.Proofs.Resumptions
import Parley.Proofs.Expiry
import Parley.Proofs.Parallel
import Parley.Proofs.Likeness
import Parley.Proofs.Ties
import Parley.Proofs.Tidiness
import Parley.Proofs.Twins
import Parley.Proofs.Registrations
import Parley.Proofs.Restarts
import Parley.Proofs.Deliveries
import Parley.Proofs.Sendings
import Parley.Proofs.Frames
import Parley.Proofs.Views
import Parley.Proofs.Commuting
import Parley.Proofs.Courses
import Parley.Proofs.Budgets
import Parley.Proofs.Interruption
import Parley.Proofs.Answering
import Parley.Proofs.Reports
import Parley.Proofs.Lasting
import Parley.Proofs.Routing
import Parley.Proofs.Timeouts
import Parley.Proofs.Heeding
import Parley.Proofs.Grants
import Parley.Proofs.Cancellations
import Parley.Proofs.Snapshots
import Parley.Proofs.Templates
import Parley.Proofs.Magnitudes
import Parley.Proofs.Asides
import Parley.Proofs.Attempts
import Parley.Proofs.Listings
import Parley.Proofs.Spellings
import Parley.Proofs.Words
import Parley.Proofs.References
import Parley.Proofs.Reentries
import Parley.Proofs.Casings
import Parley.Proofs.Drawings
import Parley.Proofs.Bystanders
import Parley.Proofs.Rankings
import Parley.Proofs.Matches
import Parley.Proofs.Recency
import Parley.Proofs.Holds
