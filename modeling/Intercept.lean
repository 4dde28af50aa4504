import Intercept.Text.Hidden
import Intercept.Text.Quoted
import Intercept.Phase
import Intercept.Key
import Intercept.Value
import Intercept.Trail
import Intercept.Failure
import Intercept.Signal
import Intercept.Slots
import Intercept.Notes
import Intercept.Frame
import Intercept.Text.Search
import Intercept.Journal
import Intercept.Store
import Intercept.Chain
import Intercept.Settings
import Intercept.Pool
import Intercept.Json
import Intercept.Json.Literal
import Intercept.Json.Scan
import Intercept.Json.Chars
import Intercept.Json.Numeral
import Intercept.Json.Skip
import Intercept.Json.Magnitude
import Intercept.Json.Read
import Intercept.Json.Forms
import Intercept.Registry
import Intercept.World
import Intercept.Journal.Events
import Intercept.Registration
import Intercept.Call.Step
import Intercept.Call.PhaseRun
import Intercept.Call
import Intercept.Adapter
import Intercept.Documents
import Intercept.Session.Action
import Intercept.Table
import Intercept.Session.Rack
import Intercept.Session.Scene
import Intercept.Session.Requests
import Intercept.Session.Script
import Intercept.Session.Perform
import Intercept.Session
import Intercept.Proofs.Call.Closing
import Intercept.Proofs.Call.Course
import Intercept.Proofs.Call.Unwinding
import Intercept.Proofs.Call.Likeness
import Intercept.Proofs.Call.Observation
import Intercept.Proofs.Call.Skipping
import Intercept.Proofs.Call.Continuing
import Intercept.Proofs.Call.Throwing
import Intercept.Proofs.Call.Nesting
import Intercept.Proofs.Adapter.Transparency
import Intercept.Proofs.Call.Indifference
import Intercept.Proofs.Pool.Twins
import Intercept.Proofs.Session.Blindness
import Intercept.Proofs.Session.Pooling
import Intercept.Proofs.Call.Snapshots
import Intercept.Proofs.Call.Moves
import Intercept.Proofs.Call.Tripping
import Intercept.Proofs.Call.Handover
import Intercept.Proofs.Call.Interruption
import Intercept.Proofs.Adapter.Resolution
import Intercept.Proofs.Registration.Ledger
import Intercept.Proofs.Registration.Refinement
import Intercept.Proofs.Registration.Serving
import Intercept.Proofs.Registration.Fidelity
import Intercept.Proofs.Session.Writes
import Intercept.Proofs.Call.Execution
import Intercept.Proofs.Call.Reordering
import Intercept.Proofs.Call.Account
import Intercept.Proofs.Registration.Audit
import Intercept.Proofs.Call.Attribution
import Intercept.Proofs.Call.Unadvised
import Intercept.Proofs.Adapter.Agreement
import Intercept.Proofs.Adapter.Precedence
import Intercept.Proofs.Frame.Slots
import Intercept.Proofs.Pool.Upkeep
import Intercept.Proofs.Registration.Building
import Intercept.Proofs.Call.Stretches
import Intercept.Proofs.Pool.Accounting
import Intercept.Proofs.Json.Layout
import Intercept.Proofs.Json.Spelling
import Intercept.Proofs.Json.Numbers
import Intercept.Proofs.Json.Grammar
import Intercept.Proofs.Json.Records
import Intercept.Proofs.Json.Keys
import Intercept.Proofs.Json.Overlay
