import TaskTracking.Message
import TaskTracking.Rest
import TaskTracking.Scenario.Step
import TaskTracking.SocketAddress
import TaskTracking.Store.StateFile
import TaskTracking.Tracker.Setup
import TaskTracking.Proofs.Session
import TaskTracking.Proofs.Core
import TaskTracking.Proofs.Selection
import TaskTracking.Proofs.Conditions
import TaskTracking.Proofs.Simulation
import TaskTracking.Proofs.Phases
import TaskTracking.Proofs.Ownership
import TaskTracking.Proofs.Orderly
import TaskTracking.Proofs.Resumption
import TaskTracking.Proofs.Solitude
import TaskTracking.Proofs.Coherence
import TaskTracking.Proofs.Trace
import TaskTracking.Proofs.Story
import TaskTracking.Proofs.Attention
import TaskTracking.Proofs.Path
import TaskTracking.Proofs.Course
import TaskTracking.Proofs.Retries
import TaskTracking.Proofs.Handover
import TaskTracking.Proofs.Events
import TaskTracking.Proofs.Exclusion
import TaskTracking.Proofs.Reload
import TaskTracking.Proofs.Revival
import TaskTracking.Proofs.Neighbours
import TaskTracking.Proofs.Rounds
import TaskTracking.Proofs.Shifts
import TaskTracking.Proofs.Metering
import TaskTracking.Proofs.Routing
import TaskTracking.Proofs.Following
import TaskTracking.Proofs.Streaks
import TaskTracking.Proofs.Reports
import TaskTracking.Proofs.Warning
import TaskTracking.Proofs.Numerals
import TaskTracking.Proofs.Finiteness
import TaskTracking.Proofs.Values
import TaskTracking.Proofs.Scanning
import TaskTracking.Proofs.Contents
import TaskTracking.Proofs.Records
import TaskTracking.Proofs.Rereading
import TaskTracking.Proofs.Envelopes
import TaskTracking.Proofs.Utf8
import TaskTracking.Proofs.Entries
import TaskTracking.Proofs.Persistence
import TaskTracking.Proofs.Silence
import TaskTracking.Proofs.Conduct
import TaskTracking.Proofs.Setback
import TaskTracking.Proofs.Retreat
import TaskTracking.Proofs.Contest
import TaskTracking.Proofs.Withdrawal
import TaskTracking.Proofs.Segments
import TaskTracking.Proofs.Endpoints
import TaskTracking.Proofs.Magnitudes
import TaskTracking.Proofs.Peaks
import TaskTracking.Proofs.Nulls
import TaskTracking.Proofs.Deliveries
import TaskTracking.Proofs.Repetition
import TaskTracking.Proofs.Frames
import TaskTracking.Proofs.Dispatch
import TaskTracking.Proofs.Reconnection
import TaskTracking.Proofs.Interruption
import TaskTracking.Proofs.Labels
import TaskTracking.Proofs.Updates
