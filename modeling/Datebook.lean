import Datebook.Main
import Datebook.Simulation.Session
import Datebook.Proofs.EventStore.Operations
import Datebook.Proofs.EventStore.Invariant
import Datebook.Proofs.Queue.Contents
import Datebook.Proofs.Queue.Ledger
import Datebook.Proofs.Scheduler.Tick
import Datebook.Proofs.Scheduler.Outcome
import Datebook.Proofs.Instant.LookingBack
import Datebook.Proofs.Scheduler.Retention
import Datebook.Proofs.Service.Answers
import Datebook.Proofs.Sender.NoLoss
import Datebook.Proofs.Json.Number
import Datebook.Proofs.Reminder.Payload
import Datebook.Proofs.Pipeline.Chronicle
import Datebook.Proofs.Routine.Calls
import Datebook.Proofs.Pipeline.MovedReminder
import Datebook.Proofs.Queue.Conservation
import Datebook.Proofs.Queue.DeliveryOrder
import Datebook.Proofs.EventStore.NotifiedFlag
import Datebook.Proofs.Pipeline.Duty
import Datebook.Proofs.Pipeline.PurgedReminder
import Datebook.Proofs.Text.Numeral
import Datebook.Proofs.Date.Months
import Datebook.Proofs.Instant.Text
import Datebook.Proofs.Json.Record
import Datebook.Proofs.Http.Abandoned
import Datebook.Proofs.Queue.Publication
import Datebook.Proofs.Pipeline.Drain
import Datebook.Proofs.EventStore.Footprint
import Datebook.Proofs.Calendar.Footprint
import Datebook.Proofs.Http.Footprint
import Datebook.Proofs.EventStore.Range
import Datebook.Proofs.Span.Period
import Datebook.Proofs.Calendar.OwnDates
import Datebook.Proofs.EventStore.Register
import Datebook.Proofs.EventStore.Acceptance
import Datebook.Proofs.EventStore.Isolation
import Datebook.Proofs.Sender.Shift
import Datebook.Proofs.Calendar.Refinement
import Datebook.Proofs.Event.WrittenForm
import Datebook.Proofs.EventStore.Undisturbed
import Datebook.Proofs.Http.Paths
import Datebook.Proofs.Http.ReadBack
import Datebook.Proofs.Json.Grammar
import Datebook.Proofs.Json.Alone
import Datebook.Proofs.Json.KnownMembers
import Datebook.Proofs.Event.KnownMembers
import Datebook.Proofs.EventStore.InsertionOrder
import Datebook.Proofs.Span.Days
import Datebook.Proofs.Span.Tiling
import Datebook.Proofs.Calendar.DayViews
import Datebook.Proofs.Simulation.Tickets
import Datebook.Proofs.Queue.Handles
import Datebook.Proofs.Simulation.Lobby
import Datebook.Proofs.Queue.OpenHandles
import Datebook.Proofs.Simulation.Listeners
import Datebook.Proofs.Scheduler.Vigil
import Datebook.Proofs.Sender.Listener
import Datebook.Proofs.Sender.Vigil
import Datebook.Proofs.Pipeline.Stopping
import Datebook.Proofs.Simulation.Ending
import Datebook.Proofs.Simulation.Solo
import Datebook.Proofs.Scheduler.Closing
import Datebook.Proofs.Scheduler.Timetable
import Datebook.Proofs.Scheduler.Punctual
import Datebook.Proofs.Instant.Strict
import Datebook.Proofs.Http.Dates
