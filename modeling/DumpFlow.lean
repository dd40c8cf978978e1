import DumpFlow.Engine.Rehearsal
import DumpFlow.Monitor.Log
import DumpFlow.Schema.Config
import DumpFlow.Schema.Report
import DumpFlow.Schema.Run
import DumpFlow.Selection.Selector
import DumpFlow.Simulation.Series
import DumpFlow.Proofs.Engine.Ledger
import DumpFlow.Proofs.Engine.Barrier
import DumpFlow.Proofs.Session.Threads
import DumpFlow.Proofs.Session.Course
import DumpFlow.Proofs.Session.Trail
import DumpFlow.Proofs.Session.Custody
import DumpFlow.Proofs.Session.Slot
import DumpFlow.Proofs.Session.Lifetime
import DumpFlow.Proofs.Session.Release
import DumpFlow.Proofs.Registry
import DumpFlow.Proofs.Session.Favour
import DumpFlow.Proofs.Joint.Linked
import DumpFlow.Proofs.Session.Tickets
import DumpFlow.Proofs.Session.Dump
import DumpFlow.Proofs.Session.Enrolment
import DumpFlow.Proofs.Engine.Schedule
import DumpFlow.Proofs.Joint.Sound
import DumpFlow.Proofs.Joint.Progress
import DumpFlow.Proofs.Session.Deeds
import DumpFlow.Proofs.Blocks
import DumpFlow.Proofs.Joint.Phases
import DumpFlow.Proofs.Joint.Outcome
import DumpFlow.Proofs.Selection.Selector
import DumpFlow.Proofs.Session.Verdict
import DumpFlow.Proofs.Session.Sealing
import DumpFlow.Proofs.Joint.Handles
import DumpFlow.Proofs.Engine.Report
import DumpFlow.Proofs.Session.Enlisting
import DumpFlow.Proofs.Session.Vouching
import DumpFlow.Proofs.Session.Retirement
import DumpFlow.Proofs.Session.Commitment
import DumpFlow.Proofs.Selection.Ranking
import DumpFlow.Proofs.Selection.Label
import DumpFlow.Proofs.Session.Transcript
import DumpFlow.Proofs.Selection.Containment
import DumpFlow.Proofs.Selection.Batch
import DumpFlow.Proofs.Identifier
import DumpFlow.Proofs.Engine.Permits
import DumpFlow.Proofs.Engine.Termination
import DumpFlow.Proofs.Selection.FileName
import DumpFlow.Proofs.Schema.RoundTrip
import DumpFlow.Proofs.Selection.CanonicalForm
import DumpFlow.Proofs.Selection.Respelling
