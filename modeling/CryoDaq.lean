import CryoDaq.Async.Rely
import CryoDaq.Safety.Runs
import CryoDaq.Safety.LatchExit
import CryoDaq.Safety.Tracking
import CryoDaq.Safety.Receipts
import CryoDaq.Safety.StopProof
import CryoDaq.Safety.Readiness
import CryoDaq.System.Run
import CryoDaq.Python.Heap
import CryoDaq.Python.Json
import CryoDaq.Alarms.Activations
import CryoDaq.Alarms.Clearing
import CryoDaq.Alarms.Completion
import CryoDaq.Alarms.VacuumEvidence
import CryoDaq.Annunciation.Audible
import CryoDaq.Cooldown.Silence
import CryoDaq.Acquisition.Archive
import CryoDaq.Experiments.Reservation
import CryoDaq.Experiments.Authority
import CryoDaq.Experiments.Growth
import CryoDaq.Reports.Coordinator
import CryoDaq.Supervision.Runs
import CryoDaq.Storage.PersistenceTruth
import CryoDaq.Storage.AlarmAckMonotone
import CryoDaq.Periodic.Agreement
import CryoDaq.Periodic.Settlement
import CryoDaq.Periodic.Convergence
import CryoDaq.Recording.Truth
import CryoDaq.Stream.ReadyCut
import CryoDaq.Stream.Unbroken
import CryoDaq.Keithley.Regulation
import CryoDaq.Interlock.Escalation
import CryoDaq.Rates.Staleness
import CryoDaq.Scheduler.Recovery
import CryoDaq.Storage.LiveFingerprint
import CryoDaq.Storage.CollectorRuns
import CryoDaq.Channels.Earned
import CryoDaq.Reports.Retries
import CryoDaq.Recording.LiveProjection
import CryoDaq.Alarms.DiagnosticRuns
import CryoDaq.Periodic.AlarmSizes
import CryoDaq.Broker.Settlement
import CryoDaq.DayFiles.Runs
import CryoDaq.Reports.Sweep
