import Twilight.Alarm.Worker
import Twilight.CommandLine.Session
import Twilight.Main
import Twilight.Scenario.Run
import Twilight.Proofs.ColorMode
import Twilight.Proofs.Coupling
import Twilight.Proofs.Firings
import Twilight.Proofs.Mirror
import Twilight.Proofs.Timeliness
import Twilight.Proofs.Alarm.Law
import Twilight.Proofs.Alarm.Phase
import Twilight.Proofs.Daemon.Course
import Twilight.Proofs.Daemon.Ledger
import Twilight.Proofs.Ownership
import Twilight.Proofs.Races
import Twilight.Proofs.Blindness
import Twilight.Proofs.Latecomers
import Twilight.Proofs.Observers
import Twilight.Proofs.CommandLine.Grammar
import Twilight.Proofs.Lock.Owner
import Twilight.Proofs.ClockText
import Twilight.Proofs.LogFile
import Twilight.Proofs.SettingsFile
import Twilight.Proofs.ParameterFile
import Twilight.Proofs.Preview
import Twilight.Proofs.SharedFile
import Twilight.Proofs.Restart
import Twilight.Proofs.Bookkeeping
import Twilight.Proofs.Time.Daily
import Twilight.Proofs.Time.Due
import Twilight.Proofs.Contention
import Twilight.Proofs.Scheduling
import Twilight.Proofs.Renewal
import Twilight.Proofs.Reconciliation
import Twilight.Proofs.FailedChanges
import Twilight.Proofs.Acceptance
import Twilight.Proofs.Unreadable
import Twilight.Proofs.StorePaths
