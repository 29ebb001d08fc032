import CompilerSession.Report.Snapshot
import CompilerSession.Session.Operation
import CompilerSession.Session.Script
import CompilerSession.Settings.StoredSettings
import CompilerSession.Settings.DirectoryStorage
import CompilerSession.Proofs.Alignment
import CompilerSession.Proofs.Views
import CompilerSession.Proofs.Accounting
import CompilerSession.Proofs.Programs
import CompilerSession.Proofs.Telling
import CompilerSession.Proofs.Timing
import CompilerSession.Proofs.Moves
import CompilerSession.Proofs.Settling
import CompilerSession.Proofs.Refinement
import CompilerSession.Proofs.FailurePayload
import CompilerSession.Proofs.Timeline
import CompilerSession.Proofs.Provenance
import CompilerSession.Proofs.Course
import CompilerSession.Proofs.Retries
import CompilerSession.Proofs.Announcements
import CompilerSession.Proofs.Superseding
import CompilerSession.Proofs.Snapshots
import CompilerSession.Proofs.Quiescence
import CompilerSession.Proofs.WorkerDeath
import CompilerSession.Proofs.Fetching
import CompilerSession.Proofs.JsonText
import CompilerSession.Proofs.JsonDecoding
import CompilerSession.Proofs.ReportText
import CompilerSession.Proofs.SettingsReopening
import CompilerSession.Proofs.SettingsInForce
import CompilerSession.Proofs.BundleText
import CompilerSession.Proofs.SettingsReading
import CompilerSession.Proofs.Deliveries
import CompilerSession.Proofs.Lifecycle
import CompilerSession.Proofs.ImportClosure
import CompilerSession.Proofs.VersionOrder
import CompilerSession.Proofs.ModernInterface
import CompilerSession.Proofs.Modernisation
import CompilerSession.Proofs.SettingsRefusal
import CompilerSession.Proofs.TextCuts
import CompilerSession.Proofs.ImportStatements
import CompilerSession.Proofs.VersionReading
import CompilerSession.Proofs.Handovers
import CompilerSession.Proofs.FailureEndings
import CompilerSession.Proofs.SourceNumbers
import CompilerSession.Proofs.FileAccess
import CompilerSession.Proofs.StoredFiles
import CompilerSession.Proofs.Placeholders
import CompilerSession.Proofs.Ledger
import CompilerSession.Proofs.ByteOrder
import CompilerSession.Proofs.ContractVisits
