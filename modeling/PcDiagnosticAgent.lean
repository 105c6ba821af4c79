import PcDiagnosticAgent.Library.AutoTable
import PcDiagnosticAgent.Library.OptionalMax
import PcDiagnosticAgent.Library.Runs
import PcDiagnosticAgent.Library.LogTail
import PcDiagnosticAgent.Collectors.EventLog
import PcDiagnosticAgent.Diagnostics.Classification
import PcDiagnosticAgent.Diagnostics.RebootAnalysis
import PcDiagnosticAgent.Agent.StartupOrder
import PcDiagnosticAgent.Agent.TransitionOverlap
import PcDiagnosticAgent.Agent.ServiceRestart
import PcDiagnosticAgent.Collectors.Tailing
import PcDiagnosticAgent.Collectors.UnclearedLog
import PcDiagnosticAgent.Collectors.ClearedLog
import PcDiagnosticAgent.Collectors.FailedRead
import PcDiagnosticAgent.Collectors.CommitPoints
import PcDiagnosticAgent.Agent.Threads
import PcDiagnosticAgent.Agent.WorkerRestart
import PcDiagnosticAgent.Agent.Shutdown
import PcDiagnosticAgent.Storage.EvidenceWindow
import PcDiagnosticAgent.Agent.UndocumentedEvents
import PcDiagnosticAgent.Collectors.Metrics
import PcDiagnosticAgent.Agent.Scheduler
import PcDiagnosticAgent.Agent.LateEvidence
import PcDiagnosticAgent.Diagnostics.Findings
import PcDiagnosticAgent.Agent.AfterReboot
import PcDiagnosticAgent.Diagnostics.Reads
import PcDiagnosticAgent.Diagnostics.OutsideWindow
import PcDiagnosticAgent.Diagnostics.Representation
import PcDiagnosticAgent.Agent.SessionChain
import PcDiagnosticAgent.Diagnostics.InterruptedBoot
import PcDiagnosticAgent.Diagnostics.OneStory
import PcDiagnosticAgent.Diagnostics.TwoWindows
import PcDiagnosticAgent.Storage.PruneExact
import PcDiagnosticAgent.Library.Transactions
import PcDiagnosticAgent.PyValue
import PcDiagnosticAgent.Storage.Connection
import PcDiagnosticAgent.Storage.FailedWrite
import PcDiagnosticAgent.Library.Dict
import PcDiagnosticAgent.Agent.HighCycle
import PcDiagnosticAgent.Agent.LoadConfig
import PcDiagnosticAgent.Diagnostics.ConfiguredDiagnosis
import PcDiagnosticAgent.Agent.AnyConfig
import PcDiagnosticAgent.Storage.UnreadableIncidents
import PcDiagnosticAgent.Agent.Watchdog
import PcDiagnosticAgent.Agent.InheritedHeartbeat
import PcDiagnosticAgent.Agent.ClockSteps
import PcDiagnosticAgent.Collectors.ReadCap
import PcDiagnosticAgent.Library.StableSort
import PcDiagnosticAgent.Library.Markup
import PcDiagnosticAgent.Reports.ReportGenerator
import PcDiagnosticAgent.Reports.Timeline
import PcDiagnosticAgent.Reports.FreeText
import PcDiagnosticAgent.Reports.SameTags
import PcDiagnosticAgent.Collectors.Temperature
import PcDiagnosticAgent.Library.SteppingLoop
import PcDiagnosticAgent.Simulation.Scenarios
import PcDiagnosticAgent.Diagnostics.ConfiguredVerdict
import PcDiagnosticAgent.Simulation.Runner
import PcDiagnosticAgent.Simulation.ExpectedOutcome
import PcDiagnosticAgent.Library.RateLimit
import PcDiagnosticAgent.Agent.Cadence
import PcDiagnosticAgent.Agent.HungWorker
import PcDiagnosticAgent.Agent.RetainedAge
import PcDiagnosticAgent.Agent.ShutdownProgress
import PcDiagnosticAgent.Agent.DatabaseLock
import PcDiagnosticAgent.Agent.HealthyAgent
import PcDiagnosticAgent.Agent.AppendedSessions
import PcDiagnosticAgent.Agent.History
import PcDiagnosticAgent.Agent.AccountedIncidents
import PcDiagnosticAgent.Library.JsonTexts
import PcDiagnosticAgent.Reports.DiagnosisReport
import PcDiagnosticAgent.Library.Pool
import PcDiagnosticAgent.Storage.Migrations
import PcDiagnosticAgent.Library.RelatedTables
import PcDiagnosticAgent.Storage.TextColumns
import PcDiagnosticAgent.Storage.StoredRows
import PcDiagnosticAgent.Storage.Refinement
import PcDiagnosticAgent.Agent.DurableHistory
import PcDiagnosticAgent.Library.Csv
import PcDiagnosticAgent.Cli.Commands
import PcDiagnosticAgent.Collectors.TopProcesses
import PcDiagnosticAgent.Collectors.Gpu
import PcDiagnosticAgent.Agent.LowCycle
import PcDiagnosticAgent.Storage.StoredRetention
