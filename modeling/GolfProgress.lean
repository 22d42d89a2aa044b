import GolfProgress.Binary64.Basic
import GolfProgress.Binary64.Bits
import GolfProgress.Binary64.Decimal
import GolfProgress.Binary64.Exponential
import GolfProgress.Binary64.Fixed
import GolfProgress.BreakingPoint.Basic
import GolfProgress.BreakingPoint.Patch
import GolfProgress.BreakingPoint.Status
import GolfProgress.BreakingPoint.Store
import GolfProgress.Bytes.Hex
import GolfProgress.Bytes.Order
import GolfProgress.Bytes.Sha256
import GolfProgress.Bytes.Utf8
import GolfProgress.Calendar.Date
import GolfProgress.Calendar.Instant
import GolfProgress.Calendar.Text
import GolfProgress.CommandLine.Command
import GolfProgress.CommandLine.Form
import GolfProgress.CommandLine.Help
import GolfProgress.CommandLine.Run
import GolfProgress.CommandLine.Usage
import GolfProgress.CommandLine.Value
import GolfProgress.Constraints.Analysis
import GolfProgress.Constraints.Gap
import GolfProgress.Constraints.Report
import GolfProgress.Csv.Record
import GolfProgress.Csv.Sheet
import GolfProgress.Document.Source
import GolfProgress.Document.Stamps
import GolfProgress.Failure
import GolfProgress.Files.Host
import GolfProgress.Files.Path
import GolfProgress.Files.Tree
import GolfProgress.Json.Basic
import GolfProgress.Json.Parser
import GolfProgress.Json.Printer
import GolfProgress.Json.Source
import GolfProgress.Lz4.Block
import GolfProgress.Lz4.Compression
import GolfProgress.Main
import GolfProgress.MessagePack.Basic
import GolfProgress.MessagePack.Source
import GolfProgress.Proofs.BetterReadings
import GolfProgress.Proofs.BindingRequirements
import GolfProgress.Proofs.BriskRuns
import GolfProgress.Proofs.CacheRuns
import GolfProgress.Proofs.CatalogEntries
import GolfProgress.Proofs.Commits
import GolfProgress.Proofs.Contention
import GolfProgress.Proofs.DecimalText
import GolfProgress.Proofs.Decisions
import GolfProgress.Proofs.EchoedValues
import GolfProgress.Proofs.EditWrites
import GolfProgress.Proofs.EffortOfSessions
import GolfProgress.Proofs.EvaluationPaths
import GolfProgress.Proofs.Evolution
import GolfProgress.Proofs.FailedEdits
import GolfProgress.Proofs.Fallback
import GolfProgress.Proofs.FanOut
import GolfProgress.Proofs.HostRuns
import GolfProgress.Proofs.ImportedRows
import GolfProgress.Proofs.Interleaving
import GolfProgress.Proofs.LatestReading
import GolfProgress.Proofs.ListOrder
import GolfProgress.Proofs.Locality
import GolfProgress.Proofs.LookBack
import GolfProgress.Proofs.MessagePackBytes
import GolfProgress.Proofs.NumberOrder
import GolfProgress.Proofs.ProgressCurve
import GolfProgress.Proofs.ProposedForms
import GolfProgress.Proofs.ProposedRules
import GolfProgress.Proofs.Readiness
import GolfProgress.Proofs.Readings
import GolfProgress.Proofs.Recency
import GolfProgress.Proofs.RecordUpdate
import GolfProgress.Proofs.Recordings
import GolfProgress.Proofs.Refusals
import GolfProgress.Proofs.RepeatedFanOut
import GolfProgress.Proofs.Repetition
import GolfProgress.Proofs.Reports
import GolfProgress.Proofs.Resolution
import GolfProgress.Proofs.Retries
import GolfProgress.Proofs.RoundedOrder
import GolfProgress.Proofs.Rounding
import GolfProgress.Proofs.RowOrder
import GolfProgress.Proofs.RuleGrammar
import GolfProgress.Proofs.RuleText
import GolfProgress.Proofs.Serializability
import GolfProgress.Proofs.SessionCounts
import GolfProgress.Proofs.SettingsRanges
import GolfProgress.Proofs.SignedOrder
import GolfProgress.Proofs.Solo
import GolfProgress.Proofs.StoreRuns
import GolfProgress.Proofs.TableFiles
import GolfProgress.Proofs.TableStores
import GolfProgress.Proofs.Threads
import GolfProgress.Proofs.TransitionPaths
import GolfProgress.Proofs.ValidWrites
import GolfProgress.Proofs.Versions
import GolfProgress.Proofs.WriteLoop
import GolfProgress.Registry.Basic
import GolfProgress.Registry.Builtin
import GolfProgress.Registry.Catalog
import GolfProgress.Registry.Category
import GolfProgress.Registry.Codes
import GolfProgress.Registry.Domain
import GolfProgress.Registry.Loading
import GolfProgress.Registry.Metric
import GolfProgress.Requirements.Basic
import GolfProgress.Requirements.Building
import GolfProgress.Requirements.Cache
import GolfProgress.Requirements.Import
import GolfProgress.Requirements.Store
import GolfProgress.Requirements.Table
import GolfProgress.Requirements.TableFile
import GolfProgress.Results.Basic
import GolfProgress.Rules.Basic
import GolfProgress.Rules.Comparison
import GolfProgress.Rules.Default
import GolfProgress.Rules.Evaluation
import GolfProgress.Rules.Window
import GolfProgress.Sessions.Log
import GolfProgress.Settings.Basic
import GolfProgress.Settings.Loading
import GolfProgress.Store.Failure
import GolfProgress.Text.Blank
import GolfProgress.Text.Digits
import GolfProgress.Text.Fields
import GolfProgress.Text.Terminal
import GolfProgress.Tracker.Curves
import GolfProgress.Tracker.Decision
import GolfProgress.Tracker.Operations
import GolfProgress.Tracker.Program
import GolfProgress.Tracker.Snapshot
import GolfProgress.Uuid
import GolfProgress.Uuid.Fault
import GolfProgress.Violation
import GolfProgress.Warning
import GolfProgress.Yaml.Node
import GolfProgress.Yaml.Repetition
import GolfProgress.Yaml.Scalar
import GolfProgress.Yaml.Source
import GolfProgress.Yaml.Spot
import GolfProgress.Yaml.Tag
import GolfProgress.Yaml.Token
