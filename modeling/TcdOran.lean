import TcdOran.Lib.Check
import TcdOran.Lib.Machine
import TcdOran.Lib.Ring
import TcdOran.Lib.Text
import TcdOran.Lib.Decimal
import TcdOran.Lib.Binary64
import TcdOran.Lib.Number
import TcdOran.Lib.PrintG
import TcdOran.Lib.Json
import TcdOran.Lib.JsonText
import TcdOran.Lib.Csv
import TcdOran.Collector.BoundedString
import TcdOran.Collector.CanonicalRecord
import TcdOran.Collector.TextBuilder
import TcdOran.Collector.CanonicalSerialize
import TcdOran.Collector.FileSink
import TcdOran.Collector.OutputPipeline
import TcdOran.Collector.PipelineMachine
import TcdOran.Collector.PipelineQueue
import TcdOran.Collector.PipelineShutdown
import TcdOran.Collector.Indication
import TcdOran.Collector.OutputAdapter
import TcdOran.Collector.RecordDelivery
import TcdOran.Collector.Catalogue
import TcdOran.Collector.LineLength
import TcdOran.Collector.CsvRoundTrip
import TcdOran.Collector.JsonlRoundTrip
import TcdOran.Parquet.Converter
import TcdOran.Parquet.TypedRow
import TcdOran.Parquet.RowRules
import TcdOran.Parquet.RecordRow
import TcdOran.Parquet.ImageRow
import TcdOran.Parquet.Agreement
import TcdOran.Parquet.EndToEnd
import TcdOran.Collector.PipelineAccounting
import TcdOran.Collector.CallbackMachine
import TcdOran.Collector.IndicationCounters
import TcdOran.Collector.RowAccess
import TcdOran.Collector.Lifecycle
import TcdOran.Collector.MainMachine
import TcdOran.Collector.MainLifecycle
import TcdOran.Collector.Verdict
import TcdOran.Collector.SinkSession
import TcdOran.Collector.PrometheusText
import TcdOran.Collector.PrometheusWrite
import TcdOran.Harness.T2Trigger
import TcdOran.Harness.Supervisor
import TcdOran.Harness.SupervisorStages
import TcdOran.Harness.SupervisorAccounting
import TcdOran.Lib.PythonNumber
import TcdOran.Harness.TriggerExecutor
import TcdOran.Harness.TriggerRecord
import TcdOran.Lib.PythonPattern
import TcdOran.Transaction.Record
import TcdOran.Transaction.Validator
import TcdOran.Transaction.TriggerChain
import TcdOran.Transaction.Disposition
import TcdOran.Harness.Readback
import TcdOran.Harness.PostvalTrigger
import TcdOran.Harness.FifoReader
import TcdOran.Harness.FifoReaderOnce
import TcdOran.Harness.TriggerToken
import TcdOran.Timeline.ActuatorTimeline
import TcdOran.Timeline.BuilderAgreement
import TcdOran.Lib.PythonText
import TcdOran.Receiver.Capture
import TcdOran.Receiver.Snapshot
import TcdOran.Lib.PythonDecimal
import TcdOran.Lib.PythonRegex
import TcdOran.Receiver.IntervalParser
import TcdOran.Receiver.Canonicalizer
import TcdOran.Receiver.TailReader
import TcdOran.Receiver.TailAgreement
import TcdOran.Receiver.Evaluator
import TcdOran.Receiver.Freshness
import TcdOran.Lib.Blocks
import TcdOran.Receiver.FreshnessAgreement
import TcdOran.Receiver.PostStepWindows
import TcdOran.Receiver.CaptureReaders
import TcdOran.Lib.PythonDumps
import TcdOran.Harness.RatioBindingWriter
import TcdOran.Harness.SupervisorTiming
import TcdOran.Lib.FileTree
import TcdOran.Retention.Manifest
import TcdOran.Retention.ManifestRoundTrip
import TcdOran.Retention.Tool
import TcdOran.Retention.Verification
import TcdOran.Retention.Transfer
import TcdOran.Retention.Evidence
import TcdOran.Retention.Promotion
import TcdOran.Retention.Undisturbed
import TcdOran.Retention.Plan
import TcdOran.Harness.PrecontrolHandoff
import TcdOran.Harness.PrecontrolPublication
import TcdOran.Collector.PipelineSnapshot
import TcdOran.Harness.ProductionCleanup
import TcdOran.Harness.HandoffInvocation
import TcdOran.Harness.ProductionBinding
import TcdOran.Harness.StationarityAdapter
import TcdOran.Harness.ProductionCommands
import TcdOran.Harness.ResumePrecontrol
import TcdOran.Harness.ResumeTransition
import TcdOran.Harness.ProviderAdmission
import TcdOran.Harness.AdmissionHandover
import TcdOran.Harness.ManagerTermination
import TcdOran.Receiver.WindowSelection
import TcdOran.Receiver.Classification
import TcdOran.Lib.SignificantDigits
import TcdOran.Receiver.ExactGates
import TcdOran.Lib.ShortestDecimal
import TcdOran.Receiver.ParsedIntervals
import TcdOran.Harness.TriggerGuard
import TcdOran.Transaction.NoDeadEnd
import TcdOran.Harness.AtomicPrestart
import TcdOran.Harness.PrestartGuard
import TcdOran.Harness.MarkerReaders
import TcdOran.Lib.JsonExtended
import TcdOran.Lib.TextLines
import TcdOran.Parquet.Conversion
import TcdOran.Parquet.ConversionPasses
import TcdOran.Parquet.ConversionRuns
import TcdOran.Harness.ExperimentIdentity
import TcdOran.Harness.T2Controller
import TcdOran.Collector.BoundedStringReads
import TcdOran.Collector.BuilderRuns
import TcdOran.Harness.ResumeAgreement
import TcdOran.Harness.StaleRetirement
import TcdOran.Harness.RunnerIdentity
import TcdOran.Harness.RunnerOwnership
import TcdOran.Harness.T2ControllerRuns
import TcdOran.Harness.RunnerScript
import TcdOran.Harness.RunnerVerdict
import TcdOran.Harness.RunnerProcesses
import TcdOran.Harness.TrafficOwnership
import TcdOran.Lib.Strtol
import TcdOran.Lib.Validation
import TcdOran.Collector.Environment
import TcdOran.Collector.MainWaits
import TcdOran.Collector.NodeSelection
import TcdOran.Lib.Heap
import TcdOran.Collector.Subscription
import TcdOran.Actuator.ActuationChain
import TcdOran.Harness.SixTransitions
import TcdOran.Lib.JsonDocument
import TcdOran.Harness.ProductionPlan
import TcdOran.Harness.FinalizationCommand
import TcdOran.Harness.ProductionFinalization
import TcdOran.Harness.ProfileAcceptance
