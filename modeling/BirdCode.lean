import BirdCode.Basic
import BirdCode.Scheduler.Graph
import BirdCode.CandidateHead.Registry
import BirdCode.Lib.Run
import BirdCode.CandidateHead.Calls
import BirdCode.CandidateHead.Linearizable
import BirdCode.Lib.BufferedReader
import BirdCode.Store.Records
import BirdCode.Daemon.JsonLines
import BirdCode.Lib.DepthFirst
import BirdCode.Lib.Cycles
import BirdCode.Lib.CycleVisits
import BirdCode.Planner.Plan
import BirdCode.Planner.Turn
import BirdCode.Lib.Json
import BirdCode.Lib.SortedBy
import BirdCode.Lib.JsonValue
import BirdCode.Lib.JsonReading
import BirdCode.Prompting.Canonical
import BirdCode.Prompting.Material
import BirdCode.Review.Contract
import BirdCode.Prompting.RootWorkOrders
import BirdCode.Router.Invariants
import BirdCode.Lib.Worklist
import BirdCode.Scheduler.Journal
import BirdCode.Scheduler.Validation
import BirdCode.Scheduler.Accepted
import BirdCode.DependencyCycles
import BirdCode.Lib.AppendOnly
import BirdCode.Lib.Collecting
import BirdCode.Lib.Commands
import BirdCode.Lib.Delimited
import BirdCode.Lib.FirstOccurrences
import BirdCode.Lib.HashChain
import BirdCode.Lib.Interleave
import BirdCode.Lib.KnuthMorrisPratt
import BirdCode.Lib.MaterialisedView
import BirdCode.Lib.OneShot
import BirdCode.Lib.OrderedTree
import BirdCode.Lib.Paging
import BirdCode.Lib.Persists
import BirdCode.Lib.Positions
import BirdCode.Lib.Renaming
import BirdCode.Lib.SelfDelimiting
import BirdCode.Planner.Apply
import BirdCode.Planner.Closure
import BirdCode.Planner.Frames
import BirdCode.Planner.Cancellations
import BirdCode.Planner.Inference
import BirdCode.Planner.Journal
import BirdCode.Planner.Replay
import BirdCode.Planner.Interleaving
import BirdCode.Planner.Execution
import BirdCode.Planner.Settlement
import BirdCode.Prompting.PlanCritic
import BirdCode.Prompting.ChildHandoffs
import BirdCode.Prompting.CriticReviews
import BirdCode.Prompting.EvidencePackets
import BirdCode.Prompting.EvidenceDeltas
import BirdCode.Prompting.DeltaExact
import BirdCode.Review.Repair
import BirdCode.Review.Coverage
import BirdCode.Review.Completion
import BirdCode.Scheduler.Verifier
import BirdCode.Review.Journal
import BirdCode.Review.Resolver
import BirdCode.Review.Verdicts
import BirdCode.Router.Repair
import BirdCode.Router.Repaired
import BirdCode.Scheduler.Executor
import BirdCode.Scheduler.Steps
import BirdCode.Scheduler.Ledger
import BirdCode.Scheduler.Partition
import BirdCode.Scheduler.Schedule
import BirdCode.Scheduler.Progress
import BirdCode.Scheduler.Completion
import BirdCode.Scheduler.Envelope
import BirdCode.Scheduler.FailStop
import BirdCode.Scheduler.VerifierSound
import BirdCode.Scheduler.VerifierComplete
import BirdCode.Scheduler.Evidence
import BirdCode.Scheduler.PresentationOrder
import BirdCode.Scheduler.ReviewGates
import BirdCode.Scheduler.SharedJournal
import BirdCode.Store.Artifacts
import BirdCode.Store.ChildRecords
import BirdCode.Store.PlanningRecords
import BirdCode.Store.SnapshotRecords
import BirdCode.Store.Events
import BirdCode.Store.Tables
import BirdCode.Store.ChildDocuments
import BirdCode.Store.ChildState
import BirdCode.Store.ChildModel
import BirdCode.Store.ChildTool
import BirdCode.Store.ChildToolTerminal
import BirdCode.Store.ChildWorkOrder
import BirdCode.Store.ChildReplay
import BirdCode.Store.ChildReplayTools
import BirdCode.Store.ChildProjection
import BirdCode.Store.PlanningDocuments
import BirdCode.Store.RootPlanning
import BirdCode.Store.RootDecisions
import BirdCode.Store.PlannerTurns
import BirdCode.Store.Snapshot
import BirdCode.Store.SnapshotAdmission
import BirdCode.Store.CompletionGate
import BirdCode.Store.RunAdmission
import BirdCode.Store.ChildAdmission
import BirdCode.Store.Admission
import BirdCode.Store.LogExtension
import BirdCode.Store.ChildPersistence
import BirdCode.Store.AdmittedLogs
import BirdCode.Store.ChildLifecycle
import BirdCode.Store.ChildSteps
import BirdCode.Store.ChildInvariant
import BirdCode.Store.Fixtures
import BirdCode.Store.ChildRuns
import BirdCode.Store.SnapshotFacts
import BirdCode.Store.ChildStability
import BirdCode.Store.RunAuthority
import BirdCode.Store.SnapshotLifecycle
import BirdCode.Store.SnapshotRuns
import BirdCode.Store.Continuation
import BirdCode.Store.EventPages
import BirdCode.Store.RunStates
import BirdCode.Store.RootAppends
import BirdCode.Store.RootStages
import BirdCode.Store.PlanRevisions
import BirdCode.Store.Wire
import BirdCode.Store.ReceiptWire
import BirdCode.Store.RunClaims
import BirdCode.Store.TerminalRuns
import BirdCode.Store.Telemetry
import BirdCode.Store.TokenBudget
import BirdCode.Tooling.Results
import BirdCode.Tooling.Authorization
import BirdCode.Tooling.Coherence
import BirdCode.Tooling.Broker
import BirdCode.Tooling.Unix
import BirdCode.Tooling.ResultBudget
import BirdCode.Tooling.Walks
import BirdCode.Tooling.SearchExact
import BirdCode.Tooling.LiteralSearches
import BirdCode.Tooling.TreeResults
import BirdCode.Tooling.SearchResults
import BirdCode.Tooling.RepositoryReads
import BirdCode.Tooling.Authority
import BirdCode.Tooling.BrokerRuns
import BirdCode.Tooling.BrokerSections
import BirdCode.Tooling.ClosedOnce
import BirdCode.Tooling.BrokerInvariant
import BirdCode.Tooling.PreparedCalls
import BirdCode.Validation.Values
import BirdCode.Validation.Violations
import BirdCode.Validation.Provenance
import BirdCode.Validation.Rules
import BirdCode.Validation.Append
import BirdCode.Validation.Validator
import BirdCode.Validation.Logs
import BirdCode.Validation.SoundLogs
import BirdCode.Validation.Totals
import BirdCode.Validation.Fixtures
import BirdCode.Validation.Acceptance
import BirdCode.Validation.Appending
import BirdCode.Validation.PolicyBytes
import BirdCode.Validation.Sealing
import BirdCode.Validation.CleanRuns
import BirdCode.Validation.Binding
import BirdCode.Validation.Blind
import BirdCode.Validation.BlindMaps
import BirdCode.Validation.Blinding
import BirdCode.Validation.BlindRuns
import BirdCode.Validation.Unattributed
import BirdCode.Workspace.Topology
import BirdCode.Workspace.Devices
import BirdCode.Workspace.Attachments
import BirdCode.Workspace.Verdicts
import BirdCode.WriteLane.ChangedPaths
import BirdCode.WriteLane.Edits
import BirdCode.WriteLane.Worktree
import BirdCode.WriteLane.Replacing
import BirdCode.WriteLane.Atomicity
import BirdCode.WriteLane.Answers
import BirdCode.WriteLane.LaneRuns
import BirdCode.WriteLane.Numstat
import BirdCode.WriteLane.SingleWrite
import BirdCode.WriteLane.SingleWriteHistory
import BirdCode.WriteLane.SingleWriteCalls
import BirdCode.WriteLane.SingleWriteRuns
