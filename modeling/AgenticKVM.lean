import AgenticKVM.Lib.Except
import AgenticKVM.Lib.Prog
import AgenticKVM.Lib.Runs
import AgenticKVM.Lib.Json
import AgenticKVM.Lib.JsonReader
import AgenticKVM.Lib.JsonPrefix
import AgenticKVM.Lib.HashChain
import AgenticKVM.Lib.Lines
import AgenticKVM.Lib.Regex
import AgenticKVM.Python
import AgenticKVM.Redaction
import AgenticKVM.Decisions
import AgenticKVM.Capabilities
import AgenticKVM.Policy
import AgenticKVM.Fingerprints
import AgenticKVM.Approvals
import AgenticKVM.Grants
import AgenticKVM.Clearance
import AgenticKVM.ActVerifier
import AgenticKVM.ActHttpClient
import AgenticKVM.Engine
import AgenticKVM.EngineSteps
import AgenticKVM.EngineExecution
import AgenticKVM.TowerClearance
import AgenticKVM.Soundness
import AgenticKVM.ApprovalRuns
import AgenticKVM.ConversationalGrants
import AgenticKVM.ClearanceBinding
import AgenticKVM.AuditTraces
import AgenticKVM.RedactionLaws
import AgenticKVM.RedactionPaths
import AgenticKVM.PiKVMProvider
import AgenticKVM.AuditCompleteness
import AgenticKVM.AuditLog
import AgenticKVM.StorableTrees
import AgenticKVM.ParameterBinding
import AgenticKVM.AuditChain
import AgenticKVM.AuditCheckpoint
import AgenticKVM.AuditExport
import AgenticKVM.StoredRedaction
import AgenticKVM.MutationGate
import AgenticKVM.MutationTransports
import AgenticKVM.DestructiveScope
import AgenticKVM.PolicyFile
import AgenticKVM.SqliteAudit
import AgenticKVM.AuditWriters
import AgenticKVM.ApprovalCache
import AgenticKVM.ApprovalQueue
import AgenticKVM.ProviderRegistry
import AgenticKVM.TargetRegistry
import AgenticKVM.McpRouter
import AgenticKVM.ConfigLoader
import AgenticKVM.ConfigKeys
import AgenticKVM.McpHost
import AgenticKVM.Lib.JsonLookup
import AgenticKVM.Lib.JsonWriter
import AgenticKVM.JsonPayloads
import AgenticKVM.HostCalls
import AgenticKVM.LocalApprovals
import AgenticKVM.HostResults
import AgenticKVM.HostRuns
import AgenticKVM.HostDecisions
import AgenticKVM.HostResumption
import AgenticKVM.HostAtomicity
import AgenticKVM.QueueDecisions
import AgenticKVM.ActWire
import AgenticKVM.Lib.CachedReads
import AgenticKVM.PiKVMTransport
import AgenticKVM.RedfishTransport
import AgenticKVM.RedfishReads
import AgenticKVM.ObserveRedaction
import AgenticKVM.RedfishEvidence
import AgenticKVM.ObservedPayloads
import AgenticKVM.ObservedReads
import AgenticKVM.Lib.Url
import AgenticKVM.TargetUrls
import AgenticKVM.GrantCodec
import AgenticKVM.JsonlVerifiers
import AgenticKVM.SqliteVerifiers
import AgenticKVM.QueueStore
import AgenticKVM.ExportedLogs
import AgenticKVM.CheckpointCodec
import AgenticKVM.ResultValidation
import AgenticKVM.HostValidity
import AgenticKVM.HostReturns
import AgenticKVM.Playbooks
import AgenticKVM.ClearanceAuthority
import AgenticKVM.ApprovalBroker
import AgenticKVM.PiKVMCalibration
import AgenticKVM.PinnedClients
import AgenticKVM.RepeatedRedaction
import AgenticKVM.AuditHistories
import AgenticKVM.RuntimeTrails
import AgenticKVM.RuntimeContainment
import AgenticKVM.LiveMutations
import AgenticKVM.MockProvider
import AgenticKVM.MockTargets
import AgenticKVM.SignerTrust
import AgenticKVM.Cli
import AgenticKVM.LogExports
import AgenticKVM.PlaneLogs
