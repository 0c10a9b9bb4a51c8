import Corgtex.Shared.RateLimiter
import Corgtex.Shared.Crypto
import Corgtex.Domain.WorkItemPage
import Corgtex.Domain.FinanceReconciliation
import Corgtex.Workflows.Retries
import Corgtex.Workflows.DeriveJobs
import Corgtex.Domain.WorkItemPrivacy
import Corgtex.Domain.GoalHistory
import Corgtex.Domain.MemberAccess
import Corgtex.Domain.MemberIdentity
import Corgtex.Domain.SourceCommitLocks
import Corgtex.Domain.ActionClaims
import Corgtex.Domain.LineageReads
import Corgtex.Domain.SqlIngestionFencing
import Corgtex.Domain.ApprovalCounts
import Corgtex.Domain.ApprovalRaces
import Corgtex.Domain.ProposalLifecycle
import Corgtex.Knowledge.ChunkScan
import Corgtex.Domain.StripeDeliveries
import Corgtex.Domain.UsageBilling
import Corgtex.Workflows.WebhookRetries
import Corgtex.Domain.CrmPurges
import Corgtex.Domain.OAuthTokens
import Corgtex.Domain.TenantPurgeIsolation
import Corgtex.Domain.McpConnections
import Corgtex.Domain.MeetingTranscriptChunks
import Corgtex.Connectors.TableNames
import Corgtex.Domain.MeetingBlockContext
import Corgtex.Models.StreamingJson
import Corgtex.Domain.ModuleAccessRequests
import Corgtex.Domain.TenantPurgeOwnedCopies
import Corgtex.Domain.TrialBilling
import Corgtex.Domain.ProcurementTrialsOnce
import Corgtex.Domain.DuplicateGuardScan
import Corgtex.Domain.DuplicateJsonKeys
import Corgtex.Domain.McpNetworkAddresses
import Corgtex.Domain.DuplicateGuardVerdicts
import Corgtex.Agents.FinanceReportAmountsExact
import Corgtex.Domain.RecoveryRuns
import Corgtex.Domain.NewspaperPolls
import Corgtex.Domain.MeetingSeries
import Corgtex.Knowledge.ChunkText
import Corgtex.Domain.TranscriptState
import Corgtex.Domain.ArchiveRestore
import Corgtex.Domain.ArchiveListing
import Corgtex.Domain.ProviderCutoverTransition
import Corgtex.Workflows.BoundedConcurrency
import Corgtex.Domain.PermissionSnapshot
import Corgtex.Domain.TranscriptMerge
import Corgtex.Domain.BoundedPlainJson
import Corgtex.Domain.SourcePermissionParents
