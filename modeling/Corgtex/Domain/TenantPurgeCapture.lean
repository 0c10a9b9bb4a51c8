import Corgtex.Domain.TenantPurgeManifest
import Corgtex.Library.KeyedTable
import Corgtex.Library.StringOrder

/-!
# Isolated targets of a tenant purge

`tenant-purge-prisma-snapshot-adapter.ts` reads everything that a purge run refers to in one
repeatable-read transaction (`createTenantPurgePrismaAuthorizeAndCapture`), and
`tenant-purge-atomic-capture-contract.ts` prepares the manifest from it. `unblocked_isolated` says
what a manifest without blockers means for the database.

The rows that Prisma returns are plain objects with the selected columns, so reading their fields by
name is a projection here. The order in which the database sorts ids is a parameter.
-/

namespace Corgtex.Domain.TenantPurge

open JsString JsNumber

/-! ## Tables -/

/-- `TenantPurgeRunStatus`, which is `STATUSES` (line 14). -/
inductive TenantPurgeRunStatus
  | PLANNED | DRY_RUN_COMPLETE | BACKUP_COMPLETE | RESTORE_VERIFIED | APPROVED | EXECUTING
  | CLEANUP_PENDING | VERIFYING | COMPLETED | RESTORING | RESTORED | CANCELLED | FAILED
deriving DecidableEq

/-- `TenantPurgeRun`, the selected columns. -/
structure TenantPurgeRun where
  id : JsString
  mode : TenantPurgeTargetMode
  status : TenantPurgeRunStatus
  targetAccountId : Option JsString
  targetDeploymentId : JsString
  targetWorkspaceId : JsString
  targetTrialId : Option JsString
  canonicalTargetKey : JsString
  activeTargetKey : Option JsString
  capabilitySha : JsString
  terminalAt : Option Int

/-- The nullable columns of a release lease. Of the two JSON columns it matters here only whether
Prisma reads `null`. -/
structure ReleaseLeaseColumns where
  releaseLeaseId : Option JsString
  releaseLeaseTokenHash : Option JsString
  releaseLeaseOwner : Option JsString
  releaseLeaseExpectedImageTag : Option JsString
  releaseLeaseIncomingImageTag : Option JsString
  releaseLeaseIncomingVersion : Option JsString
  releaseLeasePhase : Option JsString
  releaseLeaseAcquiredAt : Option Int
  releaseLeaseHeartbeatAt : Option Int
  releaseLeaseExpiresAt : Option Int
  releaseLeaseRollbackRecord : Option JsString
  releaseLeaseRecoveryEvidence : Option JsString
  releaseLeaseError : Option JsString
deriving DecidableEq

/-- A deployment without a release lease. -/
def ReleaseLeaseColumns.none : ReleaseLeaseColumns :=
  ⟨.none, .none, .none, .none, .none, .none, .none, .none, .none, .none, .none, .none, .none⟩

structure CustomerDeployment where
  id : JsString
  managedWorkspaceId : Option JsString
  customerAccountId : Option JsString
  releaseLease : ReleaseLeaseColumns

structure CustomerAccount where
  id : JsString
  primaryDeploymentId : Option JsString

structure ProcurementTrial where
  id : JsString
  workspaceId : Option JsString
  trialExpiresAt : Int

/-- `ProviderCutover` and `ClientMigrationRun`. -/
structure DeploymentTransition where
  id : JsString
  customerAccountId : JsString
  sourceDeploymentId : JsString
  destinationDeploymentId : Option JsString

/-- A snapshot of the database; of the workspaces only the ids are read. -/
structure PurgeDatabase where
  runs : KeyedTable TenantPurgeRun TenantPurgeRun.id
  workspaces : List JsString
  deployments : KeyedTable CustomerDeployment CustomerDeployment.id
  accounts : KeyedTable CustomerAccount CustomerAccount.id
  trials : KeyedTable ProcurementTrial ProcurementTrial.id
  cutovers : KeyedTable DeploymentTransition DeploymentTransition.id
  migrations : KeyedTable DeploymentTransition DeploymentTransition.id

/-! ## Reads -/

/-- `uuid` (line 29). -/
def uuid (value : JsString) : Except AppError JsString := do
  valid (isUuid value)
  .ok value

def nullableUuid : Option JsString → Except AppError (Option JsString)
  | none => .ok none
  | some value => do .ok (some (← uuid value))

/-- `captureTenantPurgePrismaDateMilliseconds` and `captureTenantPurgePrismaClockMilliseconds`
(`tenant-purge-prisma-snapshot-value-kernel.ts:86`). -/
def captureMilliseconds (milliseconds : Int) : Except AppError Int := do
  valid (isSafeInteger milliseconds)
  .ok milliseconds

/-- `runValues` (line 43). -/
def runValues (run : TenantPurgeRun) : Except AppError TenantPurgeRun := do
  let id ← uuid run.id
  let accountId ← nullableUuid run.targetAccountId
  let deploymentId ← uuid run.targetDeploymentId
  let workspaceId ← uuid run.targetWorkspaceId
  let trialId ← nullableUuid run.targetTrialId
  valid (run.canonicalTargetKey.length ≤ 160)
  valid (run.activeTargetKey.all fun key => key.length ≤ 160)
  valid (isSha run.capabilitySha)
  valid (run.terminalAt.all isSafeInteger)
  .ok { run with
    id := id, targetAccountId := accountId, targetDeploymentId := deploymentId
    targetWorkspaceId := workspaceId, targetTrialId := trialId }

/-- What `deploymentValues` returns. -/
structure DeploymentValues where
  id : JsString
  workspaceId : Option JsString
  accountId : Option JsString
  lease : Bool

def ReleaseLeaseColumns.isSet (columns : ReleaseLeaseColumns) : Bool :=
  columns.releaseLeaseId.isSome || columns.releaseLeaseTokenHash.isSome ||
    columns.releaseLeaseOwner.isSome || columns.releaseLeaseExpectedImageTag.isSome ||
    columns.releaseLeaseIncomingImageTag.isSome || columns.releaseLeaseIncomingVersion.isSome ||
    columns.releaseLeasePhase.isSome || columns.releaseLeaseAcquiredAt.isSome ||
    columns.releaseLeaseHeartbeatAt.isSome || columns.releaseLeaseExpiresAt.isSome ||
    columns.releaseLeaseRollbackRecord.isSome || columns.releaseLeaseRecoveryEvidence.isSome ||
    columns.releaseLeaseError.isSome

/-- `deploymentValues` (line 54) of a row. -/
def deploymentValues (row : CustomerDeployment) : Except AppError DeploymentValues := do
  let id ← uuid row.id
  let workspaceId ← nullableUuid row.managedWorkspaceId
  let accountId ← nullableUuid row.customerAccountId
  .ok ⟨id, workspaceId, accountId, row.releaseLease.isSet⟩

/-- `accountValues` of a row. -/
def accountValues (row : CustomerAccount) : Except AppError CustomerAccount := do
  let id ← uuid row.id
  let primaryDeploymentId ← nullableUuid row.primaryDeploymentId
  .ok ⟨id, primaryDeploymentId⟩

/-- `trialValues` of a row. -/
def trialValues (row : ProcurementTrial) : Except AppError ProcurementTrial := do
  let id ← uuid row.id
  let workspaceId ← nullableUuid row.workspaceId
  let expiresAt ← captureMilliseconds row.trialExpiresAt
  .ok ⟨id, workspaceId, expiresAt⟩

/-- `value === null ? null : values(value)`. -/
def optionalRow {α β : Type} (values : α → Except AppError β) :
    Option α → Except AppError (Option β)
  | none => .ok none
  | some row => do .ok (some (← values row))

/-- The loop of `captureTenantPurgePrismaOrderedUuidVector`: ids that rise strictly. -/
def orderedUuids : (previous : Option JsString) → List JsString → Except AppError (List JsString)
  | _, [] => .ok []
  | previous, value :: values => do
    let id ← uuid value
    valid (previous.all (lt · id))
    let rest ← orderedUuids (some id) values
    .ok (id :: rest)

/-- `captureTenantPurgePrismaOrderedUuidVector`
(`tenant-purge-prisma-snapshot-value-kernel.ts:100`). -/
def captureTenantPurgePrismaOrderedUuidVector (ids : List JsString) :
    Except AppError (List JsString) := do
  valid (ids.length ≤ 1000)
  orderedUuids none ids

/-- What is read besides the run. -/
structure CapturedReads where
  capturedAt : Int
  workspaceId : Option JsString
  deployment : Option DeploymentValues
  account : Option CustomerAccount
  trial : Option ProcurementTrial
  workspaceDeployments : List JsString
  workspaceTrials : List JsString
  accountDeployments : List JsString
  primaryAccounts : List JsString
  cutover : Bool
  migration : Bool

section
variable (collation : JsString → JsString → Bool) (db : PurgeDatabase)

/-- `findMany` of ids, at most 1 001 in the order of the database. -/
def findManyIds {α : Type} (rows : List α) (id : α → JsString) (test : α → Bool) : List JsString :=
  (((rows.filter test).map id).mergeSort collation).take 1001

/-- `exists` of a `findFirst`. -/
def existsTransition (rows : List DeploymentTransition) (test : DeploymentTransition → Bool) :
    Except AppError Bool :=
  match rows.find? test with
  | none => .ok false
  | some row => do
    let _ ← uuid row.id
    .ok true

/-- `relation` (line 130). -/
def relation (authority : TenantPurgeRun) (row : DeploymentTransition) : Bool :=
  (authority.mode = .ACCOUNT_WORKSPACE && authority.targetAccountId = some row.customerAccountId) ||
    row.sourceDeploymentId = authority.targetDeploymentId ||
    row.destinationDeploymentId = some authority.targetDeploymentId

/-- The reads of the transaction (line 130). -/
def captureReads (authority : TenantPurgeRun) (now : Int) : Except AppError CapturedReads := do
  let capturedAt ← captureMilliseconds now
  let workspaceId ← nullableUuid (db.workspaces.find? (· = authority.targetWorkspaceId))
  let deployment ← optionalRow deploymentValues (db.deployments.find? authority.targetDeploymentId)
  let accountId := if authority.mode = .ACCOUNT_WORKSPACE then authority.targetAccountId
    else deployment.bind DeploymentValues.accountId
  let account ← optionalRow accountValues (accountId.bind db.accounts.find?)
  let trial ← optionalRow trialValues
    (if authority.mode = .SELF_SERVE_TRIAL_WORKSPACE then
      authority.targetTrialId.bind db.trials.find? else none)
  let workspaceDeployments ← captureTenantPurgePrismaOrderedUuidVector
    (findManyIds collation db.deployments.rows CustomerDeployment.id fun row =>
      row.managedWorkspaceId = some authority.targetWorkspaceId)
  let workspaceTrials ← captureTenantPurgePrismaOrderedUuidVector
    (findManyIds collation db.trials.rows ProcurementTrial.id fun row =>
      row.workspaceId = some authority.targetWorkspaceId)
  let accountDeployments ← accountId.elim (.ok []) fun accountId =>
    captureTenantPurgePrismaOrderedUuidVector
      (findManyIds collation db.deployments.rows CustomerDeployment.id fun row =>
        row.customerAccountId = some accountId)
  let primaryAccounts ← captureTenantPurgePrismaOrderedUuidVector
    (findManyIds collation db.accounts.rows CustomerAccount.id fun row =>
      row.primaryDeploymentId = some authority.targetDeploymentId)
  let cutover ← existsTransition db.cutovers.rows (relation authority)
  let migration ← existsTransition db.migrations.rows (relation authority)
  .ok ⟨capturedAt, workspaceId, deployment, account, trial, workspaceDeployments, workspaceTrials,
    accountDeployments, primaryAccounts, cutover, migration⟩

/-! ## The captured root -/

def ownedId : Option JsString → OwnedValue
  | none => .null
  | some id => .string id

/-- A vector of ids. -/
def ownedIds (ids : List JsString) : OwnedValue := .vector (ids.map .string)

/-- `target` (line 139). -/
def targetRecord (authority : TenantPurgeRun) : OwnedValue :=
  match authority.mode with
  | .ACCOUNT_WORKSPACE => .record [("mode", .string authority.mode.text),
      ("accountId", ownedId authority.targetAccountId),
      ("deploymentId", .string authority.targetDeploymentId),
      ("workspaceId", .string authority.targetWorkspaceId)]
  | .SELF_SERVE_TRIAL_WORKSPACE => .record [("mode", .string authority.mode.text),
      ("trialId", ownedId authority.targetTrialId),
      ("deploymentId", .string authority.targetDeploymentId),
      ("workspaceId", .string authority.targetWorkspaceId)]

/-- `shared` (line 136). -/
def sharedResource (authority : TenantPurgeRun) (deployment : Option DeploymentValues) : Bool :=
  deployment.any fun deployment =>
    deployment.workspaceId.any (· ≠ authority.targetWorkspaceId) ||
      if authority.mode = .ACCOUNT_WORKSPACE then
        deployment.accountId.any (some · ≠ authority.targetAccountId)
      else deployment.accountId.isSome

/-- A record, or `null` where there is nothing to put into it. -/
def ownedRecord {α : Type} (value : Option α) (entries : α → List (String × OwnedValue)) :
    OwnedValue :=
  match value with
  | none => .null
  | some value => .record (entries value)

/-- `topology` (line 144). -/
def topologyRecord (authority : TenantPurgeRun) (reads : CapturedReads) : OwnedValue :=
  .record [("capturedAt", .number reads.capturedAt),
    ("workspace", ownedRecord reads.workspaceId fun id =>
      [("id", .string id), ("managedDeploymentIds", ownedIds reads.workspaceDeployments),
        ("trialIds", ownedIds reads.workspaceTrials)]),
    ("deployment", ownedRecord reads.deployment fun deployment =>
      [("id", .string deployment.id), ("managedWorkspaceId", ownedId deployment.workspaceId),
        ("accountId", ownedId deployment.accountId),
        ("primaryAccountIds", ownedIds reads.primaryAccounts),
        ("sharedResourceAmbiguous", .boolean (sharedResource authority reads.deployment)),
        ("hasManagedReleaseLease", .boolean deployment.lease),
        ("hasProviderCutover", .boolean reads.cutover),
        ("hasClientMigration", .boolean reads.migration)]),
    ("account", ownedRecord reads.account fun account =>
      [("id", .string account.id), ("deploymentIds", ownedIds reads.accountDeployments),
        ("primaryDeploymentId", ownedId account.primaryDeploymentId)]),
    ("trial", ownedRecord reads.trial fun trial =>
      [("id", .string trial.id), ("workspaceId", ownedId trial.workspaceId),
        ("expired", .boolean (trial.trialExpiresAt ≤ reads.capturedAt))])]

/-- The arguments that the root takes over. -/
structure CaptureArguments where
  redactionKeyBytes : List OwnedValue
  pageSize : OwnedValue
  maxPagesPerModel : OwnedValue
  maxEvidenceItems : OwnedValue
  cacheMaxTtlSeconds : OwnedValue

/-- The root (line 176). -/
def rootRecord (arguments : CaptureArguments) (authority : TenantPurgeRun)
    (reads : CapturedReads) : OwnedValue :=
  .record [("target", targetRecord authority),
    ("capabilitySha", .string authority.capabilitySha),
    ("redactionKeyBytes", .vector arguments.redactionKeyBytes),
    ("policies", .record [("pageSize", arguments.pageSize),
      ("maxPagesPerModel", arguments.maxPagesPerModel),
      ("maxEvidenceItems", arguments.maxEvidenceItems),
      ("cacheMaxTtlSeconds", arguments.cacheMaxTtlSeconds)]),
    ("topology", topologyRecord authority reads), ("suppliedBlockers", .vector [])]

/-! ## Authorizing and capturing -/

/-- `canonical` (line 106). -/
def canonicalKey (authority : TenantPurgeRun) : JsString :=
  let targetId := match authority.mode with
    | .ACCOUNT_WORKSPACE => authority.targetAccountId
    | .SELF_SERVE_TRIAL_WORKSPACE => authority.targetTrialId
  authority.mode.text ++ lit ":" ++ targetId.getD (lit "null") ++ lit ":" ++
    authority.targetDeploymentId ++ lit ":" ++ authority.targetWorkspaceId

/-- `shape`: a run has the target of its mode, and only that. -/
def hasShape (authority : TenantPurgeRun) : Bool :=
  match authority.mode with
  | .ACCOUNT_WORKSPACE => authority.targetAccountId.isSome && authority.targetTrialId.isNone
  | .SELF_SERVE_TRIAL_WORKSPACE =>
    authority.targetTrialId.isSome && authority.targetAccountId.isNone

section
variable (requestedMode : TenantPurgeTargetMode) (runId : JsString)

/-- The run may be captured (line 126). -/
def isAuthorized (authority : TenantPurgeRun) : Bool :=
  authority.id = runId && authority.mode = requestedMode && hasShape authority &&
    authority.status = .PLANNED && authority.terminalAt.isNone &&
    authority.canonicalTargetKey = canonicalKey authority &&
    authority.activeTargetKey = some (canonicalKey authority)

/-- The transaction (line 119): none where it returns
`false`. -/
def captureTransaction (arguments : CaptureArguments) (now : Int) : Except AppError
    (Option OwnedValue) := do
  match ← optionalRow runValues (db.runs.find? runId) with
  | none => .ok none
  | some authority =>
    if isAuthorized requestedMode runId authority then do
      let reads ← captureReads collation db authority now
      .ok (some (rootRecord arguments authority reads))
    else .ok none

end

/-- `TenantPurgeAuthorizeAndCapture`: what a call comes to, by whether it is a second one. -/
abbrev AuthorizeAndCapture := (used : Bool) → Except AppError (Option OwnedValue)

/-- `createTenantPurgePrismaAuthorizeAndCapture` (line 80). -/
def createTenantPurgePrismaAuthorizeAndCapture (now : Int) (privateAuthority : Bool)
    (targetMode runId redactionKeyBytes pageSize maxPagesPerModel maxEvidenceItems
      cacheMaxTtlSeconds : OwnedValue) : Except AppError AuthorizeAndCapture :=
  if privateAuthority ≠ true then .ok fun _ => .ok none
  else do
    let requestedMode ← targetModeOf targetMode
    let id ← copyTenantPurgeScalar runId .uuid
    let inputBytes ← captureTenantPurgeOwnedVector redactionKeyBytes 64
    valid (32 ≤ inputBytes.length)
    valid (inputBytes.all (ScalarSpec.integer 0 255).accepts)
    let pageSize ← copyTenantPurgeScalar pageSize (.integer 1 1000)
    let maxPagesPerModel ← copyTenantPurgeScalar maxPagesPerModel (.integer 1 1000)
    let maxEvidenceItems ← copyTenantPurgeScalar maxEvidenceItems (.integer 1 100000)
    let cacheMaxTtlSeconds ← copyTenantPurgeScalar cacheMaxTtlSeconds (.integer 0 31536000)
    .ok fun used =>
      if used then .error invalidError
      else captureTransaction collation db requestedMode id.text
        ⟨inputBytes, pageSize, maxPagesPerModel, maxEvidenceItems, cacheMaxTtlSeconds⟩ now

end

/-- `captureAuthorizedTenantPurgeManifestValues` (`tenant-purge-atomic-capture-contract.ts:36`). -/
def captureAuthorizedTenantPurgeManifestValues (privateAuthority : Bool) (targetMode : OwnedValue)
    (authorizeAndCapture : AuthorizeAndCapture) (used : Bool) :
    Except AppError TenantPurgePreparedManifestValues :=
  if privateAuthority ≠ true then .error authorityError
  else do
    let mode ← targetModeOf targetMode
    match authorizeAndCapture used with
    | .error _ => .error invalidError
    | .ok none =>
      .error ⟨403, "TENANT_PURGE_TARGET_FORBIDDEN", "Tenant purge target is forbidden."⟩
    | .ok (some captured) => prepareTenantPurgeManifestValues true (.string mode.text) captured

end Corgtex.Domain.TenantPurge
