import Corgtex.Domain.PermissionEpochs

/-!
# Attempts to ingest a SQL source

`sql-ingestion-attempt.ts`: workers ingest a source by attempts. The claim row
of the source names the attempt that owns it, with a generation and a lease; the attempt has a row
of its own, a log, and a publication that is staged under it. A worker holds a token for its
attempt, which is good for as long as the claim, the attempt and the source are as they were.

Every request is one transaction that holds the lock of the source's head, so it is a function of
the rows of the source. A trigger of the source table revokes the claim whenever the configuration
changes.
-/

namespace Corgtex.Domain.SqlIngestion

open JsString (lit)

def SQL_INGESTION_LEASE_MS : Nat := 300000

/-! ## Rows -/

/-- Who may read a source: the policy columns of `ExternalDataSource`. -/
structure SourcePolicy where
  accessDomain : JsString
  informationCategory : JsString
  isRestricted : Bool
  allowedRoleIds : List JsString
  allowedCircleIds : List JsString
deriving DecidableEq

/-- The columns of `ExternalDataSource` that the trigger compares. -/
structure SourceConfiguration where
  driverType : JsString
  connectionStringEnc : JsString
  selectedTables : List JsString
  cursorColumn : Option JsString
  isActive : Bool
  archivedAt : Option Nat
  policy : SourcePolicy
deriving DecidableEq

structure ExternalDataSource where
  configuration : SourceConfiguration
  lastCursorValue : Option JsString
  lastSyncError : Option JsString
deriving DecidableEq

inductive ClaimStatus where
  | IDLE | RUNNING | SUCCEEDED | FAILED | REVOKED
deriving DecidableEq

/-- `SqlIngestionSourceClaim`. -/
structure SourceClaim where
  generation : Nat
  activeAttemptId : Option JsString
  ownerNonce : Option JsString
  configurationFingerprint : Option JsString
  leaseExpiresAt : Option Nat
  status : ClaimStatus
deriving DecidableEq

inductive AttemptStatus where
  | RUNNING | RECLAIMED | REVOKED | FAILED | SUCCEEDED
deriving DecidableEq

/-- What a token and the row of its attempt have in common, and no statement changes
(`pun68_sql_attempt_birth`). -/
structure AttemptBirth where
  id : JsString
  generation : Nat
  ownerNonce : JsString
  configurationFingerprint : JsString
  expectedCursor : Option JsString
  sourcePermissionEpoch : JsString
  originalPermissions : PermissionEpochProof
  logId : JsString
deriving DecidableEq

/-- `SqlIngestionAttempt`, the row. -/
structure StoredAttempt where
  birth : AttemptBirth
  status : AttemptStatus
  leaseExpiresAt : Nat
  error : Option JsString
  completedAt : Option Nat
deriving DecidableEq

abbrev StoredAttempt.id (attempt : StoredAttempt) : JsString := attempt.birth.id

structure ExternalDataSyncLog where
  id : JsString
  sqlAttemptId : Option JsString
  error : Option JsString
  completedAt : Option Nat
deriving DecidableEq

inductive PublicationStatus where
  | PREPARING | PREPARED | COMMITTED
deriving DecidableEq

structure SqlKnowledgePublication where
  id : JsString
  attemptId : JsString
  generation : Nat
  configurationFingerprint : JsString
  status : PublicationStatus
  committedAt : Option Nat
deriving DecidableEq

/-- The rows of one source. -/
structure SqlStore where
  source : Option ExternalDataSource
  claim : Option SourceClaim
  attempts : KeyedTable StoredAttempt StoredAttempt.id
  logs : KeyedTable ExternalDataSyncLog ExternalDataSyncLog.id
  publications : KeyedTable SqlKnowledgePublication SqlKnowledgePublication.id

/-- What a transaction reads besides the rows: the clock, three times in its course, and the
permission epochs. `captured` is the merged proof of a claim, `held` what `capturePermissionEpochs`
gives for the entries of a token, `epoch` that of the source, and `proofCurrent` the answer of
`isArtifactPermissionEpochProofCurrent`. -/
structure SqlReads where
  now : Nat
  assertedAt : Nat
  finishedAt : Nat
  captured : Except AppError PermissionEpochProof
  held : PermissionEpochProof
  epoch : Option JsString
  proofCurrent : Bool

/-! ## Checks -/

/-- `SQL_INGESTION_ATTEMPT_CONFLICT`, where `condition` does not hold. -/
def admission (condition : Bool) (message : String) : Except AppError Unit :=
  invariant condition 409 "SQL_INGESTION_ATTEMPT_CONFLICT" message

/-- `SQL_INGESTION_FENCE_LOST`, where `condition` does not hold. -/
def fence (condition : Bool) (message : String) : Except AppError Unit :=
  invariant condition 409 "SQL_INGESTION_FENCE_LOST" message

/-- The error of a unique index. -/
def uniqueViolation : AppError := ⟨500, "P2002", "Unique constraint failed"⟩

/-- The ids of the source, and the hash. -/
structure SourceKey where
  workspaceId : JsString
  sourceId : JsString
  sha256 : JsString → JsString

/-- `sqlIngestionConfigurationFingerprint` (line 22). -/
def sqlIngestionConfigurationFingerprint (key : SourceKey) (source : SourceConfiguration) :
    JsString :=
  key.sha256 (Json.stringify (fun _ : Nat => []) (.object [
    (lit "sourceId", .string key.sourceId), (lit "workspaceId", .string key.workspaceId),
    (lit "driverType", .string source.driverType),
    (lit "connectionStringEnc", .string source.connectionStringEnc),
    (lit "cursorColumn", (source.cursorColumn.map Json.string).getD .null),
    (lit "selectedTables", .array (source.selectedTables.map .string))]))

section
variable (key : SourceKey) (reads : SqlReads) (store : SqlStore)

section
variable (token : AttemptBirth)

/-- The conditions of `assertSqlIngestionAttemptCurrent` on the source. -/
def sourceIsCurrent (cursor : Option JsString) : Bool :=
  store.source.any fun source =>
    source.configuration.isActive && source.configuration.archivedAt.isNone &&
      sqlIngestionConfigurationFingerprint key source.configuration =
        token.configurationFingerprint && source.lastCursorValue = cursor

/-- Its conditions on the claim and on the row of the attempt. -/
def attemptIsCurrent : Bool :=
  store.claim.any fun claim => claim.status = .RUNNING && claim.activeAttemptId = some token.id &&
    claim.generation = token.generation && claim.ownerNonce = some token.ownerNonce &&
    claim.configurationFingerprint = some token.configurationFingerprint &&
    claim.leaseExpiresAt.any (reads.assertedAt < ·) &&
    (store.attempts.find? token.id).any fun stored => stored.status = .RUNNING &&
      stored.birth.generation = token.generation && stored.birth.ownerNonce = token.ownerNonce &&
      stored.birth.configurationFingerprint = token.configurationFingerprint &&
      stored.birth.expectedCursor = token.expectedCursor &&
      stored.birth.sourcePermissionEpoch = token.sourcePermissionEpoch &&
      stored.birth.logId = token.logId && claim.leaseExpiresAt = some stored.leaseExpiresAt

/-- `assertSqlIngestionAttemptCurrent` (line 111); `cursor` is the published cursor where one is
declared, and the expected one otherwise. -/
def assertSqlIngestionAttemptCurrent (cursor : Option JsString) : Except AppError Unit := do
  fence (sourceIsCurrent key store token cursor && attemptIsCurrent reads store token &&
    reads.epoch = some token.sourcePermissionEpoch)
    "SQL source attempt, configuration or lease is no longer current."
  fence (((store.attempts.find? token.id).any fun stored =>
    stored.birth.originalPermissions = token.originalPermissions) && reads.proofCurrent)
    "SQL source policy changed after admission."

/-- `lockSqlIngestionAttempt` (line 204). -/
def lockSqlIngestionAttempt : Except AppError Unit := do
  fence (reads.held = token.originalPermissions)
    "SQL source policy changed before its publication epoch union was held."
  assertSqlIngestionAttemptCurrent key reads store token token.expectedCursor

end

/-! ## Requests -/

structure ClaimRequest where
  expectedConfigurationFingerprint : JsString
  expectedCursor : Option JsString
  logId : JsString

/-- The parameters of a claim, checked (line 49). -/
def ClaimRequest.isValid (request : ClaimRequest) : Bool :=
  request.expectedConfigurationFingerprint.length = 64 &&
    request.expectedConfigurationFingerprint.all (fun u =>
      (0x30 ≤ u && u ≤ 0x39) || (0x61 ≤ u && u ≤ 0x66)) &&
    [key.workspaceId, key.sourceId, request.logId].all (fun id =>
      0 < id.length && id.length ≤ 100) &&
    request.expectedCursor.all (·.length ≤ 1000000)

/-- The claim row of `upsert` (line 65), made where there is none. -/
def SqlStore.claimRow : SourceClaim :=
  store.claim.getD ⟨0, none, none, none, none, .IDLE⟩

/-- An attempt that runs no longer. -/
def StoredAttempt.stop (attempt : StoredAttempt) (status : AttemptStatus) (now : Nat) :
    StoredAttempt :=
  { attempt with status, completedAt := some now }

/-- `claimSqlIngestionAttempt` (line 46). `attemptId` and `ownerNonce` are what `randomUUID`
returns. -/
def claimSqlIngestionAttempt (request : ClaimRequest) (attemptId ownerNonce : JsString) :
    Except AppError (SqlStore × AttemptBirth) := do
  admission (request.isValid key) "SQL ingestion claim parameters are unavailable."
  admission (store.source.any fun source => source.configuration.isActive &&
    source.configuration.archivedAt.isNone && source.configuration.driverType = lit "postgres" &&
    sqlIngestionConfigurationFingerprint key source.configuration =
      request.expectedConfigurationFingerprint &&
    source.lastCursorValue = request.expectedCursor) "SQL source changed before claim admission."
  admission ((store.logs.find? request.logId).any fun log =>
    log.sqlAttemptId.isNone && log.completedAt.isNone) "SQL attempt log is unavailable."
  let claim := store.claimRow
  admission (claim.status ≠ .RUNNING || claim.leaseExpiresAt.all (· ≤ reads.now))
    "Another current SQL ingestion attempt owns this source."
  let attempts := store.attempts.updateMany
    (fun attempt => claim.activeAttemptId = some attempt.id && attempt.status = .RUNNING)
    (·.stop .RECLAIMED reads.now) fun _ => rfl
  let proof ← reads.captured
  match proof.entries.find? fun entry =>
    entry.kind = lit "ExternalDataSource" && entry.id = key.sourceId with
  | none => .error ⟨500, "TypeError", "Cannot read properties of undefined (reading 'epoch')"⟩
  | some entry =>
    let birth : AttemptBirth :=
      { id := attemptId
        generation := claim.generation + 1
        ownerNonce
        configurationFingerprint := request.expectedConfigurationFingerprint
        expectedCursor := request.expectedCursor
        sourcePermissionEpoch := entry.epoch
        originalPermissions := proof
        logId := request.logId }
    let attempt : StoredAttempt :=
      { birth
        status := .RUNNING
        leaseExpiresAt := reads.now + SQL_INGESTION_LEASE_MS
        error := none
        completedAt := none }
    if hold : attempt.id ∈ attempts.rows.map StoredAttempt.id then .error uniqueViolation
    else if attempts.rows.any (·.birth.generation = birth.generation) ||
        store.logs.rows.any (·.sqlAttemptId = some attemptId) then
      .error uniqueViolation
    else
      .ok ({ store with
        claim := some
          { generation := birth.generation
            activeAttemptId := some attemptId
            ownerNonce := some ownerNonce
            configurationFingerprint := some request.expectedConfigurationFingerprint
            leaseExpiresAt := some attempt.leaseExpiresAt
            status := .RUNNING }
        attempts := attempts.insert attempt hold
        logs := store.logs.updateMany (fun log =>
          log.id = request.logId && log.sqlAttemptId.isNone && log.completedAt.isNone)
          (fun log => { log with sqlAttemptId := some attemptId }) fun _ => rfl }, birth)

/-- `renewSqlIngestionAttempt` (line 138). -/
def renewSqlIngestionAttempt (token : AttemptBirth) : Except AppError SqlStore := do
  assertSqlIngestionAttemptCurrent key reads store token token.expectedCursor
  let leaseExpiresAt := reads.finishedAt + SQL_INGESTION_LEASE_MS
  .ok { store with
    claim := store.claim.map fun claim => { claim with leaseExpiresAt := some leaseExpiresAt }
    attempts := store.attempts.update token.id
      (fun attempt => { attempt with leaseExpiresAt }) fun _ => rfl }

/-- `status: {in: ["RUNNING", "REVOKED", "RECLAIMED"]}`. -/
def AttemptStatus.mayFail (status : AttemptStatus) : Bool :=
  status = .RUNNING || status = .REVOKED || status = .RECLAIMED

/-- The row of an attempt under the columns of its token that `failSqlIngestionAttempt` names. -/
def StoredAttempt.matches (attempt : StoredAttempt) (token : AttemptBirth) : Bool :=
  attempt.id = token.id && attempt.birth.generation = token.generation &&
    attempt.birth.ownerNonce = token.ownerNonce && attempt.birth.logId = token.logId &&
    attempt.birth.configurationFingerprint = token.configurationFingerprint

/-- What a failure may remove: what was staged under the token and is not committed. -/
def SqlKnowledgePublication.isUncommitted (publication : SqlKnowledgePublication)
    (token : AttemptBirth) : Bool :=
  publication.attemptId = token.id && publication.generation = token.generation &&
    publication.configurationFingerprint = token.configurationFingerprint &&
    (publication.status = .PREPARING || publication.status = .PREPARED) &&
    publication.committedAt.isNone

/-- The claim that a failure releases. -/
def SourceClaim.isOwnedBy (claim : SourceClaim) (token : AttemptBirth) : Bool :=
  claim.status = .RUNNING && claim.activeAttemptId = some token.id &&
    claim.generation = token.generation && claim.ownerNonce = some token.ownerNonce

/-- A claim that no attempt owns any more. -/
def SourceClaim.release (claim : SourceClaim) (status : ClaimStatus) : SourceClaim :=
  { claim with
    status
    activeAttemptId := none
    ownerNonce := none
    leaseExpiresAt := none }

/-- `ownsCurrentSource` (line 161): a lost fence is an answer, and any other error is thrown. -/
def ownsSource (token : AttemptBirth) : Except AppError Bool :=
  match assertSqlIngestionAttemptCurrent key reads store token token.expectedCursor with
  | .ok () => .ok true
  | .error failure =>
    if failure.code = "SQL_INGESTION_FENCE_LOST" then .ok false else .error failure

/-- `failSqlIngestionAttempt` (line 153). -/
def failSqlIngestionAttempt (token : AttemptBirth) (errorText logId : JsString) :
    Except AppError SqlStore := do
  fence (logId = token.logId) "SQL failure log belongs to another attempt."
  let error := errorText.take 2000
  let ownsCurrentSource ← ownsSource key reads store token
  let failed := store.attempts.rows.any fun attempt =>
    attempt.matches token && attempt.status.mayFail
  let terminal := failed || store.attempts.rows.any fun attempt =>
    attempt.matches token && attempt.status = .FAILED
  .ok {
    source := if ownsCurrentSource then
        store.source.map fun source => { source with lastSyncError := some error }
      else store.source
    claim := if failed then
        store.claim.map fun claim => if claim.isOwnedBy token then claim.release .FAILED else claim
      else store.claim
    attempts := store.attempts.updateMany
      (fun attempt => attempt.matches token && attempt.status.mayFail)
      (fun attempt => { attempt.stop .FAILED reads.now with error := some error }) fun _ => rfl
    logs := if failed then
        store.logs.updateMany (fun log => log.id = token.logId &&
          log.sqlAttemptId = some token.id && log.completedAt.isNone)
          (fun log => { log with error := some error, completedAt := some reads.now }) fun _ => rfl
      else store.logs
    publications := if terminal then
        store.publications.filter fun publication => !publication.isUncommitted token
      else store.publications }

/-- `completeSqlIngestionAttempt` (line 219). -/
def completeSqlIngestionAttempt (token : AttemptBirth) (publishedCursor : Option JsString) :
    Except AppError SqlStore := do
  assertSqlIngestionAttemptCurrent key reads store token publishedCursor
  .ok { store with
    claim := store.claim.map (·.release .SUCCEEDED)
    attempts := store.attempts.update token.id (·.stop .SUCCEEDED reads.finishedAt) fun _ => rfl }

/-- The two in one transaction: `lockSqlIngestionAttempt` (line 204), then the completion, which
reads `reads'`. -/
def lockAndCompleteSqlIngestionAttempt (reads' : SqlReads) (token : AttemptBirth)
    (publishedCursor : Option JsString) : Except AppError SqlStore := do
  lockSqlIngestionAttempt key reads store token
  completeSqlIngestionAttempt key reads' store token publishedCursor

/-! ## Publications -/

section
variable (token : AttemptBirth) (publicationId : JsString)

/-- The staging of a publication (`sql-publication.ts:63`). -/
def stagePublication : Except AppError SqlStore := do
  lockSqlIngestionAttempt key reads store token
  let publication : SqlKnowledgePublication :=
    { id := publicationId
      attemptId := token.id
      generation := token.generation
      configurationFingerprint := token.configurationFingerprint
      status := .PREPARING
      committedAt := none }
  if hold : publication.id ∈ store.publications.rows.map SqlKnowledgePublication.id then
    .error uniqueViolation
  else if store.publications.rows.any (·.attemptId = token.id) then .error uniqueViolation
  else .ok { store with publications := store.publications.insert publication hold }

/-- The end of a preparation (`sql-publication.ts:116`), of the token's own publication. -/
def sealPublication : Except AppError SqlStore := do
  lockSqlIngestionAttempt key reads store token
  .ok { store with
    publications := store.publications.updateMany
      (fun publication => publication.id = publicationId && publication.attemptId = token.id &&
        publication.status = .PREPARING)
      (fun publication => { publication with status := .PREPARED }) fun _ => rfl }

end

/-- The transaction of `publishPreparedSqlKnowledgeAttempt` (`sql-publication.ts:168`) with the
checkpoint of the runner (`runner.ts:82`): lock, cursor and log, publication, completion. `reads'`
is what the completion reads. -/
def publishSqlIngestionAttempt (reads' : SqlReads) (token : AttemptBirth)
    (publicationId : JsString) (publishedCursor : Option JsString) : Except AppError SqlStore := do
  lockSqlIngestionAttempt key reads store token
  fence (store.publications.rows.any fun publication => publication.id = publicationId &&
    publication.attemptId = token.id && publication.status = .PREPARED)
    "SQL publication identity changed."
  let published := { store with
    source := store.source.map fun source =>
      { source with lastCursorValue := publishedCursor, lastSyncError := none }
    logs := store.logs.update token.logId
      (fun log => { log with error := none, completedAt := some reads.finishedAt }) fun _ => rfl
    publications := store.publications.updateMany
      (fun publication => publication.id = publicationId && publication.attemptId = token.id)
      (fun publication =>
        { publication with status := .COMMITTED, committedAt := some reads.finishedAt })
      fun _ => rfl }
  completeSqlIngestionAttempt key reads' published token publishedCursor

/-! ## The source -/

/-- The claim after `pun68_sql_source_claim_transition`, once for every image of the row. -/
def SourceClaim.revoke (claim : Option SourceClaim) : SourceClaim where
  generation := (claim.map SourceClaim.generation).getD 0 + 1
  activeAttemptId := none
  ownerNonce := none
  configurationFingerprint := none
  leaseExpiresAt := none
  status := .REVOKED

/-- A write of the source by anyone else, with the trigger: an update of the configuration runs it
for both images, an insert or a delete for one. The logs go with the source. -/
def writeSource (source : Option ExternalDataSource) : SqlStore :=
  let written := { store with
    source
    logs := if source.isSome then store.logs else .empty }
  if source.map ExternalDataSource.configuration =
      store.source.map ExternalDataSource.configuration then written
  else { written with
    claim := some (if source.isSome && store.source.isSome then
        .revoke (some (.revoke store.claim))
      else .revoke store.claim)
    attempts := store.attempts.updateMany (fun attempt => attempt.status = .RUNNING)
      (·.stop .REVOKED reads.now) fun _ => rfl }

/-- `externalDataSyncLog.create` (`runner.ts:34`). -/
def openLog (logId : JsString) : Except AppError SqlStore :=
  let log : ExternalDataSyncLog := ⟨logId, none, none, none⟩
  if hold : log.id ∈ store.logs.rows.map ExternalDataSyncLog.id then .error uniqueViolation
  else .ok { store with logs := store.logs.insert log hold }

end

end Corgtex.Domain.SqlIngestion
