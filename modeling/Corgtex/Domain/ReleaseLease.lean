import Corgtex.Domain.Errors
import Corgtex.Library.JsString

/-!
# The lease of a managed release

`control-plane-release-lease.ts`: a release of a deployment runs under a lease
on its row. A lease is `RESERVED` first, records how to roll the release back, and is `MUTATING`
from then on; a release that fails is `RECOVERY_REQUIRED`, and a lease that has expired there is
taken over by a recovery. The holder names its lease by the id, a secret and the fence of the row.

Every request is one transaction that holds the row lock, so it is a function of the row. What the
transaction reads elsewhere is `ReleaseReads`: the clock of the database, the newest events, and the
answers of the checks that read other columns and tables. Each of those may reject at any time.
-/

namespace Corgtex.Domain.ReleaseLease

open JsString

def MAX_INT : Nat := 2147483647

def TTL_MS : Nat := 5 * 60 * 1000

/-! ## Data -/

/-- `CustomerDeploymentReleaseLeasePhase`. -/
inductive Phase where
  | RESERVED
  | MUTATING
  | RECOVERY_REQUIRED
deriving DecidableEq, Repr

/-- `LeaseHandle` (line 27). -/
structure LeaseHandle where
  deploymentId : JsString
  leaseId : JsString
  capability : JsString
  fence : Nat
deriving DecidableEq

structure AzureTarget where
  subscriptionId : JsString
  resourceGroup : JsString
  acrName : JsString
  acrServer : JsString
  webAppName : JsString
  workerAppName : JsString
deriving DecidableEq

structure PreviousContainer where
  containerName : JsString
  image : JsString
  readyRevision : JsString
  templateDigest : JsString
deriving DecidableEq

structure PreviousRelease where
  releaseVersion : Option JsString
  web : PreviousContainer
  worker : PreviousContainer
deriving DecidableEq

structure RecoveryImage where
  image : JsString
  digest : JsString
deriving DecidableEq

structure CompatibleRecovery where
  gitSha : JsString
  imageTag : JsString
  releaseVersion : JsString
  web : RecoveryImage
  worker : RecoveryImage
  schemaCompatibilityApprovalDigest : JsString
  exclusive : Bool
deriving DecidableEq

/-- What a payload has from version 2 on; the digests of the exclusive activation from version 3. -/
structure RecoveryPlan where
  schemaApprovalDigest : JsString
  compatibleRecovery : CompatibleRecovery
  configurationDigests : Option (JsString × JsString)
deriving DecidableEq

/-- `ManagedAzureRollbackPayload` (`managed-azure-recovery-payload.ts:27`). -/
structure ManagedAzureRollbackPayload where
  target : AzureTarget
  previous : PreviousRelease
  webDigest : JsString
  workerDigest : JsString
  plan : Option RecoveryPlan
deriving DecidableEq

/-- The identity is kept as its JSON text. -/
structure ReleaseProvenance where
  deploymentKind : JsString
  identity : JsString
deriving DecidableEq

/-- What a release is for: the image tags and the incoming version. -/
structure ReleaseTags where
  expectedImageTag : JsString
  incomingImageTag : JsString
  incomingVersion : JsString
deriving DecidableEq

/-- A rollback record; it has a provenance just when its version is 2. -/
structure RollbackEnvelope where
  provenance : Option ReleaseProvenance
  deploymentId : JsString
  leaseId : JsString
  fence : Nat
  tags : ReleaseTags
  payload : ManagedAzureRollbackPayload
deriving DecidableEq

/-- `RECOVERY_STAGES` (line 23). -/
inductive RecoveryStage where
  | INVENTORY | PREFLIGHT | IMPORT | WEB | WORKER | READBACK | AUTH | DIAGNOSTIC | OBSERVATION
  | ROLLBACK | FENCING
deriving DecidableEq, Repr

inductive IntentRole where
  | web
  | worker
deriving DecidableEq, Repr

/-- `ManagedReleaseRecoveryIntent` (`managed-azure-recovery-intent.ts:25`). -/
structure ManagedReleaseRecoveryIntent where
  role : IntentRole
  originatingLeaseId : JsString
  originatingFence : Nat
  appName : JsString
  predecessorRevisionName : JsString
  predecessorTemplateDigest : JsString
  gitSha : JsString
  imageDigest : JsString
  templateBaseDigest : JsString
  revisionSuffix : JsString
  templateDigest : JsString
  intentDigest : JsString
deriving DecidableEq

/-- `StoredRecoveryEvidence`; it has intents just when its version is 2. -/
structure RecoveryEvidence where
  stage : RecoveryStage
  code : JsString
  intents : Option (List ManagedReleaseRecoveryIntent)
deriving DecidableEq

/-- The lease columns of a row that has a lease. The slot check of the table
(`20260810190000_customer_deployment_release_lease`) makes all of them null together. -/
structure Lease where
  id : JsString
  tokenHash : JsString
  owner : JsString
  tags : ReleaseTags
  phase : Phase
  acquiredAt : Nat
  heartbeatAt : Nat
  expiresAt : Nat
  rollbackRecord : Option RollbackEnvelope
  recoveryEvidence : Option RecoveryEvidence
  error : Option JsString
deriving DecidableEq

structure CustomerDeployment where
  id : JsString
  releaseImageTag : Option JsString
  releaseVersion : Option JsString
  lastReleaseCheck : Option Nat
  lastHealthCheck : Option Nat
  lastHealthStatus : Option JsString
  lastHealthError : Option JsString
  releaseLeaseFence : Nat
  lease : Option Lease

/-- An event with the members of its `meta` that are read again. -/
structure CustomerDeploymentEvent where
  action : String
  createdAt : Nat
  leaseId : Option JsString
  fence : Option Nat
  owner : Option JsString
  tags : Option ReleaseTags
deriving DecidableEq

def ORIGINATING_LEASE_EVENT_ACTION : String := "control_plane.release_lease.rollback_recorded"

/-- A row and its events, in the order in which they were written. -/
structure LeaseStore where
  row : CustomerDeployment
  events : List CustomerDeploymentEvent

structure AcquisitionProof where
  provenance : Option ReleaseProvenance
  targetDigest : Option JsString
  recoveryAuthorityDigest : Option JsString

/-- What one transaction reads besides the row. `createdAt` is the time of the events that it
writes, and `newest` is what `originatingRollbackEnvelope` finds. The other fields are checks:
`acquirable` those of an acquisition, `admission` those of `requireAdmission`, `binding` those of
`assertManagedAzureTargetBinding` and `assertProtectedApprovalBinding`, `payload` and `stored` the
validation of a new and of a stored rollback record, `intent` that of an intent, and `constraints`
those of the table. -/
structure ReleaseReads where
  databaseNow : Nat
  createdAt : Nat
  newest : List CustomerDeploymentEvent
  acquirable : Except AppError Unit
  admission : Bool → Except AppError AcquisitionProof
  binding : ManagedAzureRollbackPayload → Except AppError Unit
  payload : ManagedAzureRollbackPayload → Except AppError Unit
  stored : RollbackEnvelope → Except AppError Unit
  intent : ManagedReleaseRecoveryIntent → Except AppError Unit
  evidence : Except AppError Unit
  constraints : Except AppError Unit

/-! ## Reading -/

/-- `reject` (line 45), where `condition` does not hold. -/
def require (condition : Bool) (code : String) (status : Nat := 409) : Except AppError Unit :=
  invariant condition status code "Managed release lease request was rejected."

def isLowerHex (u : UInt16) : Bool := (0x30 ≤ u && u ≤ 0x39) || (0x61 ≤ u && u ≤ 0x66)

/-- `UUID` (line 17). -/
def isUuid (s : JsString) : Bool :=
  match s.split 0x2D with
  | [a, b, c, d, e] =>
    [a, b, c, d, e].map List.length = [8, 4, 4, 4, 12] &&
      [a, b, c, d, e].all (·.all isLowerHex) && c.head?.any (fun u => 0x31 ≤ u && u ≤ 0x38) &&
      d.head?.any (fun u => u = 0x38 || u = 0x39 || u = 0x61 || u = 0x62)
  | _ => false

/-- `validateHandle` (line 62). -/
def validateHandle (handle : LeaseHandle) : Except AppError Unit :=
  require (isUuid handle.deploymentId && isUuid handle.leaseId &&
    0 < handle.capability.length && handle.capability.length ≤ 512 &&
    0 < handle.fence && handle.fence ≤ MAX_INT) "MANAGED_RELEASE_INVALID_INPUT" 400

/-- `lock` (line 349). -/
def lock (row : CustomerDeployment) (deploymentId : JsString) : Except AppError Unit :=
  require (row.id = deploymentId) "MANAGED_RELEASE_DEPLOYMENT_NOT_FOUND" 404

/-- `owned` (line 419): the lease, if the handle names it. -/
def owned (sha256 : JsString → JsString) (reads : ReleaseReads) (row : CustomerDeployment)
    (handle : LeaseHandle) (allowExpired : Bool) : Except AppError Lease := do
  validateHandle handle
  lock row handle.deploymentId
  match row.lease with
  | none => .error ⟨409, "MANAGED_RELEASE_LEASE_CONFLICT",
      "Managed release lease request was rejected."⟩
  | some lease =>
    require (lease.id = handle.leaseId && lease.tokenHash = sha256 handle.capability &&
      row.releaseLeaseFence = handle.fence) "MANAGED_RELEASE_LEASE_CONFLICT"
    require (allowExpired || reads.databaseNow < lease.expiresAt) "MANAGED_RELEASE_LEASE_EXPIRED"
    .ok lease

/-- `storedRollbackEnvelope` (line 284). -/
def storedRollbackEnvelope (reads : ReleaseReads) (row : CustomerDeployment) (lease : Lease) :
    Except AppError RollbackEnvelope :=
  match lease.rollbackRecord with
  | none => .error ⟨409, "MANAGED_RELEASE_LEASE_STATE_CONFLICT",
      "Managed release lease request was rejected."⟩
  | some record => do
    require (record.deploymentId = row.id && isUuid record.leaseId && 1 ≤ record.fence &&
      record.fence ≤ MAX_INT && record.tags = lease.tags) "MANAGED_RELEASE_LEASE_STATE_CONFLICT"
    require ((record.leaseId = lease.id && record.fence = row.releaseLeaseFence) ||
      (lease.phase = .RECOVERY_REQUIRED && record.fence ≤ row.releaseLeaseFence))
      "MANAGED_RELEASE_LEASE_STATE_CONFLICT"
    reads.stored record
    .ok record

/-- `originatingLeaseFromEvent` (line 309). -/
def originatingLeaseFromEvent (row : CustomerDeployment) (lease : Lease)
    (event : CustomerDeploymentEvent) : Option (JsString × Nat) :=
  match event.leaseId, event.fence with
  | some leaseId, some fence =>
    if event.tags = some lease.tags ∧ isUuid leaseId ∧ 1 ≤ fence ∧ fence ≤ row.releaseLeaseFence
    then some (leaseId, fence) else none
  | _, _ => none

/-- `originatingRollbackEnvelope` (line 319): in a recovery, the newest event of a rollback record
for this release says which lease the record is from. -/
def originatingRollbackEnvelope (reads : ReleaseReads) (row : CustomerDeployment) (lease : Lease) :
    Except AppError RollbackEnvelope := do
  let envelope ← storedRollbackEnvelope reads row lease
  if lease.phase ≠ .RECOVERY_REQUIRED then return envelope
  match reads.newest.findSome? (originatingLeaseFromEvent row lease) with
  | some (leaseId, fence) => return { envelope with leaseId, fence }
  | none => return envelope

/-- `rollbackEnvelope` (line 330). -/
def rollbackEnvelope (row : CustomerDeployment) (lease : Lease)
    (payload : ManagedAzureRollbackPayload) (leaseId : JsString) (fence : Nat)
    (provenance : Option ReleaseProvenance) : RollbackEnvelope where
  provenance
  deploymentId := row.id
  leaseId
  fence
  tags := lease.tags
  payload

/-- `requireAdmission` (line 396). -/
def requireAdmission (reads : ReleaseReads) (row : CustomerDeployment) (lease : Lease)
    (recovery : Bool) : Except AppError AcquisitionProof := do
  let proof ← reads.admission recovery
  match lease.rollbackRecord with
  | none => .ok proof
  | some _ => do
    let _ ← storedRollbackEnvelope reads row lease
    .ok proof

/-! ## Writing -/

/-- `event` (line 440). -/
def eventOf (reads : ReleaseReads) (action : String) (fence : Nat) (lease : Lease) :
    CustomerDeploymentEvent where
  action
  createdAt := reads.createdAt
  leaseId := some lease.id
  fence := some fence
  owner := some lease.owner
  tags := some lease.tags

/-- An update of the row and the event that goes with it. -/
def LeaseStore.commit (store : LeaseStore) (reads : ReleaseReads) (row : CustomerDeployment)
    (event : CustomerDeploymentEvent) : Except AppError LeaseStore := do
  reads.constraints
  .ok ⟨row, store.events ++ [event]⟩

/-- `view` (line 437). -/
structure LeaseView where
  deploymentId : JsString
  leaseId : JsString
  fence : Nat
  phase : Phase
  expiresAt : Nat
deriving DecidableEq

def view (row : CustomerDeployment) (lease : Lease) : LeaseView :=
  ⟨row.id, lease.id, row.releaseLeaseFence, lease.phase, lease.expiresAt⟩

/-- The handle that a new lease is named by. -/
def LeaseView.handle (view : LeaseView) (capability : JsString) : LeaseHandle :=
  ⟨view.deploymentId, view.leaseId, capability, view.fence⟩

/-- `clearLeaseData` (line 458). -/
def CustomerDeployment.clearLease (row : CustomerDeployment) : CustomerDeployment :=
  { row with lease := none }

/-! ## Requests -/

structure AcquireParams where
  deploymentId : JsString
  tags : ReleaseTags
  owner : JsString
  expectedTargetDigest : Option JsString

/-- `acquireManagedReleaseLease` (line 586). `leaseId` and `capability` are what `randomUUID` and
`randomOpaqueToken` return. -/
def acquireManagedReleaseLease (sha256 : JsString → JsString) (reads : ReleaseReads)
    (store : LeaseStore) (params : AcquireParams) (leaseId capability : JsString) :
    Except AppError (LeaseStore × LeaseView) := do
  require (isUuid params.deploymentId &&
    params.tags.incomingImageTag ≠ params.tags.expectedImageTag) "MANAGED_RELEASE_INVALID_INPUT" 400
  let row := store.row
  lock row params.deploymentId
  reads.acquirable
  require (row.lease.all fun lease => lease.expiresAt ≤ reads.databaseNow)
    "MANAGED_RELEASE_LEASE_CONFLICT"
  require (row.lease.all fun lease => lease.phase = .RESERVED) "MANAGED_RELEASE_RECOVERY_REQUIRED"
  require (row.releaseImageTag = some params.tags.expectedImageTag)
    "MANAGED_RELEASE_BASELINE_CONFLICT"
  require (row.releaseLeaseFence < MAX_INT) "MANAGED_RELEASE_LEASE_CONFLICT"
  let lease : Lease :=
    { id := leaseId
      tokenHash := sha256 capability
      owner := params.owner
      tags := params.tags
      phase := .RESERVED
      acquiredAt := reads.databaseNow
      heartbeatAt := reads.databaseNow
      expiresAt := reads.databaseNow + TTL_MS
      rollbackRecord := none
      recoveryEvidence := none
      error := none }
  let updated := { row with releaseLeaseFence := row.releaseLeaseFence + 1, lease := some lease }
  let store ← store.commit reads updated (eventOf reads
    (if row.lease.isSome then "control_plane.release_lease.reservation_replaced"
      else "control_plane.release_lease.acquired") updated.releaseLeaseFence lease)
  .ok (store, view updated lease)

section
variable (sha256 : JsString → JsString) (reads : ReleaseReads) (store : LeaseStore)
  (handle : LeaseHandle)

/-- `heartbeatManagedReleaseLease` (line 631), which writes no event. -/
def heartbeatManagedReleaseLease (recovery : Bool) : Except AppError (LeaseStore × LeaseView) := do
  let row := store.row
  let lease ← owned sha256 reads row handle false
  let _ ← requireAdmission reads row lease recovery
  reads.constraints
  let updated := { lease with
    heartbeatAt := reads.databaseNow
    expiresAt := reads.databaseNow + TTL_MS }
  .ok ({ store with row := { row with lease := some updated } }, view row updated)

/-- `recordManagedReleaseRollbackRecord` (line 755). -/
def recordManagedReleaseRollbackRecord (payload : ManagedAzureRollbackPayload) :
    Except AppError (LeaseStore × LeaseView) := do
  reads.payload payload
  let row := store.row
  let lease ← owned sha256 reads row handle false
  let proof ← requireAdmission reads row lease false
  reads.binding payload
  require (lease.phase = .RESERVED) "MANAGED_RELEASE_LEASE_STATE_CONFLICT"
  match lease.rollbackRecord with
  | some _ => do
    let stored ← storedRollbackEnvelope reads row lease
    require (stored.payload = payload) "MANAGED_RELEASE_LEASE_STATE_CONFLICT"
    .ok (store, view row lease)
  | none => do
    let envelope := rollbackEnvelope row lease payload lease.id row.releaseLeaseFence
      proof.provenance
    let store ← store.commit reads
      { row with lease := some { lease with rollbackRecord := some envelope } }
      (eventOf reads ORIGINATING_LEASE_EVENT_ACTION row.releaseLeaseFence lease)
    .ok (store, view row lease)

/-- `beginManagedReleaseMutation` (line 775). -/
def beginManagedReleaseMutation : Except AppError (LeaseStore × LeaseView) := do
  let row := store.row
  let lease ← owned sha256 reads row handle false
  let _ ← requireAdmission reads row lease false
  if lease.phase = .MUTATING then
    let stored ← storedRollbackEnvelope reads row lease
    reads.binding stored.payload
    return (store, view row lease)
  require (lease.phase = .RESERVED) "MANAGED_RELEASE_LEASE_STATE_CONFLICT"
  require (row.releaseImageTag = some lease.tags.expectedImageTag)
    "MANAGED_RELEASE_BASELINE_CONFLICT"
  require lease.rollbackRecord.isSome "MANAGED_RELEASE_ROLLBACK_RECORD_REQUIRED"
  let stored ← storedRollbackEnvelope reads row lease
  reads.binding stored.payload
  let updated := { lease with
    phase := .MUTATING
    heartbeatAt := reads.databaseNow
    expiresAt := reads.databaseNow + TTL_MS }
  let store ← store.commit reads { row with lease := some updated }
    (eventOf reads "control_plane.release_lease.mutation_begun" row.releaseLeaseFence updated)
  return (store, view row updated)

/-- `abortManagedReleaseLease` (line 791). -/
def abortManagedReleaseLease : Except AppError LeaseStore := do
  let row := store.row
  let lease ← owned sha256 reads row handle true
  let _ ← requireAdmission reads row lease true
  require (lease.phase = .RESERVED) "MANAGED_RELEASE_LEASE_STATE_CONFLICT"
  store.commit reads row.clearLease
    (eventOf reads "control_plane.release_lease.aborted" row.releaseLeaseFence lease)

/-- The two phases of a release that has begun. -/
def Phase.isUnderway (phase : Phase) : Bool := phase = .MUTATING || phase = .RECOVERY_REQUIRED

/-- `ROLLBACK_RESERVATION` (line 18). -/
def isRollbackReservation (version : JsString) : Bool :=
  match version.split 0x3A with
  | [kind, id] => kind = .lit "rollback-archive" && isUuid id
  | _ => false

/-- The release that a finished one leaves. -/
def CustomerDeployment.released (row : CustomerDeployment) (now : Nat)
    (imageTag version : JsString) : CustomerDeployment :=
  { row.clearLease with
    releaseImageTag := some imageTag
    releaseVersion := some version
    lastReleaseCheck := some now
    lastHealthCheck := some now
    lastHealthStatus := some (.lit "ok")
    lastHealthError := none }

/-- `finalizeManagedReleaseSuccess` (line 802). -/
def finalizeManagedReleaseSuccess : Except AppError LeaseStore := do
  let row := store.row
  let lease ← owned sha256 reads row handle false
  let _ ← requireAdmission reads row lease false
  require lease.phase.isUnderway "MANAGED_RELEASE_LEASE_STATE_CONFLICT"
  let _ ← storedRollbackEnvelope reads row lease
  require (!isRollbackReservation lease.tags.incomingVersion) "MANAGED_RELEASE_LEASE_STATE_CONFLICT"
  store.commit reads
    (row.released reads.databaseNow lease.tags.incomingImageTag lease.tags.incomingVersion)
    (eventOf reads "control_plane.release_lease.succeeded" row.releaseLeaseFence lease)

/-- The evidence of a compatible recovery; its digest is only written down. -/
structure RecoveryAcceptance where
  gitSha : JsString
  imageTag : JsString
  releaseVersion : JsString
  webDigest : JsString
  workerDigest : JsString
deriving DecidableEq

/-- `finalizeManagedReleaseCompatibleRecovery` (line 825). -/
def finalizeManagedReleaseCompatibleRecovery (accepted : RecoveryAcceptance) :
    Except AppError LeaseStore := do
  let row := store.row
  let lease ← owned sha256 reads row handle false
  let _ ← requireAdmission reads row lease true
  require lease.phase.isUnderway "MANAGED_RELEASE_LEASE_STATE_CONFLICT"
  let envelope ← originatingRollbackEnvelope reads row lease
  match envelope.payload.plan with
  | none => .error ⟨409, "MANAGED_RELEASE_LEASE_STATE_CONFLICT",
      "Managed release lease request was rejected."⟩
  | some plan => do
    reads.evidence
    let recovery := plan.compatibleRecovery
    require (accepted = ⟨recovery.gitSha, recovery.imageTag, recovery.releaseVersion,
      recovery.web.digest, recovery.worker.digest⟩) "MANAGED_RELEASE_LEASE_STATE_CONFLICT"
    store.commit reads
      (row.released reads.databaseNow recovery.imageTag recovery.releaseVersion)
      { action := "control_plane.release_lease.compatible_recovery_succeeded"
        createdAt := reads.createdAt
        leaseId := some lease.id
        fence := some row.releaseLeaseFence
        owner := none
        tags := none }

/-- `finalizeManagedReleaseRollback` (line 859). The evidence is checked against the row and the
record, where it is given. -/
def finalizeManagedReleaseRollback (evidence : Bool) : Except AppError LeaseStore := do
  let row := store.row
  let lease ← owned sha256 reads row handle false
  let _ ← requireAdmission reads row lease true
  require lease.phase.isUnderway "MANAGED_RELEASE_LEASE_STATE_CONFLICT"
  let envelope ← originatingRollbackEnvelope reads row lease
  require envelope.payload.plan.isNone "MANAGED_RELEASE_LEASE_STATE_CONFLICT"
  checkIf evidence reads.evidence
  store.commit reads row.clearLease
    (eventOf reads "control_plane.release_lease.rolled_back" row.releaseLeaseFence lease)

/-! ## Recovery -/

/-- `/^[A-Z][A-Z0-9_]{2,63}$/`. -/
def isRecoveryCode (code : JsString) : Bool :=
  3 ≤ code.length && code.length ≤ 64 && code.head?.any (fun u => 0x41 ≤ u && u ≤ 0x5A) &&
    code.all fun u => (0x41 ≤ u && u ≤ 0x5A) || (0x30 ≤ u && u ≤ 0x39) || u = 0x5F

def RecoveryPlan.image (plan : RecoveryPlan) : IntentRole → RecoveryImage
  | .web => plan.compatibleRecovery.web
  | .worker => plan.compatibleRecovery.worker

def AzureTarget.appName (target : AzureTarget) : IntentRole → JsString
  | .web => target.webAppName
  | .worker => target.workerAppName

/-- `canonicalizeManagedReleaseRecoveryIntent` (`managed-azure-recovery-intent.ts:82`), with the
code of its conflicts. -/
def canonicalizeManagedReleaseRecoveryIntent (intent : ManagedReleaseRecoveryIntent)
    (envelope : RollbackEnvelope) (conflict : String) :
    Except AppError ManagedReleaseRecoveryIntent :=
  match envelope.payload.plan with
  | none => .error ⟨409, conflict, "Managed release lease request was rejected."⟩
  | some plan => do
    reads.intent intent
    require (intent.originatingLeaseId = envelope.leaseId &&
      intent.originatingFence = envelope.fence &&
      intent.appName = envelope.payload.target.appName intent.role &&
      intent.gitSha = plan.compatibleRecovery.gitSha &&
      intent.imageDigest = (plan.image intent.role).digest) conflict
    .ok intent

/-- `validateStoredRecoveryEvidence` (line 86). -/
def validateStoredRecoveryEvidence (evidence : RecoveryEvidence) (envelope : RollbackEnvelope) :
    Except AppError RecoveryEvidence := do
  require (isRecoveryCode evidence.code) "MANAGED_RELEASE_LEASE_STATE_CONFLICT"
  match evidence.intents with
  | none => .ok evidence
  | some intents => do
    require (intents.length ≤ 2) "MANAGED_RELEASE_LEASE_STATE_CONFLICT"
    let intents ← intents.mapM fun intent => canonicalizeManagedReleaseRecoveryIntent reads intent
      envelope "MANAGED_RELEASE_LEASE_STATE_CONFLICT"
    require (intents.length ≤ 1 || intents.map (·.role) = [.web, .worker])
      "MANAGED_RELEASE_LEASE_STATE_CONFLICT"
    .ok { evidence with intents := some intents }

/-- The evidence of a lease, validated. -/
def currentEvidence (lease : Lease) (envelope : RollbackEnvelope) :
    Except AppError (Option RecoveryEvidence) :=
  match lease.recoveryEvidence with
  | none => .ok none
  | some evidence => do
    let evidence ← validateStoredRecoveryEvidence reads evidence envelope
    .ok (some evidence)

/-- `recoveryEvidenceForStageCode` (line 103): the recorded intents stay. -/
def recoveryEvidenceForStageCode (lease : Lease) (envelope : RollbackEnvelope)
    (stage : RecoveryStage) (code : JsString) : Except AppError RecoveryEvidence := do
  let current ← currentEvidence reads lease envelope
  .ok { stage, code, intents := current.bind RecoveryEvidence.intents }

/-- `recoveryEvidenceWithRecordedIntent` (line 112). -/
def recoveryEvidenceWithRecordedIntent (current : Option RecoveryEvidence)
    (intent : ManagedReleaseRecoveryIntent) : Except AppError (Bool × RecoveryEvidence) :=
  let intents := (current.bind RecoveryEvidence.intents).getD []
  let recorded := fun intents => ({
    stage := .ROLLBACK
    code := .lit "RECOVERY_WRITE_INTENT_RECORDED"
    intents := some intents } : RecoveryEvidence)
  match intents.find? fun candidate => candidate.role = intent.role with
  | some existing => do
    require (existing = intent) "MANAGED_RELEASE_RECOVERY_INTENT_CONFLICT"
    .ok (false, recorded intents)
  | none => do
    let updatedIntents := if intent.role = .web then intent :: intents else intents ++ [intent]
    require (updatedIntents.length ≤ 2) "MANAGED_RELEASE_RECOVERY_INTENT_CONFLICT"
    .ok (true, recorded updatedIntents)

/-- A lease that needs recovery, for another `TTL_MS`. -/
def Lease.recovering (lease : Lease) (now : Nat) (evidence : RecoveryEvidence) : Lease :=
  { lease with
    phase := .RECOVERY_REQUIRED
    heartbeatAt := now
    expiresAt := now + TTL_MS
    recoveryEvidence := some evidence
    error := some evidence.code }

/-- `recordManagedReleaseRecoveryIntent` (line 884). -/
def recordManagedReleaseRecoveryIntent (intentInput : ManagedReleaseRecoveryIntent) :
    Except AppError (LeaseStore × LeaseView × Bool × ManagedReleaseRecoveryIntent) := do
  let row := store.row
  let lease ← owned sha256 reads row handle false
  let _ ← requireAdmission reads row lease true
  require (lease.phase.isUnderway && lease.rollbackRecord.isSome)
    "MANAGED_RELEASE_LEASE_STATE_CONFLICT"
  let envelope ← originatingRollbackEnvelope reads row lease
  require envelope.payload.plan.isSome "MANAGED_RELEASE_LEASE_STATE_CONFLICT"
  reads.binding envelope.payload
  let intent ← canonicalizeManagedReleaseRecoveryIntent reads intentInput envelope
    "MANAGED_RELEASE_RECOVERY_INTENT_CONFLICT"
  let current ← currentEvidence reads lease envelope
  let (created, evidence) ← recoveryEvidenceWithRecordedIntent current intent
  let updated := lease.recovering reads.databaseNow evidence
  let store ← store.commit reads { row with lease := some updated }
    (eventOf reads "control_plane.release_lease.recovery_intent_recorded" row.releaseLeaseFence
      updated)
  .ok (store, view row updated, created, intent)

/-- `markManagedReleaseRecoveryRequired` (line 918). Every phase is one of `ACTIVE_PHASES`. -/
def markManagedReleaseRecoveryRequired (stage : RecoveryStage) (code : JsString) :
    Except AppError (LeaseStore × LeaseView × RecoveryEvidence) := do
  require (isRecoveryCode code) "MANAGED_RELEASE_INVALID_INPUT" 400
  let row := store.row
  let lease ← owned sha256 reads row handle true
  let _ ← requireAdmission reads row lease true
  require lease.rollbackRecord.isSome "MANAGED_RELEASE_LEASE_STATE_CONFLICT"
  let envelope ← originatingRollbackEnvelope reads row lease
  let evidence ← recoveryEvidenceForStageCode reads lease envelope stage code
  let updated := lease.recovering reads.databaseNow evidence
  let store ← store.commit reads { row with lease := some updated }
    (eventOf reads "control_plane.release_lease.recovery_required" row.releaseLeaseFence updated)
  .ok (store, view row updated, evidence)

structure ClaimParams where
  deploymentId : JsString
  expectedLeaseId : JsString
  expectedFence : Nat
  owner : JsString

/-- `claimManagedReleaseRecovery` (line 940). -/
def claimManagedReleaseRecovery (params : ClaimParams) (leaseId capability : JsString) :
    Except AppError (LeaseStore × LeaseView) := do
  require (isUuid params.deploymentId && isUuid params.expectedLeaseId &&
    0 < params.expectedFence && params.expectedFence < MAX_INT) "MANAGED_RELEASE_INVALID_INPUT" 400
  let row := store.row
  lock row params.deploymentId
  match row.lease with
  | none => .error ⟨409, "MANAGED_RELEASE_LEASE_CONFLICT",
      "Managed release lease request was rejected."⟩
  | some lease => do
    let _ ← requireAdmission reads row lease true
    require (lease.id = params.expectedLeaseId && row.releaseLeaseFence = params.expectedFence)
      "MANAGED_RELEASE_LEASE_CONFLICT"
    require (lease.phase.isUnderway && lease.expiresAt ≤ reads.databaseNow &&
      lease.rollbackRecord.isSome) "MANAGED_RELEASE_RECOVERY_REQUIRED"
    let storedEnvelope ← originatingRollbackEnvelope reads row lease
    let claimed : Lease :=
      { lease with
        id := leaseId
        tokenHash := sha256 capability
        owner := params.owner
        phase := .RECOVERY_REQUIRED
        acquiredAt := reads.databaseNow
        heartbeatAt := reads.databaseNow
        expiresAt := reads.databaseNow + TTL_MS
        rollbackRecord := some (rollbackEnvelope row lease storedEnvelope.payload
          storedEnvelope.leaseId storedEnvelope.fence storedEnvelope.provenance) }
    let updated :=
      { row with releaseLeaseFence := row.releaseLeaseFence + 1, lease := some claimed }
    let store ← store.commit reads updated
      (eventOf reads "control_plane.release_lease.recovery_claimed" updated.releaseLeaseFence
        claimed)
    .ok (store, view updated claimed)

end

end Corgtex.Domain.ReleaseLease
