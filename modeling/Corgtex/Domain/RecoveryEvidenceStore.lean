import Corgtex.Domain.RecoveryIntent
import Corgtex.Domain.ReleaseLeaseSafety

/-!
# The recovery evidence of a lease

`control-plane-release-lease.ts`: the evidence column of a deployment holds the
stage and the code of the last failure and, from the first recovery intent on, the intents that were
recorded. Every request reads the column as a value of unknown type and validates it against the
rollback record before it writes the column again.

The requests are those of `ReleaseLease` with their payloads as they come in; the checks of an
intent and of the stored evidence, which are open there, are the source's own here.
-/

namespace Corgtex.Domain.RecoveryEvidenceStore

open JsString ReleaseLease ReleaseProofReader RecoveryIntent

/-! ## The column -/

def RECOVERY_STAGES : List RecoveryStage :=
  [.INVENTORY, .PREFLIGHT, .IMPORT, .WEB, .WORKER, .READBACK, .AUTH, .DIAGNOSTIC, .OBSERVATION,
    .ROLLBACK, .FENCING]

def stageName : RecoveryStage → JsString
  | .INVENTORY => lit "INVENTORY"
  | .PREFLIGHT => lit "PREFLIGHT"
  | .IMPORT => lit "IMPORT"
  | .WEB => lit "WEB"
  | .WORKER => lit "WORKER"
  | .READBACK => lit "READBACK"
  | .AUTH => lit "AUTH"
  | .DIAGNOSTIC => lit "DIAGNOSTIC"
  | .OBSERVATION => lit "OBSERVATION"
  | .ROLLBACK => lit "ROLLBACK"
  | .FENCING => lit "FENCING"

/-- The members of stored evidence, in its first or second version. -/
def evidenceMembers (evidence : RecoveryEvidence) : List (JsString × JsValue) :=
  match evidence.intents with
  | none =>
    [(lit "stage", .string (stageName evidence.stage)), (lit "code", .string evidence.code)]
  | some intents =>
    [(lit "schemaVersion", .number 2), (lit "stage", .string (stageName evidence.stage)),
      (lit "code", .string evidence.code),
      (lit "intents", .array (intents.map fun intent => .object (intentMembers intent)))]

/-- `row.releaseLeaseRecoveryEvidence` -/
def evidenceColumn (lease : Lease) : JsValue :=
  lease.recoveryEvidence.elim .null fun evidence => .object (evidenceMembers evidence)

/-! ## Validation -/

def rejected (code : String) (status : Nat := 409) : AppError :=
  ⟨status, code, "Managed release lease request was rejected."⟩

def invalidInput : AppError := rejected "MANAGED_RELEASE_INVALID_INPUT" 400

def stateConflict : AppError := rejected "MANAGED_RELEASE_LEASE_STATE_CONFLICT"

/-- A stage and a code, with the error of what is none. -/
def readStageCode (invalid : AppError) (value : JsValue) :
    Except AppError (RecoveryStage × JsString) := do
  let raw ← exactRecord invalid value [lit "stage", lit "code"]
  let stage ← enumString invalid (raw (lit "stage")) RECOVERY_STAGES stageName
  let code ← pattern invalid (raw (lit "code")) isRecoveryCode
  .ok (stage, code)

/-- `validateRecoveryStageCode` (line 69). -/
def validateRecoveryStageCode (value : JsValue) : Except AppError (RecoveryStage × JsString) :=
  readStageCode invalidInput value

/-- `validateStoredRecoveryStageCode` (line 76). -/
def validateStoredRecoveryStageCode (value : JsValue) :
    Except AppError (RecoveryStage × JsString) :=
  readStageCode stateConflict value

section
variable (sha256 : JsString → JsString)

section
variable (value : JsValue) (envelope : RollbackEnvelope)

/-- The intents of stored evidence (lines 94-100). -/
def validateIntents : Except AppError (List ManagedReleaseRecoveryIntent) :=
  match value with
  | .array items => do
    demand stateConflict (items.length ≤ 2)
    let intents ← items.mapM fun item =>
      canonicalizeManagedReleaseRecoveryIntent sha256 item envelope ⟨stateConflict, stateConflict⟩
    demand stateConflict (intents.length ≤ 1 || intents.map (·.role) = [.web, .worker])
    demand stateConflict ((intents.map (·.role)).dedup.length = intents.length)
    .ok intents
  | _ => .error stateConflict

/-- `validateStoredRecoveryEvidence` (line 86). -/
def validateStoredRecoveryEvidence : Except AppError RecoveryEvidence :=
  match value with
  | .object members =>
    if (members.map Prod.fst).contains (lit "schemaVersion") then do
      let raw ← exactRecord stateConflict value
        [lit "schemaVersion", lit "stage", lit "code", lit "intents"]
      literalNumber stateConflict (raw (lit "schemaVersion")) 2
      let stage ← enumString stateConflict (raw (lit "stage")) RECOVERY_STAGES stageName
      let code ← pattern stateConflict (raw (lit "code")) isRecoveryCode
      let intents ← validateIntents sha256 (raw (lit "intents")) envelope
      .ok { stage, code, intents := some intents }
    else do
      let (stage, code) ← validateStoredRecoveryStageCode value
      .ok { stage, code, intents := none }
  | _ => .error stateConflict

end

/-- The evidence of a row, where it has any (line 104). -/
def currentEvidence (lease : Lease) (envelope : RollbackEnvelope) :
    Except AppError (Option RecoveryEvidence) :=
  match evidenceColumn lease with
  | .object members => do
    let evidence ← validateStoredRecoveryEvidence sha256 (.object members) envelope
    .ok (some evidence)
  | _ => .ok none

/-- `recoveryEvidenceForStageCode` (line 103). -/
def recoveryEvidenceForStageCode (lease : Lease) (envelope : RollbackEnvelope)
    (stage : RecoveryStage) (code : JsString) : Except AppError RecoveryEvidence := do
  let current ← currentEvidence sha256 lease envelope
  .ok { stage, code, intents := current.bind RecoveryEvidence.intents }

/-! ## Requests -/

variable (reads : ReleaseReads) (store : LeaseStore)

/-- `recordManagedReleaseRecoveryIntent` (line 884). -/
def recordManagedReleaseRecoveryIntent (handle : LeaseHandle) (intentInput : JsValue) :
    Except AppError (LeaseStore × LeaseView × Bool × ManagedReleaseRecoveryIntent) := do
  let row := store.row
  let lease ← owned sha256 reads row handle false
  let _ ← requireAdmission reads row lease true
  require (lease.phase.isUnderway && lease.rollbackRecord.isSome)
    "MANAGED_RELEASE_LEASE_STATE_CONFLICT"
  let envelope ← originatingRollbackEnvelope reads row lease
  require envelope.payload.plan.isSome "MANAGED_RELEASE_LEASE_STATE_CONFLICT"
  reads.binding envelope.payload
  let intent ← canonicalizeManagedReleaseRecoveryIntent sha256 intentInput envelope
    ⟨invalidInput, rejected "MANAGED_RELEASE_RECOVERY_INTENT_CONFLICT"⟩
  let current ← currentEvidence sha256 lease envelope
  let (created, evidence) ← recoveryEvidenceWithRecordedIntent current intent
  let updated := lease.recovering reads.databaseNow evidence
  let store ← store.commit reads { row with lease := some updated }
    (eventOf reads "control_plane.release_lease.recovery_intent_recorded" row.releaseLeaseFence
      updated)
  .ok (store, view row updated, created, intent)

/-- `markManagedReleaseRecoveryRequired` (line 918). Every phase is one of `ACTIVE_PHASES`. -/
def markManagedReleaseRecoveryRequired (handle : LeaseHandle) (evidence : JsValue) :
    Except AppError (LeaseStore × LeaseView × RecoveryEvidence) := do
  let (stage, code) ← validateRecoveryStageCode evidence
  let row := store.row
  let lease ← owned sha256 reads row handle true
  let _ ← requireAdmission reads row lease true
  require lease.rollbackRecord.isSome "MANAGED_RELEASE_LEASE_STATE_CONFLICT"
  let envelope ← originatingRollbackEnvelope reads row lease
  let _ ← storedRollbackEnvelope reads row lease
  let evidence ← recoveryEvidenceForStageCode sha256 lease envelope stage code
  let updated := lease.recovering reads.databaseNow evidence
  let store ← store.commit reads { row with lease := some updated }
    (eventOf reads "control_plane.release_lease.recovery_required" row.releaseLeaseFence updated)
  .ok (store, view row updated, evidence)

/-! ## Sequences of requests -/

/-- A request that reads or writes the evidence of a lease that is underway. -/
inductive RecoveryCall where
  | recordIntent (handle : LeaseHandle) (intentInput : JsValue)
  | markRequired (handle : LeaseHandle) (evidence : JsValue)
  | claimRecovery (params : ClaimParams) (leaseId capability : JsString)

/-- A request, with the row that it leaves. -/
def RecoveryCall.perform : RecoveryCall → Except AppError LeaseStore
  | recordIntent handle intentInput =>
    Prod.fst <$> recordManagedReleaseRecoveryIntent sha256 reads store handle intentInput
  | markRequired handle evidence =>
    Prod.fst <$> markManagedReleaseRecoveryRequired sha256 reads store handle evidence
  | claimRecovery params leaseId capability =>
    Prod.fst <$> claimManagedReleaseRecovery sha256 reads store params leaseId capability

/-- A request and what its transaction reads. -/
structure RecoveryStep where
  reads : ReleaseReads
  call : RecoveryCall

/-- A step; a request that fails is rolled back. -/
def applyStep (store : LeaseStore) (step : RecoveryStep) : LeaseStore :=
  match step.call.perform sha256 step.reads store with
  | .error _ => store
  | .ok store => store

end

end Corgtex.Domain.RecoveryEvidenceStore
