import Corgtex.Domain.ProcurementTrials
import Corgtex.Library.Runs

/-!
# Requests for trials that overlap

`createProcurementTrial`, `approveReviewGatedProcurementTrial` and
`rejectReviewGatedProcurementTrial` (`procurement-trials.ts`) run at the same
time. A step of `TrialState` is one read or one transaction of one request, and what a request has
read stays as it was: the status of a trial under review is checked when the trial is read, and the
transaction that provisions it, or the update that rejects it, finds it by its id only.

`Sound` says what the requests owe to each other, in terms of a log of what has been created,
provisioned, rejected and replayed; the log is no part of the program. A step is undisturbed where
the trial still is what the request has read, and no key of another trial waits for the same
request hash.
-/

namespace Corgtex.Domain.ProcurementTrials

open JsString Billing

/-! ## Requests -/

/-- A request for a trial after its checks. -/
structure PreparedTrial where
  normalized : NormalizedTrialInput
  idemKeyHash : JsString
  idemRequestHash : JsString

/-- The key and the request hash of a creation. -/
def TrialRequest.prepared (request : TrialRequest) : PreparedTrial :=
  ⟨request.normalized, request.idemKeyHash, request.idemRequestHash⟩

/-- What a request does where its key is new: it goes on, leaves a trial under review, or throws the
error at hand. -/
inductive OnNewKey
  | expire
  | reviewGated (request : TrialRequest)
  | throw

/-- What stale trials are expired for. -/
inductive ExpiryReason
  | create (request : PreparedTrial)
  | approve (approval : Approval)

def ExpiryReason.normalized : ExpiryReason → NormalizedTrialInput
  | create request => request.normalized
  | approve approval => approval.normalized

/-- The next statement of a request, with what the request has read. -/
inductive Phase
  /-- `replayExistingIdempotencyResponse` reads the key … -/
  | readKey (request : PreparedTrial) (onNew : OnNewKey)
  /-- … and `existingTrialResponse` the trial of its workspace … -/
  | readTrialOfKey (request : PreparedTrial) (key : ProcurementIdempotencyKey)
  /-- … which expires where its time is over. -/
  | expireTrialConnector (request : PreparedTrial) (trial : ProcurementTrial)
  | readStale (reason : ExpiryReason)
  | expireStale (reason : ExpiryReason) (trials : List ProcurementTrial)
  | readSmoke (request : PreparedTrial)
  | expireSmoke (request : PreparedTrial) (trials : List ProcurementTrial)
  | assessTrialRisk (request : PreparedTrial)
  | createReviewGatedTrial (request : TrialRequest)
  | createActiveTrial (request : TrialRequest)
  /-- After the mail to the administrator the answer of the key is written again. -/
  | mailed (idemKeyHash : JsString) (response : TrialResponse)
  | readApproved (trialId : JsString)
  | assertNoActiveTrial (approval : Approval)
  | approveTrial (approval : Approval)
  | approvalMailed (idemRequestHash workspaceId : JsString) (response : TrialResponse)
  | readRejected (trialId : JsString)
  | rejectTrial (trialId : JsString)

/-- A request; `allowed` is what `requireTrialReviewWriteAccess` decides about its actor. -/
inductive TrialCall
  | createProcurementTrial (input : ProcurementTrialInput) (idempotencyKey : JsString)
  | approveReviewGatedProcurementTrial (allowed : Except AppError Unit) (trialId reason : JsString)
  | rejectReviewGatedProcurementTrial (allowed : Except AppError Unit) (trialId reason : JsString)

/-- A request up to its first statement. -/
def TrialCall.start (platform : TrialPlatform) : TrialCall → Except AppError Phase
  | createProcurementTrial input idempotencyKey => do
    let (normalized, idemKeyHash, idemRequestHash) ← prepareTrial platform input idempotencyKey
    .ok (.readKey ⟨normalized, idemKeyHash, idemRequestHash⟩ .expire)
  | approveReviewGatedProcurementTrial allowed trialId reason => do
    allowed
    invariant (0 < reason.trim.length) 400 "INVALID_INPUT" "Approval reason is required."
    .ok (.readApproved trialId)
  | rejectReviewGatedProcurementTrial allowed trialId reason => do
    allowed
    invariant (0 < reason.trim.length) 400 "INVALID_INPUT" "Rejection reason is required."
    .ok (.readRejected trialId)

/-- The trial that an approval reads, with its checks (line 1201). -/
def readApproved (store : TrialStore) (trialId : JsString) : Except AppError Approval :=
  match store.trials.find? trialId with
  | none => .error ⟨404, "NOT_FOUND", "Procurement trial not found."⟩
  | some trial => do
    invariant (trial.status = .REVIEW_REQUIRED) 400 "INVALID_STATE"
      "Only review-required trials can be approved."
    invariant (trial.workspaceId = none) 400 "INVALID_STATE" "This trial already has a workspace."
    .ok ⟨trial.id, trial.input, trial.riskStatus, trial.riskReasons⟩

/-- The trial that a rejection reads, with its checks (line 1258). -/
def readRejected (store : TrialStore) (trialId : JsString) : Except AppError JsString :=
  match store.trials.find? trialId with
  | none => .error ⟨404, "NOT_FOUND", "Procurement trial not found."⟩
  | some trial => do
    invariant (trial.status = .REVIEW_REQUIRED) 400 "INVALID_STATE"
      "Only review-required trials can be rejected."
    invariant (trial.workspaceId = none && trial.agentCredentialId = none) 400 "INVALID_STATE"
      "This trial already has provisioned resources."
    .ok trial.id

/-! ## Statements -/

/-- A key and the trial that it stands for. -/
structure KeyedTrial where
  idemKeyHash : JsString
  idemRequestHash : JsString
  trialId : JsString
deriving DecidableEq

/-- A workspace that has been provisioned for a trial. -/
structure ProvisionedTrial where
  trialId : JsString
  workspaceId : JsString
deriving DecidableEq

/-- What has happened, the newest first: the trials that keys have created, the workspaces that have
been provisioned, the trials that have been rejected, and the answers to replays. -/
structure TrialLog where
  created : List KeyedTrial
  provisioned : List ProvisionedTrial
  rejected : List JsString
  replayed : List KeyedTrial

section
variable (log : TrialLog)

def TrialLog.create (request : PreparedTrial) (trialId : JsString) : TrialLog :=
  { log with created := ⟨request.idemKeyHash, request.idemRequestHash, trialId⟩ :: log.created }

def TrialLog.provision (trialId workspaceId : JsString) : TrialLog :=
  { log with provisioned := ⟨trialId, workspaceId⟩ :: log.provisioned }

def TrialLog.reject (trialId : JsString) : TrialLog :=
  { log with rejected := trialId :: log.rejected }

def TrialLog.replay (request : PreparedTrial) (trialId : JsString) : TrialLog :=
  { log with replayed := ⟨request.idemKeyHash, request.idemRequestHash, trialId⟩ :: log.replayed }

end

/-- What the outside contributes to a statement: the time, the ids that the database draws, what the
two counts of active trials come to, each at a time of its own, and whether the database fails. -/
structure Outside where
  now : Int
  ids : NewIds
  activeForEmail : Bool
  activeForDomain : Bool
  aborts : Bool

/-- The store and the log after a statement, and the next statement of the request. -/
structure Turn where
  store : TrialStore
  log : TrialLog
  next : Option Phase

/-- What follows the expiry of stale trials. -/
def ExpiryReason.next : ExpiryReason → Phase
  | create request => .readSmoke request
  | approve approval => .assertNoActiveTrial approval

/-- What follows a failed transaction of a creation, which may have met its own key. -/
def afterConflict (request : TrialRequest) (error : TransactionError) : Option Phase :=
  if error = .unique .keyHash then some (.readKey request.prepared .throw) else none

/-- What follows the assessment (line 1137). -/
def creationPhase (platform : TrialPlatform) (request : PreparedTrial) (outside : Outside) :
    Phase :=
  let risk := riskAssessment platform request.normalized outside.activeForEmail
    outside.activeForDomain
  let trialRequest : TrialRequest := ⟨request.normalized, risk,
    outside.now + PROCUREMENT_TRIAL_TTL_MS, request.idemKeyHash, request.idemRequestHash⟩
  match risk.riskStatus with
  | .REVIEW_REQUIRED => .createReviewGatedTrial trialRequest
  | .LOW => .createActiveTrial trialRequest

/-- One statement of a request. -/
def Phase.run (platform : TrialPlatform) (store : TrialStore) (log : TrialLog) (outside : Outside) :
    Phase → Turn
  | readKey request onNew =>
    match replayExistingIdempotencyKey store request.idemKeyHash request.idemRequestHash with
    | .error _ => ⟨store, log, none⟩
    | .ok (some key) => ⟨store, log, some (.readTrialOfKey request key)⟩
    | .ok none =>
      match onNew with
      | .expire => ⟨store, log, some (.readStale (.create request))⟩
      | .reviewGated request => ⟨store, log, some (.createReviewGatedTrial request)⟩
      | .throw => ⟨store, log, none⟩
  | readTrialOfKey request key =>
    match key.workspaceId.bind store.trialOf with
    | none => ⟨store, log.replay request key.responseJson.trialId, none⟩
    | some trial =>
      if trial.stale outside.now then ⟨store, log, some (.expireTrialConnector request trial)⟩
      else ⟨store, log.replay request (publicTrialResponse trial).trialId, none⟩
  | expireTrialConnector request trial =>
    ⟨store.expireTrialConnector trial outside.now,
      log.replay request (publicTrialResponse { trial with status := .EXPIRED }).trialId, none⟩
  | readStale reason =>
    ⟨store, log, some (.expireStale reason (store.staleTrials reason.normalized outside.now))⟩
  | expireStale reason trials => ⟨store.expireRead trials outside.now, log, some reason.next⟩
  | readSmoke request =>
    ⟨store, log, some (.expireSmoke request (store.smokeTrials platform request.normalized))⟩
  | expireSmoke request trials =>
    ⟨store.expireRead trials outside.now, log, some (.assessTrialRisk request)⟩
  | assessTrialRisk request => ⟨store, log, some (creationPhase platform request outside)⟩
  | createReviewGatedTrial request =>
    match ProcurementTrials.createReviewGatedTrial store request outside.ids with
    | .ok (store, response) => ⟨store, log.create request.prepared response.trialId, none⟩
    | .error error => ⟨store, log, afterConflict request error⟩
  | createActiveTrial request =>
    match ProcurementTrials.createActiveTrial platform store request outside.ids outside.now with
    | .ok (store, response) =>
      ⟨store, (log.create request.prepared response.trialId).provision response.trialId
        outside.ids.workspaceId, some (.mailed request.idemKeyHash response)⟩
    | .error error =>
      match activeTrialUniquenessReason error with
      | some reason => ⟨store, log, some (.readKey request.prepared
          (.reviewGated (request.gated reason)))⟩
      | none => ⟨store, log, afterConflict request error⟩
  | mailed idemKeyHash response =>
    ⟨{ store with
        keys := store.keys.update idemKeyHash (fun key => { key with responseJson := response })
          fun _ => rfl }, log, none⟩
  | readApproved trialId =>
    match ProcurementTrials.readApproved store trialId with
    | .ok approval => ⟨store, log, some (.readStale (.approve approval))⟩
    | .error _ => ⟨store, log, none⟩
  | assertNoActiveTrial approval =>
    match ProcurementTrials.assertNoActiveTrial outside.activeForEmail outside.activeForDomain with
    | .ok _ => ⟨store, log, some (.approveTrial approval)⟩
    | .error _ => ⟨store, log, none⟩
  | approveTrial approval =>
    match ProcurementTrials.approveTrial platform store approval
      (outside.now + PROCUREMENT_TRIAL_TTL_MS) outside.ids outside.now with
    | .ok (store, response) =>
      ⟨store, log.provision response.trialId outside.ids.workspaceId,
        some (.approvalMailed (platform.requestHash approval.normalized) outside.ids.workspaceId
          response)⟩
    | .error _ => ⟨store, log, none⟩
  | approvalMailed idemRequestHash workspaceId response =>
    ⟨{ store with
        keys := store.keys.updateMany
          (fun key => key.requestHash = idemRequestHash && key.workspaceId = some workspaceId)
          (fun key => { key with responseJson := response }) fun _ => rfl }, log, none⟩
  | readRejected trialId =>
    match ProcurementTrials.readRejected store trialId with
    | .ok trialId => ⟨store, log, some (.rejectTrial trialId)⟩
    | .error _ => ⟨store, log, none⟩
  | rejectTrial trialId =>
    match ProcurementTrials.rejectTrial store trialId with
    | .ok store => ⟨store, log.reject trialId, none⟩
    | .error _ => ⟨store, log, none⟩

/-! ## Runs -/

/-- The store, the requests that are under way, and the log. -/
structure TrialState where
  store : TrialStore
  requests : Nat → Option Phase
  log : TrialLog

inductive TrialStep
  | start (request : Nat) (call : TrialCall)
  | next (request : Nat) (outside : Outside)

/-- A statement that the database refuses ends its request. -/
def TrialStep.apply (platform : TrialPlatform) (state : TrialState) : TrialStep → TrialState
  | start request call =>
    match state.requests request, call.start platform with
    | none, .ok phase =>
      { state with requests := Function.update state.requests request (some phase) }
    | _, _ => state
  | next request outside =>
    match state.requests request with
    | none => state
    | some phase =>
      let turn : Turn :=
        if outside.aborts then ⟨state.store, state.log, none⟩
        else phase.run platform state.store state.log outside
      ⟨turn.store, Function.update state.requests request turn.next, turn.log⟩

/-- The state after a run on which no trial has been requested before. -/
def runTrials (platform : TrialPlatform) (billing : BillingStore)
    (slugs : KeyedTable WorkspaceSlug WorkspaceSlug.slug) (steps : List TrialStep) : TrialState :=
  steps.foldl (TrialStep.apply platform)
    ⟨⟨billing, slugs, .empty, .empty⟩, fun _ => none, ⟨[], [], [], []⟩⟩

/-! ## What the requests owe to each other -/

/-- The workspaces that have been provisioned for the trials that a key has created. -/
def TrialLog.ofKey (log : TrialLog) (idemKeyHash : JsString) : List ProvisionedTrial :=
  log.provisioned.filter fun provisioned => log.created.any fun created =>
    created.idemKeyHash = idemKeyHash && created.trialId = provisioned.trialId

/-- **Trials are provisioned at most once**, a provisioned workspace stays that of its trial, a
rejected trial has none, a key stands for one request and is answered with the trial that it has
created. -/
structure Sound (state : TrialState) : Prop where
  onceByKey : ∀ idemKeyHash, (state.log.ofKey idemKeyHash).length ≤ 1
  onceByTrial : ∀ trialId,
    (state.log.provisioned.filter fun provisioned => provisioned.trialId = trialId).length ≤ 1
  exactlyOne : ∀ provisioned ∈ state.log.provisioned, ∃ trial,
    (state.store.trials.rows.filter (·.workspaceId = some provisioned.workspaceId)) = [trial] ∧
      trial.id = provisioned.trialId
  rejected : ∀ trialId ∈ state.log.rejected,
    (∃ trial, state.store.trials.find? trialId = some trial ∧ trial.workspaceId = none) ∧
      ∀ provisioned ∈ state.log.provisioned, provisioned.trialId ≠ trialId
  oneRequest : ∀ created ∈ state.log.created, ∀ other ∈ state.log.created ++ state.log.replayed,
    other.idemKeyHash = created.idemKeyHash → other.idemRequestHash = created.idemRequestHash
  replayed : ∀ replayed ∈ state.log.replayed, replayed ∈ state.log.created ∧
    ∀ created ∈ state.log.created, created.idemKeyHash = replayed.idemKeyHash → created = replayed

section
variable (platform : TrialPlatform)

/-- The trial is still under review and has no workspace, and every key that waits for a workspace
for the same request hash remembers this trial. -/
def Approval.undisturbed (store : TrialStore) (approval : Approval) : Bool :=
  ((store.trials.find? approval.trialId).any fun trial =>
      trial.status = .REVIEW_REQUIRED && trial.workspaceId = none) &&
    store.keys.rows.all fun key =>
      key.requestHash ≠ platform.requestHash approval.normalized || key.workspaceId.isSome ||
        key.responseJson.trialId = approval.trialId

/-- The statement that provisions a trial is undisturbed, or the one that rejects a trial still
finds it without a workspace. -/
def Phase.undisturbed (store : TrialStore) : Phase → Bool
  | approveTrial approval => approval.undisturbed platform store
  | rejectTrial trialId => (store.trials.find? trialId).all (·.workspaceId = none)
  | _ => true

def TrialStep.undisturbed (state : TrialState) : TrialStep → Bool
  | start _ _ => true
  | next request _ => (state.requests request).all (·.undisturbed platform state.store)

end

end Corgtex.Domain.ProcurementTrials
