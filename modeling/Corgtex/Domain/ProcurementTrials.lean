import Corgtex.Domain.Billing
import Corgtex.Library.JsNumber
import Corgtex.Library.Json
import Corgtex.Library.StringOrder

/-!
# Procurement trials

`procurement-trials.ts`: a request for a trial either provisions a workspace at once or, where it
looks risky, leaves a trial that an operator approves or rejects. An idempotency key remembers the
answer to its request. Each read and each transaction of a request is a function here.

A transaction is modelled with its statements on the workspace, its slug, its plan, budget and
billing profile, the trial and the idempotency keys. The members, credentials, audit entries and
events that it writes besides are left out: nothing below reads them.
-/

namespace Corgtex.Domain.ProcurementTrials

open JsString Billing

/-! ## Tables -/

/-- What the platform and the environment supply. -/
structure TrialPlatform where
  toLowerCase : JsString → JsString
  sha256 : JsString → JsString
  smokeEmailCaptureSecret : JsString
  smokeEmailCaptureAllowedDomains : JsString

/-- `TRIAL_STATUS_…` (`trial-entitlements.ts:8`). -/
inductive TrialStatus
  | ACTIVE | REVIEW_REQUIRED | SUSPENDED | EXPIRED | CONVERTED
deriving DecidableEq

inductive RiskStatus
  | LOW | REVIEW_REQUIRED
deriving DecidableEq

/-- `riskReasons`. -/
inductive RiskReason
  | PERSONAL_EMAIL_DOMAIN | DISPOSABLE_EMAIL_DOMAIN | INVALID_EMAIL_DOMAIN
  | ACTIVE_TRIAL_FOR_EMAIL | ACTIVE_TRIAL_FOR_DOMAIN
deriving DecidableEq

/-- `RiskAssessment` (line 106). -/
structure RiskAssessment where
  riskStatus : RiskStatus
  riskReasons : List RiskReason

/-- A record of JSON values. A number is the text that `JSON.stringify` writes for it. -/
abbrev JsonRecord := List (JsString × Json JsString)

structure ProcurementTrialInput where
  companyName : JsString
  adminEmail : JsString
  adminName : Option JsString
  billingContactEmail : Option JsString
  acceptedTermsVersion : JsString
  sourceAgent : Option JsonRecord

/-- `NormalizedTrialInput`, which is also what a trial stores of its request. -/
structure NormalizedTrialInput where
  companyName : JsString
  adminEmail : JsString
  adminName : Option JsString
  billingContactEmail : Option JsString
  acceptedTermsVersion : JsString
  sourceAgent : Option JsonRecord
  emailDomain : JsString

structure ProcurementTrial where
  id : JsString
  workspaceId : Option JsString
  agentCredentialId : Option JsString
  status : TrialStatus
  input : NormalizedTrialInput
  riskStatus : RiskStatus
  riskReasons : List RiskReason
  trialExpiresAt : Int

/-- `publicTrialResponse` (line 620): the columns of the trial that it shows. -/
structure TrialResponse where
  trialId : JsString
  status : TrialStatus
  riskStatus : RiskStatus
  riskReasons : List RiskReason
  trialExpiresAt : Int
  workspaceId : Option JsString
deriving DecidableEq

/-- `ProcurementIdempotencyKey` with the scope `TRIAL_IDEMPOTENCY_SCOPE`. -/
structure ProcurementIdempotencyKey where
  keyHash : JsString
  requestHash : JsString
  workspaceId : Option JsString
  responseJson : TrialResponse
deriving DecidableEq

structure WorkspaceSlug where
  slug : JsString
  workspaceId : JsString
deriving DecidableEq

structure TrialStore where
  billing : BillingStore
  slugs : KeyedTable WorkspaceSlug WorkspaceSlug.slug
  trials : KeyedTable ProcurementTrial ProcurementTrial.id
  keys : KeyedTable ProcurementIdempotencyKey ProcurementIdempotencyKey.keyHash

/-- The unique columns that a transaction may run into; the two on trials hold among the active
ones only (`prisma/migrations/20260430170000_procurement_instant_trials/migration.sql:39`). -/
inductive UniqueTarget
  | activeAdminEmail | activeEmailDomain | keyHash | other
deriving DecidableEq

/-- Why a transaction fails. -/
inductive TransactionError
  | unique (target : UniqueTarget)
  | thrown (error : AppError)
deriving DecidableEq

/-- A check of a transaction. -/
def require (condition : Bool) (error : TransactionError) : Except TransactionError Unit :=
  if condition then .ok () else .error error

/-- A part of a transaction that throws. -/
def within {α : Type} (result : Except AppError α) : Except TransactionError α :=
  result.mapError .thrown

/-! ## Requests -/

namespace TrialPlatform

variable (platform : TrialPlatform)

/-- `normalizeEmail` (line 132). -/
def normalizeEmail (email : JsString) : JsString := platform.toLowerCase email.trim

/-- `emailDomain` (line 141). -/
def emailDomain (email : JsString) : JsString :=
  match (split 0x40 email)[1]? with
  | some domain => platform.toLowerCase domain
  | none => []

/-- `normalizeInput` (line 202). -/
def normalizeInput (input : ProcurementTrialInput) : Except AppError NormalizedTrialInput := do
  let companyName := input.companyName.trim
  let adminEmail := platform.normalizeEmail input.adminEmail
  let domain := platform.emailDomain adminEmail
  let acceptedTermsVersion := input.acceptedTermsVersion.trim
  invariant (0 < companyName.length) 400 "INVALID_INPUT" "Company name is required."
  invariant (0 < adminEmail.length && 0 < domain.length) 400 "INVALID_INPUT"
    "Admin email is required."
  invariant (0 < acceptedTermsVersion.length) 400 "TERMS_REQUIRED"
    "acceptedTermsVersion is required."
  .ok {
    companyName := companyName
    adminEmail := adminEmail
    adminName := trimOrNull input.adminName
    billingContactEmail := (input.billingContactEmail.bind orNull).map platform.normalizeEmail
    acceptedTermsVersion := acceptedTermsVersion
    sourceAgent := input.sourceAgent
    emailDomain := domain }

/-- `requireUnreservedPublicDemoEmail` (`public-demo-identity.ts:7`). -/
def requireUnreservedPublicDemoEmail (email : JsString) : Except AppError Unit :=
  invariant (platform.toLowerCase email.trim ≠ lit "demo@jnj-demo.corgtex.app") 400
    "RESERVED_IDENTITY" "The public demo account is reserved for its dedicated workspace."

/-- `smokeCaptureDomains` (line 145). -/
def smokeCaptureDomains : List JsString :=
  ((split 0x2C platform.smokeEmailCaptureAllowedDomains).map fun value =>
    platform.toLowerCase value.trim).filter (· ≠ [])

/-- `isSmokeCaptureDomain` (line 152). -/
def isSmokeCaptureDomain (domain : JsString) : Bool :=
  platform.smokeEmailCaptureSecret ≠ [] && platform.smokeCaptureDomains.contains domain

end TrialPlatform

/-! ### Hashes -/

mutual
/-- `stableStringify` (line 170): the members of a record in the order of their keys. -/
def stableStringify : Json JsString → JsString
  | .array items => lit "[" ++ join (lit ",") (stableItems items) ++ lit "]"
  | .object members =>
    let texts := stableMembers members
    let keys := sort (texts.map Prod.fst)
    lit "\x7b" ++ join (lit ",") (keys.map fun key =>
      Json.quote key ++ lit ":" ++ (texts.lookup key).getD []) ++ lit "\x7d"
  | .null => Json.stringify id .null
  | .bool value => Json.stringify id (.bool value)
  | .number value => Json.stringify id (.number value)
  | .string value => Json.stringify id (.string value)

def stableItems : List (Json JsString) → List JsString
  | [] => []
  | item :: items => stableStringify item :: stableItems items

def stableMembers : JsonRecord → List (JsString × JsString)
  | [] => []
  | (key, value) :: members => (key, stableStringify value) :: stableMembers members
end

/-- `null`, or the text. -/
def optionalJson (text : Option JsString) : Json JsString :=
  match text with
  | none => .null
  | some text => .string text

def NormalizedTrialInput.json (input : NormalizedTrialInput) : Json JsString :=
  .object [
    (lit "companyName", .string input.companyName), (lit "adminEmail", .string input.adminEmail),
    (lit "adminName", optionalJson input.adminName),
    (lit "billingContactEmail", optionalJson input.billingContactEmail),
    (lit "acceptedTermsVersion", .string input.acceptedTermsVersion),
    (lit "sourceAgent", match input.sourceAgent with
      | none => .null
      | some sourceAgent => .object sourceAgent),
    (lit "emailDomain", .string input.emailDomain)]

namespace TrialPlatform

variable (platform : TrialPlatform)

/-- `requestHash` (line 188). -/
def requestHash (input : NormalizedTrialInput) : JsString :=
  platform.sha256 (stableStringify input.json)

/-- `idempotencyKeyHash` (line 184) of a key in `TRIAL_IDEMPOTENCY_SCOPE`. -/
def idempotencyKeyHash (idempotencyKey : JsString) : JsString :=
  platform.sha256 (lit "procurement:v1:trials" ++ lit ":" ++ idempotencyKey.trim)

/-! ### Slugs -/

/-- `[a-z0-9-]`. -/
def isSlugUnit (u : UInt16) : Bool :=
  (0x61 ≤ u && u ≤ 0x7A) || (0x30 ≤ u && u ≤ 0x39) || u = 0x2D

/-- Several hyphens in a row become one. -/
def joinHyphens : JsString → JsString
  | u :: v :: rest =>
    if u = 0x2D ∧ v = 0x2D then joinHyphens (v :: rest) else u :: joinHyphens (v :: rest)
  | s => s

/-- Without a hyphen at the end. -/
def dropLastHyphen (s : JsString) : JsString := if s.getLast? = some 0x2D then s.dropLast else s

/-- `normalizeSlug` (line 156). -/
def normalizeSlug (value : JsString) : JsString :=
  let hyphens := joinHyphens ((platform.toLowerCase value.trim).map fun u =>
    if isSlugUnit u then u else 0x2D)
  let start := if hyphens.head? = some 0x2D then hyphens.tail else hyphens
  (dropLastHyphen start).take 64

/-- `slugFromCompany` (line 166). -/
def slugFromCompany (companyName : JsString) : JsString :=
  let slug := platform.normalizeSlug companyName
  if slug = [] then lit "trial" else slug

/-- The slug of an attempt of `findAvailableSlug`. -/
def slugCandidate (base companyName : JsString) (attempt : Nat) : JsString :=
  let suffix := (platform.sha256
    (base ++ lit ":" ++ companyName ++ lit ":" ++ JsNumber.decimal attempt)).take 6
  dropLastHyphen (base.take (max 1 (64 - suffix.length - 1))) ++ lit "-" ++ suffix

/-- `assertCustomerAssignableWorkspaceSlug` (`workspace-slugs.ts:9`). -/
def assertCustomerAssignableWorkspaceSlug (slug : JsString) : Except AppError Unit :=
  invariant (slug ≠ lit "corgtex-managed-release-ops") 403 "WORKSPACE_SLUG_RESERVED"
    "This workspace slug is reserved."

/-- The first of the slugs that is free, up to one that is reserved. -/
def firstFreeSlug (store : TrialStore) : List JsString → Except AppError JsString
  | [] => .error ⟨409, "SLUG_UNAVAILABLE", "Could not allocate an available workspace slug."⟩
  | slug :: slugs => do
    assertCustomerAssignableWorkspaceSlug slug
    match store.slugs.find? slug with
    | none => .ok slug
    | some _ => firstFreeSlug store slugs

/-- `findAvailableSlug` (line 243). -/
def findAvailableSlug (store : TrialStore) (companyName : JsString) : Except AppError JsString :=
  let base := platform.slugFromCompany companyName
  firstFreeSlug store
    (base :: (List.range 20).map fun attempt => platform.slugCandidate base companyName attempt)

end TrialPlatform

/-! ## Expiry -/

/-- An active trial whose time is over. -/
def ProcurementTrial.stale (now : Int) (trial : ProcurementTrial) : Bool :=
  trial.status = .ACTIVE && trial.trialExpiresAt ≤ now

/-- The trial and the request are of one person or one organisation. -/
def ProcurementTrial.sharesIdentity (input : NormalizedTrialInput) (trial : ProcurementTrial) :
    Bool :=
  trial.input.adminEmail = input.adminEmail || trial.input.emailDomain = input.emailDomain

section
variable (store : TrialStore)

/-- `procurementTrial.findUnique` by the workspace. -/
def TrialStore.trialOf (workspaceId : JsString) : Option ProcurementTrial :=
  store.trials.rows.find? (·.workspaceId = some workspaceId)

/-- The statements by which trials expire: the trials, and the plan and the budget of their
workspaces. -/
def TrialStore.expire (test : ProcurementTrial → Bool)
    (workspaceIds : List JsString) (now : Int) : TrialStore :=
  { store with
    trials := store.trials.updateMany test (fun trial => { trial with status := .EXPIRED })
      fun _ => rfl
    billing := { store.billing with
      workspaces := store.billing.workspaces.updateMany (workspaceIds.contains ·.id)
        (fun workspace => { workspace with plan := .CORE_FREE, planActivatedAt := now })
        fun _ => rfl
      budgets := workspaceIds.foldl (fun budgets workspaceId => budgets.set ⟨workspaceId, 0⟩)
        store.billing.budgets } }

/-- The transaction on the trials that were read to be over (line 402). -/
def TrialStore.expireRead (trials : List ProcurementTrial) (now : Int) : TrialStore :=
  store.expire (fun trial => trials.any (·.id = trial.id))
    (trials.filterMap ProcurementTrial.workspaceId) now

/-- What `expireStaleTrialsForIdentity` (line 382) reads. -/
def TrialStore.staleTrials (input : NormalizedTrialInput) (now : Int) : List ProcurementTrial :=
  store.trials.rows.filter fun trial => trial.stale now && trial.sharesIdentity input

end

/-- What `expireActiveSmokeTrialsForDomain` (line 436) reads. -/
def TrialStore.smokeTrials (platform : TrialPlatform) (store : TrialStore)
    (input : NormalizedTrialInput) : List ProcurementTrial :=
  if platform.isSmokeCaptureDomain input.emailDomain then
    store.trials.rows.filter fun trial =>
      trial.status = .ACTIVE && trial.input.emailDomain = input.emailDomain
  else []

section
variable (store : TrialStore) (trial : ProcurementTrial) (now : Int)

/-- `expireTrialConnector` (line 490). -/
def TrialStore.expireTrialConnector : TrialStore :=
  store.expire (fun row => row.id = trial.id && row.status = .ACTIVE) trial.workspaceId.toList now

/-- `expireTrial` (`trial-entitlements.ts:62`), and the transaction of `checkBudget`
(`cost-budget.ts:95`). -/
def TrialStore.expireTrial : TrialStore :=
  store.expire (fun row => row.id = trial.id) trial.workspaceId.toList now

end

/-! ## Risk -/

/-- `PERSONAL_EMAIL_DOMAINS` (line 59). -/
def PERSONAL_EMAIL_DOMAINS : List JsString :=
  ["aol.com", "gmail.com", "googlemail.com", "hey.com", "hotmail.com", "icloud.com", "live.com",
    "me.com", "msn.com", "outlook.com", "pm.me", "proton.me", "protonmail.com", "yahoo.com"].map lit

/-- `DISPOSABLE_EMAIL_DOMAINS` (line 76). -/
def DISPOSABLE_EMAIL_DOMAINS : List JsString :=
  ["10minutemail.com", "guerrillamail.com", "mailinator.com", "temp-mail.org", "tempmail.com",
    "yopmail.com"].map lit

/-- Some trial with the property is active and its time is not over. -/
def TrialStore.hasActive (store : TrialStore) (now : Int) (test : ProcurementTrial → Bool) : Bool :=
  store.trials.rows.any fun trial =>
    trial.status = .ACTIVE && now < trial.trialExpiresAt && test trial

/-- The assessment that `assessTrialRisk` (line 524) makes of its two counts. -/
def riskAssessment (platform : TrialPlatform) (input : NormalizedTrialInput)
    (activeForEmail activeForDomain : Bool) : RiskAssessment :=
  let reasons : List RiskReason :=
    (if PERSONAL_EMAIL_DOMAINS.contains input.emailDomain then [.PERSONAL_EMAIL_DOMAIN] else []) ++
    (if DISPOSABLE_EMAIL_DOMAINS.contains input.emailDomain then [.DISPOSABLE_EMAIL_DOMAIN]
      else []) ++
    (if input.emailDomain.contains 0x2E then [] else [.INVALID_EMAIL_DOMAIN]) ++
    (if activeForEmail then [.ACTIVE_TRIAL_FOR_EMAIL] else []) ++
    (if activeForDomain && !platform.isSmokeCaptureDomain input.emailDomain then
      [.ACTIVE_TRIAL_FOR_DOMAIN] else [])
  ⟨if reasons = [] then .LOW else .REVIEW_REQUIRED, reasons⟩

/-- `assessTrialRisk` (line 524), with both counts in one state. -/
def assessTrialRisk (platform : TrialPlatform) (store : TrialStore) (input : NormalizedTrialInput)
    (now : Int) : RiskAssessment :=
  riskAssessment platform input (store.hasActive now (·.input.adminEmail = input.adminEmail))
    (store.hasActive now (·.input.emailDomain = input.emailDomain))

/-- What `assertNoActiveTrialForIdentity` (line 572) makes of its two counts. -/
def assertNoActiveTrial (activeForEmail activeForDomain : Bool) : Except AppError Unit := do
  invariant (!activeForEmail) 409 "ACTIVE_TRIAL_FOR_EMAIL"
    "An active trial already exists for this admin email."
  invariant (!activeForDomain) 409 "ACTIVE_TRIAL_FOR_DOMAIN"
    "An active trial already exists for this email domain."

/-! ## Transactions -/

/-- The ids that the database draws. -/
structure NewIds where
  trialId : JsString
  workspaceId : JsString
  credentialId : JsString

/-- The response about a trial. -/
def publicTrialResponse (trial : ProcurementTrial) : TrialResponse where
  trialId := trial.id
  status := trial.status
  riskStatus := trial.riskStatus
  riskReasons := trial.riskReasons
  trialExpiresAt := trial.trialExpiresAt
  workspaceId := trial.workspaceId

/-- The row of a trial is written, unless a unique column of it is taken. -/
def TrialStore.saveTrial (store : TrialStore) (trial : ProcurementTrial) :
    Except TransactionError TrialStore := do
  let taken (test : ProcurementTrial → Bool) : Bool :=
    store.trials.rows.any fun other => other.id ≠ trial.id && test other
  require (!(trial.workspaceId.isSome && taken fun other =>
    other.workspaceId = trial.workspaceId)) (.unique .other)
  require (!(trial.agentCredentialId.isSome && taken fun other =>
    other.agentCredentialId = trial.agentCredentialId)) (.unique .other)
  require (!(trial.status = .ACTIVE && taken fun other =>
    other.status = .ACTIVE && other.input.adminEmail = trial.input.adminEmail))
    (.unique .activeAdminEmail)
  require (!(trial.status = .ACTIVE && taken fun other =>
    other.status = .ACTIVE && other.input.emailDomain = trial.input.emailDomain))
    (.unique .activeEmailDomain)
  .ok { store with trials := store.trials.set trial }

/-- A new key (`@unique`). -/
def TrialStore.createKey (store : TrialStore) (key : ProcurementIdempotencyKey) :
    Except TransactionError TrialStore := do
  require (store.keys.find? key.keyHash).isNone (.unique .keyHash)
  .ok { store with keys := store.keys.set key }

/-- The keys of a request hash that have no workspace get this one (line 1054). -/
def TrialStore.pointKeys (store : TrialStore) (requestHash workspaceId : JsString)
    (response : TrialResponse) : TrialStore :=
  { store with
    keys := store.keys.updateMany
      (fun key => key.requestHash = requestHash && key.workspaceId = none)
      (fun key => { key with workspaceId := some workspaceId, responseJson := response })
      fun _ => rfl }

/-- The parameters of `createReviewGatedTrial`, and of `createActiveTrial` for a new trial. -/
structure TrialRequest where
  normalized : NormalizedTrialInput
  risk : RiskAssessment
  expiresAt : Int
  idemKeyHash : JsString
  idemRequestHash : JsString

/-- The trial under review that a transaction writes. -/
def reviewGatedTrial (request : TrialRequest) (trialId : JsString) : ProcurementTrial where
  id := trialId
  workspaceId := none
  agentCredentialId := none
  status := .REVIEW_REQUIRED
  input := request.normalized
  riskStatus := .REVIEW_REQUIRED
  riskReasons := request.risk.riskReasons
  trialExpiresAt := request.expiresAt

/-- The transaction of `createReviewGatedTrial` (line 783). -/
def createReviewGatedTrial (store : TrialStore) (request : TrialRequest) (ids : NewIds) :
    Except TransactionError (TrialStore × TrialResponse) := do
  require (store.trials.find? ids.trialId).isNone (.unique .other)
  let trial := reviewGatedTrial request ids.trialId
  let store ← store.saveTrial trial
  let response := publicTrialResponse trial
  let store ← store.createKey {
    keyHash := request.idemKeyHash, requestHash := request.idemRequestHash, workspaceId := none
    responseJson := response }
  .ok (store, response)

/-- The workspace of a trial, with its slug, its budget and its billing profile (line 859). -/
def provisionWorkspace (platform : TrialPlatform) (store : TrialStore)
    (normalized : NormalizedTrialInput) (workspaceId : JsString) (now : Int) :
    Except TransactionError TrialStore := do
  let slug ← within (platform.findAvailableSlug store normalized.companyName)
  require (store.billing.workspaces.find? workspaceId).isNone (.unique .other)
  let created := { store.billing with
    workspaces := store.billing.workspaces.set ⟨workspaceId, .TRIAL, now⟩ }
  let budgeted := setBudget created workspaceId 5
  let billing ← within (setProfile budgeted { budgeted.profile workspaceId with
    billingEmail := some (normalized.billingContactEmail.getD normalized.adminEmail) })
  .ok { store with billing := billing, slugs := store.slugs.set ⟨slug, workspaceId⟩ }

/-- The active trial that a transaction writes. -/
def activeTrial (normalized : NormalizedTrialInput) (risk : RiskAssessment) (expiresAt : Int)
    (trialId : JsString) (ids : NewIds) : ProcurementTrial where
  id := trialId
  workspaceId := some ids.workspaceId
  agentCredentialId := some ids.credentialId
  status := .ACTIVE
  input := normalized
  riskStatus := risk.riskStatus
  riskReasons := risk.riskReasons
  trialExpiresAt := expiresAt

/-- The transaction of `createActiveTrial` (line 847) for a new request. -/
def createActiveTrial (platform : TrialPlatform) (store : TrialStore) (request : TrialRequest)
    (ids : NewIds) (now : Int) : Except TransactionError (TrialStore × TrialResponse) := do
  let store ← provisionWorkspace platform store request.normalized ids.workspaceId now
  require (store.trials.find? ids.trialId).isNone (.unique .other)
  let trial := activeTrial request.normalized request.risk request.expiresAt ids.trialId ids
  let store ← store.saveTrial trial
  let response := publicTrialResponse trial
  let store ← store.createKey {
    keyHash := request.idemKeyHash, requestHash := request.idemRequestHash
    workspaceId := some ids.workspaceId, responseJson := response }
  .ok (store, response)

/-- What an approval passes to `createActiveTrial` (line 1227). -/
structure Approval where
  trialId : JsString
  normalized : NormalizedTrialInput
  risk : RiskAssessment

/-- The transaction of `createActiveTrial` for a trial that was under review: `update` finds it by
its id only. -/
def approveTrial (platform : TrialPlatform) (store : TrialStore) (approval : Approval)
    (expiresAt : Int) (ids : NewIds) (now : Int) :
    Except TransactionError (TrialStore × TrialResponse) := do
  let store ← provisionWorkspace platform store approval.normalized ids.workspaceId now
  require (store.trials.find? approval.trialId).isSome
    (.thrown (databaseError "Record to update not found."))
  let trial := activeTrial approval.normalized approval.risk expiresAt approval.trialId ids
  let store ← store.saveTrial trial
  let response := publicTrialResponse trial
  let store := store.pointKeys (platform.requestHash approval.normalized) ids.workspaceId response
  .ok (store, response)

/-- The update of `rejectReviewGatedProcurementTrial` (line 1253), by the id of the trial only; it
throws where there is none. -/
def rejectTrial (store : TrialStore) (trialId : JsString) : Except AppError TrialStore :=
  match store.trials.find? trialId with
  | none => .error (databaseError "Record to update not found.")
  | some trial => .ok { store with trials := store.trials.set { trial with status := .SUSPENDED } }

/-! ## Replays -/

/-- What `replayExistingIdempotencyResponse` (line 756) makes of the key that it reads. -/
def replayExistingIdempotencyKey (store : TrialStore) (idemKeyHash idemRequestHash : JsString) :
    Except AppError (Option ProcurementIdempotencyKey) :=
  match store.keys.find? idemKeyHash with
  | none => .ok none
  | some key => do
    invariant (key.requestHash = idemRequestHash) 409 "IDEMPOTENCY_KEY_REUSED"
      "The same Idempotency-Key was used with a different request body."
    .ok (some key)

/-- `existingTrialResponse` (line 691): of the trial that the key's workspace has when it is read,
or what the key remembers. -/
def existingTrialResponse (store : TrialStore) (key : ProcurementIdempotencyKey) (now : Int) :
    TrialStore × TrialResponse :=
  match key.workspaceId.bind store.trialOf with
  | none => (store, key.responseJson)
  | some trial =>
    if trial.stale now then
      (store.expireTrialConnector trial now, publicTrialResponse { trial with status := .EXPIRED })
    else (store, publicTrialResponse trial)

/-- `activeTrialUniquenessReason` (line 360). -/
def activeTrialUniquenessReason : TransactionError → Option RiskReason
  | .unique .activeAdminEmail => some .ACTIVE_TRIAL_FOR_EMAIL
  | .unique .activeEmailDomain => some .ACTIVE_TRIAL_FOR_DOMAIN
  | _ => none

/-- The request that goes to review because an active trial is in its way (line 1168). -/
def TrialRequest.gated (request : TrialRequest) (reason : RiskReason) : TrialRequest :=
  let reasons := request.risk.riskReasons
  { request with
    risk := ⟨.REVIEW_REQUIRED, if reasons.contains reason then reasons else reasons ++ [reason]⟩ }

/-- `PROCUREMENT_TRIAL_TTL_DAYS` in milliseconds. -/
def PROCUREMENT_TRIAL_TTL_MS : Int := 30 * 24 * 60 * 60 * 1000

/-- What `createProcurementTrial` checks before it reads anything (line 1118): the normalized input,
and the hashes of the key and of the request. -/
def prepareTrial (platform : TrialPlatform) (input : ProcurementTrialInput)
    (idempotencyKey : JsString) : Except AppError (NormalizedTrialInput × JsString × JsString) := do
  let normalized ← platform.normalizeInput input
  platform.requireUnreservedPublicDemoEmail normalized.adminEmail
  invariant (0 < idempotencyKey.trim.length) 400 "IDEMPOTENCY_KEY_REQUIRED"
    "Idempotency-Key header is required."
  .ok (normalized, platform.idempotencyKeyHash idempotencyKey, platform.requestHash normalized)

/-! ## What the statements do -/

section
variable {store store' : TrialStore} {w : JsString}

theorem require_bind_ok {α : Type} {condition : Bool} {error : TransactionError}
    {next : Unit → Except TransactionError α} {result : α} :
    (require condition error >>= next) = .ok result ↔ condition = true ∧ next () = .ok result := by
  cases condition <;> simp [require, bind, Except.bind]

theorem within_ok {α : Type} {result : Except AppError α} {a : α} (h : within result = .ok a) :
    result = .ok a := by
  cases result with
  | ok b => simpa [within, Except.mapError] using h
  | error e => simp [within, Except.mapError] at h

theorem saveTrial_ok {trial : ProcurementTrial} (h : store.saveTrial trial = .ok store') :
    store' = { store with trials := store.trials.set trial } := by
  obtain ⟨-, h⟩ := require_bind_ok.1 h
  obtain ⟨-, h⟩ := require_bind_ok.1 h
  obtain ⟨-, h⟩ := require_bind_ok.1 h
  obtain ⟨-, h⟩ := require_bind_ok.1 h
  exact (Except.ok.inj h).symm

variable {key : ProcurementIdempotencyKey}

theorem createKey_ok (h : store.createKey key = .ok store') :
    store.keys.find? key.keyHash = none ∧ store' = { store with keys := store.keys.set key } := by
  obtain ⟨hnew, h⟩ := require_bind_ok.1 h
  exact ⟨Option.isNone_iff_eq_none.1 hnew, (Except.ok.inj h).symm⟩

theorem trialOf_workspaceId {trial : ProcurementTrial} (h : store.trialOf w = some trial) :
    trial.workspaceId = some w := by
  simpa using List.find?_some h

variable {idemKeyHash idemRequestHash : JsString} (hkey : store.keys.find? idemKeyHash = some key)
include hkey

theorem replayExistingIdempotencyKey_eq (hsame : key.requestHash = idemRequestHash) :
    replayExistingIdempotencyKey store idemKeyHash idemRequestHash = .ok (some key) := by
  simp only [replayExistingIdempotencyKey, hkey]
  exact invariant_bind_ok.2 ⟨decide_eq_true hsame, rfl⟩

/-- **A key that is reused for another request** is refused. -/
theorem replayExistingIdempotencyKey_ne (hother : key.requestHash ≠ idemRequestHash) :
    ∃ error, replayExistingIdempotencyKey store idemKeyHash idemRequestHash = .error error := by
  simp only [replayExistingIdempotencyKey, hkey]
  exact ⟨_, by rw [decide_eq_false hother]; rfl⟩

end

/-! ## A sample -/

/-- Texts in lower case, each its own hash. -/
def samplePlatform : TrialPlatform where
  toLowerCase := id
  sha256 := id
  smokeEmailCaptureSecret := []
  smokeEmailCaptureAllowedDomains := []

/-- The request of an administrator. -/
def sampleInput : ProcurementTrialInput where
  companyName := lit "acme"
  adminEmail := lit "ann@acme.com"
  adminName := none
  billingContactEmail := none
  acceptedTermsVersion := lit "1"
  sourceAgent := none

example : samplePlatform.slugFromCompany (lit " acme & co. ") = lit "acme-co" := by
  decide +kernel

end Corgtex.Domain.ProcurementTrials
