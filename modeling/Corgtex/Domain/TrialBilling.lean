import Corgtex.Domain.BillingEvents
import Corgtex.Domain.ProcurementTrials

/-!
# Trials that are paid for

A workspace that a trial has provisioned is paid for once Stripe reports a subscription
(`billing.ts`), which sets its plan and its budget but not the status of the trial. Five places let
a trial expire when they come across it (`checkBudget`, `requireTrialMcpAccess`, the replay of a
key, and a new request of the same person, organisation or smoke domain); they look at the trial
only, and take the plan and the budget back. `paid_terms_kept_iff` says when a paid workspace keeps
them.

The calls follow each other, in any order and at any times. What Stripe replies with, the usage of a
workspace and the ids that the database draws are inputs of a call.
-/

namespace Corgtex.Domain.ProcurementTrials

open Billing JsString KeyedTable

/-! ## Calls -/

/-- What `checkBudget` returns. -/
structure BudgetCheck where
  allowed : Bool
  usedPct : ℚ
  usedUsd : ℚ
  capUsd : ℚ

section
variable (store : TrialStore) (workspaceId : JsString)

/-- The budget of a workspace and its usage (`cost-budget.ts:125`). An alert that is due writes
nothing that is read here. -/
def budgetCheck (usedUsd : ℚ) : BudgetCheck :=
  match store.billing.budgets.find? workspaceId with
  | none => ⟨true, 0, 0, -1⟩
  | some budget =>
    let capUsd := budget.monthlyCostCapUsd
    if capUsd < 0 then ⟨true, 0, 0, capUsd⟩
    else if capUsd = 0 then ⟨false, 100, 0, capUsd⟩
    else ⟨usedUsd < capUsd, usedUsd / capUsd * 100, usedUsd, capUsd⟩

/-- `checkBudget` (`cost-budget.ts:58`). -/
def checkBudget (usedUsd : ℚ) (now : Int) : TrialStore × BudgetCheck :=
  let refused : BudgetCheck := ⟨false, 100, 0, 0⟩
  if (store.billing.workspaces.find? workspaceId).map BillingWorkspace.plan = some .CORE_FREE then
    (store, refused)
  else match store.trialOf workspaceId with
    | none => (store, budgetCheck store workspaceId usedUsd)
    | some trial =>
      if trial.status ≠ .ACTIVE ∧ trial.status ≠ .CONVERTED then (store, refused)
      else if trial.stale now then (store.expireTrial trial now, refused)
      else (store, budgetCheck store workspaceId usedUsd)

/-- `requireTrialMcpAccess` (`trial-entitlements.ts:127`); `allowed` is the reply of the rate
limiter. -/
def requireTrialMcpAccess (allowed : Bool)
    (now : Int) : TrialStore × Except AppError (Option ProcurementTrial) :=
  match store.trialOf workspaceId with
  | none => (store, .ok none)
  | some trial =>
    if trial.status ≠ .ACTIVE then
      (store, .error ⟨403, "TRIAL_INACTIVE", "This trial is not active."⟩)
    else if trial.stale now then
      (store.expireTrial trial now, .error ⟨403, "TRIAL_EXPIRED", "This trial has expired."⟩)
    else if allowed then (store, .ok (some trial))
    else (store, .error ⟨429, "TRIAL_MCP_LIMIT_EXCEEDED", "Trial MCP call limit exceeded."⟩)

end

/-- The answer to a request for a trial. -/
structure TrialAnswer where
  statusCode : Nat
  body : TrialResponse

abbrev TrialOutcome := TrialStore × Except TransactionError TrialAnswer

/-- `replayExistingIdempotencyResponse` (`procurement-trials.ts:756`), and what is done where it
returns `null`. -/
def replayOr (store : TrialStore) (idemKeyHash idemRequestHash : JsString) (now : Int)
    (otherwise : TrialOutcome) : TrialOutcome :=
  match replayExistingIdempotencyKey store idemKeyHash idemRequestHash with
  | .error error => (store, .error (.thrown error))
  | .ok none => otherwise
  | .ok (some key) =>
    let existing := existingTrialResponse store key now
    (existing.1, .ok ⟨if key.workspaceId.isSome then 201 else 202, existing.2⟩)

/-- `createReviewGatedTrial` (`procurement-trials.ts:783`). -/
def reviewGated (store : TrialStore) (request : TrialRequest) (ids : NewIds) (now : Int) :
    TrialOutcome :=
  match createReviewGatedTrial store request ids with
  | .ok (store, response) => (store, .ok ⟨202, response⟩)
  | .error error =>
    if error = .unique .keyHash then
      replayOr store request.idemKeyHash request.idemRequestHash now (store, .error error)
    else (store, .error error)

section
variable (platform : TrialPlatform) (store : TrialStore)

/-- `createActiveTrial` with the handler of its errors (`procurement-trials.ts:1148`). What the mail
to the administrator says is added to the answer afterwards, and not modelled. -/
def activeOrReviewGated (request : TrialRequest) (ids : NewIds) (now : Int) : TrialOutcome :=
  match createActiveTrial platform store request ids now with
  | .ok (store, response) => (store, .ok ⟨201, response⟩)
  | .error error =>
    match activeTrialUniquenessReason error with
    | some reason =>
      replayOr store request.idemKeyHash request.idemRequestHash now
        (reviewGated store (request.gated reason) ids now)
    | none =>
      if error = .unique .keyHash then
        replayOr store request.idemKeyHash request.idemRequestHash now (store, .error error)
      else (store, .error error)

/-- The store after the expiries of `createProcurementTrial` (`procurement-trials.ts:1134`). -/
def TrialStore.expireForRequest (normalized : NormalizedTrialInput) (now : Int) : TrialStore :=
  let stale := store.expireRead (store.staleTrials normalized now) now
  stale.expireRead (stale.smokeTrials platform normalized) now

/-- `createProcurementTrial` (`procurement-trials.ts:1113`). -/
def createProcurementTrial (input : ProcurementTrialInput) (idempotencyKey : JsString)
    (ids : NewIds) (now : Int) : TrialOutcome :=
  match prepareTrial platform input idempotencyKey with
  | .error error => (store, .error (.thrown error))
  | .ok (normalized, idemKeyHash, idemRequestHash) =>
    replayOr store idemKeyHash idemRequestHash now <|
      let store := store.expireForRequest platform normalized now
      let risk := assessTrialRisk platform store normalized now
      let request : TrialRequest :=
        ⟨normalized, risk, now + PROCUREMENT_TRIAL_TTL_MS, idemKeyHash, idemRequestHash⟩
      match risk.riskStatus with
      | .REVIEW_REQUIRED => reviewGated store request ids now
      | .LOW => activeOrReviewGated platform store request ids now

end

/-- `handleStripeWebhook` (line 534) in one piece: the store, and the event with its workspace where
its effects have been committed. -/
def handleStripeWebhook (store : BillingStore) (event : StripeEvent)
    (fetched : Except AppError StripeObject) (priceId : Option JsString) (aborts : Bool)
    (now : Int) : BillingStore × Option (StripeObject × JsString) :=
  let received := receiveStripeEvent store event
  if received.2 then (received.1, none)
  else
    let target := stripeTarget received.1 event
    match transaction received.1 event target fetched priceId aborts now with
    | .ok store => (markProcessed store event.id now, target)
    | .error error => (markError received.1 event.id error.message, none)

/-! ## Runs -/

/-- Whether an event activates a subscription, ends or suspends it, or leaves billing alone. -/
def StripeEvent.verdict (event : StripeEvent) (object : StripeObject) : Option Bool :=
  match event.type with
  | "checkout.session.completed" | "invoice.payment_succeeded" => some true
  | "customer.subscription.updated" =>
    match stripeStatus object.status with
    | .ACTIVE => some true
    | .PAST_DUE | .PAYMENT_REQUIRED | .CANCELED => some false
    | .NONE | .CHECKOUT_PENDING => none
  | "customer.subscription.deleted" | "invoice.payment_failed" => some false
  | _ => none

inductive Call
  | webhook (event : StripeEvent) (fetched : Except AppError StripeObject)
    (priceId : Option JsString) (aborts : Bool) (now : Int)
  | checkBudget (workspaceId : JsString) (usedUsd : ℚ) (now : Int)
  | requireTrialMcpAccess (workspaceId : JsString) (allowed : Bool) (now : Int)
  | createProcurementTrial (input : ProcurementTrialInput) (idempotencyKey : JsString)
    (ids : NewIds) (now : Int)

/-- The store, and the workspaces whose last processed billing event activated the subscription. -/
structure CallState where
  store : TrialStore
  activated : JsString → Bool

/-- What a committed event says about its workspace. -/
def recordVerdict (activated : JsString → Bool) (event : StripeEvent)
    (committed : Option (StripeObject × JsString)) : JsString → Bool :=
  match committed with
  | none => activated
  | some (object, workspaceId) =>
    match StripeEvent.verdict event object with
    | none => activated
    | some verdict => Function.update activated workspaceId verdict

def Call.apply (platform : TrialPlatform) (state : CallState) : Call → CallState
  | webhook event fetched priceId aborts now =>
    let handled := handleStripeWebhook state.store.billing event fetched priceId aborts now
    { store := { state.store with billing := handled.1 }
      activated := recordVerdict state.activated event handled.2 }
  | checkBudget workspaceId usedUsd now =>
    { state with
      store := (ProcurementTrials.checkBudget state.store workspaceId usedUsd now).1 }
  | requireTrialMcpAccess workspaceId allowed now =>
    { state with
      store := (ProcurementTrials.requireTrialMcpAccess state.store workspaceId allowed now).1 }
  | createProcurementTrial input idempotencyKey ids now =>
    { state with
      store := (ProcurementTrials.createProcurementTrial platform state.store input idempotencyKey
        ids now).1 }

/-- The state after a run, of which no billing event has been processed before. -/
def runCalls (platform : TrialPlatform) (store : TrialStore) (calls : List Call) : CallState :=
  calls.foldl (Call.apply platform) ⟨store, fun _ => false⟩

/-! ## Plan and budget -/

/-- The plan and the cost cap of a workspace. -/
def TrialStore.terms (store : TrialStore) (workspaceId : JsString) :
    Option WorkspacePlan × Option ℚ :=
  ((store.billing.workspaces.find? workspaceId).map BillingWorkspace.plan,
    (store.billing.budgets.find? workspaceId).map ModelUsageBudget.monthlyCostCapUsd)

/-- The workspace is on `PAYG_AI`, and its cost cap is unlimited. -/
def TrialStore.Paid (store : TrialStore) (workspaceId : JsString) : Prop :=
  store.terms workspaceId = (some .PAYG_AI, some (-1))

/-- A request comes across a trial of the same person or organisation when its time is over, or asks
for another trial in its smoke domain. -/
def RequestExpires (platform : TrialPlatform) (normalized : NormalizedTrialInput) (now : Int)
    (trial : ProcurementTrial) : Prop :=
  (trial.stale now ∧ trial.sharesIdentity normalized) ∨
    (trial.status = .ACTIVE ∧ platform.isSmokeCaptureDomain normalized.emailDomain ∧
      trial.input.emailDomain = normalized.emailDomain)

/-- **The call comes across the trial of the workspace** and lets it expire. -/
def Call.Expires (platform : TrialPlatform) (store : TrialStore) (workspaceId : JsString) :
    Call → Prop
  | webhook .. => False
  | checkBudget checked _ now | requireTrialMcpAccess checked _ now =>
    checked = workspaceId ∧ (store.trialOf workspaceId).any (·.stale now)
  | createProcurementTrial input idempotencyKey _ now =>
    ∃ normalized idemKeyHash idemRequestHash,
      prepareTrial platform input idempotencyKey = .ok (normalized, idemKeyHash, idemRequestHash) ∧
      match store.keys.find? idemKeyHash with
      | some key => key.requestHash = idemRequestHash ∧ key.workspaceId = some workspaceId ∧
        (store.trialOf workspaceId).any (·.stale now)
      | none => ∃ trial ∈ store.trials.rows, trial.workspaceId = some workspaceId ∧
        RequestExpires platform normalized now trial

/-! ## What a call does to them -/

/-- The terms that an expiry leaves. -/
def expiredTerms (terms : Option WorkspacePlan × Option ℚ) : Option WorkspacePlan × Option ℚ :=
  (terms.1.map fun _ => .CORE_FREE, some 0)

@[simp] theorem expiredTerms_idem (terms : Option WorkspacePlan × Option ℚ) :
    expiredTerms (expiredTerms terms) = expiredTerms terms := by
  simp [expiredTerms, Function.comp_def]

section
variable {platform : TrialPlatform} {store store' : TrialStore} {w : JsString} {now : Int}

theorem find?_foldl_set (workspaceIds : List JsString)
    (budgets : KeyedTable ModelUsageBudget ModelUsageBudget.workspaceId) :
    (workspaceIds.foldl (fun budgets workspaceId => budgets.set ⟨workspaceId, 0⟩) budgets).find? w =
      if w ∈ workspaceIds then some ⟨w, 0⟩ else budgets.find? w := by
  induction workspaceIds generalizing budgets with
  | nil => simp
  | cons workspaceId workspaceIds ih =>
    rw [List.foldl_cons, ih, find?_set]
    by_cases hmem : w ∈ workspaceIds
    · simp [hmem]
    · by_cases hw : w = workspaceId
      · simp [hw]
      · simp [hmem, hw]

/-- **An expiry** takes the terms of the workspaces that it names, and of no other. -/
theorem terms_expire (test : ProcurementTrial → Bool) (workspaceIds : List JsString) :
    (store.expire test workspaceIds now).terms w =
      if w ∈ workspaceIds then expiredTerms (store.terms w) else store.terms w := by
  have hplan : ((store.expire test workspaceIds now).billing.workspaces.find? w).map
      BillingWorkspace.plan = if w ∈ workspaceIds then
        ((store.billing.workspaces.find? w).map BillingWorkspace.plan).map fun _ => .CORE_FREE
      else (store.billing.workspaces.find? w).map BillingWorkspace.plan := by
    simp only [TrialStore.expire, find?_updateMany]
    cases hfound : store.billing.workspaces.find? w with
    | none => simp
    | some workspace =>
      have hid := (find?_eq_some.1 hfound).2
      by_cases hmem : w ∈ workspaceIds
      · simp [hid, hmem]
      · simp [hid, hmem]
  have hcap : ((store.expire test workspaceIds now).billing.budgets.find? w).map
      ModelUsageBudget.monthlyCostCapUsd = if w ∈ workspaceIds then some 0
      else (store.billing.budgets.find? w).map ModelUsageBudget.monthlyCostCapUsd := by
    simp only [TrialStore.expire, find?_foldl_set]
    split <;> rfl
  rw [TrialStore.terms, hplan, hcap]
  split <;> rfl

variable {workspaceId : JsString}

theorem terms_expireTrial {trial : ProcurementTrial} (h : store.trialOf workspaceId = some trial) :
    (store.expireTrial trial now).terms w =
      if w = workspaceId then expiredTerms (store.terms w) else store.terms w := by
  rw [TrialStore.expireTrial, terms_expire, trialOf_workspaceId h]
  simp

theorem terms_checkBudget {usedUsd : ℚ} (hplan : (store.terms w).1 ≠ some .CORE_FREE) :
    (checkBudget store workspaceId usedUsd now).1.terms w =
      if workspaceId = w ∧ (store.trialOf w).any (·.stale now) then expiredTerms (store.terms w)
      else store.terms w := by
  unfold checkBudget
  dsimp only
  by_cases hfree : (store.billing.workspaces.find? workspaceId).map BillingWorkspace.plan =
      some .CORE_FREE
  · rw [if_pos hfree, if_neg]
    rintro ⟨rfl, -⟩
    exact hplan hfree
  rw [if_neg hfree]
  cases htrial : store.trialOf workspaceId with
  | none =>
    rw [if_neg]
    rintro ⟨rfl, hstale⟩
    simp [htrial] at hstale
  | some trial =>
    dsimp only
    by_cases hinactive : trial.status ≠ .ACTIVE ∧ trial.status ≠ .CONVERTED
    · rw [if_pos hinactive, if_neg]
      rintro ⟨rfl, hstale⟩
      simp [htrial, ProcurementTrial.stale, hinactive.1] at hstale
    · rw [if_neg hinactive]
      by_cases hstale : trial.stale now
      · rw [if_pos hstale, terms_expireTrial htrial]
        by_cases hw : workspaceId = w
        · simp [← hw, htrial, hstale]
        · simp [hw, Ne.symm hw]
      · rw [if_neg hstale, if_neg]
        rintro ⟨rfl, hany⟩
        simp [htrial, hstale] at hany

theorem terms_requireTrialMcpAccess {workspaceId : JsString} {allowed : Bool} :
    (requireTrialMcpAccess store workspaceId allowed now).1.terms w =
      if workspaceId = w ∧ (store.trialOf w).any (·.stale now) then expiredTerms (store.terms w)
      else store.terms w := by
  unfold requireTrialMcpAccess
  cases htrial : store.trialOf workspaceId with
  | none =>
    rw [if_neg]
    rintro ⟨rfl, hstale⟩
    simp [htrial] at hstale
  | some trial =>
    dsimp only
    by_cases hinactive : trial.status ≠ .ACTIVE
    · rw [if_pos hinactive, if_neg]
      rintro ⟨rfl, hstale⟩
      simp [htrial, ProcurementTrial.stale, hinactive] at hstale
    · rw [if_neg hinactive]
      by_cases hstale : trial.stale now
      · rw [if_pos hstale, terms_expireTrial htrial]
        by_cases hw : workspaceId = w
        · simp [← hw, htrial, hstale]
        · simp [hw, Ne.symm hw]
      · have hkept : ¬ (workspaceId = w ∧ (store.trialOf w).any (·.stale now)) := by
          rintro ⟨rfl, hany⟩
          simp [htrial, hstale] at hany
        rw [if_neg hstale, if_neg hkept]
        split <;> rfl

/-! ### Requests for a trial -/

variable {normalized : NormalizedTrialInput}

/-- A new workspace is none that there was. -/
theorem terms_provisionWorkspace
    (h : provisionWorkspace platform store normalized workspaceId now = .ok store')
    (hw : (store.terms w).1.isSome) : store'.terms w = store.terms w := by
  obtain ⟨slug, -, h⟩ := bind_ok.1 h
  obtain ⟨hnew, h⟩ := require_bind_ok.1 h
  obtain ⟨billing, hbilling, h⟩ := bind_ok.1 h
  cases h
  have hne : w ≠ workspaceId := by
    rintro rfl
    simp [TrialStore.terms, Option.isNone_iff_eq_none.1 hnew] at hw
  rw [setProfile_ok (within_ok hbilling)]
  simp [TrialStore.terms, setBudget, find?_set, hne]

variable {ids : NewIds} {request : TrialRequest}

theorem terms_reviewGated
    (hkey : store.keys.find? request.idemKeyHash = none) :
    (reviewGated store request ids now).1.terms w = store.terms w := by
  unfold reviewGated
  split
  · next created response h =>
    obtain ⟨-, h⟩ := require_bind_ok.1 h
    obtain ⟨saved, hsaved, h⟩ := bind_ok.1 h
    obtain ⟨keyed, hkeyed, h⟩ := bind_ok.1 h
    cases h
    rw [(createKey_ok hkeyed).2, saveTrial_ok hsaved]
    rfl
  · split
    · simp [replayOr, replayExistingIdempotencyKey, hkey]
    · rfl

theorem terms_activeOrReviewGated
    (hkey : store.keys.find? request.idemKeyHash = none) (hw : (store.terms w).1.isSome) :
    (activeOrReviewGated platform store request ids now).1.terms w = store.terms w := by
  unfold activeOrReviewGated
  split
  · next created response h =>
    obtain ⟨provisioned, hprovisioned, h⟩ := bind_ok.1 h
    obtain ⟨-, h⟩ := require_bind_ok.1 h
    obtain ⟨saved, hsaved, h⟩ := bind_ok.1 h
    obtain ⟨keyed, hkeyed, h⟩ := bind_ok.1 h
    cases h
    rw [(createKey_ok hkeyed).2, saveTrial_ok hsaved]
    show provisioned.terms w = store.terms w
    exact terms_provisionWorkspace hprovisioned hw
  · split
    · simp only [replayOr, replayExistingIdempotencyKey, hkey]
      exact terms_reviewGated hkey
    · split
      · simp [replayOr, replayExistingIdempotencyKey, hkey]
      · rfl

theorem mem_staleTrials :
    w ∈ (store.staleTrials normalized now).filterMap ProcurementTrial.workspaceId ↔
      ∃ trial ∈ store.trials.rows, trial.workspaceId = some w ∧ trial.stale now ∧
        trial.sharesIdentity normalized := by
  simp only [TrialStore.staleTrials, List.mem_filterMap, List.mem_filter, Bool.and_eq_true]
  grind

/-- The first of the two expiries leaves a trial as it is, or lets it expire. -/
theorem mem_smokeTrials {test : ProcurementTrial → Bool} {workspaceIds : List JsString} :
    w ∈ ((store.expire test workspaceIds now).smokeTrials platform normalized).filterMap
        ProcurementTrial.workspaceId ↔
      ∃ trial ∈ store.trials.rows, trial.workspaceId = some w ∧ test trial = false ∧
        trial.status = .ACTIVE ∧ platform.isSmokeCaptureDomain normalized.emailDomain ∧
        trial.input.emailDomain = normalized.emailDomain := by
  rw [TrialStore.smokeTrials]
  by_cases hsmoke : platform.isSmokeCaptureDomain normalized.emailDomain
  · simp only [if_pos hsmoke, List.mem_filterMap, List.mem_filter, TrialStore.expire,
      updateMany, List.mem_map, Bool.and_eq_true, decide_eq_true_eq]
    constructor
    · rintro ⟨_, ⟨⟨trial, htrial, rfl⟩, hactive, hdomain⟩, hw⟩
      cases htest : test trial with
      | true => simp [htest] at hactive
      | false =>
        simp only [htest, Bool.false_eq_true, if_false] at hactive hdomain hw
        exact ⟨trial, htrial, hw, htest, hactive, hsmoke, hdomain⟩
    · rintro ⟨trial, htrial, hw, htest, hactive, -, hdomain⟩
      exact ⟨trial, ⟨⟨trial, htrial, by simp [htest]⟩, hactive, hdomain⟩, hw⟩
  · simp [hsmoke]

/-- **A request lets the trials expire** that it comes across. -/
theorem terms_expireForRequest :
    ((∃ trial ∈ store.trials.rows, trial.workspaceId = some w ∧
        RequestExpires platform normalized now trial) →
      (store.expireForRequest platform normalized now).terms w = expiredTerms (store.terms w)) ∧
    ((¬ ∃ trial ∈ store.trials.rows, trial.workspaceId = some w ∧
        RequestExpires platform normalized now trial) →
      (store.expireForRequest platform normalized now).terms w = store.terms w) := by
  simp only [TrialStore.expireForRequest, TrialStore.expireRead, terms_expire]
  constructor
  · rintro ⟨trial, htrial, hw, hexpires⟩
    by_cases hstale : w ∈ (store.staleTrials normalized now).filterMap ProcurementTrial.workspaceId
    · rw [if_pos hstale]
      split
      · exact expiredTerms_idem _
      · rfl
    · rw [if_neg hstale, if_pos]
      rcases hexpires with hstale' | ⟨hactive, hsmoke, hdomain⟩
      · exact absurd (mem_staleTrials.2 ⟨trial, htrial, hw, hstale'⟩) hstale
      · refine mem_smokeTrials.2 ⟨trial, htrial, hw, ?_, hactive, hsmoke, hdomain⟩
        -- a stale trial with its id would be the trial itself
        rw [Bool.eq_false_iff]
        intro hany
        obtain ⟨other, hother, hid⟩ := List.any_eq_true.1 hany
        obtain ⟨hrow, hother⟩ := List.mem_filter.1 hother
        have hsame : other = trial := by
          have h₁ := store.trials.find?_key hrow
          rw [of_decide_eq_true hid, store.trials.find?_key htrial] at h₁
          exact (Option.some.inj h₁).symm
        rw [hsame, Bool.and_eq_true] at hother
        exact hstale (mem_staleTrials.2 ⟨trial, htrial, hw, hother⟩)
  · intro hnot
    rw [if_neg, if_neg]
    · intro hstale
      obtain ⟨trial, htrial, hw, hstale⟩ := mem_staleTrials.1 hstale
      exact hnot ⟨trial, htrial, hw, .inl hstale⟩
    · intro hsmoke
      obtain ⟨trial, htrial, hw, -, hsmoke⟩ := mem_smokeTrials.1 hsmoke
      exact hnot ⟨trial, htrial, hw, .inr hsmoke⟩

variable {key : ProcurementIdempotencyKey}

theorem terms_existingTrialResponse :
    (existingTrialResponse store key now).1.terms w =
      if key.workspaceId = some w ∧ (store.trialOf w).any (·.stale now) then
        expiredTerms (store.terms w)
      else store.terms w := by
  unfold existingTrialResponse
  cases htrial : key.workspaceId.bind store.trialOf with
  | none =>
    rw [if_neg]
    rintro ⟨hkey, hstale⟩
    rw [hkey, Option.bind_some] at htrial
    simp [htrial] at hstale
  | some trial =>
    obtain ⟨workspaceId, hkey, htrial⟩ := Option.bind_eq_some_iff.1 htrial
    dsimp only
    by_cases hstale : trial.stale now
    · rw [if_pos hstale, TrialStore.expireTrialConnector, terms_expire, trialOf_workspaceId htrial,
        hkey]
      by_cases hw : workspaceId = w
      · simp [← hw, htrial, hstale]
      · simp [hw, Ne.symm hw]
    · rw [if_neg hstale, if_neg]
      rintro ⟨hw, hany⟩
      rw [hkey, Option.some.injEq] at hw
      simp [← hw, htrial, hstale] at hany

variable {idemKeyHash idemRequestHash idempotencyKey : JsString} {input : ProcurementTrialInput}

theorem expires_replay_iff
    (hprepared : prepareTrial platform input idempotencyKey =
      .ok (normalized, idemKeyHash, idemRequestHash))
    (hkey : store.keys.find? idemKeyHash = some key) :
    Call.Expires platform store w (.createProcurementTrial input idempotencyKey ids now) ↔
      key.requestHash = idemRequestHash ∧ key.workspaceId = some w ∧
        (store.trialOf w).any (·.stale now) := by
  constructor
  · rintro ⟨normalized', idemKeyHash', idemRequestHash', hprepared', h⟩
    rw [hprepared] at hprepared'
    cases hprepared'
    simpa only [hkey] using h
  · intro h
    refine ⟨normalized, idemKeyHash, idemRequestHash, hprepared, ?_⟩
    simpa only [hkey] using h

theorem expires_request_iff
    (hprepared : prepareTrial platform input idempotencyKey =
      .ok (normalized, idemKeyHash, idemRequestHash))
    (hkey : store.keys.find? idemKeyHash = none) :
    Call.Expires platform store w (.createProcurementTrial input idempotencyKey ids now) ↔
      ∃ trial ∈ store.trials.rows, trial.workspaceId = some w ∧
        RequestExpires platform normalized now trial := by
  constructor
  · rintro ⟨normalized', idemKeyHash', idemRequestHash', hprepared', h⟩
    rw [hprepared] at hprepared'
    cases hprepared'
    simpa only [hkey] using h
  · intro h
    refine ⟨normalized, idemKeyHash, idemRequestHash, hprepared, ?_⟩
    simpa only [hkey] using h

/-- A request with a new key changes the terms of the workspace by its expiries only. -/
theorem terms_newTrial
    (hprepared : prepareTrial platform input idempotencyKey =
      .ok (normalized, idemKeyHash, idemRequestHash))
    (hkey : store.keys.find? idemKeyHash = none)
    (hw : ((store.expireForRequest platform normalized now).terms w).1.isSome) :
    (createProcurementTrial platform store input idempotencyKey ids now).1.terms w =
      (store.expireForRequest platform normalized now).terms w := by
  simp only [createProcurementTrial, hprepared, replayOr, replayExistingIdempotencyKey, hkey]
  split
  · exact terms_reviewGated hkey
  · exact terms_activeOrReviewGated hkey hw

/-- **A request for a trial** takes the terms of the workspaces whose trials it lets expire. -/
theorem terms_createProcurementTrial (hw : (store.terms w).1.isSome) :
    (Call.Expires platform store w (.createProcurementTrial input idempotencyKey ids now) →
      (createProcurementTrial platform store input idempotencyKey ids now).1.terms w =
        expiredTerms (store.terms w)) ∧
    (¬ Call.Expires platform store w (.createProcurementTrial input idempotencyKey ids now) →
      (createProcurementTrial platform store input idempotencyKey ids now).1.terms w =
        store.terms w) := by
  cases hprepared : prepareTrial platform input idempotencyKey with
  | error error =>
    constructor
    · rintro ⟨normalized, idemKeyHash, idemRequestHash, hok, _⟩
      rw [hprepared] at hok
      cases hok
    · intro _
      simp only [createProcurementTrial, hprepared]
  | ok prepared =>
    obtain ⟨normalized, idemKeyHash, idemRequestHash⟩ := prepared
    cases hkey : store.keys.find? idemKeyHash with
    | none =>
      rw [expires_request_iff hprepared hkey]
      obtain ⟨hyes, hno⟩ := @terms_expireForRequest platform store w now normalized
      constructor
      · intro hexpires
        rw [terms_newTrial hprepared hkey, hyes hexpires]
        rw [hyes hexpires]
        simpa [expiredTerms] using hw
      · intro hnot
        rw [terms_newTrial hprepared hkey, hno hnot]
        rwa [hno hnot]
    | some key =>
      rw [expires_replay_iff hprepared hkey]
      simp only [createProcurementTrial, hprepared, replayOr]
      by_cases hsame : key.requestHash = idemRequestHash
      · rw [replayExistingIdempotencyKey_eq hkey hsame]
        simp only [terms_existingTrialResponse]
        exact ⟨fun h => if_pos h.2, fun h => if_neg fun hrest => h ⟨hsame, hrest⟩⟩
      · obtain ⟨error, herror⟩ := replayExistingIdempotencyKey_ne hkey hsame
        rw [herror]
        exact ⟨fun h => absurd h.1 hsame, fun _ => rfl⟩

/-! ### Billing events -/

/-- A committed event does to the terms what its verdict says. -/
structure Follows (billing billing' : BillingStore) (verdict : Option Bool)
    (workspaceId : JsString) : Prop where
  kept : ∀ w, w ≠ workspaceId ∨ verdict = none → billing'.billing w = billing.billing w
  activated : verdict = some true →
    billing'.billing workspaceId = (some .PAYG_AI, some .ACTIVE, some (-1))

section
variable {billing billing' : BillingStore} {workspaceId : JsString}

theorem follows_true
    (h : SetsBilling billing billing' workspaceId (some .PAYG_AI, some .ACTIVE, some (-1))) :
    Follows billing billing' (some true) workspaceId where
  kept w hw := by
    rw [h.billing, if_neg (hw.resolve_right (by simp))]
  activated _ := by rw [h.billing, if_pos rfl]

theorem follows_false {terms : Option WorkspacePlan × Option WorkspaceBillingStatus × Option ℚ}
    (h : SetsBilling billing billing' workspaceId terms) :
    Follows billing billing' (some false) workspaceId where
  kept w hw := by
    rw [h.billing, if_neg (hw.resolve_right (by simp))]
  activated hverdict := by cases hverdict

theorem follows_none (h : ∀ w, billing'.billing w = billing.billing w) :
    Follows billing billing' none workspaceId where
  kept w _ := h w
  activated hverdict := by cases hverdict

/-- **The effects of an event** follow its verdict. -/
theorem stripeEffects_follows {event : StripeEvent} {object : StripeObject}
    {fetched : Except AppError StripeObject} {priceId : Option JsString}
    (h : stripeEffects billing event object workspaceId fetched priceId now = .ok billing') :
    Follows billing billing' (StripeEvent.verdict event object) workspaceId := by
  unfold stripeEffects at h
  unfold StripeEvent.verdict
  split at h
  · next htype =>
    obtain ⟨subscription, -, h⟩ := bind_ok.1 h
    simp only [htype]
    exact follows_true (activatePaygAi_sets h)
  · next htype =>
    simp only [htype]
    cases hstatus : stripeStatus object.status with
    | ACTIVE => exact follows_true (activatePaygAi_sets (hstatus ▸ h))
    | PAST_DUE | PAYMENT_REQUIRED | CANCELED =>
      exact follows_false (pauseAiForBilling_sets (hstatus ▸ h))
    | NONE | CHECKOUT_PENDING =>
      rw [hstatus] at h
      obtain rfl := Except.ok.inj h
      exact follows_none fun _ => rfl
  · next htype =>
    simp only [htype]
    exact follows_false (pauseAiForBilling_sets h)
  · next htype =>
    simp only [htype]
    exact follows_false (pauseAiForBilling_sets h)
  · next htype =>
    obtain ⟨subscription, -, h⟩ := bind_ok.1 h
    obtain ⟨active, hactive, h⟩ := bind_ok.1 h
    obtain rfl := Except.ok.inj h
    simp only [htype]
    obtain ⟨hkept, hactivated⟩ := follows_true (activatePaygAi_sets hactive)
    exact ⟨hkept, hactivated⟩
  · next htype =>
    obtain rfl := Except.ok.inj h
    simp only [htype]
    refine follows_none fun w => ?_
    simp only [BillingStore.billing, find?_updateMany, Option.map_map]
    congr 2
    cases billing.profiles.find? w with
    | none => rfl
    | some profile =>
      rw [Option.map_some, Option.map_some, Function.comp_apply]
      split <;> rfl
  · obtain rfl := Except.ok.inj h
    split
    all_goals first | exact follows_none fun _ => rfl | contradiction

end

/-- The terms are part of what billing looks at. -/
theorem paid_congr (h : store'.billing.billing w = store.billing.billing w) :
    store'.Paid w ↔ store.Paid w := by
  show ((store'.billing.billing w).1, (store'.billing.billing w).2.2) = _ ↔
    ((store.billing.billing w).1, (store.billing.billing w).2.2) = _
  rw [h]

theorem paid_of_billing (h : store.billing.billing w = (some .PAYG_AI, some .ACTIVE, some (-1))) :
    store.Paid w := by
  show ((store.billing.billing w).1, (store.billing.billing w).2.2) = _
  rw [h]

/-! ## Runs that keep the terms -/

/-- As long as the last processed billing event activated the subscription, the terms are paid. -/
def KeepsTerms (w : JsString) (state : CallState) : Prop :=
  state.activated w = true → state.store.Paid w

/-- **A webhook** keeps the terms of a workspace that stays activated. -/
theorem keepsTerms_webhook {activated : JsString → Bool} {event : StripeEvent}
    {fetched : Except AppError StripeObject} {priceId : Option JsString} {aborts : Bool}
    (hgood : KeepsTerms w ⟨store, activated⟩) :
    KeepsTerms w (Call.apply platform ⟨store, activated⟩
      (.webhook event fetched priceId aborts now)) := by
  simp only [KeepsTerms, Call.apply, handleStripeWebhook]
  have hreceived : (receiveStripeEvent store.billing event).1.billing w = store.billing.billing w :=
    receiveStripeEvent_billing
  split
  · intro hactivated
    exact (paid_congr hreceived).2 (hgood hactivated)
  · cases htransaction : transaction (receiveStripeEvent store.billing event).1 event
        (stripeTarget (receiveStripeEvent store.billing event).1 event) fetched priceId aborts
        now with
    | error error =>
      intro hactivated
      exact (paid_congr hreceived).2 (hgood hactivated)
    | ok billing' =>
      rw [transaction] at htransaction
      split at htransaction
      · cases htransaction
      · cases htarget : stripeTarget (receiveStripeEvent store.billing event).1 event with
        | none =>
          rw [htarget] at htransaction
          obtain rfl := Except.ok.inj htransaction
          intro hactivated
          exact (paid_congr hreceived).2 (hgood hactivated)
        | some target =>
          obtain ⟨object, workspaceId⟩ := target
          rw [htarget] at htransaction
          obtain ⟨hkept, hpaid⟩ := stripeEffects_follows htransaction
          dsimp only [recordVerdict]
          intro hactivated
          cases hverdict : StripeEvent.verdict event object with
          | none =>
            rw [hverdict] at hactivated
            refine (paid_congr ?_).2 (hgood hactivated)
            exact (hkept w (.inr hverdict)).trans hreceived
          | some verdict =>
            rw [hverdict] at hactivated
            by_cases hw : w = workspaceId
            · subst hw
              simp only [Function.update_self] at hactivated
              exact paid_of_billing (hpaid (hactivated ▸ hverdict))
            · simp only [Function.update_of_ne hw] at hactivated
              refine (paid_congr ?_).2 (hgood hactivated)
              exact (hkept w (.inl hw)).trans hreceived

/-- Paid terms are kept exactly by what does not take them. -/
theorem paid_iff {P : Prop} (hpaid : store.Paid w)
    (hyes : P → store'.terms w = expiredTerms (store.terms w))
    (hno : ¬ P → store'.terms w = store.terms w) : store'.Paid w ↔ ¬ P := by
  constructor
  · intro hpaid' hP
    rw [TrialStore.Paid, hyes hP, hpaid] at hpaid'
    simp [expiredTerms] at hpaid'
  · intro hP
    exact (hno hP).trans hpaid

/-- **A call** keeps the terms of a paid workspace unless it comes across its trial. -/
theorem keepsTerms_apply_iff (state : CallState) (call : Call) (hgood : KeepsTerms w state) :
    KeepsTerms w (call.apply platform state) ↔
      ¬ (state.activated w = true ∧ call.Expires platform state.store w) := by
  cases call with
  | webhook event fetched priceId aborts now =>
    exact iff_of_true (keepsTerms_webhook hgood) (by simp [Call.Expires])
  | checkBudget workspaceId usedUsd now =>
    rw [not_and]
    refine imp_congr_right fun hactivated => ?_
    have hplan : (state.store.terms w).1 ≠ some .CORE_FREE := by
      rw [hgood hactivated]
      simp
    refine paid_iff (hgood hactivated) ?_ ?_
    · exact fun hexpires => (terms_checkBudget hplan).trans (if_pos hexpires)
    · exact fun hnot => (terms_checkBudget hplan).trans (if_neg hnot)
  | requireTrialMcpAccess workspaceId allowed now =>
    rw [not_and]
    refine imp_congr_right fun hactivated => paid_iff (hgood hactivated) ?_ ?_
    · exact fun hexpires => terms_requireTrialMcpAccess.trans (if_pos hexpires)
    · exact fun hnot => terms_requireTrialMcpAccess.trans (if_neg hnot)
  | createProcurementTrial input idempotencyKey ids now =>
    rw [not_and]
    refine imp_congr_right fun hactivated => ?_
    have hsome : (state.store.terms w).1.isSome := by
      rw [hgood hactivated]
      rfl
    obtain ⟨hyes, hno⟩ := terms_createProcurementTrial hsome
    exact paid_iff (hgood hactivated) hyes hno

/-- **A paid workspace keeps its terms** in every state of a run, as long as the last processed
billing event activated its subscription, exactly if no call comes across its trial when that is
over, or asks for another trial in its smoke domain. -/
theorem paid_terms_kept_iff (platform : TrialPlatform) (store : TrialStore) (w : JsString)
    (calls : List Call) :
    (∀ done, done <+: calls → (runCalls platform store done).activated w = true →
      (runCalls platform store done).store.Paid w) ↔
    ∀ done call, done ++ [call] <+: calls →
      ¬ ((runCalls platform store done).activated w = true ∧
        call.Expires platform (runCalls platform store done).store w) :=
  @List.forall_prefix_foldl_iff _ _ (Call.apply platform) ⟨store, fun _ => false⟩
    (KeepsTerms w)
    (fun state call => state.activated w = true ∧ call.Expires platform state.store w)
    (fun h => by cases h) keepsTerms_apply_iff calls

end

/-! ## A trial that is paid for, and over -/

def emptyStore : TrialStore where
  billing := ⟨.empty, .empty, .empty, .empty, .empty, .empty, .empty⟩
  slugs := .empty
  trials := .empty
  keys := .empty

/-- A trial, its payment, and a check of the budget at the time. -/
def paidTrialCalls (now : Int) : List Call :=
  [.createProcurementTrial sampleInput (lit "key") ⟨lit "t", lit "w", lit "c"⟩ 0,
    .webhook activeEvent (.ok (sampleSubscription "active")) (some (lit "price")) false 5,
    .checkBudget (lit "w") 1 now]

/-- **The end of the trial takes the paid terms**: the workspace is activated and on `PAYG_AI` the
day before, and on `CORE_FREE` with a cap of nothing on the day that the trial is over. -/
theorem not_paid_terms_kept :
    (runCalls samplePlatform emptyStore (paidTrialCalls 0)).store.Paid (lit "w") ∧
    (runCalls samplePlatform emptyStore (paidTrialCalls PROCUREMENT_TRIAL_TTL_MS)).activated
      (lit "w") = true ∧
    (runCalls samplePlatform emptyStore (paidTrialCalls PROCUREMENT_TRIAL_TTL_MS)).store.terms
      (lit "w") = (some .CORE_FREE, some 0) := by
  unfold TrialStore.Paid
  decide +kernel

end Corgtex.Domain.ProcurementTrials
