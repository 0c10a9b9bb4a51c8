import Corgtex.Domain.Errors
import Corgtex.Library.JsString
import Corgtex.Library.KeyedTable
import Mathlib.Algebra.Order.Ring.Nat
import Mathlib.Data.Rat.Defs

/-!
# Billing

`billing.ts`: a workspace has a plan, a budget for its models and a billing
profile, each a row of its own. A subscription that Stripe reports as active sets all three
(`activatePaygAi`), one that is not paid takes them back (`pauseAiForBilling`), and a new checkout
writes the profile only (`createStripeCheckoutSession`). The first statement of the two transactions
updates the row of the workspace and so holds its lock, so those of one workspace follow each other.
-/

namespace Corgtex.Domain.Billing

open JsString

/-! ## Tables -/

/-- `WorkspacePlan` (`schema.prisma`). -/
inductive WorkspacePlan
  | TRIAL | CORE_FREE | PAYG_AI | ENTERPRISE_MANAGED
deriving DecidableEq, Repr

/-- `WorkspaceBillingStatus` (`schema.prisma`). -/
inductive WorkspaceBillingStatus
  | NONE | CHECKOUT_PENDING | ACTIVE | PAST_DUE | PAYMENT_REQUIRED | CANCELED
deriving DecidableEq, Repr

/-- `AiUsageLedgerStatus` (`schema.prisma`). -/
inductive AiUsageLedgerStatus
  | PENDING | REPORTED | INVOICED | FAILED
deriving DecidableEq, Repr

/-- The columns of `Workspace` that billing writes. -/
structure BillingWorkspace where
  id : JsString
  plan : WorkspacePlan
  planActivatedAt : Int
deriving DecidableEq

structure ModelUsageBudget where
  workspaceId : JsString
  monthlyCostCapUsd : ℚ
deriving DecidableEq

structure WorkspaceBillingProfile where
  workspaceId : JsString
  stripeCustomerId : Option JsString
  stripeSubscriptionId : Option JsString
  stripeSubscriptionItemId : Option JsString
  stripePriceId : Option JsString
  stripeCheckoutSessionId : Option JsString
  billingStatus : WorkspaceBillingStatus
  billingEmail : Option JsString
  paymentMethodReady : Bool
  currentPeriodStart : Option Int
  currentPeriodEnd : Option Int
  failedPaymentAt : Option Int
  canceledAt : Option Int
deriving DecidableEq

/-- The flag `MEETING_RECORDERS` of a workspace, with what its `config` says of a purchased access
and the time of its grant. -/
structure RecorderFlag where
  workspaceId : JsString
  enabled : Bool
  purchased : Bool
  grantedAt : Option Int
  updatedAt : Int
deriving DecidableEq

/-- `CustomerAccount`, with the workspaces that its deployments manage. -/
structure CustomerAccount where
  id : JsString
  active : Bool
  managedWorkspaceIds : List JsString
deriving DecidableEq

/-- `AiUsageLedgerEntry`: `billableCostUsd` is a `Decimal(12, 6)`, so a number of millionths. -/
structure AiUsageLedgerEntry where
  id : JsString
  workspaceId : JsString
  billableMicros : Fin (10 ^ 12)
  status : AiUsageLedgerStatus
  stripeUsageRecordId : Option JsString
  stripeInvoiceId : Option JsString
  stripeReportedAt : Option Int
  lastReportError : Option String
  createdAt : Int
deriving DecidableEq

structure StripeWebhookEvent where
  id : JsString
  type : String
  processedAt : Option Int
  error : Option String
deriving DecidableEq

structure BillingStore where
  workspaces : KeyedTable BillingWorkspace BillingWorkspace.id
  budgets : KeyedTable ModelUsageBudget ModelUsageBudget.workspaceId
  profiles : KeyedTable WorkspaceBillingProfile WorkspaceBillingProfile.workspaceId
  flags : KeyedTable RecorderFlag RecorderFlag.workspaceId
  accounts : KeyedTable CustomerAccount CustomerAccount.id
  ledger : KeyedTable AiUsageLedgerEntry AiUsageLedgerEntry.id
  events : KeyedTable StripeWebhookEvent StripeWebhookEvent.id

/-- What a statement throws that the database refuses; only that it throws matters. -/
def databaseError (message : String) : AppError := ⟨500, "INTERNAL_ERROR", message⟩

/-! ## Activation and pause -/

/-- `BillingActivation` (line 17). -/
structure BillingActivation where
  stripeCustomerId : Option JsString
  stripeSubscriptionId : Option JsString
  stripeSubscriptionItemId : Option JsString
  stripePriceId : Option JsString
  billingEmail : Option JsString
  currentPeriodStart : Option Int
  currentPeriodEnd : Option Int

section
variable (store : BillingStore) (workspaceId : JsString)

/-- `workspace.update` of the plan; it throws where there is no such workspace. -/
def setPlan (plan : WorkspacePlan) (now : Int) : Except AppError BillingStore :=
  match store.workspaces.find? workspaceId with
  | none => .error (databaseError "Record to update not found.")
  | some workspace => .ok { store with
      workspaces := store.workspaces.set { workspace with plan := plan, planActivatedAt := now } }

/-- `modelUsageBudget.upsert`. -/
def setBudget (cap : ℚ) : BillingStore :=
  { store with budgets := store.budgets.set ⟨workspaceId, cap⟩ }

end

def WorkspaceBillingProfile.new (workspaceId : JsString) : WorkspaceBillingProfile where
  workspaceId := workspaceId
  stripeCustomerId := none
  stripeSubscriptionId := none
  stripeSubscriptionItemId := none
  stripePriceId := none
  stripeCheckoutSessionId := none
  billingStatus := .NONE
  billingEmail := none
  paymentMethodReady := false
  currentPeriodStart := none
  currentPeriodEnd := none
  failedPaymentAt := none
  canceledAt := none

section
variable (store : BillingStore)

/-- Another workspace has the customer or the subscription of a profile (`@unique`). -/
def BillingStore.taken (profile : WorkspaceBillingProfile) : Bool :=
  store.profiles.rows.any fun other => other.workspaceId ≠ profile.workspaceId &&
    ((profile.stripeCustomerId.isSome && other.stripeCustomerId = profile.stripeCustomerId) ||
      (profile.stripeSubscriptionId.isSome &&
        other.stripeSubscriptionId = profile.stripeSubscriptionId))

/-- `workspaceBillingProfile.upsert`; it throws where a unique column is taken. -/
def setProfile (profile : WorkspaceBillingProfile) : Except AppError BillingStore :=
  if store.taken profile then .error (databaseError "Unique constraint failed.")
  else .ok { store with profiles := store.profiles.set profile }

variable (workspaceId : JsString)

/-- `setPurchasedRecorderAccess` (line 145); `RECORDER_ACCESS_EXTERNAL_TOUCH_GRACE_MS` is 5000. -/
def setPurchasedRecorderAccess (enabled : Bool) (now : Int) : BillingStore :=
  let existing := store.flags.find? workspaceId
  let touched := existing.any fun flag => flag.grantedAt.any fun grantedAt =>
    5000 < flag.updatedAt - grantedAt
  if enabled && existing.any (·.enabled) then store
  else if !enabled && (!existing.any (·.purchased) || touched) then store
  else { store with flags := store.flags.set {
    workspaceId := workspaceId, enabled := enabled, purchased := enabled
    grantedAt := if enabled then some now else existing.bind RecorderFlag.grantedAt
    updatedAt := now } }

/-- `customerAccount.updateMany` (line 222). -/
def activateAccounts : BillingStore :=
  { store with
    accounts := store.accounts.updateMany (·.managedWorkspaceIds.contains workspaceId)
      (fun account => { account with active := true }) fun _ => rfl }

/-- The profile of a workspace, or a new one. -/
def BillingStore.profile : WorkspaceBillingProfile :=
  (store.profiles.find? workspaceId).getD (.new workspaceId)

end

/-- The profile that an activation writes: what it does not know stays as it was. -/
def activeProfile (profile : WorkspaceBillingProfile) (params : BillingActivation) :
    WorkspaceBillingProfile :=
  { profile with
    billingStatus := .ACTIVE
    stripeCustomerId := params.stripeCustomerId.or profile.stripeCustomerId
    stripeSubscriptionId := params.stripeSubscriptionId.or profile.stripeSubscriptionId
    stripeSubscriptionItemId := params.stripeSubscriptionItemId.or profile.stripeSubscriptionItemId
    stripePriceId := params.stripePriceId.or profile.stripePriceId
    billingEmail := params.billingEmail.or profile.billingEmail
    paymentMethodReady := true
    failedPaymentAt := none
    canceledAt := none
    currentPeriodStart := params.currentPeriodStart.or profile.currentPeriodStart
    currentPeriodEnd := params.currentPeriodEnd.or profile.currentPeriodEnd }

/-- `activatePaygAi` (line 178). -/
def activatePaygAi (store : BillingStore) (workspaceId : JsString) (params : BillingActivation)
    (now : Int) : Except AppError BillingStore := do
  let store ← setPlan store workspaceId .PAYG_AI now
  let store := setBudget store workspaceId (-1)
  let store ← setProfile store (activeProfile (store.profile workspaceId) params)
  .ok (activateAccounts (setPurchasedRecorderAccess store workspaceId true now) workspaceId)

/-- The profile that a pause writes. -/
def pausedProfile (profile : WorkspaceBillingProfile) (status : WorkspaceBillingStatus)
    (now : Int) : WorkspaceBillingProfile :=
  { profile with
    billingStatus := status
    paymentMethodReady := false
    canceledAt := if status = .CANCELED then some now else profile.canceledAt
    failedPaymentAt := if status = .CANCELED then profile.failedPaymentAt else some now }

/-- `pauseAiForBilling` (line 235); it throws where there is no profile. -/
def pauseAiForBilling (store : BillingStore) (workspaceId : JsString)
    (status : WorkspaceBillingStatus) (now : Int) : Except AppError BillingStore := do
  let store ← setPlan store workspaceId .CORE_FREE now
  let store := setBudget store workspaceId 0
  match store.profiles.find? workspaceId with
  | none => throw (databaseError "Record to update not found.")
  | some profile =>
    let store := { store with profiles := store.profiles.set (pausedProfile profile status now) }
    .ok (setPurchasedRecorderAccess store workspaceId false now)

/-! ## Checkout -/

/-- A call of `createStripeCheckoutSession`: what the membership check decides, the address of the
user (none for an agent), the price, and the ids that Stripe replies with. -/
structure CheckoutCall where
  workspaceId : JsString
  allowed : Except AppError Unit
  email : Option JsString
  priceId : Option JsString
  customer : Except AppError JsString
  session : Except AppError JsString

/-- The customer of the workspace, created where it has none (line 339). -/
def checkoutCustomer (store : BillingStore) (call : CheckoutCall) : Except AppError JsString :=
  match (store.profiles.find? call.workspaceId).bind WorkspaceBillingProfile.stripeCustomerId with
  | some stripeCustomerId => .ok stripeCustomerId
  | none => call.customer

/-- The profile that a checkout writes (line 360). -/
def pendingProfile (profile : WorkspaceBillingProfile)
    (stripeCustomerId session priceId email : JsString) : WorkspaceBillingProfile :=
  { profile with
    stripeCustomerId := some stripeCustomerId
    stripeCheckoutSessionId := some session
    stripePriceId := some priceId
    billingStatus := .CHECKOUT_PENDING
    billingEmail := some email }

/-- `createStripeCheckoutSession` (line 323). -/
def createStripeCheckoutSession (store : BillingStore) (call : CheckoutCall) :
    Except AppError BillingStore := do
  call.allowed
  match call.email, call.priceId with
  | none, _ => throw ⟨403, "FORBIDDEN", "Only users can start billing checkout."⟩
  | some _, none =>
    throw ⟨503, "STRIPE_PRICE_NOT_CONFIGURED", "Stripe AI usage price is not configured."⟩
  | some email, some priceId => do
    invariant (store.workspaces.find? call.workspaceId).isSome 404 "NOT_FOUND"
      "Workspace not found."
    let stripeCustomerId ← checkoutCustomer store call
    let session ← call.session
    setProfile store
      (pendingProfile (store.profile call.workspaceId) stripeCustomerId session priceId email)

/-! ## Events -/

/-- What `stringField`, `numberDate` and `subscriptionItemIdFromObject` read of an object. -/
structure StripeObject where
  id : Option JsString
  customer : Option JsString
  subscription : Option JsString
  status : Option JsString
  customerEmail : Option JsString
  clientReferenceId : Option JsString
  metadataWorkspaceId : Option JsString
  subscriptionItemId : Option JsString
  currentPeriodStart : Option Int
  currentPeriodEnd : Option Int
deriving DecidableEq

/-- A verified event, with the time at which Stripe created it. -/
structure StripeEvent where
  id : JsString
  type : String
  created : Int
  object : Option StripeObject
deriving DecidableEq

/-- `stripeStatus` (line 58). -/
def stripeStatus (status : Option JsString) : WorkspaceBillingStatus :=
  if status = some (lit "active") ∨ status = some (lit "trialing") then .ACTIVE
  else if status = some (lit "past_due") then .PAST_DUE
  else if status = some (lit "canceled") then .CANCELED
  else if status = some (lit "unpaid") ∨ status = some (lit "incomplete") ∨
    status = some (lit "incomplete_expired") then .PAYMENT_REQUIRED
  else .CHECKOUT_PENDING

/-- `resolveWorkspaceIdFromStripeObject` (line 429). -/
def resolveWorkspaceIdFromStripeObject (store : BillingStore) (object : StripeObject) :
    Option JsString :=
  (object.metadataWorkspaceId.or object.clientReferenceId).or <|
    (store.profiles.rows.find? fun profile =>
      (object.customer.isSome && profile.stripeCustomerId = object.customer) ||
        ((object.subscription.or object.id).isSome &&
          profile.stripeSubscriptionId = object.subscription.or object.id)).map
      WorkspaceBillingProfile.workspaceId

/-- The subscription of a checkout or an invoice, which is fetched where there is one (line 458). -/
def fetchSubscription (object : StripeObject) (fetched : Except AppError StripeObject) :
    Except AppError (Option StripeObject) :=
  match object.subscription with
  | none => .ok none
  | some _ => fetched.map some

/-- The activation by a checkout or an invoice. -/
def fetchedActivation (object : StripeObject) (subscription : Option StripeObject)
    (priceId billingEmail : Option JsString) : BillingActivation where
  stripeCustomerId := object.customer
  stripeSubscriptionId := object.subscription
  stripeSubscriptionItemId := subscription.bind StripeObject.subscriptionItemId
  stripePriceId := priceId
  billingEmail := billingEmail
  currentPeriodStart := subscription.bind StripeObject.currentPeriodStart
  currentPeriodEnd := subscription.bind StripeObject.currentPeriodEnd

section
variable (store : BillingStore)

/-- The reported usage goes on the invoice (line 513). -/
def invoiceUsage (workspaceId : JsString) (stripeInvoiceId : Option JsString) : BillingStore :=
  { store with
    ledger := store.ledger.updateMany
      (fun entry => entry.workspaceId = workspaceId && entry.status = .REPORTED &&
        entry.stripeInvoiceId = none)
      (fun entry => { entry with status := .INVOICED, stripeInvoiceId := stripeInvoiceId })
      fun _ => rfl }

/-- What a subscription that Stripe has changed does (line 475). -/
def applySubscription (workspaceId : JsString) (object : StripeObject)
    (status : WorkspaceBillingStatus) (priceId : Option JsString) (now : Int) :
    Except AppError BillingStore :=
  match status with
  | .ACTIVE => activatePaygAi store workspaceId {
      stripeCustomerId := object.customer
      stripeSubscriptionId := object.id
      stripeSubscriptionItemId := object.subscriptionItemId
      stripePriceId := priceId
      billingEmail := none
      currentPeriodStart := object.currentPeriodStart
      currentPeriodEnd := object.currentPeriodEnd } now
  | .PAST_DUE => pauseAiForBilling store workspaceId .PAST_DUE now
  | .PAYMENT_REQUIRED => pauseAiForBilling store workspaceId .PAYMENT_REQUIRED now
  | .CANCELED => pauseAiForBilling store workspaceId .CANCELED now
  | .NONE | .CHECKOUT_PENDING => .ok store

/-- The effects of an event on the workspace that it was resolved to, in one transaction (line 456).
-/
def stripeEffects (event : StripeEvent) (object : StripeObject)
    (workspaceId : JsString) (fetched : Except AppError StripeObject) (priceId : Option JsString)
    (now : Int) : Except AppError BillingStore :=
  match event.type with
  | "checkout.session.completed" => do
    let subscription ← fetchSubscription object fetched
    activatePaygAi store workspaceId
      (fetchedActivation object subscription priceId object.customerEmail) now
  | "customer.subscription.updated" =>
    applySubscription store workspaceId object (stripeStatus object.status) priceId now
  | "customer.subscription.deleted" =>
    applySubscription store workspaceId object .CANCELED priceId now
  | "invoice.payment_failed" => pauseAiForBilling store workspaceId .PAST_DUE now
  | "invoice.payment_succeeded" => do
    let subscription ← fetchSubscription object fetched
    let store ← activatePaygAi store workspaceId
      (fetchedActivation object subscription priceId none) now
    .ok (invoiceUsage store workspaceId object.id)
  | "payment_method.detached" => .ok { store with
      profiles := store.profiles.updateMany (·.workspaceId = workspaceId)
        (fun profile => { profile with paymentMethodReady := false }) fun _ => rfl }
  | _ => .ok store

/-- The workspace that an event is about, if there is one (line 451). -/
def stripeTarget (event : StripeEvent) : Option (StripeObject × JsString) :=
  event.object.bind fun object =>
    (resolveWorkspaceIdFromStripeObject store object).map fun workspaceId => (object, workspaceId)

end

/-! ## Deliveries -/

/-- `stripeWebhookEvent.upsert` (line 539): the store, and whether the event has been processed. -/
def receiveStripeEvent (store : BillingStore) (event : StripeEvent) : BillingStore × Bool :=
  match store.events.find? event.id with
  | some stored => (store, stored.processedAt.isSome)
  | none => ({ store with events := store.events.set ⟨event.id, event.type, none, none⟩ }, false)

/-- The mark after the effects (line 554). -/
def markProcessed (store : BillingStore) (eventId : JsString) (now : Int) : BillingStore :=
  { store with
    events := store.events.update eventId
      (fun stored => { stored with processedAt := some now, error := none }) fun _ => rfl }

/-- The mark of an error (line 561). -/
def markError (store : BillingStore) (eventId : JsString) (error : String) : BillingStore :=
  { store with
    events := store.events.update eventId (fun stored => { stored with error := some error })
      fun _ => rfl }

end Corgtex.Domain.Billing
