import Corgtex.Library.JsString
import Corgtex.Workflows.Events
import Corgtex.Workflows.Jobs
import Mathlib.Algebra.Order.Ring.Nat

/-!
# Webhook deliveries

`deliverWebhook` (`domain/src/webhooks.ts:169`) is the handler of a `webhook.deliver` job.
It reads the delivery, calls the endpoint, and records what came of it on the row of the delivery,
from the number of attempts that it has read. A failed attempt is recorded, not thrown, so the job
completes as after any other. The row has a retry time of its own, which nothing reads.
-/

namespace Corgtex.Workflows

open JsString

/-! ## Tables -/

/-- `WebhookDeliveryStatus` (`schema.prisma:4486`). -/
inductive WebhookDeliveryStatus where
  | PENDING | DELIVERED | FAILED
deriving DecidableEq, Repr

/-- A row of `WebhookDelivery`, with what the attempts write and without the payload. -/
structure WebhookDeliveryRow where
  id : String
  endpointId : String
  eventType : String
  status : WebhookDeliveryStatus
  httpStatus : Option Nat
  responseBody : Option JsString
  attempts : Nat
  lastAttemptedAt : Option Nat
  nextRetryAt : Option Nat
  error : Option JsString
deriving DecidableEq

/-- The row that `createWebhookDeliveries` creates (line 155). -/
def WebhookDelivery.row (delivery : WebhookDelivery) : WebhookDeliveryRow where
  id := delivery.id
  endpointId := delivery.endpointId
  eventType := delivery.eventType
  status := .PENDING
  httpStatus := none
  responseBody := none
  attempts := 0
  lastAttemptedAt := none
  nextRetryAt := some delivery.nextRetryAt
  error := none

abbrev WebhookDeliveryTable := KeyedTable WebhookDeliveryRow WebhookDeliveryRow.id

/-- `createManyAndReturn` of deliveries; the ids are new. -/
def createDeliveryRows (deliveries : WebhookDeliveryTable) :
    List WebhookDelivery → Except Thrown WebhookDeliveryTable
  | [] => .ok deliveries
  | delivery :: rest =>
    if h : delivery.row.id ∈ deliveries.rows.map WebhookDeliveryRow.id then
      .error (.error "Unique constraint failed on the fields: (id)" (some "P2002"))
    else createDeliveryRows (deliveries.insert delivery.row h) rest

/-! ## Attempts -/

def MAX_DELIVERY_ATTEMPTS : Nat := 5
def DELIVERY_RETRY_BASE_MS : Nat := 30000

/-- A response of the endpoint, or the message of what the call throws. -/
abbrev WebhookReply := Except JsString (Nat × JsString)

/-- `response.ok`. -/
def isOk (status : Nat) : Bool := 200 ≤ status && status ≤ 299

/-- The update of an attempt that the endpoint has accepted (line 202). -/
def delivered (delivery : WebhookDeliveryRow) (status : Nat) (body : JsString) (now : Nat)
    (row : WebhookDeliveryRow) : WebhookDeliveryRow :=
  { row with
    status := .DELIVERED
    httpStatus := some status
    responseBody := some (body.take 2000)
    attempts := delivery.attempts + 1
    lastAttemptedAt := some now
    error := none }

/-- The update of `handleDeliveryFailure` (line 225). -/
def handleDeliveryFailure (attempts : Nat) (error : JsString) (httpStatus : Option Nat) (now : Nat)
    (row : WebhookDeliveryRow) : WebhookDeliveryRow :=
  let isFinal := MAX_DELIVERY_ATTEMPTS ≤ attempts
  { row with
    status := if isFinal then .FAILED else .PENDING
    httpStatus
    attempts
    lastAttemptedAt := some now
    error := some error
    nextRetryAt := if isFinal then none
      else some (now + DELIVERY_RETRY_BASE_MS * 2 ^ (attempts - 1)) }

/-- The error of a response that is not ok (line 215). -/
def httpError (status : Nat) (body : JsString) : JsString :=
  lit "HTTP " ++ lit (toString status) ++ lit ": " ++ body.take 500

/-! ## The system -/

/-- A call of `deliverWebhook`: it has read the delivery and waits for the endpoint, it has caught
an error, or it has returned. -/
inductive WebhookCall where
  | attempting (delivery : WebhookDeliveryRow)
  | failing (delivery : WebhookDeliveryRow) (error : JsString)
  | returned
deriving DecidableEq

/-- The jobs and the deliveries, the endpoints that are `ACTIVE`, for each worker and job the call
that is under way, and how many attempts of a delivery have been recorded. -/
structure WebhookSystem (π : Type) where
  system : JobSystem π
  deliveries : WebhookDeliveryTable
  active : String → Bool
  calls : String × String → Option WebhookCall
  recorded : String → Nat

/-- What the handlers read from a payload; `deliveryId` is the non-empty string under that name. -/
structure WebhookReader (π : Type) extends PayloadReader π, Dispatcher π where
  deliveryId : π → Option String

/-- What happens next: the deliveries of an event are created, an endpoint is changed, a call reads
its delivery, hears from the endpoint, or records what it has caught, or a job moves. `stored`
denies an update that throws `error`. -/
inductive WebhookStep (π : Type) where
  | dispatch (event : ClaimedEvent π) (reads : DispatchReads π Unit)
  | endpoint (endpointId : String) (active : Bool)
  | read (workerId jobId : String)
  | respond (workerId jobId : String) (reply : WebhookReply) (stored : Bool) (error : JsString)
      (now : Nat)
  | caught (workerId jobId : String) (stored : Bool) (error : Thrown) (now : Nat)
  | job (action : JobAction π)

namespace WebhookSystem

section
variable {π : Type} (s : WebhookSystem π) (workerId jobId : String)

def setCall (call : Option WebhookCall) : WebhookSystem π :=
  { s with calls := Function.update s.calls (workerId, jobId) call }

/-- An update of the row of a delivery by an attempt. -/
def record (id : String) (data : WebhookDeliveryRow → WebhookDeliveryRow)
    (hid : ∀ row, (data row).id = row.id) : WebhookSystem π :=
  { s with
    deliveries := s.deliveries.update id data hid
    recorded := Function.update s.recorded id (s.recorded id + 1) }

/-- The endpoint has answered, or the call has thrown (line 199). -/
def respond (delivery : WebhookDeliveryRow) (reply : WebhookReply) (stored : Bool)
    (error : JsString) (now : Nat) : WebhookSystem π :=
  match reply with
  | .ok (status, body) =>
    if !stored then s.setCall workerId jobId (some (.failing delivery error))
    else if isOk status then
      (s.record delivery.id (delivered delivery status body now) fun _ => rfl).setCall workerId
        jobId (some .returned)
    else
      (s.record delivery.id (handleDeliveryFailure (delivery.attempts + 1) (httpError status body)
        (some status) now) fun _ => rfl).setCall workerId jobId (some .returned)
  | .error message => s.setCall workerId jobId (some (.failing delivery message))

variable [DecidableEq π] (reader : WebhookReader π)

/-- The `catch` of `deliverWebhook` (line 217). -/
def caught (delivery : WebhookDeliveryRow) (message : JsString) (stored : Bool) (error : Thrown)
    (now : Nat) : WebhookSystem π :=
  if stored then
    (s.record delivery.id (handleDeliveryFailure (delivery.attempts + 1) message none now)
      fun _ => rfl).setCall workerId jobId (some .returned)
  else
    { s with system := s.system.apply reader.toPayloadReader (.threw workerId jobId error) }.setCall
      workerId jobId none

/-- `deliverWebhook` up to its call (line 170), in `handleJob` (`outbox.ts:1046`). -/
def read (payload : π) : WebhookCall :=
  match (reader.deliveryId payload).bind s.deliveries.find? with
  | some delivery => if s.active delivery.endpointId then .attempting delivery else .returned
  | none => .returned

/-- The deliveries of an event and their jobs (`outbox.ts:1232`). -/
def dispatch (event : ClaimedEvent π) (reads : DispatchReads π Unit) :
    Except Thrown (WebhookSystem π) := do
  let created := webhookDeliveries reads event
  let deliveries ← createDeliveryRows s.deliveries created
  let jobs ← created.foldlM (enqueueWebhookJob reader.toDispatcher reads event) s.system.jobs
  return { s with system := { s.system with jobs }, deliveries }

/-- The worker's handler of a `webhook.deliver` job has returned before its job is settled, and the
checks around it throw before or after it. -/
def allows : JobAction π → Bool
  | .returned workerId jobId _ _ =>
    ((s.system.inFlight workerId).find? jobId).all fun e =>
      e.job.type ≠ "webhook.deliver" || s.calls (workerId, jobId) = some .returned
  | .threw workerId jobId _ =>
    s.calls (workerId, jobId) = none || s.calls (workerId, jobId) = some .returned
  | _ => true

/-- The calls that are left after the job has left the worker's hands. -/
def callsAfter : JobAction π → String × String → Option WebhookCall
  | .returned workerId jobId _ _ | .threw workerId jobId _ | .abandon workerId jobId =>
    Function.update s.calls (workerId, jobId) none
  | _ => s.calls

def apply : WebhookStep π → WebhookSystem π
  | .dispatch event reads =>
    match s.dispatch reader event reads with
    | .ok s' => s'
    | .error _ => s
  | .endpoint endpointId active => { s with active := Function.update s.active endpointId active }
  | .read workerId jobId =>
    match (s.system.inFlight workerId).find? jobId with
    | some e =>
      if e.job.type = "webhook.deliver" ∧ e.failure = none ∧ s.calls (workerId, jobId) = none then
        s.setCall workerId jobId (some (s.read reader e.job.payload))
      else s
    | none => s
  | .respond workerId jobId reply stored error now =>
    match s.calls (workerId, jobId) with
    | some (.attempting delivery) => s.respond workerId jobId delivery reply stored error now
    | _ => s
  | .caught workerId jobId stored error now =>
    match s.calls (workerId, jobId) with
    | some (.failing delivery message) =>
      s.caught workerId jobId reader delivery message stored error now
    | _ => s
  | .job action =>
    if s.allows action then
      { s with
        system := s.system.apply reader.toPayloadReader action
        calls := s.callsAfter action }
    else s

def run (s : WebhookSystem π) (steps : List (WebhookStep π)) : WebhookSystem π :=
  steps.foldl (fun s step => s.apply reader step) s

end

end WebhookSystem

end Corgtex.Workflows
