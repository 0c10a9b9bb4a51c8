import Corgtex.Domain.Errors
import Corgtex.Workflows.Outbox
import Mathlib.Data.List.Induction

/-!
# Dispatching events

`dispatchPendingEvents` (`workflows/src/outbox.ts:1215`) claims pending events and runs for each a
transaction that creates its jobs, notifications and webhook deliveries and marks the event as
`DISPATCHED`; where something throws, `failEvent` puts the event back. Both write to the event by
`id` alone. `events_dispatched_once` says when that is harmless.

A worker is a process. It claims only after the events of its last batch are through
(`tickInFlight`, `apps/worker/src/index.ts:45`). `π` is the type of payloads, `ν` that of
notifications.
-/

namespace Corgtex.Workflows

open Option hiding map map_map

open List

/-! ## Tables -/

/-- `EventStatus` (`schema.prisma:129`). -/
inductive EventStatus where
  | PENDING | DISPATCHED | FAILED
deriving DecidableEq, Repr

/-- A row of `Event` (`schema.prisma:3600`), without the support origin, which only the check before
the transaction reads. -/
structure Event (π : Type) where
  id : String
  mcpOrigin : Option π
  workspaceId : Option String
  type : String
  aggregateType : Option String
  aggregateId : Option String
  payload : π
  status : EventStatus
  availableAt : Nat
  attempts : Nat
  lockedAt : Option Nat
  lockedBy : Option String
  dispatchedAt : Option Nat
  error : Option String
  createdAt : Nat
deriving DecidableEq, Repr

/-- A row of `WebhookDelivery` (`schema.prisma:4492`), with the fields that its creation sets, less
the payload. -/
structure WebhookDelivery where
  id : String
  endpointId : String
  eventId : String
  eventType : String
  nextRetryAt : Nat
deriving DecidableEq, Repr

/-- What `createWebhookDeliveries` reads of an active endpoint (`webhooks.ts:142`). -/
structure WebhookEndpoint where
  id : String
  eventTypes : List String
deriving DecidableEq, Repr

/-- The tables that the transaction writes. -/
structure OutboxTables (π ν : Type) where
  events : KeyedTable (Event π) Event.id
  jobs : JobTable π
  notifications : List ν
  deliveries : KeyedTable WebhookDelivery WebhookDelivery.id

/-! ## Claims -/

/-- `ClaimedEvent` (line 76). -/
structure ClaimedEvent (π : Type) where
  id : String
  mcpOrigin : Option π
  workspaceId : Option String
  type : String
  aggregateType : Option String
  aggregateId : Option String
  payload : π
  attempts : Nat
  createdAt : Nat
deriving DecidableEq, Repr

namespace Event

variable {π : Type}

/-- The condition on the row in `claimPendingEvents` (line 343). -/
def isClaimable (now : Nat) (event : Event π) : Bool :=
  event.status = .PENDING && event.availableAt ≤ now &&
    event.lockedAt.all fun lockedAt => lockedAt + LOCK_TIMEOUT_MS < now

/-- The `SET` of a claim (line 371). -/
def claim (workerId : String) (now : Nat) (event : Event π) : Event π :=
  { event with
    lockedAt := some now
    lockedBy := some workerId
    attempts := event.attempts + 1
    error := none }

/-- The `RETURNING` of a claim (line 379). -/
def claimed (event : Event π) : ClaimedEvent π where
  id := event.id
  mcpOrigin := event.mcpOrigin
  workspaceId := event.workspaceId
  type := event.type
  aggregateType := event.aggregateType
  aggregateId := event.aggregateId
  payload := event.payload
  attempts := event.attempts + 1
  createdAt := event.createdAt

/-- The `data` that ends a dispatch (line 1262). -/
def dispatched (now : Nat) (event : Event π) : Event π :=
  { event with
    status := .DISPATCHED
    dispatchedAt := some now
    error := none
    lockedAt := none
    lockedBy := none }

/-- The `data` of `failEvent` (line 607). -/
def failed (claimed : ClaimedEvent π) (error : Thrown) (now : Nat) (event : Event π) : Event π :=
  let status := if MAX_ATTEMPTS ≤ claimed.attempts || executionAuthorizationRevoked error then
    EventStatus.FAILED else .PENDING
  { event with
    status
    error := some (error.message "Unknown event dispatch error.")
    availableAt := if status = .PENDING then nextRetryTime now claimed.attempts else now
    lockedAt := none
    lockedBy := none }

end Event

section
variable {π : Type} (events : KeyedTable (Event π) Event.id) (inactive : Option String → Bool)
  (batchSize now : Nat)

/-- The `candidates` of `claimPendingEvents` (line 343), oldest first. -/
def eventCandidates : List (Event π) :=
  (JsArray.sortBy (fun a b => (a.createdAt : Int) - b.createdAt) <| events.rows.filter fun event =>
    event.isClaimable now && !inactive event.workspaceId).take batchSize

variable {events inactive batchSize now} in
theorem mem_eventCandidates {event : Event π}
    (h : event ∈ eventCandidates events inactive batchSize now) :
    event ∈ events.rows ∧ event.isClaimable now := by
  have hsorted := (take_sublist _ _).subset h
  obtain ⟨hrow, htest⟩ := mem_filter.1 (JsArray.mem_sortBy.1 hsorted)
  exact ⟨hrow, (Bool.and_eq_true_iff.1 htest).1⟩

theorem eventCandidates_nodup :
    ((eventCandidates events inactive batchSize now).map Event.id).Nodup := by
  refine List.Nodup.sublist ((take_sublist _ _).map _) ?_
  refine ((JsArray.sortBy_perm _ _).map Event.id).nodup_iff.2 ?_
  exact events.nodup.sublist (filter_sublist.map _)

end

/-! ## The transaction -/

/-- A job of `deriveJobsForEvent` (`derive-jobs.ts:60`); its `eventId` is that of the event. -/
structure DerivedJob (π : Type) where
  workspaceId : Option String
  type : String
  payload : π
  dedupeKey : String
  dependsOnDedupeKey : Option String
deriving DecidableEq, Repr

/-- The parts of a dispatch that are a function of the event alone: `deriveJobsForEvent`, whatever
it derives, and the payload of a `webhook.deliver` job. -/
structure Dispatcher (π : Type) where
  deriveJobsForEvent : ClaimedEvent π → List (DerivedJob π)
  webhookPayload : String → π

/-- What one transaction reads from the rest of the database, and the `uuid()`s it draws: the active
endpoints of the workspace, what `createNotificationsForEvent` adds or throws, what
`enqueueCrmLineageJob` makes of a job of its types, and the `id` of a row by its dedupe key or its
endpoint. -/
structure DispatchReads (π ν : Type) where
  endpoints : KeyedTable WebhookEndpoint WebhookEndpoint.id
  notifications : Except Thrown (List ν × List (EnqueueJobParams π))
  crmLineage : EnqueueJobParams π → Except Thrown (Option π)
  jobId : String → String
  deliveryId : String → String
  now : Nat

/-- `crmJobTypes` (`crm-job-lineage.ts:7`). -/
def crmJobTypes : List String :=
  ["agent.crm-email-extraction", "agent.crm-lead-enrichment", "agent.crm-drip-followup"]

section
variable {π ν : Type} (dispatcher : Dispatcher π) (reads : DispatchReads π ν)
  (event : ClaimedEvent π)

/-- `enqueueJob` (line 228). A job of a CRM type is created with the payload that its lineage
gives, if there is one; `enqueueCrmLineageJob` also leaves a row that exists alone. -/
def enqueueDispatchJob (jobs : JobTable π) (params : EnqueueJobParams π) :
    Except Thrown (JobTable π) :=
  if params.type ∈ crmJobTypes then do
    match ← reads.crmLineage params with
    | none => return jobs
    | some payload =>
      enqueueJob jobs (reads.jobId params.dedupeKey) reads.now { params with payload }
  else enqueueJob jobs (reads.jobId params.dedupeKey) reads.now params

/-- The body of the first loop of the transaction (line 1222). -/
def enqueueDerivedJob (jobs : JobTable π) (job : DerivedJob π) : Except Thrown (JobTable π) :=
  let dependsOnJobId := (job.dependsOnDedupeKey.filter (· ≠ "")).bind fun dedupeKey =>
    (jobs.findByDedupeKey dedupeKey).map WorkflowJob.id
  enqueueDispatchJob reads jobs
    ⟨job.workspaceId, some event.id, job.type, job.payload, job.dedupeKey, dependsOnJobId⟩

/-- `createNotificationsForEvent` (line 471): the notifications, and the jobs that send
them. -/
def notificationsForEvent : Except Thrown (List ν × List (EnqueueJobParams π)) :=
  if event.workspaceId = none then .ok ([], []) else reads.notifications

/-- The rows of `createWebhookDeliveries` (`webhooks.ts:128`), for an event of a workspace. -/
def webhookDeliveries : List WebhookDelivery :=
  if event.workspaceId = none then []
  else
    let matchingEndpoints := reads.endpoints.rows.filter fun endpoint =>
      endpoint.eventTypes = [] || event.type ∈ endpoint.eventTypes
    matchingEndpoints.map fun endpoint =>
      { id := reads.deliveryId endpoint.id
        endpointId := endpoint.id
        eventId := event.id
        eventType := event.type
        nextRetryAt := reads.now }

/-- `webhookDelivery.createManyAndReturn({ data })`. -/
def createDeliveries (deliveries : KeyedTable WebhookDelivery WebhookDelivery.id) :
    List WebhookDelivery → Except Thrown (KeyedTable WebhookDelivery WebhookDelivery.id)
  | [] => .ok deliveries
  | delivery :: rest =>
    if h : delivery.id ∈ deliveries.rows.map WebhookDelivery.id then
      .error (.error "Unique constraint failed on the fields: (id)" (some "P2002"))
    else createDeliveries (deliveries.insert delivery h) rest

/-- The dedupe key of the job that delivers to an endpoint (line 1256). -/
def webhookDedupeKey (eventId deliveryId : String) : String :=
  eventId ++ ":webhook:" ++ deliveryId

/-- The body of the second loop of the transaction (line 1250). -/
def enqueueWebhookJob (jobs : JobTable π) (delivery : WebhookDelivery) :
    Except Thrown (JobTable π) :=
  enqueueDispatchJob reads jobs
    { workspaceId := event.workspaceId
      eventId := some event.id
      type := "webhook.deliver"
      payload := dispatcher.webhookPayload delivery.id
      dedupeKey := webhookDedupeKey event.id delivery.id
      dependsOnJobId := none }

/-- The transaction of `dispatchPendingEvents` (line 1215). What it has written when it
throws is rolled back. -/
def dispatchTransaction (tables : OutboxTables π ν) : Except Thrown (OutboxTables π ν) := do
  let derivedJobs := dispatcher.deriveJobsForEvent event
  let jobs ← derivedJobs.foldlM (enqueueDerivedJob reads event) tables.jobs
  let (notifications, intents) ← notificationsForEvent reads event
  let jobs ← intents.foldlM (enqueueDispatchJob reads) jobs
  let created := webhookDeliveries reads event
  let deliveries ← createDeliveries tables.deliveries created
  let jobs ← created.foldlM (enqueueWebhookJob dispatcher reads event) jobs
  if event.id ∈ tables.events.rows.map Event.id then
    .ok
      { events := tables.events.update event.id (·.dispatched reads.now) fun _ => rfl
        jobs
        notifications := tables.notifications ++ notifications
        deliveries }
  else .error (.error "No record was found for an update." (some "P2025"))

end

/-! ## The system -/

/-- How far the loop of `dispatchPendingEvents` is with an event: nothing has run yet, the
transaction has committed and a check of the MCP connection follows
(`withMcpConnectionExecution`, `mcp-execution.ts:37`), or something has thrown. -/
inductive DispatchPhase where
  | ready
  | committed
  | threw (error : Thrown)
deriving DecidableEq, Repr

/-- An event in the hands of a worker. -/
structure Dispatch (π : Type) where
  event : ClaimedEvent π
  phase : DispatchPhase
deriving DecidableEq, Repr

/-- The tables, and for each worker the events that it has claimed and not seen through. -/
structure EventSystem (π ν : Type) extends OutboxTables π ν where
  inHand : Hands String fun e : Dispatch π => e.event.id

/-- What happens next. `emit` is a new event, and `abandon` a worker that is gone for good with an
event in hand; the last four are about an event in hand: its transaction runs, the check after it
passes, the code before or after it throws, `failEvent` runs. -/
inductive EventAction (π ν : Type) where
  | emit (event : Event π)
  | claim (workerId : String) (inactive : Option String → Bool) (batchSize now : Nat)
  | abandon (workerId eventId : String)
  | dispatch (workerId eventId : String) (reads : DispatchReads π ν)
  | confirm (workerId eventId : String)
  | throw (workerId eventId : String) (error : Thrown)
  | fail (workerId eventId : String) (now : Nat)

namespace EventSystem

variable {π ν : Type} (s : EventSystem π ν) (workerId : String)

/-- `claimPendingEvents` (line 343), which a worker calls when it has nothing in hand. -/
def claimPendingEvents (inactive : Option String → Bool) (batchSize now : Nat) : EventSystem π ν :=
  let candidates := eventCandidates s.events inactive batchSize now
  if (s.inHand workerId).rows.isEmpty then
    { s with
      events := s.events.updateMany (fun event => event.id ∈ candidates.map Event.id)
        (·.claim workerId now) fun _ => rfl
      inHand := s.inHand.take workerId
        { rows := candidates.map fun event => ⟨event.claimed, .ready⟩
          nodup := by
            rw [List.map_map]
            exact eventCandidates_nodup s.events inactive batchSize now } }
  else s

/-- An event leaves the worker's hands. -/
def finish (eventId : String) : EventSystem π ν :=
  { s with inHand := s.inHand.drop workerId eventId }

/-- The worker is in `phase` with an event. -/
def enter (eventId : String) (phase : DispatchPhase) : EventSystem π ν :=
  { s with inHand := s.inHand.modify workerId eventId (fun e => { e with phase }) fun _ => rfl }

/-- `failEvent` (line 607). -/
def failEvent (event : ClaimedEvent π) (error : Thrown) (now : Nat) : EventSystem π ν :=
  { s with events := s.events.update event.id (·.failed event error now) fun _ => rfl }

variable (dispatcher : Dispatcher π)

/-- The transaction runs. Where it commits, an event of an MCP connection stays in hand for the
check that follows. -/
def runTransaction (event : ClaimedEvent π) (reads : DispatchReads π ν) : EventSystem π ν :=
  match dispatchTransaction dispatcher reads event s.toOutboxTables with
  | .ok tables =>
    let committed : EventSystem π ν := { s with toOutboxTables := tables }
    if event.mcpOrigin.isSome then committed.enter workerId event.id .committed
    else committed.finish workerId event.id
  | .error error => s.enter workerId event.id (.threw error)

/-- One step of the system. An action that names an event the worker does not have in hand, or not
in the phase that the action is about, changes nothing. -/
def apply : EventAction π ν → EventSystem π ν
  | .emit event =>
    if h : event.id ∈ s.events.rows.map Event.id then s
    else { s with events := s.events.insert event h }
  | .claim workerId inactive batchSize now => s.claimPendingEvents workerId inactive batchSize now
  | .abandon workerId eventId => s.finish workerId eventId
  | .dispatch workerId eventId reads =>
    match (s.inHand workerId).find? eventId with
    | some ⟨event, .ready⟩ => s.runTransaction workerId dispatcher event reads
    | _ => s
  | .confirm workerId eventId =>
    match (s.inHand workerId).find? eventId with
    | some ⟨_, .committed⟩ => s.finish workerId eventId
    | _ => s
  | .throw workerId eventId error =>
    match (s.inHand workerId).find? eventId with
    | some ⟨_, .ready⟩ | some ⟨_, .committed⟩ => s.enter workerId eventId (.threw error)
    | _ => s
  | .fail workerId eventId now =>
    match (s.inHand workerId).find? eventId with
    | some ⟨event, .threw error⟩ => (s.failEvent event error now).finish workerId eventId
    | _ => s

/-- The result of the transaction that an action runs, if it runs one, with the event. -/
def transaction : EventAction π ν → Option (ClaimedEvent π × Except Thrown (OutboxTables π ν))
  | .dispatch workerId eventId reads =>
    match (s.inHand workerId).find? eventId with
    | some ⟨event, .ready⟩ =>
      some (event, dispatchTransaction dispatcher reads event s.toOutboxTables)
    | _ => none
  | _ => none

end EventSystem

/-- The system after `actions`, from a table of events none of which is in hand. -/
def runEvents {π ν : Type} (dispatcher : Dispatcher π) (events : KeyedTable (Event π) Event.id)
    (actions : List (EventAction π ν)) : EventSystem π ν :=
  actions.foldl (fun s action => s.apply dispatcher action)
    ⟨⟨events, .empty, [], .empty⟩, fun _ => .empty⟩

/-! ## What a transaction writes -/

section
variable {π ν : Type} {dispatcher : Dispatcher π} {reads : DispatchReads π ν}
  {event : ClaimedEvent π} {tables tables' : OutboxTables π ν}

theorem createDeliveries_rows {created : List WebhookDelivery}
    {deliveries deliveries' : KeyedTable WebhookDelivery WebhookDelivery.id}
    (h : createDeliveries deliveries created = .ok deliveries') :
    deliveries'.rows = deliveries.rows ++ created := by
  induction created generalizing deliveries with
  | nil => exact Except.ok.inj h ▸ (append_nil _).symm
  | cons delivery rest ih =>
    rw [createDeliveries] at h
    split at h
    · cases h
    · exact (ih h).trans (append_assoc _ [delivery] rest)

theorem webhookDeliveries_nodup :
    ((webhookDeliveries reads event).map WebhookDelivery.endpointId).Nodup := by
  unfold webhookDeliveries
  split
  · exact nodup_nil
  · rw [map_map]
    exact reads.endpoints.nodup.sublist (filter_sublist.map _)

theorem eventId_of_mem_webhookDeliveries {delivery : WebhookDelivery}
    (h : delivery ∈ webhookDeliveries reads event) : delivery.eventId = event.id := by
  unfold webhookDeliveries at h
  split at h
  · cases h
  · obtain ⟨endpoint, _, rfl⟩ := mem_map.1 h
    rfl

/-- A transaction that commits marks its event, and adds deliveries of its event to different
endpoints. -/
theorem dispatchTransaction_ok
    (h : dispatchTransaction dispatcher reads event tables = .ok tables') :
    tables'.events = tables.events.update event.id (·.dispatched reads.now) (fun _ => rfl) ∧
      ∃ created, tables'.deliveries.rows = tables.deliveries.rows ++ created ∧
        (∀ delivery ∈ created, delivery.eventId = event.id) ∧
        (created.map WebhookDelivery.endpointId).Nodup := by
  obtain ⟨jobs₁, _, h⟩ := Domain.bind_ok.1 h
  obtain ⟨⟨notifications, intents⟩, _, h⟩ := Domain.bind_ok.1 h
  obtain ⟨jobs₂, _, h⟩ := Domain.bind_ok.1 h
  obtain ⟨deliveries, hdeliveries, h⟩ := Domain.bind_ok.1 h
  obtain ⟨jobs₃, _, h⟩ := Domain.bind_ok.1 h
  split at h
  · obtain rfl := Except.ok.inj h
    exact ⟨rfl, _, createDeliveries_rows hdeliveries, fun _ => eventId_of_mem_webhookDeliveries,
      webhookDeliveries_nodup⟩
  · cases h

end

/-! ## Who holds an event -/

/-- The row is under the claim with which the worker took the event. -/
structure EventIsCurrent {π : Type} (workerId : String) (event : ClaimedEvent π)
    (row : Event π) : Prop where
  pending : row.status = .PENDING
  lockedBy : row.lockedBy = some workerId
  attempts : row.attempts = event.attempts

/-- A dispatch that has not committed has its event under the current claim; one that has, has it
`DISPATCHED`. -/
def Dispatch.Holds {π : Type} (workerId : String) (e : Dispatch π) (row : Event π) : Prop :=
  match e.phase with
  | .committed => row.status = .DISPATCHED
  | .ready | .threw _ => EventIsCurrent workerId e.event row

namespace EventSystem

section
variable {π ν : Type} (s : EventSystem π ν)

/-- The action claims an event that a worker has in hand, or something throws after the transaction
of an event has committed. -/
def Breaks : EventAction π ν → Prop
  | .claim workerId inactive batchSize now =>
    (s.inHand workerId).rows = [] ∧ ∃ row ∈ eventCandidates s.events inactive batchSize now,
      ∃ holder, ∃ e ∈ (s.inHand holder).rows, e.event.id = row.id
  | .throw workerId eventId _ =>
    ∃ event, (s.inHand workerId).find? eventId = some ⟨event, .committed⟩
  | _ => False

def Held : Prop :=
  ∀ workerId, ∀ e ∈ (s.inHand workerId).rows, ∃ row, s.events.find? e.event.id = some row ∧
    e.Holds workerId row

/-- No event has two deliveries to an endpoint, and only a dispatched event has any. -/
structure DeliveredOnce : Prop where
  dispatched : ∀ delivery ∈ s.deliveries.rows, ∃ row, s.events.find? delivery.eventId = some row ∧
    row.status = .DISPATCHED
  endpoints : ∀ eventId, ((s.deliveries.rows.filter fun delivery =>
    delivery.eventId = eventId).map WebhookDelivery.endpointId).Nodup

/-- What a run keeps. -/
structure Sound : Prop where
  held : s.Held
  delivered : s.DeliveredOnce

/-- The step leaves dispatched events as they are. -/
def KeepsDispatched (s t : EventSystem π ν) : Prop :=
  ∀ ⦃id row⦄, s.events.find? id = some row → row.status = .DISPATCHED → t.events.find? id = some row

end

section
variable {π ν : Type} {s t : EventSystem π ν} {workerId : String}

/-- A step that leaves the events alone and takes nothing up. -/
theorem Held.of_kept (hheld : s.Held)
    (hevents : ∀ {id row}, s.events.find? id = some row → t.events.find? id = some row)
    (hhand : ∀ holder, ∀ e' ∈ (t.inHand holder).rows, ∃ e ∈ (s.inHand holder).rows,
      e.event = e'.event ∧ ∀ row, e.Holds holder row → e'.Holds holder row) : t.Held := by
  intro holder e' he'
  obtain ⟨e, he, hevent, hholds⟩ := hhand holder e' he'
  obtain ⟨row, hrow, hold⟩ := hheld holder e he
  exact ⟨row, hevent ▸ hevents hrow, hholds row hold⟩

theorem Held.finish (hheld : s.Held) (eventId : String) : (s.finish workerId eventId).Held :=
  hheld.of_kept id fun _ e he => ⟨e, (Hands.mem_drop he).1, rfl, fun _ => id⟩

variable {event : ClaimedEvent π} {eventId : String}

theorem Held.enter_threw (hheld : s.Held)
    (hfound : (s.inHand workerId).find? eventId = some ⟨event, .ready⟩) (error : Thrown) :
    (s.enter workerId eventId (.threw error)).Held := by
  refine hheld.of_kept id fun holder e' he' => ?_
  rcases Hands.mem_modify he' with ⟨he', _⟩ | ⟨rfl, e, he, hid, rfl⟩
  · exact ⟨e', he', rfl, fun _ => id⟩
  · have hsame : e = ⟨event, .ready⟩ :=
      some.inj ((KeyedTable.find?_eq_some.2 ⟨he, hid⟩).symm.trans hfound)
    exact ⟨e, he, rfl, fun row hrow => by rwa [hsame] at hrow ⊢⟩

theorem claimPendingEvents_events {inactive : Option String → Bool} {batchSize now : Nat}
    (hidle : (s.inHand workerId).rows = []) (id : String) :
    (s.claimPendingEvents workerId inactive batchSize now).events.find? id =
      (s.events.find? id).map fun row =>
        if row.id ∈ (eventCandidates s.events inactive batchSize now).map Event.id
          then row.claim workerId now else row := by
  have hrows (test : Event π → Bool) :
      (s.events.updateMany test (·.claim workerId now) fun _ => rfl).find? id =
        (s.events.find? id).map fun row => if test row then row.claim workerId now else row :=
    KeyedTable.find?_updateMany _
  rw [claimPendingEvents, if_pos (by rw [hidle]; rfl)]
  refine (hrows _).trans ?_
  simp only [decide_eq_true_eq]

variable {row : Event π}

section
variable {inactive : Option String → Bool} {batchSize now : Nat}

theorem claimPendingEvents_kept {id : String} (hidle : (s.inHand workerId).rows = [])
    (hrow : s.events.find? id = some row)
    (hnot : ∀ candidate ∈ eventCandidates s.events inactive batchSize now, candidate ≠ row) :
    (s.claimPendingEvents workerId inactive batchSize now).events.find? id = some row := by
  rw [claimPendingEvents_events hidle, hrow]
  refine congrArg some (if_neg fun hcandidate => ?_)
  obtain ⟨candidate, hmem, hid⟩ := mem_map.1 hcandidate
  refine hnot candidate hmem (some.inj ?_)
  rw [← KeyedTable.find?_key (mem_eventCandidates hmem).1, hid,
    (KeyedTable.find?_eq_some.1 hrow).2, hrow]

theorem Held.claim (hheld : s.Held) (hidle : (s.inHand workerId).rows = [])
    (hfree : ¬ s.Breaks (.claim workerId inactive batchSize now)) :
    (s.claimPendingEvents workerId inactive batchSize now).Held := by
  intro holder e he
  have htaken := he
  rw [claimPendingEvents, if_pos (by rw [hidle]; rfl)] at htaken
  rcases Hands.mem_take htaken with ⟨_, hmem⟩ | ⟨rfl, hmem⟩
  · obtain ⟨row, hrow, hold⟩ := hheld holder e hmem
    refine ⟨row, claimPendingEvents_kept hidle hrow fun candidate hcandidate hsame => ?_, hold⟩
    refine hfree ⟨hidle, candidate, hcandidate, holder, e, hmem, ?_⟩
    rw [hsame, (KeyedTable.find?_eq_some.1 hrow).2]
  · obtain ⟨row, hrow, rfl⟩ := mem_map.1 hmem
    obtain ⟨hstored, hclaimable⟩ := mem_eventCandidates hrow
    have hpending : row.status = .PENDING := by
      simp only [Event.isClaimable, Bool.and_eq_true, decide_eq_true_eq] at hclaimable
      exact hclaimable.1.1
    refine ⟨row.claim holder now, ?_, hpending, rfl, rfl⟩
    rw [claimPendingEvents_events hidle]
    refine (congrArg (Option.map _) (KeyedTable.find?_key hstored)).trans (congrArg some ?_)
    exact if_pos (mem_map_of_mem hrow)

end

/-- Who else has an event that is under the claim of a worker is that worker. -/
theorem Held.holder_eq (hheld : s.Held) {holder : String} {e : Dispatch π}
    (he : e ∈ (s.inHand holder).rows) (hid : e.event.id = event.id)
    (hrow : s.events.find? event.id = some row) (hcurrent : EventIsCurrent workerId event row) :
    holder = workerId := by
  obtain ⟨row', hrow', hold⟩ := hheld holder e he
  obtain rfl := some.inj (hrow.symm.trans (hid ▸ hrow'))
  unfold Dispatch.Holds at hold
  split at hold
  · exact absurd (hcurrent.pending.symm.trans hold) nofun
  all_goals exact some.inj (hold.lockedBy.symm.trans hcurrent.lockedBy)

variable {data : Event π → Event π}

/-- A statement on the event of a worker that holds it, after which the worker has put the event
down or is past its transaction. -/
theorem Held.settle (hheld : s.Held) {hid : ∀ row, (data row).id = row.id}
    (hrow : s.events.find? event.id = some row) (hcurrent : EventIsCurrent workerId event row)
    (hevents : t.events = s.events.update event.id data hid)
    (hhand : ∀ holder, ∀ e ∈ (t.inHand holder).rows,
      (e ∈ (s.inHand holder).rows ∧ (holder = workerId → e.event.id ≠ event.id)) ∨
        holder = workerId ∧ e.event = event ∧ e.Holds workerId (data row)) : t.Held := by
  intro holder e he
  rw [hevents]
  rcases hhand holder e he with ⟨hmem, hother⟩ | ⟨rfl, rfl, hold⟩
  · obtain ⟨row', hrow', hold⟩ := hheld holder e hmem
    refine ⟨row', ?_, hold⟩
    rw [KeyedTable.find?_update_of_ne _ fun hsame => ?_, hrow']
    exact hother (hheld.holder_eq hmem hsame hrow hcurrent) hsame
  · exact ⟨data row, by rw [KeyedTable.find?_update_self, hrow]; rfl, hold⟩

theorem keepsDispatched_of_update {hid : ∀ row, (data row).id = row.id}
    (hrow : s.events.find? event.id = some row) (hpending : row.status = .PENDING)
    (hevents : t.events = s.events.update event.id data hid) : KeepsDispatched s t := by
  intro id other hother hdispatched
  rw [hevents, KeyedTable.find?_update_of_ne _ fun hsame => ?_, hother]
  obtain rfl := some.inj (hrow.symm.trans (hsame ▸ hother))
  exact absurd (hpending.symm.trans hdispatched) nofun

/-- A step that creates no deliveries. -/
theorem DeliveredOnce.of_kept (h : s.DeliveredOnce) (hkept : KeepsDispatched s t)
    (hdeliveries : t.deliveries = s.deliveries) : t.DeliveredOnce := by
  refine ⟨fun delivery hdelivery => ?_, fun eventId => hdeliveries ▸ h.endpoints eventId⟩
  obtain ⟨row, hrow, hdispatched⟩ := h.dispatched delivery (hdeliveries ▸ hdelivery)
  exact ⟨row, hkept hrow hdispatched, hdispatched⟩

theorem DeliveredOnce.commit (h : s.DeliveredOnce) {row' : Event π}
    {created : List WebhookDelivery} (hkept : KeepsDispatched s t)
    (hrow : s.events.find? event.id = some row) (hpending : row.status = .PENDING)
    (hrow' : t.events.find? event.id = some row') (hdispatched : row'.status = .DISPATCHED)
    (hdeliveries : t.deliveries.rows = s.deliveries.rows ++ created)
    (hcreated : ∀ delivery ∈ created, delivery.eventId = event.id)
    (hendpoints : (created.map WebhookDelivery.endpointId).Nodup) : t.DeliveredOnce := by
  refine ⟨fun delivery hdelivery => ?_, fun eventId => ?_⟩
  · rw [hdeliveries, mem_append] at hdelivery
    rcases hdelivery with hdelivery | hdelivery
    · obtain ⟨row, hrow, hdispatched⟩ := h.dispatched delivery hdelivery
      exact ⟨row, hkept hrow hdispatched, hdispatched⟩
    · exact ⟨row', hcreated delivery hdelivery ▸ hrow', hdispatched⟩
  · rw [hdeliveries, filter_append]
    by_cases hevent : eventId = event.id
    · have hfirst : s.deliveries.rows.filter (fun delivery => delivery.eventId = eventId) = [] := by
        refine filter_eq_nil_iff.2 fun delivery hdelivery hid => ?_
        obtain ⟨other, hother, hdone⟩ := h.dispatched delivery hdelivery
        rw [of_decide_eq_true hid, hevent, hrow, some.injEq] at hother
        exact absurd ((hother ▸ hpending).symm.trans hdone) nofun
      rw [hfirst]
      exact hendpoints.sublist (filter_sublist.map _)
    · have hnone : created.filter (fun delivery => delivery.eventId = eventId) = [] := by
        refine filter_eq_nil_iff.2 fun delivery hdelivery hid => hevent ?_
        rw [← of_decide_eq_true hid, hcreated delivery hdelivery]
      rw [hnone, append_nil]
      exact h.endpoints eventId

variable (dispatcher : Dispatcher π)

theorem Sound.runTransaction (hs : s.Sound)
    (hfound : (s.inHand workerId).find? eventId = some ⟨event, .ready⟩)
    (reads : DispatchReads π ν) :
    (s.runTransaction workerId dispatcher event reads).Sound ∧
      KeepsDispatched s (s.runTransaction workerId dispatcher event reads) := by
  obtain ⟨hmem, hid⟩ := KeyedTable.find?_eq_some.1 hfound
  obtain ⟨row, hrow, hcurrent⟩ := hs.held workerId _ hmem
  unfold EventSystem.runTransaction
  cases htransaction : dispatchTransaction dispatcher reads event s.toOutboxTables with
  | error error =>
    have hkept : KeepsDispatched s (s.enter workerId event.id (.threw error)) :=
      fun _ _ h _ => h
    refine ⟨⟨hs.held.enter_threw (hid ▸ hfound) error, ?_⟩, hkept⟩
    exact hs.delivered.of_kept hkept rfl
  | ok tables =>
    obtain ⟨hevents, created, hdeliveries, hcreated, hendpoints⟩ :=
      dispatchTransaction_ok htransaction
    -- both continuations have these tables, and differ in whether the event stays in hand
    have hsound (t : EventSystem π ν) (htables : t.toOutboxTables = tables)
        (hhand : ∀ holder, ∀ e ∈ (t.inHand holder).rows,
          (e ∈ (s.inHand holder).rows ∧ (holder = workerId → e.event.id ≠ event.id)) ∨
            holder = workerId ∧ e.event = event ∧ e.Holds workerId (row.dispatched reads.now)) :
        t.Sound ∧ KeepsDispatched s t := by
      have hevents' : t.events = _ := (congrArg OutboxTables.events htables).trans hevents
      have hkept := keepsDispatched_of_update hrow hcurrent.pending hevents'
      refine ⟨⟨hs.held.settle hrow hcurrent hevents' hhand, ?_⟩, hkept⟩
      have hrow' : t.events.find? event.id = some (row.dispatched reads.now) := by
        rw [hevents']
        exact (KeyedTable.find?_update_self _).trans (congrArg (Option.map _) hrow)
      refine hs.delivered.commit hkept hrow hcurrent.pending hrow' rfl ?_ hcreated hendpoints
      rw [congrArg OutboxTables.deliveries htables, hdeliveries]
    dsimp only
    split
    · refine hsound _ rfl fun holder e he => (Hands.mem_modify he).imp_right ?_
      rintro ⟨rfl, before, hbefore, hbeforeId, rfl⟩
      have hsame : before = ⟨event, .ready⟩ := by
        have hbefore := KeyedTable.find?_eq_some.2 ⟨hbefore, hbeforeId⟩
        exact some.inj (hbefore.symm.trans (hid ▸ hfound))
      exact ⟨rfl, by rw [hsame], rfl⟩
    · exact hsound _ rfl fun holder e he => .inl (Hands.mem_drop he)

theorem Sound.fail (hs : s.Sound) {error : Thrown}
    (hfound : (s.inHand workerId).find? eventId = some ⟨event, .threw error⟩) (now : Nat) :
    ((s.failEvent event error now).finish workerId eventId).Sound ∧
      KeepsDispatched s ((s.failEvent event error now).finish workerId eventId) := by
  obtain ⟨hmem, hid⟩ := KeyedTable.find?_eq_some.1 hfound
  obtain ⟨row, hrow, hcurrent⟩ := hs.held workerId _ hmem
  have hevents : ((s.failEvent event error now).finish workerId eventId).events =
      s.events.update event.id (·.failed event error now) fun _ => rfl := rfl
  have hkept := keepsDispatched_of_update hrow hcurrent.pending hevents
  refine ⟨⟨hs.held.settle hrow hcurrent hevents fun holder e he => .inl ?_, ?_⟩, hkept⟩
  · obtain ⟨he, hother⟩ := Hands.mem_drop he
    exact ⟨he, fun hholder => hid ▸ hother hholder⟩
  · exact hs.delivered.of_kept hkept rfl

theorem Sound.claim (hs : s.Sound) {inactive : Option String → Bool} {batchSize now : Nat}
    (hidle : (s.inHand workerId).rows = [])
    (hfree : ¬ s.Breaks (.claim workerId inactive batchSize now)) :
    (s.claimPendingEvents workerId inactive batchSize now).Sound ∧
      KeepsDispatched s (s.claimPendingEvents workerId inactive batchSize now) := by
  have hkept : KeepsDispatched s (s.claimPendingEvents workerId inactive batchSize now) := by
    intro id row hrow hdispatched
    refine claimPendingEvents_kept hidle hrow fun candidate hcandidate hsame => ?_
    have hclaimable := (mem_eventCandidates hcandidate).2
    simp [Event.isClaimable, hsame, hdispatched] at hclaimable
  refine ⟨⟨hs.held.claim hidle hfree, hs.delivered.of_kept hkept ?_⟩, hkept⟩
  rw [claimPendingEvents]
  split <;> rfl

variable {action : EventAction π ν}

/-- **One step.** -/
theorem Sound.apply (hs : s.Sound) (hfree : ¬ s.Breaks action) :
    (s.apply dispatcher action).Sound ∧ KeepsDispatched s (s.apply dispatcher action) := by
  have hsame : s.Sound ∧ KeepsDispatched s s := ⟨hs, fun _ _ h _ => h⟩
  have hfinish (workerId eventId : String) : (s.finish workerId eventId).Sound ∧
      KeepsDispatched s (s.finish workerId eventId) :=
    ⟨⟨hs.held.finish eventId, hs.delivered.of_kept (fun _ _ h _ => h) rfl⟩, fun _ _ h _ => h⟩
  cases action with
  | emit event =>
    rw [EventSystem.apply]
    split
    · exact hsame
    · next hnew =>
      have hkept {id : String} {row : Event π} (h : s.events.find? id = some row) :
          (s.events.insert event hnew).find? id = some row :=
        KeyedTable.find?_insert_of_eq_some hnew h
      refine ⟨⟨hs.held.of_kept hkept fun _ e he => ⟨e, he, rfl, fun _ => id⟩, ?_⟩,
        fun _ _ h _ => hkept h⟩
      exact hs.delivered.of_kept (fun _ _ h _ => hkept h) rfl
  | claim workerId inactive batchSize now =>
    rw [EventSystem.apply]
    cases hidle : (s.inHand workerId).rows with
    | nil => exact hs.claim hidle hfree
    | cons e rest =>
      rw [claimPendingEvents, if_neg (by simp [hidle])]
      exact hsame
  | abandon workerId eventId => exact hfinish workerId eventId
  | dispatch workerId eventId reads =>
    rw [EventSystem.apply]
    split
    · next event hfound => exact hs.runTransaction dispatcher hfound reads
    · exact hsame
  | confirm workerId eventId =>
    rw [EventSystem.apply]
    split
    · exact hfinish workerId eventId
    · exact hsame
  | throw workerId eventId error =>
    rw [EventSystem.apply]
    split
    · next event hfound =>
      have hkept : KeepsDispatched s (s.enter workerId eventId (.threw error)) := fun _ _ h _ => h
      exact ⟨⟨hs.held.enter_threw hfound error, hs.delivered.of_kept hkept rfl⟩, hkept⟩
    · next event hfound => exact absurd ⟨event, hfound⟩ hfree
    · exact hsame
  | fail workerId eventId now =>
    rw [EventSystem.apply]
    split
    · next event error hfound => exact hs.fail hfound now
    · exact hsame

/-- The event whose transaction commits in a step. -/
def commits (s : EventSystem π ν) (action : EventAction π ν) : Option (ClaimedEvent π) :=
  match s.transaction dispatcher action with
  | some (event, .ok _) => some event
  | _ => none

variable {dispatcher} in
theorem Sound.of_commits (hs : s.Sound) (h : s.commits dispatcher action = some event) :
    (∃ row, s.events.find? event.id = some row ∧ row.status = .PENDING) ∧
      ∃ row, (s.apply dispatcher action).events.find? event.id = some row ∧
        row.status = .DISPATCHED := by
  cases action with
  | dispatch workerId eventId reads =>
    rw [commits, transaction] at h
    cases hfound : (s.inHand workerId).find? eventId with
    | none => simp [hfound] at h
    | some e =>
      obtain ⟨event', phase⟩ := e
      cases phase with
      | ready =>
        cases htransaction : dispatchTransaction dispatcher reads event' s.toOutboxTables with
        | error error => simp [hfound, htransaction] at h
        | ok tables =>
          simp only [hfound, htransaction, some.injEq] at h
          subst h
          obtain ⟨row, hrow, hcurrent⟩ :=
            hs.held workerId _ (KeyedTable.find?_eq_some.1 hfound).1
          refine ⟨⟨row, hrow, hcurrent.pending⟩, row.dispatched reads.now, ?_, rfl⟩
          have hevents : (s.apply dispatcher (.dispatch workerId eventId reads)).events =
              tables.events := by
            simp only [EventSystem.apply, hfound, EventSystem.runTransaction, htransaction]
            split <;> rfl
          rw [hevents, (dispatchTransaction_ok htransaction).1]
          exact (KeyedTable.find?_update_self _).trans (congrArg (Option.map _) hrow)
      | committed => simp [hfound] at h
      | threw error => simp [hfound] at h
  | _ => cases h

end

end EventSystem

/-! ## Runs -/

section
variable {π ν : Type} (dispatcher : Dispatcher π)

/-- The events whose transactions commit in a run, in order. -/
def EventSystem.commitLog (s : EventSystem π ν) : List (EventAction π ν) → List String
  | [] => []
  | action :: rest =>
    ((s.commits dispatcher action).map ClaimedEvent.id).toList ++
      (s.apply dispatcher action).commitLog rest

/-- The effects that the tables show, once each: a job for each dedupe key, a delivery for each
event and endpoint, and a job for each such delivery. -/
structure EffectsOnce (tables : OutboxTables π ν) : Prop where
  jobs : ∀ {job job' key}, job ∈ tables.jobs.rows → job' ∈ tables.jobs.rows →
    job.dedupeKey = some key → job'.dedupeKey = some key → job = job'
  deliveries : ∀ {delivery delivery'}, delivery ∈ tables.deliveries.rows →
    delivery' ∈ tables.deliveries.rows → delivery.eventId = delivery'.eventId →
    delivery.endpointId = delivery'.endpointId → delivery = delivery'
  webhookJobs : ∀ {delivery delivery' job job'}, delivery ∈ tables.deliveries.rows →
    delivery' ∈ tables.deliveries.rows → delivery.eventId = delivery'.eventId →
    delivery.endpointId = delivery'.endpointId → job ∈ tables.jobs.rows → job' ∈ tables.jobs.rows →
    job.dedupeKey = some (webhookDedupeKey delivery.eventId delivery.id) →
    job'.dedupeKey = some (webhookDedupeKey delivery'.eventId delivery'.id) → job = job'

theorem EventSystem.DeliveredOnce.effectsOnce {s : EventSystem π ν} (h : s.DeliveredOnce) :
    EffectsOnce s.toOutboxTables := by
  have hdeliveries {delivery delivery' : WebhookDelivery} (hmem : delivery ∈ s.deliveries.rows)
      (hmem' : delivery' ∈ s.deliveries.rows) (hevent : delivery.eventId = delivery'.eventId)
      (hendpoint : delivery.endpointId = delivery'.endpointId) : delivery = delivery' := by
    refine inj_on_of_nodup_map (h.endpoints delivery.eventId) ?_ ?_ hendpoint
    · exact mem_filter.2 ⟨hmem, decide_eq_true rfl⟩
    · exact mem_filter.2 ⟨hmem', decide_eq_true hevent.symm⟩
  refine ⟨JobTable.eq_of_dedupeKey, hdeliveries, ?_⟩
  intro delivery delivery' job job' hmem hmem' hevent hendpoint hjob hjob' hkey hkey'
  obtain rfl := hdeliveries hmem hmem' hevent hendpoint
  exact JobTable.eq_of_dedupeKey hjob hjob' hkey hkey'

/-- At-most-once dispatch over a run: a dispatched event stays as it is, no transaction of an event
commits twice, the effects are there once, and a transaction that throws leaves no trace. -/
structure DispatchedOnce (events : KeyedTable (Event π) Event.id)
    (actions : List (EventAction π ν)) : Prop where
  stays : ∀ done more, done ++ more <+: actions → ∀ id row,
    (runEvents dispatcher events done).events.find? id = some row → row.status = .DISPATCHED →
      (runEvents dispatcher events (done ++ more)).events.find? id = some row
  once : ((runEvents dispatcher events []).commitLog dispatcher actions).Nodup
  effects : ∀ done, done <+: actions → EffectsOnce (runEvents dispatcher events done).toOutboxTables
  rollback : ∀ done action event error, done ++ [action] <+: actions →
    (runEvents dispatcher events done).transaction dispatcher action = some (event, .error error) →
      (runEvents dispatcher events (done ++ [action])).toOutboxTables =
        (runEvents dispatcher events done).toOutboxTables

variable {dispatcher}

theorem EventSystem.apply_rollback {s : EventSystem π ν} {error : Thrown}
    (h : s.transaction dispatcher action = some (event, .error error)) :
    (s.apply dispatcher action).toOutboxTables = s.toOutboxTables := by
  cases action with
  | dispatch workerId eventId reads =>
    rw [EventSystem.transaction] at h
    rw [EventSystem.apply]
    split at h
    · next event' hfound =>
      obtain ⟨rfl, herror⟩ := Prod.mk.inj (some.inj h)
      simp only [EventSystem.runTransaction, herror]
      rfl
    · cases h
  | _ => cases h

/-- In a safe run from a sound state, an event commits once at most, and only if it has not been
dispatched before. -/
theorem EventSystem.Sound.commitLog (actions : List (EventAction π ν)) {s : EventSystem π ν}
    (hs : s.Sound) (hsafe : ∀ done action, done ++ [action] <+: actions →
      ¬ (done.foldl (fun s action => s.apply dispatcher action) s).Breaks action) :
    (s.commitLog dispatcher actions).Nodup ∧
      ∀ id ∈ s.commitLog dispatcher actions, ∀ row, s.events.find? id = some row →
        row.status ≠ .DISPATCHED := by
  induction actions generalizing s with
  | nil => exact ⟨nodup_nil, nofun⟩
  | cons action rest ih =>
    have hfree : ¬ s.Breaks action := hsafe [] action (prefix_append [action] rest)
    obtain ⟨ht, hkept⟩ := hs.apply dispatcher hfree
    obtain ⟨hnodup, hfresh⟩ := ih ht fun done next hpre =>
      hsafe (action :: done) next (cons_prefix_cons.2 ⟨rfl, hpre⟩)
    have hlater : ∀ id ∈ (s.apply dispatcher action).commitLog dispatcher rest, ∀ row,
        s.events.find? id = some row → row.status ≠ .DISPATCHED :=
      fun id hid row hrow hdone => hfresh id hid row (hkept hrow hdone) hdone
    rw [EventSystem.commitLog]
    cases hcommits : s.commits dispatcher action with
    | none => exact ⟨hnodup, hlater⟩
    | some event =>
      obtain ⟨⟨row, hrow, hpending⟩, row', hrow', hdone⟩ := hs.of_commits hcommits
      refine ⟨nodup_cons.2 ⟨fun hid => hfresh _ hid row' hrow' hdone, hnodup⟩, ?_⟩
      intro id hid other hother
      rcases mem_cons.1 hid with rfl | hid
      · obtain rfl := some.inj (hrow.symm.trans hother)
        exact hpending ▸ nofun
      · exact hlater id hid other hother

theorem runEvents_append (events : KeyedTable (Event π) Event.id)
    (done more : List (EventAction π ν)) :
    runEvents dispatcher events (done ++ more) =
      more.foldl (fun s action => s.apply dispatcher action) (runEvents dispatcher events done) :=
  foldl_append

/-- **Event dispatch is at most once in its effects**, in every run in which no worker claims an
event that a worker has in hand, and nothing throws once a transaction has committed. -/
theorem events_dispatched_once (events : KeyedTable (Event π) Event.id)
    (actions : List (EventAction π ν))
    (hsafe : ∀ done action, done ++ [action] <+: actions →
      ¬ (runEvents dispatcher events done).Breaks action) :
    DispatchedOnce dispatcher events actions := by
  have hstart : (runEvents dispatcher events [] : EventSystem π ν).Sound :=
    ⟨nofun, nofun, fun _ => nodup_nil⟩
  have hsound : ∀ done, done <+: actions → (runEvents dispatcher events done).Sound := by
    intro done hpre
    induction done using reverseRecOn with
    | nil => exact hstart
    | append_singleton done action ih =>
      have hbefore := ih ((prefix_append done [action]).trans hpre)
      rw [runEvents_append]
      exact (hbefore.apply dispatcher (hsafe done action hpre)).1
  refine ⟨fun done more hpre id row hrow hdone => ?_, ?_, ?_, ?_⟩
  · induction more using reverseRecOn with
    | nil => rwa [append_nil]
    | append_singleton more action ih =>
      rw [← append_assoc] at hpre ⊢
      have hshorter := (prefix_append (done ++ more) [action]).trans hpre
      rw [runEvents_append]
      exact ((hsound _ hshorter).apply dispatcher (hsafe _ action hpre)).2 (ih hshorter) hdone
  · exact (hstart.commitLog actions hsafe).1
  · exact fun done hpre => (hsound done hpre).delivered.effectsOnce
  · intro done action event error _ hthrows
    rw [runEvents_append]
    exact EventSystem.apply_rollback hthrows

end

/-! ### Three runs of one event -/

/-- A table with one pending event `e`, with or without an MCP origin. -/
def proposalEvents (mcpOrigin : Option Unit) : KeyedTable (Event Unit) Event.id where
  rows := [⟨"e", mcpOrigin, some "w", "proposal.opened", none, none, (), .PENDING, 0, 0, none, none,
    none, none, 0⟩]
  nodup := List.nodup_singleton _

/-- The job that `deriveJobsForEvent` derives from `proposal.opened` first (`derive-jobs.ts:150`).
-/
def proposalDispatcher : Dispatcher Unit where
  deriveJobsForEvent event :=
    [⟨event.workspaceId, "knowledge.sync.proposal", (), event.id ++ ":knowledge-sync", none⟩]
  webhookPayload _ := ()

/-- One active endpoint `p` for all types of events, and no notifications. -/
def proposalReads (deliveryId : String) (now : Nat) : DispatchReads Unit Unit where
  endpoints := ⟨[⟨"p", []⟩], List.nodup_singleton _⟩
  notifications := .ok ([], [])
  crmLineage _ := .ok none
  jobId dedupeKey := "job of " ++ dedupeKey
  deliveryId _ := deliveryId
  now

def promptActions : List (EventAction Unit Unit) :=
  [.claim "a" (fun _ => false) 25 0, .dispatch "a" "e" (proposalReads "d" 1000)]

/-- Worker `a` claims the event and is slow. After five minutes `b` claims it and dispatches it;
then `a` dispatches it too. -/
def staleEventActions : List (EventAction Unit Unit) :=
  [.claim "a" (fun _ => false) 25 0, .claim "b" (fun _ => false) 25 300001,
    .dispatch "b" "e" (proposalReads "d" 300500), .dispatch "a" "e" (proposalReads "d'" 301000)]

/-- The transaction commits, and then the membership check of the MCP connection fails. -/
def revokedActions : List (EventAction Unit Unit) :=
  [.claim "a" (fun _ => false) 25 0, .dispatch "a" "e" (proposalReads "d" 1000),
    .throw "a" "e" (.error "You are not a member of this workspace." (some "NOT_A_MEMBER")),
    .fail "a" "e" 2000]

/-- The prompt worker's run is safe. -/
theorem promptActions_dispatched_once :
    DispatchedOnce proposalDispatcher (proposalEvents none) promptActions := by
  refine events_dispatched_once _ _ fun done action hpre => ?_
  rcases done with _ | ⟨first, _ | ⟨second, rest⟩⟩
  · obtain ⟨rfl, _⟩ := cons_prefix_cons.1 hpre
    rintro ⟨_, _, _, holder, e, he, _⟩
    cases he
  · obtain ⟨_, hpre⟩ := cons_prefix_cons.1 hpre
    obtain ⟨rfl, _⟩ := cons_prefix_cons.1 hpre
    exact id
  · have hlength := hpre.length_le
    simp [promptActions] at hlength

/-- The slow worker's event is dispatched twice, with two deliveries and two jobs for one endpoint;
and the event of a revoked connection is pending again after its dispatch. -/
theorem runEvents_stale_revoked :
    ¬ DispatchedOnce proposalDispatcher (proposalEvents none) staleEventActions ∧
      ¬ DispatchedOnce proposalDispatcher (proposalEvents (some ())) revokedActions ∧
      ((runEvents proposalDispatcher (proposalEvents none) staleEventActions).deliveries.rows.map
        WebhookDelivery.endpointId) = ["p", "p"] ∧
      ((runEvents proposalDispatcher (proposalEvents none) staleEventActions).jobs.rows.map
        WorkflowJob.type) = ["knowledge.sync.proposal", "webhook.deliver", "webhook.deliver"] ∧
      ((runEvents proposalDispatcher (proposalEvents (some ()))
        (revokedActions.take 2)).events.find? "e").map Event.status = some .DISPATCHED ∧
      ((runEvents proposalDispatcher (proposalEvents (some ()))
        revokedActions).events.find? "e").map Event.status = some .PENDING := by
  have hdispatched : ((runEvents proposalDispatcher (proposalEvents (some ()))
      (revokedActions.take 2)).events.find? "e").map Event.status = some .DISPATCHED := by decide
  have hpending : ((runEvents proposalDispatcher (proposalEvents (some ()))
      revokedActions).events.find? "e").map Event.status = some .PENDING := by decide
  refine ⟨fun h => ?_, fun h => ?_, by decide, by decide, hdispatched, hpending⟩
  · have hlog : (runEvents proposalDispatcher (proposalEvents none) []).commitLog proposalDispatcher
        staleEventActions = ["e", "e"] := by decide
    exact absurd (hlog ▸ h.once) (by decide)
  · obtain ⟨row, hrow, hstatus⟩ := map_eq_some_iff.1 hdispatched
    have hkept := h.stays (revokedActions.take 2) (revokedActions.drop 2) (prefix_refl _)
      "e" row hrow hstatus
    rw [take_append_drop] at hkept
    rw [hkept, map_some, hstatus] at hpending
    cases hpending

end Corgtex.Workflows
