import Corgtex.Library.JsArray
import Corgtex.Library.KeyedTable
import Mathlib.Data.List.Pairwise

/-!
# The outbox tables

`workflows/src/outbox.ts` moves events to jobs and jobs to handlers through rows of the
database. This module has what the two halves share: the `WorkflowJob` table with its unique keys
(`schema.prisma:3625`), `enqueueJob`, and the retry policy.

Times are milliseconds, and a statement reads the clock once. The readings of two statements are
unrelated numbers, so nothing below depends on how far the clocks of two workers are apart. `π` is
the type of job payloads.
-/

namespace Corgtex.Workflows

open JsArray

def MAX_ATTEMPTS : Nat := 5
def RETRY_BASE_DELAY_MS : Nat := 5000
def RETRY_MAX_DELAY_MS : Nat := 5 * 60 * 1000
def LOCK_TIMEOUT_MS : Nat := 5 * 60 * 1000

/-- `2 ** (attempt - 1)` times the base delay, at most the maximum (line 268). -/
def calculateRetryDelayMs (attempt : Nat) : Nat :=
  let normalizedAttempt := max 1 attempt
  min (RETRY_BASE_DELAY_MS * Nat.pow 2 (normalizedAttempt - 1)) RETRY_MAX_DELAY_MS

/-- `nextRetryTime` (line 273). -/
def nextRetryTime (now attempt : Nat) : Nat := now + calculateRetryDelayMs attempt

/-- What the handlers throw: an `Error` with its message and, where it has one, its `code`; a
`MaintenanceDeferred` with its reason; or a value that is not an `Error`. -/
inductive Thrown where
  | error (message : String) (code : Option String)
  | maintenanceDeferred (reason : String)
  | other
deriving DecidableEq, Repr

/-- `error instanceof Error ? error.message : fallback`. -/
def Thrown.message (fallback : String) : Thrown → String
  | .error message _ => message
  | .maintenanceDeferred reason => "Brain maintenance deferred: " ++ reason
  | .other => fallback

/-- `executionAuthorizationRevoked` (line 602). -/
def executionAuthorizationRevoked (error : Thrown) : Bool :=
  let revokedCodes := ["SUPPORT_AUTHORIZATION_REVOKED", "MCP_AUTHORIZATION_REVOKED"]
  match error with
  | .error message code => code.getD "" ∈ revokedCodes || message ∈ revokedCodes
  | .maintenanceDeferred _ => error.message "" ∈ revokedCodes
  | .other => false

/-- `WorkflowJobStatus` (`schema.prisma:135`). -/
inductive WorkflowJobStatus where
  | PENDING | RUNNING | COMPLETED | FAILED | CANCELLED
deriving DecidableEq, Repr

/-- A row of `WorkflowJob`, without the origins that `withMcpConnectionExecution` and
`withWorkspaceSupportExecution` read. -/
structure WorkflowJob (π : Type) where
  id : String
  workspaceId : Option String
  eventId : Option String
  type : String
  payload : π
  status : WorkflowJobStatus
  dedupeKey : Option String
  dependsOnJobId : Option String
  runAfter : Nat
  attempts : Nat
  lockedAt : Option Nat
  lockedBy : Option String
  startedAt : Option Nat
  completedAt : Option Nat
  error : Option String
  createdAt : Nat
deriving DecidableEq, Repr

/-- The `WorkflowJob` table: `id` is its primary key and `dedupeKey` is unique where it is set. -/
structure JobTable (π : Type) extends KeyedTable (WorkflowJob π) WorkflowJob.id where
  nodup_dedupeKey : (rows.filterMap WorkflowJob.dedupeKey).Nodup

namespace JobTable

variable {π : Type}

def empty : JobTable π := ⟨.empty, .nil⟩

/-- `workflowJob.updateMany({ where, data })`. -/
def updateMany (jobs : JobTable π) (test : WorkflowJob π → Bool)
    (data : WorkflowJob π → WorkflowJob π) (hid : ∀ job, (data job).id = job.id)
    (hkey : ∀ job, (data job).dedupeKey = job.dedupeKey) : JobTable π where
  toKeyedTable := jobs.toKeyedTable.updateMany test data hid
  nodup_dedupeKey := by
    show (List.filterMap _ (jobs.rows.map _)).Nodup
    rw [List.filterMap_map]
    refine (List.filterMap_congr fun job _ => ?_) ▸ jobs.nodup_dedupeKey
    show _ = (if test job then data job else job).dedupeKey
    split
    · exact (hkey job).symm
    · rfl

@[simp] theorem find?_updateMany {jobs : JobTable π} {test : WorkflowJob π → Bool}
    {data : WorkflowJob π → WorkflowJob π} (hid : ∀ job, (data job).id = job.id)
    (hkey : ∀ job, (data job).dedupeKey = job.dedupeKey) {id : String} :
    (jobs.updateMany test data hid hkey).find? id =
      (jobs.find? id).map fun job => if test job then data job else job :=
  KeyedTable.find?_updateMany hid

/-- `workflowJob.create({ data })`, of a row whose keys are new. -/
def create (jobs : JobTable π) (job : WorkflowJob π) (hid : job.id ∉ jobs.rows.map WorkflowJob.id)
    (hkey : ∀ key, job.dedupeKey = some key → key ∉ jobs.rows.filterMap WorkflowJob.dedupeKey) :
    JobTable π where
  toKeyedTable := jobs.toKeyedTable.insert job hid
  nodup_dedupeKey := by
    show (List.filterMap _ (jobs.rows ++ [job])).Nodup
    rw [List.filterMap_append, List.nodup_append]
    refine ⟨jobs.nodup_dedupeKey, ?_, fun a ha b hb he => ?_⟩
    · cases h : job.dedupeKey <;> simp [h]
    · obtain ⟨row, hrow, hb⟩ := List.mem_filterMap.1 hb
      exact hkey b (List.mem_singleton.1 hrow ▸ hb) (he ▸ ha)

/-- `workflowJob.findUnique({ where: { dedupeKey } })`. -/
def findByDedupeKey (jobs : JobTable π) (dedupeKey : String) : Option (WorkflowJob π) :=
  jobs.rows.find? fun job => job.dedupeKey = some dedupeKey

/-- At most one row has a given dedupe key. -/
theorem eq_of_dedupeKey {jobs : JobTable π} {job job' : WorkflowJob π} {key : String}
    (hjob : job ∈ jobs.rows) (hjob' : job' ∈ jobs.rows) (hkey : job.dedupeKey = some key)
    (hkey' : job'.dedupeKey = some key) : job = job' := by
  by_contra hne
  have hpairs := List.pairwise_filterMap.1 jobs.nodup_dedupeKey
  have hsymm : Std.Symm fun a b : WorkflowJob π =>
      ∀ k, a.dedupeKey = some k → ∀ k', b.dedupeKey = some k' → k ≠ k' :=
    ⟨fun a b h k hk k' hk' he => h k' hk' k hk he.symm⟩
  exact hpairs.forall hjob hjob' hne key hkey key hkey' rfl

end JobTable

/-- `EnqueueJobParams` (line 105). -/
structure EnqueueJobParams (π : Type) where
  workspaceId : Option String
  eventId : Option String
  type : String
  payload : π
  dedupeKey : String
  dependsOnJobId : Option String
deriving DecidableEq, Repr

/-- `toWorkflowJobCreateInput` (line 217), with the defaults of the schema for the rest. -/
def toWorkflowJobCreateInput {π : Type} (id : String) (now : Nat) (params : EnqueueJobParams π) :
    WorkflowJob π where
  id
  workspaceId := params.workspaceId
  eventId := params.eventId
  type := params.type
  payload := params.payload
  status := .PENDING
  dedupeKey := some params.dedupeKey
  dependsOnJobId := params.dependsOnJobId
  runAfter := now
  attempts := 0
  lockedAt := none
  lockedBy := none
  startedAt := none
  completedAt := none
  error := none
  createdAt := now

/-- `enqueueJob` (line 228), for a type that `enqueueCrmLineageJob` does not handle: an
upsert on `dedupeKey` that leaves a row that exists alone. `id` is the `uuid()` of a new row. -/
def enqueueJob {π : Type} (jobs : JobTable π) (id : String) (now : Nat)
    (params : EnqueueJobParams π) : Except Thrown (JobTable π) :=
  if hkey : params.dedupeKey ∈ jobs.rows.filterMap WorkflowJob.dedupeKey then
    .ok jobs
  else if hid : id ∈ jobs.rows.map WorkflowJob.id then
    .error (.error "Unique constraint failed on the fields: (id)" (some "P2002"))
  else
    .ok (jobs.create (toWorkflowJobCreateInput id now params) hid fun _ h =>
      Option.some.inj h ▸ hkey)

/-- `enqueueJob` leaves the rows that exist alone. -/
theorem find?_enqueueJob {π : Type} {jobs jobs' : JobTable π} {id jobId : String} {now : Nat}
    {params : EnqueueJobParams π} {job : WorkflowJob π}
    (h : enqueueJob jobs id now params = .ok jobs') (hjob : jobs.find? jobId = some job) :
    jobs'.find? jobId = some job := by
  unfold enqueueJob at h
  split at h
  · exact Except.ok.inj h ▸ hjob
  split at h
  · cases h
  · next hid => exact Except.ok.inj h ▸ KeyedTable.find?_insert_of_eq_some hid hjob

/-- The order in which a claim takes its rows: `ORDER BY "createdAt", id`. -/
def compareByCreation {π : Type} (a b : WorkflowJob π) : Int :=
  orElse ((a.createdAt : Int) - b.createdAt)
    (if a.id < b.id then -1 else if a.id = b.id then 0 else 1)

end Corgtex.Workflows
