import Corgtex.Workflows.Outbox
import Mathlib.Data.List.Induction

/-!
# Claiming and settling jobs

`runPendingJobs` (`workflows/src/outbox.ts:1424`) claims a batch of jobs and runs
`processClaimedJob` for each, which ends with a statement that settles the row. A claim whose lock
is older than five minutes can be taken over while its handler still runs. Most types settle with a
`where` that names the claim; the ordinary types settle by `id` alone. `jobs_fenced_iff` says which
runs are safe.

A worker is a process. It claims only after the jobs of its last batch are through
(`withSqlJobAdmission`, `sql-job-admission.ts:7`).
-/

namespace Corgtex.Workflows

open JsArray List Option

/-! ## The types of jobs -/

def BRAIN_MAINTENANCE_JOB : String := "agent.brain-maintenance"
def RELEASE_DIAGNOSTIC_JOB_TYPE : String := "runtime.release-diagnostic.v1"
def MEETING_AUDIO_TRANSCRIPTION_JOB_TYPE : String := "meeting-audio.transcribe"

section
variable (type : String)

/-- `isClaimFencedKnowledgeSyncJob` (line 594). -/
def isClaimFencedKnowledgeSyncJob : Bool :=
  type = "oauth.documents.sync" || type = "oauth.email.sync" || type = "knowledge.sync.event"

/-- `isSourceRegenerationJob` (line 598). -/
def isSourceRegenerationJob : Bool :=
  type = "agent.brain-source-regenerate" || type = "agent.brain-article-variant" ||
    type = "agent.graph-source-variant"

/-- `isMeetingTranscriptWorkerJob` (`native-meeting-workflow-principal.ts:12`). -/
def isMeetingTranscriptWorkerJob : Bool :=
  type ∈ ["agent.meeting-summary", "meeting.insights.extract", "agent.action-extraction"]

/-- The types whose settlement also names the payload and a fresh lock (line 1329). -/
def isStampFencedJob : Bool :=
  isClaimFencedKnowledgeSyncJob type || isMeetingTranscriptWorkerJob type ||
    type = BRAIN_MAINTENANCE_JOB || type = MEETING_AUDIO_TRANSCRIPTION_JOB_TYPE

/-- The condition of the fenced settlements (line 1322). -/
def isFencedJob : Bool :=
  isClaimFencedKnowledgeSyncJob type || isSourceRegenerationJob type ||
    type = "agent.brain-absorb" || type = BRAIN_MAINTENANCE_JOB ||
    isMeetingTranscriptWorkerJob type || type = MEETING_AUDIO_TRANSCRIPTION_JOB_TYPE

/-- The types that are left to `completeJob` and `failJob`. -/
def isOrdinaryJob : Bool :=
  type ≠ RELEASE_DIAGNOSTIC_JOB_TYPE && type ≠ "data-source.sync" && !isFencedJob type

end

/-! ## Claims -/

/-- `ClaimedJob` (line 90), what a claim returns of a row. -/
structure ClaimedJob (π : Type) where
  id : String
  workspaceId : Option String
  type : String
  payload : π
  attempts : Nat
  lockedBy : String
  lockedAt : Nat
  startedAt : Nat
deriving DecidableEq, Repr

namespace WorkflowJob

variable {π : Type}

/-- `claimable` (line 527). -/
def isClaimable (now : Nat) (job : WorkflowJob π) : Bool :=
  (job.status = .PENDING && job.runAfter ≤ now) ||
    (job.status = .RUNNING && job.lockedAt.any fun lockedAt => lockedAt + LOCK_TIMEOUT_MS < now)

section
variable (workerId : String) (now : Nat) (job : WorkflowJob π)

/-- The `SET` of a claim (line 564). -/
def claim : WorkflowJob π :=
  { job with
    status := .RUNNING
    startedAt := some now
    lockedAt := some now
    lockedBy := some workerId
    attempts := job.attempts + 1
    error := none }

/-- The `RETURNING` of a claim (line 573). -/
def claimed : ClaimedJob π where
  id := job.id
  workspaceId := job.workspaceId
  type := job.type
  payload := job.payload
  attempts := job.attempts + 1
  lockedBy := workerId
  lockedAt := now
  startedAt := now

end

end WorkflowJob

section
variable {π : Type} (jobs : JobTable π) (inactive : Option String → Bool) (batchSize now : Nat)

/-- `job."dependsOnJobId" IS NULL OR dep.status = 'COMPLETED'`. -/
def dependencyCompleted (job : WorkflowJob π) : Bool :=
  job.dependsOnJobId.all fun id => (jobs.find? id).any fun dep => dep.status = .COMPLETED

/-- The `eligible` rows (line 540), in the order of the claim. `inactive` tells for which
workspaces the flag `operator_import_inactive` is set. -/
def eligibleJobs : List (WorkflowJob π) :=
  sortBy compareByCreation <| jobs.rows.filter fun job =>
    job.isClaimable now && dependencyCompleted jobs job && !inactive job.workspaceId

/-- The `candidates` of a claim (line 554): the oldest eligible job alone where it is a
`data-source.sync`, and else the oldest jobs that are not. -/
def claimCandidates : List (WorkflowJob π) :=
  let eligible := eligibleJobs jobs inactive now
  match eligible with
  | [] => []
  | head :: _ =>
    (eligible.filter fun job =>
      if head.type = "data-source.sync" then job.id = head.id
      else job.type ≠ "data-source.sync").take batchSize

theorem claimCandidates_sublist :
    (claimCandidates jobs inactive batchSize now).Sublist (eligibleJobs jobs inactive now) := by
  unfold claimCandidates
  dsimp only
  split
  · exact nil_sublist _
  · exact (take_sublist _ _).trans filter_sublist

variable {jobs inactive batchSize now} in
theorem mem_claimCandidates {job : WorkflowJob π}
    (h : job ∈ claimCandidates jobs inactive batchSize now) :
    job ∈ jobs.rows ∧ job.isClaimable now := by
  have heligible := (claimCandidates_sublist jobs inactive batchSize now).subset h
  obtain ⟨hrow, htest⟩ := mem_filter.1 (mem_sortBy.1 heligible)
  simp only [Bool.and_eq_true] at htest
  exact ⟨hrow, htest.1.1⟩

theorem claimCandidates_nodup :
    ((claimCandidates jobs inactive batchSize now).map WorkflowJob.id).Nodup := by
  refine List.Nodup.sublist ((claimCandidates_sublist jobs inactive batchSize now).map _) ?_
  refine ((sortBy_perm compareByCreation _).map WorkflowJob.id).nodup_iff.2 ?_
  exact jobs.nodup.sublist (filter_sublist.map _)

end

/-! ## Settlements -/

/-- The `data` of a settlement; `none` leaves a field as it is. Every settlement also sets
`lockedAt` and `lockedBy` to null. -/
structure JobUpdate (π : Type) where
  status : WorkflowJobStatus
  error : Option String
  completedAt : Option (Option Nat) := none
  runAfter : Option Nat := none
  payload : Option π := none
  decrement : Nat := 0

def JobUpdate.apply {π : Type} (data : JobUpdate π) (job : WorkflowJob π) : WorkflowJob π :=
  { job with
    status := data.status
    error := data.error
    completedAt := data.completedAt.getD job.completedAt
    runAfter := data.runAfter.getD job.runAfter
    payload := data.payload.getD job.payload
    attempts := job.attempts - data.decrement
    lockedAt := none
    lockedBy := none }

/-- The arguments of the `update` or `updateMany` that settles a job. -/
structure Settlement (π : Type) where
  test : WorkflowJob π → Bool
  data : JobUpdate π

/-- A call of `processClaimedJob`: the job, what its `catch` has caught, and the lock stamp and the
failure of its knowledge lease (`oauth-knowledge-sync-lease.ts:40`). -/
structure Execution (π : Type) where
  job : ClaimedJob π
  failure : Option Thrown
  leaseAt : Nat
  leaseFailed : Bool
deriving DecidableEq, Repr

/-- What the handlers read from a payload. `sourceId` is the non-empty string under that name, if
there is one; `diagnostic` is `handleReleaseDiagnostic` up to its
statement (`release-diagnostic-handler.ts:5`): it throws, or gives the parsed payload and the same
with its receipt. -/
structure PayloadReader (π : Type) where
  sourceId : π → Option String
  diagnostic : ClaimedJob π → Nat → Except Thrown (π × π)

/-- The error of `assertActive` (`oauth-knowledge-sync-lease.ts:45`). -/
def leaseExpired (type : String) : Thrown :=
  .error (if type = "knowledge.sync.event" then "Event indexing lease expired or was lost."
    else "OAuth ingestion lease expired or was lost.") (some "SOURCE_CHANGED")

/-- What the success branch throws where its statement changed no row: the `invariant` of the
diagnostic and of the knowledge types, and Prisma's own error of `completeJob`. -/
def unsettled (type : String) : Option Thrown :=
  if type = RELEASE_DIAGNOSTIC_JOB_TYPE then
    some (.error "Diagnostic worker no longer owns the job."
      (some "RELEASE_DIAGNOSTIC_OWNERSHIP_LOST"))
  else if isClaimFencedKnowledgeSyncJob type then
    some (.error "Knowledge ingestion lease changed before completion." (some "SOURCE_CHANGED"))
  else if isOrdinaryJob type then
    some (.error "No record was found for an update." (some "P2025"))
  else none

namespace Execution

variable {π : Type}

def start (job : ClaimedJob π) : Execution π := ⟨job, none, job.lockedAt, false⟩

/-- `assertActive` of the lease. -/
def leaseActive (e : Execution π) (now : Nat) : Bool :=
  !e.leaseFailed && now < e.leaseAt + LOCK_TIMEOUT_MS

variable [DecidableEq π] (e : Execution π) (workerId : String) (now : Nat)

/-- The `where` that all fenced settlements share. -/
def ownsRow (row : WorkflowJob π) : Bool :=
  row.id = e.job.id && row.workspaceId = e.job.workspaceId && row.type = e.job.type &&
    row.status = .RUNNING && row.lockedBy = some workerId && row.attempts = e.job.attempts

/-- `settle` of the lease (`oauth-knowledge-sync-lease.ts:105`): the exact claim with the stamp that
the lease gave it last. -/
def leaseOwnsRow (row : WorkflowJob π) : Bool :=
  e.leaseActive now && row.id = e.job.id && row.workspaceId = e.job.workspaceId &&
    row.type = e.job.type && row.status = .RUNNING && row.attempts = e.job.attempts &&
    row.lockedBy = some e.job.lockedBy && row.startedAt = some e.job.startedAt &&
    row.payload = e.job.payload && row.lockedAt = some e.leaseAt

/-- The row that `settleClaimedJob` settles (line 1287). -/
def settlesRow (row : WorkflowJob π) : Bool :=
  if isClaimFencedKnowledgeSyncJob e.job.type then e.leaseOwnsRow now row
  else
    e.ownsRow workerId row &&
      (!isStampFencedJob e.job.type || (row.payload = e.job.payload &&
        row.lockedAt.any fun lockedAt => now < lockedAt + LOCK_TIMEOUT_MS)) &&
      (e.job.type ≠ MEETING_AUDIO_TRANSCRIPTION_JOB_TYPE || row.startedAt = some e.job.startedAt)

variable (reader : PayloadReader π)

/-- The statement of a `processClaimedJob` whose handler returns (line 1320, and
`release-diagnostic-handler.ts:15`). A superseded regeneration makes none. -/
def completion (superseded : Bool) : Except Thrown (Option (Settlement π)) :=
  let superseded := isSourceRegenerationJob e.job.type && superseded
  let data : JobUpdate π := { status := .COMPLETED, error := none, completedAt := some (some now) }
  if e.job.type = RELEASE_DIAGNOSTIC_JOB_TYPE then
    (reader.diagnostic e.job now).map fun (payload, receipt) => some
      { test := fun row => row.id = e.job.id && row.workspaceId = e.job.workspaceId &&
          row.type = RELEASE_DIAGNOSTIC_JOB_TYPE && row.status = .RUNNING &&
          row.lockedBy = some workerId && row.payload = payload
        data := { data with payload := some receipt } }
  else if isClaimFencedKnowledgeSyncJob e.job.type && !e.leaseActive now then
    .error (leaseExpired e.job.type)
  else if isFencedJob e.job.type && !superseded then .ok (some ⟨e.settlesRow workerId now, data⟩)
  else if e.job.type = "data-source.sync" then
    if e.job.workspaceId.isNone || (reader.sourceId e.job.payload).isNone then
      .error (.error "Invalid SQL workflow identity." none)
    else .ok (some ⟨e.ownsRow workerId, data⟩)
  else if !superseded then .ok (some ⟨fun row => row.id = e.job.id, data⟩)
  else .ok none

/-- `completedAt`, `runAfter` and the status after a failure (lines 635 and 1373). -/
def failureData (error : Thrown) : JobUpdate π :=
  let status := if MAX_ATTEMPTS ≤ e.job.attempts || executionAuthorizationRevoked error then
    WorkflowJobStatus.FAILED else .PENDING
  { status
    error := some (error.message "Unknown worker error.")
    completedAt := some (if status = .FAILED then some now else none)
    runAfter := if status = .PENDING then some (nextRetryTime now e.job.attempts) else none }

/-- `delay` (line 1351). -/
def deferralDelay (reason : String) : Nat :=
  if reason = "daily_rate_limit" then 24 * 60 * 60000
  else if reason ∈ ["hourly_rate_limit", "budget_exceeded"] then 60 * 60000
  else 60000

/-- The statement of a deferred maintenance job (line 1353). -/
def deferral (error : Thrown) (reason : String) : Settlement π where
  test row := e.ownsRow workerId row && row.lockedAt = some e.job.lockedAt &&
    now < e.job.lockedAt + LOCK_TIMEOUT_MS && row.payload = e.job.payload
  data :=
    { status := .PENDING
      error := some (error.message "")
      runAfter := some (now + deferralDelay reason)
      decrement := 1 }

/-- The statement of a `processClaimedJob` that has caught `error` (line 1347). -/
def failureSettlement (error : Thrown) : Settlement π :=
  match error, decide (e.job.type = BRAIN_MAINTENANCE_JOB) with
  | .maintenanceDeferred reason, true => e.deferral workerId now error reason
  | _, _ =>
    if e.job.type = RELEASE_DIAGNOSTIC_JOB_TYPE then
      { test := fun row => row.id = e.job.id && row.workspaceId = e.job.workspaceId &&
          row.type = RELEASE_DIAGNOSTIC_JOB_TYPE && row.status = .RUNNING &&
          row.lockedBy = some workerId
        data :=
          { status := .FAILED
            error := some "Release diagnostic failed; reconcile the exact operation." } }
    else if e.job.type = "data-source.sync" || isFencedJob e.job.type then
      ⟨e.settlesRow workerId now, e.failureData now error⟩
    else
      ⟨fun row => row.id = e.job.id, e.failureData now error⟩

end Execution

/-! ## The system -/

/-- The table, and for each worker the jobs that it has claimed and not settled. -/
structure JobSystem (π : Type) where
  jobs : JobTable π
  inFlight : Hands String fun e : Execution π => e.job.id

/-- What happens next. The first three are a new row, a call of `claimPendingJobs`, and a worker
that is gone for good with the jobs it had in hand; the others name a job in hand. -/
inductive JobAction (π : Type) where
  | enqueue (id : String) (now : Nat) (params : EnqueueJobParams π)
  | claim (workerId : String) (inactive : Option String → Bool) (batchSize now : Nat)
  | abandon (workerId jobId : String)
  | renew (workerId jobId : String) (now : Nat)
  | returned (workerId jobId : String) (superseded : Bool) (now : Nat)
  | threw (workerId jobId : String) (error : Thrown)
  | settleFailure (workerId jobId : String) (now : Nat)

namespace JobSystem

variable {π : Type} (s : JobSystem π) (workerId : String)

/-- `claimPendingJobs` (line 525), which a worker calls when it has nothing in hand. -/
def claimPendingJobs (inactive : Option String → Bool) (batchSize now : Nat) : JobSystem π :=
  let candidates := claimCandidates s.jobs inactive batchSize now
  if (s.inFlight workerId).rows.isEmpty then
    { jobs := s.jobs.updateMany (fun job => job.id ∈ candidates.map WorkflowJob.id)
        (·.claim workerId now) (fun _ => rfl) (fun _ => rfl)
      inFlight := s.inFlight.take workerId
        { rows := candidates.map fun job => .start (job.claimed workerId now)
          nodup := by
            rw [List.map_map]
            exact claimCandidates_nodup s.jobs inactive batchSize now } }
  else s

/-- A job leaves the worker's hands. -/
def finish (jobId : String) : JobSystem π :=
  { s with inFlight := s.inFlight.drop workerId jobId }

/-- Changes what a worker keeps beside a job. -/
def modify (jobId : String) (data : Execution π → Execution π)
    (hjob : ∀ e, (data e).job = e.job) : JobSystem π :=
  { s with inFlight := s.inFlight.modify workerId jobId data fun e => by rw [hjob] }

/-- Runs a settlement. `lost` is what follows where it changes no row. -/
def settle (jobId : String) (settlement : Settlement π) (lost : Option Thrown) : JobSystem π :=
  let settled : JobSystem π :=
    { s with
      jobs := s.jobs.updateMany settlement.test settlement.data.apply (fun _ => rfl) fun _ => rfl }
  match lost, s.jobs.rows.any settlement.test with
  | some error, false =>
    settled.modify workerId jobId (fun e => { e with failure := some error, leaseFailed := true })
      fun _ => rfl
  | _, _ => settled.finish workerId jobId

variable [DecidableEq π] (reader : PayloadReader π)

/-- The timers that renew a lock while its handler runs: `renew` of `startSqlJobLease`
(`sql-job-admission.ts:33`) and of the knowledge leases (`oauth-knowledge-sync-lease.ts:65`). -/
def renewLease (e : Execution π) (now : Nat) : JobSystem π :=
  let renew (test : WorkflowJob π → Bool) (stamp : Nat) : JobSystem π :=
    { s with
      jobs := s.jobs.updateMany test (fun job => { job with lockedAt := some stamp })
        (fun _ => rfl) fun _ => rfl }
  if e.job.type = "data-source.sync" then
    renew (fun row => e.job.workspaceId.isSome && e.ownsRow workerId row &&
      (reader.sourceId e.job.payload).any (reader.sourceId row.payload = some ·) &&
      row.lockedAt.any fun lockedAt => now < lockedAt + LOCK_TIMEOUT_MS) now
  else if isClaimFencedKnowledgeSyncJob e.job.type then
    let stamp := max now (e.leaseAt + 1)
    let renewed := renew (e.leaseOwnsRow now) stamp
    if s.jobs.rows.any (e.leaseOwnsRow now) then
      renewed.modify workerId e.job.id (fun e => { e with leaseAt := stamp }) fun _ => rfl
    else
      renewed.modify workerId e.job.id (fun e => { e with leaseFailed := true }) fun _ => rfl
  else s

/-- The handler of `e` returns. -/
def returned (e : Execution π) (superseded : Bool) (now : Nat) : JobSystem π :=
  match e.completion workerId now reader superseded with
  | .ok (some settlement) => s.settle workerId e.job.id settlement (unsettled e.job.type)
  | .ok none => s.finish workerId e.job.id
  | .error error =>
    s.modify workerId e.job.id (fun e => { e with failure := some error, leaseFailed := true })
      fun _ => rfl

/-- One step of the system. An action that names a job the worker does not have in hand, or not in
the phase that the action is about, changes nothing. -/
def apply : JobAction π → JobSystem π
  | .enqueue id now params =>
    match enqueueJob s.jobs id now params with
    | .ok jobs => { s with jobs }
    | .error _ => s
  | .claim workerId inactive batchSize now => s.claimPendingJobs workerId inactive batchSize now
  | .abandon workerId jobId => s.finish workerId jobId
  | .renew workerId jobId now =>
    match (s.inFlight workerId).find? jobId with
    | some e => s.renewLease workerId reader e now
    | none => s
  | .threw workerId jobId error =>
    s.modify workerId jobId (fun e => { e with failure := e.failure.or (some error) }) fun _ => rfl
  | .returned workerId jobId superseded now =>
    match (s.inFlight workerId).find? jobId with
    | some e => if e.failure.isSome then s else s.returned workerId reader e superseded now
    | none => s
  | .settleFailure workerId jobId now =>
    match (s.inFlight workerId).find? jobId with
    | some e =>
      match e.failure with
      | some error => s.settle workerId e.job.id (e.failureSettlement workerId now error) none
      | none => s
    | none => s

/-- The call of `processClaimedJob` whose settlement an action runs. -/
def settling : JobAction π → Option (Execution π)
  | .returned workerId jobId _ _ =>
    ((s.inFlight workerId).find? jobId).filter (·.failure.isNone)
  | .settleFailure workerId jobId _ =>
    ((s.inFlight workerId).find? jobId).filter (·.failure.isSome)
  | _ => none

end JobSystem

/-! ## What a settlement asks of the row -/

/-- `settlement` is a statement with which the `processClaimedJob` of `e` may end. -/
def Execution.Issues {π : Type} [DecidableEq π] (reader : PayloadReader π) (e : Execution π)
    (workerId : String) (settlement : Settlement π) : Prop :=
  (∃ superseded now, e.completion workerId now reader superseded = .ok (some settlement)) ∨
    ∃ now error, settlement = e.failureSettlement workerId now error

/-- A settlement of `e` changes the row of its job only. An ordinary one asks for nothing else; any
other asks for a row that its worker has locked. -/
structure Settlement.Suits {π : Type} (settlement : Settlement π) (e : Execution π) : Prop where
  id : ∀ row, settlement.test row → row.id = e.job.id
  claim : isOrdinaryJob e.job.type = false →
    ∀ row, settlement.test row → row.status = .RUNNING ∧ row.lockedBy = some e.job.lockedBy
  ordinary : isOrdinaryJob e.job.type = true → ∀ row, row.id = e.job.id → settlement.test row
  status : settlement.data.status ≠ .RUNNING

section
variable {π : Type} {e : Execution π} {workerId : String} {now : Nat} {row : WorkflowJob π}
  {data : JobUpdate π}

theorem Execution.ownsRow_iff : e.ownsRow workerId row = true ↔
    row.id = e.job.id ∧ row.workspaceId = e.job.workspaceId ∧ row.type = e.job.type ∧
      row.status = .RUNNING ∧ row.lockedBy = some workerId ∧ row.attempts = e.job.attempts := by
  simp [Execution.ownsRow, and_assoc]

theorem isOrdinaryJob_of_isFencedJob {type : String} (h : isFencedJob type = true) :
    isOrdinaryJob type = false := by
  simp [isOrdinaryJob, h]

/-- The settlement by `id` alone, of a job that is not one of the special types. -/
theorem Settlement.Suits.byId (hordinary : isOrdinaryJob e.job.type = true)
    (hstatus : data.status ≠ .RUNNING) :
    Settlement.Suits ⟨fun row => decide (row.id = e.job.id), data⟩ e where
  id _ h := of_decide_eq_true h
  claim h := absurd hordinary (by simp [h])
  ordinary _ _ h := decide_eq_true h
  status := hstatus

variable {settlement : Settlement π}

theorem Settlement.Suits.locked
    (hordinary : isOrdinaryJob e.job.type = false)
    (htest : ∀ row, settlement.test row → row.id = e.job.id ∧ row.status = .RUNNING ∧
      row.lockedBy = some e.job.lockedBy)
    (hstatus : settlement.data.status ≠ .RUNNING) : settlement.Suits e where
  id row h := (htest row h).1
  claim _ row h := (htest row h).2
  ordinary h := absurd h (by simp [hordinary])
  status := hstatus

theorem Execution.failureData_status (error : Thrown) :
    (e.failureData now error).status ≠ .RUNNING := by
  show (if _ then _ else _ : WorkflowJobStatus) ≠ _
  split <;> nofun

variable [DecidableEq π] {reader : PayloadReader π} {settlement : Settlement π}

variable (hlocked : e.job.lockedBy = workerId)
include hlocked

theorem Execution.settlesRow_locked (h : e.settlesRow workerId now row) :
    row.id = e.job.id ∧ row.status = .RUNNING ∧ row.lockedBy = some e.job.lockedBy := by
  unfold Execution.settlesRow at h
  split at h
  · simp only [Execution.leaseOwnsRow, Bool.and_eq_true, decide_eq_true_eq] at h
    exact ⟨h.1.1.1.1.1.1.1.1.2, h.1.1.1.1.1.2, h.1.1.1.2⟩
  · simp only [Bool.and_eq_true] at h
    obtain ⟨hid, _, _, hstatus, hlockedBy, _⟩ := Execution.ownsRow_iff.1 h.1.1
    exact ⟨hid, hstatus, hlocked ▸ hlockedBy⟩

theorem Execution.completion_suits {superseded : Bool}
    (h : e.completion workerId now reader superseded = .ok (some settlement)) :
    settlement.Suits e := by
  unfold Execution.completion at h
  dsimp only at h
  split at h
  · next hdiagnostic =>
    cases hpayload : reader.diagnostic e.job now with
    | error error => simp [hpayload, Except.map] at h
    | ok payload =>
      simp only [hpayload, Except.map, Except.ok.injEq, some.injEq] at h
      subst h
      refine .locked (by simp [isOrdinaryJob, hdiagnostic]) (fun row hrow => ?_) nofun
      simp only [Bool.and_eq_true, decide_eq_true_eq] at hrow
      exact ⟨hrow.1.1.1.1.1, hrow.1.1.2, hlocked ▸ hrow.1.2⟩
  next hdiagnostic =>
  split at h
  · cases h
  split at h
  · next hfenced =>
    simp only [Except.ok.injEq, some.injEq] at h
    subst h
    rw [Bool.and_eq_true] at hfenced
    exact .locked (isOrdinaryJob_of_isFencedJob hfenced.1)
      (fun row => e.settlesRow_locked hlocked) nofun
  next hfenced =>
  split at h
  · next hsync =>
    split at h
    · cases h
    simp only [Except.ok.injEq, some.injEq] at h
    subst h
    refine .locked (by simp [isOrdinaryJob, hsync]) (fun row hrow => ?_) nofun
    obtain ⟨hid, _, _, hstatus, hlockedBy, _⟩ := Execution.ownsRow_iff.1 hrow
    exact ⟨hid, hstatus, hlocked ▸ hlockedBy⟩
  next hsync =>
  split at h
  · next hsuperseded =>
    simp only [Except.ok.injEq, some.injEq] at h
    subst h
    refine .byId ?_ nofun
    have hnot : isFencedJob e.job.type = false := by
      simpa [hsuperseded] using hfenced
    simp [isOrdinaryJob, hdiagnostic, hsync, hnot]
  · cases h

theorem Execution.failureSettlement_suits (error : Thrown) :
    (e.failureSettlement workerId now error).Suits e := by
  unfold Execution.failureSettlement
  split
  · next hmaintenance =>
    have htype := of_decide_eq_true hmaintenance
    refine .locked (by simp [isOrdinaryJob, isFencedJob, htype]) (fun row hrow => ?_) nofun
    simp only [Execution.deferral, Bool.and_eq_true] at hrow
    obtain ⟨hid, _, _, hstatus, hlockedBy, _⟩ := Execution.ownsRow_iff.1 hrow.1.1.1
    exact ⟨hid, hstatus, hlocked ▸ hlockedBy⟩
  split
  · next hdiagnostic =>
    refine .locked (by simp [isOrdinaryJob, hdiagnostic]) (fun row hrow => ?_) nofun
    simp only [Bool.and_eq_true, decide_eq_true_eq] at hrow
    exact ⟨hrow.1.1.1.1, hrow.1.2, hlocked ▸ hrow.2⟩
  next hdiagnostic =>
  split
  · next hfenced =>
    have hspecial : isOrdinaryJob e.job.type = false := by
      rcases Bool.or_eq_true_iff.1 hfenced with h | h
      · simp [isOrdinaryJob, of_decide_eq_true h]
      · exact isOrdinaryJob_of_isFencedJob h
    exact .locked hspecial (fun row => e.settlesRow_locked hlocked) (Execution.failureData_status _)
  · next hfenced =>
    refine .byId ?_ (Execution.failureData_status _)
    simp only [Bool.or_eq_true, not_or, decide_eq_true_eq, Bool.not_eq_true] at hfenced
    simp [isOrdinaryJob, hdiagnostic, hfenced]

theorem Execution.Issues.suits (h : e.Issues reader workerId settlement) : settlement.Suits e := by
  rcases h with ⟨superseded, now, h⟩ | ⟨now, error, rfl⟩
  · exact e.completion_suits hlocked h
  · exact e.failureSettlement_suits hlocked error

end

/-! ## What one step does -/

/-- The row is as it was, up to a lock that was renewed. -/
def WorkflowJob.Keeps {π : Type} (row row' : WorkflowJob π) : Prop :=
  row' = row ∨ row.status = .RUNNING ∧ ∃ stamp, row' = { row with lockedAt := some stamp }

theorem WorkflowJob.Keeps.same {π : Type} {row row' : WorkflowJob π} (h : row.Keeps row') :
    row'.type = row.type ∧ row'.status = row.status ∧ row'.lockedBy = row.lockedBy ∧
      row'.attempts = row.attempts := by
  rcases h with rfl | ⟨_, stamp, rfl⟩ <;> exact ⟨rfl, rfl, rfl, rfl⟩

namespace JobSystem

section
variable {π : Type} {s t : JobSystem π} {workerId jobId : String}

/-- Every job in hand after the step was in the same hands before. -/
def InHand (s t : JobSystem π) : Prop :=
  ∀ holder, ∀ e' ∈ (t.inFlight holder).rows, ∃ e ∈ (s.inFlight holder).rows, e.job = e'.job

/-- A step that neither claims nor settles: it keeps the rows, and no job comes to hand. -/
structure Quiet (s t : JobSystem π) : Prop where
  rows : ∀ {id row}, s.jobs.find? id = some row →
    ∃ row', t.jobs.find? id = some row' ∧ row.Keeps row'
  inHand : InHand s t

/-- What `settlement` leaves behind when the worker runs it for `e`. -/
structure SettledBy (workerId : String) (e : Execution π) (settlement : Settlement π)
    (s t : JobSystem π) : Prop where
  rows : ∀ id, t.jobs.find? id = (s.jobs.find? id).map fun row =>
    if settlement.test row then settlement.data.apply row else row
  inHand : ∀ holder, ∀ e' ∈ (t.inFlight holder).rows,
    e' ∈ (s.inFlight holder).rows ∧ (holder = workerId → e'.job.id ≠ e.job.id)

theorem InHand.refl (s : JobSystem π) : InHand s s := fun _ e he => ⟨e, he, rfl⟩

theorem Quiet.of_jobs_eq (hjobs : t.jobs = s.jobs) (hhand : InHand s t) : Quiet s t :=
  ⟨fun {_ row} h => ⟨row, hjobs ▸ h, .inl rfl⟩, hhand⟩

theorem inHand_finish : InHand s (s.finish workerId jobId) :=
  fun _ e he => ⟨e, (Hands.mem_drop he).1, rfl⟩

theorem inHand_modify {data : Execution π → Execution π} (hjob : ∀ e, (data e).job = e.job) :
    InHand s (s.modify workerId jobId data hjob) := by
  intro holder e' he'
  rcases Hands.mem_modify he' with ⟨he', _⟩ | ⟨rfl, e, he, _, rfl⟩
  · exact ⟨e', he', rfl⟩
  · exact ⟨e, he, (hjob e).symm⟩

theorem claimPendingJobs_rows {inactive : Option String → Bool} {batchSize now : Nat}
    (hidle : (s.inFlight workerId).rows = []) (id : String) :
    (s.claimPendingJobs workerId inactive batchSize now).jobs.find? id =
      (s.jobs.find? id).map fun row =>
        if row.id ∈ (claimCandidates s.jobs inactive batchSize now).map WorkflowJob.id
          then row.claim workerId now else row := by
  have hrows (test : WorkflowJob π → Bool) :
      (s.jobs.updateMany test (·.claim workerId now) (fun _ => rfl) fun _ => rfl).find? id =
        (s.jobs.find? id).map fun row => if test row then row.claim workerId now else row :=
    JobTable.find?_updateMany _ _
  rw [claimPendingJobs, if_pos (by rw [hidle]; rfl)]
  refine (hrows _).trans ?_
  simp only [decide_eq_true_eq]

variable {e : Execution π}

theorem mem_claimPendingJobs {inactive : Option String → Bool} {batchSize now : Nat}
    {holder : String} (hidle : (s.inFlight workerId).rows = [])
    (h : e ∈ ((s.claimPendingJobs workerId inactive batchSize now).inFlight holder).rows) :
    holder ≠ workerId ∧ e ∈ (s.inFlight holder).rows ∨
      holder = workerId ∧ ∃ row ∈ claimCandidates s.jobs inactive batchSize now,
        e = .start (row.claimed workerId now) := by
  rw [claimPendingJobs, if_pos (by rw [hidle]; rfl)] at h
  refine (Hands.mem_take h).imp_right fun ⟨hholder, he⟩ => ⟨hholder, ?_⟩
  obtain ⟨row, hrow, rfl⟩ := mem_map.1 he
  exact ⟨row, hrow, rfl⟩

theorem find?_settle (s : JobSystem π) (workerId jobId : String) (settlement : Settlement π)
    (lost : Option Thrown) (id : String) :
    (s.settle workerId jobId settlement lost).jobs.find? id =
      (s.jobs.find? id).map fun row =>
        if settlement.test row then settlement.data.apply row else row := by
  have hrows : (s.jobs.updateMany settlement.test settlement.data.apply
      (fun _ => rfl) fun _ => rfl).find? id = (s.jobs.find? id).map fun row =>
        if settlement.test row then settlement.data.apply row else row :=
    JobTable.find?_updateMany _ _
  unfold settle
  dsimp only
  split <;> exact hrows

/-- A settlement changes the rows that it is about and ends the execution, or there are none. -/
theorem settle_cases (e : Execution π) (settlement : Settlement π) (lost : Option Thrown) :
    ((∀ id, (s.settle workerId e.job.id settlement lost).jobs.find? id = s.jobs.find? id) ∧
        InHand s (s.settle workerId e.job.id settlement lost)) ∨
      SettledBy workerId e settlement s (s.settle workerId e.job.id settlement lost) := by
  have hrows := find?_settle s workerId e.job.id settlement lost
  unfold settle at hrows ⊢
  dsimp only at hrows ⊢
  split at hrows
  · next hnone =>
    refine .inl ⟨fun id => (hrows id).trans ?_, inHand_modify (s := ⟨_, s.inFlight⟩) _⟩
    cases hrow : s.jobs.find? id with
    | none => rfl
    | some row =>
      have hmem := (KeyedTable.find?_eq_some.1 hrow).1
      have htest := any_eq_false.1 hnone row hmem
      exact congrArg some (if_neg htest)
  · exact .inr ⟨hrows, fun holder e' he' => Hands.mem_drop he'⟩

variable [DecidableEq π] (reader : PayloadReader π) {action : JobAction π} {e : Execution π}

theorem settling_cases (h : s.settling action = some e) :
    ∃ workerId, e ∈ (s.inFlight workerId).rows ∧
      (((∀ id, (s.apply reader action).jobs.find? id = s.jobs.find? id) ∧
          InHand s (s.apply reader action)) ∨
        ∃ settlement, e.Issues reader workerId settlement ∧
          SettledBy workerId e settlement s (s.apply reader action)) := by
  cases action with
  | returned workerId jobId superseded now =>
    obtain ⟨hfound, hphase⟩ := filter_eq_some_iff.1 h
    refine ⟨workerId, (KeyedTable.find?_eq_some.1 hfound).1, ?_⟩
    rw [apply, hfound]
    dsimp only
    rw [if_neg (by simpa using hphase), returned]
    cases hstatement : e.completion workerId now reader superseded with
    | error error => exact .inl ⟨fun _ => rfl, inHand_modify _⟩
    | ok statement =>
      cases statement with
      | none => exact .inl ⟨fun _ => rfl, inHand_finish⟩
      | some settlement =>
        refine (settle_cases e settlement _).imp_right fun hsettled => ⟨settlement, ?_, hsettled⟩
        exact .inl ⟨superseded, now, hstatement⟩
  | settleFailure workerId jobId now =>
    obtain ⟨hfound, hphase⟩ := filter_eq_some_iff.1 h
    obtain ⟨error, herror⟩ := isSome_iff_exists.1 hphase
    refine ⟨workerId, (KeyedTable.find?_eq_some.1 hfound).1, ?_⟩
    rw [apply, hfound]
    dsimp only
    rw [herror]
    refine (settle_cases e _ none).imp_right fun hsettled => ⟨_, ?_, hsettled⟩
    exact .inr ⟨now, error, rfl⟩
  | _ => cases h

theorem quiet_renewLease (now : Nat) : Quiet s (s.renewLease workerId reader e now) := by
  have hrenew (test : WorkflowJob π → Bool) (stamp : Nat) (t : JobSystem π)
      (hjobs : t.jobs = s.jobs.updateMany test (fun job => { job with lockedAt := some stamp })
        (fun _ => rfl) fun _ => rfl)
      (htest : ∀ row, test row → row.status = .RUNNING) (hhand : InHand s t) : Quiet s t := by
    refine ⟨fun {id row} hrow => ?_, hhand⟩
    rw [hjobs, JobTable.find?_updateMany, hrow]
    refine ⟨_, rfl, ?_⟩
    dsimp only
    split
    · next h => exact .inr ⟨htest row h, stamp, rfl⟩
    · exact .inl rfl
  have hlease : ∀ row, e.leaseOwnsRow now row = true → row.status = .RUNNING := by
    intro row h
    simp only [Execution.leaseOwnsRow, Bool.and_eq_true, decide_eq_true_eq] at h
    exact h.1.1.1.1.1.2
  unfold renewLease
  split
  · refine hrenew _ now _ rfl (fun row h => ?_) (.refl s)
    simp only [Bool.and_eq_true] at h
    exact (Execution.ownsRow_iff.1 h.1.1.2).2.2.2.1
  split
  · dsimp only
    split
    · exact hrenew _ _ _ rfl hlease (inHand_modify (s := ⟨_, s.inFlight⟩) _)
    · exact hrenew _ _ _ rfl hlease (inHand_modify (s := ⟨_, s.inFlight⟩) _)
  · exact .of_jobs_eq rfl (.refl s)

theorem quiet_apply (h : s.settling action = none)
    (hclaim : ∀ workerId inactive batchSize now, action ≠ .claim workerId inactive batchSize now) :
    Quiet s (s.apply reader action) := by
  cases action with
  | enqueue id now params =>
    rw [apply]
    cases hjobs : enqueueJob s.jobs id now params with
    | ok jobs => exact ⟨fun h => ⟨_, find?_enqueueJob hjobs h, .inl rfl⟩, .refl s⟩
    | error _ => exact .of_jobs_eq rfl (.refl s)
  | claim workerId inactive batchSize now =>
    exact absurd rfl (hclaim workerId inactive batchSize now)
  | abandon => exact .of_jobs_eq rfl inHand_finish
  | renew workerId jobId now =>
    rw [apply]
    split
    · exact quiet_renewLease reader now
    · exact .of_jobs_eq rfl (.refl s)
  | threw => exact .of_jobs_eq rfl (inHand_modify fun e => by rfl)
  | returned workerId jobId superseded now =>
    rw [settling] at h
    rw [apply]
    cases hfound : (s.inFlight workerId).find? jobId with
    | none => exact .of_jobs_eq rfl (.refl s)
    | some e =>
      have hphase : e.failure.isSome := by
        simpa [hfound, filter, isSome_iff_ne_none] using h
      dsimp only
      rw [if_pos hphase]
      exact .of_jobs_eq rfl (.refl s)
  | settleFailure workerId jobId now =>
    rw [settling] at h
    rw [apply]
    cases hfound : (s.inFlight workerId).find? jobId with
    | none => exact .of_jobs_eq rfl (.refl s)
    | some e =>
      have hphase : e.failure = none := by
        simpa [hfound, filter] using h
      dsimp only
      rw [hphase]
      exact .of_jobs_eq rfl (.refl s)

end

end JobSystem

/-! ## Fencing -/

/-- The row is under the claim that returned `job`. -/
structure IsCurrent {π : Type} (job : ClaimedJob π) (row : WorkflowJob π) : Prop where
  running : row.status = .RUNNING
  lockedBy : row.lockedBy = some job.lockedBy
  attempts : row.attempts = job.attempts

theorem IsCurrent.keeps {π : Type} {job : ClaimedJob π} {row row' : WorkflowJob π}
    (h : IsCurrent job row) (hkeeps : row.Keeps row') : IsCurrent job row' := by
  obtain ⟨_, hstatus, hlocked, hattempts⟩ := hkeeps.same
  exact ⟨hstatus.trans h.running, hlocked.trans h.lockedBy, hattempts.trans h.attempts⟩

/-- The job is done with. -/
def WorkflowJob.HasEnded {π : Type} (row : WorkflowJob π) : Prop :=
  row.status = .COMPLETED ∨ row.status = .FAILED

namespace JobSystem

section
variable {π : Type}

/-- Whatever settlement comes next changes a row only under the claim that it settles, and takes the
lock from no other claim. -/
structure Fenced [DecidableEq π] (reader : PayloadReader π) (s : JobSystem π) : Prop where
  changes : ∀ {action e}, s.settling action = some e → ∀ {id row}, s.jobs.find? id = some row →
    (s.apply reader action).jobs.find? id ≠ some row → IsCurrent e.job row
  clears : ∀ {action e}, s.settling action = some e →
    ∀ {id row row' holder}, s.jobs.find? id = some row → row.lockedBy = some holder →
      (s.apply reader action).jobs.find? id = some row' → row'.lockedBy ≠ some holder →
        holder = e.job.lockedBy ∧ row.attempts = e.job.attempts

variable (s : JobSystem π)

/-- The action claims an ordinary job that a worker still has in hand. -/
def Reclaims : JobAction π → Prop
  | .claim workerId inactive batchSize now =>
    (s.inFlight workerId).rows = [] ∧
      ∃ job ∈ claimCandidates s.jobs inactive batchSize now, isOrdinaryJob job.type = true ∧
        ∃ holder, ∃ e ∈ (s.inFlight holder).rows, e.job.id = job.id
  | _ => False

/-- What a worker knows of the jobs in its hands holds of their rows, and a row that it has locked
is under the claim it holds. -/
structure Inv : Prop where
  lockedBy : ∀ {workerId e}, e ∈ (s.inFlight workerId).rows → e.job.lockedBy = workerId
  row : ∀ {workerId e}, e ∈ (s.inFlight workerId).rows → ∃ row, s.jobs.find? e.job.id = some row ∧
    row.type = e.job.type ∧
    (row.status = .RUNNING → row.lockedBy = some workerId → row.attempts = e.job.attempts)

/-- Every ordinary job in hand is still under the claim that took it. -/
def OrdinaryHeld : Prop :=
  ∀ workerId, ∀ e ∈ (s.inFlight workerId).rows, isOrdinaryJob e.job.type = true →
    ∀ row, s.jobs.find? e.job.id = some row → IsCurrent e.job row

end

section
variable {π : Type} {s t : JobSystem π}

theorem Quiet.inv (h : Quiet s t) (hinv : s.Inv) : t.Inv := by
  refine ⟨fun {workerId e'} he' => ?_, fun {workerId e'} he' => ?_⟩
  all_goals obtain ⟨e, he, hjob⟩ := h.inHand workerId e' he'
  · exact hjob ▸ hinv.lockedBy he
  · obtain ⟨row, hrow, htype, hclaim⟩ := hinv.row he
    obtain ⟨row', hrow', hkeeps⟩ := h.rows hrow
    obtain ⟨htype', hstatus, hlocked, hattempts⟩ := hkeeps.same
    rw [← hjob]
    exact ⟨row', hrow', htype'.trans htype,
      fun hr hl => hattempts.trans (hclaim (hstatus ▸ hr) (hlocked ▸ hl))⟩

theorem Quiet.held (h : Quiet s t) (hinv : s.Inv) (hheld : s.OrdinaryHeld) : t.OrdinaryHeld := by
  intro workerId e' he' hordinary row' hrow'
  obtain ⟨e, he, hjob⟩ := h.inHand workerId e' he'
  rw [← hjob] at hordinary hrow' ⊢
  obtain ⟨row, hrow, _⟩ := hinv.row he
  obtain ⟨row'', hrow'', hkeeps⟩ := h.rows hrow
  obtain rfl := some.inj (hrow'.symm.trans hrow'')
  exact (hheld workerId e he hordinary row hrow).keeps hkeeps

section
variable {workerId : String} {inactive : Option String → Bool} {batchSize now : Nat}

variable (hidle : (s.inFlight workerId).rows = []) (hinv : s.Inv)
include hidle hinv

theorem inv_claimPendingJobs : (s.claimPendingJobs workerId inactive batchSize now).Inv := by
  refine ⟨fun {holder e} he => ?_, fun {holder e} he => ?_⟩
  all_goals
    rcases mem_claimPendingJobs hidle he with ⟨hholder, he⟩ | ⟨rfl, row, hrow, rfl⟩
  · exact hinv.lockedBy he
  · rfl
  · obtain ⟨row, hrow, htype, hclaim⟩ := hinv.row he
    rw [claimPendingJobs_rows hidle, hrow]
    refine ⟨_, rfl, ?_⟩
    dsimp only
    split
    · exact ⟨htype, fun _ hlocked => absurd (some.inj hlocked).symm hholder⟩
    · exact ⟨htype, hclaim⟩
  · have hfound := KeyedTable.find?_key (mem_claimCandidates hrow).1
    refine ⟨row.claim holder now, ?_, rfl, fun _ _ => rfl⟩
    rw [claimPendingJobs_rows hidle]
    refine (congrArg (Option.map _) hfound).trans (congrArg some (if_pos ?_))
    exact mem_map_of_mem hrow

theorem held_claimPendingJobs (hheld : s.OrdinaryHeld)
    (hfree : ¬ s.Reclaims (.claim workerId inactive batchSize now)) :
    (s.claimPendingJobs workerId inactive batchSize now).OrdinaryHeld := by
  intro holder e he hordinary row' hrow'
  rw [claimPendingJobs_rows hidle] at hrow'
  obtain ⟨row, hrow, rfl⟩ := map_eq_some_iff.1 hrow'
  rcases mem_claimPendingJobs hidle he with ⟨_, he⟩ | ⟨rfl, taken, htaken, rfl⟩
  · obtain ⟨row₀, hrow₀, htype, _⟩ := hinv.row he
    obtain rfl := some.inj (hrow.symm.trans hrow₀)
    have hid := (KeyedTable.find?_eq_some.1 hrow).2
    rw [if_neg]
    · exact hheld holder e he hordinary row hrow
    · intro hcandidate
      obtain ⟨job, hjob, hjobId⟩ := mem_map.1 hcandidate
      have hfound := KeyedTable.find?_key (mem_claimCandidates hjob).1
      have hsame : job = row := some.inj (hfound.symm.trans (hjobId ▸ hid ▸ hrow))
      refine hfree ⟨hidle, job, hjob, ?_, holder, e, he, ?_⟩
      · rw [hsame, htype, hordinary]
      · exact hid.symm.trans hjobId.symm
  · have hfound := KeyedTable.find?_key (mem_claimCandidates htaken).1
    obtain rfl : row = taken := some.inj (hrow.symm.trans hfound)
    rw [if_pos (mem_map_of_mem htaken)]
    exact ⟨rfl, rfl, rfl⟩

end

theorem SettledBy.inv {workerId : String} (h : SettledBy workerId e settlement s t)
    (hsuits : settlement.Suits e) (hinv : s.Inv) :
    t.Inv := by
  refine ⟨fun he' => hinv.lockedBy (h.inHand _ _ he').1, fun {holder e'} he' => ?_⟩
  obtain ⟨row, hrow, htype, hclaim⟩ := hinv.row (h.inHand holder e' he').1
  rw [h.rows, hrow]
  refine ⟨_, rfl, ?_⟩
  dsimp only
  split
  · exact ⟨htype, fun hrunning => absurd hrunning hsuits.status⟩
  · exact ⟨htype, hclaim⟩

theorem SettledBy.held {workerId : String} (h : SettledBy workerId e settlement s t)
    (hsuits : settlement.Suits e) (he : e ∈ (s.inFlight workerId).rows) (hinv : s.Inv)
    (hheld : s.OrdinaryHeld) :
    t.OrdinaryHeld := by
  intro holder e' he' hordinary row' hrow'
  obtain ⟨he', hother⟩ := h.inHand holder e' he'
  rw [h.rows] at hrow'
  obtain ⟨row, hrow, rfl⟩ := map_eq_some_iff.1 hrow'
  have hcurrent := hheld holder e' he' hordinary row hrow
  split
  · next htest =>
    -- the settled job would be the job of `e'`, and so in the same hands
    exfalso
    have hid : e.job.id = e'.job.id :=
      (hsuits.id row htest).symm.trans (KeyedTable.find?_eq_some.1 hrow).2
    obtain ⟨rowₑ, hrowₑ, htypeₑ, _⟩ := hinv.row he
    obtain ⟨row', hrow', htype', _⟩ := hinv.row he'
    obtain rfl := some.inj (hrow.symm.trans hrow')
    obtain rfl := some.inj (hrow.symm.trans (hid ▸ hrowₑ))
    have hcurrentₑ := hheld workerId e he (htypeₑ ▸ htype' ▸ hordinary) row hrowₑ
    have hlocked := some.inj (hcurrent.lockedBy.symm.trans hcurrentₑ.lockedBy)
    rw [hinv.lockedBy he', hinv.lockedBy he] at hlocked
    exact hother hlocked hid.symm
  · exact hcurrent

variable [DecidableEq π] {reader : PayloadReader π} {action : JobAction π}

theorem Fenced.of_changes (h : ∀ {action e}, s.settling action = some e → ∀ {id row},
    s.jobs.find? id = some row → (s.apply reader action).jobs.find? id ≠ some row →
      IsCurrent e.job row) : s.Fenced reader := by
  refine ⟨h, fun {action e} hsettling {id row row' holder} hrow hlocked hrow' hclear => ?_⟩
  have hchanged : (s.apply reader action).jobs.find? id ≠ some row := by
    rw [hrow']
    rintro ⟨⟩
    exact hclear hlocked
  have hcurrent := h hsettling hrow hchanged
  exact ⟨some.inj (hlocked.symm.trans hcurrent.lockedBy), hcurrent.attempts⟩

/-- A step of the system keeps the invariant. -/
theorem Inv.apply (hinv : s.Inv) : (s.apply reader action).Inv := by
  cases hsettling : s.settling action with
  | some e =>
    obtain ⟨workerId, he, ⟨hrows, hhand⟩ | ⟨settlement, hissues, hsettled⟩⟩ :=
      settling_cases reader hsettling
    · exact Quiet.inv ⟨fun h => ⟨_, (hrows _).trans h, .inl rfl⟩, hhand⟩ hinv
    · exact hsettled.inv (hissues.suits (hinv.lockedBy he)) hinv
  | none =>
    cases action with
    | claim workerId inactive batchSize now =>
      rw [JobSystem.apply]
      cases hidle : (s.inFlight workerId).rows with
      | nil => exact inv_claimPendingJobs hidle hinv
      | cons e rest =>
        rw [claimPendingJobs, if_neg (by simp [hidle])]
        exact hinv
    | _ => exact (quiet_apply reader hsettling nofun).inv hinv

/-- A step that claims no ordinary job in hand keeps the claims of those in hand. -/
theorem OrdinaryHeld.apply (hinv : s.Inv) (hheld : s.OrdinaryHeld) (hfree : ¬ s.Reclaims action) :
    (s.apply reader action).OrdinaryHeld := by
  cases hsettling : s.settling action with
  | some e =>
    obtain ⟨workerId, he, ⟨hrows, hhand⟩ | ⟨settlement, hissues, hsettled⟩⟩ :=
      settling_cases reader hsettling
    · exact Quiet.held ⟨fun h => ⟨_, (hrows _).trans h, .inl rfl⟩, hhand⟩ hinv hheld
    · exact hsettled.held (hissues.suits (hinv.lockedBy he)) he hinv hheld
  | none =>
    cases action with
    | claim workerId inactive batchSize now =>
      rw [JobSystem.apply]
      cases hidle : (s.inFlight workerId).rows with
      | nil => exact held_claimPendingJobs hidle hinv hheld hfree
      | cons e rest =>
        rw [claimPendingJobs, if_neg (by simp [hidle])]
        exact hheld
    | _ => exact (quiet_apply reader hsettling nofun).held hinv hheld

theorem OrdinaryHeld.fenced (hinv : s.Inv) (hheld : s.OrdinaryHeld) : s.Fenced reader := by
  refine .of_changes fun {action e} hsettling {id row} hrow hchanged => ?_
  obtain ⟨workerId, he, ⟨hrows, _⟩ | ⟨settlement, hissues, hsettled⟩⟩ :=
    settling_cases reader hsettling
  · exact absurd ((hrows id).trans hrow) hchanged
  have hsuits := hissues.suits (hinv.lockedBy he)
  have htest : settlement.test row = true := by
    by_contra hnot
    refine hchanged ?_
    rw [hsettled.rows, hrow]
    exact congrArg some (if_neg hnot)
  have hid : id = e.job.id := (KeyedTable.find?_eq_some.1 hrow).2.symm.trans (hsuits.id row htest)
  subst hid
  cases hordinary : isOrdinaryJob e.job.type with
  | true => exact hheld workerId e he hordinary row hrow
  | false =>
    obtain ⟨hrunning, hlocked⟩ := hsuits.claim hordinary row htest
    obtain ⟨row', hrow', _, hclaim⟩ := hinv.row he
    obtain rfl := some.inj (hrow.symm.trans hrow')
    exact ⟨hrunning, hlocked, hclaim hrunning (hinv.lockedBy he ▸ hlocked)⟩

theorem Fenced.ended (hfenced : s.Fenced reader) {id : String} {row : WorkflowJob π}
    (hrow : s.jobs.find? id = some row) (hended : row.HasEnded) :
    (s.apply reader action).jobs.find? id = some row := by
  have hrunning : row.status ≠ .RUNNING := by
    rcases hended with h | h <;> simp [h]
  cases hsettling : s.settling action with
  | some e =>
    by_contra hchanged
    exact hrunning (hfenced.changes hsettling hrow hchanged).running
  | none =>
    cases action with
    | claim workerId inactive batchSize now =>
      rw [JobSystem.apply]
      cases hidle : (s.inFlight workerId).rows with
      | nil =>
        rw [claimPendingJobs_rows hidle, hrow]
        refine congrArg some (if_neg fun hcandidate => ?_)
        obtain ⟨job, hjob, hjobId⟩ := mem_map.1 hcandidate
        obtain ⟨hmem, hclaimable⟩ := mem_claimCandidates hjob
        have hid := (KeyedTable.find?_eq_some.1 hrow).2
        have hfound := KeyedTable.find?_key hmem
        obtain rfl : job = row := some.inj (hfound.symm.trans (hjobId ▸ hid ▸ hrow))
        rcases hended with h | h <;> simp [WorkflowJob.isClaimable, h] at hclaimable
      | cons e rest =>
        rw [claimPendingJobs, if_neg (by simp [hidle])]
        exact hrow
    | _ =>
      obtain ⟨row', hrow', rfl | ⟨h, _⟩⟩ := (quiet_apply reader hsettling nofun).rows hrow
      · exact hrow'
      · exact absurd h hrunning

theorem exists_settling (reader : PayloadReader π) {workerId : String}
    (he : e ∈ (s.inFlight workerId).rows) (hordinary : isOrdinaryJob e.job.type = true) :
    ∃ action settlement, s.settling action = some e ∧ e.Issues reader workerId settlement ∧
      ∀ id, (s.apply reader action).jobs.find? id = (s.jobs.find? id).map fun row =>
        if settlement.test row then settlement.data.apply row else row := by
  have hfound : (s.inFlight workerId).find? e.job.id = some e := KeyedTable.find?_key he
  cases hphase : e.failure with
  | none =>
    obtain ⟨settlement, hstatement⟩ : ∃ settlement,
        e.completion workerId 0 reader false = .ok (some settlement) := by
      simp only [isOrdinaryJob, isFencedJob, Bool.and_eq_true, decide_eq_true_eq, Bool.not_eq_true',
        Bool.or_eq_false_iff] at hordinary
      simp [Execution.completion, isFencedJob, hordinary]
    refine ⟨.returned workerId e.job.id false 0, settlement, ?_, .inl ⟨false, 0, hstatement⟩, ?_⟩
    · simp [settling, hfound, hphase]
    · intro id
      simp only [JobSystem.apply, hfound, hphase, JobSystem.returned, hstatement]
      exact find?_settle s workerId e.job.id settlement _ id
  | some error =>
    refine ⟨.settleFailure workerId e.job.id 0, _, ?_, .inr ⟨0, error, rfl⟩, ?_⟩
    · simp [settling, hfound, hphase]
    · intro id
      simp only [JobSystem.apply, hfound, hphase]
      exact find?_settle s workerId e.job.id _ _ id

/-- After an ordinary job in hand is claimed again, the older worker's settlement is not fenced. -/
theorem Reclaims.not_fenced (hinv : s.Inv) (h : s.Reclaims action) :
    ¬ (s.apply reader action).Fenced reader := by
  intro hfenced
  cases action with
  | claim workerId inactive batchSize now =>
    obtain ⟨hidle, job, hjob, hordinary, holder, e, he, hid⟩ := h
    obtain ⟨row, hrow, htype, _⟩ := hinv.row he
    have hfound := KeyedTable.find?_key (mem_claimCandidates hjob).1
    obtain rfl : job = row := some.inj (hfound.symm.trans (hid ▸ hrow))
    have hholder : holder ≠ workerId := by
      rintro rfl
      simp [hidle] at he
    replace hfenced : (s.claimPendingJobs workerId inactive batchSize now).Fenced reader := hfenced
    have hrows : (s.claimPendingJobs workerId inactive batchSize now).jobs.find? e.job.id =
        some (job.claim workerId now) := by
      rw [claimPendingJobs_rows hidle, hrow]
      exact congrArg some (if_pos (mem_map_of_mem hjob))
    have hstill :
        e ∈ ((s.claimPendingJobs workerId inactive batchSize now).inFlight holder).rows := by
      rw [claimPendingJobs, if_pos (by rw [hidle]; rfl)]
      show e ∈ (s.inFlight.take workerId _ holder).rows
      rw [Hands.take_of_ne hholder]
      exact he
    obtain ⟨action, settlement, hsettling, hissues, hafter⟩ :=
      exists_settling reader hstill (htype ▸ hordinary)
    have hsuits := hissues.suits (hinv.lockedBy he)
    have htest := hsuits.ordinary (htype ▸ hordinary) (job.claim workerId now) hid.symm
    have hcurrent := hfenced.changes hsettling hrows (by
      rw [hafter, hrows, map_some, if_pos htest]
      intro hsame
      exact hsuits.status (congrArg WorkflowJob.status (some.inj hsame)))
    have hlocked := some.inj hcurrent.lockedBy
    exact hholder (hinv.lockedBy he ▸ hlocked.symm)
  | _ => exact h

end

end JobSystem

/-- The system after `actions`, from a table of which no worker has a job in hand. -/
def runJobs {π : Type} [DecidableEq π] (reader : PayloadReader π) (jobs : JobTable π)
    (actions : List (JobAction π)) : JobSystem π :=
  actions.foldl (fun s action => s.apply reader action) ⟨jobs, fun _ => .empty⟩

section
variable {π : Type} [DecidableEq π] (reader : PayloadReader π) (jobs : JobTable π)

theorem runJobs_append (done more : List (JobAction π)) :
    runJobs reader jobs (done ++ more) =
      more.foldl (fun s action => s.apply reader action) (runJobs reader jobs done) :=
  foldl_append

theorem runJobs_inv (actions : List (JobAction π)) : (runJobs reader jobs actions).Inv := by
  induction actions using reverseRecOn with
  | nil => exact ⟨nofun, nofun⟩
  | append_singleton done action ih =>
    rw [runJobs_append]
    exact ih.apply

/-- **Job settlement is fenced unless an ordinary job is claimed again in hand.** After every prefix
of a run all settlements are fenced, and a job that has ended stays as it is, if and only if no
action of the run claims an ordinary job that a worker still has in hand. -/
theorem jobs_fenced_iff (actions : List (JobAction π)) :
    ((∀ done, done <+: actions → (runJobs reader jobs done).Fenced reader) ∧
        ∀ done more, done ++ more <+: actions → ∀ id row,
          (runJobs reader jobs done).jobs.find? id = some row → row.HasEnded →
            (runJobs reader jobs (done ++ more)).jobs.find? id = some row) ↔
      ∀ done action, done ++ [action] <+: actions →
        ¬ (runJobs reader jobs done).Reclaims action := by
  constructor
  · rintro ⟨hfenced, _⟩ done action hpre hreclaims
    have hafter := hfenced _ hpre
    rw [runJobs_append] at hafter
    exact hreclaims.not_fenced (runJobs_inv reader jobs done) hafter
  · intro hfree
    have hheld : ∀ done, done <+: actions → (runJobs reader jobs done).OrdinaryHeld := by
      intro done hpre
      induction done using reverseRecOn with
      | nil => exact fun _ _ he => nomatch he
      | append_singleton done action ih =>
        have hbefore := ih ((prefix_append done [action]).trans hpre)
        rw [runJobs_append]
        exact hbefore.apply (runJobs_inv reader jobs done) (hfree done action hpre)
    have hfenced : ∀ done, done <+: actions → (runJobs reader jobs done).Fenced reader :=
      fun done hpre => (hheld done hpre).fenced (runJobs_inv reader jobs done)
    refine ⟨hfenced, fun done more hpre id row hrow hended => ?_⟩
    induction more using reverseRecOn with
    | nil => rwa [append_nil]
    | append_singleton more action ih =>
      rw [← append_assoc] at hpre ⊢
      have hshorter := (prefix_append (done ++ more) [action]).trans hpre
      rw [runJobs_append]
      exact (hfenced _ hshorter).ended (ih hshorter) hended

end

/-- A table with one pending webhook delivery. -/
def webhookJobs : JobTable Unit where
  rows := [toWorkflowJobCreateInput "job" 0 ⟨some "w", none, "webhook.deliver", (), "key", none⟩]
  nodup := List.nodup_singleton _
  nodup_dedupeKey := List.nodup_singleton _

/-- The handlers of `webhookJobs` read nothing from the payload. -/
def webhookReader : PayloadReader Unit := ⟨fun _ => none, fun _ _ => .error .other⟩

/-- Worker `a` claims the job and is slow. After five minutes `b` claims it and completes it; then
the handler of `a` throws, and `a` settles its failure. -/
def staleActions : List (JobAction Unit) :=
  [.claim "a" (fun _ => false) 25 0, .claim "b" (fun _ => false) 25 300001,
    .returned "b" "job" false 300500, .threw "a" "job" (.error "timeout" none),
    .settleFailure "a" "job" 301000]

/-- The completed job is pending again, after a settlement that was not fenced. -/
theorem runJobs_stale :
    ((runJobs webhookReader webhookJobs (staleActions.take 4)).jobs.find? "job").map
        WorkflowJob.status = some .COMPLETED ∧
      ((runJobs webhookReader webhookJobs staleActions).jobs.find? "job").map
        WorkflowJob.status = some .PENDING ∧
      ¬ (runJobs webhookReader webhookJobs (staleActions.take 4)).Fenced webhookReader := by
  have hcompleted : ((runJobs webhookReader webhookJobs (staleActions.take 4)).jobs.find? "job").map
      WorkflowJob.status = some .COMPLETED := by decide
  have hpending : ((runJobs webhookReader webhookJobs staleActions).jobs.find? "job").map
      WorkflowJob.status = some .PENDING := by decide
  refine ⟨hcompleted, hpending, fun hfenced => ?_⟩
  obtain ⟨row, hrow, hstatus⟩ := map_eq_some_iff.1 hcompleted
  have hkept : ((runJobs webhookReader webhookJobs (staleActions.take 4)).apply webhookReader
      (.settleFailure "a" "job" 301000)).jobs.find? "job" = some row :=
    hfenced.ended hrow (.inl hstatus)
  have hlast : runJobs webhookReader webhookJobs staleActions =
      (runJobs webhookReader webhookJobs (staleActions.take 4)).apply webhookReader
        (.settleFailure "a" "job" 301000) := rfl
  rw [hlast, hkept, map_some, hstatus] at hpending
  cases hpending

end Corgtex.Workflows
