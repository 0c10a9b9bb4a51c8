import Corgtex.Domain.Errors
import Corgtex.Library.JsDate
import Corgtex.Library.Json
import Corgtex.Library.Runs
import Corgtex.Workflows.Outbox

/-!
# The progress of a transcript

`meeting-transcript-processing.ts`: a meeting has one record of how far its transcript is processed,
and the details of all stages are one JSON value in it. The jobs of a meeting run at the same time,
and each call reads the record, changes the detail of its own stage, and writes the whole value
back. `transcript_progress_iff` says when that loses nothing.

The lock that `markMeetingTranscriptProcessingStage` takes is on the row of its job, and shared, so
it keeps no two calls of a meeting apart.
-/

namespace Corgtex.Domain

open JsString JsDate
open Corgtex.Workflows (WorkflowJobStatus)

/-! ## Details -/

/-- `MEETING_TRANSCRIPT_PROCESSING_STAGES` (line 18). -/
inductive MeetingTranscriptProcessingStage where
  | UPLOADED | SUMMARIZING | EXTRACTING_INSIGHTS | SYNCING_OUTPUTS | INDEXING_BRAIN | READY
deriving DecidableEq, Repr

inductive MeetingTranscriptProcessingStageStatus where
  | PENDING | ACTIVE | COMPLETED | FAILED | SKIPPED
deriving DecidableEq, Repr

/-- `MeetingTranscriptProcessingStageDetail` (line 37). -/
structure StageDetail where
  status : MeetingTranscriptProcessingStageStatus
  startedAt : Option JsString := none
  completedAt : Option JsString := none
  failedAt : Option JsString := none
  skippedAt : Option JsString := none
  updatedAt : Option JsString := none
  workflowJobId : Option JsString := none
  workflowJobType : Option JsString := none
  workflowJobStatus : Option WorkflowJobStatus := none
  attempts : Option Int := none
  chunkIndex : Option Int := none
  chunkCount : Option Int := none
  safeErrorCode : Option JsString := none
  safeErrorMessage : Option JsString := none
deriving DecidableEq

/-- `emptyStageDetail` (line 112). -/
def emptyStageDetail : StageDetail := { status := .PENDING }

abbrev StageDetails := MeetingTranscriptProcessingStage → StageDetail

def MeetingTranscriptProcessingStage.name : MeetingTranscriptProcessingStage → JsString
  | .UPLOADED => lit "UPLOADED"
  | .SUMMARIZING => lit "SUMMARIZING"
  | .EXTRACTING_INSIGHTS => lit "EXTRACTING_INSIGHTS"
  | .SYNCING_OUTPUTS => lit "SYNCING_OUTPUTS"
  | .INDEXING_BRAIN => lit "INDEXING_BRAIN"
  | .READY => lit "READY"

def MeetingTranscriptProcessingStageStatus.name : MeetingTranscriptProcessingStageStatus → JsString
  | .PENDING => lit "PENDING"
  | .ACTIVE => lit "ACTIVE"
  | .COMPLETED => lit "COMPLETED"
  | .FAILED => lit "FAILED"
  | .SKIPPED => lit "SKIPPED"

def jobStatusName : WorkflowJobStatus → JsString
  | .PENDING => lit "PENDING"
  | .RUNNING => lit "RUNNING"
  | .COMPLETED => lit "COMPLETED"
  | .FAILED => lit "FAILED"
  | .CANCELLED => lit "CANCELLED"

/-! ## The stored value -/

def readString : Option (Json Int) → Option JsString
  | some (.string text) => some text
  | _ => none

def readNumber : Option (Json Int) → Option Int
  | some (.number value) => some value
  | _ => none

def readStatus (value : Option (Json Int)) : MeetingTranscriptProcessingStageStatus :=
  let text := readString value
  if text = some (lit "ACTIVE") then .ACTIVE
  else if text = some (lit "COMPLETED") then .COMPLETED
  else if text = some (lit "FAILED") then .FAILED
  else if text = some (lit "SKIPPED") then .SKIPPED
  else .PENDING

def readJobStatus (value : Option (Json Int)) : Option WorkflowJobStatus :=
  (readString value).bind fun text =>
    [WorkflowJobStatus.PENDING, .RUNNING, .COMPLETED, .FAILED, .CANCELLED].find? fun status =>
      text = jobStatusName status

/-- The detail that the members of an object give. -/
def StageDetail.ofMembers (members : List (JsString × Json Int)) : StageDetail where
  status := readStatus (members.lookup (lit "status"))
  startedAt := readString (members.lookup (lit "startedAt"))
  completedAt := readString (members.lookup (lit "completedAt"))
  failedAt := readString (members.lookup (lit "failedAt"))
  skippedAt := readString (members.lookup (lit "skippedAt"))
  updatedAt := readString (members.lookup (lit "updatedAt"))
  workflowJobId := readString (members.lookup (lit "workflowJobId"))
  workflowJobType := readString (members.lookup (lit "workflowJobType"))
  workflowJobStatus := readJobStatus (members.lookup (lit "workflowJobStatus"))
  attempts := readNumber (members.lookup (lit "attempts"))
  chunkIndex := readNumber (members.lookup (lit "chunkIndex"))
  chunkCount := readNumber (members.lookup (lit "chunkCount"))
  safeErrorCode := readString (members.lookup (lit "safeErrorCode"))
  safeErrorMessage := readString (members.lookup (lit "safeErrorMessage"))

/-- `normalizeMeetingTranscriptStageStatuses` (line 137). -/
def normalizeMeetingTranscriptStageStatuses : Option (Json Int) → StageDetails
  | some (.object members), stage =>
    match members.lookup stage.name with
    | some (.object raw) => .ofMembers raw
    | _ => emptyStageDetail
  | _, _ => emptyStageDetail

def stringOrNull : Option JsString → Json Int
  | some text => .string text
  | none => .null

def numberOrNull : Option Int → Json Int
  | some value => .number value
  | none => .null

/-- The members of the object that a detail is written as. -/
def StageDetail.toMembers (detail : StageDetail) : List (JsString × Json Int) :=
  [(lit "status", .string detail.status.name),
    (lit "startedAt", stringOrNull detail.startedAt),
    (lit "completedAt", stringOrNull detail.completedAt),
    (lit "failedAt", stringOrNull detail.failedAt),
    (lit "skippedAt", stringOrNull detail.skippedAt),
    (lit "updatedAt", stringOrNull detail.updatedAt),
    (lit "workflowJobId", stringOrNull detail.workflowJobId),
    (lit "workflowJobType", stringOrNull detail.workflowJobType),
    (lit "workflowJobStatus", stringOrNull (detail.workflowJobStatus.map jobStatusName)),
    (lit "attempts", numberOrNull detail.attempts),
    (lit "chunkIndex", numberOrNull detail.chunkIndex),
    (lit "chunkCount", numberOrNull detail.chunkCount),
    (lit "safeErrorCode", stringOrNull detail.safeErrorCode),
    (lit "safeErrorMessage", stringOrNull detail.safeErrorMessage)]

/-- `jsonInput` of the details (line 90). -/
def jsonInput (details : StageDetails) : Json Int :=
  .object ([.UPLOADED, .SUMMARIZING, .EXTRACTING_INSIGHTS, .SYNCING_OUTPUTS, .INDEXING_BRAIN,
    .READY].map fun stage => (stage.name, .object (details stage).toMembers))

@[simp] theorem readString_stringOrNull (text : Option JsString) :
    readString (some (stringOrNull text)) = text := by
  cases text <;> rfl

@[simp] theorem readNumber_numberOrNull (value : Option Int) :
    readNumber (some (numberOrNull value)) = value := by
  cases value <;> rfl

@[simp] theorem readStatus_name (status : MeetingTranscriptProcessingStageStatus) :
    readStatus (some (.string status.name)) = status := by
  cases status <;> decide

@[simp] theorem readJobStatus_name (status : Option WorkflowJobStatus) :
    readJobStatus (some (stringOrNull (status.map jobStatusName))) = status := by
  cases status with
  | none => rfl
  | some status => cases status <;> decide

/-- A detail is read as it was written. -/
theorem ofMembers_toMembers (detail : StageDetail) : .ofMembers detail.toMembers = detail := by
  show StageDetail.mk (readStatus (some (.string detail.status.name)))
    (readString (some (stringOrNull detail.startedAt)))
    (readString (some (stringOrNull detail.completedAt)))
    (readString (some (stringOrNull detail.failedAt)))
    (readString (some (stringOrNull detail.skippedAt)))
    (readString (some (stringOrNull detail.updatedAt)))
    (readString (some (stringOrNull detail.workflowJobId)))
    (readString (some (stringOrNull detail.workflowJobType)))
    (readJobStatus (some (stringOrNull (detail.workflowJobStatus.map jobStatusName))))
    (readNumber (some (numberOrNull detail.attempts)))
    (readNumber (some (numberOrNull detail.chunkIndex)))
    (readNumber (some (numberOrNull detail.chunkCount)))
    (readString (some (stringOrNull detail.safeErrorCode)))
    (readString (some (stringOrNull detail.safeErrorMessage))) = detail
  simp

/-- The details are read as they were written. -/
@[simp] theorem normalize_jsonInput (details : StageDetails) :
    normalizeMeetingTranscriptStageStatuses (some (jsonInput details)) = details := by
  funext stage
  cases stage <;> exact ofMembers_toMembers _

/-! ## A call -/

/-- `MeetingTranscriptProcessingProgress`, the record of one meeting. -/
structure TranscriptProgress where
  currentStage : MeetingTranscriptProcessingStage
  stageStatuses : Json Int
  currentWorkflowJobId : Option JsString
  currentWorkflowJobType : Option JsString
  currentWorkflowJobStatus : Option WorkflowJobStatus
  attemptCount : Int
  safeErrorCode : Option JsString
  safeErrorMessage : Option JsString
  startedAt : Option TimeValue
  completedAt : Option TimeValue
  failedAt : Option TimeValue

/-- The parameters of a call. `error` is the `AppError` that a failed stage is reported with, if it
is one. -/
structure StageWrite where
  stage : MeetingTranscriptProcessingStage
  status : MeetingTranscriptProcessingStageStatus
  workflowJobId : Option JsString := none
  workflowJobType : Option JsString := none
  workflowJobStatus : Option WorkflowJobStatus := none
  attempts : Option Int := none
  chunkIndex : Option Int := none
  chunkCount : Option Int := none
  error : Option AppError := none
  now : TimeValue

/-- The details that a record holds. -/
def detailsOf (record : Option TranscriptProgress) : StageDetails :=
  normalizeMeetingTranscriptStageStatuses (record.map TranscriptProgress.stageStatuses)

namespace StageWrite

variable (write : StageWrite) (existing : Option TranscriptProgress)

/-- `safeErrorFromUnknown` (line 175), of a failed stage. -/
def safeError : Option JsString × Option JsString :=
  if write.status = .FAILED then
    match write.error with
    | some error => (some (lit error.code), some ((lit error.message).take 240))
    | none => (some (lit "WORKFLOW_JOB_FAILED"),
        some (lit "The background job failed. Retry it or review workflow logs."))
  else (none, none)

/-- The new detail of the stage (line 426). -/
def detail : StageDetail :=
  let current := detailsOf existing write.stage
  let nowIso := toISOString write.now
  { status := write.status
    startedAt := if write.status = .ACTIVE ∨ write.status = .COMPLETED ∨ write.status = .FAILED
      then current.startedAt.or (some nowIso) else current.startedAt
    completedAt := if write.status = .COMPLETED then some nowIso else current.completedAt
    failedAt := if write.status = .FAILED then some nowIso else current.failedAt
    skippedAt := if write.status = .SKIPPED then some nowIso else current.skippedAt
    updatedAt := some nowIso
    workflowJobId := write.workflowJobId.or current.workflowJobId
    workflowJobType := write.workflowJobType.or current.workflowJobType
    workflowJobStatus := write.workflowJobStatus.or current.workflowJobStatus
    attempts := write.attempts.or current.attempts
    chunkIndex := write.chunkIndex.or current.chunkIndex
    chunkCount := write.chunkCount.or current.chunkCount
    safeErrorCode := write.safeError.1
    safeErrorMessage := write.safeError.2 }

/-- `stageStatuses` with the new detail. -/
def stageStatuses : StageDetails :=
  Function.update (detailsOf existing) write.stage (write.detail existing)

/-- What `update` sets (line 447); its other values are those of the record that the call has read.
-/
def updateData : TranscriptProgress where
  currentStage := write.stage
  stageStatuses := jsonInput (write.stageStatuses existing)
  currentWorkflowJobId := write.workflowJobId.or (existing.bind (·.currentWorkflowJobId))
  currentWorkflowJobType := write.workflowJobType.or (existing.bind (·.currentWorkflowJobType))
  currentWorkflowJobStatus :=
    write.workflowJobStatus.or (existing.bind (·.currentWorkflowJobStatus))
  attemptCount := (write.attempts.or (existing.map (·.attemptCount))).getD 0
  safeErrorCode := write.safeError.1
  safeErrorMessage := write.safeError.2
  startedAt := (existing.bind (·.startedAt)).or (some write.now)
  completedAt := if write.stage = .READY ∧ write.status = .COMPLETED then some write.now
    else existing.bind (·.completedAt)
  failedAt := if write.status = .FAILED then some write.now else existing.bind (·.failedAt)

/-- What `create` sets (line 464). -/
def createData : TranscriptProgress where
  currentStage := write.stage
  stageStatuses := jsonInput (write.stageStatuses existing)
  currentWorkflowJobId := write.workflowJobId
  currentWorkflowJobType := write.workflowJobType
  currentWorkflowJobStatus := write.workflowJobStatus
  attemptCount := write.attempts.getD 0
  safeErrorCode := write.safeError.1
  safeErrorMessage := write.safeError.2
  startedAt := some write.now
  completedAt := if write.stage = .READY ∧ write.status = .COMPLETED then some write.now else none
  failedAt := if write.status = .FAILED then some write.now else none

/-- The `upsert` of a call that has read `existing` (line 461). -/
def upsert (stored : Option TranscriptProgress) : TranscriptProgress :=
  if stored.isSome then write.updateData existing else write.createData existing

/-- After the write, the details are those that the call has read, with its own. -/
@[simp] theorem detailsOf_upsert (stored : Option TranscriptProgress) :
    detailsOf (some (write.upsert existing stored)) = write.stageStatuses existing := by
  have hstatuses : (write.upsert existing stored).stageStatuses =
      jsonInput (write.stageStatuses existing) := by
    unfold upsert
    split <;> rfl
  rw [detailsOf, Option.map_some, hstatuses, normalize_jsonInput]

end StageWrite

/-- `markMeetingTranscriptProcessingReady` (line 507): two calls, each at its own time. -/
def markMeetingTranscriptProcessingReady (workflowJobId workflowJobType : Option JsString)
    (attempts : Option Int) (now now' : TimeValue) : List StageWrite :=
  [{ stage := .INDEXING_BRAIN, status := .COMPLETED, workflowJobId, workflowJobType,
      workflowJobStatus := some .COMPLETED, attempts, now },
    { stage := .READY, status := .COMPLETED, workflowJobId, workflowJobType,
      workflowJobStatus := some .COMPLETED, attempts, now := now' }]

/-! ## The workers -/

/-- A worker that has `call` to make, and then `rest`. Once it has read the record, `existing` is
what it has found. -/
structure TranscriptWorker where
  call : StageWrite
  rest : List StageWrite
  existing : Option (Option TranscriptProgress)

/-- A worker with these calls to make. -/
def TranscriptWorker.ofCalls : List StageWrite → Option TranscriptWorker
  | [] => none
  | call :: rest => some ⟨call, rest, none⟩

/-- The record, the workers by name, and for every stage the detail that the last call of the stage
has written. -/
structure TranscriptSystem where
  stored : Option TranscriptProgress
  workers : Nat → Option TranscriptWorker
  written : StageDetails

/-- A worker starts one of the two functions, makes one of the two statements of its call, or its
call throws before a statement. -/
inductive TranscriptAction where
  | mark (worker : Nat) (call : StageWrite)
  | ready (worker : Nat) (workflowJobId workflowJobType : Option JsString) (attempts : Option Int)
      (now now' : TimeValue)
  | findUnique (worker : Nat)
  | upsert (worker : Nat)
  | throw (worker : Nat)

namespace TranscriptSystem

/-- No worker is at work. -/
def start (stored : Option TranscriptProgress) : TranscriptSystem :=
  ⟨stored, fun _ => none, detailsOf stored⟩

variable (s : TranscriptSystem)

def setWorker (name : Nat) (worker : Option TranscriptWorker) : TranscriptSystem :=
  { s with workers := Function.update s.workers name worker }

/-- A worker that is not at work has calls to make. -/
def begin (name : Nat) (calls : List StageWrite) : TranscriptSystem :=
  match s.workers name with
  | none => s.setWorker name (TranscriptWorker.ofCalls calls)
  | some _ => s

def apply : TranscriptAction → TranscriptSystem
  | .mark name call => s.begin name [call]
  | .ready name workflowJobId workflowJobType attempts now now' =>
    s.begin name (markMeetingTranscriptProcessingReady workflowJobId workflowJobType attempts now
      now')
  | .findUnique name =>
    match s.workers name with
    | some ⟨call, rest, none⟩ => s.setWorker name (some ⟨call, rest, some s.stored⟩)
    | _ => s
  | .upsert name =>
    match s.workers name with
    | some ⟨call, rest, some existing⟩ =>
      { s.setWorker name (TranscriptWorker.ofCalls rest) with
        stored := some (call.upsert existing s.stored)
        written := Function.update s.written call.stage (call.detail existing) }
    | _ => s
  | .throw name =>
    match s.workers name with
    | some worker => s.setWorker name (TranscriptWorker.ofCalls worker.rest)
    | none => s

/-- Every stage has the detail that was written last. -/
def Kept : Prop := detailsOf s.stored = s.written

/-- A worker writes, and the detail of another stage is not as it has read it. -/
def Stale : TranscriptAction → Prop
  | .upsert name => ∃ call rest existing, s.workers name = some ⟨call, rest, some existing⟩ ∧
      ∃ stage, stage ≠ call.stage ∧ detailsOf existing stage ≠ detailsOf s.stored stage
  | _ => False

variable {s}

theorem kept_begin {name : Nat} {calls : List StageWrite} : (s.begin name calls).Kept ↔ s.Kept := by
  unfold begin
  split <;> rfl

/-- **One statement** keeps the details exactly if it is not a stale write. -/
theorem apply_kept_iff {action : TranscriptAction} (h : s.Kept) :
    (s.apply action).Kept ↔ ¬ s.Stale action := by
  cases action with
  | mark name call => exact iff_of_true (kept_begin.2 h) not_false
  | ready name workflowJobId workflowJobType attempts now now' =>
    exact iff_of_true (kept_begin.2 h) not_false
  | findUnique name =>
    refine iff_of_true ?_ not_false
    simp only [apply]
    split <;> exact h
  | throw name =>
    refine iff_of_true ?_ not_false
    simp only [apply]
    split <;> exact h
  | upsert name =>
    cases hworker : s.workers name with
    | none => simp [apply, Stale, hworker, h]
    | some worker =>
      obtain ⟨call, rest, existing⟩ := worker
      cases existing with
      | none => simp [apply, Stale, hworker, h]
      | some existing =>
        have hkept : detailsOf s.stored = s.written := h
        have hwrite : (s.apply (.upsert name)).Kept ↔
            ∀ stage, stage ≠ call.stage → detailsOf existing stage = detailsOf s.stored stage := by
          simp only [apply, hworker, Kept, StageWrite.detailsOf_upsert, StageWrite.stageStatuses,
            hkept, funext_iff, Function.update_apply]
          refine forall_congr' fun stage => ?_
          by_cases hstage : stage = call.stage
          · simp [hstage]
          · simp [hstage]
        have hstale : s.Stale (.upsert name) ↔ ∃ stage, stage ≠ call.stage ∧
            detailsOf existing stage ≠ detailsOf s.stored stage := by
          simp [Stale, hworker]
        rw [hwrite, hstale]
        simp

end TranscriptSystem

/-- A run of the workers of one meeting. -/
def runTranscript (stored : Option TranscriptProgress) (actions : List TranscriptAction) :
    TranscriptSystem := actions.foldl TranscriptSystem.apply (.start stored)

/-- **No progress is lost** as long as no call writes where another stage has changed since it read
the record, and in no other run. -/
theorem transcript_progress_iff (stored : Option TranscriptProgress)
    (actions : List TranscriptAction) :
    (∀ done, done <+: actions → (runTranscript stored done).Kept) ↔
      ∀ done action, done ++ [action] <+: actions → ¬ (runTranscript stored done).Stale action := by
  have hstart : (TranscriptSystem.start stored).Kept := rfl
  exact List.forall_prefix_foldl_iff hstart
    (fun s action h => TranscriptSystem.apply_kept_iff h) actions

/-- Two jobs of a meeting report their stages, and both read the record before either writes. -/
def insightsAndOutputs : List TranscriptAction :=
  [.mark 0 { stage := .EXTRACTING_INSIGHTS, status := .COMPLETED, now := epoch },
    .mark 1 { stage := .SYNCING_OUTPUTS, status := .ACTIVE, now := epoch },
    .findUnique 0, .findUnique 1, .upsert 0, .upsert 1]

theorem insightsAndOutputs_done (name : Nat) :
    (runTranscript none insightsAndOutputs).workers name = none := by
  by_cases hzero : name = 0
  · subst hzero
    rfl
  · by_cases hone : name = 1
    · subst hone
      rfl
    · simp [runTranscript, insightsAndOutputs, TranscriptSystem.apply, TranscriptSystem.begin,
        TranscriptSystem.start, TranscriptSystem.setWorker, TranscriptWorker.ofCalls, hzero, hone]

/-- The completed stage is pending again when both calls have finished. -/
theorem not_transcript_progress_kept : ¬ ∀ stored actions,
    (∀ name, (runTranscript stored actions).workers name = none) →
      (runTranscript stored actions).Kept := by
  intro h
  have hkept := congrFun (h none insightsAndOutputs insightsAndOutputs_done) .EXTRACTING_INSIGHTS
  have hstored : (detailsOf (runTranscript none insightsAndOutputs).stored
      .EXTRACTING_INSIGHTS).status = .PENDING := by decide +kernel
  have hwritten : ((runTranscript none insightsAndOutputs).written
      .EXTRACTING_INSIGHTS).status = .COMPLETED := by decide +kernel
  rw [hkept, hwritten] at hstored
  cases hstored

end Corgtex.Domain
