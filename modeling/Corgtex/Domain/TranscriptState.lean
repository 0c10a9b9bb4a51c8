import Corgtex.Domain.TranscriptProgress

/-!
# The state of a transcript

`meeting-transcript-processing.ts`: what is shown of a transcript's processing
is derived from the stored record, from the jobs of the meeting, oldest first, and from the meeting.
A stage has the status of the last of its jobs (`status_foldl_apply`). Two types of jobs share the
stage `SYNCING_OUTPUTS`, so a job of one type takes the place of a failed one of the other, and a
meeting that is marked as processed completes two stages whatever their jobs are at.
`hidesNoFailure_iff` says exactly when nothing is hidden by this.
-/

namespace Corgtex.Domain

open JsString JsDate
open Corgtex.Workflows (WorkflowJobStatus)

/-! ## Inputs -/

/-- `Date | string`. -/
inductive DateValue where
  | date (value : TimeValue)
  | text (value : JsString)
deriving DecidableEq

/-- Whether the value passes `if (value)`. -/
def DateValue.truthy : Option DateValue → Bool
  | none => false
  | some (.date _) => true
  | some (.text value) => !value.isEmpty

/-- `dateIso` (line 106). -/
def dateIso : Option DateValue → Option JsString
  | none => none
  | some (.date value) => some (toISOString value)
  | some (.text value) => orNull value

/-- `MeetingTranscriptProcessingJobSnapshot` (line 72). -/
structure TranscriptJob where
  id : JsString
  type : JsString
  status : WorkflowJobStatus
  attempts : Int
  error : Option JsString := none
  createdAt : Option DateValue := none
  updatedAt : Option DateValue := none
  startedAt : Option DateValue := none
  completedAt : Option DateValue := none
deriving DecidableEq

/-- What is read of the meeting (line 260). -/
structure TranscribedMeeting where
  transcript : Option JsString
  summaryMd : Option JsString := none
  aiProcessedAt : Option DateValue := none
  insightCount : Option Int := none

/-- What is read of the stored record. -/
structure StoredProgress where
  currentStage : MeetingTranscriptProcessingStage
  stageStatuses : Json Int

/-- An entry of `diagnostics` (line 60). -/
structure JobDiagnostic where
  workflowJobId : JsString
  workflowJobType : JsString
  status : WorkflowJobStatus
  attempts : Int
  updatedAt : Option DateValue
  safeErrorCode : Option JsString
  safeErrorMessage : Option JsString
  retrySupported : Bool

/-- `MeetingTranscriptProcessingState` (line 54). -/
structure TranscriptState where
  currentStage : MeetingTranscriptProcessingStage
  stages : List (MeetingTranscriptProcessingStage × StageDetail)
  diagnostics : List JobDiagnostic

/-! ## Jobs -/

/-- `MEETING_TRANSCRIPT_PROCESSING_STAGES` (line 18). -/
def MEETING_TRANSCRIPT_PROCESSING_STAGES : List MeetingTranscriptProcessingStage :=
  [.UPLOADED, .SUMMARIZING, .EXTRACTING_INSIGHTS, .SYNCING_OUTPUTS, .INDEXING_BRAIN, .READY]

theorem mem_stages (stage : MeetingTranscriptProcessingStage) :
    stage ∈ MEETING_TRANSCRIPT_PROCESSING_STAGES := by
  cases stage <;> decide

/-- `safeErrorFromStoredMessage` (line 189). -/
def safeErrorFromStoredMessage (message : Option JsString) : Option JsString × Option JsString :=
  match message.bind orNull with
  | none => (none, none)
  | some _ => (some (lit "WORKFLOW_JOB_FAILED"),
      some (lit "The background job failed. Retry it or review workflow logs."))

/-- `meetingTranscriptProcessingStageForJobType` (line 203). -/
def meetingTranscriptProcessingStageForJobType (type : JsString) :
    Option MeetingTranscriptProcessingStage :=
  if type = lit "agent.meeting-summary" then some .SUMMARIZING
  else if type = lit "meeting.insights.extract" then some .EXTRACTING_INSIGHTS
  else if type = lit "agent.action-extraction" ∨ type = lit "meeting.summary.post" then
    some .SYNCING_OUTPUTS
  else if type = lit "knowledge.sync.meeting" then some .INDEXING_BRAIN
  else none

/-- `stageStatusForWorkflowJob` (line 217). -/
def stageStatusForWorkflowJob : WorkflowJobStatus → MeetingTranscriptProcessingStageStatus
  | .RUNNING => .ACTIVE
  | .COMPLETED => .COMPLETED
  | .FAILED => .FAILED
  | .CANCELLED => .SKIPPED
  | .PENDING => .PENDING

variable {type : JsString}

theorem stageForJobType_summarizing :
    meetingTranscriptProcessingStageForJobType type = some .SUMMARIZING ↔
      type = lit "agent.meeting-summary" := by
  grind [meetingTranscriptProcessingStageForJobType]

theorem stageForJobType_insights :
    meetingTranscriptProcessingStageForJobType type = some .EXTRACTING_INSIGHTS ↔
      type = lit "meeting.insights.extract" := by
  have hne : lit "meeting.insights.extract" ≠ lit "agent.meeting-summary" := by decide
  grind [meetingTranscriptProcessingStageForJobType]

theorem stageForJobType_outputs :
    meetingTranscriptProcessingStageForJobType type = some .SYNCING_OUTPUTS ↔
      type = lit "agent.action-extraction" ∨ type = lit "meeting.summary.post" := by
  have haction : meetingTranscriptProcessingStageForJobType (lit "agent.action-extraction") =
      some .SYNCING_OUTPUTS := by decide
  have hpost : meetingTranscriptProcessingStageForJobType (lit "meeting.summary.post") =
      some .SYNCING_OUTPUTS := by decide
  grind [meetingTranscriptProcessingStageForJobType]

theorem stageForJobType_indexing {type : JsString} :
    meetingTranscriptProcessingStageForJobType type = some .INDEXING_BRAIN ↔
      type = lit "knowledge.sync.meeting" := by
  have hsync : meetingTranscriptProcessingStageForJobType (lit "knowledge.sync.meeting") =
      some .INDEXING_BRAIN := by decide
  grind [meetingTranscriptProcessingStageForJobType]

variable {stage : MeetingTranscriptProcessingStage}

theorem stageForJobType_ne (h : stage = .UPLOADED ∨ stage = .READY) (type : JsString) :
    meetingTranscriptProcessingStageForJobType type ≠ some stage := by
  unfold meetingTranscriptProcessingStageForJobType
  rcases h with rfl | rfl
  · split_ifs <;> simp
  · split_ifs <;> simp

@[simp] theorem stageStatusForWorkflowJob_eq_completed {status : WorkflowJobStatus} :
    stageStatusForWorkflowJob status = .COMPLETED ↔ status = .COMPLETED := by
  cases status <;> decide

/-- `currentStageFromDetails` (line 225). -/
def currentStageFromDetails (details : StageDetails) : MeetingTranscriptProcessingStage :=
  let find (status : MeetingTranscriptProcessingStageStatus) :=
    MEETING_TRANSCRIPT_PROCESSING_STAGES.find? fun stage => (details stage).status = status
  (((find .FAILED).or (find .ACTIVE)).or (find .PENDING)).getD .READY

/-- `job.updatedAt ?? job.completedAt ?? job.startedAt ?? job.createdAt`. -/
def TranscriptJob.lastChange (job : TranscriptJob) : Option DateValue :=
  ((job.updatedAt.or job.completedAt).or job.startedAt).or job.createdAt

/-- The detail that a job makes of the one its stage has. -/
def TranscriptJob.detail (job : TranscriptJob) (current : StageDetail) : StageDetail :=
  let safeError :=
    safeErrorFromStoredMessage (if job.status = .FAILED then job.error else none)
  { current with
    status := stageStatusForWorkflowJob job.status
    startedAt := (dateIso job.startedAt).or current.startedAt
    completedAt := if job.status = .COMPLETED then dateIso (job.completedAt.or job.updatedAt)
      else current.completedAt
    failedAt := if job.status = .FAILED then dateIso job.updatedAt else current.failedAt
    skippedAt := if job.status = .CANCELLED then dateIso job.updatedAt else current.skippedAt
    updatedAt := (dateIso job.lastChange).or current.updatedAt
    workflowJobId := some job.id
    workflowJobType := some job.type
    workflowJobStatus := some job.status
    attempts := some job.attempts
    safeErrorCode := safeError.1
    safeErrorMessage := safeError.2 }

/-- `applyJobToStageDetails` (line 233). -/
def applyJobToStageDetails (details : StageDetails) (job : TranscriptJob) : StageDetails :=
  match meetingTranscriptProcessingStageForJobType job.type with
  | none => details
  | some stage => Function.update details stage (job.detail (details stage))

@[simp] theorem TranscriptJob.status_detail (job : TranscriptJob) (current : StageDetail) :
    (job.detail current).status = stageStatusForWorkflowJob job.status := rfl

theorem status_applyJob (details : StageDetails) (job : TranscriptJob)
    (stage : MeetingTranscriptProcessingStage) :
    (applyJobToStageDetails details job stage).status =
      if meetingTranscriptProcessingStageForJobType job.type = some stage
        then stageStatusForWorkflowJob job.status
      else (details stage).status := by
  unfold applyJobToStageDetails
  cases hstage : meetingTranscriptProcessingStageForJobType job.type with
  | none => simp
  | some own =>
    by_cases hown : stage = own
    · subst hown
      simp
    · simp [hown, Ne.symm hown]

section
variable (jobs : List TranscriptJob)

def jobsOfStage (stage : MeetingTranscriptProcessingStage) : List TranscriptJob :=
  jobs.filter fun job => meetingTranscriptProcessingStageForJobType job.type = some stage

theorem jobsOfStage_append (job : TranscriptJob)
    (stage : MeetingTranscriptProcessingStage) : jobsOfStage (jobs ++ [job]) stage =
      if meetingTranscriptProcessingStageForJobType job.type = some stage
        then jobsOfStage jobs stage ++ [job] else jobsOfStage jobs stage := by
  by_cases hstage : meetingTranscriptProcessingStageForJobType job.type = some stage
  · simp [jobsOfStage, hstage]
  · simp [jobsOfStage, hstage]

/-- **The last job of a stage decides its status.** -/
theorem status_foldl_apply (details : StageDetails) (stage : MeetingTranscriptProcessingStage) :
    (jobs.foldl applyJobToStageDetails details stage).status =
      ((jobsOfStage jobs stage).getLast?.map fun job =>
        stageStatusForWorkflowJob job.status).getD (details stage).status := by
  induction jobs using List.reverseRecOn with
  | nil => rfl
  | append_singleton jobs job ih =>
    rw [List.foldl_append, List.foldl_cons, List.foldl_nil, status_applyJob, ih, jobsOfStage_append]
    split
    · simp
    · rfl

end

/-- `details[stage].status = status`. -/
def StageDetails.setStatus (details : StageDetails) (stage : MeetingTranscriptProcessingStage)
    (status : MeetingTranscriptProcessingStageStatus) : StageDetails :=
  Function.update details stage { details stage with status }

@[simp] theorem StageDetails.status_setStatus (details : StageDetails)
    (stage other : MeetingTranscriptProcessingStage)
    (status : MeetingTranscriptProcessingStageStatus) :
    (details.setStatus stage status other).status =
      if other = stage then status else (details other).status := by
  unfold StageDetails.setStatus
  by_cases hother : other = stage
  · subst hother
    simp
  · simp [hother]

/-! ## Derivation -/

namespace TranscribedMeeting

variable (meeting : TranscribedMeeting)

/-- The details before the jobs (line 271). -/
def storedDetails (progress : Option StoredProgress) : StageDetails :=
  match progress with
  | some progress => normalizeMeetingTranscriptStageStatuses (some progress.stageStatuses)
  | none =>
    let insights : Bool := 0 < meeting.insightCount.getD 0
    let details := StageDetails.setStatus (fun _ => emptyStageDetail) .UPLOADED .COMPLETED
    if DateValue.truthy meeting.aiProcessedAt then
      ((((details.setStatus .SUMMARIZING .COMPLETED).setStatus .EXTRACTING_INSIGHTS
        .COMPLETED).setStatus .SYNCING_OUTPUTS .COMPLETED).setStatus .INDEXING_BRAIN
        .COMPLETED).setStatus .READY .COMPLETED
    else if (meeting.summaryMd.bind orNull).isSome ∨ insights then
      ((details.setStatus .SUMMARIZING .COMPLETED).setStatus .EXTRACTING_INSIGHTS
        (if insights then .COMPLETED else .ACTIVE)).setStatus .SYNCING_OUTPUTS
        (if insights then .ACTIVE else .PENDING)
    else details.setStatus .SUMMARIZING .ACTIVE

/-- The stage is completed unless it has failed (line 305). -/
def settleExtracted (details : StageDetails) (stage : MeetingTranscriptProcessingStage) :
    StageDetails :=
  details.setStatus stage (if (details stage).status = .FAILED then .FAILED else .COMPLETED)

section
variable (jobs : List TranscriptJob) (details : StageDetails)

/-- Without a job of their own the outputs are completed (line 307). -/
def settleOutputs : StageDetails :=
  let hasOutputSyncJob := jobs.any fun job =>
    job.type = lit "agent.action-extraction" ∨ job.type = lit "meeting.summary.post"
  if !hasOutputSyncJob ∧ (details .SYNCING_OUTPUTS).status ≠ .FAILED then
    details.setStatus .SYNCING_OUTPUTS .COMPLETED
  else details

/-- The meeting is ready once it is indexed (line 310). -/
def settleReady : StageDetails :=
  let hasBrainSyncJob := jobs.any fun job => job.type = lit "knowledge.sync.meeting"
  let indexing := (details .INDEXING_BRAIN).status
  if indexing = .FAILED then details.setStatus .READY .PENDING
  else if indexing = .ACTIVE ∨ (indexing = .PENDING ∧ hasBrainSyncJob) then
    details.setStatus .READY .PENDING
  else (details.setStatus .INDEXING_BRAIN .COMPLETED).setStatus .READY .COMPLETED

/-- What a processed meeting makes of the details (line 300). -/
def settle : StageDetails :=
  settleReady jobs (settleOutputs jobs
    (settleExtracted (settleExtracted details .SUMMARIZING) .EXTRACTING_INSIGHTS))

end

section
variable (progress : Option StoredProgress) (jobs : List TranscriptJob)

/-- The details that are shown. -/
def details : StageDetails :=
  let details := jobs.foldl applyJobToStageDetails (meeting.storedDetails progress)
  if DateValue.truthy meeting.aiProcessedAt then settle jobs details else details

/-- `deriveMeetingTranscriptProcessingState` (line 259). -/
def deriveMeetingTranscriptProcessingState : Option TranscriptState :=
  if (meeting.transcript.bind orNull).isNone then none
  else
    let details := meeting.details progress jobs
    let diagnostics := (jobs.filter fun job =>
        (meetingTranscriptProcessingStageForJobType job.type).isSome).map fun job =>
      let safeError := safeErrorFromStoredMessage job.error
      { workflowJobId := job.id
        workflowJobType := job.type
        status := job.status
        attempts := job.attempts
        updatedAt := job.lastChange
        safeErrorCode := safeError.1
        safeErrorMessage := safeError.2
        retrySupported := job.status = .FAILED : JobDiagnostic }
    some
      { currentStage := (progress.map StoredProgress.currentStage).getD
          (currentStageFromDetails details)
        stages := MEETING_TRANSCRIPT_PROCESSING_STAGES.map fun stage => (stage, details stage)
        diagnostics }

end

end TranscribedMeeting

/-! ## What is hidden -/

def latestOfType (jobs : List TranscriptJob) (type : JsString) : Option TranscriptJob :=
  (jobs.filter fun job => job.type = type).getLast?

/-- The latest job of each type of the stage, if there is one, is completed. -/
def StageDone (jobs : List TranscriptJob) (stage : MeetingTranscriptProcessingStage) : Prop :=
  ∀ type, meetingTranscriptProcessingStageForJobType type = some stage →
    ∀ job ∈ latestOfType jobs type, job.status = .COMPLETED

theorem jobsOfStage_eq
    (hstage : ∀ other, meetingTranscriptProcessingStageForJobType other = some stage ↔ other = type)
    (jobs : List TranscriptJob) :
    jobsOfStage jobs stage = jobs.filter fun job => job.type = type := by
  simp only [jobsOfStage, hstage]

section
variable {stage : MeetingTranscriptProcessingStage} {type : JsString} {jobs : List TranscriptJob}

theorem stageDone_iff
    (hstage : ∀ other, meetingTranscriptProcessingStageForJobType other = some stage ↔
      other = type) :
    StageDone jobs stage ↔ ∀ job ∈ latestOfType jobs type, job.status = .COMPLETED := by
  simp only [StageDone, hstage, forall_eq]

theorem jobsOfStage_ne_nil (hstage : meetingTranscriptProcessingStageForJobType type = some stage)
    {job : TranscriptJob} (hlatest : job ∈ latestOfType jobs type) :
    jobsOfStage jobs stage ≠ [] := by
  have hmem : job ∈ jobs.filter fun job => job.type = type := List.mem_of_getLast? hlatest
  obtain ⟨hjob, htype⟩ := List.mem_filter.1 hmem
  refine List.ne_nil_of_mem (a := job) (List.mem_filter.2 ⟨hjob, ?_⟩)
  rw [of_decide_eq_true htype]
  exact decide_eq_true hstage

end

namespace TranscribedMeeting

variable {jobs : List TranscriptJob} {details : StageDetails}

/-! ### A processed meeting -/

theorem status_settleExtracted (stage other : MeetingTranscriptProcessingStage) :
    (settleExtracted details stage other).status = .COMPLETED ↔
      if other = stage then (details stage).status ≠ .FAILED
      else (details other).status = .COMPLETED := by
  unfold settleExtracted
  rw [StageDetails.status_setStatus]
  by_cases hother : other = stage
  · by_cases hfailed : (details stage).status = .FAILED
    · simp [hother, hfailed]
    · simp [hother, hfailed]
  · simp [hother]

theorem any_output_iff :
    (jobs.any fun job => job.type = lit "agent.action-extraction" ∨
      job.type = lit "meeting.summary.post") = true ↔ jobsOfStage jobs .SYNCING_OUTPUTS ≠ [] := by
  simp [jobsOfStage, stageForJobType_outputs, List.any_eq_true, or_iff_not_imp_left]

theorem any_brainSync_iff :
    (jobs.any fun job => job.type = lit "knowledge.sync.meeting") = true ↔
      jobsOfStage jobs .INDEXING_BRAIN ≠ [] := by
  simp [jobsOfStage, stageForJobType_indexing, List.any_eq_true]

/-- Outputs that have a job are left as they are. -/
theorem status_settleOutputs
    (h : stage ≠ .SYNCING_OUTPUTS ∨ jobsOfStage jobs .SYNCING_OUTPUTS ≠ []) :
    (settleOutputs jobs details stage).status = (details stage).status := by
  unfold settleOutputs
  split
  next hnone =>
    rcases h with hstage | hjobs
    · simp [hstage]
    · rw [any_output_iff.2 hjobs] at hnone
      simp at hnone
  next => rfl

theorem status_settleReady (hindexing : stage ≠ .INDEXING_BRAIN) (hready : stage ≠ .READY) :
    (settleReady jobs details stage).status = (details stage).status := by
  unfold settleReady
  split_ifs <;> simp [hindexing, hready]

theorem status_settleReady_indexing (hjobs : jobsOfStage jobs .INDEXING_BRAIN ≠ []) :
    (settleReady jobs details .INDEXING_BRAIN).status = .COMPLETED ↔
      (details .INDEXING_BRAIN).status = .COMPLETED ∨
        (details .INDEXING_BRAIN).status = .SKIPPED := by
  unfold settleReady
  simp only [any_brainSync_iff.2 hjobs]
  cases hstatus : (details .INDEXING_BRAIN).status <;> simp [hstatus]

theorem status_settle_extracted (h : stage = .SUMMARIZING ∨ stage = .EXTRACTING_INSIGHTS) :
    (settle jobs details stage).status = .COMPLETED ↔ (details stage).status ≠ .FAILED := by
  unfold settle
  rcases h with rfl | rfl
  · rw [status_settleReady (by decide) (by decide), status_settleOutputs (.inl (by decide)),
      status_settleExtracted, if_neg (by decide), status_settleExtracted, if_pos rfl]
  · rw [status_settleReady (by decide) (by decide), status_settleOutputs (.inl (by decide)),
      status_settleExtracted, if_pos rfl, settleExtracted, StageDetails.status_setStatus,
      if_neg (by decide)]

/-- The other stages are not touched before their own step. -/
theorem status_settleExtracted_other (hsummarizing : stage ≠ .SUMMARIZING)
    (hinsights : stage ≠ .EXTRACTING_INSIGHTS) :
    (settleExtracted (settleExtracted details .SUMMARIZING) .EXTRACTING_INSIGHTS stage).status =
      (details stage).status := by
  simp [settleExtracted, hsummarizing, hinsights]

theorem status_settle_outputs (hjobs : jobsOfStage jobs .SYNCING_OUTPUTS ≠ []) :
    (settle jobs details .SYNCING_OUTPUTS).status = (details .SYNCING_OUTPUTS).status := by
  unfold settle
  rw [status_settleReady (by decide) (by decide), status_settleOutputs (.inr hjobs),
    status_settleExtracted_other (by decide) (by decide)]

theorem status_settle_indexing (hjobs : jobsOfStage jobs .INDEXING_BRAIN ≠ []) :
    (settle jobs details .INDEXING_BRAIN).status = .COMPLETED ↔
      (details .INDEXING_BRAIN).status = .COMPLETED ∨
        (details .INDEXING_BRAIN).status = .SKIPPED := by
  unfold settle
  rw [status_settleReady_indexing hjobs, status_settleOutputs (.inl (by decide)),
    status_settleExtracted_other (by decide) (by decide)]

/-! ### What is shown -/

variable (meeting : TranscribedMeeting) (progress : Option StoredProgress)

def applied (jobs : List TranscriptJob) : StageDetails :=
  jobs.foldl applyJobToStageDetails (meeting.storedDetails progress)

theorem details_of_not_processed (h : DateValue.truthy meeting.aiProcessedAt = false) :
    meeting.details progress jobs = meeting.applied progress jobs := by
  unfold details
  rw [h]
  rfl

theorem details_of_processed (h : DateValue.truthy meeting.aiProcessedAt = true) :
    meeting.details progress jobs = settle jobs (meeting.applied progress jobs) := by
  unfold details
  rw [h]
  rfl

theorem status_applied {job : TranscriptJob}
    (hlast : (jobsOfStage jobs stage).getLast? = some job) :
    (meeting.applied progress jobs stage).status = stageStatusForWorkflowJob job.status := by
  unfold applied
  rw [status_foldl_apply, hlast]
  rfl

/-- The stage is shown as completed only if its jobs are done. -/
def Honest (jobs : List TranscriptJob) (stage : MeetingTranscriptProcessingStage) : Prop :=
  (meeting.details progress jobs stage).status = .COMPLETED → StageDone jobs stage

variable {meeting progress}

/-- A stage without jobs hides none. -/
theorem honest_of_jobsOfStage_eq_nil (h : jobsOfStage jobs stage = []) :
    meeting.Honest progress jobs stage := by
  intro _ type hstage job hlatest
  exact absurd h (jobsOfStage_ne_nil hstage hlatest)

theorem honest_extracted_iff
    (hextracted : stage = .SUMMARIZING ∨ stage = .EXTRACTING_INSIGHTS)
    (hstage : ∀ other, meetingTranscriptProcessingStageForJobType other = some stage ↔
      other = type) :
    meeting.Honest progress jobs stage ↔ (DateValue.truthy meeting.aiProcessedAt = true →
      ∀ job ∈ latestOfType jobs type, job.status = .COMPLETED ∨ job.status = .FAILED) := by
  have hlatest : latestOfType jobs type = (jobsOfStage jobs stage).getLast? := by
    rw [jobsOfStage_eq hstage, latestOfType]
  unfold Honest
  rw [stageDone_iff hstage, hlatest]
  cases hlast : (jobsOfStage jobs stage).getLast? with
  | none => simp
  | some job =>
    have happlied := meeting.status_applied progress hlast
    cases hprocessed : DateValue.truthy meeting.aiProcessedAt with
    | false =>
      rw [details_of_not_processed meeting progress hprocessed, happlied]
      simp
    | true =>
      have hshown : (meeting.details progress jobs stage).status = .COMPLETED ↔
          job.status ≠ .FAILED := by
        rw [details_of_processed meeting progress hprocessed, status_settle_extracted hextracted,
          happlied]
        cases job.status <;> decide
      rw [hshown]
      cases hstatus : job.status <;> simp [hstatus]

/-- The stage of two types: its last job must not stand before an unfinished one of the other. -/
theorem honest_outputs_iff :
    meeting.Honest progress jobs .SYNCING_OUTPUTS ↔
      ∀ job, (jobsOfStage jobs .SYNCING_OUTPUTS).getLast? = some job →
        job.status = .COMPLETED → StageDone jobs .SYNCING_OUTPUTS := by
  cases hlast : (jobsOfStage jobs .SYNCING_OUTPUTS).getLast? with
  | none =>
    have hnil := List.getLast?_eq_none_iff.1 hlast
    exact iff_of_true (honest_of_jobsOfStage_eq_nil hnil) (fun _ h => by cases h)
  | some job =>
    have hjobs : jobsOfStage jobs .SYNCING_OUTPUTS ≠ [] := by
      intro hnil
      rw [hnil] at hlast
      cases hlast
    have hshown : (meeting.details progress jobs .SYNCING_OUTPUTS).status =
        stageStatusForWorkflowJob job.status := by
      rw [← meeting.status_applied progress hlast]
      cases hprocessed : DateValue.truthy meeting.aiProcessedAt with
      | false => rw [details_of_not_processed meeting progress hprocessed]
      | true =>
        rw [details_of_processed meeting progress hprocessed, status_settle_outputs hjobs]
    unfold Honest
    rw [hshown, stageStatusForWorkflowJob_eq_completed]
    simp

theorem honest_indexing_iff :
    meeting.Honest progress jobs .INDEXING_BRAIN ↔
      (DateValue.truthy meeting.aiProcessedAt = true →
        ∀ job ∈ latestOfType jobs (lit "knowledge.sync.meeting"), job.status ≠ .CANCELLED) := by
  have hstage := @stageForJobType_indexing
  have hlatest : latestOfType jobs (lit "knowledge.sync.meeting") =
      (jobsOfStage jobs .INDEXING_BRAIN).getLast? := by
    rw [jobsOfStage_eq (fun _ => hstage), latestOfType]
  unfold Honest
  rw [stageDone_iff (fun _ => hstage), hlatest]
  cases hlast : (jobsOfStage jobs .INDEXING_BRAIN).getLast? with
  | none => simp
  | some job =>
    have happlied := meeting.status_applied progress hlast
    have hjobs : jobsOfStage jobs .INDEXING_BRAIN ≠ [] := by
      intro hnil
      rw [hnil] at hlast
      cases hlast
    cases hprocessed : DateValue.truthy meeting.aiProcessedAt with
    | false =>
      rw [details_of_not_processed meeting progress hprocessed, happlied]
      simp
    | true =>
      have hshown : (meeting.details progress jobs .INDEXING_BRAIN).status = .COMPLETED ↔
          job.status = .COMPLETED ∨ job.status = .CANCELLED := by
        rw [details_of_processed meeting progress hprocessed, status_settle_indexing hjobs,
          happlied]
        cases job.status <;> decide
      rw [hshown]
      cases hstatus : job.status <;> simp [hstatus]

/-- Every completed stage of the derived state is one whose jobs are done. -/
def HidesNoFailure (meeting : TranscribedMeeting) (progress : Option StoredProgress)
    (jobs : List TranscriptJob) : Prop :=
  ∀ state, meeting.deriveMeetingTranscriptProcessingState progress jobs = some state →
    ∀ stage detail, (stage, detail) ∈ state.stages → detail.status = .COMPLETED →
      ∀ type, meetingTranscriptProcessingStageForJobType type = some stage →
        ∀ job ∈ latestOfType jobs type, job.status = .COMPLETED

/-- When nothing is hidden. A completed job that is the last one of the outputs must not stand
before another type's unfinished one, and what a processed meeting completes must not be at work. -/
structure NothingToHide (meeting : TranscribedMeeting) (jobs : List TranscriptJob) : Prop where
  outputs : ∀ job, (jobsOfStage jobs .SYNCING_OUTPUTS).getLast? = some job →
    job.status = .COMPLETED → ∀ type,
      meetingTranscriptProcessingStageForJobType type = some .SYNCING_OUTPUTS →
        ∀ latest ∈ latestOfType jobs type, latest.status = .COMPLETED
  summary : DateValue.truthy meeting.aiProcessedAt = true →
    ∀ job ∈ latestOfType jobs (lit "agent.meeting-summary"),
      job.status = .COMPLETED ∨ job.status = .FAILED
  insights : DateValue.truthy meeting.aiProcessedAt = true →
    ∀ job ∈ latestOfType jobs (lit "meeting.insights.extract"),
      job.status = .COMPLETED ∨ job.status = .FAILED
  indexing : DateValue.truthy meeting.aiProcessedAt = true →
    ∀ job ∈ latestOfType jobs (lit "knowledge.sync.meeting"), job.status ≠ .CANCELLED

/-- The stages of a derived state are those of the details. -/
theorem hidesNoFailure_iff_honest (htranscript : (meeting.transcript.bind orNull).isNone = false) :
    HidesNoFailure meeting progress jobs ↔ ∀ stage, meeting.Honest progress jobs stage := by
  unfold HidesNoFailure deriveMeetingTranscriptProcessingState
  rw [htranscript]
  simp [Honest, StageDone, mem_stages]

/-- **The derived progress hides no failure** exactly of a meeting without a transcript, or with
nothing to hide. -/
theorem hidesNoFailure_iff (meeting : TranscribedMeeting) (progress : Option StoredProgress)
    (jobs : List TranscriptJob) :
    HidesNoFailure meeting progress jobs ↔
      (meeting.transcript.bind orNull).isNone = true ∨ NothingToHide meeting jobs := by
  cases htranscript : (meeting.transcript.bind orNull).isNone with
  | true =>
    refine iff_of_true ?_ (.inl rfl)
    intro state hstate
    simp [deriveMeetingTranscriptProcessingState, htranscript] at hstate
  | false =>
    rw [hidesNoFailure_iff_honest htranscript]
    constructor
    · intro h
      refine .inr ⟨honest_outputs_iff.1 (h .SYNCING_OUTPUTS), ?_, ?_,
        honest_indexing_iff.1 (h .INDEXING_BRAIN)⟩
      · exact (honest_extracted_iff (.inl rfl) fun _ => stageForJobType_summarizing).1 (h _)
      · exact (honest_extracted_iff (.inr rfl) fun _ => stageForJobType_insights).1 (h _)
    · rintro (h | h) stage
      · cases h
      cases stage with
      | UPLOADED =>
        exact fun _ type hstage => absurd hstage (stageForJobType_ne (.inl rfl) type)
      | SUMMARIZING =>
        exact (honest_extracted_iff (.inl rfl) fun _ => stageForJobType_summarizing).2 h.summary
      | EXTRACTING_INSIGHTS =>
        exact (honest_extracted_iff (.inr rfl) fun _ => stageForJobType_insights).2 h.insights
      | SYNCING_OUTPUTS => exact honest_outputs_iff.2 h.outputs
      | INDEXING_BRAIN => exact honest_indexing_iff.2 h.indexing
      | READY =>
        exact fun _ type hstage => absurd hstage (stageForJobType_ne (.inr rfl) type)

end TranscribedMeeting

/-- The actions of a meeting could not be extracted, and its summary was posted a minute later. -/
def extractionFailed : List TranscriptJob :=
  [{ id := lit "1", type := lit "agent.action-extraction", status := .FAILED, attempts := 3,
      error := some (lit "timeout"), createdAt := some (.date epoch) },
    { id := lit "2", type := lit "meeting.summary.post", status := .COMPLETED, attempts := 1,
      createdAt := some (.date ⟨60000, by decide⟩) }]

/-- The outputs are shown as completed. -/
theorem not_hidesNoFailure :
    ¬ TranscribedMeeting.HidesNoFailure { transcript := some (lit "Hello.") } none
      extractionFailed := by
  intro h
  have houtputs := (TranscribedMeeting.hidesNoFailure_iff_honest (by decide)).1 h .SYNCING_OUTPUTS
  have hdone := houtputs (by decide) (lit "agent.action-extraction") (by decide)
  have hfailed := hdone (extractionFailed.head (by decide)) (by decide)
  revert hfailed
  decide

end Corgtex.Domain
