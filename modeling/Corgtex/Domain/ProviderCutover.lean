import Corgtex.Library.JsArray
import Corgtex.Library.JsDate
import Corgtex.Library.Json
import Corgtex.Library.JsNumber

/-!
# Assessments of a provider cutover

`provider-cutover.ts`: three assessments read the record of a cutover and list
what speaks against relying on the source's archive, deleting the source, or going back to it. None
of them reads a clock. A time in the record is refused while it is in the future, so what an
assessment accepts it accepts at every later time (`archiveBlockers_later`, `DeletionProven.later`,
`rollbackBlockers_later`).
-/

namespace Corgtex.Domain

open List hiding isEmpty_iff

open JsArray JsString

/-! ## Records -/

/-- A `Date`, which may be an invalid one. -/
inductive Stamp where
  | time (ms : Int)
  | invalid
deriving DecidableEq

/-- The time of a valid date (`isValidDate`, line 183). -/
def Stamp.time? : Stamp → Option Int
  | .time ms => some ms
  | .invalid => none

def validTime (date : Option Stamp) : Option Int := date.bind Stamp.time?

/-- `ALLOWED_PROVIDERS` (line 149). -/
inductive CutoverProvider where
  | RAILWAY | AZURE | SELF_HOSTED
deriving DecidableEq

/-- `ALLOWED_STATUSES` (line 150). -/
inductive CutoverStatus where
  | PLANNED | SHADOW | CUTOVER | OBSERVING | ARCHIVE_ONLY | DELETE_ELIGIBLE | DELETED | ROLLED_BACK
deriving DecidableEq

/-- The provider that a stored text names. -/
def cutoverProvider? (text : JsString) : Option CutoverProvider :=
  [(lit "RAILWAY", .RAILWAY), (lit "AZURE", .AZURE), (lit "SELF_HOSTED", .SELF_HOSTED)].lookup text

def CutoverStatus.name : CutoverStatus → JsString
  | .PLANNED => lit "PLANNED"
  | .SHADOW => lit "SHADOW"
  | .CUTOVER => lit "CUTOVER"
  | .OBSERVING => lit "OBSERVING"
  | .ARCHIVE_ONLY => lit "ARCHIVE_ONLY"
  | .DELETE_ELIGIBLE => lit "DELETE_ELIGIBLE"
  | .DELETED => lit "DELETED"
  | .ROLLED_BACK => lit "ROLLED_BACK"

def cutoverStatus? (text : JsString) : Option CutoverStatus :=
  [CutoverStatus.PLANNED, .SHADOW, .CUTOVER, .OBSERVING, .ARCHIVE_ONLY, .DELETE_ELIGIBLE, .DELETED,
    .ROLLED_BACK].find? fun status => status.name = text

@[simp] theorem cutoverStatus?_name (status : CutoverStatus) :
    cutoverStatus? status.name = some status := by
  cases status <;> decide

theorem cutoverStatus?_eq_some {text : JsString} {status : CutoverStatus} :
    cutoverStatus? text = some status ↔ text = status.name := by
  constructor
  · intro h
    have hname := find?_some h
    exact (of_decide_eq_true hname).symm
  · rintro rfl
    exact cutoverStatus?_name status

/-- `DeletionEligibilityRecord` (line 109), which has what the other assessments read too. -/
structure CutoverRecord where
  sourceDeploymentId : JsString
  destinationDeploymentId : Option JsString
  sourceProvider : JsString
  destinationProvider : JsString
  status : JsString
  sourceWriteStoppedAt : Option Stamp
  destinationWriteStartedAt : Option Stamp
  sourceDataFreshThroughAt : Option Stamp
  evidence : Option (List (JsString × Json ℚ))
  finalSnapshotAt : Option Stamp
  finalSnapshotChecksum : Option JsString
  archiveRestoreTestedAt : Option Stamp
  observationCompletedAt : Option Stamp
  archiveRetentionDeadline : Option Stamp
  retentionWaiverApprovedAt : Option Stamp
  retentionWaiverApprovedBy : Option JsString
  retentionWaiverReason : Option JsString
  sourceDeletedAt : Option Stamp

/-- The blocker codes of all assessments. -/
inductive CutoverBlockerCode where
  | INVALID_IDENTITY | INVALID_CONTEXT
  | SOURCE_WRITE_STOP_INVALID | SOURCE_WRITE_STOP_FUTURE
  | FINAL_SNAPSHOT_INVALID | FINAL_SNAPSHOT_FUTURE | FINAL_SNAPSHOT_BEFORE_WRITE_STOP
  | FINAL_SNAPSHOT_CHECKSUM_INVALID
  | ARCHIVE_RESTORE_TEST_INVALID | ARCHIVE_RESTORE_TEST_FUTURE
  | ARCHIVE_RESTORE_TEST_BEFORE_SNAPSHOT
  | STATUS_NOT_DELETE_ELIGIBLE
  | DESTINATION_WRITE_START_MISSING | DESTINATION_WRITE_START_INVALID
  | DESTINATION_WRITE_START_FUTURE
  | OBSERVATION_COMPLETION_INVALID | OBSERVATION_COMPLETION_FUTURE
  | OBSERVATION_BEFORE_SOURCE_WRITE_STOP | OBSERVATION_BEFORE_DESTINATION_WRITE_START
  | RUNTIME_ROLLBACK_CLAIM_MISSING | RUNTIME_ROLLBACK_CLAIM_INVALID | RUNTIME_ROLLBACK_CLAIMED
  | RETENTION_EVIDENCE_MISSING | RETENTION_DEADLINE_INVALID
  | RETENTION_DEADLINE_BEFORE_FINAL_SNAPSHOT | RETENTION_DEADLINE_NOT_REACHED
  | RETENTION_WAIVER_INCOMPLETE | RETENTION_WAIVER_APPROVAL_INVALID
  | RETENTION_WAIVER_APPROVAL_FUTURE | RETENTION_WAIVER_ACTOR_INVALID
  | RETENTION_WAIVER_REASON_INVALID
  | SOURCE_DELETION_STATUS_CONTRADICTION | SOURCE_DELETION_INVALID | SOURCE_DELETION_FUTURE
  | SOURCE_DELETION_BEFORE_OBSERVATION | SOURCE_DELETION_BEFORE_ARCHIVE_RESTORE
  | SOURCE_DELETION_BEFORE_RETENTION_SATISFIED
  | STATUS_NOT_ROLLBACK_ELIGIBLE | SOURCE_RUNTIME_UNHEALTHY | SOURCE_RUNTIME_OBSERVATION_INVALID
  | SOURCE_RUNTIME_OBSERVATION_STALE | SOURCE_RUNTIME_OBSERVATION_FUTURE
  | DESTINATION_WRITES_INCOMPATIBLE
  | SOURCE_FRESHNESS_MISSING | SOURCE_FRESHNESS_INVALID | SOURCE_FRESHNESS_STALE
  | SOURCE_FRESHNESS_FUTURE | HORIZON_BEFORE_DESTINATION_WRITES
  | UNKNOWN_TO_STATUS | SAME_STATE_TRANSITION | SOURCE_STATE_TERMINAL | TRANSITION_NOT_ALLOWED
  | DESTINATION_REQUIRED_FOR_TARGET
deriving DecidableEq

/-- The result of an assessment: whether it accepts, and its summary. -/
structure CutoverAssessment where
  accepted : Bool
  status : Option CutoverStatus
  sourceProvider : Option CutoverProvider
  destinationProvider : Option CutoverProvider
  blockerCodes : List CutoverBlockerCode

/-! ## Checks -/

/-- `if (condition) blockers.push(code)`. -/
def push (condition : Bool) (code : CutoverBlockerCode) : List CutoverBlockerCode :=
  if condition then [code] else []

@[simp] theorem push_eq_nil {condition : Bool} {code : CutoverBlockerCode} :
    push condition code = [] ↔ condition = false := by
  cases condition <;> simp [push]

variable {date : Option Int}

theorem isNone_eq_false : date.isNone = false ↔ ∃ ms, date = some ms := by
  cases date <;> simp

/-- A date that is there and later than the assessment. -/
def inFuture (date : Option Int) (assessedAt : Int) : Bool := date.any (assessedAt < ·)

/-- Two dates that are there, the first before the second. -/
def isBefore (a b : Option Int) : Bool := a.any fun a => b.any fun b => a < b

variable {t t' : Int}

theorem inFuture_later (ht : t ≤ t') (h : inFuture date t = false) : inFuture date t' = false := by
  cases date with
  | none => rfl
  | some ms =>
    simp only [inFuture, Option.any_some, decide_eq_false_iff_not, not_lt] at h ⊢
    exact h.trans ht

theorem isBefore_later (ht : t ≤ t') (h : isBefore (some t) date = false) :
    isBefore (some t') date = false := by
  cases date with
  | none => rfl
  | some ms =>
    simp only [isBefore, Option.any_some, decide_eq_false_iff_not, not_lt] at h ⊢
    exact h.trans ht

theorem inFuture_some {date : Int} : inFuture (some date) t = false ↔ date ≤ t := by
  simp [inFuture]

theorem isBefore_some {a b : Int} : isBefore (some a) (some b) = false ↔ b ≤ a := by
  simp [isBefore]

namespace CutoverRecord

variable (record : CutoverRecord)

/-- `ALLOWED_STATUSES.has(record.status) ? record.status : null`. -/
def knownStatus : Option CutoverStatus := cutoverStatus? record.status

/-- The two providers, where they are known and different. -/
def providers : Option (CutoverProvider × CutoverProvider) :=
  match cutoverProvider? record.sourceProvider, cutoverProvider? record.destinationProvider with
  | some source, some destination =>
    if source = destination then none else some (source, destination)
  | _, _ => none

/-- `!record.destinationDeploymentId`. -/
def lacksDestination : Bool := (record.destinationDeploymentId.bind orNull).isNone

/-- `DESTINATION_REQUIRED_STATUSES.has(status)` (line 187). -/
def destinationRequired (status : Option CutoverStatus) : Bool :=
  [some .CUTOVER, some .OBSERVING, some .ARCHIVE_ONLY, some .DELETE_ELIGIBLE,
    some .DELETED].contains status

/-- The identity checks that the archive, the deletion and the pair classification share (line 222).
-/
def invalidIdentity : Bool :=
  record.knownStatus.isNone || record.providers.isNone ||
    record.destinationDeploymentId = some record.sourceDeploymentId ||
    (destinationRequired record.knownStatus && record.lacksDestination)

/-! ## The archive -/

/-- `/^[0-9a-f]{64}$/`. -/
def isChecksum (text : JsString) : Bool :=
  text.length = 64 && text.all fun u => (0x30 ≤ u && u ≤ 0x39) || (0x61 ≤ u && u ≤ 0x66)

/-- What is pushed once identity and context are valid (line 233). -/
def archiveEvidenceBlockers (assessedAt : Int) : List CutoverBlockerCode :=
  let writeStop := validTime record.sourceWriteStoppedAt
  let snapshot := validTime record.finalSnapshotAt
  let restore := validTime record.archiveRestoreTestedAt
  push writeStop.isNone .SOURCE_WRITE_STOP_INVALID ++
    push (inFuture writeStop assessedAt) .SOURCE_WRITE_STOP_FUTURE ++
    push snapshot.isNone .FINAL_SNAPSHOT_INVALID ++
    push (inFuture snapshot assessedAt) .FINAL_SNAPSHOT_FUTURE ++
    push (isBefore snapshot writeStop) .FINAL_SNAPSHOT_BEFORE_WRITE_STOP ++
    push (!record.finalSnapshotChecksum.any isChecksum) .FINAL_SNAPSHOT_CHECKSUM_INVALID ++
    push restore.isNone .ARCHIVE_RESTORE_TEST_INVALID ++
    push (inFuture restore assessedAt) .ARCHIVE_RESTORE_TEST_FUTURE ++
    push (isBefore restore snapshot) .ARCHIVE_RESTORE_TEST_BEFORE_SNAPSHOT

/-- The `blockers` of `assessArchiveAvailability` (line 207). -/
def archiveBlockers (assessedAt : Stamp) : List CutoverBlockerCode :=
  let early := push record.invalidIdentity .INVALID_IDENTITY ++
    push assessedAt.time?.isNone .INVALID_CONTEXT
  match early, assessedAt.time? with
  | [], some ms => record.archiveEvidenceBlockers ms
  | _, _ => early

/-- `archiveResult` and its like: accepted without a blocker. -/
def assessment (accepted : Bool) (blockerCodes : List CutoverBlockerCode) : CutoverAssessment where
  accepted
  status := record.knownStatus
  sourceProvider := record.providers.map Prod.fst
  destinationProvider := record.providers.map Prod.snd
  blockerCodes

/-- `assessArchiveAvailability` (line 207). -/
def assessArchiveAvailability (assessedAt : Stamp) : CutoverAssessment :=
  let blockers := record.archiveBlockers assessedAt
  record.assessment blockers.isEmpty blockers

/-- The archive is proved at a time: its milestones are valid, in order and past. -/
structure ArchiveProven (assessedAt stop snapshot restore : Int) : Prop where
  writeStop : validTime record.sourceWriteStoppedAt = some stop
  finalSnapshot : validTime record.finalSnapshotAt = some snapshot
  restoreTest : validTime record.archiveRestoreTestedAt = some restore
  checksum : record.finalSnapshotChecksum.any isChecksum = true
  stop_le_snapshot : stop ≤ snapshot
  snapshot_le_restore : snapshot ≤ restore
  restore_le_assessed : restore ≤ assessedAt

variable {record}

theorem ArchiveProven.later {stop snapshot restore : Int} (ht : t ≤ t')
    (h : record.ArchiveProven t stop snapshot restore) :
    record.ArchiveProven t' stop snapshot restore :=
  { h with restore_le_assessed := h.restore_le_assessed.trans ht }

/-- Nothing is pushed about the archive exactly when it is proved. -/
theorem archiveEvidenceBlockers_eq_nil {t : Int} :
    record.archiveEvidenceBlockers t = [] ↔
      ∃ stop snapshot restore, record.ArchiveProven t stop snapshot restore := by
  constructor
  · intro h
    simp only [archiveEvidenceBlockers, append_eq_nil_iff, push_eq_nil] at h
    obtain ⟨⟨⟨⟨⟨⟨⟨⟨hstop, -⟩, hsnapshot⟩, -⟩, hss⟩, hsum⟩, hrestore⟩, hfuture⟩, hsr⟩ := h
    obtain ⟨stop, hstop⟩ := isNone_eq_false.1 hstop
    obtain ⟨snapshot, hsnapshot⟩ := isNone_eq_false.1 hsnapshot
    obtain ⟨restore, hrestore⟩ := isNone_eq_false.1 hrestore
    rw [hsnapshot, hstop, isBefore_some] at hss
    rw [hrestore, hsnapshot, isBefore_some] at hsr
    rw [hrestore, inFuture_some] at hfuture
    exact ⟨stop, snapshot, restore, hstop, hsnapshot, hrestore, by simpa using hsum, hss, hsr,
      hfuture⟩
  · rintro ⟨stop, snapshot, restore, h⟩
    have hsr := h.snapshot_le_restore.trans h.restore_le_assessed
    simp [archiveEvidenceBlockers, h.writeStop, h.finalSnapshot, h.restoreTest, h.checksum,
      inFuture_some, isBefore_some, h.stop_le_snapshot, h.snapshot_le_restore,
      h.restore_le_assessed, hsr, h.stop_le_snapshot.trans hsr]

variable {assessedAt : Stamp}

/-- **What the archive assessment accepts**: a valid identity, at a valid time, with a proved
archive. -/
theorem archiveBlockers_eq_nil :
    record.archiveBlockers assessedAt = [] ↔
      record.invalidIdentity = false ∧
        ∃ t, assessedAt.time? = some t ∧ record.archiveEvidenceBlockers t = [] := by
  cases hid : record.invalidIdentity <;> cases assessedAt <;>
    simp [archiveBlockers, hid, push, Stamp.time?]

theorem archiveBlockers_later (ht : t ≤ t') (h : record.archiveBlockers (.time t) = []) :
    record.archiveBlockers (.time t') = [] := by
  obtain ⟨hid, _, ht₀, h⟩ := archiveBlockers_eq_nil.1 h
  cases ht₀
  obtain ⟨stop, snapshot, restore, h⟩ := archiveEvidenceBlockers_eq_nil.1 h
  exact archiveBlockers_eq_nil.2
    ⟨hid, t', rfl, archiveEvidenceBlockers_eq_nil.2 ⟨stop, snapshot, restore, h.later ht⟩⟩

variable (record)

/-! ## Deletion -/

/-- The own property `runtimeRollbackClaimed` of the evidence (line 302). -/
def runtimeClaimBlockers : List CutoverBlockerCode :=
  match record.evidence.bind (·.lookup (lit "runtimeRollbackClaimed")) with
  | none => [.RUNTIME_ROLLBACK_CLAIM_MISSING]
  | some (.bool true) => [.RUNTIME_ROLLBACK_CLAIMED]
  | some (.bool false) => []
  | some _ => [.RUNTIME_ROLLBACK_CLAIM_INVALID]

/-- `waiverFields.some((value) => value != null)` (line 312). -/
def waiverSupplied : Bool :=
  record.retentionWaiverApprovedAt.isSome || record.retentionWaiverApprovedBy.isSome ||
    record.retentionWaiverReason.isSome

/-- The actor and the reason of a waiver (line 328). -/
def actorValid : Bool := record.retentionWaiverApprovedBy.any fun text => !text.trim.isEmpty

def reasonValid : Bool := record.retentionWaiverReason.any fun text => !text.trim.isEmpty

/-- The time from which a complete waiver holds (line 332). -/
def waiverMilestone (assessedAt : Int) : Option Int :=
  (validTime record.retentionWaiverApprovedAt).filter fun approval =>
    approval ≤ assessedAt && record.actorValid && record.reasonValid

/-- The deadline, where it is not before the snapshot. -/
def orderedDeadline : Option Int :=
  (validTime record.archiveRetentionDeadline).filter fun deadline =>
    (validTime record.finalSnapshotAt).any (· ≤ deadline)

section
variable (assessedAt : Int)

/-- The deadline, once it has been reached (line 343). -/
def deadlineMilestone : Option Int :=
  record.orderedDeadline.filter (· ≤ assessedAt)

/-- `retentionMilestones` (line 344). -/
def retentionMilestones : List Int :=
  (record.deadlineMilestone assessedAt).toList ++ (record.waiverMilestone assessedAt).toList

/-- The checks of the retention (line 309). -/
def retentionBlockers : List CutoverBlockerCode :=
  let deadlineSupplied := record.archiveRetentionDeadline.isSome
  let deadline := validTime record.archiveRetentionDeadline
  let approval := validTime record.retentionWaiverApprovedAt
  push (!deadlineSupplied && !record.waiverSupplied) .RETENTION_EVIDENCE_MISSING ++
    push (deadlineSupplied && deadline.isNone) .RETENTION_DEADLINE_INVALID ++
    push (isBefore deadline (validTime record.finalSnapshotAt))
      .RETENTION_DEADLINE_BEFORE_FINAL_SNAPSHOT ++
    push (inFuture deadline assessedAt &&
        !(record.orderedDeadline.isSome && (record.waiverMilestone assessedAt).isSome))
      .RETENTION_DEADLINE_NOT_REACHED ++
    if record.waiverSupplied then
      push (record.retentionWaiverApprovedAt.isNone || record.retentionWaiverApprovedBy.isNone ||
          record.retentionWaiverReason.isNone) .RETENTION_WAIVER_INCOMPLETE ++
        push (record.retentionWaiverApprovedAt.isSome && approval.isNone)
          .RETENTION_WAIVER_APPROVAL_INVALID ++
        push (inFuture approval assessedAt) .RETENTION_WAIVER_APPROVAL_FUTURE ++
        push (record.retentionWaiverApprovedBy.isSome && !record.actorValid)
          .RETENTION_WAIVER_ACTOR_INVALID ++
        push (record.retentionWaiverReason.isSome && !record.reasonValid)
          .RETENTION_WAIVER_REASON_INVALID
    else []

/-- The checks of the deletion time (line 346). -/
def sourceDeletionBlockers : List CutoverBlockerCode :=
  if record.knownStatus ≠ some .DELETED then
    push record.sourceDeletedAt.isSome .SOURCE_DELETION_STATUS_CONTRADICTION
  else
    match validTime record.sourceDeletedAt with
    | none => [.SOURCE_DELETION_INVALID]
    | some deletedAt =>
      push (assessedAt < deletedAt) .SOURCE_DELETION_FUTURE ++
        push (isBefore (some deletedAt) (validTime record.observationCompletedAt))
          .SOURCE_DELETION_BEFORE_OBSERVATION ++
        push (isBefore (some deletedAt) (validTime record.archiveRestoreTestedAt))
          .SOURCE_DELETION_BEFORE_ARCHIVE_RESTORE ++
        -- before the least of the milestones
        push ((record.retentionMilestones assessedAt).all (deletedAt < ·))
          .SOURCE_DELETION_BEFORE_RETENTION_SATISFIED

/-- The checks of the destination's first write (line 285). -/
def destinationStartBlockers : List CutoverBlockerCode :=
  let destinationStart := validTime record.destinationWriteStartedAt
  push record.destinationWriteStartedAt.isNone .DESTINATION_WRITE_START_MISSING ++
    push (record.destinationWriteStartedAt.isSome && destinationStart.isNone)
      .DESTINATION_WRITE_START_INVALID ++
    push (inFuture destinationStart assessedAt) .DESTINATION_WRITE_START_FUTURE

/-- The checks of the observation (line 291). -/
def observationBlockers : List CutoverBlockerCode :=
  let observation := validTime record.observationCompletedAt
  push observation.isNone .OBSERVATION_COMPLETION_INVALID ++
    push (inFuture observation assessedAt) .OBSERVATION_COMPLETION_FUTURE ++
    push (isBefore observation (validTime record.sourceWriteStoppedAt))
      .OBSERVATION_BEFORE_SOURCE_WRITE_STOP ++
    push (isBefore observation (validTime record.destinationWriteStartedAt))
      .OBSERVATION_BEFORE_DESTINATION_WRITE_START

/-- What is pushed after the status was checked. -/
def deletionEvidenceBlockers : List CutoverBlockerCode :=
  record.destinationStartBlockers assessedAt ++ record.observationBlockers assessedAt ++
    record.runtimeClaimBlockers ++ record.retentionBlockers assessedAt ++
    record.sourceDeletionBlockers assessedAt

end

/-- The `blockers` of `assessDeletionEligibility` (line 268). -/
def deletionBlockers (assessedAt : Stamp) : List CutoverBlockerCode :=
  let archive := record.archiveBlockers assessedAt
  match assessedAt.time? with
  | none => archive
  | some ms =>
    if archive.contains .INVALID_IDENTITY then archive
    else archive ++
      push (record.knownStatus ≠ some .DELETE_ELIGIBLE) .STATUS_NOT_DELETE_ELIGIBLE ++
      record.deletionEvidenceBlockers ms

/-- `assessDeletionEligibility` (line 268). -/
def assessDeletionEligibility (assessedAt : Stamp) : CutoverAssessment :=
  let blockers := distinct (record.deletionBlockers assessedAt)
  record.assessment (record.knownStatus = some .DELETE_ELIGIBLE &&
    (record.assessArchiveAvailability assessedAt).accepted && blockers.isEmpty) blockers

/-- The destination has written, and the observation ended after both writers had changed. -/
structure Observed (assessedAt start observation : Int) : Prop where
  destinationStart : validTime record.destinationWriteStartedAt = some start
  observationEnd : validTime record.observationCompletedAt = some observation
  stop_le_observation : ∀ stop ∈ validTime record.sourceWriteStoppedAt, stop ≤ observation
  start_le_observation : start ≤ observation
  observation_le_assessed : observation ≤ assessedAt

variable {record}

theorem Observed.later {start observation : Int} (ht : t ≤ t')
    (h : record.Observed t start observation) : record.Observed t' start observation :=
  { h with observation_le_assessed := h.observation_le_assessed.trans ht }

/-- The two groups of checks pass exactly on an observed cutover. -/
theorem observationBlockers_eq_nil :
    record.destinationStartBlockers t = [] ∧ record.observationBlockers t = [] ↔
      ∃ start observation, record.Observed t start observation := by
  simp only [destinationStartBlockers, observationBlockers, append_eq_nil_iff, push_eq_nil]
  constructor
  · rintro ⟨⟨⟨hmissing, hinvalid⟩, -⟩, ⟨⟨hobs, hfuture⟩, hstop⟩, hstart⟩
    have hsome : record.destinationWriteStartedAt.isSome = true := by
      rwa [← Option.isNone_eq_false_iff]
    rw [hsome, Bool.true_and] at hinvalid
    obtain ⟨start, hdest⟩ := isNone_eq_false.1 hinvalid
    obtain ⟨observation, hobs⟩ := isNone_eq_false.1 hobs
    rw [hobs, inFuture_some] at hfuture
    rw [hobs, hdest, isBefore_some] at hstart
    refine ⟨start, observation, hdest, hobs, ?_, hstart, hfuture⟩
    intro stop hmem
    rwa [hobs, Option.mem_def.1 hmem, isBefore_some] at hstop
  · rintro ⟨start, observation, h⟩
    have hsome : record.destinationWriteStartedAt.isSome = true := by
      cases hd : record.destinationWriteStartedAt with
      | none => simpa [validTime, hd] using h.destinationStart
      | some _ => rfl
    have hstop : isBefore (some observation) (validTime record.sourceWriteStoppedAt) = false := by
      cases hs : validTime record.sourceWriteStoppedAt with
      | none => rfl
      | some stop => exact isBefore_some.2 (h.stop_le_observation stop hs)
    have hend := h.observation_le_assessed
    simp [h.destinationStart, h.observationEnd, hsome, hstop, inFuture_some, isBefore_some,
      h.start_le_observation, hend, h.start_le_observation.trans hend]

variable {m : Int}

theorem waiverMilestone_later (ht : t ≤ t') (h : record.waiverMilestone t = some m) :
    record.waiverMilestone t' = some m := by
  simp only [waiverMilestone, Option.filter_eq_some_iff, Bool.and_eq_true, decide_eq_true_eq] at h ⊢
  exact ⟨h.1, ⟨h.2.1.1.trans ht, h.2.1.2⟩, h.2.2⟩

theorem deadlineMilestone_later (ht : t ≤ t') (h : record.deadlineMilestone t = some m) :
    record.deadlineMilestone t' = some m := by
  simp only [deadlineMilestone, Option.filter_eq_some_iff, decide_eq_true_eq] at h ⊢
  exact ⟨h.1, h.2.trans ht⟩

theorem mem_retentionMilestones :
    m ∈ record.retentionMilestones t ↔
      record.deadlineMilestone t = some m ∨ record.waiverMilestone t = some m := by
  simp [retentionMilestones, Option.mem_toList]

theorem retentionMilestones_later (ht : t ≤ t') (h : m ∈ record.retentionMilestones t) :
    m ∈ record.retentionMilestones t' :=
  mem_retentionMilestones.2 <| (mem_retentionMilestones.1 h).imp (deadlineMilestone_later ht)
    (waiverMilestone_later ht)

theorem retentionBlockers_later (ht : t ≤ t') (h : record.retentionBlockers t = []) :
    record.retentionBlockers t' = [] := by
  simp only [retentionBlockers, append_eq_nil_iff, push_eq_nil] at h ⊢
  obtain ⟨⟨⟨⟨hmissing, hdeadline⟩, hbefore⟩, hreached⟩, hwaiver⟩ := h
  refine ⟨⟨⟨⟨hmissing, hdeadline⟩, hbefore⟩, ?_⟩, ?_⟩
  · -- the deadline was past, or the waiver had been approved
    cases hfuture : inFuture (validTime record.archiveRetentionDeadline) t' with
    | false => rfl
    | true =>
      cases hfuture₀ : inFuture (validTime record.archiveRetentionDeadline) t with
      | false => simp [inFuture_later ht hfuture₀] at hfuture
      | true =>
        simp only [hfuture₀, Bool.true_and, Bool.not_eq_false', Bool.and_eq_true] at hreached ⊢
        obtain ⟨m, hm⟩ := Option.isSome_iff_exists.1 hreached.2
        exact ⟨hreached.1, by simp [waiverMilestone_later ht hm]⟩
  · by_cases hsupplied : record.waiverSupplied
    · simp only [hsupplied, if_true, append_eq_nil_iff, push_eq_nil] at hwaiver ⊢
      obtain ⟨⟨⟨hfields, hfuture⟩, hactor⟩, hreason⟩ := hwaiver
      exact ⟨⟨⟨hfields, inFuture_later ht hfuture⟩, hactor⟩, hreason⟩
    · exact if_neg hsupplied

/-- A deletion that the checks accept came after the observation, after the restore test, and
after the deadline had been reached or the waiver approved. -/
theorem sourceDeletionBlockers_eq_nil :
    record.sourceDeletionBlockers t = [] ↔
      (record.knownStatus ≠ some .DELETED ∧ record.sourceDeletedAt = none) ∨
      (record.knownStatus = some .DELETED ∧ ∃ deletedAt,
        validTime record.sourceDeletedAt = some deletedAt ∧ deletedAt ≤ t ∧
        (∀ observation ∈ validTime record.observationCompletedAt, observation ≤ deletedAt) ∧
        (∀ restore ∈ validTime record.archiveRestoreTestedAt, restore ≤ deletedAt) ∧
        ∃ m ∈ record.retentionMilestones t, m ≤ deletedAt) := by
  unfold sourceDeletionBlockers
  split
  · next hstatus => simp [hstatus, Option.isSome_eq_false_iff]
  · next hstatus =>
    rw [not_not] at hstatus
    cases hd : validTime record.sourceDeletedAt with
    | none => simp [hstatus]
    | some deletedAt =>
      have hbefore (date : Option Int) :
          isBefore (some deletedAt) date = false ↔ ∀ m ∈ date, m ≤ deletedAt := by
        cases date <;> simp [isBefore]
      simp [hstatus, hbefore, all_eq_false]

/-- What the checks of a deletion accept, they accept at every later time. -/
theorem sourceDeletionBlockers_later (ht : t ≤ t') (h : record.sourceDeletionBlockers t = []) :
    record.sourceDeletionBlockers t' = [] := by
  rw [sourceDeletionBlockers_eq_nil] at h ⊢
  rcases h with h | ⟨hstatus, deletedAt, hd, hpast, hobs, hrestore, m, hm, hle⟩
  · exact .inl h
  · exact .inr ⟨hstatus, deletedAt, hd, hpast.trans ht, hobs, hrestore, m,
      retentionMilestones_later ht hm, hle⟩

theorem deletionEvidenceBlockers_later (ht : t ≤ t') (h : record.deletionEvidenceBlockers t = []) :
    record.deletionEvidenceBlockers t' = [] := by
  simp only [deletionEvidenceBlockers, append_eq_nil_iff] at h ⊢
  obtain ⟨⟨⟨hobserved, hclaim⟩, hretention⟩, hdeletion⟩ := h
  obtain ⟨start, observation, hobserved⟩ := observationBlockers_eq_nil.1 hobserved
  exact ⟨⟨⟨observationBlockers_eq_nil.2 ⟨start, observation, hobserved.later ht⟩, hclaim⟩,
    retentionBlockers_later ht hretention⟩, sourceDeletionBlockers_later ht hdeletion⟩

/-- Identity and time are valid, and archive and deletion have their evidence: what the deletion
assessment asks beside the status. -/
def DeletionProven (record : CutoverRecord) (assessedAt : Stamp) : Prop :=
  record.invalidIdentity = false ∧ ∃ t, assessedAt.time? = some t ∧
    record.archiveEvidenceBlockers t = [] ∧ record.deletionEvidenceBlockers t = []

theorem DeletionProven.later (ht : t ≤ t') (h : record.DeletionProven (.time t)) :
    record.DeletionProven (.time t') := by
  obtain ⟨hid, _, ht₀, harchive, hdeletion⟩ := h
  cases ht₀
  obtain ⟨stop, snapshot, restore, harchive⟩ := archiveEvidenceBlockers_eq_nil.1 harchive
  exact ⟨hid, t', rfl, archiveEvidenceBlockers_eq_nil.2 ⟨stop, snapshot, restore,
    harchive.later ht⟩, deletionEvidenceBlockers_later ht hdeletion⟩

theorem filter_push {keep : CutoverBlockerCode → Bool} {condition : Bool}
    {code : CutoverBlockerCode} (h : keep code = true) :
    (push condition code).filter keep = push condition code := by
  cases condition <;> simp [push, h]

/-- `filter(c => c !== "STATUS_NOT_DELETE_ELIGIBLE")`. -/
def withoutStatus (blockers : List CutoverBlockerCode) : List CutoverBlockerCode :=
  blockers.filter (· ≠ .STATUS_NOT_DELETE_ELIGIBLE)

theorem withoutStatus_append (a b : List CutoverBlockerCode) :
    withoutStatus (a ++ b) = withoutStatus a ++ withoutStatus b :=
  filter_append _ _

variable {blockers : List CutoverBlockerCode}

theorem withoutStatus_distinct_eq_nil :
    withoutStatus (distinct blockers) = [] ↔ withoutStatus blockers = [] := by
  simp [withoutStatus, filter_eq_nil_iff]

theorem withoutStatus_archiveBlockers (assessedAt : Stamp) :
    withoutStatus (record.archiveBlockers assessedAt) = record.archiveBlockers assessedAt := by
  unfold archiveBlockers withoutStatus
  dsimp only
  split
  · simp only [archiveEvidenceBlockers, filter_append]
    simp only [ne_eq, decide_not, reduceCtorEq, decide_false, Bool.not_false, filter_push]
  · simp [filter_push]

theorem withoutStatus_deletionEvidenceBlockers (t : Int) :
    withoutStatus (record.deletionEvidenceBlockers t) = record.deletionEvidenceBlockers t := by
  have hclaim : withoutStatus record.runtimeClaimBlockers = record.runtimeClaimBlockers := by
    unfold runtimeClaimBlockers
    split <;> rfl
  have hwaiver : withoutStatus (record.retentionBlockers t) = record.retentionBlockers t := by
    unfold retentionBlockers
    cases record.waiverSupplied <;> simp [withoutStatus, filter_push]
  have hdeletion : withoutStatus (record.sourceDeletionBlockers t) =
      record.sourceDeletionBlockers t := by
    unfold sourceDeletionBlockers
    split
    · simp [withoutStatus, filter_push]
    · split
      · rfl
      · simp [withoutStatus, filter_push]
  unfold deletionEvidenceBlockers
  simp only [withoutStatus, filter_append] at hclaim hwaiver hdeletion ⊢
  rw [hclaim, hwaiver, hdeletion]
  simp [destinationStartBlockers, observationBlockers, filter_push]

theorem archiveBlockers_contains_identity (record : CutoverRecord) (assessedAt : Stamp) :
    (record.archiveBlockers assessedAt).contains .INVALID_IDENTITY = record.invalidIdentity := by
  cases hid : record.invalidIdentity <;> cases assessedAt <;>
    simp [archiveBlockers, archiveEvidenceBlockers, hid, push, Stamp.time?]

theorem deletionBlockers_time (hid : record.invalidIdentity = false) :
    record.deletionBlockers (.time t) = record.archiveBlockers (.time t) ++
      push (record.knownStatus ≠ some .DELETE_ELIGIBLE) .STATUS_NOT_DELETE_ELIGIBLE ++
      record.deletionEvidenceBlockers t := by
  have hcontains := record.archiveBlockers_contains_identity (.time t)
  rw [hid] at hcontains
  simp only [deletionBlockers, Stamp.time?, hcontains, Bool.false_eq_true, if_false]

/-- Where identity or time is not valid, the archive's blockers stand alone. -/
theorem deletionBlockers_early (h : record.invalidIdentity = true ∨ assessedAt = .invalid) :
    record.deletionBlockers assessedAt = record.archiveBlockers assessedAt ∧
      record.archiveBlockers assessedAt ≠ [] ∧ ¬record.DeletionProven assessedAt := by
  have hcontains := record.archiveBlockers_contains_identity assessedAt
  rcases h with hid | rfl
  · refine ⟨?_, ?_, ?_⟩
    · rw [hid] at hcontains
      unfold deletionBlockers
      dsimp only
      split
      · rfl
      · rw [if_pos hcontains]
    · intro hnil
      rw [hnil, hid] at hcontains
      cases hcontains
    · rintro ⟨hvalid, -⟩
      rw [hid] at hvalid
      cases hvalid
  · refine ⟨rfl, ?_, ?_⟩
    · intro hnil
      obtain ⟨-, t, ht, -⟩ := archiveBlockers_eq_nil.1 hnil
      cases ht
    · rintro ⟨-, t, ht, -⟩
      cases ht

theorem deletionProven_time (hid : record.invalidIdentity = false) :
    record.DeletionProven (.time t) ↔
      record.archiveBlockers (.time t) = [] ∧ record.deletionEvidenceBlockers t = [] := by
  simp [DeletionProven, archiveBlockers_eq_nil, hid, Stamp.time?]

/-- Beside the status, the deletion assessment asks for what `DeletionProven` says. -/
theorem withoutStatus_deletionBlockers_eq_nil :
    withoutStatus (record.deletionBlockers assessedAt) = [] ↔ record.DeletionProven assessedAt := by
  by_cases hearly : record.invalidIdentity = true ∨ assessedAt = .invalid
  · obtain ⟨heq, hne, hnot⟩ := deletionBlockers_early hearly
    rw [heq, withoutStatus_archiveBlockers]
    exact iff_of_false hne hnot
  · obtain ⟨hid, hvalid⟩ := not_or.1 hearly
    rw [Bool.not_eq_true] at hid
    cases assessedAt with
    | invalid => exact absurd rfl hvalid
    | time t =>
      have hstatus : withoutStatus (push (record.knownStatus ≠ some .DELETE_ELIGIBLE)
          .STATUS_NOT_DELETE_ELIGIBLE) = [] := by
        unfold push
        split <;> rfl
      have happend : withoutStatus (record.deletionBlockers (.time t)) =
          record.archiveBlockers (.time t) ++ record.deletionEvidenceBlockers t := by
        rw [deletionBlockers_time hid, withoutStatus_append, withoutStatus_append, hstatus,
          append_nil, withoutStatus_archiveBlockers, withoutStatus_deletionEvidenceBlockers]
      rw [happend, append_eq_nil_iff, deletionProven_time hid]

/-- **What the deletion assessment accepts.** -/
theorem deletionBlockers_eq_nil :
    record.deletionBlockers assessedAt = [] ↔
      record.knownStatus = some .DELETE_ELIGIBLE ∧ record.DeletionProven assessedAt := by
  by_cases hearly : record.invalidIdentity = true ∨ assessedAt = .invalid
  · obtain ⟨heq, hne, hnot⟩ := deletionBlockers_early hearly
    rw [heq]
    exact iff_of_false hne fun h => hnot h.2
  · obtain ⟨hid, hvalid⟩ := not_or.1 hearly
    rw [Bool.not_eq_true] at hid
    cases assessedAt with
    | invalid => exact absurd rfl hvalid
    | time t =>
      rw [deletionBlockers_time hid, deletionProven_time hid]
      simp only [append_eq_nil_iff, push_eq_nil, decide_eq_false_iff_not, not_not]
      tauto

theorem distinct_eq_nil : distinct blockers = [] ↔ blockers = [] := by
  simp [eq_nil_iff_forall_not_mem]

/-- The status and the archive's result are among the blockers. -/
theorem assessDeletionEligibility_accepted :
    (record.assessDeletionEligibility assessedAt).accepted = true ↔
      record.knownStatus = some .DELETE_ELIGIBLE ∧ record.DeletionProven assessedAt := by
  simp only [assessDeletionEligibility, assessArchiveAvailability, assessment, Bool.and_eq_true,
    decide_eq_true_eq, List.isEmpty_iff, distinct_eq_nil, deletionBlockers_eq_nil,
    archiveBlockers_eq_nil]
  constructor
  · exact fun h => h.2
  · rintro ⟨hstatus, hid, t, ht, harchive, hdeletion⟩
    exact ⟨⟨hstatus, hid, t, ht, harchive⟩, hstatus, hid, t, ht, harchive, hdeletion⟩

variable (record)

/-! ## Rollback -/

/-- The horizons of a rollback (line 21). -/
structure RollbackContext where
  assessedAt : Stamp
  requiredSourceFreshThroughAt : Stamp
  requiredSourceRuntimeObservedAt : Stamp

end CutoverRecord

/-! ### Times in the evidence -/

def isDigit (u : UInt16) : Bool := 0x30 ≤ u && u ≤ 0x39

/-- `(?:\.(\d+))?`: the digits of the fraction. -/
def readFraction : JsString → Option (JsString × JsString)
  | 0x2E :: rest =>
    let digits := rest.takeWhile isDigit
    if digits.isEmpty then none else some (digits, rest.drop digits.length)
  | rest => some ([], rest)

/-- `(?:Z|([+-]\d{2}):(\d{2}))$`, without regard to case: whether the offset is one that the source
refuses. -/
def readOffset : JsString → Option Bool
  | [u] => if u = 0x5A ∨ u = 0x7A then some false else none
  | sign :: rest => do
    let (hours, rest) ← JsDate.readField 2 0x3A rest
    let (minutes, rest) ← JsDate.readDigits 0 2 rest
    if rest ≠ [] then none
    else if sign = 0x2D then some ((hours = 0 && minutes = 0) || 23 < hours || 59 < minutes)
    else if sign = 0x2B then some (23 < hours || 59 < minutes)
    else none
  | [] => none

/-- `parseRFC3339` (line 157): the milliseconds, and whether there is a fraction of one. Of the
texts that match, `Date.parse` reads some by its own rules only: `dateParse`. -/
def parseRFC3339 (dateParse : JsString → Option Int) (text : JsString) : Option (Int × Bool) := do
  let (y, rest) ← JsDate.readField 4 0x2D text
  let (mo, rest) ← JsDate.readField 2 0x2D rest
  let (d, rest) ← (JsDate.readField 2 0x54 rest).or (JsDate.readField 2 0x74 rest)
  let (h, rest) ← JsDate.readField 2 0x3A rest
  let (min, rest) ← JsDate.readField 2 0x3A rest
  let (s, rest) ← JsDate.readDigits 0 2 rest
  let (fraction, rest) ← readFraction rest
  let refused ← readOffset rest
  let isLeap := (y % 4 = 0 && y % 100 ≠ 0) || y % 400 = 0
  let days := [0, 31, if isLeap then 29 else 28, 31, 30, 31, 30, 31, 31, 30, 31, 30, 31].getD mo 0
  if mo < 1 ∨ 12 < mo ∨ 23 < h ∨ 59 < min ∨ 59 < s ∨ d < 1 ∨ days < d ∨ refused then none
  else
    let time ← dateParse text
    some (time, 3 < fraction.length && 0 < JsNumber.ofDecimal (fraction.drop 3))

namespace CutoverRecord

variable (record : CutoverRecord) (dateParse : JsString → Option Int)

/-- A property of `record.evidence || {}`. -/
def evidenceProperty (key : String) : Option (Json ℚ) :=
  record.evidence.bind (·.lookup (lit key))

/-- The time that the evidence gives for the source's runtime. -/
def runtimeObservedAt : Option (Int × Bool) :=
  match record.evidenceProperty "sourceRuntimeObservedAt" with
  | some (.string text) => parseRFC3339 dateParse text
  | _ => none

/-- `value === true`. -/
def isTrue : Option (Json ℚ) → Bool
  | some (.bool true) => true
  | _ => false

/-- What is pushed first (line 373). -/
def rollbackEarlyBlockers (context : RollbackContext) : List CutoverBlockerCode :=
  let status := record.knownStatus
  let assessedAt := context.assessedAt.time?
  let fresh := context.requiredSourceFreshThroughAt.time?
  let observed := context.requiredSourceRuntimeObservedAt.time?
  push (record.providers.isNone || status.isNone ||
      record.destinationDeploymentId = some record.sourceDeploymentId ||
      (status = some .SHADOW && record.lacksDestination &&
        record.destinationWriteStartedAt.isSome) ||
      ((status = some .CUTOVER || status = some .OBSERVING) && record.lacksDestination))
    .INVALID_IDENTITY ++
    push (assessedAt.isNone || fresh.isNone || observed.isNone || isBefore assessedAt fresh ||
      isBefore assessedAt observed) .INVALID_CONTEXT ++
    push (status.any fun status =>
      status ≠ .SHADOW && status ≠ .CUTOVER && status ≠ .OBSERVING) .STATUS_NOT_ROLLBACK_ELIGIBLE

/-- The check of the observed runtime (line 419). -/
def runtimeObservationBlockers (assessedAt observed : Int) : List CutoverBlockerCode :=
  match record.runtimeObservedAt dateParse with
  | none => [.SOURCE_RUNTIME_OBSERVATION_INVALID]
  | some (time, subMs) =>
    if assessedAt < time ∨ (time = assessedAt ∧ subMs) then [.SOURCE_RUNTIME_OBSERVATION_FUTURE]
    else push (time < observed) .SOURCE_RUNTIME_OBSERVATION_STALE

/-- The check of the source's data (line 432). -/
def freshnessBlockers (assessedAt fresh : Int) : List CutoverBlockerCode :=
  match record.sourceDataFreshThroughAt with
  | none => [.SOURCE_FRESHNESS_MISSING]
  | some .invalid => [.SOURCE_FRESHNESS_INVALID]
  | some (.time ms) =>
    if assessedAt < ms then [.SOURCE_FRESHNESS_FUTURE]
    else push (ms < fresh) .SOURCE_FRESHNESS_STALE

/-- The check of the destination's first write (line 442). -/
def rollbackStartBlockers (assessedAt fresh : Int) : List CutoverBlockerCode :=
  let started := record.knownStatus = some .CUTOVER || record.knownStatus = some .OBSERVING
  match record.destinationWriteStartedAt with
  | none => push started .DESTINATION_WRITE_START_MISSING
  | some .invalid => [.DESTINATION_WRITE_START_INVALID]
  | some (.time ms) =>
    if assessedAt < ms then [.DESTINATION_WRITE_START_FUTURE]
    else push (started && fresh < ms) .HORIZON_BEFORE_DESTINATION_WRITES

/-- The `blockers` of `assessRuntimeRollback` (line 369). -/
def rollbackBlockers (context : RollbackContext) : List CutoverBlockerCode :=
  match record.rollbackEarlyBlockers context, context.assessedAt.time?,
    context.requiredSourceFreshThroughAt.time?, context.requiredSourceRuntimeObservedAt.time? with
  | [], some assessedAt, some fresh, some observed =>
    push (!isTrue (record.evidenceProperty "sourceRuntimeHealthy")) .SOURCE_RUNTIME_UNHEALTHY ++
      record.runtimeObservationBlockers dateParse assessedAt observed ++
      push (!isTrue (record.evidenceProperty "destinationWritesCompatible"))
        .DESTINATION_WRITES_INCOMPATIBLE ++
      record.freshnessBlockers assessedAt fresh ++ record.rollbackStartBlockers assessedAt fresh
  | early, _, _, _ => early

/-- `assessRuntimeRollback` (line 369). -/
def assessRuntimeRollback (context : RollbackContext) : CutoverAssessment :=
  let blockers := record.rollbackBlockers dateParse context
  record.assessment blockers.isEmpty blockers

variable {record dateParse} {context : RollbackContext}

/-- What is checked early is accepted exactly for three valid times in order, and a record that may
be rolled back. -/
theorem rollbackEarlyBlockers_later (ht : t ≤ t')
    (hcontext : context.assessedAt = .time t) (h : record.rollbackEarlyBlockers context = []) :
    record.rollbackEarlyBlockers { context with assessedAt := .time t' } = [] := by
  simp only [rollbackEarlyBlockers, hcontext, append_eq_nil_iff, push_eq_nil,
    Bool.or_eq_false_iff] at h ⊢
  obtain ⟨⟨hid, ⟨⟨⟨-, hfresh⟩, hobserved⟩, hbefore⟩, hbefore'⟩, hstatus⟩ := h
  exact ⟨⟨hid, ⟨⟨⟨rfl, hfresh⟩, hobserved⟩, isBefore_later ht hbefore⟩,
    isBefore_later ht hbefore'⟩, hstatus⟩

theorem runtimeObservationBlockers_later {observed : Int} (ht : t ≤ t')
    (h : record.runtimeObservationBlockers dateParse t observed = []) :
    record.runtimeObservationBlockers dateParse t' observed = [] := by
  unfold runtimeObservationBlockers at h ⊢
  cases hat : record.runtimeObservedAt dateParse with
  | none => simp [hat] at h
  | some observation =>
    obtain ⟨time, subMs⟩ := observation
    simp only [hat] at h ⊢
    split at h
    · cases h
    · next hpast =>
      have hpast' : ¬(t' < time ∨ (time = t' ∧ subMs = true)) := by
        rintro (hlt | ⟨rfl, hsub⟩)
        · exact hpast (.inl (ht.trans_lt hlt))
        · rcases ht.lt_or_eq with hlt | rfl
          · exact hpast (.inl hlt)
          · exact hpast (.inr ⟨rfl, hsub⟩)
      rwa [if_neg hpast']

theorem freshnessBlockers_later {fresh : Int} (ht : t ≤ t')
    (h : record.freshnessBlockers t fresh = []) : record.freshnessBlockers t' fresh = [] := by
  unfold freshnessBlockers at h ⊢
  cases hd : record.sourceDataFreshThroughAt with
  | none => simp [hd] at h
  | some date =>
    cases date with
    | invalid => simp [hd] at h
    | time ms =>
      simp only [hd] at h ⊢
      split at h
      · cases h
      · next hpast => rwa [if_neg fun hlt => hpast (ht.trans_lt hlt)]

theorem rollbackStartBlockers_later {fresh : Int} (ht : t ≤ t')
    (h : record.rollbackStartBlockers t fresh = []) :
    record.rollbackStartBlockers t' fresh = [] := by
  unfold rollbackStartBlockers at h ⊢
  cases hd : record.destinationWriteStartedAt with
  | none => simpa only [hd] using h
  | some date =>
    cases date with
    | invalid => simp [hd] at h
    | time ms =>
      simp only [hd] at h ⊢
      split at h
      · cases h
      · next hpast => rwa [if_neg fun hlt => hpast (ht.trans_lt hlt)]

/-- A rollback that is ready is ready at every later time, for the same horizons. -/
theorem rollbackBlockers_later (ht : t ≤ t')
    (hcontext : context.assessedAt = .time t) (h : record.rollbackBlockers dateParse context = []) :
    record.rollbackBlockers dateParse { context with assessedAt := .time t' } = [] := by
  cases hearly : record.rollbackEarlyBlockers context with
  | cons code early => simp [rollbackBlockers, hearly] at h
  | nil =>
    have hlater := rollbackEarlyBlockers_later ht hcontext hearly
    simp only [rollbackBlockers, hearly, hlater, hcontext, Stamp.time?] at h ⊢
    cases hfresh : context.requiredSourceFreshThroughAt with
    | invalid => rfl
    | time fresh =>
      cases hobserved : context.requiredSourceRuntimeObservedAt with
      | invalid => rfl
      | time observed =>
        simp only [hfresh, hobserved, append_eq_nil_iff] at h ⊢
        obtain ⟨⟨⟨⟨hhealthy, hruntime⟩, hcompatible⟩, hdata⟩, hstart⟩ := h
        exact ⟨⟨⟨⟨hhealthy, runtimeObservationBlockers_later ht hruntime⟩, hcompatible⟩,
          freshnessBlockers_later ht hdata⟩, rollbackStartBlockers_later ht hstart⟩

end CutoverRecord

end Corgtex.Domain
