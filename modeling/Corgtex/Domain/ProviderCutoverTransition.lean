import Corgtex.Domain.ProviderCutover

/-!
# Transitions of a provider cutover

`provider-cutover.ts:603`: ten pairs of statuses are edges of the lifecycle, and a transition along
an edge is allowed when the evidence for its target is there. For the targets that concern the
source's data, the evidence is that of the archive and the deletion assessment, read off a copy of
the record whose status was overwritten (`childBlockers`). `transitionBlockers_eq_nil` says what an
allowed transition has, and `cutoverTransitions_agree` compares that with the deletion assessment.
-/

namespace Corgtex.Domain

open List hiding isEmpty_iff

open JsArray JsString

namespace CutoverRecord

/-! ## Pairs -/

/-- The edges of the lifecycle (line 533). -/
def edges : List (CutoverStatus × CutoverStatus) :=
  [(.PLANNED, .SHADOW), (.PLANNED, .ROLLED_BACK), (.SHADOW, .CUTOVER), (.SHADOW, .ROLLED_BACK),
    (.CUTOVER, .OBSERVING), (.CUTOVER, .ROLLED_BACK), (.OBSERVING, .ARCHIVE_ONLY),
    (.OBSERVING, .ROLLED_BACK), (.ARCHIVE_ONLY, .DELETE_ELIGIBLE), (.DELETE_ELIGIBLE, .DELETED)]

variable (record : CutoverRecord)

/-- The `blockers` of `classifyProviderCutoverPair` (line 495). -/
def pairBlockers (target : Option CutoverStatus) : List CutoverBlockerCode :=
  if record.invalidIdentity then [.INVALID_IDENTITY]
  else
    match record.knownStatus, target with
    | _, none => [.UNKNOWN_TO_STATUS]
    | none, some _ => [.TRANSITION_NOT_ALLOWED]
    | some status, some target =>
      if status = target then [.SAME_STATE_TRANSITION]
      else if status = .DELETED ∨ status = .ROLLED_BACK then [.SOURCE_STATE_TERMINAL]
      else push (!edges.contains (status, target)) .TRANSITION_NOT_ALLOWED

variable {target : Option CutoverStatus}

/-- No code stands for a pair exactly along an edge, on a record with a valid identity. -/
theorem pairBlockers_eq_nil {record : CutoverRecord} :
    record.pairBlockers target = [] ↔ record.invalidIdentity = false ∧
      ∃ source arrival, record.knownStatus = some source ∧ target = some arrival ∧
        (source, arrival) ∈ edges := by
  unfold pairBlockers
  cases hid : record.invalidIdentity with
  | true => simp
  | false =>
    cases target with
    | none => simp
    | some arrival =>
      cases hstatus : record.knownStatus with
      | none => simp
      | some source =>
        have hedge : ∀ source arrival, (source, arrival) ∈ edges →
            source ≠ arrival ∧ ¬(source = .DELETED ∨ source = .ROLLED_BACK) := by
          intro source arrival
          cases source <;> cases arrival <;> decide
        simp only [Bool.false_eq_true, if_false, true_and]
        constructor
        · intro h
          split at h
          · cases h
          · split at h
            · cases h
            · refine ⟨source, arrival, rfl, rfl, ?_⟩
              simpa using h
        · rintro ⟨_, _, hsource, harrival, hmem⟩
          cases hsource
          cases harrival
          obtain ⟨hne, hterminal⟩ := hedge _ _ hmem
          rw [if_neg hne, if_neg hterminal]
          simpa using hmem

/-! ## Transitions -/

/-- `hasInvalidIdentity` (line 613). -/
def hasInvalidIdentity (target : Option CutoverStatus) : Bool :=
  (record.pairBlockers target).contains .INVALID_IDENTITY ||
    (record.lacksDestination && record.destinationWriteStartedAt.isSome)

/-- `statusContradiction` (line 616). -/
def statusContradiction : Bool :=
  record.knownStatus.any (· ≠ .DELETED) && record.sourceDeletedAt.isSome

/-- What is pushed before the assessment's time is read (line 614). -/
def earlyBlockers (target : Option CutoverStatus) : List CutoverBlockerCode :=
  push (record.hasInvalidIdentity target) .INVALID_IDENTITY ++
    push record.statusContradiction .SOURCE_DELETION_STATUS_CONTRADICTION ++
    push (!record.statusContradiction && record.knownStatus = some .DELETED &&
      (validTime record.sourceDeletedAt).isNone) .SOURCE_DELETION_INVALID ++
    (record.pairBlockers target).filter (· ≠ .INVALID_IDENTITY)

/-- The record with its status overwritten. -/
def withStatus (status : CutoverStatus) : CutoverRecord := { record with status := status.name }

def asDeleted (observedSourceDeletedAt : Option Stamp) : CutoverRecord :=
  { record.withStatus .DELETED with sourceDeletedAt := observedSourceDeletedAt }

variable (dateParse : JsString → Option Int)

section
variable (observedSourceDeletedAt : Option Stamp) (context : RollbackContext)

/-- The assessments that a transition asks for (line 674). -/
def childBlockers : CutoverStatus × CutoverStatus → List CutoverBlockerCode
  | (.SHADOW, .CUTOVER) =>
    ((record.withStatus .CUTOVER).assessArchiveAvailability context.assessedAt).blockerCodes
  | (.OBSERVING, .ARCHIVE_ONLY) =>
    ((record.withStatus .ARCHIVE_ONLY).assessArchiveAvailability context.assessedAt).blockerCodes
  | (.ARCHIVE_ONLY, .DELETE_ELIGIBLE) =>
    let filtered := withoutStatus
      ((record.withStatus .ARCHIVE_ONLY).assessDeletionEligibility context.assessedAt).blockerCodes
    filtered ++ push (filtered.isEmpty && record.sourceDeletedAt.isSome)
      .SOURCE_DELETION_STATUS_CONTRADICTION
  | (.DELETE_ELIGIBLE, .DELETED) =>
    withoutStatus ((record.asDeleted observedSourceDeletedAt).assessDeletionEligibility
      context.assessedAt).blockerCodes
  | (.CUTOVER, .ROLLED_BACK) => (record.assessRuntimeRollback dateParse context).blockerCodes
  | (.OBSERVING, .ROLLED_BACK) => (record.assessRuntimeRollback dateParse context).blockerCodes
  | _ => []

/-- What is pushed for an edge at a valid time (line 645). -/
def edgeBlockers (edge : CutoverStatus × CutoverStatus) (assessedAt : Int) :
    List CutoverBlockerCode :=
  (if destinationRequired (some edge.2) then record.destinationStartBlockers assessedAt else []) ++
    (if edge = (.OBSERVING, .ARCHIVE_ONLY) then
      record.observationBlockers assessedAt ++ record.runtimeClaimBlockers else []) ++
    record.childBlockers dateParse observedSourceDeletedAt context edge

end

/-- The blockers with which `assessProviderCutoverTransition` finishes (line 603). -/
def transitionBlockers (target : Option CutoverStatus) (observedSourceDeletedAt : Option Stamp)
    (context : RollbackContext) : List CutoverBlockerCode :=
  let early := record.earlyBlockers target
  if record.pairBlockers target ≠ [] ∨ record.hasInvalidIdentity target then early
  else
    match context.assessedAt.time?, record.knownStatus, target with
    | none, _, _ => early ++ [.INVALID_CONTEXT]
    | some assessedAt, some source, some target =>
      if destinationRequired (some target) && record.lacksDestination then
        early ++ [.DESTINATION_REQUIRED_FOR_TARGET]
      else early ++ record.edgeBlockers dateParse observedSourceDeletedAt context (source, target)
        assessedAt
    | some _, _, _ => early

variable {record dateParse} {observedSourceDeletedAt : Option Stamp} {context : RollbackContext}

/-- What the transition asks of a record before it reads evidence. -/
structure Departs (record : CutoverRecord) (source arrival : CutoverStatus) : Prop where
  status : record.knownStatus = some source
  edge : (source, arrival) ∈ edges
  identity : record.invalidIdentity = false
  notStarted : (record.lacksDestination && record.destinationWriteStartedAt.isSome) = false
  notDeleted : record.sourceDeletedAt = none
  destination : (destinationRequired (some arrival) && record.lacksDestination) = false

/-- A record that departs has no deletion time, since no edge leaves `DELETED`. -/
theorem earlyBlockers_eq_nil {source arrival : CutoverStatus}
    (hstatus : record.knownStatus = some source) (hedge : (source, arrival) ∈ edges)
    (hpair : record.pairBlockers (some arrival) = []) :
    record.earlyBlockers (some arrival) = [] ↔
      (record.lacksDestination && record.destinationWriteStartedAt.isSome) = false ∧
        record.sourceDeletedAt = none := by
  have hsource : source ≠ .DELETED := by
    rintro rfl
    cases arrival <;> exact absurd hedge (by decide)
  simp [earlyBlockers, hasInvalidIdentity, statusContradiction, hpair, hstatus, hsource]

/-- A refused pair leaves a code, whichever it is. -/
theorem earlyBlockers_ne_nil
    (h : record.pairBlockers target ≠ [] ∨ record.hasInvalidIdentity target = true) :
    record.earlyBlockers target ≠ [] := by
  intro hnil
  simp only [earlyBlockers, append_eq_nil_iff, push_eq_nil] at hnil
  obtain ⟨⟨⟨hidentity, -⟩, -⟩, hrest⟩ := hnil
  rw [hidentity] at h
  obtain ⟨code, hmem⟩ := exists_mem_of_ne_nil _ (h.resolve_right (by simp))
  have hcode : code = .INVALID_IDENTITY := by
    simpa using filter_eq_nil_iff.1 hrest code hmem
  rw [hcode] at hmem
  simp [hasInvalidIdentity, hmem] at hidentity

/-- **What an allowed transition has**: an edge to leave by, a valid time, and the evidence that the
edge asks for. -/
theorem transitionBlockers_eq_nil :
    record.transitionBlockers dateParse target observedSourceDeletedAt context = [] ↔
      ∃ source arrival t, target = some arrival ∧ record.Departs source arrival ∧
        context.assessedAt.time? = some t ∧
        record.edgeBlockers dateParse observedSourceDeletedAt context (source, arrival) t = [] := by
  constructor
  · intro h
    unfold transitionBlockers at h
    dsimp only at h
    split at h
    · next hrefused => exact absurd h (earlyBlockers_ne_nil hrefused)
    · next hrefused =>
      obtain ⟨hpair, hidentity⟩ := not_or.1 hrefused
      rw [not_not] at hpair
      obtain ⟨hid, source, arrival, hstatus, rfl, hedge⟩ := pairBlockers_eq_nil.1 hpair
      rw [hstatus] at h
      cases ht : context.assessedAt.time? with
      | none => simp [ht] at h
      | some t =>
        simp only [ht] at h
        split at h
        · simp at h
        · next hdestination =>
          obtain ⟨hearly, hevidence⟩ := append_eq_nil_iff.1 h
          obtain ⟨hstarted, hdeleted⟩ := (earlyBlockers_eq_nil hstatus hedge hpair).1 hearly
          exact ⟨source, arrival, t, rfl,
            ⟨hstatus, hedge, hid, hstarted, hdeleted, by simpa using hdestination⟩, rfl, hevidence⟩
  · rintro ⟨source, arrival, t, rfl, hdeparts, ht, hedge⟩
    have hpair : record.pairBlockers (some arrival) = [] :=
      pairBlockers_eq_nil.2
        ⟨hdeparts.identity, source, arrival, hdeparts.status, rfl, hdeparts.edge⟩
    have hearly := (earlyBlockers_eq_nil hdeparts.status hdeparts.edge hpair).2
      ⟨hdeparts.notStarted, hdeparts.notDeleted⟩
    have hidentity : record.hasInvalidIdentity (some arrival) = false := by
      simp only [hasInvalidIdentity, hpair, hdeparts.notStarted, contains_nil, Bool.or_self]
    simp only [transitionBlockers, hpair, hidentity, hearly, ht, hdeparts.status,
      hdeparts.destination, hedge]
    rfl

/-! ## Later assessments -/

variable {t t' : Int}

theorem destinationStartBlockers_later (ht : t ≤ t')
    (h : record.destinationStartBlockers t = []) : record.destinationStartBlockers t' = [] := by
  simp only [destinationStartBlockers, append_eq_nil_iff, push_eq_nil] at h ⊢
  exact ⟨h.1, inFuture_later ht h.2⟩

theorem observationBlockers_later (ht : t ≤ t')
    (h : record.observationBlockers t = []) : record.observationBlockers t' = [] := by
  simp only [observationBlockers, append_eq_nil_iff, push_eq_nil] at h ⊢
  exact ⟨⟨⟨h.1.1.1, inFuture_later ht h.1.1.2⟩, h.1.2⟩, h.2⟩

/-- An assessment without the status check passes exactly on the proved deletion. -/
theorem withoutStatus_assessment_eq_nil {assessedAt : Stamp} :
    withoutStatus (record.assessDeletionEligibility assessedAt).blockerCodes = [] ↔
      record.DeletionProven assessedAt :=
  withoutStatus_distinct_eq_nil.trans withoutStatus_deletionBlockers_eq_nil

variable {edge : CutoverStatus × CutoverStatus}

section
variable (ht : t ≤ t') (hcontext : context.assessedAt = .time t)
include ht hcontext

/-- One case for each edge: the assessments that it asks for do not expire. -/
theorem childBlockers_later
    (h : record.childBlockers dateParse observedSourceDeletedAt context edge = []) :
    record.childBlockers dateParse observedSourceDeletedAt
      { context with assessedAt := .time t' } edge = [] := by
  unfold childBlockers at h ⊢
  split at h
  · rw [hcontext] at h
    exact archiveBlockers_later ht h
  · rw [hcontext] at h
    exact archiveBlockers_later ht h
  · rw [hcontext] at h
    dsimp only at h ⊢
    obtain ⟨hfiltered, hdeleted⟩ := append_eq_nil_iff.1 h
    have hlater := withoutStatus_assessment_eq_nil.2
      ((withoutStatus_assessment_eq_nil.1 hfiltered).later ht)
    rw [hfiltered] at hdeleted
    rw [hlater, hdeleted, append_nil]
  · rw [hcontext] at h
    exact withoutStatus_assessment_eq_nil.2 ((withoutStatus_assessment_eq_nil.1 h).later ht)
  · exact rollbackBlockers_later ht hcontext h
  · exact rollbackBlockers_later ht hcontext h
  · rfl

theorem edgeBlockers_later
    (h : record.edgeBlockers dateParse observedSourceDeletedAt context edge t = []) :
    record.edgeBlockers dateParse observedSourceDeletedAt
      { context with assessedAt := .time t' } edge t' = [] := by
  simp only [edgeBlockers, append_eq_nil_iff] at h ⊢
  obtain ⟨⟨hstart, hobserved⟩, hchild⟩ := h
  refine ⟨⟨?_, ?_⟩, childBlockers_later ht hcontext hchild⟩
  · by_cases hrequired : destinationRequired (some edge.2)
    · rw [if_pos hrequired] at hstart ⊢
      exact destinationStartBlockers_later ht hstart
    · exact if_neg hrequired
  · by_cases hedge : edge = (.OBSERVING, .ARCHIVE_ONLY)
    · rw [if_pos hedge, append_eq_nil_iff] at hobserved ⊢
      exact ⟨observationBlockers_later ht hobserved.1, hobserved.2⟩
    · exact if_neg hedge

/-- An allowed transition is allowed at every later time, for the same horizons. -/
theorem transitionBlockers_later
    (h : record.transitionBlockers dateParse target observedSourceDeletedAt context = []) :
    record.transitionBlockers dateParse target observedSourceDeletedAt
      { context with assessedAt := .time t' } = [] := by
  obtain ⟨source, arrival, t₀, htarget, hdeparts, ht₀, hedge⟩ := transitionBlockers_eq_nil.1 h
  rw [hcontext] at ht₀
  cases ht₀
  exact transitionBlockers_eq_nil.2
    ⟨source, arrival, t', htarget, hdeparts, rfl, edgeBlockers_later ht hcontext hedge⟩

end

/-! ## Overwritten statuses -/

theorem knownStatus_withStatus (status : CutoverStatus) :
    (record.withStatus status).knownStatus = some status :=
  cutoverStatus?_name status

theorem withStatus_self {status : CutoverStatus} (h : record.knownStatus = some status) :
    record.withStatus status = record := by
  rw [withStatus, ← cutoverStatus?_eq_some.1 h]

/-- Two statuses that both require a destination and are not `DELETED` are alike to what the
deletion assessment asks beside the status. -/
theorem deletionProven_withStatus {status status' : CutoverStatus} {assessedAt : Stamp}
    (hrequired : destinationRequired (some status) = destinationRequired (some status'))
    (hstatus : status ≠ .DELETED) (hstatus' : status' ≠ .DELETED) :
    (record.withStatus status).DeletionProven assessedAt ↔
      (record.withStatus status').DeletionProven assessedAt := by
  have hid : (record.withStatus status).invalidIdentity =
      (record.withStatus status').invalidIdentity := by
    simp only [invalidIdentity, knownStatus_withStatus, hrequired]
    rfl
  have hdeletion (t : Int) : (record.withStatus status).sourceDeletionBlockers t =
      (record.withStatus status').sourceDeletionBlockers t := by
    simp only [sourceDeletionBlockers, knownStatus_withStatus]
    rw [if_pos (by simpa using hstatus), if_pos (by simpa using hstatus')]
    rfl
  have hevidence (t : Int) : (record.withStatus status).deletionEvidenceBlockers t =
      (record.withStatus status').deletionEvidenceBlockers t := by
    rw [deletionEvidenceBlockers, hdeletion]
    rfl
  simp only [DeletionProven, hid, hevidence]
  exact Iff.rfl

/-- **The way to `DELETE_ELIGIBLE`** is the deletion assessment of the record at its target. -/
theorem transitionBlockers_deleteEligible :
    record.transitionBlockers dateParse (some .DELETE_ELIGIBLE) observedSourceDeletedAt context =
        [] ↔
      record.knownStatus = some .ARCHIVE_ONLY ∧
        (record.withStatus .DELETE_ELIGIBLE).DeletionProven context.assessedAt := by
  rw [transitionBlockers_eq_nil]
  constructor
  · rintro ⟨source, arrival, t, harrival, hdeparts, ht, hedge⟩
    cases harrival
    have hsource : source = .ARCHIVE_ONLY := by
      have hmem := hdeparts.edge
      cases source <;> first | rfl | exact absurd hmem (by decide)
    subst hsource
    simp only [edgeBlockers, childBlockers, append_eq_nil_iff] at hedge
    have hproven := withoutStatus_assessment_eq_nil.1 hedge.2.1
    exact ⟨hdeparts.status, (deletionProven_withStatus rfl (by decide) (by decide)).1 hproven⟩
  · rintro ⟨hstatus, hproven⟩
    have hid := hproven.1
    obtain ⟨t, ht, -, hevidence⟩ := hproven.2
    have harchive : (record.withStatus .ARCHIVE_ONLY).DeletionProven context.assessedAt :=
      (deletionProven_withStatus rfl (by decide) (by decide)).1 hproven
    have hself := harchive.1
    rw [withStatus_self hstatus] at hself
    have hdestination : record.lacksDestination = false := by
      simp only [invalidIdentity, knownStatus_withStatus, Bool.or_eq_false_iff] at hid
      exact hid.2
    simp only [deletionEvidenceBlockers, append_eq_nil_iff] at hevidence
    obtain ⟨⟨⟨⟨hstart, -⟩, -⟩, -⟩, hdeletion⟩ := hevidence
    have hdeleted : record.sourceDeletedAt = none := by
      rcases sourceDeletionBlockers_eq_nil.1 hdeletion with ⟨-, hnone⟩ | ⟨hstatus', -⟩
      · exact hnone
      · rw [knownStatus_withStatus] at hstatus'
        cases hstatus'
    refine ⟨.ARCHIVE_ONLY, .DELETE_ELIGIBLE, t, rfl, ?_, ht, ?_⟩
    · exact ⟨hstatus, by decide, hself, by rw [hdestination]; rfl, hdeleted, by
        rw [hdestination]; rfl⟩
    · simp only [edgeBlockers, childBlockers, append_eq_nil_iff]
      have hfiltered := withoutStatus_assessment_eq_nil.2 harchive
      refine ⟨⟨?_, rfl⟩, hfiltered, ?_⟩
      · exact hstart
      · simp [hdeleted]

/-- What a recorded deletion has: everything that proves the archive and the observation was past at
the deletion, and so was the retention's deadline or the approval of its waiver. -/
structure DeletedInOrder (record : CutoverRecord) (assessedAt deletedAt : Int) : Prop where
  archive : ∃ stop snapshot restore, record.ArchiveProven deletedAt stop snapshot restore
  observed : ∃ start observation, record.Observed deletedAt start observation
  retention :
    (∃ snapshot deadline, validTime record.finalSnapshotAt = some snapshot ∧
      validTime record.archiveRetentionDeadline = some deadline ∧ snapshot ≤ deadline ∧
      deadline ≤ deletedAt) ∨
    (∃ approval, validTime record.retentionWaiverApprovedAt = some approval ∧
      record.actorValid = true ∧ record.reasonValid = true ∧ approval ≤ deletedAt)
  deleted_le_assessed : deletedAt ≤ assessedAt

theorem retention_of_milestone {t m deletedAt : Int} (h : m ∈ record.retentionMilestones t)
    (hle : m ≤ deletedAt) :
    (∃ snapshot deadline, validTime record.finalSnapshotAt = some snapshot ∧
      validTime record.archiveRetentionDeadline = some deadline ∧ snapshot ≤ deadline ∧
      deadline ≤ deletedAt) ∨
    (∃ approval, validTime record.retentionWaiverApprovedAt = some approval ∧
      record.actorValid = true ∧ record.reasonValid = true ∧ approval ≤ deletedAt) := by
  rcases mem_retentionMilestones.1 h with hdeadline | hwaiver
  · simp only [deadlineMilestone, orderedDeadline, Option.filter_eq_some_iff, Option.any_eq_true,
      decide_eq_true_eq] at hdeadline
    obtain ⟨⟨hdeadline, snapshot, hsnapshot, hordered⟩, -⟩ := hdeadline
    exact .inl ⟨snapshot, m, hsnapshot, hdeadline, hordered, hle⟩
  · simp only [waiverMilestone, Option.filter_eq_some_iff, Bool.and_eq_true] at hwaiver
    obtain ⟨happroval, ⟨-, hactor⟩, hreason⟩ := hwaiver
    exact .inr ⟨m, happroval, hactor, hreason, hle⟩

/-- **The way to `DELETED`** takes a deletion in order. -/
theorem transitionBlockers_deleted
    (h : record.transitionBlockers dateParse (some .DELETED) observedSourceDeletedAt context = []) :
    ∃ deletedAt t, observedSourceDeletedAt = some (.time deletedAt) ∧
      context.assessedAt = .time t ∧ record.DeletedInOrder t deletedAt := by
  obtain ⟨source, arrival, t, harrival, hdeparts, ht, hedge⟩ := transitionBlockers_eq_nil.1 h
  cases harrival
  have hsource : source = .DELETE_ELIGIBLE := by
    have hmem := hdeparts.edge
    cases source <;> first | rfl | exact absurd hmem (by decide)
  subst hsource
  simp only [edgeBlockers, childBlockers, append_eq_nil_iff] at hedge
  obtain ⟨-, t₀, ht₀, harchive, hevidence⟩ := withoutStatus_assessment_eq_nil.1 hedge.2
  cases ht.symm.trans ht₀
  have hassessed : context.assessedAt = .time t := by
    cases hstamp : context.assessedAt with
    | time ms => rw [hstamp] at ht; cases ht; rfl
    | invalid => rw [hstamp] at ht; cases ht
  simp only [deletionEvidenceBlockers, append_eq_nil_iff] at hevidence
  obtain ⟨⟨⟨hobserved, -⟩, -⟩, hdeletion⟩ := hevidence
  obtain ⟨stop, snapshot, restore, harchive⟩ := archiveEvidenceBlockers_eq_nil.1 harchive
  obtain ⟨start, observation, hobserved⟩ := observationBlockers_eq_nil.1 hobserved
  have hstatus : (record.asDeleted observedSourceDeletedAt).knownStatus = some .DELETED :=
    cutoverStatus?_name .DELETED
  rcases sourceDeletionBlockers_eq_nil.1 hdeletion with
    ⟨hother, -⟩ | ⟨-, deletedAt, hd, hpast, hobs, hrestore, m, hm, hle⟩
  · exact absurd hstatus hother
  have hobservedAt : observedSourceDeletedAt = some (.time deletedAt) := by
    rcases observedSourceDeletedAt with _ | ms | _
    · cases hd
    · cases hd
      rfl
    · cases hd
  exact ⟨deletedAt, t, hobservedAt, hassessed,
    { archive := ⟨stop, snapshot, restore,
        ⟨harchive.writeStop, harchive.finalSnapshot, harchive.restoreTest, harchive.checksum,
          harchive.stop_le_snapshot, harchive.snapshot_le_restore,
          hrestore restore harchive.restoreTest⟩⟩
      observed := ⟨start, observation,
        ⟨hobserved.destinationStart, hobserved.observationEnd, hobserved.stop_le_observation,
          hobserved.start_le_observation, hobs observation hobserved.observationEnd⟩⟩
      retention := @retention_of_milestone record _ _ _ hm hle
      deleted_le_assessed := hpast }⟩

end CutoverRecord

/-- `ProviderCutoverTransitionAssessment` (line 593). -/
structure TransitionAssessment where
  transitionAllowed : Bool
  fromStatus : Option CutoverStatus
  toStatus : Option CutoverStatus
  sourceProvider : Option CutoverProvider
  destinationProvider : Option CutoverProvider
  blockerCodes : List CutoverBlockerCode

/-- `assessProviderCutoverTransition` (line 603). -/
def CutoverRecord.assessProviderCutoverTransition (record : CutoverRecord)
    (dateParse : JsString → Option Int) (toStatus : JsString)
    (observedSourceDeletedAt : Option Stamp) (context : CutoverRecord.RollbackContext) :
    TransitionAssessment :=
  let deduped := distinct
    (record.transitionBlockers dateParse (cutoverStatus? toStatus) observedSourceDeletedAt context)
  { transitionAllowed := deduped.isEmpty
    fromStatus := record.knownStatus
    toStatus := cutoverStatus? toStatus
    sourceProvider := record.providers.map Prod.fst
    destinationProvider := record.providers.map Prod.snd
    blockerCodes := deduped }

theorem CutoverRecord.transitionAllowed_iff {record : CutoverRecord}
    {dateParse : JsString → Option Int} {toStatus : JsString}
    {observedSourceDeletedAt : Option Stamp} {context : CutoverRecord.RollbackContext} :
    (record.assessProviderCutoverTransition dateParse toStatus observedSourceDeletedAt
        context).transitionAllowed = true ↔
      record.transitionBlockers dateParse (cutoverStatus? toStatus) observedSourceDeletedAt
        context = [] := by
  simp only [assessProviderCutoverTransition, List.isEmpty_iff, distinct_eq_nil]

open CutoverRecord in
/-- **Transitions agree with the deletion assessment.** A transition to `DELETE_ELIGIBLE` is allowed
exactly for a record with the status `ARCHIVE_ONLY` that is eligible for deletion once it has the
status `DELETE_ELIGIBLE`; a transition to `DELETED` is allowed only for a deletion in order; and
what an assessment accepts at a time, it accepts at every later one. -/
theorem cutoverTransitions_agree (record : CutoverRecord) (dateParse : JsString → Option Int)
    (observedSourceDeletedAt : Option Stamp) (context : RollbackContext) :
    ((record.assessProviderCutoverTransition dateParse CutoverStatus.DELETE_ELIGIBLE.name
        observedSourceDeletedAt context).transitionAllowed = true ↔
      record.status = CutoverStatus.ARCHIVE_ONLY.name ∧
        ((record.withStatus .DELETE_ELIGIBLE).assessDeletionEligibility
          context.assessedAt).accepted = true) ∧
    ((record.assessProviderCutoverTransition dateParse CutoverStatus.DELETED.name
        observedSourceDeletedAt context).transitionAllowed = true →
      ∃ deletedAt t, observedSourceDeletedAt = some (.time deletedAt) ∧
        context.assessedAt = .time t ∧ record.DeletedInOrder t deletedAt) ∧
    ∀ t t', context.assessedAt = .time t → t ≤ t' →
      ((record.assessArchiveAvailability (.time t)).accepted = true →
        (record.assessArchiveAvailability (.time t')).accepted = true) ∧
      ((record.assessDeletionEligibility (.time t)).accepted = true →
        (record.assessDeletionEligibility (.time t')).accepted = true) ∧
      ((record.assessRuntimeRollback dateParse context).accepted = true →
        (record.assessRuntimeRollback dateParse
          { context with assessedAt := .time t' }).accepted = true) ∧
      ∀ toStatus,
        (record.assessProviderCutoverTransition dateParse toStatus observedSourceDeletedAt
          context).transitionAllowed = true →
        (record.assessProviderCutoverTransition dateParse toStatus observedSourceDeletedAt
          { context with assessedAt := .time t' }).transitionAllowed = true := by
  refine ⟨?_, ?_, ?_⟩
  · rw [transitionAllowed_iff, cutoverStatus?_name, transitionBlockers_deleteEligible,
      assessDeletionEligibility_accepted, knownStatus_withStatus]
    simp only [knownStatus, cutoverStatus?_eq_some, true_and]
  · intro h
    rw [transitionAllowed_iff, cutoverStatus?_name] at h
    exact transitionBlockers_deleted h
  · intro t t' hcontext ht
    refine ⟨?_, ?_, ?_, ?_⟩
    · intro h
      exact List.isEmpty_iff.2 (archiveBlockers_later ht (List.isEmpty_iff.1 h))
    · intro h
      obtain ⟨hstatus, hproven⟩ := assessDeletionEligibility_accepted.1 h
      exact assessDeletionEligibility_accepted.2 ⟨hstatus, hproven.later ht⟩
    · intro h
      exact List.isEmpty_iff.2 (rollbackBlockers_later ht hcontext (List.isEmpty_iff.1 h))
    · intro toStatus h
      have hblockers := transitionAllowed_iff.1 h
      exact transitionAllowed_iff.2 (transitionBlockers_later ht hcontext hblockers)

/-- A cutover whose archive was restored before its deadline of retention. -/
def sampleCutover (status : CutoverStatus) : CutoverRecord where
  sourceDeploymentId := lit "a"
  destinationDeploymentId := some (lit "b")
  sourceProvider := lit "RAILWAY"
  destinationProvider := lit "AZURE"
  status := status.name
  sourceWriteStoppedAt := some (.time 10)
  destinationWriteStartedAt := some (.time 12)
  sourceDataFreshThroughAt := some (.time 10)
  evidence := some [(lit "runtimeRollbackClaimed", .bool false)]
  finalSnapshotAt := some (.time 20)
  finalSnapshotChecksum := some (List.replicate 64 0x61)
  archiveRestoreTestedAt := some (.time 30)
  observationCompletedAt := some (.time 35)
  archiveRetentionDeadline := some (.time 40)
  retentionWaiverApprovedAt := none
  retentionWaiverApprovedBy := none
  retentionWaiverReason := none
  sourceDeletedAt := none

/-- An archived source is found eligible, now and later, and its deletion at 45 is in order. -/
theorem cutoverTransitions_agree_sample :
    ((sampleCutover .DELETE_ELIGIBLE).assessDeletionEligibility (.time 50)).accepted = true ∧
    (∃ deletedAt t, some (Stamp.time 45) = some (.time deletedAt) ∧
      Stamp.time 50 = .time t ∧ (sampleCutover .DELETE_ELIGIBLE).DeletedInOrder t deletedAt) ∧
    ((sampleCutover .ARCHIVE_ONLY).assessProviderCutoverTransition (fun _ => none)
      CutoverStatus.DELETE_ELIGIBLE.name none ⟨.time 90, .time 10, .time 10⟩).transitionAllowed =
        true := by
  have heligible := cutoverTransitions_agree (sampleCutover .ARCHIVE_ONLY) (fun _ => none) none
    ⟨.time 50, .time 10, .time 10⟩
  have hdeleted := cutoverTransitions_agree (sampleCutover .DELETE_ELIGIBLE) (fun _ => none)
    (some (.time 45)) ⟨.time 50, .time 10, .time 10⟩
  have hallowed : ((sampleCutover .ARCHIVE_ONLY).assessProviderCutoverTransition (fun _ => none)
      CutoverStatus.DELETE_ELIGIBLE.name none ⟨.time 50, .time 10, .time 10⟩).transitionAllowed =
        true := by
    decide +kernel
  refine ⟨(heligible.1.1 hallowed).2, hdeleted.2.1 (by decide +kernel), ?_⟩
  exact (heligible.2.2 50 90 rfl (by decide)).2.2.2 _ hallowed

end Corgtex.Domain
