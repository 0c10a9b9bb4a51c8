import Corgtex.Domain.RecoveryEvidenceStore
import Mathlib.Data.List.Sublists

/-!
# Recovery intents are written once

What the requests of a recovery do with the evidence of a lease. Evidence is valid for a record if
its intents are read from their own values and their roles come in order; valid evidence passes the
validation (`ValidEvidence.validate`), and recording, marking and claiming keep it
(`Settled.stepped`). An intent that is there is found again, and another one for its role is
rejected (`Settled.writeOnce`).
-/

namespace Corgtex.Domain.RecoveryEvidenceStore

open JsString List Option RecoveryIntent ReleaseLease ReleaseProofReader

/-! ## Valid evidence -/

/-- Intents that are read from their own values, the web before the worker. -/
structure ValidIntents (sha256 : JsString → JsString) (envelope : RollbackEnvelope)
    (intents : List ManagedReleaseRecoveryIntent) : Prop where
  read : ∀ intent ∈ intents,
    readIntent sha256 (.object (intentMembers intent)) envelope = .ok intent
  roles : (intents.map (·.role)).Sublist [.web, .worker]

/-- Evidence that is read from its own value. -/
structure ValidEvidence (sha256 : JsString → JsString) (envelope : RollbackEnvelope)
    (evidence : RecoveryEvidence) : Prop where
  code : isRecoveryCode evidence.code = true
  intents : ∀ intents, evidence.intents = some intents → ValidIntents sha256 envelope intents

section
variable {sha256 : JsString → JsString} {envelope : RollbackEnvelope} {evidence : RecoveryEvidence}
  {intents : List ManagedReleaseRecoveryIntent} {intent : ManagedReleaseRecoveryIntent}

/-- At most two roles, in their order. -/
theorem roles_cases {roles : List IntentRole} (h : roles.Sublist [.web, .worker]) :
    roles = [] ∨ roles = [.web] ∨ roles = [.worker] ∨ roles = [.web, .worker] := by
  have hmem := mem_sublists.2 h
  have hall : [IntentRole.web, .worker].sublists = [[], [.web], [.worker], [.web, .worker]] := by
    decide
  simpa [hall] using hmem

theorem enumString_stage {ε : Type} (invalid : ε) (stage : RecoveryStage) :
    enumString invalid (.string (stageName stage)) RECOVERY_STAGES stageName = .ok stage := by
  have hfind : RECOVERY_STAGES.find? (fun other => stageName other = stageName stage) =
      some stage := by
    cases stage <;> decide
  have hsafe : safeAsciiScalar (stageName stage) = true := by
    cases stage <;> decide
  unfold enumString
  simp only [hfind]
  exact demand_bind_ok.2 ⟨hsafe, rfl⟩

theorem pattern_string {ε : Type} {invalid : ε} {form : JsString → Bool} {s : JsString}
    (h : form s = true) : pattern invalid (.string s) form = .ok s :=
  demand_bind_ok.2 ⟨h, rfl⟩

theorem literalNumber_schemaVersion : literalNumber stateConflict (.number 2) 2 = .ok () := by
  simp [literalNumber, demand, JsNumber.isSafeInteger]

theorem mapM_intentMembers
    (h : ∀ intent ∈ intents,
      readIntent sha256 (.object (intentMembers intent)) envelope = .ok intent) :
    (intents.map fun intent => JsValue.object (intentMembers intent)).mapM
      (fun item => canonicalizeManagedReleaseRecoveryIntent sha256 item envelope
        ⟨stateConflict, stateConflict⟩) = .ok intents := by
  induction intents with
  | nil => rfl
  | cons intent intents ih =>
    have hfirst : canonicalizeManagedReleaseRecoveryIntent sha256
        (.object (intentMembers intent)) envelope ⟨stateConflict, stateConflict⟩ = .ok intent :=
      mapError_ok.2 (h intent mem_cons_self)
    rw [map_cons, mapM_cons, hfirst, ih fun other hmem => h other (mem_cons_of_mem _ hmem)]
    rfl

theorem ValidIntents.validate (h : ValidIntents sha256 envelope intents) :
    validateIntents sha256 (.array (intents.map fun intent => .object (intentMembers intent)))
      envelope = .ok intents := by
  have hroles := roles_cases h.roles
  have htwo : intents.length ≤ 2 := by
    rw [← length_map (fun intent : ManagedReleaseRecoveryIntent => intent.role)]
    exact h.roles.length_le
  have horder : (intents.length ≤ 1 || intents.map (·.role) = [.web, .worker]) = true := by
    rw [← length_map (fun intent : ManagedReleaseRecoveryIntent => intent.role)]
    rcases hroles with hroles | hroles | hroles | hroles <;> rw [hroles] <;> decide
  have hdistinct : (intents.map (·.role)).dedup.length = intents.length := by
    rw [← length_map (fun intent : ManagedReleaseRecoveryIntent => intent.role)]
    rcases hroles with hroles | hroles | hroles | hroles <;> rw [hroles] <;> decide
  unfold validateIntents
  refine demand_bind_ok.2 ⟨by simpa using htwo, ?_⟩
  refine bind_ok.2 ⟨intents, mapM_intentMembers h.read, ?_⟩
  exact demand_bind_ok.2 ⟨horder, demand_bind_ok.2 ⟨by simpa using hdistinct, rfl⟩⟩

/-- **What is valid passes the validation**, and is read as it was written. -/
theorem ValidEvidence.validate (h : ValidEvidence sha256 envelope evidence) :
    validateStoredRecoveryEvidence sha256 (.object (evidenceMembers evidence)) envelope =
      .ok evidence := by
  obtain ⟨stage, code, intents⟩ := evidence
  unfold validateStoredRecoveryEvidence
  cases intents with
  | none =>
    have hversion : ((evidenceMembers ⟨stage, code, none⟩).map Prod.fst).contains
        (lit "schemaVersion") = false := rfl
    have hread : validateStoredRecoveryStageCode (.object (evidenceMembers ⟨stage, code, none⟩)) =
        .ok (stage, code) :=
      bind_ok.2 ⟨_, exactRecord_object, bind_ok.2 ⟨stage, enumString_stage _ _,
        bind_ok.2 ⟨code, pattern_string h.code, rfl⟩⟩⟩
    simp only [hversion, Bool.false_eq_true, if_false]
    exact bind_ok.2 ⟨_, hread, rfl⟩
  | some intents =>
    have hversion : ((evidenceMembers ⟨stage, code, some intents⟩).map Prod.fst).contains
        (lit "schemaVersion") = true := rfl
    simp only [hversion, if_true]
    refine bind_ok.2 ⟨_, exactRecord_object, ?_⟩
    refine bind_ok.2 ⟨(), literalNumber_schemaVersion, ?_⟩
    refine bind_ok.2 ⟨stage, enumString_stage _ _, ?_⟩
    refine bind_ok.2 ⟨code, pattern_string h.code, ?_⟩
    exact bind_ok.2 ⟨intents, (h.intents intents rfl).validate, rfl⟩

theorem currentEvidence_valid {lease : Lease}
    (h : ∀ evidence, lease.recoveryEvidence = some evidence →
      ValidEvidence sha256 envelope evidence) :
    currentEvidence sha256 lease envelope = .ok lease.recoveryEvidence := by
  unfold currentEvidence evidenceColumn
  cases hevidence : lease.recoveryEvidence with
  | none => rfl
  | some evidence => exact bind_ok.2 ⟨evidence, (h evidence hevidence).validate, rfl⟩

/-! ## Recording -/

def leaseIntents (lease : Lease) : List ManagedReleaseRecoveryIntent :=
  (lease.recoveryEvidence.bind RecoveryEvidence.intents).getD []

def recordedEvidence (intents : List ManagedReleaseRecoveryIntent) : RecoveryEvidence where
  stage := .ROLLBACK
  code := lit "RECOVERY_WRITE_INTENT_RECORDED"
  intents := some intents

/-- The intents with another one, the web before the worker. -/
def insertIntent (intent : ManagedReleaseRecoveryIntent)
    (intents : List ManagedReleaseRecoveryIntent) : List ManagedReleaseRecoveryIntent :=
  if intent.role = .web then intent :: intents else intents ++ [intent]

variable {other : ManagedReleaseRecoveryIntent}

theorem mem_insertIntent :
    other ∈ insertIntent intent intents ↔ other = intent ∨ other ∈ intents := by
  unfold insertIntent
  split
  · exact mem_cons
  · rw [mem_append, mem_singleton, or_comm]

theorem ValidIntents.eq_of_role (h : ValidIntents sha256 envelope intents)
    (hmem : intent ∈ intents) (hother : other ∈ intents)
    (hrole : intent.role = other.role) : intent = other :=
  inj_on_of_nodup_map (h.roles.nodup (by decide)) hmem hother hrole

theorem ValidIntents.insert (h : ValidIntents sha256 envelope intents)
    (hread : readIntent sha256 (.object (intentMembers intent)) envelope = .ok intent)
    (hfresh : ∀ other ∈ intents, other.role ≠ intent.role) :
    ValidIntents sha256 envelope (insertIntent intent intents) where
  read other hmem := by
    rcases mem_insertIntent.1 hmem with rfl | hmem
    · exact hread
    · exact h.read other hmem
  roles := by
    have hnot : intent.role ∉ intents.map (·.role) := fun hmem => by
      obtain ⟨other, hother, hrole⟩ := mem_map.1 hmem
      exact hfresh other hother hrole
    have hroles := roles_cases h.roles
    unfold insertIntent
    cases hrole : intent.role with
    | web =>
      rw [hrole] at hnot
      rw [if_pos rfl, map_cons, hrole]
      rcases hroles with hroles | hroles | hroles | hroles
      · simp [hroles]
      · simp [hroles] at hnot
      · simp [hroles]
      · simp [hroles] at hnot
    | worker =>
      rw [hrole] at hnot
      rw [if_neg (by decide), map_append, map_singleton, hrole]
      rcases hroles with hroles | hroles | hroles | hroles
      · simp [hroles]
      · simp [hroles]
      · simp [hroles] at hnot
      · simp [hroles] at hnot

variable {current : Option RecoveryEvidence}

theorem recordedIntent_ok {created : Bool}
    (h : recoveryEvidenceWithRecordedIntent current intent = .ok (created, evidence))
    (hintents : (current.bind RecoveryEvidence.intents).getD [] = intents) :
    (created = false ∧ intent ∈ intents ∧ evidence = recordedEvidence intents) ∨
      (created = true ∧ (∀ other ∈ intents, other.role ≠ intent.role) ∧
        evidence = recordedEvidence (insertIntent intent intents)) := by
  unfold recoveryEvidenceWithRecordedIntent at h
  simp only [hintents] at h
  split at h
  · next existing hfind =>
    obtain ⟨hsame, h⟩ := require_bind_ok.1 h
    cases h
    obtain rfl : existing = intent := by simpa using hsame
    exact .inl ⟨rfl, mem_of_find?_eq_some hfind, rfl⟩
  · next hnone =>
    obtain ⟨_, h⟩ := require_bind_ok.1 h
    cases h
    refine .inr ⟨rfl, fun other hother => ?_, rfl⟩
    simpa using find?_eq_none.1 hnone other hother

/-- **An intent that is recorded is found again.** -/
theorem recordedIntent_again
    (hintents : (current.bind RecoveryEvidence.intents).getD [] = intents)
    (hvalid : ValidIntents sha256 envelope intents) (hmem : intent ∈ intents) :
    recoveryEvidenceWithRecordedIntent current intent = .ok (false, recordedEvidence intents) := by
  unfold recoveryEvidenceWithRecordedIntent
  simp only [hintents]
  split
  · next existing hfind =>
    have hrole : existing.role = intent.role := by simpa using find?_some hfind
    obtain rfl := hvalid.eq_of_role (mem_of_find?_eq_some hfind) hmem hrole
    exact require_bind_ok.2 ⟨by simp, rfl⟩
  · next hnone => exact absurd (find?_eq_none.1 hnone intent hmem) (by simp)

end

/-! ## Steps -/

/-- A row as the system of `ReleaseLeaseSafety`, with its record as what was first recorded. -/
def systemOf (store : LeaseStore) (record : RollbackEnvelope) : LeaseSystem where
  store
  returned := []
  live := none
  origin := some ⟨record.payload, record.leaseId, record.fence⟩

/-- A lease that is underway under a record that the events tell of, and its evidence is valid for
the record. -/
structure Settled (sha256 : JsString → JsString) (store : LeaseStore) (lease : Lease)
    (record : RollbackEnvelope) : Prop where
  held : store.row.lease = some lease
  recorded : lease.rollbackRecord = some record
  underway : lease.phase.isUnderway = true
  documented : (systemOf store record).Documented lease record
  evidence : ∀ evidence, lease.recoveryEvidence = some evidence →
    ValidEvidence sha256 record evidence

section
variable {sha256 : JsString → JsString} {reads : ReleaseReads} {store store' : LeaseStore}
  {lease lease' : Lease} {record envelope : RollbackEnvelope} {handle : LeaseHandle}

theorem storedRollbackEnvelope_ok {row : CustomerDeployment}
    (h : storedRollbackEnvelope reads row lease = .ok record) :
    lease.rollbackRecord = some record ∧ record.deploymentId = row.id ∧
      record.tags = lease.tags ∧ isUuid record.leaseId = true ∧ 1 ≤ record.fence ∧
      (lease.phase ≠ .RECOVERY_REQUIRED →
        record.leaseId = lease.id ∧ record.fence = row.releaseLeaseFence) := by
  unfold storedRollbackEnvelope at h
  split at h
  · cases h
  · next record' hrecord =>
    obtain ⟨hform, h⟩ := require_bind_ok.1 h
    obtain ⟨hlease, h⟩ := require_bind_ok.1 h
    obtain ⟨_, _, h⟩ := bind_ok.1 h
    cases h
    simp only [Bool.and_eq_true, Bool.or_eq_true, decide_eq_true_eq] at hform hlease
    obtain ⟨⟨⟨⟨hid, huuid⟩, hpos⟩, _⟩, htags⟩ := hform
    exact ⟨hrecord, hid, htags, huuid, hpos, fun hphase =>
      hlease.resolve_right fun hrecovery => hphase hrecovery.1⟩

theorem Settled.originating (h : Settled sha256 store lease record)
    (hnewest : ReadsNewest store.events reads.newest)
    (henvelope : originatingRollbackEnvelope reads store.row lease = .ok envelope) :
    envelope = record ∧ record.deploymentId = store.row.id ∧ record.tags = lease.tags := by
  obtain ⟨_, hleaseId, hfence⟩ :=
    h.documented.origin_of_claim h.recorded hnewest henvelope
  unfold originatingRollbackEnvelope at henvelope
  obtain ⟨stored, hstored, henvelope⟩ := bind_ok.1 henvelope
  obtain ⟨hrecord, hid, htags, _⟩ := storedRollbackEnvelope_ok hstored
  obtain rfl : stored = record := some.inj (hrecord.symm.trans h.recorded)
  refine ⟨?_, hid, htags⟩
  split at henvelope
  · cases henvelope
    rfl
  · split at henvelope
    · cases henvelope
      simp only at hleaseId hfence
      rw [hleaseId, hfence]
    · cases henvelope
      rfl

/-- What a request writes of a lease that it keeps underway. -/
theorem Settled.rewritten (h : Settled sha256 store lease record)
    (hheld : store'.row.lease = some lease')
    (hfence : store.row.releaseLeaseFence ≤ store'.row.releaseLeaseFence)
    (hevents : recordings store'.events = recordings store.events)
    (htags : lease'.tags = lease.tags) (hrecord : lease'.rollbackRecord = lease.rollbackRecord)
    (hunderway : lease'.phase.isUnderway = true)
    (hevidence : ∀ evidence, lease'.recoveryEvidence = some evidence →
      ValidEvidence sha256 record evidence) :
    Settled sha256 store' lease' record where
  held := hheld
  recorded := hrecord.trans h.recorded
  underway := hunderway
  documented := h.documented.mono rfl hfence hevents htags
  evidence := hevidence

variable {intent : ManagedReleaseRecoveryIntent} {intentInput : JsValue}

theorem recordIntent_ok {view : LeaseView} {created : Bool}
    (h : recordManagedReleaseRecoveryIntent sha256 reads store handle intentInput =
      .ok (store', view, created, intent)) :
    ∃ lease envelope current evidence, Names store.row handle lease ∧
      originatingRollbackEnvelope reads store.row lease = .ok envelope ∧
      readIntent sha256 intentInput envelope = .ok intent ∧
      currentEvidence sha256 lease envelope = .ok current ∧
      recoveryEvidenceWithRecordedIntent current intent = .ok (created, evidence) ∧
      store'.row = { store.row with lease := some (lease.recovering reads.databaseNow evidence) } ∧
      recordings store'.events = recordings store.events := by
  unfold recordManagedReleaseRecoveryIntent at h
  obtain ⟨lease, howned, h⟩ := bind_ok.1 h
  obtain ⟨_, _, h⟩ := bind_ok.1 h
  obtain ⟨_, h⟩ := require_bind_ok.1 h
  obtain ⟨envelope, henvelope, h⟩ := bind_ok.1 h
  obtain ⟨_, h⟩ := require_bind_ok.1 h
  obtain ⟨_, _, h⟩ := bind_ok.1 h
  obtain ⟨read, hread, h⟩ := bind_ok.1 h
  obtain ⟨current, hcurrent, h⟩ := bind_ok.1 h
  obtain ⟨⟨created', evidence⟩, hrecorded, h⟩ := bind_ok.1 h
  obtain ⟨store₁, hcommit, h⟩ := bind_ok.1 h
  cases h
  obtain ⟨_, rfl⟩ := commit_ok.1 hcommit
  exact ⟨lease, envelope, current, evidence, owned_ok howned, henvelope, mapError_ok.1 hread,
    hcurrent, hrecorded, rfl,
    recordings_append _ (by simp [eventOf, ORIGINATING_LEASE_EVENT_ACTION])⟩

theorem markRequired_ok {evidence : JsValue}
    (h : (RecoveryCall.markRequired handle evidence).perform sha256 reads store = .ok store') :
    ∃ lease envelope current stage code, Names store.row handle lease ∧
      isRecoveryCode code = true ∧
      originatingRollbackEnvelope reads store.row lease = .ok envelope ∧
      currentEvidence sha256 lease envelope = .ok current ∧
      store'.row = { store.row with lease := some (lease.recovering reads.databaseNow
        ⟨stage, code, current.bind RecoveryEvidence.intents⟩) } ∧
      recordings store'.events = recordings store.events := by
  rw [RecoveryCall.perform, ReleaseLease.map_ok] at h
  obtain ⟨result, h, rfl⟩ := h
  unfold markManagedReleaseRecoveryRequired at h
  obtain ⟨⟨stage, code⟩, hread, h⟩ := bind_ok.1 h
  obtain ⟨lease, howned, h⟩ := bind_ok.1 h
  obtain ⟨_, _, h⟩ := bind_ok.1 h
  obtain ⟨_, h⟩ := require_bind_ok.1 h
  obtain ⟨envelope, henvelope, h⟩ := bind_ok.1 h
  obtain ⟨_, _, h⟩ := bind_ok.1 h
  obtain ⟨evidence', hevidence, h⟩ := bind_ok.1 h
  obtain ⟨current, hcurrent, hevidence⟩ := bind_ok.1 hevidence
  cases hevidence
  obtain ⟨store₁, hcommit, h⟩ := bind_ok.1 h
  cases h
  obtain ⟨_, rfl⟩ := commit_ok.1 hcommit
  refine ⟨lease, envelope, current, stage, code, owned_ok howned, ?_, henvelope, hcurrent, rfl,
    recordings_append _ (by simp [eventOf, ORIGINATING_LEASE_EVENT_ACTION])⟩
  unfold validateRecoveryStageCode readStageCode at hread
  obtain ⟨raw, _, hread⟩ := bind_ok.1 hread
  obtain ⟨stage', _, hread⟩ := bind_ok.1 hread
  obtain ⟨code', hcode, hread⟩ := bind_ok.1 hread
  cases hread
  exact pattern_form hcode

variable {leaseId capability : JsString} {params : ClaimParams}

theorem claimRecovery_ok
    (h : (RecoveryCall.claimRecovery params leaseId capability).perform sha256 reads store =
      .ok store') :
    ∃ lease lease' envelope, store.row.lease = some lease ∧
      originatingRollbackEnvelope reads store.row lease = .ok envelope ∧
      store'.row.lease = some lease' ∧
      store'.row.releaseLeaseFence = store.row.releaseLeaseFence + 1 ∧
      lease'.phase = .RECOVERY_REQUIRED ∧ lease'.tags = lease.tags ∧
      lease'.recoveryEvidence = lease.recoveryEvidence ∧
      lease'.rollbackRecord = some (rollbackEnvelope store.row lease envelope.payload
        envelope.leaseId envelope.fence envelope.provenance) ∧
      recordings store'.events = recordings store.events := by
  rw [RecoveryCall.perform, ReleaseLease.map_ok] at h
  obtain ⟨result, h, rfl⟩ := h
  unfold claimManagedReleaseRecovery at h
  obtain ⟨_, h⟩ := require_bind_ok.1 h
  obtain ⟨_, _, h⟩ := bind_ok.1 h
  split at h
  · cases h
  · next lease hlease =>
    obtain ⟨_, _, h⟩ := bind_ok.1 h
    obtain ⟨_, h⟩ := require_bind_ok.1 h
    obtain ⟨_, h⟩ := require_bind_ok.1 h
    obtain ⟨envelope, henvelope, h⟩ := bind_ok.1 h
    obtain ⟨store₁, hcommit, h⟩ := bind_ok.1 h
    cases h
    obtain ⟨_, rfl⟩ := commit_ok.1 hcommit
    exact ⟨lease, _, envelope, hlease, henvelope, rfl, rfl, rfl, rfl, rfl, rfl,
      recordings_append _ (by simp [eventOf, ORIGINATING_LEASE_EVENT_ACTION])⟩

theorem Settled.intents (h : Settled sha256 store lease record) :
    ValidIntents sha256 record (leaseIntents lease) := by
  unfold leaseIntents
  cases hevidence : lease.recoveryEvidence with
  | none => exact ⟨by simp, nil_sublist _⟩
  | some evidence =>
    cases hintents : evidence.intents with
    | none =>
      simp only [bind_some, hintents, getD_none]
      exact ⟨by simp, nil_sublist _⟩
    | some intents =>
      simp only [bind_some, hintents, getD_some]
      exact (h.evidence evidence hevidence).intents intents hintents

theorem recordedCode : isRecoveryCode (lit "RECOVERY_WRITE_INTENT_RECORDED") = true := by
  decide

theorem ValidIntents.recorded {sha256 : JsString → JsString}
    {intents : List ManagedReleaseRecoveryIntent} (h : ValidIntents sha256 record intents) :
    ValidEvidence sha256 record (recordedEvidence intents) where
  code := recordedCode
  intents intents' heq := by
    cases heq
    exact h

variable (hs : Settled sha256 store lease record) (hnewest : ReadsNewest store.events reads.newest)
include hs hnewest

/-- **Recording an intent** keeps what is recorded. -/
theorem Settled.recordIntent {view : LeaseView} {created : Bool}
    (h : recordManagedReleaseRecoveryIntent sha256 reads store handle intentInput =
      .ok (store', view, created, intent)) :
    readIntent sha256 intentInput record = .ok intent ∧
      (created = true ↔ ∀ other ∈ leaseIntents lease, other.role ≠ intent.role) ∧
      (created = false → intent ∈ leaseIntents lease) ∧
      ∃ lease', Settled sha256 store' lease' record ∧ leaseIntents lease ⊆ leaseIntents lease' := by
  obtain ⟨lease', envelope, current, evidence, hnames, henvelope, hread, hcurrent, hrecorded,
    hrow, hevents⟩ := recordIntent_ok h
  obtain rfl : lease' = lease := some.inj (hnames.held.symm.trans hs.held)
  obtain ⟨rfl, _⟩ := hs.originating hnewest henvelope
  rw [currentEvidence_valid hs.evidence] at hcurrent
  cases hcurrent
  have hvalid := hs.intents
  have hself := readIntent_value hread
  have hrewritten : ∀ intents, ValidIntents sha256 envelope intents →
      store'.row = { store.row with
        lease := some (lease'.recovering reads.databaseNow (recordedEvidence intents)) } →
      Settled sha256 store' (lease'.recovering reads.databaseNow (recordedEvidence intents))
        envelope := by
    intro intents hintents hrow
    refine hs.rewritten (by rw [hrow]) (by rw [hrow]) hevents rfl rfl rfl ?_
    intro evidence hevidence
    cases hevidence
    exact hintents.recorded
  refine ⟨hread, ?_⟩
  rcases recordedIntent_ok hrecorded rfl with ⟨rfl, hmem, rfl⟩ | ⟨rfl, hfresh, rfl⟩
  · refine ⟨⟨by simp, fun hnone => absurd rfl (hnone intent hmem)⟩, fun _ => hmem, _,
      hrewritten _ hvalid hrow, ?_⟩
    exact fun _ hother => hother
  · refine ⟨⟨fun _ => hfresh, fun _ => rfl⟩, by simp, _,
      hrewritten _ (hvalid.insert hself hfresh) hrow, ?_⟩
    exact fun _ hother => mem_insertIntent.2 (.inr hother)

/-- **Marking a failure** keeps the recorded intents under the new stage and code. -/
theorem Settled.markRequired {evidence : JsValue}
    (h : (RecoveryCall.markRequired handle evidence).perform sha256 reads store = .ok store') :
    ∃ lease', Settled sha256 store' lease' record ∧ leaseIntents lease ⊆ leaseIntents lease' := by
  obtain ⟨lease', envelope, current, stage, code, hnames, hcode, henvelope, hcurrent, hrow,
    hevents⟩ := markRequired_ok h
  obtain rfl : lease' = lease := some.inj (hnames.held.symm.trans hs.held)
  obtain ⟨rfl, _⟩ := hs.originating hnewest henvelope
  rw [currentEvidence_valid hs.evidence] at hcurrent
  cases hcurrent
  refine ⟨lease'.recovering reads.databaseNow
      ⟨stage, code, lease'.recoveryEvidence.bind RecoveryEvidence.intents⟩,
    hs.rewritten (by rw [hrow]) (by rw [hrow]) hevents rfl rfl rfl ?_, fun _ hother => hother⟩
  intro evidence hevidence
  cases hevidence
  refine ⟨hcode, fun intents hintents => ?_⟩
  obtain ⟨before, hbefore, hsame⟩ := bind_eq_some_iff.1 hintents
  exact (hs.evidence before hbefore).intents intents hsame

/-- **A claim** keeps the evidence and the record. -/
theorem Settled.claimRecovery
    (h : (RecoveryCall.claimRecovery params leaseId capability).perform sha256 reads store =
      .ok store') :
    ∃ lease', Settled sha256 store' lease' record ∧ leaseIntents lease ⊆ leaseIntents lease' := by
  obtain ⟨before, lease', envelope, hheld, henvelope, hheld', hfence, hphase, htags, hevidence,
    hrecord, hevents⟩ := claimRecovery_ok h
  obtain rfl : before = lease := some.inj (hheld.symm.trans hs.held)
  obtain ⟨rfl, hid, htags'⟩ := hs.originating hnewest henvelope
  have hsame : rollbackEnvelope store.row before envelope.payload envelope.leaseId envelope.fence
      envelope.provenance = envelope := by
    rw [rollbackEnvelope, ← hid, ← htags']
  rw [hsame] at hrecord
  refine ⟨lease', hs.rewritten hheld' (by omega) hevents htags (hrecord.trans hs.recorded.symm)
    (by rw [hphase]; rfl) (by rw [hevidence]; exact hs.evidence), ?_⟩
  rw [leaseIntents, leaseIntents, hevidence]
  exact fun _ hother => hother

end

/-! ## What is promised -/

/-- The evidence of the row passes the validation against its record, with at most one intent for
each role and the web first. -/
structure EvidenceSound (sha256 : JsString → JsString) (store : LeaseStore) (lease : Lease)
    (record : RollbackEnvelope) : Prop where
  held : store.row.lease = some lease
  recorded : lease.rollbackRecord = some record
  valid : ∀ evidence, lease.recoveryEvidence = some evidence →
    validateStoredRecoveryEvidence sha256 (evidenceColumn lease) record = .ok evidence
  roles : ((leaseIntents lease).map (·.role)).Sublist [.web, .worker]

/-- The checks of a recording that are not about the intent pass. -/
structure Admitted (sha256 : JsString → JsString) (reads : ReleaseReads) (store : LeaseStore)
    (handle : LeaseHandle) (lease : Lease) (record : RollbackEnvelope) : Prop where
  owned : owned sha256 reads store.row handle false = .ok lease
  admission : ∃ proof, requireAdmission reads store.row lease true = .ok proof
  binding : reads.binding record.payload = .ok ()
  constraints : reads.constraints = .ok ()

/-- What a step does with the intents of a lease: it keeps them; an intent that is there is accepted
again, as not created; another one for the same role is rejected. -/
structure WriteOnce (sha256 : JsString → JsString) (store : LeaseStore) (lease : Lease)
    (record : RollbackEnvelope) (step : RecoveryStep) : Prop where
  kept : ∃ lease', (applyStep sha256 store step).row.lease = some lease' ∧
    leaseIntents lease ⊆ leaseIntents lease'
  again : ∀ handle intentInput intent, step.call = .recordIntent handle intentInput →
    readIntent sha256 intentInput record = .ok intent → intent ∈ leaseIntents lease →
    Admitted sha256 step.reads store handle lease record →
    ∃ store' view, recordManagedReleaseRecoveryIntent sha256 step.reads store handle intentInput =
      .ok (store', view, false, intent)
  created : ∀ handle intentInput store' view created intent,
    step.call = .recordIntent handle intentInput →
    recordManagedReleaseRecoveryIntent sha256 step.reads store handle intentInput =
      .ok (store', view, created, intent) →
    (created = false ↔ intent ∈ leaseIntents lease)
  another : ∀ handle intentInput intent other, step.call = .recordIntent handle intentInput →
    readIntent sha256 intentInput record = .ok intent → other ∈ leaseIntents lease →
    other.role = intent.role → other ≠ intent →
    (∃ e, recordManagedReleaseRecoveryIntent sha256 step.reads store handle intentInput =
      .error e) ∧ applyStep sha256 store step = store

section
variable {sha256 : JsString → JsString} {store : LeaseStore} {lease : Lease}
  {record : RollbackEnvelope} {step : RecoveryStep}

theorem Settled.sound (h : Settled sha256 store lease record) :
    EvidenceSound sha256 store lease record where
  held := h.held
  recorded := h.recorded
  valid evidence hevidence := by
    rw [evidenceColumn, hevidence]
    exact (h.evidence evidence hevidence).validate
  roles := h.intents.roles

theorem readIntent_plan {value : JsValue} (h : readIntent sha256 value record = .ok intent) :
    record.payload.plan.isSome = true := by
  unfold readIntent at h
  split at h
  · cases h
  · next hplan => rw [hplan]; rfl

theorem Settled.originating_ok {reads : ReleaseReads} {handle : LeaseHandle}
    (h : Settled sha256 store lease record) (hnewest : ReadsNewest store.events reads.newest)
    (hadmitted : Admitted sha256 reads store handle lease record) :
    originatingRollbackEnvelope reads store.row lease = .ok record := by
  obtain ⟨proof, hproof⟩ := hadmitted.admission
  unfold requireAdmission at hproof
  obtain ⟨_, _, hproof⟩ := bind_ok.1 hproof
  rw [h.recorded] at hproof
  obtain ⟨stored, hstored, _⟩ := bind_ok.1 hproof
  have hexists : ∃ envelope, originatingRollbackEnvelope reads store.row lease = .ok envelope := by
    unfold originatingRollbackEnvelope
    rw [hstored]
    simp only [bind, Except.bind, pure, Except.pure]
    split
    · exact ⟨_, rfl⟩
    · split
      · exact ⟨_, rfl⟩
      · exact ⟨_, rfl⟩
  obtain ⟨envelope, henvelope⟩ := hexists
  obtain ⟨rfl, _⟩ := h.originating hnewest henvelope
  exact henvelope

variable (hs : Settled sha256 store lease record)
  (hnewest : ReadsNewest store.events step.reads.newest)
include hs hnewest

/-- **A step keeps a lease settled**, with the intents that it has. -/
theorem Settled.stepped : ∃ lease', Settled sha256 (applyStep sha256 store step) lease' record ∧
      leaseIntents lease ⊆ leaseIntents lease' := by
  unfold applyStep
  split
  · exact ⟨lease, hs, fun _ hmem => hmem⟩
  · next store' h =>
    cases hcall : step.call with
    | recordIntent handle intentInput =>
      rw [hcall, RecoveryCall.perform, ReleaseLease.map_ok] at h
      obtain ⟨⟨store₁, view, created, intent⟩, h, rfl⟩ := h
      exact (hs.recordIntent hnewest h).2.2.2
    | markRequired handle evidence =>
      rw [hcall] at h
      exact hs.markRequired hnewest h
    | claimRecovery params leaseId capability =>
      rw [hcall] at h
      exact hs.claimRecovery hnewest h

theorem Settled.writeOnce : WriteOnce sha256 store lease record step where
  kept := by
    obtain ⟨lease', hs', hsubset⟩ := hs.stepped hnewest
    exact ⟨lease', hs'.held, hsubset⟩
  again handle intentInput intent hcall hread hmem hadmitted := by
    obtain ⟨proof, hproof⟩ := hadmitted.admission
    let updated := lease.recovering step.reads.databaseNow (recordedEvidence (leaseIntents lease))
    let event := eventOf step.reads "control_plane.release_lease.recovery_intent_recorded"
      store.row.releaseLeaseFence updated
    refine ⟨⟨{ store.row with lease := some updated }, store.events ++ [event]⟩,
      view store.row updated, bind_ok.2 ⟨lease, hadmitted.owned, bind_ok.2 ⟨proof, hproof, ?_⟩⟩⟩
    refine require_bind_ok.2 ⟨by rw [hs.underway, hs.recorded]; rfl, ?_⟩
    refine bind_ok.2 ⟨record, hs.originating_ok hnewest hadmitted, ?_⟩
    refine require_bind_ok.2 ⟨readIntent_plan hread, ?_⟩
    refine bind_ok.2 ⟨(), hadmitted.binding, bind_ok.2 ⟨intent, mapError_ok.2 hread, ?_⟩⟩
    refine bind_ok.2 ⟨_, currentEvidence_valid hs.evidence, ?_⟩
    refine bind_ok.2 ⟨_, recordedIntent_again rfl hs.intents hmem, ?_⟩
    exact bind_ok.2 ⟨_, commit_ok.2 ⟨hadmitted.constraints, rfl⟩, rfl⟩
  created handle intentInput store' view created intent hcall h := by
    obtain ⟨_, hcreated, hfound, _⟩ := hs.recordIntent hnewest h
    refine ⟨hfound, fun hmem => ?_⟩
    cases created with
    | false => rfl
    | true => exact absurd rfl (hcreated.1 rfl intent hmem)
  another handle intentInput intent other hcall hread hother hrole hne := by
    have herror : ∃ e, recordManagedReleaseRecoveryIntent sha256 step.reads store handle
        intentInput = .error e := by
      cases h : recordManagedReleaseRecoveryIntent sha256 step.reads store handle intentInput with
      | error e => exact ⟨e, rfl⟩
      | ok result =>
        obtain ⟨store', view, created, intent'⟩ := result
        obtain ⟨hread', hcreated, hfound, _⟩ := hs.recordIntent hnewest h
        rw [hread] at hread'
        cases hread'
        cases created with
        | true => exact absurd hrole (hcreated.1 rfl other hother)
        | false => exact absurd (hs.intents.eq_of_role hother (hfound rfl) hrole) hne
    refine ⟨herror, ?_⟩
    obtain ⟨e, herror⟩ := herror
    rw [applyStep, hcall, RecoveryCall.perform, herror]
    rfl

end

end Corgtex.Domain.RecoveryEvidenceStore
