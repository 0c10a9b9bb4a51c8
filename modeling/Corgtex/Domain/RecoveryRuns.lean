import Corgtex.Domain.RecoveryWriteOnce
import Corgtex.Library.Runs

/-!
# Runs of a recovery

From the begin of a mutation until it is finalised, recovery intents are recorded, failures are
marked and expired leases are claimed, in any order. The evidence of the row stays valid for its
rollback record and an intent that was recorded stays (`recovery_intents_written_once`), if at the
begin the record of the lease is the newest of its release. Otherwise a claim may take over another
record (`not_recovery_intents_written_once`).
-/

namespace Corgtex.Domain.RecoveryEvidenceStore

open JsString List Option RecoveryIntent ReleaseLease

/-! ## Up to the begin -/

/-- A lease that is not in recovery has no evidence, and the events tell of its record. -/
def Quiet (store : LeaseStore) : Prop :=
  ∀ lease, store.row.lease = some lease → lease.phase ≠ .RECOVERY_REQUIRED →
    lease.recoveryEvidence = none ∧ ∀ record, lease.rollbackRecord = some record →
      ∃ event ∈ recordings store.events, event.leaseId = some record.leaseId ∧
        event.fence = some record.fence ∧ event.tags = some lease.tags

section
variable {sha256 : JsString → JsString} {reads : ReleaseReads} {store store' : LeaseStore}
  {handle : LeaseHandle} {lease lease' : Lease}

theorem Quiet.kept (h : Quiet store) (hheld : store.row.lease = some lease)
    (hkept : Kept store store' lease lease') (hevidence : EvidenceKept lease lease') :
    Quiet store' := by
  intro lease'' hheld' hphase
  obtain rfl : lease' = lease'' := some.inj (hkept.held.symm.trans hheld')
  obtain ⟨hbefore, hsame⟩ := hevidence hphase
  obtain ⟨hnone, hevent⟩ := h lease hheld hbefore
  rw [hsame, hkept.record, hkept.tags, hkept.events]
  exact ⟨hnone, hevent⟩

theorem Quiet.recorded {payload : ManagedAzureRollbackPayload} (h : Quiet store)
    (hheld : store.row.lease = some lease) (hrecorded : Recorded reads store store' payload lease) :
    Quiet store' := by
  intro lease' hheld' _
  obtain ⟨provenance, hwritten⟩ := hrecorded.held
  obtain rfl := some.inj (hwritten.symm.trans hheld')
  have hreserved : lease.phase ≠ .RECOVERY_REQUIRED := by
    rw [hrecorded.reserved]
    decide
  refine ⟨(h lease hheld hreserved).1, fun record hrecord => ?_⟩
  cases hrecord
  refine ⟨eventOf reads ORIGINATING_LEASE_EVENT_ACTION store.row.releaseLeaseFence lease, ?_, rfl,
    rfl, rfl⟩
  rw [hrecorded.events]
  exact mem_append_right _ mem_cons_self

theorem Quiet.free (h : store.row.lease = none) : Quiet store := by
  intro lease hlease
  rw [h] at hlease
  cases hlease

theorem beginMutation_begun {view : LeaseView}
    (h : beginManagedReleaseMutation sha256 reads store handle = .ok (store', view)) :
    ∃ lease lease' record, Names store.row handle lease ∧ store'.row.lease = some lease' ∧
      store'.row.releaseLeaseFence = store.row.releaseLeaseFence ∧
      lease'.phase = .MUTATING ∧ lease'.rollbackRecord = some record ∧
      isUuid record.leaseId = true ∧ 1 ≤ record.fence ∧
      record.fence = store.row.releaseLeaseFence := by
  rw [beginManagedReleaseMutation] at h
  obtain ⟨lease, howned, h⟩ := bind_ok.1 h
  have hnames := owned_ok howned
  obtain ⟨_, _, h⟩ := bind_ok.1 h
  split at h
  · next hphase =>
    obtain ⟨record, hstored, h⟩ := bind_ok.1 h
    obtain ⟨_, _, h⟩ := bind_ok.1 h
    cases h
    obtain ⟨hrecord, _, _, huuid, hpos, hown⟩ := storedRollbackEnvelope_ok hstored
    exact ⟨lease, lease, record, hnames, hnames.held, rfl, hphase, hrecord, huuid,
      hpos, (hown (by rw [hphase]; decide)).2⟩
  · obtain ⟨hphase, h⟩ := require_bind_ok.1 h
    obtain ⟨_, h⟩ := require_bind_ok.1 h
    obtain ⟨_, h⟩ := require_bind_ok.1 h
    obtain ⟨record, hstored, h⟩ := bind_ok.1 h
    obtain ⟨_, _, h⟩ := bind_ok.1 h
    obtain ⟨store₁, hcommit, h⟩ := bind_ok.1 h
    cases h
    obtain ⟨_, rfl⟩ := commit_ok.1 hcommit
    rw [decide_eq_true_eq] at hphase
    have hreserved : lease.phase ≠ .RECOVERY_REQUIRED := by
      rw [hphase]
      decide
    obtain ⟨hrecord, _, _, huuid, hpos, hown⟩ := storedRollbackEnvelope_ok hstored
    exact ⟨lease, _, record, hnames, rfl, rfl, rfl, hrecord, huuid, hpos,
      (hown hreserved).2⟩

/-- **A request with a handle keeps a row quiet.** -/
theorem Quiet.held {operation : HeldOperation} (hquiet : Quiet store)
    (h : operation.perform sha256 reads store handle = .ok store') : Quiet store' := by
  obtain ⟨lease, hnames, ⟨_, _, lease', hkept, hevidence⟩ | ⟨payload, _, hrecorded⟩ |
    ⟨_, hended, _⟩⟩ := held_effect h
  · exact hquiet.kept hnames.held hkept hevidence
  · exact hquiet.recorded hnames.held hrecorded
  · exact .free hended.free

/-- **A request keeps a row quiet.** -/
theorem Quiet.request {request : LeaseRequest} {opened : Option LeaseHandle} (hquiet : Quiet store)
    (h : request.perform sha256 reads store = .ok (store', opened)) : Quiet store' := by
  cases request with
  | acquire params leaseId capability =>
    obtain ⟨_, lease', _, hopened, _, hempty, hnone, _⟩ := acquire_effect h
    intro lease hlease _
    cases hopened.held.symm.trans hlease
    refine ⟨hnone, fun record hrecord => ?_⟩
    rw [hempty] at hrecord
    cases hrecord
  | claimRecovery params leaseId capability =>
    obtain ⟨_, _, lease', _, _, hopened, _, _, _, hphase, _⟩ := claim_effect h
    intro lease hlease hnot
    cases hopened.held.symm.trans hlease
    exact absurd hphase hnot
  | held handle operation =>
    obtain ⟨store₁, hrun, h⟩ := bind_ok.1 h
    cases h
    exact hquiet.held hrun

/-- Every row that requests lead to from a free one is quiet. -/
theorem quiet_of_run {start : LeaseSystem} (hstart : start.Initial) (history : List LeaseStep) :
    Quiet (history.foldl (LeaseSystem.apply sha256) start).store := by
  induction history using reverseRecOn with
  | nil => exact .free hstart.lease
  | append_singleton history step ih =>
    rw [foldl_append, foldl_cons, foldl_nil, LeaseSystem.apply]
    split
    · exact ih
    · next store opened h => exact ih.request h

/-! ## From the begin on -/

/-- Of the events of records for the release, those of other records are older than that of the
lease's own. -/
def RecordNewest (store : LeaseStore) : Prop :=
  ∀ lease record, store.row.lease = some lease → lease.rollbackRecord = some record →
    ∀ own ∈ recordings store.events, own.leaseId = some record.leaseId →
      own.fence = some record.fence → own.tags = some lease.tags →
      ∀ other ∈ recordings store.events, other.tags = some lease.tags →
        (other.leaseId = some record.leaseId ∧ other.fence = some record.fence) ∨
          other.createdAt < own.createdAt

theorem settled_of_begin {view : LeaseView} (hquiet : Quiet store)
    (h : beginManagedReleaseMutation sha256 reads store handle = .ok (store', view))
    (hnewest : RecordNewest store') :
    ∃ lease record, Settled sha256 store' lease record := by
  obtain ⟨lease, lease', record, hnames, hheld, hfence, hphase, hrecord, huuid, hpos,
    hown⟩ := beginMutation_begun h
  have hperform : HeldOperation.beginMutation.perform sha256 reads store handle = .ok store' :=
    ReleaseLease.map_ok.2 ⟨_, h, rfl⟩
  have hnot : lease'.phase ≠ .RECOVERY_REQUIRED := by
    rw [hphase]
    decide
  obtain ⟨hnone, hevent⟩ := hquiet.held hperform lease' hheld hnot
  obtain ⟨event, hmem, hid, hf, htags⟩ := hevent record hrecord
  refine ⟨lease', record, hheld, hrecord, by rw [hphase]; rfl, ⟨rfl, huuid, hpos, ?_, ?_⟩, ?_⟩
  · exact (hown.trans hfence.symm).le
  · exact ⟨event, hmem, hid, hf, htags, hnewest lease' record hheld hrecord event hmem hid hf htags⟩
  · intro evidence hsome
    rw [hnone] at hsome
    cases hsome

theorem recordings_applyStep (store : LeaseStore) (step : RecoveryStep) :
    recordings (applyStep sha256 store step).events = recordings store.events := by
  unfold applyStep
  split
  · rfl
  · next store' h =>
    cases hcall : step.call with
    | recordIntent handle intentInput =>
      rw [hcall, RecoveryCall.perform, ReleaseLease.map_ok] at h
      obtain ⟨⟨store₁, view, created, intent⟩, h, rfl⟩ := h
      obtain ⟨_, _, _, _, _, _, _, _, _, _, hevents⟩ := recordIntent_ok h
      exact hevents
    | markRequired handle evidence =>
      rw [hcall] at h
      obtain ⟨_, _, _, _, _, _, _, _, _, _, hevents⟩ := markRequired_ok h
      exact hevents
    | claimRecovery params leaseId capability =>
      rw [hcall] at h
      obtain ⟨_, _, _, _, _, _, _, _, _, _, _, hevents⟩ := claimRecovery_ok h
      exact hevents

theorem recordings_run (store : LeaseStore) (steps : List RecoveryStep) :
    recordings (steps.foldl (applyStep sha256) store).events = recordings store.events := by
  induction steps generalizing store with
  | nil => rfl
  | cons step steps ih => rw [foldl_cons, ih, recordings_applyStep]

/-- **A run keeps a lease settled.** -/
theorem Settled.run {lease : Lease} {record : RollbackEnvelope}
    (hs : Settled sha256 store lease record) {steps : List RecoveryStep}
    (hsteps : ∀ done step, done ++ [step] <+: steps →
      ReadsNewest (done.foldl (applyStep sha256) store).events step.reads.newest) :
    ∀ done, done <+: steps →
      ∃ lease', Settled sha256 (done.foldl (applyStep sha256) store) lease' record := by
  refine @List.forall_prefix_foldl _ _ (applyStep sha256) store steps
    (fun before => ∃ lease', Settled sha256 before lease' record)
    (fun before step => ReadsNewest before.events step.reads.newest) ⟨lease, hs⟩ ?_ hsteps
  intro before step hsettled hnewest
  obtain ⟨lease', hbefore⟩ := hsettled
  obtain ⟨lease'', hafter, _⟩ := hbefore.stepped hnewest
  exact ⟨lease'', hafter⟩

end

/-- What is promised of a row on which requests are made: its evidence is sound in every state, and
every request is write-once. -/
structure IntentsWrittenOnce (sha256 : JsString → JsString) (store : LeaseStore)
    (steps : List RecoveryStep) : Prop where
  sound : ∀ done, done <+: steps →
    ∃ lease record, EvidenceSound sha256 (done.foldl (applyStep sha256) store) lease record
  steps : ∀ done step, done ++ [step] <+: steps → ∀ lease record,
    (done.foldl (applyStep sha256) store).row.lease = some lease →
    lease.rollbackRecord = some record →
    WriteOnce sha256 (done.foldl (applyStep sha256) store) lease record step

/-- **Recovery intents are written once where the lease's record is the newest.** From the begin of
a mutation on, in every run of recordings, marks and claims, the evidence is sound in every state
and every request is write-once, if at the begin every other record for the release is older. -/
theorem recovery_intents_written_once (sha256 : JsString → JsString) (start : LeaseSystem)
    (hstart : start.Initial) (history : List LeaseStep) (reads : ReleaseReads)
    (handle : LeaseHandle) (store : LeaseStore) (view : LeaseView)
    (hbegin : beginManagedReleaseMutation sha256 reads
      (history.foldl (LeaseSystem.apply sha256) start).store handle = .ok (store, view))
    (hnewest : RecordNewest store) (steps : List RecoveryStep)
    (hsteps : ∀ done step, done ++ [step] <+: steps →
      ReadsNewest (done.foldl (applyStep sha256) store).events step.reads.newest) :
    IntentsWrittenOnce sha256 store steps := by
  obtain ⟨lease, record, hs⟩ := settled_of_begin (quiet_of_run hstart history) hbegin hnewest
  have hrun := hs.run hsteps
  constructor
  · intro done hpre
    obtain ⟨lease', hs'⟩ := hrun done hpre
    exact ⟨lease', record, hs'.sound⟩
  · intro done step hpre lease' record' hheld hrecord
    obtain ⟨settled, hs'⟩ := hrun done ((prefix_append done [step]).trans hpre)
    obtain rfl := some.inj (hheld.symm.trans hs'.held)
    obtain rfl := some.inj (hrecord.symm.trans hs'.recorded)
    exact hs'.writeOnce (hsteps done step hpre)

/-! ## Two runs -/

/-- A digest of one digit. -/
def sampleDigest (u : UInt16) : JsString := lit "sha256:" ++ List.replicate 64 u

def sampleRelease : ReleaseTags where
  expectedImageTag := lit "sha-" ++ List.replicate 40 0x61
  incomingImageTag := lit "sha-" ++ List.replicate 40 0x62
  incomingVersion := lit "1.2.3"

def sampleImage (app : JsString) (u : UInt16) : JsString :=
  lit "corgtex.azurecr.io/corgtex/" ++ app ++ lit "@" ++ sampleDigest u

def sampleContainer (app : JsString) : PreviousContainer where
  containerName := app
  image := sampleImage app 0x35
  readyRevision := lit "corgtex-" ++ app ++ lit "--r1"
  templateDigest := sampleDigest 0x31

/-- A release with a plan for a compatible recovery. -/
def sampleRecovery : ManagedAzureRollbackPayload where
  target :=
    { subscriptionId := sampleId 9
      resourceGroup := lit "corgtex"
      acrName := lit "corgtex"
      acrServer := lit "corgtex.azurecr.io"
      webAppName := lit "corgtex-web"
      workerAppName := lit "corgtex-worker" }
  previous :=
    { releaseVersion := some (lit "1.2.2")
      web := sampleContainer (lit "web")
      worker := sampleContainer (lit "worker") }
  webDigest := sampleDigest 0x36
  workerDigest := sampleDigest 0x37
  plan := some
    { schemaApprovalDigest := sampleDigest 0x38
      compatibleRecovery :=
        { gitSha := List.replicate 40 0x63
          imageTag := lit "sha-" ++ List.replicate 40 0x63
          releaseVersion := lit "1.2.3-r"
          web := ⟨sampleImage (lit "web") 0x32, sampleDigest 0x32⟩
          worker := ⟨sampleImage (lit "worker") 0x39, sampleDigest 0x39⟩
          schemaCompatibilityApprovalDigest := sampleDigest 0x38
          exclusive := false }
      configurationDigests := none }

/-- What the second lease is going to write of the web app. -/
def sampleIntent : ManagedReleaseRecoveryIntent where
  role := .web
  originatingLeaseId := sampleId 2
  originatingFence := 2
  appName := lit "corgtex-web"
  predecessorRevisionName := lit "corgtex-web--r1"
  predecessorTemplateDigest := sampleDigest 0x31
  gitSha := List.replicate 40 0x63
  imageDigest := sampleDigest 0x32
  templateBaseDigest := sampleDigest 0x33
  revisionSuffix := lit "ri-2e8b9cfc86b25687ac503c58d8e7b4a4"
  templateDigest := sampleDigest 0x34
  intentDigest := lit "sha256:b8cbd358977c88b2d23f3cc03ed26d51c23207aeba01ddd74f1e85c1a97f574b"

/-- The hashes of the three texts below, which differ in length: the capability, the base of the
intent and the intent without its digest. -/
def sampleSha256 (text : JsString) : JsString :=
  if text.length = 1 then lit "8254c329a92850f6d539dd376f4816ee2764517da5e0235514af433164480d7a"
  else if text.length = 558 then
    lit "2e8b9cfc86b25687ac503c58d8e7b4a48134ff00c7c8b18aca1bdad0265cc14e"
  else lit "b8cbd358977c88b2d23f3cc03ed26d51c23207aeba01ddd74f1e85c1a97f574b"

theorem canonicalize_value_sampleIntent :
    RecoveryIntent.canonicalizeManagedReleaseRecoveryIntent sampleSha256
      (.object (intentMembers sampleIntent))
      ⟨none, sampleId 0, sampleId 2, 2, sampleRelease, sampleRecovery⟩
      ⟨stateConflict, stateConflict⟩ = .ok sampleIntent :=
  @canonicalize_value _ (.object (intentMembers sampleIntent).reverse) _
    ⟨stateConflict, stateConflict⟩ _ _ (by decide +kernel)

/-- A deployment of the release before, without a lease. -/
def sampleDeployment : LeaseSystem where
  store := ⟨⟨sampleId 0, some sampleRelease.expectedImageTag, some (lit "1.2.2"), none, none, none,
    none, 0, none⟩, []⟩
  returned := []
  live := none
  origin := none

def sampleRecording (n : UInt16) (fence createdAt : Nat) : CustomerDeploymentEvent :=
  ⟨ORIGINATING_LEASE_EVENT_ACTION, createdAt, some (sampleId n), some fence, some (lit "o"),
    some sampleRelease⟩

def sampleHandle (n : UInt16) (fence : Nat) : LeaseHandle :=
  ⟨sampleId 0, sampleId n, lit "k", fence⟩

def sampleAcquisition (n : UInt16) : LeaseStep :=
  ⟨sampleReads 0 0 [], .acquire ⟨sampleId 0, sampleRelease, lit "o", none⟩ (sampleId n) (lit "k")⟩

/-- A reservation that is recorded and aborted, and one for the same release that is recorded at
some time. -/
def sampleHistory (createdAt : Nat) : List LeaseStep :=
  [sampleAcquisition 1,
    ⟨sampleReads 0 0 [], .held (sampleHandle 1 1) (.recordRollbackRecord sampleRecovery)⟩,
    ⟨sampleReads 0 0 [], .held (sampleHandle 1 1) .abort⟩, sampleAcquisition 2,
    ⟨sampleReads 0 createdAt [], .held (sampleHandle 2 2) (.recordRollbackRecord sampleRecovery)⟩]

/-- An intent is recorded, and the lease is claimed when it has expired. -/
def sampleCalls (newest : List CustomerDeploymentEvent) : List RecoveryStep :=
  [⟨sampleReads 0 0 newest,
      .recordIntent (sampleHandle 2 2) (.object (intentMembers sampleIntent))⟩,
    ⟨sampleReads TTL_MS TTL_MS newest,
      .claimRecovery ⟨sampleId 0, sampleId 2, 2, lit "o"⟩ (sampleId 3) (lit "k")⟩]

def sampleBegun (createdAt : Nat) : Except AppError (LeaseStore × LeaseView) :=
  beginManagedReleaseMutation sampleSha256 (sampleReads 0 0 [])
    ((sampleHistory createdAt).foldl (LeaseSystem.apply sampleSha256) sampleDeployment).store
    (sampleHandle 2 2)

/-- The row after the begin. -/
def sampleStore (createdAt : Nat) : LeaseStore :=
  (sampleBegun createdAt).toOption.elim sampleDeployment.store Prod.fst

theorem exists_view {createdAt : Nat} (h : (sampleBegun createdAt).toBool = true) :
    ∃ view, sampleBegun createdAt = .ok (sampleStore createdAt, view) := by
  unfold sampleStore
  cases hbegun : sampleBegun createdAt with
  | error e =>
    rw [hbegun] at h
    cases h
  | ok result => exact ⟨result.2, rfl⟩

theorem sampleCalls_newest {newest : List CustomerDeploymentEvent} {done : List RecoveryStep}
    {step : RecoveryStep} (hpre : done ++ [step] <+: sampleCalls newest) :
    step.reads.newest = newest := by
  have hmem : step ∈ sampleCalls newest := hpre.subset (by simp)
  rcases mem_cons.1 hmem with rfl | hmem
  · rfl
  · rw [mem_singleton.1 hmem]
    rfl

theorem sampleEvents {createdAt : Nat} {newest : List CustomerDeploymentEvent}
    (hevents : recordings (sampleStore createdAt).events =
      [sampleRecording 1 1 0, sampleRecording 2 2 createdAt])
    (hperm : newest.Perm [sampleRecording 1 1 0, sampleRecording 2 2 createdAt])
    (hdesc : newest.Pairwise fun event older => older.createdAt ≤ event.createdAt) :
    ∀ done step, done ++ [step] <+: sampleCalls newest →
      ReadsNewest (done.foldl (applyStep sampleSha256) (sampleStore createdAt)).events
        step.reads.newest := by
  intro done step hpre
  rw [sampleCalls_newest hpre]
  refine ⟨newest, ?_, hdesc, (take_of_length_le ?_).symm⟩
  · rw [← recordings, recordings_run, hevents]
    exact hperm
  · simp [hperm.length_eq]

theorem sampleDeployment_initial : sampleDeployment.Initial := ⟨rfl, by decide, rfl, rfl, rfl⟩

/-- The second record is written after the first one. -/
theorem recovery_intents_written_once_sample :
    IntentsWrittenOnce sampleSha256 (sampleStore 1)
      (sampleCalls [sampleRecording 2 2 1, sampleRecording 1 1 0]) := by
  have hok : (sampleBegun 1).toBool = true := by decide +kernel
  have hevents : recordings (sampleStore 1).events =
      [sampleRecording 1 1 0, sampleRecording 2 2 1] := by decide +kernel
  have hlease : (sampleStore 1).row.lease.map (fun lease => (lease.tags,
      lease.rollbackRecord.map fun record => (record.leaseId, record.fence))) =
        some (sampleRelease, some (sampleId 2, 2)) := by decide +kernel
  have hsteps := sampleEvents hevents (.swap _ _ _) (by decide)
  obtain ⟨view, hbegin⟩ := exists_view hok
  refine recovery_intents_written_once sampleSha256 sampleDeployment sampleDeployment_initial
    (sampleHistory 1) (sampleReads 0 0 []) (sampleHandle 2 2) (sampleStore 1) view hbegin ?_ _
    hsteps
  intro lease record hheld hrecord own hown hid _ _ other hother _
  rw [hheld, map_some, hrecord, map_some] at hlease
  obtain ⟨_, hnames⟩ := Prod.mk.inj (some.inj hlease)
  obtain ⟨hleaseId, hfence⟩ := Prod.mk.inj (some.inj hnames)
  rw [hevents] at hown hother
  have hsecond : own = sampleRecording 2 2 1 := by
    rcases mem_cons.1 hown with rfl | hown
    · rw [hleaseId] at hid
      exact absurd hid (by decide)
    · exact mem_singleton.1 hown
  rcases mem_cons.1 hother with rfl | hother
  · rw [hsecond]
    exact .inr (by decide)
  · rw [mem_singleton.1 hother, hleaseId, hfence]
    exact .inl ⟨rfl, rfl⟩

/-- **The evidence is invalidated by an aborted reservation**: of two records of one release that
were written at one time, the claim takes the one of the reservation that was aborted, and the
intent that was recorded under the other one no longer agrees with the stored record. -/
theorem not_recovery_intents_written_once :
    ¬ ∀ start : LeaseSystem, start.Initial → ∀ (history : List LeaseStep) (reads : ReleaseReads)
      (handle : LeaseHandle) (store : LeaseStore) (view : LeaseView),
      beginManagedReleaseMutation sampleSha256 reads
        (history.foldl (LeaseSystem.apply sampleSha256) start).store handle = .ok (store, view) →
      ∀ steps : List RecoveryStep,
        (∀ done step, done ++ [step] <+: steps →
          ReadsNewest (done.foldl (applyStep sampleSha256) store).events step.reads.newest) →
        IntentsWrittenOnce sampleSha256 store steps := by
  intro hall
  have hok : (sampleBegun 0).toBool = true := by decide +kernel
  have hevents : recordings (sampleStore 0).events =
      [sampleRecording 1 1 0, sampleRecording 2 2 0] := by decide +kernel
  obtain ⟨view, hbegin⟩ := exists_view hok
  have honce := hall sampleDeployment sampleDeployment_initial (sampleHistory 0)
    (sampleReads 0 0 []) (sampleHandle 2 2) (sampleStore 0) view hbegin _
    (sampleEvents hevents (.refl _) (by decide))
  have hend : (((sampleCalls [sampleRecording 1 1 0, sampleRecording 2 2 0]).foldl
      (applyStep sampleSha256) (sampleStore 0)).row.lease.bind fun lease =>
        lease.rollbackRecord.map fun record => (lease.recoveryEvidence.isSome,
          (validateStoredRecoveryEvidence sampleSha256 (evidenceColumn lease) record).toBool)) =
      some (true, false) := by decide +kernel
  obtain ⟨lease, record, hsound⟩ := honce.sound _ (prefix_refl _)
  rw [hsound.held, bind_some, hsound.recorded, map_some] at hend
  obtain ⟨hsome, hfails⟩ := Prod.mk.inj (some.inj hend)
  obtain ⟨evidence, hevidence⟩ := isSome_iff_exists.1 hsome
  rw [hsound.valid evidence hevidence] at hfails
  cases hfails

end Corgtex.Domain.RecoveryEvidenceStore
