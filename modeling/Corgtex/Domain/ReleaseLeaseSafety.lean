import Corgtex.Domain.ReleaseLease

/-!
# Safety of the lease of a managed release

The requests of `ReleaseLease` by any number of holders, in any order, against one row
(`LeaseSystem`). What a request that succeeds can do is said once: an acquisition and a claim open a
lease under the next fence (`opened`), and a request with a handle keeps the lease, writes the
rollback record or ends the lease (`LeaseRequest.Effect`).

A claim of a lease that is being recovered copies its rollback record, and takes the lease that the
record is from out of the newest event of a record for the same release. Events are ordered by their
time alone, so where two records of one release were written at one time, the claim may take the
lease of an earlier, aborted reservation (`not_release_lease_safe`). In runs without such records
the lease is safe (`release_lease_safe_of_ordered`).
-/

namespace Corgtex.Domain.ReleaseLease

open List

open JsString (lit)

/-! ## Requests and runs -/

/-- The requests that name a lease by its handle. -/
inductive HeldOperation where
  | heartbeat (recovery : Bool)
  | recordRollbackRecord (payload : ManagedAzureRollbackPayload)
  | beginMutation
  | abort
  | finalizeSuccess
  | finalizeCompatibleRecovery (accepted : RecoveryAcceptance)
  | finalizeRollback (evidence : Bool)
  | recordRecoveryIntent (intent : ManagedReleaseRecoveryIntent)
  | markRecoveryRequired (stage : RecoveryStage) (code : JsString)

/-- One of the three finalise operations. -/
def HeldOperation.finalizes : HeldOperation → Bool
  | finalizeSuccess | finalizeCompatibleRecovery _ | finalizeRollback _ => true
  | _ => false

/-- The operations that end a lease. -/
def HeldOperation.ends : HeldOperation → Bool
  | abort => true
  | operation => operation.finalizes

inductive LeaseRequest where
  | acquire (params : AcquireParams) (leaseId capability : JsString)
  | claimRecovery (params : ClaimParams) (leaseId capability : JsString)
  | held (handle : LeaseHandle) (operation : HeldOperation)

section
variable (sha256 : JsString → JsString) (reads : ReleaseReads) (store : LeaseStore)

/-- A request with a handle, and the row that it leaves. -/
def HeldOperation.perform (handle : LeaseHandle) : HeldOperation → Except AppError LeaseStore
  | heartbeat recovery =>
    Prod.fst <$> heartbeatManagedReleaseLease sha256 reads store handle recovery
  | recordRollbackRecord payload =>
    Prod.fst <$> recordManagedReleaseRollbackRecord sha256 reads store handle payload
  | beginMutation => Prod.fst <$> beginManagedReleaseMutation sha256 reads store handle
  | abort => abortManagedReleaseLease sha256 reads store handle
  | finalizeSuccess => finalizeManagedReleaseSuccess sha256 reads store handle
  | finalizeCompatibleRecovery accepted =>
    finalizeManagedReleaseCompatibleRecovery sha256 reads store handle accepted
  | finalizeRollback evidence => finalizeManagedReleaseRollback sha256 reads store handle evidence
  | recordRecoveryIntent intent =>
    Prod.fst <$> recordManagedReleaseRecoveryIntent sha256 reads store handle intent
  | markRecoveryRequired stage code =>
    Prod.fst <$> markManagedReleaseRecoveryRequired sha256 reads store handle stage code

/-- A request, with the row that it leaves and the handle of the lease that it opens. -/
def LeaseRequest.perform : LeaseRequest → Except AppError (LeaseStore × Option LeaseHandle)
  | acquire params leaseId capability => do
    let (store, view) ← acquireManagedReleaseLease sha256 reads store params leaseId capability
    .ok (store, some (view.handle capability))
  | claimRecovery params leaseId capability => do
    let (store, view) ← claimManagedReleaseRecovery sha256 reads store params leaseId capability
    .ok (store, some (view.handle capability))
  | held handle operation => do
    let store ← operation.perform sha256 reads store handle
    .ok (store, none)

end

/-- What was first recorded for a release: the payload, and the lease it was recorded under. -/
structure Origin where
  payload : ManagedAzureRollbackPayload
  leaseId : JsString
  fence : Nat
deriving DecidableEq

/-- A row with its history: the handles that were returned, the one of the last acquisition or claim
unless its lease has ended, and what was first recorded for the release that is underway. -/
structure LeaseSystem where
  store : LeaseStore
  returned : List LeaseHandle
  live : Option LeaseHandle
  origin : Option Origin

/-- A request and what its transaction reads. -/
structure LeaseStep where
  reads : ReleaseReads
  request : LeaseRequest

namespace LeaseSystem

def nextLive (s : LeaseSystem) (handle : Option LeaseHandle) : LeaseRequest → Option LeaseHandle
  | .held _ operation => if operation.ends then none else s.live
  | _ => handle

/-- What is recorded after a request that succeeds. -/
def nextOrigin (s : LeaseSystem) : LeaseRequest → Option Origin
  | .acquire _ _ _ => none
  | .claimRecovery _ _ _ => s.origin
  | .held handle (.recordRollbackRecord payload) =>
    s.origin.or (some ⟨payload, handle.leaseId, handle.fence⟩)
  | .held _ operation => if operation.ends then none else s.origin

/-- A step; a request that fails changes nothing. -/
def apply (sha256 : JsString → JsString) (s : LeaseSystem) (step : LeaseStep) : LeaseSystem :=
  match step.request.perform sha256 step.reads s.store with
  | .error _ => s
  | .ok (store, handle) =>
    { store
      returned := handle.toList ++ s.returned
      live := s.nextLive handle step.request
      origin := s.nextOrigin step.request }

/-- A row without a lease, with any history of events. -/
structure Initial (s : LeaseSystem) : Prop where
  lease : s.store.row.lease = none
  fence : s.store.row.releaseLeaseFence ≤ MAX_INT
  returned : s.returned = []
  live : s.live = none
  origin : s.origin = none

end LeaseSystem

/-- `findMany({ orderBy: { createdAt: "desc" }, take: 10 })` over the events of rollback records
(`control-plane-release-lease.ts:334`), events of one time in any order. -/
def ReadsNewest (events newest : List CustomerDeploymentEvent) : Prop :=
  ∃ sorted : List CustomerDeploymentEvent,
    sorted.Perm (events.filter fun event => event.action = ORIGINATING_LEASE_EVENT_ACTION) ∧
    sorted.Pairwise (fun event older => older.createdAt ≤ event.createdAt) ∧
    newest = sorted.take 10

/-- What a step gets from outside: the events as they are, and ids that `randomUUID` makes. -/
structure Admissible (s : LeaseSystem) (step : LeaseStep) : Prop where
  newest : ReadsNewest s.store.events step.reads.newest
  acquired : ∀ params leaseId capability,
    step.request = .acquire params leaseId capability → isUuid leaseId = true
  claimed : ∀ params leaseId capability,
    step.request = .claimRecovery params leaseId capability → isUuid leaseId = true

/-- A record is written at a time that is not after the time of every earlier record for the same
release. -/
def RecordsOutOfOrder (s : LeaseSystem) (step : LeaseStep) : Prop :=
  ∃ handle payload lease, step.request = .held handle (.recordRollbackRecord payload) ∧
    s.store.row.lease = some lease ∧ lease.rollbackRecord = none ∧
    ∃ event ∈ s.store.events, event.action = ORIGINATING_LEASE_EVENT_ACTION ∧
      event.tags = some lease.tags ∧ step.reads.createdAt ≤ event.createdAt

/-! ## What a request does -/

/-- The events of rollback records. -/
def recordings (events : List CustomerDeploymentEvent) : List CustomerDeploymentEvent :=
  events.filter fun event => event.action = ORIGINATING_LEASE_EVENT_ACTION

section
variable {sha256 : JsString → JsString} {reads : ReleaseReads} {store store' : LeaseStore}
  {handle : LeaseHandle}

theorem require_bind_ok {α : Type} {condition : Bool} {code : String} {status : Nat}
    {next : Unit → Except AppError α} {result : α} :
    (require condition code status >>= next) = .ok result ↔
      condition = true ∧ next () = .ok result :=
  invariant_bind_ok

theorem map_ok {α β : Type} {action : Except AppError α} {f : α → β} {result : β} :
    f <$> action = .ok result ↔ ∃ value, action = .ok value ∧ f value = result := by
  cases action with
  | error e => simp [Functor.map, Except.map]
  | ok value => simp [Functor.map, Except.map]

variable {event : CustomerDeploymentEvent} {row : CustomerDeployment}

theorem commit_ok :
    store.commit reads row event = .ok store' ↔
      reads.constraints = .ok () ∧ store' = ⟨row, store.events ++ [event]⟩ := by
  rw [LeaseStore.commit, bind_ok]
  constructor
  · rintro ⟨_, hconstraints, h⟩
    cases h
    exact ⟨hconstraints, rfl⟩
  · rintro ⟨hconstraints, rfl⟩
    exact ⟨(), hconstraints, rfl⟩

structure Names (row : CustomerDeployment) (handle : LeaseHandle) (lease : Lease) : Prop where
  held : row.lease = some lease
  id : lease.id = handle.leaseId
  fence : row.releaseLeaseFence = handle.fence

variable {lease : Lease}

theorem owned_ok {allowExpired : Bool}
    (h : owned sha256 reads row handle allowExpired = .ok lease) : Names row handle lease := by
  rw [owned] at h
  obtain ⟨_, _, h⟩ := bind_ok.1 h
  obtain ⟨_, _, h⟩ := bind_ok.1 h
  split at h
  · cases h
  · next lease' hlease =>
    obtain ⟨hmatches, h⟩ := require_bind_ok.1 h
    obtain ⟨_, h⟩ := require_bind_ok.1 h
    cases h
    simp only [Bool.and_eq_true, decide_eq_true_eq] at hmatches
    exact ⟨hlease, hmatches.1.1, hmatches.2⟩

/-- The lease stays, with its id, its release and its rollback record; none is begun without one. -/
structure Kept (store store' : LeaseStore) (lease lease' : Lease) : Prop where
  held : store'.row.lease = some lease'
  fence : store'.row.releaseLeaseFence = store.row.releaseLeaseFence
  id : lease'.id = lease.id
  tags : lease'.tags = lease.tags
  record : lease'.rollbackRecord = lease.rollbackRecord
  underway : lease.phase.isUnderway = true → lease'.phase.isUnderway = true
  begun : lease'.phase.isUnderway = true →
    lease.phase.isUnderway = true ∨ lease.rollbackRecord.isSome = true
  events : recordings store'.events = recordings store.events

/-- The evidence of a lease stays, unless the lease goes into recovery. -/
def EvidenceKept (lease lease' : Lease) : Prop :=
  lease'.phase ≠ .RECOVERY_REQUIRED →
    lease.phase ≠ .RECOVERY_REQUIRED ∧ lease'.recoveryEvidence = lease.recoveryEvidence

/-- The rollback record of a reserved lease is written. -/
structure Recorded (reads : ReleaseReads) (store store' : LeaseStore)
    (payload : ManagedAzureRollbackPayload) (lease : Lease) : Prop where
  reserved : lease.phase = .RESERVED
  empty : lease.rollbackRecord = none
  held : ∃ provenance, store'.row.lease = some { lease with
    rollbackRecord := some (rollbackEnvelope store.row lease payload lease.id
      store.row.releaseLeaseFence provenance) }
  fence : store'.row.releaseLeaseFence = store.row.releaseLeaseFence
  events : recordings store'.events = recordings store.events ++
    [eventOf reads ORIGINATING_LEASE_EVENT_ACTION store.row.releaseLeaseFence lease]

structure Ended (store store' : LeaseStore) : Prop where
  free : store'.row.lease = none
  fence : store'.row.releaseLeaseFence = store.row.releaseLeaseFence
  events : recordings store'.events = recordings store.events

theorem recordings_append (events : List CustomerDeploymentEvent)
    (h : event.action ≠ ORIGINATING_LEASE_EVENT_ACTION) :
    recordings (events ++ [event]) = recordings events := by
  simp [recordings, h]

theorem EvidenceKept.refl (lease : Lease) : EvidenceKept lease lease := fun h => ⟨h, rfl⟩

theorem Kept.refl (h : store.row.lease = some lease) : Kept store store lease lease :=
  ⟨h, rfl, rfl, rfl, rfl, fun h => h, .inl, rfl⟩

theorem heartbeat_effect {recovery : Bool}
    (h : (HeldOperation.heartbeat recovery).perform sha256 reads store handle = .ok store') :
    ∃ lease lease', Names store.row handle lease ∧ Kept store store' lease lease' ∧
      EvidenceKept lease lease' := by
  rw [HeldOperation.perform, map_ok] at h
  obtain ⟨result, h, rfl⟩ := h
  rw [heartbeatManagedReleaseLease] at h
  obtain ⟨lease, howned, h⟩ := bind_ok.1 h
  obtain ⟨_, _, h⟩ := bind_ok.1 h
  obtain ⟨_, _, h⟩ := bind_ok.1 h
  cases h
  exact ⟨lease, _, owned_ok howned, ⟨rfl, rfl, rfl, rfl, rfl, fun h => h, .inl, rfl⟩,
    fun hphase => ⟨hphase, rfl⟩⟩

theorem recordRollbackRecord_effect {payload : ManagedAzureRollbackPayload}
    (h : (HeldOperation.recordRollbackRecord payload).perform sha256 reads store handle =
      .ok store') :
    ∃ lease, Names store.row handle lease ∧
      ((store' = store ∧ lease.rollbackRecord.isSome = true) ∨
        Recorded reads store store' payload lease) := by
  rw [HeldOperation.perform, map_ok] at h
  obtain ⟨result, h, rfl⟩ := h
  rw [recordManagedReleaseRollbackRecord] at h
  obtain ⟨_, _, h⟩ := bind_ok.1 h
  obtain ⟨lease, howned, h⟩ := bind_ok.1 h
  obtain ⟨proof, _, h⟩ := bind_ok.1 h
  obtain ⟨_, _, h⟩ := bind_ok.1 h
  obtain ⟨hphase, h⟩ := require_bind_ok.1 h
  refine ⟨lease, owned_ok howned, ?_⟩
  split at h
  · next record hrecord =>
    obtain ⟨_, _, h⟩ := bind_ok.1 h
    obtain ⟨_, h⟩ := require_bind_ok.1 h
    cases h
    exact .inl ⟨rfl, by simp [hrecord]⟩
  · next hrecord =>
    obtain ⟨store₁, hcommit, h⟩ := bind_ok.1 h
    cases h
    obtain ⟨_, rfl⟩ := commit_ok.1 hcommit
    exact .inr ⟨by simpa using hphase, hrecord, ⟨_, rfl⟩, rfl, by simp [recordings, eventOf]⟩

theorem beginMutation_effect
    (h : HeldOperation.beginMutation.perform sha256 reads store handle = .ok store') :
    ∃ lease lease', Names store.row handle lease ∧ Kept store store' lease lease' ∧
      EvidenceKept lease lease' := by
  rw [HeldOperation.perform, map_ok] at h
  obtain ⟨result, h, rfl⟩ := h
  rw [beginManagedReleaseMutation] at h
  obtain ⟨lease, howned, h⟩ := bind_ok.1 h
  have hnames := owned_ok howned
  obtain ⟨_, _, h⟩ := bind_ok.1 h
  split at h
  · obtain ⟨_, _, h⟩ := bind_ok.1 h
    obtain ⟨_, _, h⟩ := bind_ok.1 h
    cases h
    exact ⟨lease, lease, hnames, .refl hnames.held, .refl lease⟩
  · obtain ⟨hphase, h⟩ := require_bind_ok.1 h
    obtain ⟨_, h⟩ := require_bind_ok.1 h
    obtain ⟨hrecord, h⟩ := require_bind_ok.1 h
    obtain ⟨_, _, h⟩ := bind_ok.1 h
    obtain ⟨_, _, h⟩ := bind_ok.1 h
    obtain ⟨store₁, hcommit, h⟩ := bind_ok.1 h
    cases h
    obtain ⟨_, rfl⟩ := commit_ok.1 hcommit
    have hreserved : lease.phase ≠ .RECOVERY_REQUIRED := by
      rw [of_decide_eq_true hphase]
      decide
    exact ⟨lease, _, hnames, ⟨rfl, rfl, rfl, rfl, rfl, fun _ => rfl, fun _ => .inr hrecord,
      recordings_append _ (by simp [eventOf, ORIGINATING_LEASE_EVENT_ACTION])⟩,
      fun _ => ⟨hreserved, rfl⟩⟩

theorem abort_effect (h : HeldOperation.abort.perform sha256 reads store handle = .ok store') :
    ∃ lease, Names store.row handle lease ∧ lease.phase = .RESERVED ∧ Ended store store' := by
  rw [HeldOperation.perform, abortManagedReleaseLease] at h
  obtain ⟨lease, howned, h⟩ := bind_ok.1 h
  obtain ⟨_, _, h⟩ := bind_ok.1 h
  obtain ⟨hphase, h⟩ := require_bind_ok.1 h
  obtain ⟨_, rfl⟩ := commit_ok.1 h
  exact ⟨lease, owned_ok howned, by simpa using hphase, rfl, rfl,
    recordings_append _ (by simp [eventOf, ORIGINATING_LEASE_EVENT_ACTION])⟩

variable {operation : HeldOperation}

/-- **Finalising** ends the lease. -/
theorem finalize_effect (hfinal : operation.finalizes = true)
    (h : operation.perform sha256 reads store handle = .ok store') :
    ∃ lease, Names store.row handle lease ∧ Ended store store' := by
  cases operation with
  | finalizeSuccess =>
    rw [HeldOperation.perform, finalizeManagedReleaseSuccess] at h
    obtain ⟨lease, howned, h⟩ := bind_ok.1 h
    obtain ⟨_, _, h⟩ := bind_ok.1 h
    obtain ⟨_, h⟩ := require_bind_ok.1 h
    obtain ⟨_, _, h⟩ := bind_ok.1 h
    obtain ⟨_, h⟩ := require_bind_ok.1 h
    obtain ⟨_, rfl⟩ := commit_ok.1 h
    exact ⟨lease, owned_ok howned, rfl, rfl,
      recordings_append _ (by simp [eventOf, ORIGINATING_LEASE_EVENT_ACTION])⟩
  | finalizeCompatibleRecovery accepted =>
    rw [HeldOperation.perform, finalizeManagedReleaseCompatibleRecovery] at h
    obtain ⟨lease, howned, h⟩ := bind_ok.1 h
    obtain ⟨_, _, h⟩ := bind_ok.1 h
    obtain ⟨_, h⟩ := require_bind_ok.1 h
    obtain ⟨_, _, h⟩ := bind_ok.1 h
    split at h
    · cases h
    · obtain ⟨_, _, h⟩ := bind_ok.1 h
      obtain ⟨_, h⟩ := require_bind_ok.1 h
      obtain ⟨_, rfl⟩ := commit_ok.1 h
      exact ⟨lease, owned_ok howned, rfl, rfl,
        recordings_append _ (by simp [ORIGINATING_LEASE_EVENT_ACTION])⟩
  | finalizeRollback evidence =>
    rw [HeldOperation.perform, finalizeManagedReleaseRollback] at h
    obtain ⟨lease, howned, h⟩ := bind_ok.1 h
    obtain ⟨_, _, h⟩ := bind_ok.1 h
    obtain ⟨_, h⟩ := require_bind_ok.1 h
    obtain ⟨_, _, h⟩ := bind_ok.1 h
    obtain ⟨_, h⟩ := require_bind_ok.1 h
    obtain ⟨_, _, h⟩ := bind_ok.1 h
    obtain ⟨_, rfl⟩ := commit_ok.1 h
    exact ⟨lease, owned_ok howned, rfl, rfl,
      recordings_append _ (by simp [eventOf, ORIGINATING_LEASE_EVENT_ACTION])⟩
  | _ => simp [HeldOperation.finalizes] at hfinal

theorem recordRecoveryIntent_effect {intent : ManagedReleaseRecoveryIntent}
    (h : (HeldOperation.recordRecoveryIntent intent).perform sha256 reads store handle =
      .ok store') :
    ∃ lease lease', Names store.row handle lease ∧ Kept store store' lease lease' ∧
      EvidenceKept lease lease' := by
  rw [HeldOperation.perform, map_ok] at h
  obtain ⟨result, h, rfl⟩ := h
  rw [recordManagedReleaseRecoveryIntent] at h
  obtain ⟨lease, howned, h⟩ := bind_ok.1 h
  obtain ⟨_, _, h⟩ := bind_ok.1 h
  obtain ⟨hunderway, h⟩ := require_bind_ok.1 h
  obtain ⟨_, _, h⟩ := bind_ok.1 h
  obtain ⟨_, h⟩ := require_bind_ok.1 h
  obtain ⟨_, _, h⟩ := bind_ok.1 h
  obtain ⟨_, _, h⟩ := bind_ok.1 h
  obtain ⟨_, _, h⟩ := bind_ok.1 h
  obtain ⟨recorded, _, h⟩ := bind_ok.1 h
  obtain ⟨store₁, hcommit, h⟩ := bind_ok.1 h
  cases h
  obtain ⟨_, rfl⟩ := commit_ok.1 hcommit
  have hrecord : lease.rollbackRecord.isSome = true := (Bool.and_eq_true _ _ ▸ hunderway).2
  exact ⟨lease, _, owned_ok howned, ⟨rfl, rfl, rfl, rfl, rfl, fun _ => rfl, fun _ => .inr hrecord,
    recordings_append _ (by simp [eventOf, ORIGINATING_LEASE_EVENT_ACTION])⟩,
    fun hphase => absurd rfl hphase⟩

theorem markRecoveryRequired_effect {stage : RecoveryStage} {code : JsString}
    (h : (HeldOperation.markRecoveryRequired stage code).perform sha256 reads store handle =
      .ok store') :
    ∃ lease lease', Names store.row handle lease ∧ Kept store store' lease lease' ∧
      EvidenceKept lease lease' := by
  rw [HeldOperation.perform, map_ok] at h
  obtain ⟨result, h, rfl⟩ := h
  rw [markManagedReleaseRecoveryRequired] at h
  obtain ⟨_, h⟩ := require_bind_ok.1 h
  obtain ⟨lease, howned, h⟩ := bind_ok.1 h
  obtain ⟨_, _, h⟩ := bind_ok.1 h
  obtain ⟨hrecord, h⟩ := require_bind_ok.1 h
  obtain ⟨_, _, h⟩ := bind_ok.1 h
  obtain ⟨_, _, h⟩ := bind_ok.1 h
  obtain ⟨store₁, hcommit, h⟩ := bind_ok.1 h
  cases h
  obtain ⟨_, rfl⟩ := commit_ok.1 hcommit
  exact ⟨lease, _, owned_ok howned, ⟨rfl, rfl, rfl, rfl, rfl, fun _ => rfl, fun _ => .inr hrecord,
    recordings_append _ (by simp [eventOf, ORIGINATING_LEASE_EVENT_ACTION])⟩,
    fun hphase => absurd rfl hphase⟩

/-- **A request with a handle** names the lease of the row, and keeps it, writes its record or ends
it. -/
theorem held_effect (h : operation.perform sha256 reads store handle = .ok store') :
    ∃ lease, Names store.row handle lease ∧
      ((operation.ends = false ∧
          (∀ payload, operation = .recordRollbackRecord payload →
            lease.rollbackRecord.isSome = true) ∧
          ∃ lease', Kept store store' lease lease' ∧ EvidenceKept lease lease') ∨
        (∃ payload, operation = .recordRollbackRecord payload ∧
          Recorded reads store store' payload lease) ∨
        (operation.ends = true ∧ Ended store store' ∧
          (lease.phase = .RESERVED ∨ operation.finalizes = true))) := by
  cases operation with
  | heartbeat recovery =>
    obtain ⟨lease, lease', hnames, hkept⟩ := heartbeat_effect h
    exact ⟨lease, hnames, .inl ⟨rfl, by simp, lease', hkept⟩⟩
  | recordRollbackRecord payload =>
    obtain ⟨lease, hnames, ⟨rfl, hrecord⟩ | hrecorded⟩ := recordRollbackRecord_effect h
    · exact ⟨lease, hnames, .inl ⟨rfl, fun _ _ => hrecord, lease, .refl hnames.held, .refl lease⟩⟩
    · exact ⟨lease, hnames, .inr (.inl ⟨payload, rfl, hrecorded⟩)⟩
  | beginMutation =>
    obtain ⟨lease, lease', hnames, hkept⟩ := beginMutation_effect h
    exact ⟨lease, hnames, .inl ⟨rfl, by simp, lease', hkept⟩⟩
  | abort =>
    obtain ⟨lease, hnames, hreserved, hended⟩ := abort_effect h
    exact ⟨lease, hnames, .inr (.inr ⟨rfl, hended, .inl hreserved⟩)⟩
  | recordRecoveryIntent intent =>
    obtain ⟨lease, lease', hnames, hkept⟩ := recordRecoveryIntent_effect h
    exact ⟨lease, hnames, .inl ⟨rfl, by simp, lease', hkept⟩⟩
  | markRecoveryRequired stage code =>
    obtain ⟨lease, lease', hnames, hkept⟩ := markRecoveryRequired_effect h
    exact ⟨lease, hnames, .inl ⟨rfl, by simp, lease', hkept⟩⟩
  | finalizeSuccess | finalizeCompatibleRecovery _ | finalizeRollback _ =>
    obtain ⟨lease, hnames, hended⟩ := finalize_effect rfl h
    exact ⟨lease, hnames, .inr (.inr ⟨rfl, hended, .inr rfl⟩)⟩

/-- A lease is opened under the next fence. -/
structure Opened (store store' : LeaseStore) (leaseId : JsString) (opened : LeaseHandle)
    (lease' : Lease) : Prop where
  held : store'.row.lease = some lease'
  id : lease'.id = leaseId
  next : store'.row.releaseLeaseFence = store.row.releaseLeaseFence + 1
  bounded : store.row.releaseLeaseFence < MAX_INT
  handle : opened.fence = store'.row.releaseLeaseFence
  events : recordings store'.events = recordings store.events

variable {opened : Option LeaseHandle} {leaseId capability : JsString}

theorem acquire_effect {params : AcquireParams}
    (h : (LeaseRequest.acquire params leaseId capability).perform sha256 reads store =
      .ok (store', opened)) :
    ∃ handle lease', opened = some handle ∧ Opened store store' leaseId handle lease' ∧
      lease'.phase = .RESERVED ∧ lease'.rollbackRecord = none ∧ lease'.recoveryEvidence = none ∧
      ∀ lease, store.row.lease = some lease → lease.phase = .RESERVED := by
  rw [LeaseRequest.perform] at h
  obtain ⟨⟨store₁, view₁⟩, hacquire, h⟩ := bind_ok.1 h
  cases h
  rw [acquireManagedReleaseLease] at hacquire
  obtain ⟨_, hacquire⟩ := require_bind_ok.1 hacquire
  obtain ⟨_, _, hacquire⟩ := bind_ok.1 hacquire
  obtain ⟨_, _, hacquire⟩ := bind_ok.1 hacquire
  obtain ⟨_, hacquire⟩ := require_bind_ok.1 hacquire
  obtain ⟨hphase, hacquire⟩ := require_bind_ok.1 hacquire
  obtain ⟨_, hacquire⟩ := require_bind_ok.1 hacquire
  obtain ⟨hfence, hacquire⟩ := require_bind_ok.1 hacquire
  obtain ⟨store₂, hcommit, hacquire⟩ := bind_ok.1 hacquire
  cases hacquire
  obtain ⟨_, rfl⟩ := commit_ok.1 hcommit
  refine ⟨_, _, rfl, ⟨rfl, rfl, rfl, by simpa using hfence, rfl, recordings_append _ ?_⟩, rfl, rfl,
    rfl, fun lease hlease => ?_⟩
  · cases store.row.lease <;> simp [eventOf, ORIGINATING_LEASE_EVENT_ACTION]
  · simpa [hlease] using hphase

theorem claim_effect {params : ClaimParams}
    {opened : Option LeaseHandle}
    (h : (LeaseRequest.claimRecovery params leaseId capability).perform sha256 reads store =
      .ok (store', opened)) :
    ∃ handle lease lease' envelope, opened = some handle ∧
      Opened store store' leaseId handle lease' ∧
      store.row.lease = some lease ∧ lease.expiresAt ≤ reads.databaseNow ∧
      originatingRollbackEnvelope reads store.row lease = .ok envelope ∧
      lease'.phase = .RECOVERY_REQUIRED ∧ lease'.tags = lease.tags ∧
      lease'.rollbackRecord = some (rollbackEnvelope store.row lease envelope.payload
        envelope.leaseId envelope.fence envelope.provenance) := by
  rw [LeaseRequest.perform] at h
  obtain ⟨⟨store₁, view₁⟩, hclaim, h⟩ := bind_ok.1 h
  cases h
  rw [claimManagedReleaseRecovery] at hclaim
  obtain ⟨hinput, hclaim⟩ := require_bind_ok.1 hclaim
  obtain ⟨_, _, hclaim⟩ := bind_ok.1 hclaim
  split at hclaim
  · cases hclaim
  next lease hlease =>
  obtain ⟨_, _, hclaim⟩ := bind_ok.1 hclaim
  obtain ⟨hexpected, hclaim⟩ := require_bind_ok.1 hclaim
  obtain ⟨hready, hclaim⟩ := require_bind_ok.1 hclaim
  obtain ⟨envelope, henvelope, hclaim⟩ := bind_ok.1 hclaim
  obtain ⟨store₂, hcommit, hclaim⟩ := bind_ok.1 hclaim
  cases hclaim
  obtain ⟨_, rfl⟩ := commit_ok.1 hcommit
  simp only [Bool.and_eq_true, decide_eq_true_eq] at hinput hexpected hready
  exact ⟨_, lease, _, envelope, rfl,
    ⟨rfl, rfl, rfl, by omega, rfl,
      recordings_append _ (by simp [eventOf, ORIGINATING_LEASE_EVENT_ACTION])⟩,
    hlease, hready.1.2, henvelope, rfl, rfl, rfl⟩

/-- What a recovery takes for the origin: the record's own, or an event of a record for the release.
The event comes before every other of the newest that names a lease. -/
theorem originatingRollbackEnvelope_ok {envelope : RollbackEnvelope}
    (h : originatingRollbackEnvelope reads row lease = .ok envelope) :
    ∃ record, lease.rollbackRecord = some record ∧ envelope.payload = record.payload ∧
      ((envelope.leaseId = record.leaseId ∧ envelope.fence = record.fence) ∨
        reads.newest.findSome? (originatingLeaseFromEvent row lease) =
          some (envelope.leaseId, envelope.fence)) := by
  rw [originatingRollbackEnvelope] at h
  obtain ⟨record, hstored, h⟩ := bind_ok.1 h
  have hrecord : lease.rollbackRecord = some record := by
    rw [storedRollbackEnvelope] at hstored
    split at hstored
    · cases hstored
    · next record' hsome =>
      obtain ⟨_, hstored⟩ := require_bind_ok.1 hstored
      obtain ⟨_, hstored⟩ := require_bind_ok.1 hstored
      obtain ⟨_, _, hstored⟩ := bind_ok.1 hstored
      cases hstored
      exact hsome
  refine ⟨record, hrecord, ?_⟩
  split at h
  · cases h
    exact ⟨rfl, .inl ⟨rfl, rfl⟩⟩
  · split at h
    · next leaseId fence hfind =>
      cases h
      exact ⟨rfl, .inr hfind⟩
    · cases h
      exact ⟨rfl, .inl ⟨rfl, rfl⟩⟩

end

/-- **The newest event that tells something** is found first: if whatever tells otherwise is older
than `event`, then what is found is what `event` tells. -/
theorem findSome?_newest {α : Type} {events newest : List CustomerDeploymentEvent}
    {tells : CustomerDeploymentEvent → Option α} {a b : α}
    (hnewest : ReadsNewest events newest) (hmem : event ∈ recordings events)
    (htells : tells event = some a)
    (holder : ∀ other ∈ recordings events, ∀ c, tells other = some c →
      c = a ∨ other.createdAt < event.createdAt)
    (hfound : newest.findSome? tells = some b) : b = a := by
  obtain ⟨sorted, hperm, hdesc, rfl⟩ := hnewest
  obtain ⟨before, other, after, hsplit, hother, hnone⟩ := findSome?_eq_some_iff.1 hfound
  have hsorted : sorted = before ++ other :: (after ++ sorted.drop 10) := calc
    sorted = sorted.take 10 ++ sorted.drop 10 := (take_append_drop 10 sorted).symm
    _ = before ++ other :: (after ++ sorted.drop 10) := by
      rw [hsplit, append_assoc, cons_append]
  have hin : other ∈ recordings events := by
    refine hperm.mem_iff.1 ?_
    rw [hsorted]
    simp
  refine (holder other hin b hother).resolve_right fun hlt => ?_
  have hevent : event ∈ sorted := hperm.mem_iff.2 hmem
  rw [hsorted] at hevent hdesc
  rcases mem_append.1 hevent with hbefore | hafter
  · rw [hnone event hbefore] at htells
    cases htells
  · rcases mem_cons.1 hafter with rfl | hafter
    · omega
    · have hle := (pairwise_cons.1 (pairwise_append.1 hdesc).2.1).1 event hafter
      omega

/-! ## The invariant -/

namespace LeaseSystem

/-- The record is what was first recorded, and of the events of records for the release the one
under its lease is the newest. -/
structure Documented (s : LeaseSystem) (lease : Lease) (record : RollbackEnvelope) : Prop where
  origin : s.origin = some ⟨record.payload, record.leaseId, record.fence⟩
  uuid : isUuid record.leaseId = true
  pos : 1 ≤ record.fence
  le : record.fence ≤ s.store.row.releaseLeaseFence
  newest : ∃ event ∈ recordings s.store.events, event.leaseId = some record.leaseId ∧
    event.fence = some record.fence ∧ event.tags = some lease.tags ∧
    ∀ other ∈ recordings s.store.events, other.tags = some lease.tags →
      (other.leaseId = some record.leaseId ∧ other.fence = some record.fence) ∨
        other.createdAt < event.createdAt

/-- What holds in every state. -/
structure Sound (s : LeaseSystem) : Prop where
  fence_le : s.store.row.releaseLeaseFence ≤ MAX_INT
  returned : ∀ handle ∈ s.returned, handle.fence ≤ s.store.row.releaseLeaseFence ∧
    (handle.fence = s.store.row.releaseLeaseFence → s.live = some handle ∨ s.store.row.lease = none)
  opened : ∀ lease, s.store.row.lease = some lease →
    isUuid lease.id = true ∧ 1 ≤ s.store.row.releaseLeaseFence
  underway : ∀ lease, s.store.row.lease = some lease → lease.phase.isUnderway = true →
    lease.rollbackRecord.isSome = true
  unrecorded : ∀ lease, s.store.row.lease = some lease → lease.rollbackRecord = none →
    s.origin = none
  documented : ∀ lease record, s.store.row.lease = some lease →
    lease.rollbackRecord = some record → s.Documented lease record

variable {sha256 : JsString → JsString} {s : LeaseSystem} {step : LeaseStep}

theorem Initial.sound (h : s.Initial) : s.Sound where
  fence_le := h.fence
  returned := by simp [h.returned]
  opened := by simp [h.lease]
  underway := by simp [h.lease]
  unrecorded := by simp [h.lease]
  documented := by simp [h.lease]

theorem Sound.eq_live {handle : LeaseHandle} {lease : Lease} (hs : s.Sound)
    (hmem : handle ∈ s.returned) (hnames : Names s.store.row handle lease) :
    s.live = some handle := by
  refine ((hs.returned handle hmem).2 hnames.fence.symm).resolve_right fun hnone => ?_
  rw [hnames.held] at hnone
  cases hnone

theorem Documented.mono {s' : LeaseSystem} {lease lease' : Lease} {record : RollbackEnvelope}
    (h : s.Documented lease record) (horigin : s'.origin = s.origin)
    (hfence : s.store.row.releaseLeaseFence ≤ s'.store.row.releaseLeaseFence)
    (hevents : recordings s'.store.events = recordings s.store.events)
    (htags : lease'.tags = lease.tags) : s'.Documented lease' record where
  origin := horigin.trans h.origin
  uuid := h.uuid
  pos := h.pos
  le := h.le.trans hfence
  newest := by
    rw [hevents, htags]
    exact h.newest

variable {store' : LeaseStore} {lease' : Lease}

/-- **A kept lease** keeps the invariant. -/
theorem Sound.kept (hs : s.Sound) (hlease : s.store.row.lease = some lease)
    (hkept : Kept s.store store' lease lease') : Sound { s with store := store' } where
  fence_le := hkept.fence ▸ hs.fence_le
  returned handle hmem := by
    have hold := hs.returned handle hmem
    simp only [hkept.fence]
    refine ⟨hold.1, fun hfence => .inl ((hold.2 hfence).resolve_right fun hnone => ?_)⟩
    rw [hlease] at hnone
    cases hnone
  opened := by
    rintro _ hheld
    cases hkept.held.symm.trans hheld
    simp only [hkept.id, hkept.fence]
    exact hs.opened lease hlease
  underway := by
    rintro _ hheld hunderway
    cases hkept.held.symm.trans hheld
    rw [hkept.record]
    exact (hkept.begun hunderway).elim (hs.underway lease hlease) id
  unrecorded := by
    rintro _ hheld hnone
    cases hkept.held.symm.trans hheld
    exact hs.unrecorded lease hlease (hkept.record ▸ hnone)
  documented := by
    rintro _ record hheld hrecord
    cases hkept.held.symm.trans hheld
    exact (hs.documented lease record hlease (hkept.record ▸ hrecord)).mono rfl hkept.fence.ge
      hkept.events hkept.tags

/-- **An ended lease** leaves nothing to keep. -/
theorem Sound.ended {store' : LeaseStore} (hs : s.Sound) (hended : Ended s.store store')
    (live : Option LeaseHandle) (origin : Option Origin) :
    Sound { store := store', returned := s.returned, live, origin } where
  fence_le := hended.fence ▸ hs.fence_le
  returned handle hmem := ⟨hended.fence ▸ (hs.returned handle hmem).1, fun _ => .inr hended.free⟩
  opened := by simp [hended.free]
  underway := by simp [hended.free]
  unrecorded := by simp [hended.free]
  documented := by simp [hended.free]

variable {reads : ReleaseReads}

/-- **A written record** is documented by its own event, if that is newer than those before. -/
theorem Sound.recorded
    {payload : ManagedAzureRollbackPayload} {origin : Origin} (hs : s.Sound)
    (hlease : s.store.row.lease = some lease)
    (hrecorded : Recorded reads s.store store' payload lease)
    (hordered : ∀ event ∈ recordings s.store.events, event.tags = some lease.tags →
      event.createdAt < reads.createdAt)
    (horigin : origin = ⟨payload, lease.id, s.store.row.releaseLeaseFence⟩) :
    Sound { s with store := store', origin := some origin } := by
  obtain ⟨provenance, hheld⟩ := hrecorded.held
  refine ⟨hrecorded.fence ▸ hs.fence_le, fun handle hmem => ?_, ?_, ?_, ?_, ?_⟩
  · have hold := hs.returned handle hmem
    simp only [hrecorded.fence]
    refine ⟨hold.1, fun hfence => .inl ((hold.2 hfence).resolve_right fun hnone => ?_)⟩
    rw [hlease] at hnone
    cases hnone
  · rintro _ hsome
    cases hheld.symm.trans hsome
    simp only [hrecorded.fence]
    exact hs.opened lease hlease
  · rintro _ hsome _
    cases hheld.symm.trans hsome
    rfl
  · rintro _ hsome hnone
    cases hheld.symm.trans hsome
    cases hnone
  · rintro _ record hsome hrecord
    cases hheld.symm.trans hsome
    cases hrecord
    obtain ⟨huuid, hpos⟩ := hs.opened lease hlease
    refine ⟨by rw [horigin]; rfl, huuid, hpos, hrecorded.fence.ge, ?_⟩
    refine ⟨eventOf reads ORIGINATING_LEASE_EVENT_ACTION s.store.row.releaseLeaseFence lease,
      by simp [hrecorded.events], rfl, rfl, rfl, fun other hmem htags => ?_⟩
    rcases mem_append.1 (hrecorded.events ▸ hmem) with hbefore | hnew
    · exact .inr (hordered other hbefore htags)
    · rw [mem_singleton.1 hnew]
      exact .inl ⟨rfl, rfl⟩

section
variable {leaseId : JsString} {opened : LeaseHandle} (hs : s.Sound)
include hs

theorem Sound.returned_opened (hopened : Opened s.store store' leaseId opened lease') :
    ∀ handle ∈ opened :: s.returned, handle.fence ≤ store'.row.releaseLeaseFence ∧
      (handle.fence = store'.row.releaseLeaseFence →
        some opened = some handle ∨ store'.row.lease = none) := by
  intro handle hmem
  rcases mem_cons.1 hmem with rfl | hmem
  · exact ⟨hopened.handle.le, fun _ => .inl rfl⟩
  · have hold := (hs.returned handle hmem).1
    have hnext := hopened.next
    exact ⟨by omega, fun hfence => by omega⟩

/-- **An acquired lease** starts without a record. -/
theorem Sound.acquired (huuid : isUuid leaseId = true)
    (hopened : Opened s.store store' leaseId opened lease')
    (hphase : lease'.phase = .RESERVED) (hrecord : lease'.rollbackRecord = none) :
    Sound { store := store', returned := opened :: s.returned, live := some opened,
            origin := none } where
  fence_le := by
    have hnext := hopened.next
    have hbounded := hopened.bounded
    simp only
    omega
  returned := hs.returned_opened hopened
  opened := by
    rintro _ hheld
    cases hopened.held.symm.trans hheld
    exact ⟨hopened.id ▸ huuid, hopened.next ▸ Nat.le_add_left 1 _⟩
  underway := by
    rintro _ hheld hunderway
    cases hopened.held.symm.trans hheld
    rw [hphase] at hunderway
    cases hunderway
  unrecorded := by
    rintro _ _ _
    rfl
  documented := by
    rintro _ record hheld hsome
    cases hopened.held.symm.trans hheld
    rw [hrecord] at hsome
    cases hsome

end

variable {record envelope : RollbackEnvelope}

/-- **A claim finds the documented lease**: whatever event it reads for the release, it is that of
the record or an older one than it. -/
theorem Documented.origin_of_claim
    (hdoc : s.Documented lease record) (hrecord : lease.rollbackRecord = some record)
    (hnewest : ReadsNewest s.store.events reads.newest)
    (henvelope : originatingRollbackEnvelope reads s.store.row lease = .ok envelope) :
    envelope.payload = record.payload ∧ envelope.leaseId = record.leaseId ∧
      envelope.fence = record.fence := by
  obtain ⟨record', hrecord', hpayload, hsame⟩ := originatingRollbackEnvelope_ok henvelope
  cases hrecord.symm.trans hrecord'
  refine ⟨hpayload, ?_⟩
  rcases hsame with hsame | hfound
  · exact hsame
  obtain ⟨event, hmem, hid, hfence, htags, holder⟩ := hdoc.newest
  have hevent : originatingLeaseFromEvent s.store.row lease event =
      some (record.leaseId, record.fence) := by
    rw [originatingLeaseFromEvent, hid, hfence]
    simp [htags, hdoc.uuid, hdoc.pos, hdoc.le]
  have hfirst := findSome?_newest hnewest hmem hevent (fun other hother named hnamed => ?_) hfound
  · exact Prod.mk.inj hfirst
  · rw [originatingLeaseFromEvent] at hnamed
    split at hnamed
    · next leaseId fence hleaseId hfence' =>
      split at hnamed
      · next hnames =>
        cases hnamed
        rcases holder other hother hnames.1 with ⟨hid', hf'⟩ | hlt
        · rw [hleaseId] at hid'
          rw [hfence'] at hf'
          cases hid'
          cases hf'
          exact .inl rfl
        · exact .inr hlt
      · cases hnamed
    · cases hnamed

/-- **A claimed lease** goes on with the documented record. -/
theorem Sound.claimed {store' : LeaseStore} {leaseId : JsString}
    {opened : LeaseHandle} {lease lease' : Lease} (hs : s.Sound) (huuid : isUuid leaseId = true)
    (hopened : Opened s.store store' leaseId opened lease')
    (hlease : s.store.row.lease = some lease) (hrecord : lease.rollbackRecord = some record)
    (hsame : envelope.payload = record.payload ∧ envelope.leaseId = record.leaseId ∧
      envelope.fence = record.fence)
    (htags : lease'.tags = lease.tags)
    (hrecord' : lease'.rollbackRecord = some (rollbackEnvelope s.store.row lease envelope.payload
      envelope.leaseId envelope.fence envelope.provenance)) :
    Sound { store := store', returned := opened :: s.returned, live := some opened,
            origin := s.origin } where
  fence_le := by
    have hnext := hopened.next
    have hbounded := hopened.bounded
    simp only
    omega
  returned := hs.returned_opened hopened
  opened := by
    rintro _ hheld
    cases hopened.held.symm.trans hheld
    exact ⟨hopened.id ▸ huuid, hopened.next ▸ Nat.le_add_left 1 _⟩
  underway := by
    rintro _ hheld _
    cases hopened.held.symm.trans hheld
    simp [hrecord']
  unrecorded := by
    rintro _ hheld hnone
    cases hopened.held.symm.trans hheld
    rw [hrecord'] at hnone
    cases hnone
  documented := by
    rintro _ record' hheld hsome
    cases hopened.held.symm.trans hheld
    rw [hrecord'] at hsome
    cases hsome
    have hdoc : Documented ⟨store', opened :: s.returned, some opened, s.origin⟩ lease' record :=
      (hs.documented lease record hlease hrecord).mono rfl (by simp [hopened.next]) hopened.events
        htags
    refine ⟨?_, ?_, ?_, ?_, ?_⟩
    · rw [hdoc.origin]
      simp [rollbackEnvelope, hsame]
    · simpa [rollbackEnvelope, hsame] using hdoc.uuid
    · simpa [rollbackEnvelope, hsame] using hdoc.pos
    · simpa [rollbackEnvelope, hsame] using hdoc.le
    · simpa [rollbackEnvelope, hsame] using hdoc.newest

theorem apply_error {e : AppError} (h : step.request.perform sha256 step.reads s.store = .error e) :
    s.apply sha256 step = s := by
  simp [apply, h]

theorem apply_ok {handle : Option LeaseHandle}
    (h : step.request.perform sha256 step.reads s.store = .ok (store', handle)) :
    s.apply sha256 step =
      { store := store'
        returned := handle.toList ++ s.returned
        live := s.nextLive handle step.request
        origin := s.nextOrigin step.request } := by
  simp [apply, h]

theorem perform_held {handle : LeaseHandle}
    (h : (LeaseRequest.held handle operation).perform sha256 reads s.store = .ok (store', opened)) :
    opened = none ∧ operation.perform sha256 reads s.store handle = .ok store' := by
  rw [LeaseRequest.perform] at h
  obtain ⟨store₁, hperform, h⟩ := bind_ok.1 h
  cases h
  exact ⟨rfl, hperform⟩

/-- A request that keeps the lease keeps what is recorded. -/
theorem Sound.nextOrigin_kept {handle : LeaseHandle}
    (hs : s.Sound) (hnames : Names s.store.row handle lease) (hends : operation.ends = false)
    (hagain : ∀ payload, operation = .recordRollbackRecord payload →
      lease.rollbackRecord.isSome = true) :
    s.nextOrigin (.held handle operation) = s.origin := by
  cases operation with
  | recordRollbackRecord payload =>
    obtain ⟨record, hrecord⟩ := Option.isSome_iff_exists.1 (hagain payload rfl)
    have hsome := (hs.documented lease record hnames.held hrecord).origin
    simp [nextOrigin, hsome]
  | _ => simp_all [nextOrigin]

/-- **A step keeps the invariant** unless it writes a record out of order. -/
theorem Sound.apply (hs : s.Sound) (hadm : Admissible s step) (hgood : ¬ RecordsOutOfOrder s step) :
    (s.apply sha256 step).Sound := by
  cases hperform : step.request.perform sha256 step.reads s.store with
  | error e =>
    rw [apply_error hperform]
    exact hs
  | ok outcome =>
    obtain ⟨store', opened⟩ := outcome
    rw [apply_ok hperform]
    cases hrequest : step.request with
    | acquire params leaseId capability =>
      rw [hrequest] at hperform
      obtain ⟨handle, lease', rfl, hopened, hphase, hrecord, _⟩ := acquire_effect hperform
      exact hs.acquired (hadm.acquired _ _ _ hrequest) hopened hphase hrecord
    | claimRecovery params leaseId capability =>
      rw [hrequest] at hperform
      obtain ⟨handle, lease, lease', envelope, rfl, hopened, hlease, _, henvelope, _, htags,
        hrecord'⟩ := claim_effect hperform
      obtain ⟨record, hrecord, _⟩ := originatingRollbackEnvelope_ok henvelope
      have hsame := (hs.documented lease record hlease hrecord).origin_of_claim hrecord hadm.newest
        henvelope
      exact hs.claimed (hadm.claimed _ _ _ hrequest) hopened hlease hrecord hsame htags hrecord'
    | held handle operation =>
      rw [hrequest] at hperform
      obtain ⟨rfl, hheld⟩ := perform_held hperform
      obtain ⟨lease, hnames, ⟨hends, hagain, lease', hkept, _⟩ | ⟨payload, rfl, hrecorded⟩ |
        ⟨_, hended, _⟩⟩ := held_effect hheld
      · have hlive : s.nextLive none (.held handle operation) = s.live := by
          simp [nextLive, hends]
        have horigin := hs.nextOrigin_kept hnames hends hagain
        rw [hlive, horigin]
        exact hs.kept hnames.held hkept
      · have hnone := hs.unrecorded lease hnames.held hrecorded.empty
        have horigin : s.nextOrigin (.held handle (.recordRollbackRecord payload)) =
            some ⟨payload, handle.leaseId, handle.fence⟩ := by
          simp [nextOrigin, hnone]
        rw [horigin]
        refine hs.recorded hnames.held hrecorded (fun event hmem htags => ?_)
          (by rw [hnames.id, hnames.fence])
        obtain ⟨hevent, haction⟩ := mem_filter.1 hmem
        by_contra hle
        exact hgood ⟨handle, payload, lease, hrequest, hnames.held, hrecorded.empty, event, hevent,
          by simpa using haction, htags, by omega⟩
      · exact hs.ended hended _ _

end LeaseSystem

/-! ## Safety -/

def LeaseRequest.opens : LeaseRequest → Bool
  | held _ _ => false
  | _ => true

/-- **What is safe about a step.** The fence grows by one with every lease that is opened and only
then; a handle of an earlier lease is rejected; a release that is underway has the record that was
first recorded; and its lease goes on under its id and fence, or under those of a claim after it has
expired, until it is finalised. -/
structure LeaseSafe (sha256 : JsString → JsString) (s : LeaseSystem) (step : LeaseStep) : Prop where
  grows : ∀ store opened, step.request.perform sha256 step.reads s.store = .ok (store, opened) →
    (s.apply sha256 step).store.row.releaseLeaseFence =
      s.store.row.releaseLeaseFence + if step.request.opens then 1 else 0
  bounded : (s.apply sha256 step).store.row.releaseLeaseFence ≤ MAX_INT
  stale : ∀ handle operation, step.request = .held handle operation → handle ∈ s.returned →
    s.live ≠ some handle →
    (∃ e, step.request.perform sha256 step.reads s.store = .error e) ∧ s.apply sha256 step = s
  recorded : ∀ lease, (s.apply sha256 step).store.row.lease = some lease →
    lease.phase.isUnderway = true → ∃ record, lease.rollbackRecord = some record ∧
      (s.apply sha256 step).origin = some ⟨record.payload, record.leaseId, record.fence⟩
  goesOn : ∀ lease, s.store.row.lease = some lease → lease.phase.isUnderway = true →
    (∃ lease', (s.apply sha256 step).store.row.lease = some lease' ∧
      lease'.phase.isUnderway = true ∧ (s.apply sha256 step).origin = s.origin ∧
      ((lease'.id = lease.id ∧ (s.apply sha256 step).store.row.releaseLeaseFence =
          s.store.row.releaseLeaseFence) ∨
        ((∃ params leaseId capability, step.request = .claimRecovery params leaseId capability) ∧
          lease.expiresAt ≤ step.reads.databaseNow))) ∨
    ((s.apply sha256 step).store.row.lease = none ∧
      ∃ handle operation, step.request = .held handle operation ∧ operation.finalizes = true)

namespace LeaseSystem

variable {sha256 : JsString → JsString} {s : LeaseSystem} {step : LeaseStep}

theorem Sound.goesOn (hs : s.Sound) (hlease : s.store.row.lease = some lease)
    (hunderway : lease.phase.isUnderway = true) :
    (∃ lease', (s.apply sha256 step).store.row.lease = some lease' ∧
      lease'.phase.isUnderway = true ∧ (s.apply sha256 step).origin = s.origin ∧
      ((lease'.id = lease.id ∧ (s.apply sha256 step).store.row.releaseLeaseFence =
          s.store.row.releaseLeaseFence) ∨
        ((∃ params leaseId capability, step.request = .claimRecovery params leaseId capability) ∧
          lease.expiresAt ≤ step.reads.databaseNow))) ∨
    ((s.apply sha256 step).store.row.lease = none ∧
      ∃ handle operation, step.request = .held handle operation ∧ operation.finalizes = true) := by
  cases hperform : step.request.perform sha256 step.reads s.store with
  | error e =>
    rw [apply_error hperform]
    exact .inl ⟨lease, hlease, hunderway, rfl, .inl ⟨rfl, rfl⟩⟩
  | ok outcome =>
    obtain ⟨store', opened⟩ := outcome
    rw [apply_ok hperform]
    cases hrequest : step.request with
    | acquire params leaseId capability =>
      rw [hrequest] at hperform
      obtain ⟨_, _, _, _, _, _, _, hreserved⟩ := acquire_effect hperform
      rw [hreserved lease hlease] at hunderway
      cases hunderway
    | claimRecovery params leaseId capability =>
      rw [hrequest] at hperform
      obtain ⟨handle, old, lease', envelope, rfl, hopened, hold, hexpired, _, hphase, _⟩ :=
        claim_effect hperform
      cases hlease.symm.trans hold
      exact .inl ⟨lease', hopened.held, by simp [hphase, Phase.isUnderway], rfl,
        .inr ⟨⟨_, _, _, rfl⟩, hexpired⟩⟩
    | held handle operation =>
      rw [hrequest] at hperform
      obtain ⟨rfl, hheld⟩ := perform_held hperform
      obtain ⟨old, hnames, ⟨hends, hagain, lease', hkept, _⟩ | ⟨payload, rfl, hrecorded⟩ |
        ⟨_, hended, hwhich⟩⟩ := held_effect hheld
      · cases hlease.symm.trans hnames.held
        have horigin := hs.nextOrigin_kept hnames hends hagain
        exact .inl ⟨lease', hkept.held, hkept.underway hunderway, horigin,
          .inl ⟨hkept.id, hkept.fence⟩⟩
      · cases hlease.symm.trans hnames.held
        rw [hrecorded.reserved] at hunderway
        cases hunderway
      · cases hlease.symm.trans hnames.held
        rcases hwhich with hreserved | hfinal
        · rw [hreserved] at hunderway
          cases hunderway
        · exact .inr ⟨hended.free, handle, operation, rfl, hfinal⟩

theorem fence_grows
    (hperform : step.request.perform sha256 step.reads s.store = .ok (store', opened)) :
    (s.apply sha256 step).store.row.releaseLeaseFence =
      s.store.row.releaseLeaseFence + if step.request.opens then 1 else 0 := by
  rw [apply_ok hperform]
  cases hrequest : step.request with
  | acquire params leaseId capability =>
    rw [hrequest] at hperform
    obtain ⟨_, _, _, hopened, _⟩ := acquire_effect hperform
    exact hopened.next
  | claimRecovery params leaseId capability =>
    rw [hrequest] at hperform
    obtain ⟨_, _, _, _, _, hopened, _⟩ := claim_effect hperform
    exact hopened.next
  | held handle operation =>
    rw [hrequest] at hperform
    obtain ⟨rfl, hheld⟩ := perform_held hperform
    obtain ⟨_, _, ⟨_, _, _, hkept, _⟩ | ⟨_, _, hrecorded⟩ | ⟨_, hended, _⟩⟩ := held_effect hheld
    · exact hkept.fence
    · exact hrecorded.fence
    · exact hended.fence

theorem Sound.safe (hs : s.Sound) (hs' : (s.apply sha256 step).Sound) :
    LeaseSafe sha256 s step where
  grows store opened hperform := fence_grows hperform
  bounded := hs'.fence_le
  stale := by
    intro handle operation hrequest hmem hstale
    cases hperform : step.request.perform sha256 step.reads s.store with
    | error e => exact ⟨⟨e, rfl⟩, apply_error hperform⟩
    | ok outcome =>
      obtain ⟨store', opened⟩ := outcome
      rw [hrequest] at hperform
      obtain ⟨_, hheld⟩ := perform_held hperform
      obtain ⟨lease, hnames, _⟩ := held_effect hheld
      exact absurd (hs.eq_live hmem hnames) hstale
  recorded := by
    intro lease hlease hunderway
    obtain ⟨record, hrecord⟩ := Option.isSome_iff_exists.1 (hs'.underway lease hlease hunderway)
    exact ⟨record, hrecord, (hs'.documented lease record hlease hrecord).origin⟩
  goesOn lease hlease hunderway := hs.goesOn hlease hunderway

end LeaseSystem

/-! ## Two runs -/

/-- The outside of a step is as it should be and its record in order, as a test. -/
def LeaseStep.isOrdered (s : LeaseSystem) (step : LeaseStep) : Bool :=
  match step.request with
  | .held _ (.recordRollbackRecord _) =>
    (recordings s.store.events).all fun event => event.createdAt < step.reads.createdAt
  | _ => true

/-- A test for `Admissible`, where there are at most ten records. -/
def LeaseStep.isAdmissible (s : LeaseSystem) (step : LeaseStep) : Bool :=
  step.reads.newest.isPerm (recordings s.store.events) &&
    decide (step.reads.newest.Pairwise fun event older => older.createdAt ≤ event.createdAt) &&
    step.reads.newest.length ≤ 10 &&
    match step.request with
    | .acquire _ leaseId _ => isUuid leaseId
    | .claimRecovery _ leaseId _ => isUuid leaseId
    | .held _ _ => true

theorem admissible_of_test {s : LeaseSystem} {step : LeaseStep} (h : step.isAdmissible s = true) :
    Admissible s step := by
  simp only [LeaseStep.isAdmissible, Bool.and_eq_true, decide_eq_true_eq] at h
  obtain ⟨⟨⟨hperm, hdesc⟩, hlength⟩, hid⟩ := h
  refine ⟨⟨_, isPerm_iff.1 hperm, hdesc, (take_of_length_le hlength).symm⟩, ?_, ?_⟩ <;>
  · intro _ _ _ hrequest
    rw [hrequest] at hid
    exact hid

theorem ordered_of_test {s : LeaseSystem} {step : LeaseStep} (h : step.isOrdered s = true) :
    ¬ RecordsOutOfOrder s step := by
  rintro ⟨handle, payload, lease, hrequest, _, _, event, hmem, haction, _, hle⟩
  rw [LeaseStep.isOrdered, hrequest] at h
  have hlt := all_eq_true.1 h event (mem_filter.2 ⟨hmem, by simpa using haction⟩)
  simp only [decide_eq_true_eq] at hlt
  omega

def runAll (sha256 : JsString → JsString) (test : LeaseSystem → LeaseStep → Bool) :
    LeaseSystem → List LeaseStep → Bool
  | _, [] => true
  | s, step :: steps => test s step && runAll sha256 test (s.apply sha256 step) steps

theorem forall_prefix_of_runAll {sha256 : JsString → JsString}
    {test : LeaseSystem → LeaseStep → Bool} {start : LeaseSystem} {steps : List LeaseStep}
    (h : runAll sha256 test start steps = true) (done : List LeaseStep) (step : LeaseStep)
    (hpre : done ++ [step] <+: steps) :
    test (done.foldl (LeaseSystem.apply sha256) start) step = true := by
  induction done generalizing start steps with
  | nil =>
    obtain ⟨rest, rfl⟩ := hpre
    exact (Bool.and_eq_true _ _ ▸ h).1
  | cons first done ih =>
    obtain ⟨rest, rfl⟩ := hpre
    exact ih (Bool.and_eq_true _ _ ▸ h).2 ⟨rest, by simp⟩

/-- Ids of the runs below. -/
def sampleId (n : UInt16) : JsString := lit "11111111-1111-4111-8111-11111111111" ++ [0x30 + n]

def sampleTags : ReleaseTags := ⟨lit "a", lit "b", lit "c"⟩

def samplePayload : ManagedAzureRollbackPayload :=
  ⟨⟨[], [], [], [], [], []⟩, ⟨none, ⟨[], [], [], []⟩, ⟨[], [], [], []⟩⟩, [], [], none⟩

/-- A transaction whose checks pass. -/
def sampleReads (now createdAt : Nat) (newest : List CustomerDeploymentEvent) : ReleaseReads where
  databaseNow := now
  createdAt
  newest
  acquirable := .ok ()
  admission _ := .ok ⟨none, none, none⟩
  binding _ := .ok ()
  payload _ := .ok ()
  stored _ := .ok ()
  intent _ := .ok ()
  evidence := .ok ()
  constraints := .ok ()

def sampleStart : LeaseSystem where
  store := ⟨⟨sampleId 0, some (lit "a"), none, none, none, none, none, 0, none⟩, []⟩
  returned := []
  live := none
  origin := none

/-- The event of a record under a lease, at time zero. -/
def sampleEvent (n : UInt16) (fence : Nat) : CustomerDeploymentEvent :=
  ⟨ORIGINATING_LEASE_EVENT_ACTION, 0, some (sampleId n), some fence, some (lit "o"),
    some sampleTags⟩

def sampleAcquire (n : UInt16) (newest : List CustomerDeploymentEvent) : LeaseStep :=
  ⟨sampleReads 0 0 newest, .acquire ⟨sampleId 0, sampleTags, lit "o", none⟩ (sampleId n) (lit "k")⟩

def sampleHeld (n : UInt16) (fence : Nat) (newest : List CustomerDeploymentEvent)
    (operation : HeldOperation) : LeaseStep :=
  ⟨sampleReads 0 0 newest, .held ⟨sampleId 0, sampleId n, lit "k", fence⟩ operation⟩

def sampleClaim (n expected : UInt16) (fence now : Nat) (newest : List CustomerDeploymentEvent) :
    LeaseStep :=
  ⟨sampleReads now now newest,
    .claimRecovery ⟨sampleId 0, sampleId expected, fence, lit "o"⟩ (sampleId n) (lit "k")⟩

/-- **The lease is safe where records are written in order.** In every run from a row without a
lease in which each rollback record is written at a later time than those before it for the same
release, every step is safe. -/
theorem release_lease_safe_of_ordered (sha256 : JsString → JsString) (start : LeaseSystem)
    (hstart : start.Initial) (steps : List LeaseStep)
    (hsteps : ∀ done step, done ++ [step] <+: steps →
      Admissible (done.foldl (LeaseSystem.apply sha256) start) step ∧
        ¬ RecordsOutOfOrder (done.foldl (LeaseSystem.apply sha256) start) step) :
    ∀ done step, done ++ [step] <+: steps →
      LeaseSafe sha256 (done.foldl (LeaseSystem.apply sha256) start) step := by
  have hsound : ∀ done, done <+: steps → (done.foldl (LeaseSystem.apply sha256) start).Sound := by
    intro done
    induction done using reverseRecOn with
    | nil => exact fun _ => hstart.sound
    | append_singleton done step ih =>
      intro hpre
      obtain ⟨hadm, hgood⟩ := hsteps done step hpre
      rw [foldl_append]
      exact (ih ((prefix_append done [step]).trans hpre)).apply hadm hgood
  intro done step hpre
  have hbefore := hsound done ((prefix_append done [step]).trans hpre)
  have hafter := hsound _ hpre
  rw [foldl_append] at hafter
  exact hbefore.safe hafter

/-- A release that is recorded, begun and claimed once. -/
def orderedRun : List LeaseStep :=
  [sampleAcquire 1 [], sampleHeld 1 1 [] (.recordRollbackRecord samplePayload),
    sampleHeld 1 1 [sampleEvent 1 1] .beginMutation, sampleClaim 2 1 1 TTL_MS [sampleEvent 1 1]]

theorem release_lease_safe_of_ordered_sample :
    LeaseSafe id (orderedRun.foldl (LeaseSystem.apply id) sampleStart)
      (sampleClaim 3 2 2 (2 * TTL_MS) [sampleEvent 1 1]) := by
  have hadm : runAll id (fun s step => step.isAdmissible s && step.isOrdered s) sampleStart
      (orderedRun ++ [sampleClaim 3 2 2 (2 * TTL_MS) [sampleEvent 1 1]]) = true := by
    decide +kernel
  refine release_lease_safe_of_ordered id sampleStart ⟨rfl, by decide, rfl, rfl, rfl⟩
    (orderedRun ++ [sampleClaim 3 2 2 (2 * TTL_MS) [sampleEvent 1 1]])
    (fun done step hpre => ?_) _ _ (prefix_refl _)
  have htest := forall_prefix_of_runAll hadm done step hpre
  rw [Bool.and_eq_true] at htest
  exact ⟨admissible_of_test htest.1, ordered_of_test htest.2⟩

/-- A reservation that is recorded and aborted, and one for the same release that is recorded at the
same time, begun and claimed once. -/
def abortedRun : List LeaseStep :=
  [sampleAcquire 1 [], sampleHeld 1 1 [] (.recordRollbackRecord samplePayload),
    sampleHeld 1 1 [sampleEvent 1 1] .abort, sampleAcquire 2 [sampleEvent 1 1],
    sampleHeld 2 2 [sampleEvent 1 1] (.recordRollbackRecord samplePayload),
    sampleHeld 2 2 [sampleEvent 1 1, sampleEvent 2 2] .beginMutation,
    sampleClaim 3 2 2 TTL_MS [sampleEvent 1 1, sampleEvent 2 2]]

/-- The claim after it, which reads the two events in the order in which they were written. -/
def abortedClaim : LeaseStep := sampleClaim 4 3 3 (2 * TTL_MS) [sampleEvent 1 1, sampleEvent 2 2]

/-- **The origin is lost to an aborted reservation**: of two records of one release that were
written at one time, the second claim takes the one of the reservation that was aborted. Hashing is
injective here and the clock never goes back. -/
theorem not_release_lease_safe :
    ¬ ∀ start : LeaseSystem, start.Initial → ∀ steps : List LeaseStep,
      (steps.map fun step => step.reads.databaseNow).Pairwise (· ≤ ·) →
      (∀ step ∈ steps, step.reads.createdAt ≤ step.reads.databaseNow) →
      (∀ done step, done ++ [step] <+: steps →
        Admissible (done.foldl (LeaseSystem.apply id) start) step) →
      ∀ done step, done ++ [step] <+: steps →
        LeaseSafe id (done.foldl (LeaseSystem.apply id) start) step := by
  intro hall
  have hadm : runAll id (fun s step => step.isAdmissible s) sampleStart
      (abortedRun ++ [abortedClaim]) = true := by
    decide +kernel
  have hsafe := hall sampleStart ⟨rfl, by decide, rfl, rfl, rfl⟩ _ (by decide +kernel)
    (by decide +kernel)
    (fun done step hpre => admissible_of_test (forall_prefix_of_runAll hadm done step hpre))
    abortedRun abortedClaim (prefix_refl _)
  have hend : (((abortedRun.foldl (LeaseSystem.apply id) sampleStart).apply id
      abortedClaim).store.row.lease.bind fun lease => lease.rollbackRecord.map fun record =>
        (lease.phase, record.leaseId)) = some (.RECOVERY_REQUIRED, sampleId 1) := by
    decide +kernel
  have horigin : ((abortedRun.foldl (LeaseSystem.apply id) sampleStart).apply id
      abortedClaim).origin.map Origin.leaseId = some (sampleId 2) := by
    decide +kernel
  obtain ⟨lease, hlease, hrecord⟩ := Option.bind_eq_some_iff.1 hend
  obtain ⟨record, hsome, hpair⟩ := Option.map_eq_some_iff.1 hrecord
  obtain ⟨hphase, hid⟩ := Prod.mk.inj hpair
  obtain ⟨record', hsome', horigin'⟩ := hsafe.recorded lease hlease (by rw [hphase]; rfl)
  cases hsome.symm.trans hsome'
  have hlost : sampleId 1 = sampleId 2 := by
    rw [horigin', Option.map_some, hid] at horigin
    exact Option.some.inj horigin
  exact absurd hlost (by decide)

end Corgtex.Domain.ReleaseLease
