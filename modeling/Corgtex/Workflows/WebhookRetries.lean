import Corgtex.Library.Runs
import Corgtex.Workflows.WebhookDeliveries

/-!
# Webhooks are retried

The row of a delivery and the job that runs it are two state machines. The job completes whenever
its handler returns, so it is the end of the retries; and the failure of an attempt overwrites
whatever another attempt has recorded since. Both stay in step while a job ends only when its
delivery awaits no retry, and an attempt fails only on the row that it has read (`Steady`). That a
delivery fails after five recorded attempts only holds in every run.
-/

namespace Corgtex.Workflows

open Function JsString KeyedTable List Option

/-! ## Retries -/

/-- The delivery is to be tried again. -/
def WebhookDeliveryRow.Awaiting (row : WebhookDeliveryRow) : Prop :=
  row.status = .PENDING ∧ row.nextRetryAt.isSome ∧ 1 ≤ row.attempts ∧
    row.attempts < MAX_DELIVERY_ATTEMPTS

section
variable {π : Type} (reader : WebhookReader π)

/-- The job is an unfinished one of the delivery. -/
def WorkflowJob.Delivers (job : WorkflowJob π) (deliveryId : String) : Prop :=
  job.type = "webhook.deliver" ∧ reader.deliveryId job.payload = some deliveryId ∧
    (job.status = .PENDING ∨ job.status = .RUNNING)

/-- An unfinished job will try the delivery. -/
def HasJob (jobs : JobTable π) (deliveryId : String) : Prop :=
  ∃ job ∈ jobs.rows, job.Delivers reader deliveryId

def JobAction.Ends (e : Execution π) : JobAction π → Prop
  | .returned _ _ _ _ => True
  | .settleFailure _ _ _ => MAX_ATTEMPTS ≤ e.job.attempts ∨
      ∃ error, e.failure = some error ∧ executionAuthorizationRevoked error = true
  | _ => False

namespace WebhookSystem

variable (s : WebhookSystem π)

/-- The row is as the attempt has read it, not `DELIVERED`, and its job is unfinished where it is to
be tried again. -/
def Finds (delivery : WebhookDeliveryRow) : Prop :=
  s.deliveries.find? delivery.id = some delivery ∧ delivery.status ≠ .DELIVERED ∧
    (delivery.attempts + 1 < MAX_DELIVERY_ATTEMPTS → HasJob reader s.system.jobs delivery.id)

/-- The failure of an attempt is recorded on the row that it has read, and a job ends only while its
delivery awaits no retry. -/
def Steady : WebhookStep π → Prop
  | .respond workerId jobId (.ok (status, _)) true _ _ => isOk status = false →
      ∀ delivery, s.calls (workerId, jobId) = some (.attempting delivery) → s.Finds reader delivery
  | .caught workerId jobId true _ _ => ∀ delivery message,
      s.calls (workerId, jobId) = some (.failing delivery message) → s.Finds reader delivery
  | .job action => ∀ e row deliveryId delivery, s.system.settling action = some e →
      action.Ends e → s.system.jobs.find? e.job.id = some row → row.Delivers reader deliveryId →
        s.deliveries.find? deliveryId = some delivery → ¬ delivery.Awaiting
  | _ => True

/-- What has been delivered stays so. -/
def KeepsDelivered (s s' : WebhookSystem π) : Prop :=
  ∀ id row, s.deliveries.find? id = some row → row.status = .DELIVERED →
    ∃ row', s'.deliveries.find? id = some row' ∧ row'.status = .DELIVERED

end WebhookSystem

end

/-! ## Jobs -/

section
variable {π : Type} {reader : WebhookReader π} {jobs jobs' : JobTable π} {deliveryId : String}
  {workerId jobId : String} {now : Nat}

/-- The rows of the unfinished jobs are still there, up to their locks. -/
theorem HasJob.of_rows (h : HasJob reader jobs deliveryId)
    (hrows : ∀ id job, jobs.find? id = some job → job.Delivers reader deliveryId →
      ∃ job', jobs'.find? id = some job' ∧ job'.Delivers reader deliveryId) :
    HasJob reader jobs' deliveryId := by
  obtain ⟨job, hjob, hdelivers⟩ := h
  obtain ⟨job', hjob', hdelivers'⟩ := hrows job.id job (find?_key hjob) hdelivers
  exact ⟨job', (find?_eq_some.1 hjob').1, hdelivers'⟩

theorem WorkflowJob.Delivers.keeps {job job' : WorkflowJob π} (h : job.Delivers reader deliveryId)
    (hkeeps : job.Keeps job') : job'.Delivers reader deliveryId := by
  rcases hkeeps with rfl | ⟨_, stamp, rfl⟩
  · exact h
  · exact h

theorem failureSettlement_webhook {e : Execution π} [DecidableEq π] {error : Thrown}
    (htype : e.job.type = "webhook.deliver") :
    e.failureSettlement workerId now error =
      ⟨fun row => row.id = e.job.id, e.failureData now error⟩ := by
  have hordinary : isFencedJob "webhook.deliver" = false := by decide
  cases error <;> simp [Execution.failureSettlement, htype, hordinary, BRAIN_MAINTENANCE_JOB,
    RELEASE_DIAGNOSTIC_JOB_TYPE]

variable [DecidableEq π] {s : JobSystem π} {action : JobAction π}

/-- **A job of the delivery stays** unless it is one that the action ends. -/
theorem HasJob.apply (h : HasJob reader s.jobs deliveryId) (hinv : s.Inv)
    (hends : ∀ e row, s.settling action = some e → action.Ends e →
      s.jobs.find? e.job.id = some row → ¬ row.Delivers reader deliveryId) :
    HasJob reader (s.apply reader.toPayloadReader action).jobs deliveryId := by
  refine h.of_rows fun id job hjob hdelivers => ?_
  cases hsettling : s.settling action with
  | none =>
    cases action with
    | claim workerId inactive batchSize now =>
      rw [JobSystem.apply]
      cases hidle : (s.inFlight workerId).rows with
      | nil =>
        rw [JobSystem.claimPendingJobs_rows hidle, hjob]
        refine ⟨_, rfl, ?_⟩
        dsimp only
        split
        · exact ⟨hdelivers.1, hdelivers.2.1, .inr rfl⟩
        · exact hdelivers
      | cons e rest =>
        rw [JobSystem.claimPendingJobs, if_neg (by simp [hidle])]
        exact ⟨job, hjob, hdelivers⟩
    | _ =>
      obtain ⟨job', hjob', hkeeps⟩ :=
        (JobSystem.quiet_apply reader.toPayloadReader hsettling (by simp)).rows hjob
      exact ⟨job', hjob', hdelivers.keeps hkeeps⟩
  | some e =>
    obtain ⟨workerId, he, hcases⟩ := JobSystem.settling_cases reader.toPayloadReader hsettling
    by_cases hid : id = e.job.id
    · subst hid
      have hnot : ¬ action.Ends e := fun hend => hends e job hsettling hend hjob hdelivers
      obtain ⟨row, hrow, htype, _⟩ := hinv.row he
      obtain rfl := some.inj (hjob.symm.trans hrow)
      cases action with
      | returned => exact absurd trivial hnot
      | settleFailure holder jobId now =>
        obtain ⟨hfound, hphase⟩ := filter_eq_some_iff.1 hsettling
        obtain ⟨error, herror⟩ := isSome_iff_exists.1 hphase
        rw [JobSystem.apply, hfound]
        dsimp only
        rw [herror]
        dsimp only
        rw [JobSystem.find?_settle, failureSettlement_webhook (htype.symm.trans hdelivers.1), hjob]
        refine ⟨_, rfl, ?_⟩
        have hopen : (e.failureData now error).status = .PENDING := by
          refine if_neg fun hfinal => hnot ?_
          rw [Bool.or_eq_true, decide_eq_true_eq] at hfinal
          exact hfinal.imp_right fun hrevoked => ⟨error, herror, hrevoked⟩
        dsimp only
        split
        · exact ⟨hdelivers.1, hdelivers.2.1, .inl hopen⟩
        · exact hdelivers
      | _ => cases hsettling
    · rcases hcases with ⟨hrows, _⟩ | ⟨settlement, hissues, hsettled⟩
      · exact ⟨job, (hrows id).trans hjob, hdelivers⟩
      · rw [hsettled.rows, hjob]
        refine ⟨_, rfl, ?_⟩
        dsimp only
        rw [if_neg]
        · exact hdelivers
        · intro htest
          have hsame := (hissues.suits (hinv.lockedBy he)).id job htest
          exact hid ((find?_eq_some.1 hjob).2.symm.trans hsame)

end

/-! ## Steps -/

/-- The delivery that a call has read, while it is under way. -/
def WebhookCall.delivery? : WebhookCall → Option WebhookDeliveryRow
  | .attempting delivery | .failing delivery _ => some delivery
  | .returned => none

namespace WebhookSystem

section
variable {π : Type} [DecidableEq π] {reader : WebhookReader π} {s s' : WebhookSystem π}
  {step : WebhookStep π}

def Reads (s : WebhookSystem π) (key : String × String) (delivery : WebhookDeliveryRow) : Prop :=
  (s.calls key).bind WebhookCall.delivery? = some delivery

/-- What a step does: an event gets its deliveries, a call goes on, an attempt is recorded as
accepted or as failed, or a job moves. -/
inductive Effect (reader : WebhookReader π) (s s' : WebhookSystem π) (step : WebhookStep π) : Prop
  | dispatched (created : List WebhookDelivery) :
      s'.deliveries.rows = s.deliveries.rows ++ created.map WebhookDelivery.row →
      s.system.Quiet s'.system → s'.calls = s.calls → s'.recorded = s.recorded →
      Effect reader s s' step
  | called (key : String × String) (call : Option WebhookCall) :
      s'.deliveries = s.deliveries → s'.system = s.system → s'.recorded = s.recorded →
      s'.calls = Function.update s.calls key call →
      (∀ delivery ∈ call.bind WebhookCall.delivery?,
        s.Reads key delivery ∨ s.deliveries.find? delivery.id = some delivery) →
      Effect reader s s' step
  | accepted (key : String × String) (delivery : WebhookDeliveryRow) (status : Nat)
      (body : JsString) (now : Nat) : s.Reads key delivery →
      s' = { s.record delivery.id (delivered delivery status body now) fun _ => rfl with
        calls := Function.update s.calls key (some .returned) } →
      Effect reader s s' step
  | failed (key : String × String) (delivery : WebhookDeliveryRow) (error : JsString)
      (httpStatus : Option Nat) (now : Nat) : s.Reads key delivery →
      s' = { s.record delivery.id
          (handleDeliveryFailure (delivery.attempts + 1) error httpStatus now) fun _ => rfl with
        calls := Function.update s.calls key (some .returned) } →
      (s.Steady reader step → s.Finds reader delivery) →
      Effect reader s s' step
  | moved (action : JobAction π) : s'.deliveries = s.deliveries → s'.recorded = s.recorded →
      s'.system = s.system.apply reader.toPayloadReader action →
      (∀ key, s'.calls key = s.calls key ∨ s'.calls key = none) →
      (s.Steady reader step → s.Steady reader (.job action)) →
      Effect reader s s' step

theorem Effect.kept : Effect reader s s step :=
  .called ("", "") (s.calls ("", "")) rfl rfl rfl (update_eq_self _ _).symm
    fun _ hdelivery => .inl hdelivery

variable {created : List WebhookDelivery}

theorem createDeliveryRows_rows
    {deliveries deliveries' : WebhookDeliveryTable}
    (h : createDeliveryRows deliveries created = .ok deliveries') :
    deliveries'.rows = deliveries.rows ++ created.map WebhookDelivery.row := by
  induction created generalizing deliveries with
  | nil => exact Except.ok.inj h ▸ (append_nil _).symm
  | cons delivery rest ih =>
    rw [createDeliveryRows] at h
    split at h
    · cases h
    · exact (ih h).trans (append_assoc _ [delivery.row] _)

variable {reads : DispatchReads π Unit} {job : WorkflowJob π}

omit [DecidableEq π] in
theorem find?_enqueueDispatchJob {jobs jobs' : JobTable π}
    {params : EnqueueJobParams π} {id : String}
    (h : enqueueDispatchJob reads jobs params = .ok jobs') (hjob : jobs.find? id = some job) :
    jobs'.find? id = some job := by
  unfold enqueueDispatchJob at h
  split at h
  · obtain ⟨payload, _, h⟩ := Domain.bind_ok.1 h
    split at h
    · exact Except.ok.inj h ▸ hjob
    · exact find?_enqueueJob h hjob
  · exact find?_enqueueJob h hjob

omit [DecidableEq π] in
/-- The rows of the jobs that exist are left alone. -/
theorem find?_enqueueWebhookJobs {dispatcher : Dispatcher π}
    {event : ClaimedEvent π} {jobs jobs' : JobTable π} {id : String}
    (h : created.foldlM (enqueueWebhookJob dispatcher reads event) jobs = .ok jobs')
    (hjob : jobs.find? id = some job) : jobs'.find? id = some job := by
  induction created generalizing jobs with
  | nil => exact Except.ok.inj h ▸ hjob
  | cons delivery rest ih =>
    rw [foldlM_cons] at h
    obtain ⟨next, hnext, h⟩ := Domain.bind_ok.1 h
    exact ih h (find?_enqueueDispatchJob hnext hjob)

/-- **What a step does.** -/
theorem apply_effect : Effect reader s (s.apply reader step) step := by
  cases step with
  | dispatch event reads =>
    rw [apply]
    split
    · next next hok =>
      obtain ⟨deliveries, hdeliveries, h⟩ := Domain.bind_ok.1 hok
      obtain ⟨jobs, hjobs, h⟩ := Domain.bind_ok.1 h
      obtain rfl := Except.ok.inj h
      refine .dispatched _ (createDeliveryRows_rows hdeliveries) ⟨fun hjob => ?_, ?_⟩ rfl rfl
      · exact ⟨_, find?_enqueueWebhookJobs hjobs hjob, .inl rfl⟩
      · exact .refl s.system
    · exact .kept
  | endpoint endpointId active =>
    exact .called ("", "") (s.calls ("", "")) rfl rfl rfl (update_eq_self _ _).symm
      fun _ hdelivery => .inl hdelivery
  | read workerId jobId =>
    rw [apply]
    split
    · next e _ =>
      split
      · refine .called (workerId, jobId) _ rfl rfl rfl rfl fun delivery hdelivery => .inr ?_
        rw [bind_some, read] at hdelivery
        split at hdelivery
        · next found hfound =>
          split at hdelivery
          · cases hdelivery
            obtain ⟨id, _, hfind⟩ := bind_eq_some_iff.1 hfound
            exact (find?_eq_some.1 hfind).2.symm ▸ hfind
          · cases hdelivery
        · cases hdelivery
      · exact .kept
    · exact .kept
  | respond workerId jobId reply stored error now =>
    rw [apply]
    split
    · next delivery hcall =>
      have hreads : s.Reads (workerId, jobId) delivery := by
        rw [Reads, hcall]
        rfl
      have hfailing : ∀ message, Effect reader s
          (s.setCall workerId jobId (some (.failing delivery message)))
          (.respond workerId jobId reply stored error now) := by
        intro message
        refine .called (workerId, jobId) _ rfl rfl rfl rfl fun found hfound => .inl ?_
        cases hfound
        exact hreads
      unfold respond
      split
      · next status body =>
        cases stored with
        | false => exact hfailing error
        | true =>
          split
          · next hstored => simp at hstored
          · split
            · exact .accepted (workerId, jobId) delivery status body now hreads rfl
            · next hstatus =>
              exact .failed (workerId, jobId) delivery _ _ now hreads rfl
                fun hsteady => hsteady (Bool.eq_false_iff.2 hstatus) delivery hcall
      · next message => exact hfailing message
    · exact .kept
  | caught workerId jobId stored error now =>
    rw [apply]
    split
    · next delivery message hcall =>
      have hreads : s.Reads (workerId, jobId) delivery := by
        rw [Reads, hcall]
        rfl
      rw [caught]
      split
      · next hstored =>
        subst hstored
        exact .failed (workerId, jobId) delivery _ _ now hreads rfl
          fun hsteady => hsteady delivery message hcall
      · refine .moved (.threw workerId jobId error) rfl rfl rfl (fun key => ?_) fun _ => ?_
        · show update s.calls (workerId, jobId) none key = s.calls key ∨
            update s.calls (workerId, jobId) none key = none
          rw [update_apply]
          split
          · exact .inr rfl
          · exact .inl rfl
        · intro e row deliveryId delivery hsettling
          cases hsettling
    · exact .kept
  | job action =>
    rw [apply]
    split
    · refine .moved action rfl rfl rfl (fun key => ?_) id
      show s.callsAfter action key = _ ∨ s.callsAfter action key = _
      cases action with
      | returned | threw | abandon =>
        rw [callsAfter, update_apply]
        split
        · exact .inr rfl
        · exact .inl rfl
      | _ => exact .inl rfl
    · exact .kept

/-! ## What holds in every run -/

/-- What is known of the attempts: the count of a row is one of recorded attempts, also as a call
has read it, and a delivery has failed after five. -/
structure Counted (s : WebhookSystem π) : Prop where
  attempts : ∀ row ∈ s.deliveries.rows, row.attempts ≤ s.recorded row.id
  failed : ∀ row ∈ s.deliveries.rows, row.status = .FAILED → MAX_DELIVERY_ATTEMPTS ≤ row.attempts
  reads : ∀ key delivery, s.Reads key delivery → delivery.attempts ≤ s.recorded delivery.id

omit [DecidableEq π] in
theorem Counted.record (h : Counted s) {key : String × String} {delivery : WebhookDeliveryRow}
    (data : WebhookDeliveryRow → WebhookDeliveryRow) (hid : ∀ row, (data row).id = row.id)
    (hreads : s.Reads key delivery)
    (hattempts : ∀ row, (data row).attempts = delivery.attempts + 1)
    (hfailed : ∀ row, (data row).status = .FAILED → MAX_DELIVERY_ATTEMPTS ≤ delivery.attempts + 1) :
    Counted { s.record delivery.id data hid with
      calls := Function.update s.calls key (some .returned) } := by
  have hgrows : ∀ id, s.recorded id ≤ (s.record delivery.id data hid).recorded id := by
    intro id
    show _ ≤ update s.recorded delivery.id (s.recorded delivery.id + 1) id
    rw [update_apply]
    split
    · next hsame => rw [hsame]; omega
    · exact le_rfl
  have hbumped : (s.record delivery.id data hid).recorded delivery.id =
      s.recorded delivery.id + 1 := update_self ..
  have hread := h.reads key delivery hreads
  constructor
  · intro row' hrow'
    obtain ⟨row, hrow, rfl⟩ := mem_map.1 hrow'
    split
    · next hsame =>
      have hsame : row.id = delivery.id := of_decide_eq_true hsame
      rw [hattempts, hid, hsame]
      show _ ≤ (s.record delivery.id data hid).recorded delivery.id
      omega
    · exact (h.attempts row hrow).trans (hgrows row.id)
  · intro row' hrow' hstatus
    obtain ⟨row, hrow, rfl⟩ := mem_map.1 hrow'
    split at hstatus
    · next hsame =>
      rw [if_pos hsame, hattempts]
      exact hfailed row hstatus
    · next hsame =>
      rw [if_neg hsame]
      exact h.failed row hrow hstatus
  · intro other found hfound
    have hfound : (update s.calls key (some .returned) other).bind
      WebhookCall.delivery? = some found := hfound
    rw [update_apply] at hfound
    split at hfound
    · cases hfound
    · exact (h.reads other found hfound).trans (hgrows found.id)

/-- **A step counts its attempt.** -/
theorem Counted.of_effect (h : Counted s) (heffect : Effect reader s s' step) : Counted s' := by
  cases heffect with
  | dispatched created hrows _ hcalls hrecorded =>
    have hreads : ∀ key delivery, s'.Reads key delivery → s.Reads key delivery := by
      intro key delivery hdelivery
      rwa [Reads, hcalls] at hdelivery
    constructor
    · intro row hrow
      rw [hrows] at hrow
      rw [hrecorded]
      rcases mem_append.1 hrow with hold | hnew
      · exact h.attempts row hold
      · obtain ⟨delivery, _, rfl⟩ := mem_map.1 hnew
        exact Nat.zero_le _
    · intro row hrow hstatus
      rw [hrows] at hrow
      rcases mem_append.1 hrow with hold | hnew
      · exact h.failed row hold hstatus
      · obtain ⟨delivery, _, rfl⟩ := mem_map.1 hnew
        cases hstatus
    · intro key delivery hdelivery
      rw [hrecorded]
      exact h.reads key delivery (hreads key delivery hdelivery)
  | called key call hdeliveries _ hrecorded hcalls hcall =>
    refine ⟨fun row hrow => ?_, fun row hrow => ?_, fun other delivery hdelivery => ?_⟩
    · rw [hrecorded]
      exact h.attempts row (hdeliveries ▸ hrow)
    · exact h.failed row (hdeliveries ▸ hrow)
    · rw [hrecorded]
      rw [Reads, hcalls, update_apply] at hdelivery
      split at hdelivery
      · rcases hcall delivery hdelivery with hold | hfound
        · exact h.reads key delivery hold
        · exact h.attempts delivery (find?_eq_some.1 hfound).1
      · exact h.reads other delivery hdelivery
  | accepted key delivery status body now hreads hs' =>
    subst hs'
    exact h.record (delivered delivery status body now) (fun _ => rfl) hreads (fun _ => rfl)
      fun row hstatus => by cases hstatus
  | failed key delivery error httpStatus now hreads hs' _ =>
    subst hs'
    refine h.record (handleDeliveryFailure (delivery.attempts + 1) error httpStatus now)
      (fun _ => rfl) hreads (fun _ => rfl) fun row hstatus => ?_
    by_contra hfew
    have hpending :
        (handleDeliveryFailure (delivery.attempts + 1) error httpStatus now row).status = .PENDING :=
      if_neg hfew
    rw [hpending] at hstatus
    cases hstatus
  | moved action hdeliveries hrecorded _ hcalls _ =>
    refine ⟨fun row hrow => ?_, fun row hrow => ?_, fun other delivery hdelivery => ?_⟩
    · rw [hrecorded]
      exact h.attempts row (hdeliveries ▸ hrow)
    · exact h.failed row (hdeliveries ▸ hrow)
    · rw [hrecorded]
      rcases hcalls other with hsame | hnone
      · rw [Reads, hsame] at hdelivery
        exact h.reads other delivery hdelivery
      · rw [Reads, hnone] at hdelivery
        cases hdelivery

/-! ## What holds in a steady run -/

omit [DecidableEq π] in
theorem find?_record {id k : String} (data : WebhookDeliveryRow → WebhookDeliveryRow)
    (hid : ∀ row, (data row).id = row.id) : (s.record id data hid).deliveries.find? k =
      if k = id then (s.deliveries.find? id).map data else s.deliveries.find? k :=
  find?_update hid

/-- **What has been delivered stays so** in a steady step. -/
theorem keepsDelivered_of_effect (heffect : Effect reader s s' step)
    (hsteady : s.Steady reader step) : KeepsDelivered s s' := by
  intro id row hrow hstatus
  cases heffect with
  | dispatched created hrows _ _ _ =>
    obtain ⟨hmem, rfl⟩ := find?_eq_some.1 hrow
    exact ⟨row, find?_key (hrows ▸ mem_append_left _ hmem), hstatus⟩
  | called key call hdeliveries _ _ _ _ => exact ⟨row, hdeliveries ▸ hrow, hstatus⟩
  | accepted key delivery status body now _ hs' =>
    subst hs'
    by_cases hid : id = delivery.id
    · subst hid
      refine ⟨delivered delivery status body now row, ?_, rfl⟩
      exact (find?_record (delivered delivery status body now) fun _ => rfl).trans
        ((if_pos rfl).trans (congrArg _ hrow))
    · refine ⟨row, ?_, hstatus⟩
      exact (find?_record (delivered delivery status body now) fun _ => rfl).trans
        ((if_neg hid).trans hrow)
  | failed key delivery error httpStatus now _ hs' hfinds =>
    subst hs'
    obtain ⟨hfound, hopen, _⟩ := hfinds hsteady
    have hid : id ≠ delivery.id := by
      rintro rfl
      rw [hrow] at hfound
      cases hfound
      exact hopen hstatus
    refine ⟨row, ?_, hstatus⟩
    exact (find?_record (handleDeliveryFailure (delivery.attempts + 1) error httpStatus now)
      fun _ => rfl).trans ((if_neg hid).trans hrow)
  | moved action hdeliveries _ _ _ _ => exact ⟨row, hdeliveries ▸ hrow, hstatus⟩

/-- A delivery that awaits a retry has a job that will make it. -/
structure Retried (reader : WebhookReader π) (s : WebhookSystem π) : Prop where
  inv : s.system.Inv
  job : ∀ id row, s.deliveries.find? id = some row → row.Awaiting → HasJob reader s.system.jobs id

/-- **A steady step** leaves no delivery without its job. -/
theorem Retried.of_effect (h : Retried reader s) (heffect : Effect reader s s' step)
    (hsteady : s.Steady reader step) : Retried reader s' := by
  cases heffect with
  | dispatched created hrows hquiet _ _ =>
    refine ⟨hquiet.inv h.inv, fun id row hrow hawaiting => ?_⟩
    obtain ⟨hmem, hid⟩ := find?_eq_some.1 hrow
    rw [hrows] at hmem
    rcases mem_append.1 hmem with hold | hnew
    · refine (h.job id row (hid ▸ find?_key hold) hawaiting).of_rows
        fun jobId job hjob hdelivers => ?_
      obtain ⟨job', hjob', hkeeps⟩ := hquiet.rows hjob
      exact ⟨job', hjob', hdelivers.keeps hkeeps⟩
    · -- a new delivery has not been tried
      obtain ⟨delivery, _, rfl⟩ := mem_map.1 hnew
      exact absurd hawaiting.2.2.1 (by simp [WebhookDelivery.row])
  | called key call hdeliveries hsystem _ _ _ =>
    refine ⟨hsystem ▸ h.inv, fun id row hrow hawaiting => ?_⟩
    rw [hsystem]
    exact h.job id row (hdeliveries ▸ hrow) hawaiting
  | accepted key delivery status body now _ hs' =>
    subst hs'
    refine ⟨h.inv, fun id row hrow hawaiting => ?_⟩
    have hrow := (find?_record (delivered delivery status body now) fun _ => rfl).symm.trans hrow
    split at hrow
    · obtain ⟨before, _, rfl⟩ := map_eq_some_iff.1 hrow
      cases hawaiting.1
    · exact h.job id row hrow hawaiting
  | failed key delivery error httpStatus now _ hs' hfinds =>
    subst hs'
    obtain ⟨_, _, hjob⟩ := hfinds hsteady
    refine ⟨h.inv, fun id row hrow hawaiting => ?_⟩
    have hrow := (find?_record (handleDeliveryFailure (delivery.attempts + 1) error httpStatus now)
      fun _ => rfl).symm.trans hrow
    split at hrow
    · next hid =>
      obtain ⟨before, _, rfl⟩ := map_eq_some_iff.1 hrow
      exact hid ▸ hjob hawaiting.2.2.2
    · exact h.job id row hrow hawaiting
  | moved action hdeliveries _ hsystem _ hsteady' =>
    refine ⟨hsystem ▸ h.inv.apply, fun id row hrow hawaiting => ?_⟩
    have hrow : s.deliveries.find? id = some row := hdeliveries ▸ hrow
    rw [hsystem]
    refine (h.job id row hrow hawaiting).apply h.inv fun e job hsettling hends hjob hdelivers => ?_
    exact hsteady' hsteady e job id row hsettling hends hjob hdelivers hrow hawaiting

/-! ## Runs -/

/-- Nothing is under way: no worker has a job in hand, the attempts that the rows count are
recorded, a delivery has failed after five only, and one that awaits a retry has its job. -/
structure Fresh (reader : WebhookReader π) (s : WebhookSystem π) : Prop where
  inFlight : ∀ workerId, (s.system.inFlight workerId).rows = []
  calls : ∀ key, s.calls key = none
  recorded : ∀ row ∈ s.deliveries.rows, s.recorded row.id = row.attempts
  failed : ∀ row ∈ s.deliveries.rows, row.status = .FAILED → MAX_DELIVERY_ATTEMPTS ≤ row.attempts
  job : ∀ id row, s.deliveries.find? id = some row → row.Awaiting → HasJob reader s.system.jobs id

omit [DecidableEq π] in
theorem Fresh.counted (h : Fresh reader s) : Counted s where
  attempts row hrow := (h.recorded row hrow).ge
  failed := h.failed
  reads key delivery hreads := by
    rw [Reads, h.calls] at hreads
    cases hreads

omit [DecidableEq π] in
theorem Fresh.retried (h : Fresh reader s) : Retried reader s where
  inv := by
    constructor
    all_goals
      intro workerId e he
      rw [h.inFlight] at he
      cases he
  job := h.job

theorem counted_run (h : Counted s) (steps : List (WebhookStep π)) :
    Counted (s.run reader steps) := by
  induction steps generalizing s with
  | nil => exact h
  | cons step rest ih => exact ih (h.of_effect apply_effect)

end

end WebhookSystem

/-- **Webhooks are retried and never regress.** In every run a delivery has failed only after five
recorded attempts. In every steady run a delivery that has been delivered stays so, and one that
awaits a retry has an unfinished job. -/
theorem webhooks_retried {π : Type} [DecidableEq π] (reader : WebhookReader π)
    (s : WebhookSystem π) (hfresh : s.Fresh reader) (steps : List (WebhookStep π)) :
    (∀ done, done <+: steps → ∀ row ∈ (s.run reader done).deliveries.rows,
      row.status = .FAILED → MAX_DELIVERY_ATTEMPTS ≤ (s.run reader done).recorded row.id) ∧
    ((∀ done step, done ++ [step] <+: steps → (s.run reader done).Steady reader step) →
      (∀ done step, done ++ [step] <+: steps →
        (s.run reader done).KeepsDelivered ((s.run reader done).apply reader step)) ∧
      ∀ done, done <+: steps → ∀ id row, (s.run reader done).deliveries.find? id = some row →
        row.Awaiting → HasJob reader (s.run reader done).system.jobs id) := by
  refine ⟨fun done _ row hrow hstatus => ?_, fun hsteady => ⟨fun done step hpre => ?_,
    fun done hpre id row => ?_⟩⟩
  · have hcounted : (s.run reader done).Counted :=
      WebhookSystem.counted_run hfresh.counted done
    exact (hcounted.failed row hrow hstatus).trans (hcounted.attempts row hrow)
  · exact WebhookSystem.keepsDelivered_of_effect WebhookSystem.apply_effect (hsteady done step hpre)
  · have hretried := forall_prefix_foldl hfresh.retried
      (fun _ _ h hstep => h.of_effect WebhookSystem.apply_effect hstep) hsteady
    exact (hretried done hpre).job id row

/-! ## A failure that is not retried, and a stale one -/

/-- A delivery and its job. -/
def sampleWebhooks : WebhookSystem String where
  system := {
    jobs := {
      rows := [toWorkflowJobCreateInput "j" 0
        ⟨some "w", some "e", "webhook.deliver", "d", "e:webhook:d", none⟩]
      nodup := by simp
      nodup_dedupeKey := by simp [toWorkflowJobCreateInput] }
    inFlight := fun _ => .empty }
  deliveries := ⟨[(WebhookDelivery.mk "d" "endpoint" "e" "proposal.opened" 0).row], by simp⟩
  active := fun _ => true
  calls := fun _ => none
  recorded := fun _ => 0

def sampleReader : WebhookReader String where
  sourceId _ := none
  diagnostic _ _ := .error .other
  deriveJobsForEvent _ := []
  webhookPayload := id
  deliveryId payload := some payload

/-- A worker claims the job and reads its delivery. -/
def claimDelivery (workerId : String) (now : Nat) : List (WebhookStep String) :=
  [.job (.claim workerId (fun _ => false) 10 now), .read workerId "j"]

/-- The endpoint answers, and the job of the worker is settled. -/
def answerDelivery (workerId : String) (status now : Nat) : List (WebhookStep String) :=
  [.respond workerId "j" (.ok (status, [])) true [] now, .job (.returned workerId "j" false now)]

theorem fresh_sampleWebhooks : sampleWebhooks.Fresh sampleReader where
  inFlight _ := rfl
  calls _ := rfl
  recorded row hrow := by
    obtain rfl := mem_singleton.1 hrow
    rfl
  failed row hrow hstatus := by
    obtain rfl := mem_singleton.1 hrow
    cases hstatus
  job id row hrow hawaiting := by
    obtain rfl := mem_singleton.1 (find?_eq_some.1 hrow).1
    exact absurd hawaiting.2.2.1 (by simp [WebhookDelivery.row])

/-- **A delivery at the first attempt**: the job ends with nothing to retry. -/
theorem webhooks_retried_delivered :
    (∀ done, done <+: claimDelivery "a" 1 ++ answerDelivery "a" 200 2 →
      ∀ row ∈ (sampleWebhooks.run sampleReader done).deliveries.rows,
        row.status = .FAILED →
          MAX_DELIVERY_ATTEMPTS ≤ (sampleWebhooks.run sampleReader done).recorded row.id) ∧
    (∀ done step, done ++ [step] <+: claimDelivery "a" 1 ++ answerDelivery "a" 200 2 →
      (sampleWebhooks.run sampleReader done).KeepsDelivered
        ((sampleWebhooks.run sampleReader done).apply sampleReader step)) ∧
    ∀ done, done <+: claimDelivery "a" 1 ++ answerDelivery "a" 200 2 → ∀ id row,
      (sampleWebhooks.run sampleReader done).deliveries.find? id = some row → row.Awaiting →
        HasJob sampleReader (sampleWebhooks.run sampleReader done).system.jobs id := by
  obtain ⟨hfailed, hkept⟩ := webhooks_retried sampleReader sampleWebhooks fresh_sampleWebhooks
    (claimDelivery "a" 1 ++ answerDelivery "a" 200 2)
  refine ⟨hfailed, hkept (forall_steps_cons.2 ⟨?_, forall_steps_cons.2 ⟨trivial,
    forall_steps_cons.2 ⟨?_, forall_steps_cons.2 ⟨?_, forall_steps_nil⟩⟩⟩⟩)⟩
  · intro e row deliveryId delivery hsettling
    cases hsettling
  · intro hstatus
    cases hstatus
  · intro e row deliveryId delivery _ _ _ _ hdelivery hawaiting
    have hrows : ∀ found ∈ (sampleWebhooks.run sampleReader
        (claimDelivery "a" 1 ++ [.respond "a" "j" (.ok (200, [])) true [] 2])).deliveries.rows,
        found.status = .DELIVERED := by decide +kernel
    have hdelivered := hrows delivery (find?_eq_some.1 hdelivery).1
    rw [hawaiting.1] at hdelivered
    cases hdelivered

/-- **A failed attempt is not retried**, and **a stale one** takes back a delivery: a worker is
overtaken after five minutes, and its endpoint answers late. -/
theorem not_webhooks_retried :
    (∃ row, (sampleWebhooks.run sampleReader
        (claimDelivery "a" 1 ++ answerDelivery "a" 500 2)).deliveries.find? "d" = some row ∧
      row.Awaiting ∧ ¬ HasJob sampleReader (sampleWebhooks.run sampleReader
        (claimDelivery "a" 1 ++ answerDelivery "a" 500 2)).system.jobs "d") ∧
    ¬ (sampleWebhooks.run sampleReader (claimDelivery "a" 1 ++ claimDelivery "b" 400000 ++
        answerDelivery "b" 200 400001)).KeepsDelivered
      (sampleWebhooks.run sampleReader (claimDelivery "a" 1 ++ claimDelivery "b" 400000 ++
        answerDelivery "b" 200 400001 ++ answerDelivery "a" 500 400002)) := by
  constructor
  · refine ⟨{ (WebhookDelivery.mk "d" "endpoint" "e" "proposal.opened" 0).row with
      httpStatus := some 500, attempts := 1, lastAttemptedAt := some 2, nextRetryAt := some 30002
      error := some (httpError 500 []) }, by decide +kernel, ⟨rfl, rfl, by decide, by decide⟩, ?_⟩
    rintro ⟨job, hjob, _, _, hstatus⟩
    have hended : ∀ row ∈ (sampleWebhooks.run sampleReader
        (claimDelivery "a" 1 ++ answerDelivery "a" 500 2)).system.jobs.rows,
        row.status = .COMPLETED := by decide +kernel
    rw [hended job hjob] at hstatus
    simp at hstatus
  · intro hkept
    have hdelivered : ((sampleWebhooks.run sampleReader (claimDelivery "a" 1 ++
        claimDelivery "b" 400000 ++ answerDelivery "b" 200 400001)).deliveries.find? "d").map
          WebhookDeliveryRow.status = some .DELIVERED := by decide +kernel
    obtain ⟨row, hrow, hstatus⟩ := map_eq_some_iff.1 hdelivered
    obtain ⟨row', hrow', hstatus'⟩ := hkept "d" row hrow hstatus
    have hpending : ((sampleWebhooks.run sampleReader (claimDelivery "a" 1 ++
        claimDelivery "b" 400000 ++ answerDelivery "b" 200 400001 ++
        answerDelivery "a" 500 400002)).deliveries.find? "d").map
          WebhookDeliveryRow.status = some .PENDING := by decide +kernel
    rw [hrow', map_some, hstatus'] at hpending
    cases hpending

end Corgtex.Workflows
