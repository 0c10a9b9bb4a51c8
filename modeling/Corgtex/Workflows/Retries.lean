import Corgtex.Workflows.Jobs

/-!
# The bound on retries

`failJob` and the fenced failure branch give up a job at its `MAX_ATTEMPTS`-th failure, and a claim
counts the attempt. A claim that takes a job over from a worker that never came back does not look
at the count, so a job whose handler kills its worker is claimed without end. `claims_bounded_iff`
says exactly when the bound holds. The row stays the job that was enqueued (`runJobs_enqueueJob`).
-/

namespace Corgtex.Workflows

open KeyedTable List

namespace JobSystem

section
variable {π : Type} (s : JobSystem π) (id : String)

def claims : JobAction π → List String
  | .claim workerId inactive batchSize now =>
    if (s.inFlight workerId).rows.isEmpty then
      (claimCandidates s.jobs inactive batchSize now).map WorkflowJob.id
    else []
  | _ => []

section
variable (action : JobAction π)

/-- The action claims the job from a worker that has never settled its `MAX_ATTEMPTS`-th attempt or
a later one. -/
def TakesOver : Prop :=
  id ∈ s.claims action ∧ ∃ row, s.jobs.find? id = some row ∧ row.status = .RUNNING ∧
    MAX_ATTEMPTS ≤ row.attempts

/-- The action settles a claim of the job that another worker has taken over. -/
def SettlesLate : Prop :=
  ∃ e row, s.settling action = some e ∧ e.job.id = id ∧ s.jobs.find? id = some row ∧
    row.attempts ≠ e.job.attempts

/-- The action settles the job as deferred (`outbox.ts:1347`). -/
def Defers : Prop :=
  ∃ e reason, s.settling action = some e ∧ e.job.id = id ∧ e.job.type = BRAIN_MAINTENANCE_JOB ∧
    e.failure = some (.maintenanceDeferred reason)

end

/-- The job counts its claims: a row that exists has as many attempts. -/
structure Counts (claimed : Nat) : Prop where
  row : ∀ row, s.jobs.find? id = some row → row.attempts = claimed
  missing : s.jobs.find? id = none → claimed = 0

/-- The job has an attempt left while it is pending. -/
def Retryable : Prop :=
  ∀ row, s.jobs.find? id = some row → row.attempts ≤ MAX_ATTEMPTS ∧
    (row.status = .PENDING → row.attempts < MAX_ATTEMPTS)

end

/-! ## What one step does to a job -/

section
variable {π : Type} {s : JobSystem π} {action : JobAction π} {id : String}

/-- What a step does to a row: it keeps it, claims it or settles it. -/
inductive RowStep (s : JobSystem π) (action : JobAction π) (id : String) (row : WorkflowJob π) :
    WorkflowJob π → Prop
  | keeps {row' : WorkflowJob π} (hfree : id ∉ s.claims action) (h : row.Keeps row') :
      RowStep s action id row row'
  | claims {workerId : String} {now : Nat} (hclaims : id ∈ s.claims action)
      (h : row.isClaimable now) : RowStep s action id row (row.claim workerId now)
  | settles {e : Execution π} {data : JobUpdate π} (hfree : id ∉ s.claims action)
      (hsettling : s.settling action = some e) (hid : e.job.id = id)
      (hdata : ¬ s.Defers id action → data.decrement = 0 ∧
        (data.status = .PENDING → e.job.attempts < MAX_ATTEMPTS)) :
      RowStep s action id row (data.apply row)

variable {e : Execution π} {now : Nat}

theorem failureData_pending {error : Thrown}
    (h : (e.failureData now error).status = .PENDING) : e.job.attempts < MAX_ATTEMPTS := by
  simp only [Execution.failureData] at h
  split at h
  · cases h
  · next hretry =>
    rw [Bool.or_eq_true, not_or, decide_eq_true_eq] at hretry
    exact Nat.not_le.1 hretry.1

theorem claims_of_settling (h : s.settling action = some e) : s.claims action = [] := by
  cases action with
  | claim => cases h
  | _ => rfl

theorem claims_nodup : (s.claims action).Nodup := by
  cases action with
  | claim workerId inactive batchSize now =>
    rw [claims]
    split
    · exact claimCandidates_nodup s.jobs inactive batchSize now
    · exact .nil
  | _ => exact .nil

variable {workerId : String} {settlement : Settlement π} {row : WorkflowJob π}

theorem rowStep_settle {lost : Option Thrown} (hsettling : s.settling action = some e)
    (hsuits : settlement.Suits e) (hrow : s.jobs.find? id = some row)
    (hdata : e.job.id = id → ¬ s.Defers id action → settlement.data.decrement = 0 ∧
      (settlement.data.status = .PENDING → e.job.attempts < MAX_ATTEMPTS)) :
    ∃ row', (s.settle workerId e.job.id settlement lost).jobs.find? id = some row' ∧
      RowStep s action id row row' := by
  have hfree : id ∉ s.claims action := claims_of_settling hsettling ▸ not_mem_nil
  rw [find?_settle, hrow]
  refine ⟨_, rfl, ?_⟩
  dsimp only
  split
  · next htest =>
    have hid := (hsuits.id row htest).symm.trans (find?_eq_some.1 hrow).2
    exact .settles hfree hsettling hid (hdata hid)
  · exact .keeps hfree (.inl rfl)

variable [DecidableEq π] {reader : PayloadReader π}

theorem completion_data {superseded : Bool}
    (h : e.completion workerId now reader superseded = .ok (some settlement)) :
    settlement.data.status = .COMPLETED ∧ settlement.data.decrement = 0 := by
  unfold Execution.completion at h
  dsimp only at h
  split at h
  · cases hpayload : reader.diagnostic e.job now with
    | error error => simp [hpayload, Except.map] at h
    | ok payload =>
      simp only [hpayload, Except.map, Except.ok.injEq, Option.some.injEq] at h
      subst h
      exact ⟨rfl, rfl⟩
  split at h
  · cases h
  split at h
  · cases h
    exact ⟨rfl, rfl⟩
  split at h
  · split at h
    · cases h
    · cases h
      exact ⟨rfl, rfl⟩
  split at h
  · cases h
    exact ⟨rfl, rfl⟩
  · cases h

/-- A failure that is not a deferral keeps the count, and leaves the job pending only when it has an
attempt left. -/
theorem failureSettlement_data {error : Thrown}
    (h : ∀ reason, e.job.type = BRAIN_MAINTENANCE_JOB → error ≠ .maintenanceDeferred reason) :
    (e.failureSettlement workerId now error).data.decrement = 0 ∧
      ((e.failureSettlement workerId now error).data.status = .PENDING →
        e.job.attempts < MAX_ATTEMPTS) := by
  unfold Execution.failureSettlement
  split
  · next reason htype => exact absurd rfl (h reason (of_decide_eq_true htype))
  split
  · exact ⟨rfl, by simp⟩
  split
  · exact ⟨rfl, failureData_pending⟩
  · exact ⟨rfl, failureData_pending⟩

section
variable (reader : PayloadReader π) (action : JobAction π)

/-- **A step of a job that exists.** -/
theorem rowStep_apply (hinv : s.Inv) (hrow : s.jobs.find? id = some row) :
    ∃ row', (s.apply reader action).jobs.find? id = some row' ∧ RowStep s action id row row' := by
  cases hsettling : s.settling action with
  | some e =>
    have hfree : id ∉ s.claims action := claims_of_settling hsettling ▸ not_mem_nil
    cases action with
    | returned workerId jobId superseded now =>
      obtain ⟨hfound, hphase⟩ := Option.filter_eq_some_iff.1 hsettling
      have he := (find?_eq_some.1 hfound).1
      rw [apply, hfound]
      dsimp only
      rw [if_neg (by simpa using hphase), returned]
      cases hstatement : e.completion workerId now reader superseded with
      | error error => exact ⟨row, hrow, .keeps hfree (.inl rfl)⟩
      | ok statement =>
        cases statement with
        | none => exact ⟨row, hrow, .keeps hfree (.inl rfl)⟩
        | some settlement =>
          obtain ⟨hstatus, hdecrement⟩ := completion_data hstatement
          exact rowStep_settle hsettling (e.completion_suits (hinv.lockedBy he) hstatement) hrow
            fun _ _ => ⟨hdecrement, fun h => by simp [hstatus] at h⟩
    | settleFailure workerId jobId now =>
      obtain ⟨hfound, hphase⟩ := Option.filter_eq_some_iff.1 hsettling
      obtain ⟨error, herror⟩ := Option.isSome_iff_exists.1 hphase
      obtain ⟨he, hid⟩ := find?_eq_some.1 hfound
      rw [apply, hfound]
      dsimp only
      rw [herror]
      refine rowStep_settle hsettling (e.failureSettlement_suits (hinv.lockedBy he) error) hrow
        fun hid hdefers => failureSettlement_data fun reason htype hreason => ?_
      exact hdefers ⟨e, reason, hsettling, hid, htype, hreason ▸ herror⟩
    | _ => cases hsettling
  | none =>
    cases action with
    | claim workerId inactive batchSize now =>
      rw [apply]
      cases hidle : (s.inFlight workerId).rows with
      | nil =>
        have hclaims : s.claims (.claim workerId inactive batchSize now) =
            (claimCandidates s.jobs inactive batchSize now).map WorkflowJob.id := by
          rw [claims, if_pos (by rw [hidle]; rfl)]
        have hid := (find?_eq_some.1 hrow).2
        rw [claimPendingJobs_rows hidle, hrow]
        refine ⟨_, rfl, ?_⟩
        dsimp only
        split
        · next hcandidate =>
          obtain ⟨job, hjob, hjobId⟩ := mem_map.1 hcandidate
          obtain ⟨hmem, hclaimable⟩ := mem_claimCandidates hjob
          have hfound := find?_key hmem
          obtain rfl : job = row := Option.some.inj (hfound.symm.trans (hjobId ▸ hid ▸ hrow))
          exact .claims (hclaims ▸ hid ▸ hcandidate) hclaimable
        · next hcandidate => exact .keeps (hclaims ▸ hid ▸ hcandidate) (.inl rfl)
      | cons e rest =>
        rw [claimPendingJobs, if_neg (by simp [hidle])]
        exact ⟨row, hrow, .keeps (by simp [claims, hidle]) (.inl rfl)⟩
    | _ =>
      obtain ⟨row', hrow', hkeeps⟩ := (quiet_apply reader hsettling (by simp)).rows hrow
      exact ⟨row', hrow', .keeps not_mem_nil hkeeps⟩

theorem find?_apply (haction : ∀ id now params, action ≠ .enqueue id now params) :
    ∃ data : WorkflowJob π → WorkflowJob π, ∀ id,
      (s.apply reader action).jobs.find? id = (s.jobs.find? id).map data := by
  have hsame : ∀ t : JobSystem π, t.jobs = s.jobs → ∃ data : WorkflowJob π → WorkflowJob π,
      ∀ id, t.jobs.find? id = (s.jobs.find? id).map data := by
    rintro t hjobs
    exact ⟨fun row => row, fun id => by rw [hjobs, Option.map_id']⟩
  have hrenew (test : WorkflowJob π → Bool) (stamp : Nat) (t : JobSystem π)
      (hjobs : t.jobs = s.jobs.updateMany test (fun job => { job with lockedAt := some stamp })
        (fun _ => rfl) fun _ => rfl) : ∃ data : WorkflowJob π → WorkflowJob π,
      ∀ id, t.jobs.find? id = (s.jobs.find? id).map data :=
    ⟨_, fun id => by rw [hjobs, JobTable.find?_updateMany]⟩
  cases action with
  | enqueue id now params => exact absurd rfl (haction id now params)
  | claim workerId inactive batchSize now =>
    rw [apply]
    cases hidle : (s.inFlight workerId).rows with
    | nil => exact ⟨_, claimPendingJobs_rows hidle⟩
    | cons e rest =>
      rw [claimPendingJobs, if_neg (by simp [hidle])]
      exact hsame _ rfl
  | abandon => exact hsame _ rfl
  | threw => exact hsame _ rfl
  | renew workerId jobId now =>
    rw [apply]
    split
    · unfold renewLease
      split
      · exact hrenew _ now _ rfl
      split
      · dsimp only
        split <;> exact hrenew _ _ _ rfl
      · exact hsame _ rfl
    · exact hsame _ rfl
  | returned workerId jobId superseded now =>
    rw [apply]
    split
    · split
      · exact hsame _ rfl
      · unfold returned
        split
        · exact ⟨_, find?_settle s _ _ _ _⟩
        · exact hsame _ rfl
        · exact hsame _ rfl
    · exact hsame _ rfl
  | settleFailure workerId jobId now =>
    rw [apply]
    split
    · split
      · exact ⟨_, find?_settle s _ _ _ _⟩
      · exact hsame _ rfl
    · exact hsame _ rfl

/-- **A step of a job that does not exist.** No worker claims it, and its row begins without
attempts. -/
theorem missing_apply (hmissing : s.jobs.find? id = none) : id ∉ s.claims action ∧
      ∀ row, (s.apply reader action).jobs.find? id = some row → row.attempts = 0 := by
  constructor
  · intro hclaims
    cases action with
    | claim workerId inactive batchSize now =>
      rw [claims] at hclaims
      split at hclaims
      · obtain ⟨job, hjob, rfl⟩ := mem_map.1 hclaims
        have hfound := find?_key (mem_claimCandidates hjob).1
        simp [hfound] at hmissing
      · exact not_mem_nil hclaims
    | _ => exact not_mem_nil hclaims
  · intro row hrow
    by_cases haction : ∃ jobId now params, action = .enqueue jobId now params
    · obtain ⟨jobId, now, params, rfl⟩ := haction
      rw [apply] at hrow
      unfold enqueueJob at hrow
      split at hrow
      · next jobs hjobs =>
        split at hjobs
        · cases hjobs
          simp [hmissing] at hrow
        split at hjobs
        · cases hjobs
        · next hid =>
          cases hjobs
          replace hrow := (find?_insert hid).symm.trans hrow
          rw [hmissing] at hrow
          split at hrow
          · cases hrow
            rfl
          · cases hrow
      · simp [hmissing] at hrow
    · obtain ⟨data, hdata⟩ := find?_apply (s := s) reader action
        fun jobId now params h => haction ⟨jobId, now, params, h⟩
      simp [hdata, hmissing] at hrow

end

/-! ## Counting -/

theorem Counts.apply (hinv : s.Inv) {claimed : Nat} (h : s.Counts id claimed)
    (hdefers : ¬ s.Defers id action) :
    (s.apply reader action).Counts id (claimed + (s.claims action).count id) := by
  cases hrow : s.jobs.find? id with
  | none =>
    obtain ⟨hfree, hnew⟩ := missing_apply reader action hrow
    rw [count_eq_zero_of_not_mem hfree, h.missing hrow]
    exact ⟨hnew, fun _ => rfl⟩
  | some row =>
    obtain ⟨row', hrow', hstep⟩ := rowStep_apply reader action hinv hrow
    refine ⟨fun row'' hrow'' => ?_, fun hnone => by simp [hrow'] at hnone⟩
    obtain rfl := Option.some.inj (hrow'.symm.trans hrow'')
    have hattempts := h.row row hrow
    cases hstep with
    | keeps hfree hkeeps =>
      rw [count_eq_zero_of_not_mem hfree, hkeeps.same.2.2.2, hattempts, Nat.add_zero]
    | claims hclaims =>
      rw [count_eq_one_of_mem claims_nodup hclaims, ← hattempts]
      rfl
    | settles hfree hsettling hid hdata =>
      rw [count_eq_zero_of_not_mem hfree, ← hattempts]
      exact congrArg (row.attempts - ·) (hdata hdefers).1

theorem Retryable.apply (hinv : s.Inv) (h : s.Retryable id)
    (hlate : ¬ s.SettlesLate id action) (hdefers : ¬ s.Defers id action)
    (htakes : ¬ s.TakesOver id action) : (s.apply reader action).Retryable id := by
  intro row' hrow'
  cases hrow : s.jobs.find? id with
  | none =>
    have hnew := (missing_apply reader action hrow).2 row' hrow'
    rw [hnew]
    exact ⟨Nat.zero_le _, fun _ => Nat.succ_pos _⟩
  | some row =>
    obtain ⟨row'', hrow'', hstep⟩ := rowStep_apply reader action hinv hrow
    obtain rfl := Option.some.inj (hrow'.symm.trans hrow'')
    obtain ⟨hle, hpending⟩ := h row hrow
    cases hstep with
    | keeps hfree hkeeps =>
      obtain ⟨_, hstatus, _, hattempts⟩ := hkeeps.same
      rw [hstatus, hattempts]
      exact ⟨hle, hpending⟩
    | claims hclaims hclaimable =>
      refine ⟨?_, nofun⟩
      simp only [WorkflowJob.isClaimable, Bool.or_eq_true, Bool.and_eq_true,
        decide_eq_true_eq] at hclaimable
      rcases hclaimable with ⟨hstatus, _⟩ | ⟨hstatus, _⟩
      · exact hpending hstatus
      · exact Nat.not_le.1 fun hmax => htakes ⟨hclaims, row, hrow, hstatus, hmax⟩
    | settles hfree hsettling hid hdata =>
      obtain ⟨hdecrement, hretry⟩ := hdata hdefers
      have hattempts : row.attempts = _ := not_not.1 fun hne =>
        hlate ⟨_, row, hsettling, hid, hrow, hne⟩
      refine ⟨(Nat.sub_le _ _).trans hle, fun hstatus => ?_⟩
      exact (Nat.sub_le _ _).trans_lt (hattempts ▸ hretry hstatus)

end

end JobSystem

/-! ## Runs -/

section
variable {π : Type} [DecidableEq π] (reader : PayloadReader π)

/-- How often a run claims the job. -/
def claimCount (id : String) : JobSystem π → List (JobAction π) → Nat
  | _, [] => 0
  | s, action :: actions =>
    (s.claims action).count id + claimCount id (s.apply reader action) actions

theorem claimCount_append (id : String) (s : JobSystem π) (done : List (JobAction π))
    (action : JobAction π) :
    claimCount reader id s (done ++ [action]) = claimCount reader id s done +
      ((done.foldl (fun s action => s.apply reader action) s).claims action).count id := by
  induction done generalizing s with
  | nil => simp [claimCount]
  | cons first done ih => rw [cons_append, claimCount, ih, claimCount, Nat.add_assoc]; rfl

variable {reader} {jobs : JobTable π} {id : String} {actions : List (JobAction π)}

theorem counts_runJobs (hfresh : ∀ row ∈ jobs.rows, row.attempts = 0)
    (hdefers : ∀ done action, done ++ [action] <+: actions →
      ¬ (runJobs reader jobs done).Defers id action)
    {done : List (JobAction π)} (hpre : done <+: actions) :
    (runJobs reader jobs done).Counts id (claimCount reader id ⟨jobs, fun _ => .empty⟩ done) := by
  induction done using reverseRecOn with
  | nil =>
    refine ⟨fun row hrow => ?_, fun _ => rfl⟩
    exact hfresh row (find?_eq_some.1 hrow).1
  | append_singleton done action ih =>
    have hcounts := ih ((prefix_append done [action]).trans hpre)
    rw [runJobs_append, claimCount_append]
    exact hcounts.apply (runJobs_inv reader jobs done) (hdefers done action hpre)

/-- **The bound on retries.** In a run that starts with new jobs, in which the job is not deferred
and a worker that lost its claim of the job to another one never settles it, every prefix claims
the job at most `MAX_ATTEMPTS` times if and only if no action takes it over from a worker that has
never settled its `MAX_ATTEMPTS`-th attempt. -/
theorem claims_bounded_iff (reader : PayloadReader π) (jobs : JobTable π)
    (hfresh : ∀ row ∈ jobs.rows, row.attempts = 0) (id : String) (actions : List (JobAction π))
    (hlate : ∀ done action, done ++ [action] <+: actions →
      ¬ (runJobs reader jobs done).SettlesLate id action)
    (hdefers : ∀ done action, done ++ [action] <+: actions →
      ¬ (runJobs reader jobs done).Defers id action) :
    (∀ done, done <+: actions → claimCount reader id ⟨jobs, fun _ => .empty⟩ done ≤ MAX_ATTEMPTS) ↔
      ∀ done action, done ++ [action] <+: actions →
        ¬ (runJobs reader jobs done).TakesOver id action := by
  constructor
  · rintro hbound done action hpre ⟨hclaims, row, hrow, -, hmax⟩
    have hafter := hbound _ hpre
    have hcount := counts_runJobs hfresh hdefers ((prefix_append done [action]).trans hpre)
    rw [claimCount_append, ← hcount.row row hrow] at hafter
    have hone : 1 ≤ ((runJobs reader jobs done).claims action).count id :=
      count_pos_iff.2 hclaims
    exact absurd (Nat.le_trans (Nat.add_le_add hmax hone) hafter) (Nat.not_succ_le_self _)
  · intro htakes done hpre
    have hcount := counts_runJobs hfresh hdefers hpre
    have hretryable : (runJobs reader jobs done).Retryable id := by
      clear hcount
      induction done using reverseRecOn with
      | nil =>
        intro row hrow
        rw [hfresh row (find?_eq_some.1 hrow).1]
        exact ⟨Nat.zero_le _, fun _ => Nat.succ_pos _⟩
      | append_singleton done action ih =>
        have hbefore := ih ((prefix_append done [action]).trans hpre)
        rw [runJobs_append]
        exact hbefore.apply (runJobs_inv reader jobs done) (hlate done action hpre)
          (hdefers done action hpre) (htakes done action hpre)
    cases hrow : (runJobs reader jobs done).jobs.find? id with
    | none => exact hcount.missing hrow ▸ Nat.zero_le _
    | some row => exact hcount.row row hrow ▸ (hretryable row hrow).1

end

/-- The `n`-th claim of a worker whose handler kills it. -/
def crash (n : Nat) : List (JobAction Unit) :=
  [.claim "a" (fun _ => false) 25 (n * (LOCK_TIMEOUT_MS + 1)), .abandon "a" "job"]

/-- Six claims and deaths. -/
def crashes : List (JobAction Unit) := (List.range 6).flatMap crash

/-- A job whose handler kills its worker is claimed a sixth time. -/
theorem claimCount_crashes :
    claimCount webhookReader "job" ⟨webhookJobs, fun _ => .empty⟩ crashes = 6 := by
  decide

/-- One of the claims of `crashes` takes the job over after its last attempt. -/
theorem crashes_take_over : ¬ ∀ done action, done ++ [action] <+: crashes →
    ¬ (runJobs webhookReader webhookJobs done).TakesOver "job" action := by
  have hsettling : ∀ done action, done ++ [action] <+: crashes →
      (runJobs webhookReader webhookJobs done).settling action = none := by
    intro done action hpre
    have hmem := hpre.subset (mem_append_right done (.head []))
    obtain ⟨n, -, hcrash⟩ := mem_flatMap.1 hmem
    rw [crash, mem_pair] at hcrash
    rcases hcrash with rfl | rfl <;> rfl
  intro htakes
  have hbound := (claims_bounded_iff webhookReader webhookJobs
    (fun row hrow => by rw [mem_singleton.1 hrow]; rfl) "job" crashes
    (fun done action hpre ⟨e, _, h, _⟩ => by simp [hsettling done action hpre] at h)
    (fun done action hpre ⟨e, _, h, _⟩ => by simp [hsettling done action hpre] at h)).2
    htakes crashes (prefix_refl _)
  exact absurd hbound (by decide)

/-! ## A job is enqueued once -/

/-- What a job is enqueued with, but for its payload. -/
def WorkflowJob.origin {π : Type} (job : WorkflowJob π) :=
  (job.id, job.workspaceId, job.eventId, job.type, job.dedupeKey, job.dependsOnJobId, job.createdAt)

section
variable {π : Type} {id : String} {row row' : WorkflowJob π}

theorem JobSystem.RowStep.origin {s : JobSystem π} {action : JobAction π}
    (h : RowStep s action id row row') : row'.origin = row.origin := by
  cases h with
  | keeps _ hkeeps => rcases hkeeps with rfl | ⟨_, stamp, rfl⟩ <;> rfl
  | claims => rfl
  | settles => rfl

variable [DecidableEq π] {reader : PayloadReader π} {jobs : JobTable π} {done : List (JobAction π)}

theorem runJobs_origin
    (hrow : (runJobs reader jobs done).jobs.find? id = some row) (more : List (JobAction π)) :
    ∃ row', (runJobs reader jobs (done ++ more)).jobs.find? id = some row' ∧
      row'.origin = row.origin := by
  induction more using reverseRecOn with
  | nil => exact ⟨row, by rwa [append_nil], rfl⟩
  | append_singleton more action ih =>
    obtain ⟨row', hrow', hsame⟩ := ih
    rw [← append_assoc, runJobs_append]
    obtain ⟨row'', hrow'', hstep⟩ :=
      JobSystem.rowStep_apply reader action (runJobs_inv reader jobs (done ++ more)) hrow'
    exact ⟨row'', hrow'', hstep.origin.trans hsame⟩

/-- **A job is enqueued once.** However the workers go on, its row stays the job that it was, and to
enqueue its dedupe key again changes nothing. -/
theorem runJobs_enqueueJob (hrow : (runJobs reader jobs done).jobs.find? id = some row)
    (more : List (JobAction π)) :
    let table := (runJobs reader jobs (done ++ more)).jobs
    (∃ row', table.find? id = some row' ∧ row'.origin = row.origin) ∧
      ∀ jobId now params, row.dedupeKey = some params.dedupeKey →
        enqueueJob table jobId now params = .ok table := by
  obtain ⟨row', hrow', hsame⟩ := runJobs_origin hrow more
  refine ⟨⟨row', hrow', hsame⟩, fun jobId now params hkey => ?_⟩
  have hkey' : row'.dedupeKey = row.dedupeKey := congrArg (·.2.2.2.2.1) hsame
  exact dif_pos (mem_filterMap.2 ⟨row', (find?_eq_some.1 hrow').1, hkey'.trans hkey⟩)

end

theorem runJobs_enqueueJob_stale :
    let table := (runJobs webhookReader webhookJobs ([] ++ staleActions)).jobs
    (∃ row', table.find? "job" = some row' ∧
        row'.origin = ("job", some "w", none, "webhook.deliver", some "key", none, 0)) ∧
      ∀ jobId now params, some "key" = some params.dedupeKey →
        enqueueJob table jobId now params = .ok table :=
  @runJobs_enqueueJob Unit "job" _ _ webhookReader webhookJobs [] rfl staleActions

end Corgtex.Workflows
