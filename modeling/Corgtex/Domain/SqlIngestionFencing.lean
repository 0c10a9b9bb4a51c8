import Corgtex.Domain.SqlIngestion

/-!
# Attempts are fenced

The requests of `SqlIngestion` by any number of workers, in any order, with writes of the source by
others in between (`SqlSystem`). The status of an attempt's row is what fences it: the row of every
attempt but the one that the claim names has stopped (`Sound`), a stopped row never runs again, and
no request of its token finds anything to renew, to complete or to release
(`sql_ingestion_fenced`).
-/

namespace Corgtex.Domain.SqlIngestion

open KeyedTable Option

open JsString (lit)

/-! ## Runs -/

/-- A request, or a write of the source or its logs by others. `token` is what a claim returned. -/
inductive SqlRequest where
  | claim (request : ClaimRequest) (attemptId ownerNonce : JsString)
  | renew (token : AttemptBirth)
  | stage (token : AttemptBirth) (publicationId : JsString)
  | seal (token : AttemptBirth) (publicationId : JsString)
  | publish (reads' : SqlReads) (token : AttemptBirth) (publicationId : JsString)
      (publishedCursor : Option JsString)
  | complete (reads' : SqlReads) (token : AttemptBirth) (publishedCursor : Option JsString)
  | fail (token : AttemptBirth) (error logId : JsString)
  | writeSource (source : Option ExternalDataSource)
  | openLog (logId : JsString)

/-- The rows of a source and the tokens that were handed out (`attempts`,
`sql-ingestion-attempt.ts:20`). -/
structure SqlSystem where
  store : SqlStore
  issued : List AttemptBirth

structure SqlStep where
  reads : SqlReads
  request : SqlRequest

/-- `stateOf` (`sql-ingestion-attempt.ts:28`). -/
def stateOf (issued : List AttemptBirth) (token : AttemptBirth) : Except AppError Unit :=
  fence (token ∈ issued) "SQL ingestion attempt has no trusted claim."

namespace SqlSystem

variable (key : SourceKey)

/-- A step, with the token that it hands out. -/
def perform (s : SqlSystem) (step : SqlStep) : Except AppError (SqlStore × Option AttemptBirth) :=
  match step.request with
  | .claim request attemptId ownerNonce => do
    let (store, token) ← claimSqlIngestionAttempt key step.reads s.store request attemptId
      ownerNonce
    .ok (store, some token)
  | .renew token => do
    stateOf s.issued token
    let store ← renewSqlIngestionAttempt key step.reads s.store token
    .ok (store, none)
  | .stage token publicationId => do
    stateOf s.issued token
    let store ← stagePublication key step.reads s.store token publicationId
    .ok (store, none)
  | .seal token publicationId => do
    stateOf s.issued token
    let store ← sealPublication key step.reads s.store token publicationId
    .ok (store, none)
  | .publish reads' token publicationId publishedCursor => do
    stateOf s.issued token
    let store ← publishSqlIngestionAttempt key step.reads s.store reads' token publicationId
      publishedCursor
    .ok (store, none)
  | .complete reads' token publishedCursor => do
    stateOf s.issued token
    let store ← lockAndCompleteSqlIngestionAttempt key step.reads s.store reads' token
      publishedCursor
    .ok (store, none)
  | .fail token error logId => do
    stateOf s.issued token
    let store ← failSqlIngestionAttempt key step.reads s.store token error logId
    .ok (store, none)
  | .writeSource source => .ok (SqlIngestion.writeSource step.reads s.store source, none)
  | .openLog logId => do
    let store ← SqlIngestion.openLog s.store logId
    .ok (store, none)

/-- The state after a step; a transaction that fails changes nothing. -/
def apply (s : SqlSystem) (step : SqlStep) : SqlSystem :=
  match s.perform key step with
  | .error _ => s
  | .ok (store, token) => ⟨store, token.toList ++ s.issued⟩

/-- A source nobody has claimed. -/
structure Initial (s : SqlSystem) : Prop where
  issued : s.issued = []
  attempts : s.store.attempts = .empty
  claim : ∀ claim, s.store.claim = some claim → claim.activeAttemptId = none

end SqlSystem

/-! ## What a request does -/

section
variable {key : SourceKey} {reads : SqlReads} {store store' : SqlStore} {token : AttemptBirth}

section
variable {α : Type} {condition : Bool} {message : String} {next : Unit → Except AppError α}
  {result : α}

theorem fence_bind_ok :
    (fence condition message >>= next) = .ok result ↔ condition = true ∧ next () = .ok result :=
  invariant_bind_ok

theorem admission_bind_ok :
    (admission condition message >>= next) = .ok result ↔ condition = true ∧ next () = .ok result :=
  invariant_bind_ok

end

/-- The claim and the row that make a token current. -/
structure Current (store : SqlStore) (token : AttemptBirth) (claim : SourceClaim)
    (stored : StoredAttempt) : Prop where
  claimed : store.claim = some claim
  running : claim.status = .RUNNING
  active : claim.activeAttemptId = some token.id
  generation : claim.generation = token.generation
  row : store.attempts.find? token.id = some stored
  status : stored.status = .RUNNING

theorem assertSqlIngestionAttemptCurrent_ok {cursor : Option JsString}
    (h : assertSqlIngestionAttemptCurrent key reads store token cursor = .ok ()) :
    ∃ claim stored, Current store token claim stored := by
  rw [assertSqlIngestionAttemptCurrent] at h
  obtain ⟨hcurrent, _⟩ := fence_bind_ok.1 h
  simp only [Bool.and_eq_true] at hcurrent
  obtain ⟨claim, hclaim, hrest⟩ := (any_eq_true _ _).1 hcurrent.1.2
  simp only [Bool.and_eq_true, decide_eq_true_eq] at hrest
  obtain ⟨stored, hstored, hrow⟩ := (any_eq_true _ _).1 hrest.2
  simp only [Bool.and_eq_true, decide_eq_true_eq] at hrow
  exact ⟨claim, stored, hclaim, hrest.1.1.1.1.1.1, hrest.1.1.1.1.1.2, hrest.1.1.1.1.2, hstored,
    hrow.1.1.1.1.1.1.1⟩

theorem lockSqlIngestionAttempt_ok (h : lockSqlIngestionAttempt key reads store token = .ok ()) :
    ∃ claim stored, Current store token claim stored := by
  rw [lockSqlIngestionAttempt] at h
  obtain ⟨_, h⟩ := fence_bind_ok.1 h
  exact assertSqlIngestionAttemptCurrent_ok h

/-- What every request leaves of the rows: births, stopped and succeeded attempts with what was
published under them, and the generation, which only grows. -/
structure Frame (store store' : SqlStore) : Prop where
  rows : ∀ id attempt, store.attempts.find? id = some attempt →
    ∃ attempt', store'.attempts.find? id = some attempt' ∧ attempt'.birth = attempt.birth ∧
      (attempt.status ≠ .RUNNING → attempt'.status ≠ .RUNNING) ∧
      (attempt.status = .SUCCEEDED → attempt'.status = .SUCCEEDED)
  staged : ∀ publication ∈ store.publications.rows, ∀ attempt,
    store.attempts.find? publication.attemptId = some attempt → attempt.status = .SUCCEEDED →
      publication ∈ store'.publications.rows
  generation : ∀ claim, store.claim = some claim →
    ∃ claim', store'.claim = some claim' ∧ claim.generation ≤ claim'.generation

theorem Frame.refl (store : SqlStore) : Frame store store where
  rows _ attempt h := ⟨attempt, h, rfl, id, id⟩
  staged _ h _ _ _ := h
  generation claim h := ⟨claim, h, le_rfl⟩

variable {attempt : StoredAttempt} {data : StoredAttempt → StoredAttempt}
  {test : StoredAttempt → Bool}

variable {table : KeyedTable StoredAttempt StoredAttempt.id} {id : JsString}

theorem rows_of_updateMany
    (hkey : ∀ row, (data row).id = row.id) (hbirth : ∀ row, (data row).birth = row.birth)
    (hstopped : ∀ row, test row = true → row.status ≠ .RUNNING → (data row).status ≠ .RUNNING)
    (hsucceeded : ∀ row, test row = true → row.status = .SUCCEEDED →
      (data row).status = .SUCCEEDED) (h : table.find? id = some attempt) :
    ∃ attempt', (table.updateMany test data hkey).find? id = some attempt' ∧
      attempt'.birth = attempt.birth ∧ (attempt.status ≠ .RUNNING → attempt'.status ≠ .RUNNING) ∧
      (attempt.status = .SUCCEEDED → attempt'.status = .SUCCEEDED) := by
  rw [find?_updateMany, h]
  by_cases htest : test attempt = true
  · exact ⟨data attempt, by simp [htest], hbirth _, hstopped _ htest, hsucceeded _ htest⟩
  · exact ⟨attempt, by simp [htest], rfl, fun h => h, fun h => h⟩

theorem find?_of_updateMany
    (hkey : ∀ row, (data row).id = row.id)
    (h : (table.updateMany test data hkey).find? id = some attempt) :
    ∃ old, table.find? id = some old ∧ attempt = if test old then data old else old := by
  rw [find?_updateMany hkey, map_eq_some_iff] at h
  obtain ⟨old, hold, hnew⟩ := h
  exact ⟨old, hold, hnew.symm⟩

/-- **A renewal** moves the lease of the current attempt. -/
theorem renew_effect (h : renewSqlIngestionAttempt key reads store token = .ok store') :
    (∃ claim stored, Current store token claim stored) ∧
      ∃ leaseExpiresAt, store' = { store with
        claim := store.claim.map fun claim => { claim with leaseExpiresAt := some leaseExpiresAt }
        attempts := store.attempts.update token.id
          (fun attempt => { attempt with leaseExpiresAt }) fun _ => rfl } := by
  rw [renewSqlIngestionAttempt] at h
  obtain ⟨_, hassert, h⟩ := bind_ok.1 h
  cases h
  exact ⟨assertSqlIngestionAttemptCurrent_ok hassert, _, rfl⟩

/-- What a completion leaves: the current attempt has succeeded and the claim is released. -/
structure Completed (store store' : SqlStore) (token : AttemptBirth) (completedAt : Nat) :
    Prop where
  current : ∃ claim stored, Current store token claim stored
  claim : store'.claim = store.claim.map (·.release .SUCCEEDED)
  attempts : store'.attempts =
    store.attempts.update token.id (·.stop .SUCCEEDED completedAt) (fun _ => rfl)
  staged : ∀ publication ∈ store.publications.rows, publication.attemptId ≠ token.id →
    publication ∈ store'.publications.rows

variable {publicationId : JsString} {publishedCursor : Option JsString}

/-- **A publication** completes the current attempt. -/
theorem publish_effect {reads' : SqlReads}
    (h : publishSqlIngestionAttempt key reads store reads' token publicationId publishedCursor =
      .ok store') : Completed store store' token reads'.finishedAt := by
  rw [publishSqlIngestionAttempt] at h
  obtain ⟨_, hlock, h⟩ := bind_ok.1 h
  obtain ⟨_, h⟩ := fence_bind_ok.1 h
  rw [completeSqlIngestionAttempt] at h
  obtain ⟨_, _, h⟩ := bind_ok.1 h
  cases h
  refine ⟨lockSqlIngestionAttempt_ok hlock, rfl, rfl, fun publication hmem hne => ?_⟩
  exact List.mem_map.2 ⟨publication, hmem, by simp [hne]⟩

theorem complete_effect {reads' : SqlReads}
    (h : lockAndCompleteSqlIngestionAttempt key reads store reads' token publishedCursor =
      .ok store') : Completed store store' token reads'.finishedAt := by
  rw [lockAndCompleteSqlIngestionAttempt] at h
  obtain ⟨_, hlock, h⟩ := bind_ok.1 h
  rw [completeSqlIngestionAttempt] at h
  obtain ⟨_, _, h⟩ := bind_ok.1 h
  cases h
  exact ⟨lockSqlIngestionAttempt_ok hlock, rfl, rfl, fun _ hmem _ => hmem⟩

section
variable (attempts : KeyedTable StoredAttempt StoredAttempt.id) (claim : SourceClaim) (now : Nat)

/-- The attempts that a claim leaves, before its own. -/
def reclaimed : KeyedTable StoredAttempt StoredAttempt.id :=
  attempts.updateMany
    (fun attempt => claim.activeAttemptId = some attempt.id && attempt.status = .RUNNING)
    (·.stop .RECLAIMED now) fun _ => rfl

theorem find?_reclaimed (id : JsString) :
    (reclaimed attempts claim now).find? id = (attempts.find? id).map fun attempt =>
      if claim.activeAttemptId = some attempt.id && attempt.status = .RUNNING then
        attempt.stop .RECLAIMED now
      else attempt := by
  have hkey : ∀ attempt : StoredAttempt, (attempt.stop .RECLAIMED now).id = attempt.id :=
    fun _ => rfl
  exact find?_updateMany hkey

end

theorem reclaimed_rows (claim : SourceClaim) (now : Nat) {attempt : StoredAttempt}
    (h : store.attempts.find? id = some attempt) :
    ∃ attempt', (reclaimed store.attempts claim now).find? id = some attempt' ∧
      attempt'.birth = attempt.birth ∧ (attempt.status ≠ .RUNNING → attempt'.status ≠ .RUNNING) ∧
      (attempt.status = .SUCCEEDED → attempt'.status = .SUCCEEDED) := by
  rw [reclaimed]
  refine rows_of_updateMany _ ?_ ?_ ?_ h
  · exact fun _ => rfl
  · intro _ _ _
    simp [StoredAttempt.stop]
  · intro row htest hsucceeded
    simp [hsucceeded] at htest

variable {attemptId ownerNonce : JsString} {request : ClaimRequest}

/-- **A claim** stops the attempt before it and makes a new one the owner. -/
theorem claim_effect
    (h : claimSqlIngestionAttempt key reads store request attemptId ownerNonce =
      .ok (store', token)) :
    token.id = attemptId ∧ token.generation = store.claimRow.generation + 1 ∧
      (∃ claim', store'.claim = some claim' ∧ claim'.status = .RUNNING ∧
        claim'.activeAttemptId = some attemptId ∧ claim'.generation = token.generation ∧
        claim'.ownerNonce = some token.ownerNonce) ∧
      store'.publications = store.publications ∧
      ∃ attempt : StoredAttempt, attempt.birth = token ∧ attempt.status = .RUNNING ∧
        store.attempts.find? attemptId = none ∧
        ∀ id, store'.attempts.find? id =
          if id = attemptId then some attempt
          else (reclaimed store.attempts store.claimRow reads.now).find? id := by
  rw [claimSqlIngestionAttempt] at h
  obtain ⟨_, h⟩ := admission_bind_ok.1 h
  obtain ⟨_, h⟩ := admission_bind_ok.1 h
  obtain ⟨_, h⟩ := admission_bind_ok.1 h
  obtain ⟨_, h⟩ := admission_bind_ok.1 h
  obtain ⟨proof, _, h⟩ := bind_ok.1 h
  dsimp only at h
  split at h
  · cases h
  next entry _ =>
  split at h
  · cases h
  next hnew =>
  split at h
  · cases h
  · cases h
    have hfree := find?_eq_none.2 hnew
    refine ⟨rfl, rfl, ⟨_, rfl, rfl, rfl, rfl, rfl⟩, rfl,
      ⟨_, .RUNNING, reads.now + SQL_INGESTION_LEASE_MS, none, none⟩, rfl, rfl, ?_, fun id => ?_⟩
    · cases hold : store.attempts.find? attemptId with
      | none => rfl
      | some old =>
        obtain ⟨_, hfound, _⟩ := reclaimed_rows store.claimRow reads.now hold
        exact absurd (hfound.symm.trans hfree) (by simp)
    · exact find?_of_rows_append rfl hfree

/-- The row that a token names. -/
theorem matches_id (h : attempt.matches token = true) : attempt.id = token.id := by
  simp only [StoredAttempt.matches, Bool.and_eq_true, decide_eq_true_eq] at h
  exact h.1.1.1.1

theorem matches_birth {attempt : StoredAttempt} (h : attempt.birth = token) :
    attempt.matches token = true := by
  simp [StoredAttempt.matches, StoredAttempt.id, h]

variable {stored : StoredAttempt} {error logId : JsString}

/-- **A failure** of a token whose row is `stored`. The source changes only if the token is
current. -/
theorem fail_effect (hstored : store.attempts.find? token.id = some stored)
    (hbirth : stored.birth = token)
    (h : failSqlIngestionAttempt key reads store token error logId = .ok store') :
    (store'.source = store.source ∨ ∃ claim stored, Current store token claim stored) ∧
      store'.claim = (if stored.status.mayFail then store.claim.map fun claim =>
        if claim.isOwnedBy token then claim.release .FAILED else claim else store.claim) ∧
      store'.attempts = store.attempts.updateMany
        (fun attempt => attempt.matches token && attempt.status.mayFail)
        (fun attempt => { attempt.stop .FAILED reads.now with error := some (error.take 2000) })
        (fun _ => rfl) ∧
      store'.publications = (if stored.status.mayFail || stored.status = .FAILED then
        store.publications.filter fun publication => !publication.isUncommitted token
      else store.publications) := by
  have hany : ∀ test : AttemptStatus → Bool,
      (store.attempts.rows.any fun attempt => attempt.matches token && test attempt.status) =
        test stored.status := by
    intro test
    have hmem := find?_eq_some.1 hstored
    rw [Bool.eq_iff_iff, List.any_eq_true]
    constructor
    · rintro ⟨attempt, hattempt, htest⟩
      rw [Bool.and_eq_true] at htest
      have hsame := find?_eq_some.2 ⟨hattempt, matches_id htest.1⟩
      cases hstored.symm.trans hsame
      exact htest.2
    · intro htest
      exact ⟨stored, hmem.1, by simp [matches_birth hbirth, htest]⟩
  rw [failSqlIngestionAttempt] at h
  obtain ⟨_, h⟩ := fence_bind_ok.1 h
  obtain ⟨owns, howns, h⟩ := bind_ok.1 h
  have hfailed := hany AttemptStatus.mayFail
  have hwas := hany (fun status => status = .FAILED)
  cases h
  refine ⟨?_, ?_, rfl, ?_⟩
  · cases owns with
    | false => exact .inl (by simp)
    | true =>
      right
      rw [ownsSource] at howns
      split at howns
      · next hassert => exact assertSqlIngestionAttemptCurrent_ok hassert
      · next failure _ =>
        split at howns <;> cases howns
  · simp only [hfailed]
  · simp only [hfailed, hwas]

/-! ## The frame of every request -/

theorem frame_claim
    (h : claimSqlIngestionAttempt key reads store request attemptId ownerNonce =
      .ok (store', token)) : Frame store store' := by
  obtain ⟨_, hgeneration, ⟨claim', hclaim', _, _, hnext, _⟩, hpublications, attempt, _, _, hfree,
    hrows⟩ := claim_effect h
  refine ⟨fun id old hold => ?_, fun publication hmem _ _ _ => hpublications ▸ hmem,
    fun claim hclaim => ⟨claim', hclaim', ?_⟩⟩
  · have hne : id ≠ attemptId := by
      rintro rfl
      rw [hfree] at hold
      cases hold
    rw [hrows, if_neg hne]
    exact reclaimed_rows _ _ hold
  · rw [hnext, hgeneration, SqlStore.claimRow, hclaim]
    exact Nat.le_succ _

theorem frame_renew (h : renewSqlIngestionAttempt key reads store token = .ok store') :
    Frame store store' := by
  obtain ⟨_, leaseExpiresAt, rfl⟩ := renew_effect h
  refine ⟨fun id old hold => ?_, fun _ hmem _ _ _ => hmem,
    fun claim hclaim => ⟨{ claim with leaseExpiresAt := some leaseExpiresAt }, ?_, le_rfl⟩⟩
  · have hlease (row : StoredAttempt) : ({ row with leaseExpiresAt } : StoredAttempt).id = row.id :=
      rfl
    exact rows_of_updateMany hlease (fun _ => rfl) (fun _ _ h => h) (fun _ _ h => h) hold
  · rw [hclaim]
    rfl

/-- A change of publications other than those of a succeeded attempt. -/
theorem frame_publications
    {publications : KeyedTable SqlKnowledgePublication SqlKnowledgePublication.id}
    {claim : SourceClaim} (hcurrent : Current store token claim stored)
    (h : ∀ publication ∈ store.publications.rows, publication.attemptId ≠ token.id →
      publication ∈ publications.rows) :
    Frame store { store with publications } := by
  refine ⟨(Frame.refl store).rows, fun publication hmem attempt hattempt hsucceeded => ?_,
    (Frame.refl store).generation⟩
  refine h publication hmem fun heq => ?_
  rw [heq, hcurrent.row] at hattempt
  cases hattempt
  rw [hcurrent.status] at hsucceeded
  cases hsucceeded

theorem frame_stage (h : stagePublication key reads store token publicationId = .ok store') :
    Frame store store' ∧ store'.claim = store.claim ∧ store'.attempts = store.attempts := by
  rw [stagePublication] at h
  obtain ⟨_, hlock, h⟩ := bind_ok.1 h
  obtain ⟨claim, stored, hcurrent⟩ := lockSqlIngestionAttempt_ok hlock
  dsimp only at h
  split at h
  · cases h
  split at h
  · cases h
  · cases h
    exact ⟨frame_publications hcurrent fun publication hmem _ => List.mem_append_left _ hmem,
      rfl, rfl⟩

theorem frame_seal (h : sealPublication key reads store token publicationId = .ok store') :
    Frame store store' ∧ store'.claim = store.claim ∧ store'.attempts = store.attempts := by
  rw [sealPublication] at h
  obtain ⟨_, hlock, h⟩ := bind_ok.1 h
  obtain ⟨claim, stored, hcurrent⟩ := lockSqlIngestionAttempt_ok hlock
  cases h
  refine ⟨frame_publications hcurrent fun publication hmem hne => ?_, rfl, rfl⟩
  exact List.mem_map.2 ⟨publication, hmem, by simp [hne]⟩

theorem frame_completed {completedAt : Nat} (h : Completed store store' token completedAt) :
    Frame store store' := by
  obtain ⟨⟨claim, stored, hcurrent⟩, hclaim, hattempts, hpublications⟩ := h
  refine ⟨fun id old hold => ?_, fun publication hmem attempt hattempt hsucceeded => ?_,
    fun old hold => ⟨old.release .SUCCEEDED, by rw [hclaim, hold]; rfl, le_rfl⟩⟩
  · rw [hattempts]
    refine rows_of_updateMany _ ?_ ?_ ?_ hold
    · exact fun _ => rfl
    · exact fun _ _ _ => by simp [StoredAttempt.stop]
    · exact fun _ _ _ => rfl
  · refine hpublications publication hmem fun heq => ?_
    rw [heq, hcurrent.row] at hattempt
    cases hattempt
    rw [hcurrent.status] at hsucceeded
    cases hsucceeded

theorem frame_fail (hstored : store.attempts.find? token.id = some stored)
    (hbirth : stored.birth = token)
    (h : failSqlIngestionAttempt key reads store token error logId = .ok store') :
    Frame store store' := by
  obtain ⟨_, hclaim, hattempts, hpublications⟩ := fail_effect hstored hbirth h
  refine ⟨fun id old hold => ?_, fun publication hmem attempt hattempt hsucceeded => ?_,
    fun old hold => ?_⟩
  · rw [hattempts]
    refine rows_of_updateMany _ ?_ ?_ ?_ hold
    · exact fun _ => rfl
    · exact fun _ _ _ => by simp [StoredAttempt.stop]
    · intro row htest hsucceeded
      simp [hsucceeded, AttemptStatus.mayFail] at htest
  · rw [hpublications]
    split
    · next hterminal =>
      refine mem_filter.2 ⟨hmem, ?_⟩
      by_contra hown
      have hid : publication.attemptId = token.id := by
        simp only [SqlKnowledgePublication.isUncommitted, Bool.not_eq_true', Bool.not_eq_false,
          Bool.and_eq_true, decide_eq_true_eq] at hown
        exact hown.1.1.1.1
      rw [hid, hstored] at hattempt
      cases hattempt
      simp [hsucceeded, AttemptStatus.mayFail] at hterminal
    · exact hmem
  · rw [hclaim]
    split
    · refine ⟨_, by rw [hold]; rfl, ?_⟩
      dsimp only
      split
      · exact le_rfl
      · exact le_rfl
    · exact ⟨old, hold, le_rfl⟩

theorem frame_writeSource (reads : SqlReads) (store : SqlStore)
    (source : Option ExternalDataSource) : Frame store (writeSource reads store source) := by
  rw [writeSource]
  dsimp only
  split
  · exact ⟨(Frame.refl store).rows, (Frame.refl store).staged, (Frame.refl store).generation⟩
  · refine ⟨fun id old hold => ?_, fun _ hmem _ _ _ => hmem, fun claim hclaim => ⟨_, rfl, ?_⟩⟩
    · have hstop : ∀ row : StoredAttempt, (row.stop .REVOKED reads.now).id = row.id := fun _ => rfl
      refine rows_of_updateMany hstop (fun _ => rfl) ?_ ?_ hold
      · exact fun _ _ _ => by simp [StoredAttempt.stop]
      · intro row htest hsucceeded
        simp [hsucceeded] at htest
    · split
      · simp [SourceClaim.revoke, hclaim]
        omega
      · simp [SourceClaim.revoke, hclaim]

theorem frame_openLog (h : openLog store logId = .ok store') :
    Frame store store' ∧ store'.claim = store.claim ∧ store'.attempts = store.attempts := by
  rw [openLog] at h
  dsimp only at h
  split at h
  · cases h
  · cases h
    exact ⟨⟨(Frame.refl store).rows, (Frame.refl store).staged, (Frame.refl store).generation⟩,
      rfl, rfl⟩

/-! ## The owner of a source -/

/-- The attempt that the claim names is the one that runs. -/
structure Owned (store : SqlStore) : Prop where
  running : ∀ id attempt, store.attempts.find? id = some attempt → attempt.status = .RUNNING →
    ∃ claim, store.claim = some claim ∧ claim.status = .RUNNING ∧
      claim.activeAttemptId = some id ∧ claim.generation = attempt.birth.generation ∧
      claim.ownerNonce = some attempt.birth.ownerNonce
  active : ∀ claim id, store.claim = some claim → claim.activeAttemptId = some id →
    ∃ attempt, store.attempts.find? id = some attempt ∧ attempt.status = .RUNNING

theorem Owned.of_same (h : Owned store) (hclaim : store'.claim = store.claim)
    (hattempts : store'.attempts = store.attempts) : Owned store' := by
  refine ⟨?_, ?_⟩
  · rw [hclaim, hattempts]
    exact h.running
  · rw [hclaim, hattempts]
    exact h.active

theorem owned_of_stopped
    (hstopped : ∀ id attempt, store.attempts.find? id = some attempt → attempt.status ≠ .RUNNING)
    (hclaim : ∀ claim, store.claim = some claim → claim.activeAttemptId = none) : Owned store := by
  refine ⟨fun id attempt hrow hrunning => absurd hrunning (hstopped id attempt hrow), ?_⟩
  intro claim id hsome hactive
  rw [hclaim claim hsome] at hactive
  cases hactive

/-- Two attempts do not run at once. -/
theorem Owned.eq_of_running (h : Owned store) {id id' : JsString} {attempt' : StoredAttempt}
    (hrow : store.attempts.find? id = some attempt) (hrunning : attempt.status = .RUNNING)
    (hrow' : store.attempts.find? id' = some attempt') (hrunning' : attempt'.status = .RUNNING) :
    id = id' := by
  obtain ⟨claim, hclaim, _, hactive, _⟩ := h.running id attempt hrow hrunning
  obtain ⟨claim', hclaim', _, hactive', _⟩ := h.running id' attempt' hrow' hrunning'
  cases hclaim.symm.trans hclaim'
  exact some.inj (hactive.symm.trans hactive')

theorem owned_claim (hs : Owned store)
    (h : claimSqlIngestionAttempt key reads store request attemptId ownerNonce =
      .ok (store', token)) : Owned store' := by
  obtain ⟨_, _, ⟨claim', hclaim', hrunning', hactive', hgeneration', hnonce'⟩, _, attempt, hbirth,
    hstatus, _, hrows⟩ := claim_effect h
  refine ⟨fun id other hother hrunning => ?_, fun claim id hclaim hactive => ?_⟩
  · rw [hrows] at hother
    split at hother
    · next hid =>
      cases hother
      exact ⟨claim', hclaim', hrunning', hid ▸ hactive', hbirth ▸ hgeneration', hbirth ▸ hnonce'⟩
    · -- a row that still runs was the one that the claim named, and was stopped
      rw [find?_reclaimed, map_eq_some_iff] at hother
      obtain ⟨old, hold, hnew⟩ := hother
      split at hnew
      · cases hnew
        cases hrunning
      · next htest =>
        cases hnew
        obtain ⟨claim, hclaim, _, hactive, _⟩ := hs.running id _ hold hrunning
        have hid := (find?_eq_some.1 hold).2
        simp [SqlStore.claimRow, hclaim, hactive, hid, hrunning] at htest
  · cases hclaim'.symm.trans hclaim
    cases hactive'.symm.trans hactive
    exact ⟨attempt, by rw [hrows, if_pos rfl], hstatus⟩

theorem owned_renew (hs : Owned store)
    (h : renewSqlIngestionAttempt key reads store token = .ok store') : Owned store' := by
  obtain ⟨_, leaseExpiresAt, rfl⟩ := renew_effect h
  have hsame : ∀ (test : Bool) (row : StoredAttempt),
      (if test then { row with leaseExpiresAt } else row).status = row.status ∧
        (if test then { row with leaseExpiresAt } else row).birth = row.birth := by
    intro test row
    cases test <;> exact ⟨rfl, rfl⟩
  have hlease : ∀ row : StoredAttempt, ({ row with leaseExpiresAt } : StoredAttempt).id = row.id :=
    fun _ => rfl
  refine ⟨fun id attempt hrow hrunning => ?_, fun claim id hclaim hactive => ?_⟩
  · obtain ⟨old, hold, rfl⟩ := find?_of_updateMany hlease hrow
    obtain ⟨hstatus, hbirth⟩ := hsame (old.id = token.id) old
    obtain ⟨claim, hclaim, hrest⟩ := hs.running id old hold (hstatus.symm.trans hrunning)
    refine ⟨{ claim with leaseExpiresAt := some leaseExpiresAt }, by simp [hclaim], ?_⟩
    rw [hbirth]
    exact hrest
  · obtain ⟨old, hold, rfl⟩ := map_eq_some_iff.1 hclaim
    obtain ⟨attempt, hrow, hrunning⟩ := hs.active old id hold hactive
    refine ⟨_, (find?_updateMany hlease).trans (by rw [hrow]; rfl), ?_⟩
    exact (hsame _ _).1.trans hrunning

/-- **The owner stops** and the claim is released. -/
theorem owned_release {hkey : ∀ row, (data row).id = row.id} {status : ClaimStatus}
    (hs : Owned store) (hrow : store.attempts.find? token.id = some stored)
    (hrunning : stored.status = .RUNNING) (htest : test stored = true)
    (hdata : ∀ row, (data row).status ≠ .RUNNING)
    (hclaim : store'.claim = store.claim.map (·.release status))
    (hattempts : store'.attempts = store.attempts.updateMany test data hkey) : Owned store' := by
  refine owned_of_stopped (fun id attempt hattempt => ?_) fun claim hsome => ?_
  · rw [hattempts] at hattempt
    obtain ⟨old, hold, rfl⟩ := find?_of_updateMany _ hattempt
    split
    · exact hdata old
    · next hno =>
      intro hold_running
      have hid := hs.eq_of_running hold hold_running hrow hrunning
      rw [hid, hrow] at hold
      cases hold
      exact hno htest
  · rw [hclaim] at hsome
    obtain ⟨old, _, rfl⟩ := map_eq_some_iff.1 hsome
    rfl

theorem owned_completed {completedAt : Nat} (hs : Owned store)
    (h : Completed store store' token completedAt) : Owned store' := by
  obtain ⟨⟨claim, stored, hcurrent⟩, hclaim, hattempts, _⟩ := h
  refine owned_release hs hcurrent.row hcurrent.status ?_ ?_ hclaim hattempts
  · simpa using (find?_eq_some.1 hcurrent.row).2
  · intro row
    simp [StoredAttempt.stop]

section
variable (hs : Owned store) (hstored : store.attempts.find? token.id = some stored)
  (hbirth : stored.birth = token)
include hs hstored hbirth

/-- **A failure of a stopped attempt** leaves the claim: the attempt that it names runs. -/
theorem claim_of_stopped_fail (hstopped : stored.status ≠ .RUNNING)
    (h : failSqlIngestionAttempt key reads store token error logId = .ok store') :
    store'.claim = store.claim := by
  obtain ⟨_, hclaim, _⟩ := fail_effect hstored hbirth h
  rw [hclaim]
  split
  · cases hsome : store.claim with
    | none => rfl
    | some claim =>
      rw [map_some, if_neg]
      intro howned
      simp only [SourceClaim.isOwnedBy, Bool.and_eq_true, decide_eq_true_eq] at howned
      obtain ⟨attempt, hrow, hrunning⟩ := hs.active claim token.id hsome howned.1.1.2
      cases hstored.symm.trans hrow
      exact hstopped hrunning
  · rfl

theorem owned_fail (h : failSqlIngestionAttempt key reads store token error logId = .ok store') :
    Owned store' := by
  obtain ⟨_, hclaim, hattempts, _⟩ := fail_effect hstored hbirth h
  by_cases hrunning : stored.status = .RUNNING
  · obtain ⟨claim, hsome, hstatus, hactive, hgeneration, hnonce⟩ :=
      hs.running token.id stored hstored hrunning
    have howned : claim.isOwnedBy token = true := by
      simp [SourceClaim.isOwnedBy, hstatus, hactive, hgeneration, hnonce, hbirth]
    have hreleased : store'.claim = store.claim.map (·.release .FAILED) := by
      simp [hclaim, hrunning, AttemptStatus.mayFail, hsome, howned]
    refine owned_release hs hstored hrunning ?_ ?_ hreleased hattempts
    · simp [matches_birth hbirth, hrunning, AttemptStatus.mayFail]
    · intro row
      simp [StoredAttempt.stop]
  · -- the row has stopped: neither it nor the claim is that of the attempt that runs
    have hsame : store'.claim = store.claim := claim_of_stopped_fail hs hstored hbirth hrunning h
    refine ⟨fun id attempt hattempt hrun => ?_, fun claim id hsome hactive => ?_⟩
    · rw [hattempts] at hattempt
      obtain ⟨old, hold, rfl⟩ := find?_of_updateMany _ hattempt
      split at hrun
      · cases hrun
      · next hno =>
        rw [hsame, if_neg hno]
        exact hs.running id old hold hrun
    · rw [hsame] at hsome
      obtain ⟨attempt, hrow, hrun⟩ := hs.active claim id hsome hactive
      refine ⟨attempt, ?_, hrun⟩
      have hfail : ∀ row : StoredAttempt, ({ row.stop .FAILED reads.now with
          error := some (error.take 2000) } : StoredAttempt).id = row.id := fun _ => rfl
      rw [hattempts]
      refine (find?_updateMany hfail).trans ?_
      rw [hrow, map_some, if_neg]
      intro htest
      rw [Bool.and_eq_true] at htest
      have hid : id = token.id :=
        (find?_eq_some.1 hrow).2.symm.trans (matches_id htest.1)
      rw [hid, hstored] at hrow
      cases hrow
      exact hrunning hrun

end

theorem owned_writeSource (reads : SqlReads) (source : Option ExternalDataSource)
    (hs : Owned store) : Owned (writeSource reads store source) := by
  rw [writeSource]
  dsimp only
  split
  · exact hs.of_same rfl rfl
  · refine owned_of_stopped (fun id attempt hrow => ?_) fun claim hclaim => ?_
    · have hstop : ∀ row : StoredAttempt, (row.stop .REVOKED reads.now).id = row.id := fun _ => rfl
      obtain ⟨old, _, rfl⟩ := find?_of_updateMany hstop hrow
      split
      · simp [StoredAttempt.stop]
      · next htest => simpa using htest
    · cases hclaim
      split <;> rfl

end

/-! ## Runs are fenced -/

/-- A token whose attempt has stopped. -/
def Over (store : SqlStore) (token : AttemptBirth) : Prop :=
  ∃ stored, store.attempts.find? token.id = some stored ∧ stored.birth = token ∧
    stored.status ≠ .RUNNING

/-- The row of every token that was handed out is there, and one attempt at most runs. -/
structure SqlSystem.Sound (s : SqlSystem) : Prop where
  issued : ∀ token ∈ s.issued, ∃ stored, s.store.attempts.find? token.id = some stored ∧
    stored.birth = token
  owned : Owned s.store

/-- A token that can do nothing more: neither renew nor publish nor complete, and if it fails, the
source and the claim are left as they are. -/
structure Retired (key : SourceKey) (s : SqlSystem) (token : AttemptBirth) : Prop where
  renew : ∀ reads store, renewSqlIngestionAttempt key reads s.store token ≠ .ok store
  publish : ∀ reads reads' publicationId cursor store,
    publishSqlIngestionAttempt key reads s.store reads' token publicationId cursor ≠ .ok store
  complete : ∀ reads reads' cursor store,
    lockAndCompleteSqlIngestionAttempt key reads s.store reads' token cursor ≠ .ok store
  fail : ∀ reads error logId store,
    failSqlIngestionAttempt key reads s.store token error logId = .ok store →
      store.source = s.store.source ∧ store.claim = s.store.claim

/-- What a step keeps of the fence. -/
structure Fenced (key : SourceKey) (s : SqlSystem) (step : SqlStep) : Prop where
  generation : ∀ claim, s.store.claim = some claim →
    ∃ claim', (s.apply key step).store.claim = some claim' ∧ claim.generation ≤ claim'.generation
  claimed : ∀ request attemptId ownerNonce store token,
    claimSqlIngestionAttempt key step.reads s.store request attemptId ownerNonce =
        .ok (store, token) →
      (∃ claim, store.claim = some claim ∧ claim.activeAttemptId = some token.id ∧
        claim.generation = s.store.claimRow.generation + 1) ∧
      ∀ earlier ∈ s.issued, Over store earlier
  failed : ∀ token ∈ s.issued, ∀ error logId store,
    failSqlIngestionAttempt key step.reads s.store token error logId = .ok store →
      Over store token ∧ ∀ publication ∈ s.store.publications.rows,
        publication ∈ store.publications.rows ∨ publication.isUncommitted token = true
  succeeded : ∀ id attempt, s.store.attempts.find? id = some attempt →
    attempt.status = .SUCCEEDED →
      (∃ attempt', (s.apply key step).store.attempts.find? id = some attempt' ∧
        attempt'.status = .SUCCEEDED) ∧
      ∀ publication ∈ s.store.publications.rows, publication.attemptId = id →
        publication ∈ (s.apply key step).store.publications.rows
  oneCurrent : ∀ token ∈ s.issued, ∀ token' ∈ s.issued, ∀ reads reads' cursor cursor',
    assertSqlIngestionAttemptCurrent key reads s.store token cursor = .ok () →
      assertSqlIngestionAttemptCurrent key reads' s.store token' cursor' = .ok () → token = token'
  retired : ∀ token ∈ s.issued, Over s.store token → Retired key s token

section
variable {key : SourceKey} {reads : SqlReads} {store store' : SqlStore} {s : SqlSystem}
  {step : SqlStep} {token : AttemptBirth}

theorem Frame.keeps_over (h : Frame store store') (hover : Over store token) : Over store' token := by
  obtain ⟨stored, hrow, hbirth, hstopped⟩ := hover
  obtain ⟨stored', hrow', hbirth', hkept, _⟩ := h.rows token.id stored hrow
  exact ⟨stored', hrow', hbirth'.trans hbirth, hkept hstopped⟩

theorem Current.not_over {claim : SourceClaim} (h : Current store token claim stored) :
    ¬ Over store token := by
  rintro ⟨stored', hrow, _, hstopped⟩
  cases h.row.symm.trans hrow
  exact hstopped h.status

theorem stateOf_bind_ok {α : Type} {issued : List AttemptBirth}
    {next : Unit → Except AppError α} {result : α}
    (h : (stateOf issued token >>= next) = .ok result) : token ∈ issued ∧ next () = .ok result := by
  obtain ⟨hmem, h⟩ := fence_bind_ok.1 h
  exact ⟨of_decide_eq_true hmem, h⟩

namespace SqlSystem

/-- **One step.** Every request keeps the frame and the owner, and a claim hands out a token whose
row is new. -/
theorem Sound.perform (hs : s.Sound) {handed : Option AttemptBirth}
    (h : s.perform key step = .ok (store, handed)) :
    Frame s.store store ∧ Owned store ∧ ∀ token ∈ handed, ∃ stored,
      store.attempts.find? token.id = some stored ∧ stored.birth = token := by
  rw [SqlSystem.perform] at h
  split at h
  case h_1 request attemptId ownerNonce _ =>
    obtain ⟨⟨store, token⟩, hclaim, h⟩ := bind_ok.1 h
    cases h
    refine ⟨frame_claim hclaim, owned_claim hs.owned hclaim, fun token htoken => ?_⟩
    cases htoken
    obtain ⟨hid, _, _, _, attempt, hbirth, _, _, hrows⟩ := claim_effect hclaim
    exact ⟨attempt, by rw [hrows, if_pos hid], hbirth⟩
  case h_2 token _ =>
    obtain ⟨_, h⟩ := stateOf_bind_ok h
    obtain ⟨store, hrenew, h⟩ := bind_ok.1 h
    cases h
    exact ⟨frame_renew hrenew, owned_renew hs.owned hrenew, by simp⟩
  case h_3 token _ _ =>
    obtain ⟨_, h⟩ := stateOf_bind_ok h
    obtain ⟨store, hstage, h⟩ := bind_ok.1 h
    cases h
    obtain ⟨hframe, hclaim, hattempts⟩ := frame_stage hstage
    exact ⟨hframe, hs.owned.of_same hclaim hattempts, by simp⟩
  case h_4 token _ _ =>
    obtain ⟨_, h⟩ := stateOf_bind_ok h
    obtain ⟨store, hseal, h⟩ := bind_ok.1 h
    cases h
    obtain ⟨hframe, hclaim, hattempts⟩ := frame_seal hseal
    exact ⟨hframe, hs.owned.of_same hclaim hattempts, by simp⟩
  case h_5 token _ _ _ =>
    obtain ⟨_, h⟩ := stateOf_bind_ok h
    obtain ⟨store, hpublish, h⟩ := bind_ok.1 h
    cases h
    have hcompleted := publish_effect hpublish
    exact ⟨frame_completed hcompleted, owned_completed hs.owned hcompleted, by simp⟩
  case h_6 token _ _ =>
    obtain ⟨_, h⟩ := stateOf_bind_ok h
    obtain ⟨store, hcomplete, h⟩ := bind_ok.1 h
    cases h
    have hcompleted := complete_effect hcomplete
    exact ⟨frame_completed hcompleted, owned_completed hs.owned hcompleted, by simp⟩
  case h_7 token _ _ _ =>
    obtain ⟨hissued, h⟩ := stateOf_bind_ok h
    obtain ⟨store, hfail, h⟩ := bind_ok.1 h
    cases h
    obtain ⟨stored, hrow, hbirth⟩ := hs.issued token hissued
    exact ⟨frame_fail hrow hbirth hfail, owned_fail hs.owned hrow hbirth hfail, by simp⟩
  case h_8 source _ =>
    cases h
    exact ⟨frame_writeSource _ _ _, owned_writeSource _ _ hs.owned, by simp⟩
  case h_9 logId _ =>
    obtain ⟨store, hopen, h⟩ := bind_ok.1 h
    cases h
    obtain ⟨hframe, hclaim, hattempts⟩ := frame_openLog hopen
    exact ⟨hframe, hs.owned.of_same hclaim hattempts, by simp⟩

theorem Sound.frame (hs : s.Sound) (step : SqlStep) : Frame s.store (s.apply key step).store := by
  rw [SqlSystem.apply]
  split
  · exact Frame.refl _
  · next h => exact (hs.perform h).1

theorem Sound.apply (hs : s.Sound) (step : SqlStep) : (s.apply key step).Sound := by
  rw [SqlSystem.apply]
  split
  · exact hs
  · next store handed h =>
    obtain ⟨hframe, howned, hhanded⟩ := hs.perform h
    refine ⟨fun token hmem => ?_, howned⟩
    rcases List.mem_append.1 hmem with hnew | hold
    · exact hhanded token (mem_toList.1 hnew)
    · obtain ⟨stored, hrow, hbirth⟩ := hs.issued token hold
      obtain ⟨stored', hrow', hbirth', _⟩ := hframe.rows token.id stored hrow
      exact ⟨stored', hrow', hbirth'.trans hbirth⟩

theorem Initial.sound (h : s.Initial) : s.Sound := by
  refine ⟨fun token hmem => ?_, owned_of_stopped (fun id attempt hrow => ?_) h.claim⟩
  · rw [h.issued] at hmem
    cases hmem
  · rw [h.attempts] at hrow
    cases hrow

section
variable (hs : s.Sound)
include hs

/-- After a claim, the attempts before it have stopped: the new one runs. -/
theorem Sound.over_of_claim
    (h : claimSqlIngestionAttempt key reads s.store request attemptId ownerNonce =
      .ok (store, token)) {earlier : AttemptBirth} (hearlier : earlier ∈ s.issued) :
    Over store earlier := by
  obtain ⟨hid, _, ⟨claim', hclaim', _, hactive', _⟩, _⟩ := claim_effect h
  obtain ⟨_, _, _, _, attempt, _, _, hfree, _⟩ := claim_effect h
  obtain ⟨stored, hrow, hbirth⟩ := hs.issued earlier hearlier
  obtain ⟨stored', hrow', hbirth', _⟩ := (frame_claim h).rows earlier.id stored hrow
  refine ⟨stored', hrow', hbirth'.trans hbirth, fun hrunning => ?_⟩
  obtain ⟨claim, hclaim, _, hactive, _⟩ :=
    (owned_claim hs.owned h).running earlier.id stored' hrow' hrunning
  cases hclaim'.symm.trans hclaim
  have hsame : attemptId = earlier.id := some.inj (hactive'.symm.trans hactive)
  rw [hsame, hrow] at hfree
  cases hfree

/-- After a failure the attempt has stopped, and only what was staged under it is gone. -/
theorem Sound.over_of_fail (hissued : token ∈ s.issued)
    (h : failSqlIngestionAttempt key reads s.store token error logId = .ok store) :
    Over store token ∧ ∀ publication ∈ s.store.publications.rows,
      publication ∈ store.publications.rows ∨ publication.isUncommitted token = true := by
  obtain ⟨stored, hrow, hbirth⟩ := hs.issued token hissued
  obtain ⟨_, _, hattempts, hpublications⟩ := fail_effect hrow hbirth h
  have hframe := frame_fail hrow hbirth h
  constructor
  · obtain ⟨stored', hrow', hbirth', hkept, _⟩ := hframe.rows token.id stored hrow
    refine ⟨stored', hrow', hbirth'.trans hbirth, ?_⟩
    by_cases hrunning : stored.status = .RUNNING
    · rw [hattempts] at hrow'
      obtain ⟨old, hold, rfl⟩ := find?_of_updateMany _ hrow'
      cases hrow.symm.trans hold
      rw [if_pos (by simp [matches_birth hbirth, hrunning, AttemptStatus.mayFail])]
      simp [StoredAttempt.stop]
    · exact hkept hrunning
  · intro publication hmem
    rw [hpublications]
    split
    · by_cases hown : publication.isUncommitted token = true
      · exact .inr hown
      · exact .inl (mem_filter.2 ⟨hmem, by simp [hown]⟩)
    · exact .inl hmem

/-- Two tokens that are current at once are one: the claim names one attempt. -/
theorem Sound.eq_of_current {token' : AttemptBirth} (hissued : token ∈ s.issued)
    (hissued' : token' ∈ s.issued) {reads' : SqlReads} {cursor cursor' : Option JsString}
    (h : assertSqlIngestionAttemptCurrent key reads s.store token cursor = .ok ())
    (h' : assertSqlIngestionAttemptCurrent key reads' s.store token' cursor' = .ok ()) :
    token = token' := by
  obtain ⟨claim, stored, hcurrent⟩ := assertSqlIngestionAttemptCurrent_ok h
  obtain ⟨claim', stored', hcurrent'⟩ := assertSqlIngestionAttemptCurrent_ok h'
  have hid : token.id = token'.id := hs.owned.eq_of_running hcurrent.row hcurrent.status
    hcurrent'.row hcurrent'.status
  obtain ⟨row, hrow, hbirth⟩ := hs.issued token hissued
  obtain ⟨row', hrow', hbirth'⟩ := hs.issued token' hissued'
  rw [hid] at hrow
  cases hrow.symm.trans hrow'
  exact hbirth.symm.trans hbirth'

theorem Sound.retired (hover : Over s.store token) : Retired key s token := by
  refine ⟨fun _ _ h => ?_, fun _ _ _ _ _ h => ?_, fun _ _ _ _ h => ?_,
    fun reads error logId store h => ?_⟩
  · obtain ⟨⟨_, _, hcurrent⟩, _⟩ := renew_effect h
    exact hcurrent.not_over hover
  · obtain ⟨_, _, hcurrent⟩ := (publish_effect h).current
    exact hcurrent.not_over hover
  · obtain ⟨_, _, hcurrent⟩ := (complete_effect h).current
    exact hcurrent.not_over hover
  · obtain ⟨stored, hrow, hbirth, hstopped⟩ := id hover
    refine ⟨?_, claim_of_stopped_fail hs.owned hrow hbirth hstopped h⟩
    obtain ⟨hsource | ⟨_, _, hcurrent⟩, _⟩ := fail_effect hrow hbirth h
    · exact hsource
    · exact absurd hover hcurrent.not_over

theorem Sound.fenced (step : SqlStep) : Fenced key s step where
  generation := (hs.frame step).generation
  claimed request attemptId ownerNonce store token h := by
    obtain ⟨hid, hgeneration, ⟨claim, hclaim, _, hactive, hsame, _⟩, _⟩ := claim_effect h
    exact ⟨⟨claim, hclaim, hid ▸ hactive, hsame.trans hgeneration⟩,
      fun _ hearlier => hs.over_of_claim h hearlier⟩
  failed _ hissued _ _ _ h := hs.over_of_fail hissued h
  succeeded id attempt hrow hsucceeded := by
    have hframe : Frame s.store (s.apply key step).store := hs.frame step
    obtain ⟨attempt', hrow', _, _, hkept⟩ := hframe.rows id attempt hrow
    refine ⟨⟨attempt', hrow', hkept hsucceeded⟩, fun publication hmem hown => ?_⟩
    exact hframe.staged publication hmem attempt (hown ▸ hrow) hsucceeded
  oneCurrent _ hissued _ hissued' _ _ _ _ h h' := hs.eq_of_current hissued hissued' h h'
  retired _ _ hover := hs.retired hover

end

end SqlSystem

/-- The state after a run. -/
def SqlSystem.run (key : SourceKey) (s : SqlSystem) (steps : List SqlStep) : SqlSystem :=
  steps.foldl (SqlSystem.apply key) s

theorem SqlSystem.Sound.run (hs : s.Sound) (steps : List SqlStep) : (s.run key steps).Sound := by
  induction steps generalizing s with
  | nil => exact hs
  | cons step steps ih => exact ih (hs.apply step)

theorem SqlSystem.Sound.over_run (hs : s.Sound) (hover : Over s.store token)
    (steps : List SqlStep) : Over (s.run key steps).store token := by
  induction steps generalizing s with
  | nil => exact hover
  | cons step steps ih => exact ih (hs.apply step) ((hs.frame step).keeps_over hover)

end

/-- **Attempts are fenced** in every run from a source that nobody has claimed: every step keeps the
fence, and a token whose attempt was reclaimed or has failed is retired for good. -/
theorem sql_ingestion_fenced (key : SourceKey) (start : SqlSystem) (hstart : start.Initial)
    (before : List SqlStep) :
    (∀ step, Fenced key (start.run key before) step) ∧
      ∀ token ∈ (start.run key before).issued, Over (start.run key before).store token →
        ∀ after, Retired key (start.run key (before ++ after)) token := by
  have hs : (start.run key before).Sound := hstart.sound.run before
  refine ⟨hs.fenced, fun token _ hover after => ?_⟩
  rw [SqlSystem.run, List.foldl_append]
  exact (hs.run after).retired (hs.over_run hover after)

/-! ## A run -/

/-- A hash of one value, which every configuration has. -/
def sampleKey : SourceKey := ⟨lit "w", lit "s", fun _ => List.replicate 64 0x61⟩

def sampleProof : PermissionEpochProof :=
  ⟨1, lit "v", [⟨⟨lit "ExternalDataSource", lit "s"⟩, lit "1"⟩]⟩

/-- What a transaction reads at a time when nothing has changed. -/
def readsAt (now : Nat) : SqlReads :=
  ⟨now, now, now, .ok sampleProof, sampleProof, some (lit "1"), true⟩

def claimAt (now : Nat) (attemptId logId : JsString) : SqlStep :=
  ⟨readsAt now, .claim ⟨List.replicate 64 0x61, none, logId⟩ attemptId (lit "nonce")⟩

/-- An active source without a claim, and two open logs. -/
def sampleSystem : SqlSystem where
  store :=
    { source := some ⟨⟨lit "postgres", lit "c", [], none, true, none, ⟨[], [], false, [], []⟩⟩,
        none, none⟩
      claim := none
      attempts := .empty
      logs := ⟨[⟨lit "l1", none, none, none⟩, ⟨lit "l2", none, none, none⟩], by decide⟩
      publications := .empty }
  issued := []

/-- The first attempt, whose lease expires and which the second one reclaims. -/
def reclaimedRun : List SqlStep :=
  [claimAt 0 (lit "a1") (lit "l1"), claimAt SQL_INGESTION_LEASE_MS (lit "a2") (lit "l2")]

/-- The token of the first attempt. -/
def reclaimedToken : AttemptBirth :=
  ⟨lit "a1", 1, lit "nonce", List.replicate 64 0x61, none, lit "1", sampleProof, lit "l1"⟩

theorem sql_ingestion_fenced_sample :
    Fenced sampleKey (sampleSystem.run sampleKey reclaimedRun) (claimAt 0 (lit "a3") (lit "l3")) ∧
      Retired sampleKey (sampleSystem.run sampleKey
        (reclaimedRun ++ [⟨readsAt 0, .fail reclaimedToken (lit "e") (lit "l1")⟩]))
        reclaimedToken := by
  have hfenced := sql_ingestion_fenced sampleKey sampleSystem ⟨rfl, rfl, by rintro _ ⟨⟩⟩
    reclaimedRun
  have hissued : reclaimedToken ∈ (sampleSystem.run sampleKey reclaimedRun).issued := by
    decide +kernel
  have hstored : ((sampleSystem.run sampleKey reclaimedRun).store.attempts.find? (lit "a1")).any
      (fun stored => stored.birth = reclaimedToken && stored.status = .RECLAIMED) = true := by
    decide +kernel
  obtain ⟨stored, hrow, htest⟩ := (any_eq_true _ _).1 hstored
  simp only [Bool.and_eq_true, decide_eq_true_eq] at htest
  exact ⟨hfenced.1 _, hfenced.2 _ hissued ⟨stored, hrow, htest.1, by simp [htest.2]⟩ _⟩

end Corgtex.Domain.SqlIngestion
