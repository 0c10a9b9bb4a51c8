import Corgtex.Domain.ModuleAccess
import Corgtex.Library.Runs

/-!
# Requests for access to modules

`decideModuleAccessRequest` (`module-access.ts:302`), statement by statement at
READ COMMITTED: a statement reads what is committed, waits for the rows that another transaction has
written, and what it writes is seen by others from the commit on. The request is only checked when
it is read, so two decisions on one request may both commit, and the upsert of a grant replaces a
higher one. `decisions_sound_of_undisturbed` says what holds where neither happens. The check that
the actor is an administrator comes before the transaction.
-/

namespace Corgtex.Domain.ModuleAccess

open List

open JsString (lit)

/-! ## Rows -/

inductive ModuleAccessRequestStatus
  | PENDING | APPROVED | REJECTED
deriving DecidableEq

/-- `WorkspaceModuleAccessRequest`. -/
structure ModuleAccessRequest where
  id : JsString
  moduleKey : JsString
  requestedAccess : PrismaModuleAccessLevel
  requesterUserId : JsString
  status : ModuleAccessRequestStatus
  decidedByUserId : Option JsString
  decidedAt : Option ℕ
  decisionNoteMd : Option JsString

structure RequestStore extends ModuleStore where
  requests : KeyedTable ModuleAccessRequest ModuleAccessRequest.id

/-! ## Statements -/

/-- The status that a decision asks for. -/
inductive DecisionStatus
  | APPROVED | REJECTED
deriving DecidableEq

def DecisionStatus.toRequestStatus : DecisionStatus → ModuleAccessRequestStatus
  | .APPROVED => .APPROVED
  | .REJECTED => .REJECTED

/-- The parameters of `decideModuleAccessRequest`, with the user that it is called by. -/
structure Decision where
  requestId : JsString
  status : DecisionStatus
  decisionNoteMd : Option JsString
  decidedByUserId : Option JsString

/-- The request has to be there, and undecided. -/
def findRequest (store : RequestStore) (decision : Decision) :
    Except AppError ModuleAccessRequest :=
  match store.requests.find? decision.requestId with
  | none => .error ⟨404, "NOT_FOUND", "Module access request not found."⟩
  | some request => do
    invariant (request.status = .PENDING) 400 "INVALID_STATE" "Request has already been decided."
    return request

/-- The member that the grant is for. -/
def findMember (store : RequestStore) (request : ModuleAccessRequest) : Except AppError JsString :=
  match store.members.find? fun member =>
      member.userId = request.requesterUserId && member.isActive with
  | none => .error ⟨404, "NOT_FOUND", "Requester is no longer an active member."⟩
  | some member => .ok member.id

/-- The row that the decision leaves of a request. -/
def Decision.decide (decision : Decision) (now : ℕ) (request : ModuleAccessRequest) :
    ModuleAccessRequest :=
  { request with
    status := decision.status.toRequestStatus
    decidedByUserId := decision.decidedByUserId
    decidedAt := some now
    decisionNoteMd := JsString.trimOrNull decision.decisionNoteMd }

/-- What the transaction writes: the grant of the member, if there is one, and the request. -/
def RequestStore.write (store : RequestStore) (decision : Decision) (request : ModuleAccessRequest)
    (memberId : Option JsString) (now : ℕ) : RequestStore where
  toModuleStore := memberId.elim store.toModuleStore fun memberId =>
    store.grantMember request.moduleKey memberId request.requestedAccess decision.decidedByUserId
  requests := store.requests.update request.id (decision.decide now) fun _ => rfl

/-! ## Transactions -/

/-- How far a call is: its transaction has begun, has read the request, has found the member, has
written the grant, has written the request, has ended. -/
inductive Phase
  | idle
  | begun (decision : Decision)
  | read (decision : Decision) (request : ModuleAccessRequest)
  | found (decision : Decision) (request : ModuleAccessRequest) (memberId : JsString)
  | granted (decision : Decision) (request : ModuleAccessRequest) (memberId : JsString)
  | updated (decision : Decision) (request : ModuleAccessRequest) (memberId : Option JsString)
    (now : ℕ)
  | ended (result : Except AppError ModuleAccessRequest)

namespace Phase

/-- The grant that other transactions have to wait for. -/
def holdsGrant (key : GrantKey) : Phase → Bool
  | .granted _ request memberId => memberKey request.moduleKey memberId = key
  | .updated _ request memberId _ => memberId.any (memberKey request.moduleKey · = key)
  | _ => false

/-- The request that they have to wait for. -/
def holdsRequest (id : JsString) : Phase → Bool
  | .updated _ request _ _ => request.id = id
  | _ => false

end Phase

/-- A decision that has been committed, with the member that got a grant. -/
structure CommittedDecision where
  requestId : JsString
  status : DecisionStatus
  moduleKey : JsString
  requestedAccess : PrismaModuleAccessLevel
  memberId : Option JsString

/-- The committed rows, the calls, and what they have committed. -/
structure RequestSystem where
  store : RequestStore
  calls : ℕ → Phase
  log : List CommittedDecision

/-- A statement of a transaction, its beginning or its end. -/
inductive RequestAction
  | begin (decision : Decision)
  | findRequest
  | findMember
  | upsertGrant
  | updateRequest (now : ℕ)
  | commit
  | abort

structure RequestStep where
  call : ℕ
  action : RequestAction

namespace RequestSystem

variable (s : RequestSystem)

def put (call : ℕ) (phase : Phase) : RequestSystem :=
  { s with calls := Function.update s.calls call phase }

/-- The state after a commit. -/
def committed (call : ℕ) (decision : Decision) (request : ModuleAccessRequest)
    (memberId : Option JsString) (now : ℕ) : RequestSystem where
  store := s.store.write decision request memberId now
  calls := Function.update s.calls call (.ended (.ok (decision.decide now request)))
  log := s.log ++ [⟨request.id, decision.status, request.moduleKey, request.requestedAccess,
    memberId⟩]

/-- The state after a step. `others` are the calls that may hold a row, and a statement that has to
wait changes nothing. -/
def apply (others : List ℕ) (step : RequestStep) : RequestSystem :=
  let held (holds : Phase → Bool) : Bool :=
    others.any fun call => call ≠ step.call && holds (s.calls call)
  match step.action, s.calls step.call with
  | .begin decision, .idle => s.put step.call (.begun decision)
  | .findRequest, .begun decision =>
    match ModuleAccess.findRequest s.store decision with
    | .error error => s.put step.call (.ended (.error error))
    | .ok request => s.put step.call (.read decision request)
  | .findMember, .read decision request =>
    if decision.status = .APPROVED then
      match ModuleAccess.findMember s.store request with
      | .error error => s.put step.call (.ended (.error error))
      | .ok memberId => s.put step.call (.found decision request memberId)
    else s
  | .upsertGrant, .found decision request memberId =>
    if held (·.holdsGrant (memberKey request.moduleKey memberId)) then s
    else s.put step.call (.granted decision request memberId)
  | .updateRequest now, .granted decision request memberId =>
    if held (·.holdsRequest request.id) then s
    else s.put step.call (.updated decision request (some memberId) now)
  | .updateRequest now, .read decision request =>
    if decision.status = .APPROVED || held (·.holdsRequest request.id) then s
    else s.put step.call (.updated decision request none now)
  | .commit, .updated decision request memberId now =>
    s.committed step.call decision request memberId now
  | .abort, _ => s.put step.call .idle
  | _, _ => s

/-- The state after a run. -/
def run (others : List ℕ) (steps : List RequestStep) : RequestSystem :=
  steps.foldl (fun s step => s.apply others step) s

end RequestSystem

/-! ## What a run should keep -/

def ModuleStore.HasMember (store : ModuleStore) (userId memberId : JsString) : Prop :=
  ∃ member ∈ store.members, member.id = memberId ∧ member.userId = userId ∧ member.isActive

/-- What a request asks for, and for whom, is in its row. -/
def RequestStore.HasRequest (store : RequestStore) (request : ModuleAccessRequest) : Prop :=
  ∃ row ∈ store.requests.find? request.id, row.moduleKey = request.moduleKey ∧
    row.requestedAccess = request.requestedAccess ∧ row.requesterUserId = request.requesterUserId

/-- The decision is about what its request asks for, and the grant is for the requester. -/
def RequestStore.Agrees (store : RequestStore) (entry : CommittedDecision) : Prop :=
  ∃ row ∈ store.requests.find? entry.requestId, row.moduleKey = entry.moduleKey ∧
    row.requestedAccess = entry.requestedAccess ∧
    ∀ memberId ∈ entry.memberId, store.HasMember row.requesterUserId memberId

/-- What a step may do to the access of members: nothing, or add to that of one requester. -/
def AddsAccess (before after : RequestSystem) : Prop :=
  (after.log = before.log ∧ after.store.toModuleStore = before.store.toModuleStore) ∨
  ∃ entry, after.log = before.log ++ [entry] ∧
    match entry.memberId with
    | none => after.store.toModuleStore = before.store.toModuleStore
    | some memberId => RaisesAccess before.store.toModuleStore after.store.toModuleStore
        entry.moduleKey memberId entry.requestedAccess

/-- No request is decided twice, none that is rejected has led to a grant, and approvals only add
access. -/
structure DecisionsSound (others : List ℕ) (start : RequestSystem) (steps : List RequestStep) :
    Prop where
  once : ∀ done, done <+: steps → ((start.run others done).log.map (·.requestId)).Nodup
  rejected : ∀ done, done <+: steps → ∀ request ∈ (start.run others done).store.requests.rows,
    request.status = .REJECTED → ∀ entry ∈ (start.run others done).log,
      entry.requestId = request.id → entry.memberId = none
  agrees : ∀ done, done <+: steps → ∀ entry ∈ (start.run others done).log,
    (start.run others done).store.Agrees entry
  adds : ∀ done step, done ++ [step] <+: steps →
    AddsAccess (start.run others done) (start.run others (done ++ [step]))

/-- A decision commits while its request is undecided, and does not replace a higher grant. -/
def RequestSystem.Undisturbed (s : RequestSystem) (step : RequestStep) : Prop :=
  step.action = .commit → ∀ decision request memberId now,
    s.calls step.call = .updated decision request memberId now →
    (∃ row ∈ s.store.requests.find? request.id, row.status = .PENDING) ∧
    ∀ id ∈ memberId, ∀ old ∈ s.store.grants.find? (memberKey request.moduleKey id),
      isAtLeast (toAccessLevel request.requestedAccess) (toAccessLevel old.accessLevel)

/-! ## Steps -/

/-- A grant is only on its way where the request is approved, for the requester. -/
def Phase.Sound (store : RequestStore) : Phase → Prop
  | .read _ request => store.HasRequest request
  | .found decision request memberId | .granted decision request memberId =>
    decision.status = .APPROVED ∧ store.HasRequest request ∧
      store.HasMember request.requesterUserId memberId
  | .updated decision request memberId _ =>
    (decision.status = .REJECTED → memberId = none) ∧ store.HasRequest request ∧
      ∀ id ∈ memberId, store.HasMember request.requesterUserId id
  | _ => True

/-! ### One spec for each read -/

theorem findRequest_ok {store : RequestStore} {decision : Decision}
    {request : ModuleAccessRequest} (h : findRequest store decision = .ok request) :
    store.requests.find? request.id = some request ∧ request.status = .PENDING := by
  unfold findRequest at h
  split at h
  · cases h
  · next row hrow =>
    obtain ⟨hpending, h⟩ := invariant_bind_ok.1 h
    cases h
    obtain ⟨hmem, _⟩ := KeyedTable.find?_eq_some.1 hrow
    exact ⟨KeyedTable.find?_key hmem, of_decide_eq_true hpending⟩

theorem findMember_ok {store : RequestStore} {request : ModuleAccessRequest} {memberId : JsString}
    (h : findMember store request = .ok memberId) :
    store.HasMember request.requesterUserId memberId := by
  unfold findMember at h
  split at h
  · cases h
  · next member hmember =>
    cases h
    have htest := find?_some hmember
    simp only [Bool.and_eq_true, decide_eq_true_eq] at htest
    exact ⟨member, mem_of_find?_eq_some hmember, rfl, htest.1, htest.2⟩

/-! ### Frames of the write -/

section
variable {store : RequestStore} {decision : Decision} {request : ModuleAccessRequest}
  {memberId : Option JsString} {now : ℕ}

@[simp] theorem members_write :
    (store.write decision request memberId now).members = store.members := by
  cases memberId <;> rfl

theorem find?_write {id : JsString} :
    (store.write decision request memberId now).requests.find? id =
      if id = request.id then (store.requests.find? request.id).map (decision.decide now)
      else store.requests.find? id :=
  have hkeep : ∀ row, ModuleAccessRequest.id (decision.decide now row) = row.id := fun _ => rfl
  KeyedTable.find?_update hkeep

/-- A row keeps what it asks for. -/
theorem exists_row_write {id : JsString} {row : ModuleAccessRequest}
    (h : store.requests.find? id = some row) :
    ∃ row' ∈ (store.write decision request memberId now).requests.find? id,
      row'.moduleKey = row.moduleKey ∧ row'.requestedAccess = row.requestedAccess ∧
        row'.requesterUserId = row.requesterUserId := by
  rw [find?_write]
  split
  · next hid =>
    rw [← hid, h]
    exact ⟨_, rfl, rfl, rfl, rfl⟩
  · exact ⟨row, h, rfl, rfl, rfl⟩

theorem hasMember_write {userId id : JsString} :
    (store.write decision request memberId now).HasMember userId id ↔
      store.HasMember userId id := by
  rw [ModuleStore.HasMember, members_write]
  rfl

theorem RequestStore.HasRequest.write {other : ModuleAccessRequest} (h : store.HasRequest other) :
    (store.write decision request memberId now).HasRequest other := by
  obtain ⟨row, hrow, hmodule, haccess, huser⟩ := h
  obtain ⟨row', hrow', hmodule', haccess', huser'⟩ := exists_row_write hrow
  exact ⟨row', hrow', hmodule'.trans hmodule, haccess'.trans haccess, huser'.trans huser⟩

theorem RequestStore.Agrees.write {entry : CommittedDecision} (h : store.Agrees entry) :
    (store.write decision request memberId now).Agrees entry := by
  obtain ⟨row, hrow, hmodule, haccess, hmember⟩ := h
  obtain ⟨row', hrow', hmodule', haccess', huser'⟩ := exists_row_write hrow
  refine ⟨row', hrow', hmodule'.trans hmodule, haccess'.trans haccess, fun id hid => ?_⟩
  rw [huser']
  exact hasMember_write.2 (hmember id hid)

theorem Phase.Sound.write {phase : Phase} (h : phase.Sound store) :
    phase.Sound (store.write decision request memberId now) := by
  cases phase with
  | idle => trivial
  | begun decision => trivial
  | read decision other => exact RequestStore.HasRequest.write h
  | found decision other id => exact ⟨h.1, h.2.1.write, hasMember_write.2 h.2.2⟩
  | granted decision other id => exact ⟨h.1, h.2.1.write, hasMember_write.2 h.2.2⟩
  | updated decision other id now =>
    exact ⟨h.1, h.2.1.write, fun member hmember => hasMember_write.2 (h.2.2 member hmember)⟩
  | ended result => trivial

end

namespace RequestSystem

variable {s : RequestSystem} {others : List ℕ} {step : RequestStep}

inductive StepEffect (s : RequestSystem) (step : RequestStep) : RequestSystem → Prop
  | same : StepEffect s step s
  | move (phase : Phase) (hphase : (s.calls step.call).Sound s.store → phase.Sound s.store) :
    StepEffect s step (s.put step.call phase)
  | commit (haction : step.action = .commit) {decision : Decision} {request : ModuleAccessRequest}
      {memberId : Option JsString} {now : ℕ}
      (hphase : s.calls step.call = .updated decision request memberId now) :
    StepEffect s step (s.committed step.call decision request memberId now)

theorem apply_effect (s : RequestSystem) (others : List ℕ) (step : RequestStep) :
    StepEffect s step (s.apply others step) := by
  rw [apply]
  dsimp only
  split
  · exact .move _ fun _ => trivial
  · split
    · exact .move _ fun _ => trivial
    · next hrequest =>
      exact .move _ fun _ => ⟨_, (findRequest_ok hrequest).1, rfl, rfl, rfl⟩
  · next hphase =>
    split
    · next happroved =>
      split
      · exact .move _ fun _ => trivial
      · next hmember =>
        refine .move _ fun hsound => ?_
        rw [hphase] at hsound
        exact ⟨happroved, hsound, findMember_ok hmember⟩
    · exact .same
  · next hphase =>
    split
    · exact .same
    · exact .move _ fun hsound => by rwa [hphase] at hsound
  · next hphase =>
    split
    · exact .same
    · refine .move _ fun hsound => ?_
      rw [hphase] at hsound
      obtain ⟨happroved, hrequest, hmember⟩ := hsound
      refine ⟨fun hrejected => ?_, hrequest, fun id hid => ?_⟩
      · cases happroved.symm.trans hrejected
      · cases hid
        exact hmember
  · next hphase =>
    split
    · exact .same
    · refine .move _ fun hsound => ?_
      rw [hphase] at hsound
      exact ⟨fun _ => rfl, hsound, fun id hid => by cases hid⟩
  · next haction hphase => exact .commit haction hphase
  · exact .move _ fun _ => trivial
  · exact .same

/-! ## The invariant -/

/-- Every decision that has been committed is the one that its request has, and the only one. -/
structure Sound (s : RequestSystem) : Prop where
  phases : ∀ call, (s.calls call).Sound s.store
  agrees : ∀ entry ∈ s.log, s.store.Agrees entry
  nodup : (s.log.map (·.requestId)).Nodup
  decided : ∀ entry ∈ s.log, ∃ row ∈ s.store.requests.find? entry.requestId,
    row.status = entry.status.toRequestStatus
  rejected : ∀ entry ∈ s.log, entry.status = .REJECTED → entry.memberId = none

theorem Sound.put (hs : s.Sound) {call : ℕ} {phase : Phase} (hphase : phase.Sound s.store) :
    (s.put call phase).Sound where
  phases other := by
    rcases eq_or_ne other call with rfl | hne
    · simpa [RequestSystem.put] using hphase
    · simpa [RequestSystem.put, Function.update_of_ne hne] using hs.phases other
  agrees := hs.agrees
  nodup := hs.nodup
  decided := hs.decided
  rejected := hs.rejected

theorem decided_status_ne_pending (status : DecisionStatus) :
    status.toRequestStatus ≠ .PENDING := by
  cases status <;> decide

/-- **A decision on a request that is undecided is its only one.** -/
theorem Sound.committed (hs : s.Sound) {call : ℕ} {decision : Decision}
    {request row : ModuleAccessRequest} {memberId : Option JsString} {now : ℕ}
    (hphase : s.calls call = .updated decision request memberId now)
    (hrow : s.store.requests.find? request.id = some row) (hpending : row.status = .PENDING) :
    (s.committed call decision request memberId now).Sound := by
  have hfresh : ∀ entry ∈ s.log, entry.requestId ≠ request.id := by
    intro entry hentry hsame
    obtain ⟨other, hother, hstatus⟩ := hs.decided entry hentry
    rw [hsame, hrow] at hother
    cases hother
    exact decided_status_ne_pending _ (hstatus.symm.trans hpending)
  have hsound := hs.phases call
  rw [hphase] at hsound
  obtain ⟨hrejected, ⟨row', hrow', hmodule, haccess, huser⟩, hmember⟩ := hsound
  refine ⟨fun other => ?_, fun entry hentry => ?_, ?_, fun entry hentry => ?_,
    fun entry hentry => ?_⟩
  · rcases eq_or_ne other call with rfl | hne
    · simp [RequestSystem.committed, Phase.Sound]
    · simpa [RequestSystem.committed, Function.update_of_ne hne] using (hs.phases other).write
  · rcases mem_append.1 hentry with hold | hnew
    · exact (hs.agrees entry hold).write
    · obtain rfl := mem_singleton.1 hnew
      refine RequestStore.Agrees.write ⟨row', hrow', hmodule, haccess, fun id hid => ?_⟩
      rw [huser]
      exact hmember id hid
  · simp only [RequestSystem.committed, map_append, map_singleton]
    refine nodup_append.2 ⟨hs.nodup, nodup_singleton _, ?_⟩
    intro a ha b hb hab
    obtain ⟨entry, hentry, rfl⟩ := mem_map.1 ha
    exact hfresh entry hentry (hab.trans (mem_singleton.1 hb))
  · show ∃ row ∈ (s.store.write decision request memberId now).requests.find? entry.requestId, _
    rw [find?_write]
    rcases mem_append.1 hentry with hold | hnew
    · rw [if_neg (hfresh entry hold)]
      exact hs.decided entry hold
    · obtain rfl := mem_singleton.1 hnew
      rw [if_pos rfl, hrow]
      exact ⟨_, rfl, rfl⟩
  · rcases mem_append.1 hentry with hold | hnew
    · exact hs.rejected entry hold
    · obtain rfl := mem_singleton.1 hnew
      exact hrejected

/-- **A step that is not disturbed keeps the invariant.** -/
theorem Sound.apply (hs : s.Sound) (others : List ℕ) (hundisturbed : s.Undisturbed step) :
    (s.apply others step).Sound := by
  have heffect := apply_effect s others step
  generalize s.apply others step = s' at heffect ⊢
  cases heffect with
  | same => exact hs
  | move phase hphase => exact hs.put (hphase (hs.phases _))
  | commit haction hphase =>
    obtain ⟨⟨row, hrow, hpending⟩, _⟩ := hundisturbed haction _ _ _ _ hphase
    exact hs.committed hphase hrow hpending

/-- **It only adds access.** -/
theorem addsAccess_apply (others : List ℕ) (hundisturbed : s.Undisturbed step) :
    AddsAccess s (s.apply others step) := by
  have heffect := apply_effect s others step
  generalize s.apply others step = s' at heffect ⊢
  cases heffect with
  | same => exact .inl ⟨rfl, rfl⟩
  | move phase hphase => exact .inl ⟨rfl, rfl⟩
  | @commit haction decision request memberId now hphase =>
    obtain ⟨_, hlower⟩ := hundisturbed haction _ _ _ _ hphase
    refine .inr ⟨_, rfl, ?_⟩
    cases memberId with
    | none => rfl
    | some memberId =>
      exact raisesAccess_grantMember fun old hold => hlower memberId rfl old hold

end RequestSystem

/-- **Requests are decided once and approvals only add access** in every run in which a decision
commits while its request is undecided and does not replace a higher grant. -/
theorem decisions_sound_of_undisturbed (others : List ℕ) (start : RequestSystem)
    (hidle : ∀ call, start.calls call = .idle) (hlog : start.log = []) (steps : List RequestStep)
    (hundisturbed : ∀ done step, done ++ [step] <+: steps →
      (start.run others done).Undisturbed step) :
    DecisionsSound others start steps := by
  have hstart : start.Sound := by
    refine ⟨fun call => ?_, ?_, ?_, ?_, ?_⟩
    · rw [hidle call]
      trivial
    · simp [hlog]
    · simp [hlog]
    · simp [hlog]
    · simp [hlog]
  have hsound : ∀ done, done <+: steps → (start.run others done).Sound :=
    forall_prefix_foldl hstart (fun s step hs hstep => hs.apply others hstep) hundisturbed
  refine ⟨fun done hdone => (hsound done hdone).nodup, fun done hdone request hrequest hstatus entry
    hentry hid => ?_, fun done hdone => (hsound done hdone).agrees, fun done step hstep => ?_⟩
  · obtain ⟨row, hrow, hdecided⟩ := (hsound done hdone).decided entry hentry
    rw [hid, KeyedTable.find?_key hrequest] at hrow
    cases hrow
    refine (hsound done hdone).rejected entry hentry ?_
    rw [hstatus] at hdecided
    cases hentryStatus : entry.status with
    | REJECTED => rfl
    | APPROVED =>
      rw [hentryStatus] at hdecided
      cases hdecided
  · have hrun : start.run others (done ++ [step]) = (start.run others done).apply others step := by
      simp [RequestSystem.run]
    rw [hrun]
    exact RequestSystem.addsAccess_apply others (hundisturbed done step hstep)

/-! ## Two decisions on one request -/

def sampleRequest : ModuleAccessRequest :=
  ⟨lit "request", lit "finance", .READ, lit "user", .PENDING, none, none, none⟩

/-- A member asks to read a module, of which it has a grant or none. -/
def sampleRequests (accessLevel : Option PrismaModuleAccessLevel) : RequestSystem where
  store :=
    { members := [⟨lit "member", lit "user", true⟩]
      assignments := []
      circles := []
      flags := []
      grants := accessLevel.elim .empty fun accessLevel =>
        KeyedTable.empty.set ⟨memberKey (lit "finance") (lit "member"), accessLevel, none⟩
      requests := KeyedTable.empty.set sampleRequest }
  calls _ := .idle
  log := []

def approveRequest : Decision := ⟨lit "request", .APPROVED, none, some (lit "admin")⟩

def rejectRequest : Decision := ⟨lit "request", .REJECTED, none, some (lit "other")⟩

/-- The statements of an approval, but for its commit. -/
def approvalSteps : List RequestStep :=
  [.begin approveRequest, .findRequest, .findMember, .upsertGrant, .updateRequest 0].map (⟨0, ·⟩)

/-- A request is rejected by a call that has read it before another one approves it. -/
def overlappingDecisions : List RequestStep :=
  [⟨1, .begin rejectRequest⟩, ⟨1, .findRequest⟩] ++ (approvalSteps ++ [⟨0, .commit⟩]) ++
    [⟨1, .updateRequest 0⟩, ⟨1, .commit⟩]

/-- The module that is asked for, without a default. -/
def sampleModule : ModuleManifest := ⟨lit "finance", none, none, false⟩

/-- **Requests are not always decided once, nor do approvals only add access**: two calls may decide
on one request, which is rejected in the end with a grant that it has led to, and an approval may
replace a grant to write by one to read. -/
theorem not_decisions_sound :
    ¬ DecisionsSound [0, 1] (sampleRequests none) overlappingDecisions ∧
      ¬ DecisionsSound [0] (sampleRequests (some .WRITE)) (approvalSteps ++ [⟨0, .commit⟩]) := by
  constructor
  · intro h
    have honce := h.once overlappingDecisions prefix_rfl
    revert honce
    decide +kernel
  · intro h
    rcases h.adds approvalSteps ⟨0, .commit⟩ prefix_rfl with ⟨hlog, _⟩ | ⟨entry, hlog, hentry⟩
    · have hlength := congrArg length hlog
      revert hlength
      decide +kernel
    · have hgranted : entry.memberId = some (lit "member") := by
        have hrun : ((sampleRequests (some .WRITE)).run [0]
            (approvalSteps ++ [⟨0, .commit⟩])).log.map CommittedDecision.memberId =
              [some (lit "member")] := by
          decide +kernel
        have hbefore : ((sampleRequests (some .WRITE)).run [0] approvalSteps).log = [] := by
          decide +kernel
        rw [hlog, hbefore] at hrun
        exact singleton_inj.1 hrun
      rw [hgranted] at hentry
      have hkept := hentry.kept (fun _ => false) 0 none sampleModule
      revert hkept
      decide +kernel

theorem decisions_sound_of_undisturbed_sample :
    DecisionsSound [0] (sampleRequests none) (approvalSteps ++ [⟨0, .commit⟩]) := by
  refine decisions_sound_of_undisturbed [0] (sampleRequests none) (fun _ => rfl) rfl _ ?_
  intro done step hpre haction decision request memberId now hphase
  rcases prefix_concat_iff.1 hpre with hlast | hbefore
  · obtain ⟨rfl, -⟩ := append_inj' hlast rfl
    cases (append_cancel_left hlast)
    have hupdated : ((sampleRequests none).run [0] approvalSteps).calls 0 =
        .updated approveRequest sampleRequest (some (lit "member")) 0 := rfl
    obtain ⟨rfl, rfl, rfl, rfl⟩ := Phase.updated.inj (hupdated.symm.trans hphase)
    refine ⟨⟨sampleRequest, rfl, rfl⟩, fun id hid old hold => ?_⟩
    have hnone : ((sampleRequests none).run [0] approvalSteps).store.grants.find?
        (memberKey (lit "finance") (lit "member")) = none := rfl
    cases hid
    cases hnone.symm.trans hold
  · have hmem := hbefore.subset (mem_append_right done (mem_singleton_self step))
    simp only [approvalSteps, map, mem_cons, not_mem_nil, or_false] at hmem
    rcases hmem with rfl | rfl | rfl | rfl | rfl <;> cases haction

end Corgtex.Domain.ModuleAccess
