import Corgtex.Domain.Approvals

/-!
# Requests on one flow at the same time

The transactions of `approvals.ts` and `proposals.ts` that write on one flow, statement by statement
at READ COMMITTED: a statement reads what is committed and what its own transaction has written, and
waits for the rows that another transaction has written. Every one of them reads the flow, records
its part, reads the flow again, calculates and writes the outcome, and commits. An outcome is the
right one as long as nothing is committed between the second read and the commit
(`outcomes_current_of_undisturbed`).
-/

namespace Corgtex.Domain.Approvals

open List

open JsString (lit)

/-! ## Rows -/

/-- The committed rows of one flow, and the status of the proposal that it is about, if it is. -/
structure FlowStore where
  flow : ApprovalFlow
  decisions : KeyedTable ApprovalDecision ApprovalDecision.memberId
  objections : KeyedTable Objection Objection.id
  proposalStatus : ProposalStatus

/-- `loadFlow` (`approvals.ts:201`). -/
def FlowStore.load (store : FlowStore) : LoadedFlow where
  toApprovalFlow := store.flow
  decisions := store.decisions.rows
  objections := store.objections.rows.filter (·.resolvedAt.isNone)

/-- What a transaction has written of the reviews: a row of its own, and the keys that it has
deleted. -/
structure Pending where
  decision : Option ApprovalDecision
  objection : Option Objection
  deletedDecisions : List JsString
  deletedObjections : List JsString

def Pending.none : Pending := ⟨.none, .none, [], []⟩

/-- The rows as the transaction sees them. -/
def Pending.apply (pending : Pending) (store : FlowStore) : FlowStore :=
  { store with
    decisions := pending.decision.elim store.decisions store.decisions.set |>.filter fun decision =>
      decision.memberId ∉ pending.deletedDecisions
    objections := pending.objection.elim store.objections store.objections.set |>.filter
      fun objection => objection.id ∉ pending.deletedObjections }

/-! ## Transactions -/

inductive FlowOperation
  | recordApprovalDecision (decision : ApprovalDecision)
  | createObjection (objection : Objection)
  | resolveObjection (objectionId : JsString)
  | finalizeExpiredApprovalFlows
  | resolveProposal (outcome : ProposalResolutionOutcome) (decisionMd : JsString)
  | returnProposalToDraft

namespace FlowOperation

/-- The operations that hold the advisory lock of the proposal. -/
def locksProposal : FlowOperation → Bool
  | .resolveProposal .. | .returnProposalToDraft => true
  | _ => false

/-- The operations that write an outcome calculated from the reviews. -/
def recomputes (operation : FlowOperation) : Bool := !operation.locksProposal

end FlowOperation

/-- How far a transaction is: it has begun, has read the flow, has read or deleted the rows that it
checks, has recorded its part, has read the flow again, has written it. -/
inductive Stage
  | idle | begun | loaded | checked | recorded | reloaded | written
deriving DecidableEq

/-- A transaction; `seen` is what it read last, when `readVersion` transactions had committed. -/
structure Session where
  operation : FlowOperation
  stage : Stage
  pending : Pending
  seen : LoadedFlow
  readVersion : Nat
  now : Nat

namespace Session

section
variable (session : Session)

/-- `FOR UPDATE` of the expiry holds the row of the flow from its first statement on, every other
transaction from the statement that writes it. -/
def holdsFlow : Bool :=
  match session.operation, session.stage with
  | _, .written => true
  | .finalizeExpiredApprovalFlows, .loaded => true
  | .finalizeExpiredApprovalFlows, .checked => true
  | .finalizeExpiredApprovalFlows, .recorded => true
  | .finalizeExpiredApprovalFlows, .reloaded => true
  | _, _ => false

def holdsProposal : Bool :=
  session.operation.locksProposal && session.stage ≠ .idle && session.stage ≠ .begun

/-- The rows that other transactions have to wait for. -/
def holdsDecision (memberId : JsString) : Bool :=
  session.stage ≠ .idle && (session.pending.decision.any (·.memberId = memberId) ||
    session.pending.deletedDecisions.contains memberId)

def holdsObjection (id : JsString) : Bool :=
  session.stage ≠ .idle && (session.pending.objection.any (·.id = id) ||
    session.pending.deletedObjections.contains id)

end

end Session

/-- What a statement reads besides these rows: the clock, and whether the other checks of its
transaction hold up to the next statement. -/
structure StatementReads where
  now : Nat
  importInactive : Bool
  admitted : Bool

namespace FlowOperation

section
variable (approverIds : List JsString) (reads : StatementReads) (store : FlowStore)

/-- The checks after the first read of a flow; the expiry selects it. -/
def admits : FlowOperation → Bool
  | .recordApprovalDecision decision =>
    store.flow.status = .ACTIVE && (assertConsentWindowOpen store.flow reads.now).isOk &&
      (validateDecisionChoice store.flow.mode decision.choice).isOk &&
      decision.memberId ∈ approverIds && reads.admitted
  | .createObjection _ | .resolveObjection _ =>
    store.flow.status = .ACTIVE && store.flow.mode = .CONSENT &&
      (assertConsentWindowOpen store.flow reads.now).isOk && reads.admitted
  | .finalizeExpiredApprovalFlows => isExpired reads.now reads.importInactive store.flow
  | .resolveProposal .. => store.flow.subjectType = lit "PROPOSAL" &&
      (store.proposalStatus = .DRAFT || store.proposalStatus = .OPEN) && reads.admitted
  | .returnProposalToDraft => store.flow.subjectType = lit "PROPOSAL" &&
      (store.proposalStatus = .OPEN || store.proposalStatus = .RESOLVED) && reads.admitted

/-- The statement before the one that records: an objection is looked up, and the decisions of a
proposal that is returned are deleted. -/
def check : FlowOperation → Option Pending
  | .createObjection objection =>
    if (store.objections.rows.any fun other => other.userId = objection.userId &&
        other.resolvedAt.isNone) || (store.objections.find? objection.id).isSome then none
    else some .none
  | .resolveObjection objectionId =>
    if (store.objections.find? objectionId).any (·.resolvedAt.isNone) && reads.admitted then
      some .none
    else none
  | .returnProposalToDraft => some { Pending.none with
      deletedDecisions := store.decisions.rows.map ApprovalDecision.memberId }
  | .recordApprovalDecision _ | .finalizeExpiredApprovalFlows | .resolveProposal .. => some .none

/-- The statement that records a review; the objections of a proposal that is returned are
deleted. -/
def record (pending : Pending) : FlowOperation → Option Pending
  | .recordApprovalDecision decision => some { pending with decision := some decision }
  | .createObjection objection =>
    some { pending with objection := some { objection with resolvedAt := none } }
  | .resolveObjection objectionId =>
    (store.objections.find? objectionId).map fun objection =>
      { pending with objection := some { objection with resolvedAt := some reads.now } }
  | .returnProposalToDraft => some { pending with
      deletedObjections := store.objections.rows.map Objection.id }
  | .finalizeExpiredApprovalFlows | .resolveProposal .. => some pending

/-- The decisions that the two statements write. -/
def decisionKeys : FlowOperation → List JsString
  | .recordApprovalDecision decision => [decision.memberId]
  | .returnProposalToDraft => store.decisions.rows.map ApprovalDecision.memberId
  | _ => []

/-- The objections that they write. -/
def objectionKeys : FlowOperation → List JsString
  | .createObjection objection => [objection.id]
  | .resolveObjection objectionId => [objectionId]
  | .returnProposalToDraft => store.objections.rows.map Objection.id
  | _ => []

/-- Whether the flow that was read again is still one to write; only the expiry asks. -/
def proceeds (seen : LoadedFlow) : FlowOperation → Bool
  | .finalizeExpiredApprovalFlows => seen.status = .ACTIVE && seen.mode = .CONSENT &&
      seen.subjectType ≠ lit "PROPOSAL" && reads.admitted
  | _ => reads.admitted

/-- What the transaction writes into the flow. -/
def writeFlow (seen : LoadedFlow) (now : Nat) (flow : ApprovalFlow) : FlowOperation → ApprovalFlow
  | .recordApprovalDecision _ =>
    flow.writeOutcome now (seen.outcome approverIds) (finalStatus seen approverIds)
  | .createObjection _ | .resolveObjection _ =>
    flow.writeOutcome now (seen.outcome approverIds) none
  | .finalizeExpiredApprovalFlows =>
    flow.writeOutcome now (seen.expiryOutcome approverIds)
      (some (if (seen.expiryOutcome approverIds).approved then .APPROVED else .REJECTED))
  | .resolveProposal outcome decisionMd =>
    { flow with
      status := match outcome with
        | .ADOPTED => .APPROVED
        | .WITHDRAWN => .WITHDRAWN
        | .NOT_ADOPTED => .REJECTED
      closedAt := some now
      resultJson := some (.manuallyResolved outcome decisionMd) }
  | .returnProposalToDraft =>
    { flow with
      status := .DRAFT
      openedAt := none
      closesAt := none
      closedAt := none
      resultJson := none }

/-- What it makes of the proposal. -/
def writeProposal (status : ProposalStatus) : FlowOperation → ProposalStatus
  | .resolveProposal .. => .RESOLVED
  | .returnProposalToDraft => .DRAFT
  | _ => status

end

end FlowOperation

/-! ## Runs -/

/-- The committed rows, the number of transactions that have committed, and the transactions. -/
structure RaceSystem where
  store : FlowStore
  version : Nat
  sessions : Nat → Session

/-- A statement of a transaction, its beginning or its end. -/
inductive RaceAction
  | start (operation : FlowOperation)
  | read (reads : StatementReads)
  | check (reads : StatementReads)
  | record (reads : StatementReads)
  | reload (reads : StatementReads)
  | write (now : Nat)
  | commit
  | abort

structure RaceStep where
  session : Nat
  action : RaceAction

namespace RaceSystem

variable (approverIds : List JsString) (s : RaceSystem)

def put (id : Nat) (session : Session) : RaceSystem :=
  { s with sessions := Function.update s.sessions id session }

section
variable {s} {id other : Nat} {session : Session}

@[simp] theorem sessions_put_self : (s.put id session).sessions id = session :=
  Function.update_self ..

theorem sessions_put_of_ne (h : other ≠ id) :
    (s.put id session).sessions other = s.sessions other :=
  Function.update_of_ne h ..

@[simp] theorem store_put : (s.put id session).store = s.store := rfl

@[simp] theorem version_put : (s.put id session).version = s.version := rfl

end

/-- The transaction is over without a change. -/
def leave (id : Nat) : RaceSystem := s.put id { s.sessions id with stage := .idle }

/-- The rows after a commit. -/
def committed (session : Session) : FlowStore :=
  let store := session.pending.apply s.store
  { store with
    flow := session.operation.writeFlow approverIds session.seen session.now store.flow
    proposalStatus := session.operation.writeProposal store.proposalStatus }

/-- The state after a step. `others` are the transactions that may hold a row, and a statement that
has to wait changes nothing. -/
def apply (others : List Nat) (step : RaceStep) : RaceSystem :=
  let session := s.sessions step.session
  let held (holds : Session → Bool) : Bool :=
    others.any fun id => id ≠ step.session && holds (s.sessions id)
  match step.action, session.stage with
  | .start operation, .idle => s.put step.session
      ⟨operation, .begun, .none, s.store.load, s.version, 0⟩
  | .read reads, .begun =>
    if session.operation.locksProposal && held Session.holdsProposal then s
    else if !session.operation.admits approverIds reads s.store then s.leave step.session
    else match session.operation with
      -- `SKIP LOCKED`
      | .finalizeExpiredApprovalFlows =>
        if held Session.holdsFlow then s.leave step.session
        else s.put step.session { session with stage := .loaded }
      | _ => s.put step.session { session with stage := .loaded }
  | .check reads, .loaded =>
    if (session.operation.decisionKeys s.store).any fun key => held (·.holdsDecision key) then s
    else match session.operation.check reads s.store with
      | none => s.leave step.session
      | some pending => s.put step.session { session with stage := .checked, pending }
  | .record reads, .checked =>
    if ((session.operation.decisionKeys s.store).any fun key => held (·.holdsDecision key)) ||
        (session.operation.objectionKeys s.store).any fun key => held (·.holdsObjection key) then s
    else match session.operation.record reads s.store session.pending with
      | none => s.leave step.session
      | some pending => s.put step.session { session with stage := .recorded, pending }
  | .reload reads, .recorded =>
    let seen := (session.pending.apply s.store).load
    if session.operation.proceeds reads seen then
      s.put step.session { session with stage := .reloaded, seen, readVersion := s.version }
    else s.leave step.session
  | .write now, .reloaded =>
    if held Session.holdsFlow then s
    else s.put step.session { session with stage := .written, now }
  | .commit, .written =>
    { s.leave step.session with
      store := s.committed approverIds session
      version := s.version + 1 }
  | .abort, _ => s.leave step.session
  | _, _ => s

/-- The state after a run. -/
def run (others : List Nat) (steps : List RaceStep) : RaceSystem :=
  steps.foldl (fun s step => s.apply approverIds others step) s

end RaceSystem

/-! ## Current outcomes -/

section
variable (approverIds : List JsString)

/-- The stored result is the outcome of the reviews, or there is none of either. -/
def FlowStore.ResultCurrent (store : FlowStore) : Prop :=
  store.flow.resultJson = some (.outcome (store.load.outcome approverIds)) ∨
    store.flow.resultJson = none ∧ store.load.decisions = [] ∧ store.load.objections = []

/-- Nothing of a review is committed onto a flow that is decided. -/
def RaceSystem.CommitsOnOpenFlow (s : RaceSystem) (step : RaceStep) : Prop :=
  step.action = .commit → (s.sessions step.session).stage = .written →
    (s.sessions step.session).operation.recomputes = true → s.store.flow.status.isTerminal = false

/-- What a run should keep: no review reaches a flow that is decided, and the result of an active
flow is current when no transaction is under way. -/
structure OutcomesCurrent (others : List Nat) (start : RaceSystem) (steps : List RaceStep) :
    Prop where
  onOpenFlow : ∀ done step, done ++ [step] <+: steps →
    (start.run approverIds others done).CommitsOnOpenFlow step
  current : ∀ done, done <+: steps →
    (∀ id, ((start.run approverIds others done).sessions id).stage = .idle) →
    (start.run approverIds others done).store.flow.status = .ACTIVE →
    (start.run approverIds others done).store.ResultCurrent approverIds

/-- The transaction that writes an outcome commits before anything else does since it read the flow
again, and the flow that it read was not decided. -/
def RaceSystem.Undisturbed (s : RaceSystem) (step : RaceStep) : Prop :=
  step.action = .commit → (s.sessions step.session).stage = .written →
    (s.sessions step.session).operation.recomputes = true →
      s.version = (s.sessions step.session).readVersion ∧
        (s.sessions step.session).seen.status.isTerminal = false

/-! ## Steps -/

theorem FlowStore.outcome_writeOutcome {store : FlowStore} {now : Nat} {outcome : ApprovalOutcome}
    {final : Option ApprovalFlowStatus} {proposalStatus : ProposalStatus} :
    ({ store with
        flow := store.flow.writeOutcome now outcome final
        proposalStatus } : FlowStore).load.outcome approverIds =
      store.load.outcome approverIds := by
  cases final <;> rfl

/-- The transactions that have read the flow again. -/
def Stage.HasReloaded (stage : Stage) : Prop := stage = .reloaded ∨ stage = .written

namespace RaceSystem

variable {approverIds} {s s' : RaceSystem} {others : List Nat} {step : RaceStep}

inductive StepEffect (approverIds : List JsString) (s : RaceSystem) (step : RaceStep) :
    RaceSystem → Prop
  | same : StepEffect approverIds s step s
  | early (session : Session) (hstage : ¬ session.stage.HasReloaded) :
    StepEffect approverIds s step (s.put step.session session)
  | reload : StepEffect approverIds s step (s.put step.session { s.sessions step.session with
      stage := .reloaded
      seen := ((s.sessions step.session).pending.apply s.store).load
      readVersion := s.version })
  | write (now : Nat) (hstage : (s.sessions step.session).stage = .reloaded) :
    StepEffect approverIds s step
      (s.put step.session { s.sessions step.session with stage := .written, now })
  | commit (haction : step.action = .commit) (hstage : (s.sessions step.session).stage = .written) :
    StepEffect approverIds s step { s.leave step.session with
      store := s.committed approverIds (s.sessions step.session)
      version := s.version + 1 }

theorem StepEffect.leave : StepEffect approverIds s step (s.leave step.session) :=
  .early _ (by simp [Stage.HasReloaded])

theorem apply_effect (approverIds : List JsString) (s : RaceSystem) (others : List Nat)
    (step : RaceStep) : StepEffect approverIds s step (s.apply approverIds others step) := by
  rw [apply]
  dsimp only
  split
  · exact .early _ (by simp [Stage.HasReloaded])
  · split
    · exact .same
    · split
      · exact .leave
      · split
        · split
          · exact .leave
          · exact .early _ (by simp [Stage.HasReloaded])
        · exact .early _ (by simp [Stage.HasReloaded])
  · split
    · exact .same
    · split
      · exact .leave
      · exact .early _ (by simp [Stage.HasReloaded])
  · split
    · exact .same
    · split
      · exact .leave
      · exact .early _ (by simp [Stage.HasReloaded])
  · split
    · exact .reload
    · exact .leave
  · next hstage =>
    split
    · exact .same
    · exact .write _ hstage
  · next haction hstage => exact .commit haction hstage
  · exact .leave
  · exact .same

/-! ## The invariant -/

/-- What a transaction has read again is what it would read now, unless another one has committed
since. -/
structure Sound (approverIds : List JsString) (s : RaceSystem) : Prop where
  current : s.store.flow.status = .ACTIVE → s.store.ResultCurrent approverIds
  readVersion_le : ∀ id, (s.sessions id).stage.HasReloaded → (s.sessions id).readVersion ≤ s.version
  seen : ∀ id, (s.sessions id).stage.HasReloaded → (s.sessions id).readVersion = s.version →
    (s.sessions id).seen = ((s.sessions id).pending.apply s.store).load

/-- The invariant is about the rows and about every transaction by itself. -/
theorem Sound.put (hs : s.Sound approverIds) {id : Nat} {session : Session}
    (hversion : session.stage.HasReloaded → session.readVersion ≤ s.version)
    (hseen : session.stage.HasReloaded → session.readVersion = s.version →
      session.seen = (session.pending.apply s.store).load) :
    (s.put id session).Sound approverIds where
  current := hs.current
  readVersion_le other := by
    rcases eq_or_ne other id with rfl | hne
    · simpa using hversion
    · simpa [sessions_put_of_ne hne] using hs.readVersion_le other
  seen other := by
    rcases eq_or_ne other id with rfl | hne
    · simpa using hseen
    · simpa [sessions_put_of_ne hne] using hs.seen other

theorem current_committed {session : Session}
    (hseen : session.operation.recomputes = true →
      session.seen = (session.pending.apply s.store).load)
    (hactive : (s.committed approverIds session).flow.status = .ACTIVE) :
    (s.committed approverIds session).ResultCurrent approverIds := by
  obtain ⟨operation, stage, pending, seen, readVersion, now⟩ := session
  -- a review leaves the outcome of the rows that it was calculated from
  have hreview (final : Option ApprovalFlowStatus)
      (h : seen = (pending.apply s.store).load) :
      ({ pending.apply s.store with
          flow := s.store.flow.writeOutcome now (seen.outcome approverIds) final
        } : FlowStore).ResultCurrent approverIds := by
    left
    rw [ApprovalFlow.resultJson_writeOutcome, h]
    congr 2
    exact (FlowStore.outcome_writeOutcome approverIds).symm
  cases operation with
  | recordApprovalDecision decision => exact hreview _ (hseen rfl)
  | createObjection objection => exact hreview _ (hseen rfl)
  | resolveObjection objectionId => exact hreview _ (hseen rfl)
  | finalizeExpiredApprovalFlows =>
    simp only [committed, FlowOperation.writeFlow, ApprovalFlow.status_writeOutcome,
      Option.getD_some] at hactive
    split at hactive <;> cases hactive
  | resolveProposal outcome decisionMd =>
    cases outcome <;> cases hactive
  | returnProposalToDraft => cases hactive

/-- **A step that disturbs nobody keeps the invariant.** -/
theorem Sound.apply (hs : s.Sound approverIds) (others : List Nat)
    (hundisturbed : s.Undisturbed step) : (s.apply approverIds others step).Sound approverIds := by
  have heffect := apply_effect approverIds s others step
  generalize s.apply approverIds others step = s' at heffect ⊢
  cases heffect with
  | same => exact hs
  | early session hstage => exact hs.put (absurd · hstage) (absurd · hstage)
  | reload => exact hs.put (fun _ => le_rfl) (fun _ _ => rfl)
  | write now hstage =>
    exact hs.put (fun _ => hs.readVersion_le _ (.inl hstage)) (fun _ => hs.seen _ (.inl hstage))
  | commit haction hstage =>
    have hread (id : Nat) (hid : ((s.leave step.session).sessions id).stage.HasReloaded) :
        ((s.leave step.session).sessions id).readVersion < s.version + 1 := by
      rcases eq_or_ne id step.session with rfl | hne
      · simp [leave, Stage.HasReloaded] at hid
      · rw [leave, sessions_put_of_ne hne] at hid ⊢
        exact Nat.lt_succ_of_le (hs.readVersion_le id hid)
    refine ⟨fun hactive => ?_, fun id hid => (hread id hid).le, fun id hid heq => ?_⟩
    · refine current_committed (fun hrecomputes => ?_) hactive
      exact hs.seen _ (.inr hstage) (hundisturbed haction hstage hrecomputes).1.symm
    · exact absurd heq (hread id hid).ne

/-- No review is committed onto a flow that is decided where nobody is disturbed. -/
theorem Sound.commitsOnOpenFlow (hs : s.Sound approverIds) (hundisturbed : s.Undisturbed step) :
    s.CommitsOnOpenFlow step := by
  intro haction hstage hrecomputes
  obtain ⟨hversion, hopen⟩ := hundisturbed haction hstage hrecomputes
  rw [hs.seen _ (.inr hstage) hversion.symm] at hopen
  exact hopen

/-- **A run in which nobody is disturbed keeps the invariant.** -/
theorem Sound.run (hs : s.Sound approverIds) {steps : List RaceStep}
    (hundisturbed : ∀ done step, done ++ [step] <+: steps →
      (s.run approverIds others done).Undisturbed step) :
    (s.run approverIds others steps).Sound approverIds := by
  induction steps using reverseRecOn with
  | nil => exact hs
  | append_singleton steps step ih =>
    have hbefore : (s.run approverIds others steps).Sound approverIds :=
      ih fun done other hdone => hundisturbed done other (hdone.trans (prefix_append _ _))
    rw [RaceSystem.run, foldl_append]
    exact hbefore.apply others (hundisturbed steps step prefix_rfl)

end RaceSystem

end

section
variable {s : RaceSystem} {approverIds : List JsString}

/-- The transactions that a run does not name stay as they are. -/
theorem RaceSystem.sessions_run_of_forall_ne {others : List Nat} {steps : List RaceStep} {id : Nat}
    (h : ∀ step ∈ steps, id ≠ step.session) :
    (s.run approverIds others steps).sessions id = s.sessions id := by
  induction steps generalizing s with
  | nil => rfl
  | cons step steps ih =>
    obtain ⟨hstep, hsteps⟩ := forall_mem_cons.1 h
    have hone : (s.apply approverIds others step).sessions id = s.sessions id := by
      have heffect := apply_effect approverIds s others step
      generalize s.apply approverIds others step = s' at heffect ⊢
      cases heffect with
      | same => rfl
      | early | reload | write | commit => exact sessions_put_of_ne hstep
    exact (ih hsteps).trans hone

end

def sampleFlow : ApprovalFlow :=
  ⟨lit "f", lit "PROPOSAL", lit "p", .MAJORITY, .ACTIVE, 50, 1, some 0, none, none, none⟩

/-- An open proposal on which nobody has decided. -/
def sampleRace : RaceSystem where
  store := ⟨sampleFlow, .empty, .empty, .OPEN⟩
  version := 0
  sessions _ := ⟨.returnProposalToDraft, .idle, .none, ⟨sampleFlow, [], []⟩, 0, 0⟩

/-- The statements of an operation up to the one that writes the flow. -/
def upToReload (session : Nat) (operation : FlowOperation) : List RaceStep :=
  [.start operation, .read ⟨0, false, true⟩, .check ⟨0, false, true⟩, .record ⟨0, false, true⟩,
    .reload ⟨0, false, true⟩].map (⟨session, ·⟩)

def writeAndCommit (session : Nat) : List RaceStep := [⟨session, .write 0⟩, ⟨session, .commit⟩]

def approval (memberId : String) : FlowOperation :=
  .recordApprovalDecision ⟨lit memberId, .APPROVE, none⟩

/-- Two members decide, and each of them has read the flow again before the other commits. -/
def decisionRace : List RaceStep :=
  upToReload 0 (approval "a") ++ upToReload 1 (approval "b") ++ writeAndCommit 0 ++ writeAndCommit 1

/-- The proposal is resolved after a member has read the flow again. -/
def resolutionRace : List RaceStep :=
  upToReload 0 (approval "a") ++ upToReload 1 (.resolveProposal .ADOPTED (lit "d")) ++
    writeAndCommit 1 ++ writeAndCommit 0

end Corgtex.Domain.Approvals
