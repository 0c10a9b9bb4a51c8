import Corgtex.Domain.Proposals
import Corgtex.Library.Runs

/-!
# The lifecycle of a proposal

What the requests of `Proposals` do to a proposal, its policy, its approval flow and its archive
record, as one step of a lifecycle (`ProposalEffect`); every other proposal is left alone
(`Moves`). The fields of a proposal stand for one state of it in every run
(`proposal_resolution_sound`). The flow is active for an open proposal only, and for every open one
as long as no open proposal has been restored from the archive (`flows_in_step_iff`).
-/

namespace Corgtex.Domain.Proposals

open KeyedTable hiding mem_filter

open Approvals List
open JsString (lit)

/-! ## What belongs to one proposal -/

/-- A proposal with its policy, its flow and its archive records that are not restored. -/
structure ProposalView where
  proposal : Option Proposal
  policy : Option PolicyCorpus
  flow : Option ProposalFlow
  records : List ArchiveRecord

def openRecords (records : List ArchiveRecord) (id : JsString) : List ArchiveRecord :=
  records.filter fun record => record.entityId = id && record.restoredAt.isNone

def ProposalStore.view (store : ProposalStore) (id : JsString) : ProposalView :=
  ⟨store.proposals.find? id, store.policies.find? id, store.flows.find? id,
    openRecords store.archiveRecords.rows id⟩

/-- The row that an activation leaves: of the flow that was there, or of a new one. -/
structure Activated (workspaceId : JsString) (flow : Option ProposalFlow)
    (flow' : ProposalFlow) : Prop where
  active : flow'.status = .ACTIVE
  workspaceId_eq : flow'.workspaceId = (flow.map (·.workspaceId)).getD workspaceId
  subjectType_eq : flow'.subjectType = (flow.map (·.subjectType)).getD (lit "PROPOSAL")

/-- A change that leaves no active flow in a workspace. -/
def Closes (workspaceId : JsString) (change : ProposalFlow → ProposalFlow) : Prop :=
  ∀ flow : ProposalFlow, (change flow).workspaceId = flow.workspaceId ∧
    (change flow).subjectType = flow.subjectType ∧
    (flow.workspaceId = workspaceId → (change flow).status ≠ .ACTIVE)

/-- The policy of a proposal with an outcome: a copy if it is adopted. -/
structure Adopts (proposal : Proposal) (policy policy' : Option PolicyCorpus) : Prop where
  kept : proposal.resolutionOutcome ≠ some .ADOPTED → policy' = policy
  adopted : proposal.resolutionOutcome = some .ADOPTED → ∃ row, policy' = some row ∧
    row.title = proposal.title ∧ row.bodyMd = proposal.bodyMd ∧ row.circleId = proposal.circleId

/-- What a request other than a restore can do to a proposal. -/
inductive ProposalEffect : ProposalView → ProposalView → Prop
  | keep (view : ProposalView) : ProposalEffect view view
  | createDraft {policy flow records} (proposal : Proposal)
      (hstatus : proposal.status = .DRAFT) (hprivate : proposal.isPrivate = true)
      (hpublished : proposal.publishedAt = none) (houtcome : proposal.resolutionOutcome = none)
      (hdecided : proposal.decidedAt = none) (harchived : proposal.archivedAt = none) :
    ProposalEffect ⟨none, policy, flow, records⟩ ⟨some proposal, policy, flow, records⟩
  | createOpen {policy flow records} (proposal : Proposal) (flow' : ProposalFlow)
      (hstatus : proposal.status = .OPEN) (hprivate : proposal.isPrivate = false)
      (hpublished : proposal.publishedAt.isSome) (houtcome : proposal.resolutionOutcome = none)
      (hdecided : proposal.decidedAt = none) (harchived : proposal.archivedAt = none)
      (hflow : Activated proposal.workspaceId flow flow') :
    ProposalEffect ⟨none, policy, flow, records⟩ ⟨some proposal, policy, some flow', records⟩
  | edit {policy flow records} (proposal : Proposal) (content : ProposalContent) (version : Nat)
      (hstatus : proposal.status = .DRAFT ∨ proposal.status = .OPEN) :
    ProposalEffect ⟨some proposal, policy, flow, records⟩
      ⟨some { proposal with toProposalContent := content, version }, policy, flow, records⟩
  | submit {policy flow records} (proposal : Proposal) (flow' : ProposalFlow) (publishedAt : Nat)
      (harchived : proposal.archivedAt = none) (hstatus : proposal.status = .DRAFT)
      (hflow : Activated proposal.workspaceId flow flow') :
    ProposalEffect ⟨some proposal, policy, flow, records⟩
      ⟨some { proposal with status := .OPEN, isPrivate := false, publishedAt := some publishedAt },
        policy, some flow', records⟩
  | publish {policy flow records} (proposal : Proposal) (publishedAt : Nat)
      (hprivate : proposal.isPrivate = true) :
    ProposalEffect ⟨some proposal, policy, flow, records⟩
      ⟨some { proposal with isPrivate := false, publishedAt := some publishedAt }, policy, flow,
        records⟩
  | returnToDraft {policy flow records} (proposal : Proposal)
      (change : ProposalFlow → ProposalFlow) (harchived : proposal.archivedAt = none)
      (hchange : Closes proposal.workspaceId change) :
    ProposalEffect ⟨some proposal, policy, flow, records⟩
      ⟨some { proposal with
          status := .DRAFT
          resolutionOutcome := none
          decisionMd := none
          decidedAt := none
          isPrivate := true
          publishedAt := none }, none, flow.map change, records⟩
  | reopen {policy flow records} (proposal : Proposal) (flow' : ProposalFlow) (publishedAt : Nat)
      (harchived : proposal.archivedAt = none) (hflow : Activated proposal.workspaceId flow flow') :
    ProposalEffect ⟨some proposal, policy, flow, records⟩
      ⟨some { proposal with
          status := .OPEN
          resolutionOutcome := none
          decisionMd := none
          decidedAt := none
          isPrivate := false
          publishedAt := some publishedAt }, none, some flow', records⟩
  | resolve {policy flow records} (proposal : Proposal) (outcome : ProposalResolutionOutcome)
      (decisionMd : JsString) (now : Nat) (policy' : Option PolicyCorpus)
      (change : ProposalFlow → ProposalFlow) (harchived : proposal.archivedAt = none)
      (hstatus : proposal.status = .DRAFT ∨ proposal.status = .OPEN)
      (hpolicy : Adopts { proposal with resolutionOutcome := some outcome } policy policy')
      (hchange : Closes proposal.workspaceId change) :
    ProposalEffect ⟨some proposal, policy, flow, records⟩
      ⟨some { proposal with
          status := .RESOLVED
          resolutionOutcome := some outcome
          decisionMd := some decisionMd
          decidedAt := some now
          isPrivate := false
          publishedAt := some (proposal.publishedAt.getD now) }, policy', flow.map change, records⟩
  | finalize {policy records} (proposal : Proposal) (outcome : ProposalResolutionOutcome)
      (decisionMd : JsString) (now : Nat) (policy' : Option PolicyCorpus)
      (flow flow' : ProposalFlow) (hactive : flow.status = .ACTIVE)
      (hpolicy : Adopts { proposal with resolutionOutcome := some outcome } policy policy')
      (hclosed : flow'.status ≠ .ACTIVE) (hworkspace : flow'.workspaceId = flow.workspaceId)
      (hsubject : flow'.subjectType = flow.subjectType) :
    ProposalEffect ⟨some proposal, policy, some flow, records⟩
      ⟨some { proposal with
          status := .RESOLVED
          resolutionOutcome := some outcome
          decisionMd := some decisionMd
          decidedAt := some now }, policy', some flow', records⟩
  | archive {policy flow records} (proposal : Proposal) (now : Nat)
      (userId reason : Option JsString) (record : ArchiveRecord) (change : ProposalFlow → ProposalFlow)
      (harchived : proposal.archivedAt = none)
      (hworkspace : record.workspaceId = proposal.workspaceId)
      (hstatus : record.previousStatus = some (statusName proposal.status))
      (hchange : Closes proposal.workspaceId change) :
    ProposalEffect ⟨some proposal, policy, flow, records⟩
      ⟨some { proposal with
          archivedAt := some now
          archivedByUserId := userId
          archiveReason := reason }, policy, flow.map change, records ++ [record]⟩
  | review {proposal policy records} (flow flow' : ProposalFlow)
      (hstatus : flow'.status = flow.status) (hworkspace : flow'.workspaceId = flow.workspaceId)
      (hsubject : flow'.subjectType = flow.subjectType) :
    ProposalEffect ⟨proposal, policy, some flow, records⟩ ⟨proposal, policy, some flow', records⟩

/-! ## What holds of one proposal -/

/-- The fields of a proposal and its policy stand for one state. -/
structure ResolutionSound (proposal : Proposal) (policy : Option PolicyCorpus) : Prop where
  draft_of_private : proposal.isPrivate = true → proposal.status = .DRAFT
  unpublished_iff : proposal.publishedAt = none ↔ proposal.isPrivate = true
  outcome_iff : proposal.status = .RESOLVED ↔ proposal.resolutionOutcome.isSome
  decided_iff : proposal.status = .RESOLVED ↔ proposal.decidedAt.isSome
  policy_iff : policy.isSome ↔
    proposal.status = .RESOLVED ∧ proposal.resolutionOutcome = some .ADOPTED
  policy_eq : ∀ row, policy = some row →
    row.title = proposal.title ∧ row.bodyMd = proposal.bodyMd ∧ row.circleId = proposal.circleId

/-- The flow of a proposal: active only where the proposal is open and not archived. -/
structure FlowSound (proposal : Proposal) (flow : ProposalFlow) : Prop where
  workspaceId_eq : flow.workspaceId = proposal.workspaceId
  subjectType_eq : flow.subjectType = lit "PROPOSAL"
  active : flow.status = .ACTIVE → proposal.archivedAt = none ∧ proposal.status = .OPEN

/-- The open archive records: one with the status of an archived proposal, no other. -/
structure RecordsSound (proposal : Proposal) (records : List ArchiveRecord) : Prop where
  none : proposal.archivedAt = none → records = []
  one : proposal.archivedAt.isSome → ∃ record, records = [record] ∧
    record.workspaceId = proposal.workspaceId ∧
    record.previousStatus = some (statusName proposal.status)

/-- What every run keeps. -/
def ProposalView.Sound : ProposalView → Prop
  | ⟨none, policy, flow, records⟩ => policy = none ∧ flow = none ∧ records = []
  | ⟨some proposal, policy, flow, records⟩ =>
    ResolutionSound proposal policy ∧ (∀ row ∈ flow, FlowSound proposal row) ∧
      RecordsSound proposal records

/-- An open proposal that is not archived has an active flow. -/
def ProposalView.InStep (view : ProposalView) : Prop :=
  ∀ proposal ∈ view.proposal, proposal.archivedAt = none → proposal.status = .OPEN →
    ∃ flow ∈ view.flow, flow.status = .ACTIVE

section
variable {proposal : Proposal} {policy policy' : Option PolicyCorpus} {flow : Option ProposalFlow}
  {flow' : ProposalFlow} {records : List ArchiveRecord} {view view' : ProposalView}

theorem ResolutionSound.policy_eq_none (h : ResolutionSound proposal policy)
    (hstatus : proposal.status ≠ .RESOLVED) : policy = none := by
  cases policy with
  | none => rfl
  | some row => exact absurd (h.policy_iff.1 rfl).1 hstatus

variable {proposal' : Proposal}

theorem Activated.flowSound (h : Activated proposal.workspaceId flow flow')
    (hflow : ∀ row ∈ flow, FlowSound proposal row)
    (hworkspace : proposal'.workspaceId = proposal.workspaceId)
    (harchived : proposal'.archivedAt = none) (hstatus : proposal'.status = .OPEN) :
    ∀ row ∈ some flow', FlowSound proposal' row := by
  rintro row ⟨⟩
  refine ⟨h.workspaceId_eq.trans ?_, h.subjectType_eq.trans ?_, fun _ => ⟨harchived, hstatus⟩⟩
  · cases flow with
    | none => exact hworkspace.symm
    | some row => exact (hflow row rfl).workspaceId_eq.trans hworkspace.symm
  · cases flow with
    | none => rfl
    | some row => exact (hflow row rfl).subjectType_eq

theorem Closes.flowSound {change : ProposalFlow → ProposalFlow}
    (h : Closes proposal.workspaceId change) (hflow : ∀ row ∈ flow, FlowSound proposal row)
    (hworkspace : proposal'.workspaceId = proposal.workspaceId) :
    ∀ row ∈ flow.map change, FlowSound proposal' row := by
  intro row hrow
  obtain ⟨old, hold, rfl⟩ := Option.mem_map.1 hrow
  obtain ⟨hworkspace', hsubject, hclosed⟩ := h old
  have hsound := hflow old hold
  refine ⟨?_, hsubject.trans hsound.subjectType_eq, fun hactive => ?_⟩
  · rw [hworkspace', hsound.workspaceId_eq, hworkspace]
  · exact absurd hactive (hclosed hsound.workspaceId_eq)

theorem Adopts.resolutionSound {outcome : ProposalResolutionOutcome} {decisionMd : JsString}
    {now : Nat} {isPrivate : Bool} {publishedAt : Option Nat} (hpolicy : policy = none)
    (h : Adopts { proposal with resolutionOutcome := some outcome } policy policy')
    (hprivate : isPrivate = false) (hpublished : publishedAt.isSome) :
    ResolutionSound { proposal with
      status := .RESOLVED
      resolutionOutcome := some outcome
      decisionMd := some decisionMd
      decidedAt := some now
      isPrivate
      publishedAt } policy' := by
  have hcopy : (policy'.isSome ↔ outcome = .ADOPTED) ∧ ∀ row, policy' = some row →
      row.title = proposal.title ∧ row.bodyMd = proposal.bodyMd ∧
        row.circleId = proposal.circleId := by
    by_cases houtcome : outcome = .ADOPTED
    · obtain ⟨row, rfl, hrow⟩ := h.adopted (congrArg some houtcome)
      refine ⟨iff_of_true rfl houtcome, fun other hother => ?_⟩
      cases hother
      exact hrow
    · have hnone : policy' = none := (h.kept (by simpa using houtcome)).trans hpolicy
      subst hnone
      exact ⟨iff_of_false (by simp) houtcome, by simp⟩
  refine ⟨by simp [hprivate], ?_, by simp, by simp, ?_, hcopy.2⟩
  · cases publishedAt with
    | none => cases hpublished
    | some publishedAt => simp [hprivate]
  · simpa using hcopy.1

/-- **A request keeps the fields of a proposal, its policy, flow and records together.** -/
theorem ProposalEffect.sound (h : ProposalEffect view view') (hs : view.Sound) : view'.Sound := by
  cases h with
  | keep => exact hs
  | createDraft proposal hstatus hprivate hpublished houtcome hdecided harchived =>
    obtain ⟨rfl, rfl, rfl⟩ := hs
    refine ⟨⟨fun _ => hstatus, ?_, ?_, ?_, ?_, by simp⟩, by simp, fun _ => rfl, ?_⟩ <;>
      simp [*]
  | createOpen proposal flow' hstatus hprivate hpublished houtcome hdecided harchived hflow =>
    obtain ⟨rfl, rfl, rfl⟩ := hs
    have hopen : proposal.publishedAt ≠ none := Option.isSome_iff_ne_none.1 hpublished
    refine ⟨⟨?_, ?_, ?_, ?_, ?_, by simp⟩, ?_, fun _ => rfl, ?_⟩
    · simp [hprivate]
    · simp [hprivate, hopen]
    · simp [hstatus, houtcome]
    · simp [hstatus, hdecided]
    · simp [hstatus]
    · exact hflow.flowSound (by simp) rfl harchived hstatus
    · simp [harchived]
  | edit proposal content version hstatus =>
    obtain ⟨hresolution, hflow, hrecords⟩ := hs
    have hunresolved : proposal.status ≠ .RESOLVED := by
      rcases hstatus with hstatus | hstatus <;> simp [hstatus]
    obtain rfl := hresolution.policy_eq_none hunresolved
    refine ⟨⟨hresolution.draft_of_private, hresolution.unpublished_iff, hresolution.outcome_iff,
      hresolution.decided_iff, hresolution.policy_iff, by simp⟩, fun row hrow => ?_,
      hrecords.none, hrecords.one⟩
    exact ⟨(hflow row hrow).workspaceId_eq, (hflow row hrow).subjectType_eq,
      (hflow row hrow).active⟩
  | submit proposal flow' publishedAt harchived hstatus hflow' =>
    obtain ⟨hresolution, hflow, hrecords⟩ := hs
    have hunresolved : proposal.status ≠ .RESOLVED := by simp [hstatus]
    obtain rfl := hresolution.policy_eq_none hunresolved
    have houtcome := mt hresolution.outcome_iff.2 hunresolved
    have hdecided := mt hresolution.decided_iff.2 hunresolved
    exact ⟨⟨by simp, by simp, by simpa using houtcome, by simpa using hdecided, by simp, by simp⟩,
      hflow'.flowSound hflow rfl harchived rfl, hrecords.none, by simp [harchived]⟩
  | publish proposal publishedAt hprivate =>
    obtain ⟨hresolution, hflow, hrecords⟩ := hs
    refine ⟨⟨by simp, by simp, hresolution.outcome_iff, hresolution.decided_iff,
      hresolution.policy_iff, hresolution.policy_eq⟩, fun row hrow => ?_, hrecords.none,
      hrecords.one⟩
    exact ⟨(hflow row hrow).workspaceId_eq, (hflow row hrow).subjectType_eq,
      (hflow row hrow).active⟩
  | returnToDraft proposal change harchived hchange =>
    obtain ⟨-, hflow, hrecords⟩ := hs
    exact ⟨⟨by simp, by simp, by simp, by simp, by simp, by simp⟩,
      hchange.flowSound hflow rfl, hrecords.none, by simp [harchived]⟩
  | reopen proposal flow' publishedAt harchived hflow' =>
    obtain ⟨-, hflow, hrecords⟩ := hs
    exact ⟨⟨by simp, by simp, by simp, by simp, by simp, by simp⟩,
      hflow'.flowSound hflow rfl harchived rfl, hrecords.none, by simp [harchived]⟩
  | resolve proposal outcome decisionMd now policy' change harchived hstatus hpolicy hchange =>
    obtain ⟨hresolution, hflow, hrecords⟩ := hs
    have hunresolved : proposal.status ≠ .RESOLVED := by
      rcases hstatus with hstatus | hstatus <;> simp [hstatus]
    exact ⟨hpolicy.resolutionSound (hresolution.policy_eq_none hunresolved) rfl rfl,
      hchange.flowSound hflow rfl, hrecords.none, by simp [harchived]⟩
  | finalize proposal outcome decisionMd now policy' flow flow' hactive hpolicy hclosed hworkspace
      hsubject =>
    obtain ⟨hresolution, hflow, hrecords⟩ := hs
    -- a flow that is active says that the proposal is open, so public and without an outcome
    have hsound := hflow flow rfl
    obtain ⟨harchived, hopen⟩ := hsound.active hactive
    have hpublic : proposal.isPrivate = false := by
      by_contra hprivate
      have hdraft := hresolution.draft_of_private (by simpa using hprivate)
      simp [hopen] at hdraft
    have hpublished : proposal.publishedAt.isSome := by
      rw [Option.isSome_iff_ne_none, ne_eq, hresolution.unpublished_iff, hpublic]
      simp
    refine ⟨hpolicy.resolutionSound (hresolution.policy_eq_none (by simp [hopen])) hpublic
      hpublished, ?_, hrecords.none, by simp [harchived]⟩
    rintro row ⟨⟩
    exact ⟨hworkspace.trans hsound.workspaceId_eq, hsubject.trans hsound.subjectType_eq,
      fun hstill => absurd hstill hclosed⟩
  | archive proposal now userId reason record change harchived hworkspace hstatus hchange =>
    obtain ⟨hresolution, hflow, hrecords⟩ := hs
    refine ⟨⟨hresolution.draft_of_private, hresolution.unpublished_iff, hresolution.outcome_iff,
      hresolution.decided_iff, hresolution.policy_iff, hresolution.policy_eq⟩,
      hchange.flowSound hflow rfl, by simp, fun _ => ⟨record, ?_, hworkspace, hstatus⟩⟩
    rw [hrecords.none harchived, nil_append]
  | @review proposal policy records flow flow' hstatus hworkspace hsubject =>
    cases proposal with
    | none =>
      obtain ⟨-, hflow, -⟩ := hs
      cases hflow
    | some proposal =>
      obtain ⟨hresolution, hflow, hrecords⟩ := hs
      have hsound := hflow flow rfl
      refine ⟨hresolution, ?_, hrecords⟩
      rintro row ⟨⟩
      exact ⟨hworkspace.trans hsound.workspaceId_eq, hsubject.trans hsound.subjectType_eq,
        fun hactive => hsound.active (hstatus ▸ hactive)⟩

/-- **A request other than a restore leaves no open proposal without an active flow.** -/
theorem ProposalEffect.inStep (h : ProposalEffect view view') (hstep : view.InStep) :
    view'.InStep := by
  cases h with
  | keep => exact hstep
  | createDraft proposal hstatus =>
    rintro row ⟨⟩ - hopen
    simp [hstatus] at hopen
  | createOpen proposal flow' hstatus hprivate hpublished houtcome hdecided harchived hflow =>
    exact fun _ _ _ _ => ⟨flow', rfl, hflow.active⟩
  | edit proposal content version hstatus =>
    rintro row ⟨⟩ harchived hopen
    exact hstep proposal rfl harchived hopen
  | submit proposal flow' publishedAt harchived hstatus hflow =>
    exact fun _ _ _ _ => ⟨flow', rfl, hflow.active⟩
  | publish proposal publishedAt hprivate =>
    rintro row ⟨⟩ harchived hopen
    exact hstep proposal rfl harchived hopen
  | returnToDraft proposal change harchived hchange =>
    rintro row ⟨⟩ - ⟨⟩
  | reopen proposal flow' publishedAt harchived hflow =>
    exact fun _ _ _ _ => ⟨flow', rfl, hflow.active⟩
  | resolve proposal outcome decisionMd now policy' change =>
    rintro row ⟨⟩ - ⟨⟩
  | finalize proposal outcome decisionMd now policy' =>
    rintro row ⟨⟩ - ⟨⟩
  | archive proposal now userId reason record change =>
    rintro row ⟨⟩ ⟨⟩
  | review flow flow' hstatus hworkspace hsubject =>
    intro row hrow harchived hopen
    obtain ⟨old, hold, hactive⟩ := hstep row hrow harchived hopen
    cases hold
    exact ⟨flow', rfl, hstatus.trans hactive⟩

end

/-! ## What a request does -/

/-- Every proposal takes one step of its lifecycle, or none. -/
def Moves (store store' : ProposalStore) : Prop :=
  ∀ id, ProposalEffect (store.view id) (store'.view id)

/-- One proposal takes a step and the others are left alone. -/
structure MovesAt (id : JsString) (store store' : ProposalStore) : Prop where
  effect : ProposalEffect (store.view id) (store'.view id)
  view_of_ne : ∀ other, other ≠ id → store'.view other = store.view other

section
variable {store store' : ProposalStore} {context : ProposalContext}
  {workspaceId proposalId : JsString} {proposal : Proposal} {policy : ApprovalPolicy}

theorem Moves.refl (store : ProposalStore) : Moves store store := fun id => .keep (store.view id)

variable {id : JsString}

theorem MovesAt.moves (h : MovesAt id store store') : Moves store store' := by
  intro other
  by_cases hother : other = id
  · exact hother ▸ h.effect
  · rw [h.view_of_ne other hother]
    exact .keep _

theorem MovesAt.of {before after : Option Proposal} {policy' : Option PolicyCorpus}
    {flow' : Option ProposalFlow} {records' : List ArchiveRecord}
    (hfound : store.proposals.find? id = before)
    (hproposal : store.proposals.ChangedAt store'.proposals id after)
    (hpolicy : store.policies.ChangedAt store'.policies id policy')
    (hflow : store.flows.ChangedAt store'.flows id flow')
    (hrecords : openRecords store'.archiveRecords.rows id = records')
    (hothers : ∀ other, other ≠ id → openRecords store'.archiveRecords.rows other =
      openRecords store.archiveRecords.rows other)
    (h : ProposalEffect ⟨before, store.policies.find? id, store.flows.find? id,
      openRecords store.archiveRecords.rows id⟩ ⟨after, policy', flow', records'⟩) :
    MovesAt id store store' := by
  constructor
  · rw [ProposalStore.view, ProposalStore.view, hfound, hproposal.find_self, hpolicy.find_self,
      hflow.find_self, hrecords]
    exact h
  · intro other hother
    rw [ProposalStore.view, ProposalStore.view, hproposal.find_of_ne other hother,
      hpolicy.find_of_ne other hother, hflow.find_of_ne other hother, hothers other hother]

theorem findProposal_ok (h : findProposal store workspaceId proposalId = .ok proposal) :
    store.proposals.find? proposalId = some proposal ∧ proposal.id = proposalId ∧
      proposal.workspaceId = workspaceId := by
  unfold findProposal at h
  split at h
  · cases h
  · next found hfound =>
    cases h
    obtain ⟨hrow, hworkspace⟩ := Option.filter_eq_some_iff.1 hfound
    exact ⟨hrow, (KeyedTable.find?_eq_some.1 hrow).2, of_decide_eq_true hworkspace⟩

theorem loadProposal_ok (h : loadProposal store context workspaceId proposalId = .ok proposal) :
    store.proposals.find? proposalId = some proposal ∧ proposal.id = proposalId ∧
      proposal.workspaceId = workspaceId ∧ proposal.archivedAt = none := by
  obtain ⟨found, hfound, h⟩ := bind_ok.1 h
  obtain ⟨hreadable, h⟩ := invariant_bind_ok.1 h
  cases h
  obtain ⟨hrow, hid, hworkspace⟩ := findProposal_ok hfound
  rw [Bool.and_eq_true, Option.isNone_iff_eq_none] at hreadable
  exact ⟨hrow, hid, hworkspace, hreadable.1⟩

theorem proposalId_ensureApprovalFlow :
    (ensureApprovalFlow store context workspaceId proposalId policy).proposalId = proposalId := by
  unfold ensureApprovalFlow
  cases hfound : store.flows.find? proposalId with
  | none => rfl
  | some flow => exact (KeyedTable.find?_eq_some.1 hfound).2

variable {flow : ProposalFlow}

/-- Whatever else is written, the flow that is there or made for a proposal is its own. -/
theorem activated_ensureApprovalFlow (hactive : flow.status = .ACTIVE)
    (hworkspace : flow.workspaceId =
      (ensureApprovalFlow store context workspaceId proposalId policy).workspaceId)
    (hsubject : flow.subjectType =
      (ensureApprovalFlow store context workspaceId proposalId policy).subjectType) :
    Activated workspaceId (store.flows.find? proposalId) flow := by
  refine ⟨hactive, hworkspace.trans ?_, hsubject.trans ?_⟩
  · unfold ensureApprovalFlow
    cases store.flows.find? proposalId <;> rfl
  · unfold ensureApprovalFlow
    cases store.flows.find? proposalId <;> rfl

theorem upsertPolicy_changedAt (store : ProposalStore) (context : ProposalContext)
    (proposal : Proposal) {adopted : Prop} [Decidable adopted]
    (hadopted : adopted ↔ proposal.resolutionOutcome = some .ADOPTED) :
    ∃ policy, store.policies.ChangedAt
        (if adopted then upsertPolicy store context proposal else store.policies) proposal.id
        policy ∧
      Adopts proposal (store.policies.find? proposal.id) policy := by
  by_cases h : adopted
  · rw [if_pos h]
    refine ⟨_, changedAt_upsert (by exact fun _ => rfl) rfl,
      fun houtcome => absurd (hadopted.1 h) houtcome, fun _ => ⟨_, rfl, ?_⟩⟩
    cases store.policies.find? proposal.id with
    | none => exact ⟨rfl, rfl, rfl⟩
    | some row => exact ⟨rfl, rfl, rfl⟩
  · rw [if_neg h]
    exact ⟨_, .refl _ _, fun _ => rfl, fun houtcome => absurd (hadopted.2 houtcome) h⟩

variable {cleanupReason : JsString}

theorem closes_withdrawn : Closes workspaceId (withdrawn context workspaceId cleanupReason) := by
  intro flow
  unfold withdrawn
  split
  · exact ⟨rfl, rfl, by simp⟩
  · next hinactive =>
    refine ⟨rfl, rfl, fun hworkspace hactive => hinactive ?_⟩
    simp [hworkspace, hactive]

/-! ### Creating and updating proposals -/

theorem createRow_changedAt {α κ : Type} [DecidableEq κ] {key : α → κ}
    {table table' : KeyedTable α key} {row : α} (h : createRow table row = .ok table') :
    table.find? (key row) = none ∧ table.ChangedAt table' (key row) (some row) := by
  obtain ⟨hnew, hrows⟩ := createRow_ok h
  exact ⟨hnew, (KeyedTable.find?_of_rows_append hrows hnew).trans (if_pos rfl),
    fun _ hne => (KeyedTable.find?_of_rows_append hrows hnew).trans (if_neg hne)⟩

variable {params : CreateProposalParams} {sourceTension : Option Tension}

theorem insertProposal_moves {title bodyMd : JsString}
    {summary : Option JsString} {defaultPriority : Int}
    (h : insertProposal store context params title summary bodyMd sourceTension defaultPriority =
      .ok store') : Moves store store' := by
  unfold insertProposal at h
  obtain ⟨policy, hpolicy, h⟩ := bind_ok.1 h
  obtain ⟨ownerMemberId, -, h⟩ := bind_ok.1 h
  obtain ⟨proposals, hcreate, h⟩ := bind_ok.1 h
  obtain ⟨_, -, h⟩ := bind_ok.1 h
  obtain ⟨hnew, hchanged⟩ := createRow_changedAt hcreate
  unfold CreateProposalParams.policy at hpolicy
  split at hpolicy
  · next hprivate =>
    cases hpolicy
    cases h
    simp only [hprivate] at hchanged
    exact MovesAt.moves (.of hnew hchanged (.refl _ _) (.refl _ _) rfl (fun _ _ => rfl)
      (.createDraft _ rfl rfl rfl rfl rfl rfl))
  · next hpublic =>
    cases hfound : getApprovalPolicy context params.workspaceId with
    | error e => rw [hfound] at hpolicy; cases hpolicy
    | ok policy =>
    rw [hfound] at hpolicy
    cases hpolicy
    cases h
    simp only [hpublic] at hchanged
    exact MovesAt.moves (.of hnew hchanged (.refl _ _)
      (changedAt_set proposalId_ensureApprovalFlow) rfl (fun _ _ => rfl)
      (.createOpen _ _ rfl rfl rfl rfl rfl rfl (activated_ensureApprovalFlow rfl rfl rfl)))

theorem createProposal_moves
    (h : createProposal store context params sourceTension = .ok store') : Moves store store' := by
  obtain ⟨_, -, h⟩ := bind_ok.1 h
  obtain ⟨_, h⟩ := invariant_bind_ok.1 h
  obtain ⟨_, h⟩ := invariant_bind_ok.1 h
  obtain ⟨summary, -, h⟩ := bind_ok.1 h
  exact insertProposal_moves h

theorem createProposalFromTension_moves {sourceTension : Tension}
    (h : createProposalFromTension store context params sourceTension = .ok store') :
    Moves store store' := by
  obtain ⟨_, -, h⟩ := bind_ok.1 h
  exact insertProposal_moves h

theorem updateProposal_moves {params : UpdateProposalParams}
    (h : updateProposal store context params = .ok store') : Moves store store' := by
  obtain ⟨proposal, hload, h⟩ := bind_ok.1 h
  obtain ⟨_, heditable, h⟩ := bind_ok.1 h
  obtain ⟨_, h⟩ := invariant_bind_ok.1 h
  obtain ⟨_, -, h⟩ := bind_ok.1 h
  obtain ⟨data, -, h⟩ := bind_ok.1 h
  obtain ⟨⟨versions, version⟩, -, h⟩ := bind_ok.1 h
  obtain ⟨_, heditable⟩ := invariant_bind_ok.1 heditable
  obtain ⟨hstatus, -⟩ := invariant_bind_ok.1 heditable
  obtain ⟨hfound, hid, -, -⟩ := loadProposal_ok hload
  dsimp only at h
  split at h
  · cases h
    exact .refl store
  · obtain ⟨_, -, h⟩ := bind_ok.1 h
    cases h
    rw [← hid] at hfound
    exact MovesAt.moves (.of hfound (changedAt_set rfl) (.refl _ _) (.refl _ _) rfl
      (fun _ _ => rfl) (.edit proposal _ _ (by simpa using hstatus)))

theorem applyProposalDuplicateUpdate_moves
    (h : applyProposalDuplicateUpdate store context params proposalId = .ok store') :
    Moves store store' := by
  obtain ⟨existing, -, h⟩ := bind_ok.1 h
  obtain ⟨_, h⟩ := invariant_bind_ok.1 h
  dsimp only at h
  split at h
  · exact updateProposal_moves h
  · cases h
    exact .refl store

/-! ### Drafts and open proposals -/

theorem submitProposal_moves
    (h : submitProposal store context workspaceId proposalId = .ok store') :
    Moves store store' := by
  obtain ⟨policy, -, h⟩ := bind_ok.1 h
  obtain ⟨proposal, hload, h⟩ := bind_ok.1 h
  obtain ⟨hstatus, h⟩ := invariant_bind_ok.1 h
  obtain ⟨_, -, h⟩ := bind_ok.1 h
  obtain ⟨_, -, h⟩ := bind_ok.1 h
  cases h
  obtain ⟨hfound, rfl, rfl, harchived⟩ := loadProposal_ok hload
  exact MovesAt.moves (.of hfound (changedAt_set rfl) (.refl _ _)
    (changedAt_set proposalId_ensureApprovalFlow) rfl (fun _ _ => rfl)
    (.submit proposal _ _ harchived (of_decide_eq_true hstatus)
      (activated_ensureApprovalFlow rfl rfl rfl)))

theorem publishProposal_moves
    (h : publishProposal store context workspaceId proposalId = .ok store') :
    Moves store store' := by
  obtain ⟨proposal, hload, h⟩ := bind_ok.1 h
  obtain ⟨hprivate, h⟩ := invariant_bind_ok.1 h
  obtain ⟨_, -, h⟩ := bind_ok.1 h
  obtain ⟨_, -, h⟩ := bind_ok.1 h
  cases h
  obtain ⟨hfound, rfl, -, -⟩ := loadProposal_ok hload
  exact MovesAt.moves (.of hfound (changedAt_set rfl) (.refl _ _) (.refl _ _) rfl
    (fun _ _ => rfl) (.publish proposal _ hprivate))

theorem returnProposalToDraft_moves
    (h : returnProposalToDraft store context workspaceId proposalId = .ok store') :
    Moves store store' := by
  obtain ⟨proposal, hload, h⟩ := bind_ok.1 h
  obtain ⟨_, h⟩ := invariant_bind_ok.1 h
  obtain ⟨_, -, h⟩ := bind_ok.1 h
  obtain ⟨_, -, h⟩ := bind_ok.1 h
  cases h
  obtain ⟨hfound, rfl, -, harchived⟩ := loadProposal_ok hload
  exact MovesAt.moves (.of hfound (changedAt_set rfl) changedAt_delete
    (changedAt_update (by exact fun _ => rfl)) rfl (fun _ _ => rfl)
    (.returnToDraft proposal _ harchived fun flow =>
      ⟨rfl, rfl, by simp [ProposalFlow.cleared]⟩))

/-- The writes that reopen a proposal which has been read before. -/
theorem reopened_moves (hfound : store.proposals.find? proposal.id = some proposal)
    (harchived : proposal.archivedAt = none) :
    MovesAt proposal.id store (reopened store context proposal.workspaceId policy proposal) :=
  .of hfound (changedAt_update_of_find? hfound (by exact fun _ => rfl))
    changedAt_delete (changedAt_set proposalId_ensureApprovalFlow) rfl
    (fun _ _ => rfl)
    (.reopen proposal _ _ harchived (activated_ensureApprovalFlow rfl rfl rfl))

theorem reopenProposal_moves
    (h : reopenProposal store context workspaceId proposalId = .ok store') :
    Moves store store' := by
  obtain ⟨policy, -, h⟩ := bind_ok.1 h
  obtain ⟨proposal, hload, h⟩ := bind_ok.1 h
  obtain ⟨_, h⟩ := invariant_bind_ok.1 h
  obtain ⟨_, h⟩ := invariant_bind_ok.1 h
  obtain ⟨_, -, h⟩ := bind_ok.1 h
  cases h
  obtain ⟨hfound, rfl, rfl, harchived⟩ := loadProposal_ok hload
  exact (reopened_moves hfound harchived).moves

/-- The bulk reopens every proposal once, from the row that was read before the first of them. -/
theorem foldlM_supportReopen_moves {start : ProposalStore} {ids : List JsString}
    (hnodup : ids.Nodup) (hread : ∀ id ∈ ids, store.proposals.find? id = start.proposals.find? id)
    (h : ids.foldlM (supportReopen context workspaceId start policy) store = .ok store') :
    ∀ id, (id ∈ ids → ProposalEffect (store.view id) (store'.view id)) ∧
      (id ∉ ids → store'.view id = store.view id) := by
  induction ids generalizing store with
  | nil =>
    cases h
    simp
  | cons first ids ih =>
    rw [foldlM_cons] at h
    obtain ⟨next, hfirst, hothers⟩ := bind_ok.1 h
    obtain ⟨hnew, hrest⟩ := nodup_cons.1 hnodup
    obtain ⟨proposal, hload, hfirst⟩ := bind_ok.1 hfirst
    obtain ⟨_, hfirst⟩ := invariant_bind_ok.1 hfirst
    obtain ⟨_, hfirst⟩ := invariant_bind_ok.1 hfirst
    obtain ⟨_, -, hfirst⟩ := bind_ok.1 hfirst
    cases hfirst
    obtain ⟨hfound, rfl, rfl, harchived⟩ := loadProposal_ok hload
    have hmoved : MovesAt proposal.id store (reopened store context proposal.workspaceId policy
        proposal) :=
      reopened_moves ((hread proposal.id mem_cons_self).trans hfound) harchived
    have hkept (id : JsString) (hid : id ∈ ids) :
        (reopened store context proposal.workspaceId policy proposal).proposals.find? id =
          start.proposals.find? id := by
      have hne : id ≠ proposal.id := fun heq => hnew (heq ▸ hid)
      have hview := congrArg ProposalView.proposal (hmoved.view_of_ne id hne)
      exact hview.trans (hread id (mem_cons_of_mem _ hid))
    intro id
    obtain ⟨hin, hout⟩ := ih hrest hkept hothers id
    rw [mem_cons]
    by_cases hid : id = proposal.id
    · subst hid
      rw [hout hnew]
      exact ⟨fun _ => hmoved.effect, fun hnot => absurd (.inl rfl) hnot⟩
    · rw [← hmoved.view_of_ne id hid]
      exact ⟨fun hmem => hin (hmem.resolve_left hid), fun hnot => hout (not_or.1 hnot).2⟩

theorem supportReopenResolvedProposals_moves {isSupport : Bool} {proposalIds : List JsString}
    {reason : JsString} (h : supportReopenResolvedProposals store context workspaceId isSupport
      proposalIds reason = .ok store') : Moves store store' := by
  obtain ⟨_, h⟩ := invariant_bind_ok.1 h
  obtain ⟨_, h⟩ := invariant_bind_ok.1 h
  obtain ⟨_, h⟩ := invariant_bind_ok.1 h
  obtain ⟨_, h⟩ := invariant_bind_ok.1 h
  obtain ⟨policy, -, h⟩ := bind_ok.1 h
  obtain ⟨_, h⟩ := invariant_bind_ok.1 h
  have hmoved := foldlM_supportReopen_moves (JsArray.nodup_distinct _) (fun _ _ => rfl) h
  intro id
  by_cases hid : id ∈ normalizeIds proposalIds
  · exact (hmoved id).1 hid
  · rw [(hmoved id).2 hid]
    exact .keep _

/-! ### Decisions and the archive -/

theorem resolveProposal_moves {outcome : ProposalResolutionOutcome} {decisionMd : JsString}
    (h : resolveProposal store context workspaceId proposalId outcome decisionMd = .ok store') :
    Moves store store' := by
  obtain ⟨_, h⟩ := invariant_bind_ok.1 h
  obtain ⟨proposal, hload, h⟩ := bind_ok.1 h
  obtain ⟨hstatus, h⟩ := invariant_bind_ok.1 h
  obtain ⟨_, -, h⟩ := bind_ok.1 h
  obtain ⟨_, -, h⟩ := bind_ok.1 h
  cases h
  obtain ⟨hfound, rfl, -, harchived⟩ := loadProposal_ok hload
  have hpolicies : (outcome = .ADOPTED) ↔ some outcome = some ProposalResolutionOutcome.ADOPTED :=
    Option.some_inj.symm
  obtain ⟨policy', hchanged, hadopts⟩ := upsertPolicy_changedAt store context { proposal with
    status := .RESOLVED
    resolutionOutcome := some outcome
    decisionMd := some decisionMd.trim
    decidedAt := some context.now
    isPrivate := false
    publishedAt := some (proposal.publishedAt.getD context.now) } hpolicies
  exact MovesAt.moves (.of hfound (changedAt_set rfl) hchanged
    (changedAt_update (by exact fun _ => rfl)) rfl (fun _ _ => rfl)
    (.resolve proposal outcome decisionMd.trim context.now policy' _ harchived
      (by simpa using hstatus) ⟨hadopts.kept, hadopts.adopted⟩ fun flow => ⟨rfl, rfl, fun _ => by
        cases outcome <;> simp⟩))

variable {record : ArchiveRecord}

theorem openRecords_append {records : List ArchiveRecord} :
    openRecords (records ++ [record]) id = openRecords records id ++ openRecords [record] id :=
  filter_append ..

variable {reason : Option JsString}

theorem archived_moves
    (hfound : store.proposals.find? proposal.id = some proposal)
    (harchived : proposal.archivedAt = none)
    (h : archived store context proposal.workspaceId proposal reason cleanupReason = .ok store') :
    Moves store store' := by
  obtain ⟨records, hcreate, h⟩ := bind_ok.1 h
  cases h
  obtain ⟨-, hrows⟩ := createRow_ok hcreate
  refine MovesAt.moves (.of hfound (changedAt_set rfl) (.refl _ _)
    (changedAt_update (by exact proposalId_withdrawn _ _ _)) ?_ (fun other hother => ?_)
    (.archive proposal _ _ _ ⟨context.recordUuid, proposal.workspaceId, proposal.id,
      some (statusName proposal.status), reason, context.now, none⟩ _ harchived rfl rfl
      closes_withdrawn))
  · rw [hrows, openRecords_append]
    simp [openRecords]
  · rw [hrows, openRecords_append]
    simp [openRecords, hother.symm]

theorem archiveProposal_moves {reason : JsString}
    (h : archiveProposal store context workspaceId proposalId reason = .ok store') :
    Moves store store' := by
  obtain ⟨proposal, hload, hwrites⟩ := bind_ok.1 h
  obtain ⟨hfound, rfl, rfl, harchived⟩ := loadProposal_ok hload
  split at hwrites
  · cases hwrites
    exact .refl store
  · exact archived_moves hfound harchived hwrites

variable {expectedVersion : Option ℚ}

theorem archiveWorkspaceArtifact_moves
    (h : archiveWorkspaceArtifact store context workspaceId proposalId reason expectedVersion =
      .ok store') : Moves store store' := by
  obtain ⟨_, h⟩ := invariant_bind_ok.1 h
  obtain ⟨proposal, hload, h⟩ := bind_ok.1 h
  obtain ⟨_, hwrites⟩ := invariant_bind_ok.1 h
  obtain ⟨hfound, rfl, rfl⟩ := findProposal_ok hload
  split at hwrites
  · cases hwrites
    exact .refl store
  · next harchived => exact archived_moves hfound (by simpa using harchived) hwrites

/-! ### Reviews -/

theorem findFlow_ok (h : findFlow store workspaceId proposalId = .ok flow) :
    store.flows.find? proposalId = some flow ∧ flow.subjectId = proposalId := by
  unfold findFlow at h
  split at h
  · cases h
  · next found hfound =>
    cases h
    obtain ⟨hrow, -⟩ := Option.filter_eq_some_iff.1 hfound
    exact ⟨hrow, (KeyedTable.find?_eq_some.1 hrow).2⟩

/-- A flow as it was read, with other reviews. -/
structure SameFlow (current flow : ProposalFlow) : Prop where
  subjectId_eq : flow.subjectId = current.subjectId
  status_eq : flow.status = current.status
  workspaceId_eq : flow.workspaceId = current.workspaceId
  subjectType_eq : flow.subjectType = current.subjectType

variable {current : ProposalFlow}

theorem finalizeApprovalFlow_moves {approved : Bool}
    {outcome : ApprovalOutcome} (hcurrent : store.flows.find? current.subjectId = some current)
    (hsame : SameFlow current flow) (hactive : current.status = .ACTIVE)
    (hsubject : current.subjectType = lit "PROPOSAL")
    (h : finalizeApprovalFlow store context flow approved outcome = .ok store') :
    Moves store store' := by
  unfold finalizeApprovalFlow at h
  obtain ⟨_, -, h⟩ := bind_ok.1 h
  unfold applySubjectOutcome at h
  rw [if_neg (by simp [hsame.subjectType_eq, hsubject])] at h
  obtain ⟨proposal, hload, h⟩ := bind_ok.1 h
  obtain ⟨_, -, h⟩ := bind_ok.1 h
  cases h
  obtain ⟨hfound, hid, -⟩ := findProposal_ok hload
  have hproposal : current.subjectId = proposal.id := hsame.subjectId_eq.symm.trans hid.symm
  rw [hproposal] at hcurrent
  rw [← hid] at hfound
  have hpolicies : approved = true ↔ some (if approved then .ADOPTED else .NOT_ADOPTED) =
      some ProposalResolutionOutcome.ADOPTED := by
    cases approved <;> simp
  obtain ⟨policy', hchanged, hadopts⟩ := upsertPolicy_changedAt
    { store with flows := store.flows.set (ProposalFlow.writeOutcome context flow outcome
      (some (if approved then .APPROVED else .REJECTED))) } context
    { proposal with
      status := .RESOLVED
      resolutionOutcome := some (if approved then .ADOPTED else .NOT_ADOPTED)
      decidedAt := some context.now
      decisionMd := some (context.approvalDecisionMd outcome) } hpolicies
  have hwritten : (ProposalFlow.writeOutcome context flow outcome
      (some (if approved then .APPROVED else .REJECTED))).proposalId = proposal.id := hid.symm
  refine MovesAt.moves (.of hfound (changedAt_set rfl) hchanged
    (changedAt_set hwritten) rfl (fun _ _ => rfl) ?_)
  rw [hcurrent]
  refine .finalize proposal _ _ _ policy' current _ hactive ⟨hadopts.kept, hadopts.adopted⟩ ?_
    hsame.workspaceId_eq hsame.subjectType_eq
  cases approved <;> simp [ProposalFlow.writeOutcome]

theorem writeReview_moves {approverIds : List JsString}
    {final : Option ApprovalFlowStatus}
    (hcurrent : store.flows.find? current.subjectId = some current)
    (hsame : SameFlow current flow) (hactive : current.status = .ACTIVE)
    (hsubject : current.subjectType = lit "PROPOSAL")
    (h : writeReview store context flow approverIds final = .ok store') : Moves store store' := by
  unfold writeReview at h
  split at h
  · cases h
    refine MovesAt.moves (.of rfl (.refl _ _) (.refl _ _)
      (changedAt_set hsame.subjectId_eq) rfl (fun _ _ => rfl) ?_)
    rw [hcurrent]
    exact .review current _ hsame.status_eq hsame.workspaceId_eq hsame.subjectType_eq
  · exact finalizeApprovalFlow_moves hcurrent hsame hactive hsubject h

/-- Every flow of a sound store is of a proposal. -/
def ProposalStore.Sound (store : ProposalStore) : Prop := ∀ id, (store.view id).Sound

section
variable (hs : store.Sound)
include hs

theorem ProposalStore.Sound.subjectType_eq (hflow : store.flows.find? id = some flow) :
    flow.subjectType = lit "PROPOSAL" := by
  have hview := hs id
  rw [ProposalStore.view, hflow] at hview
  cases hproposal : store.proposals.find? id with
  | none =>
    rw [hproposal] at hview
    cases hview.2.1
  | some proposal =>
    rw [hproposal] at hview
    exact (hview.2.1 flow rfl).subjectType_eq

theorem recordApprovalDecision_moves {choice : ApprovalDecisionChoice} {rationale : Option JsString}
    (h : recordApprovalDecision store context workspaceId proposalId choice rationale =
      .ok store') : Moves store store' := by
  unfold recordApprovalDecision at h
  split at h
  · cases h
  · obtain ⟨current, hfind, h⟩ := bind_ok.1 h
    obtain ⟨hactive, h⟩ := invariant_bind_ok.1 h
    obtain ⟨_, -, h⟩ := bind_ok.1 h
    obtain ⟨_, -, h⟩ := bind_ok.1 h
    obtain ⟨_, -, h⟩ := bind_ok.1 h
    obtain ⟨_, -, h⟩ := bind_ok.1 h
    obtain ⟨_, hwrites⟩ := invariant_bind_ok.1 h
    obtain ⟨hcurrent, rfl⟩ := findFlow_ok hfind
    refine writeReview_moves hcurrent ?_ (of_decide_eq_true hactive) (hs.subjectType_eq hcurrent)
      hwrites
    exact ⟨rfl, rfl, rfl, rfl⟩

theorem createObjection_moves {objectionId bodyMd : JsString}
    (h : createObjection store context workspaceId proposalId objectionId bodyMd = .ok store') :
    Moves store store' := by
  unfold createObjection at h
  split at h
  · cases h
  · obtain ⟨_, h⟩ := invariant_bind_ok.1 h
    obtain ⟨current, hfind, h⟩ := bind_ok.1 h
    obtain ⟨_, -, h⟩ := bind_ok.1 h
    obtain ⟨hactive, h⟩ := invariant_bind_ok.1 h
    obtain ⟨_, h⟩ := invariant_bind_ok.1 h
    obtain ⟨_, -, h⟩ := bind_ok.1 h
    obtain ⟨_, -, h⟩ := bind_ok.1 h
    obtain ⟨_, h⟩ := invariant_bind_ok.1 h
    obtain ⟨_, h⟩ := invariant_bind_ok.1 h
    obtain ⟨objections, -, hwrites⟩ := bind_ok.1 h
    obtain ⟨hcurrent, rfl⟩ := findFlow_ok hfind
    refine writeReview_moves hcurrent ?_ (of_decide_eq_true hactive) (hs.subjectType_eq hcurrent)
      hwrites
    exact ⟨rfl, rfl, rfl, rfl⟩

theorem resolveObjection_moves {objectionId : JsString}
    (h : resolveObjection store context workspaceId proposalId objectionId = .ok store') :
    Moves store store' := by
  unfold resolveObjection at h
  split at h
  · cases h
  · obtain ⟨current, hfind, h⟩ := bind_ok.1 h
    obtain ⟨_, -, h⟩ := bind_ok.1 h
    obtain ⟨hactive, h⟩ := invariant_bind_ok.1 h
    obtain ⟨_, h⟩ := invariant_bind_ok.1 h
    obtain ⟨_, -, h⟩ := bind_ok.1 h
    split at h
    · cases h
    · obtain ⟨_, h⟩ := invariant_bind_ok.1 h
      obtain ⟨_, hwrites⟩ := invariant_bind_ok.1 h
      obtain ⟨hcurrent, rfl⟩ := findFlow_ok hfind
      refine writeReview_moves hcurrent ?_ (of_decide_eq_true hactive) (hs.subjectType_eq hcurrent)
        hwrites
      exact ⟨rfl, rfl, rfl, rfl⟩

theorem finalizeExpiredApprovalFlows_eq :
    finalizeExpiredApprovalFlows store context = .ok store := by
  have hnone : store.flows.rows.filter (fun flow =>
      isExpired context.now context.importInactive flow.toApprovalFlow) = [] := by
    rw [filter_eq_nil_iff]
    intro flow hflow hexpired
    have hsubject := hs.subjectType_eq (KeyedTable.find?_key hflow)
    simp [isExpired, hsubject] at hexpired
  rw [finalizeExpiredApprovalFlows, hnone]
  rfl

end

/-! ### Restores -/

theorem statusOf?_restoreData (status : ProposalStatus) :
    statusOf? (restoreData (some (statusName status))) = some status := by
  cases status <;> decide

/-- A restored proposal is as it was, and its record is closed. -/
structure RestoredAt (proposal : Proposal) (store store' : ProposalStore) : Prop where
  view_eq : store'.view proposal.id =
    ⟨some { proposal with archivedAt := none, archivedByUserId := none, archiveReason := none },
      store.policies.find? proposal.id, store.flows.find? proposal.id, []⟩
  view_of_ne : ∀ other, other ≠ proposal.id → store'.view other = store.view other

theorem restorable_ok {isAdmin : Bool}
    (h : restorable store workspaceId proposalId isAdmin expectedVersion = .ok proposal) :
    store.proposals.find? proposal.id = some proposal ∧ proposal.workspaceId = workspaceId ∧
      proposal.archivedAt.isSome := by
  obtain ⟨_, h⟩ := invariant_bind_ok.1 h
  obtain ⟨_, h⟩ := invariant_bind_ok.1 h
  obtain ⟨found, hfound, h⟩ := bind_ok.1 h
  obtain ⟨harchived, h⟩ := invariant_bind_ok.1 h
  obtain ⟨_, h⟩ := invariant_bind_ok.1 h
  cases h
  obtain ⟨hrow, hid, hworkspace⟩ := findProposal_ok hfound
  exact ⟨hid ▸ hrow, hworkspace, harchived⟩

theorem ProposalStore.Sound.of_find? (hs : store.Sound)
    (hfound : store.proposals.find? proposal.id = some proposal) :
    ResolutionSound proposal (store.policies.find? proposal.id) ∧
      (∀ row ∈ store.flows.find? proposal.id, FlowSound proposal row) ∧
      RecordsSound proposal (openRecords store.archiveRecords.rows proposal.id) := by
  have hview := hs proposal.id
  rw [ProposalStore.view, hfound] at hview
  exact hview

theorem activeArchiveRecord_eq
    (hrecords : openRecords store.archiveRecords.rows proposalId = [record])
    (hworkspace : record.workspaceId = workspaceId) :
    activeArchiveRecord store workspaceId proposalId = some record := by
  have hfilter : (store.archiveRecords.rows.filter fun record =>
      record.workspaceId = workspaceId && record.entityId = proposalId &&
        record.restoredAt.isNone) = [record] := by
    have hsplit := filter_filter (l := store.archiveRecords.rows)
      (p := fun record => decide (record.workspaceId = workspaceId))
      (q := fun record => record.entityId = proposalId && record.restoredAt.isNone)
    rw [show store.archiveRecords.rows.filter (fun record =>
      record.entityId = proposalId && record.restoredAt.isNone) = [record] from hrecords] at hsplit
    simpa [Bool.and_assoc, hworkspace] using hsplit.symm
  rw [activeArchiveRecord, hfilter]
  simp

/-- Closing a record takes it from the open ones. -/
theorem openRecords_map {restoredAt : Nat} {records : List ArchiveRecord}
    (hunique : ∀ row ∈ records, row.id = record.id → row = record) :
    openRecords (records.map fun row =>
      if decide (row.id = record.id) then { row with restoredAt := some restoredAt } else row) id =
      (openRecords records id).filter (· ≠ record) := by
  induction records with
  | nil => rfl
  | cons row records ih =>
    obtain ⟨hrow, hrest⟩ := forall_mem_cons.1 hunique
    have ih := ih hrest
    unfold openRecords at ih ⊢
    rw [map_cons, filter_cons, filter_cons]
    by_cases hid : row.id = record.id
    · obtain rfl := hrow hid
      rw [if_neg (by simp), ih]
      split <;> simp
    · have hne : row ≠ record := fun heq => hid (heq ▸ rfl)
      simp only [hid, decide_false, Bool.false_eq_true, if_false]
      split
      · rw [ih, filter_cons_of_pos (by simpa using hne)]
      · exact ih

/-- **A restore that passes its checks** brings the proposal back as it was archived. -/
theorem restoreWorkspaceArtifact_of_restorable (context : ProposalContext) (hs : store.Sound)
    {isAdmin : Bool}
    (h : restorable store workspaceId proposalId isAdmin expectedVersion = .ok proposal) :
    ∃ store', restoreWorkspaceArtifact store context workspaceId proposalId isAdmin
      expectedVersion = .ok store' ∧ RestoredAt proposal store store' := by
  obtain ⟨hfound, hworkspace, harchived⟩ := restorable_ok h
  obtain ⟨-, -, hrecords⟩ := hs.of_find? hfound
  obtain ⟨record, hopen, hrecord, hstatus⟩ := hrecords.one harchived
  have hactive := activeArchiveRecord_eq hopen (hrecord.trans hworkspace)
  have hmem : record ∈ openRecords store.archiveRecords.rows proposal.id := by simp [hopen]
  obtain ⟨hrow, hentity⟩ := mem_filter.1 hmem
  rw [restoreWorkspaceArtifact, h]
  have hclosed (id : JsString) : openRecords (store.archiveRecords.update record.id
      (fun row => { row with restoredAt := some context.now }) fun _ => rfl).rows id =
      (openRecords store.archiveRecords.rows id).filter (· ≠ record) :=
    openRecords_map fun row hmem hid =>
      inj_on_of_nodup_map store.archiveRecords.nodup hmem hrow hid
  simp only [bind, Except.bind, hactive, Option.bind_some, hstatus, statusOf?_restoreData]
  refine ⟨_, rfl, ?_, fun other hother => ?_⟩
  · rw [ProposalStore.view, hclosed, hopen]
    simp [KeyedTable.find?_set]
  · rw [ProposalStore.view, hclosed]
    have hkept : (openRecords store.archiveRecords.rows other).filter (· ≠ record) =
        openRecords store.archiveRecords.rows other := by
      rw [filter_eq_self]
      intro row hmem
      have hrow := (mem_filter.1 hmem).2
      rw [decide_eq_true_eq]
      rintro rfl
      simp_all
    rw [hkept]
    simp [ProposalStore.view, KeyedTable.find?_set, hother]

/-- **A restore keeps the fields of a proposal, its policy, flow and records together.** -/
theorem ProposalStore.Sound.restored (hs : store.Sound)
    (hfound : store.proposals.find? proposal.id = some proposal)
    (harchived : proposal.archivedAt.isSome) (h : RestoredAt proposal store store') :
    store'.Sound := by
  obtain ⟨hresolution, hflow, -⟩ := hs.of_find? hfound
  intro id
  by_cases hid : id = proposal.id
  · rw [hid, h.view_eq]
    refine ⟨⟨hresolution.draft_of_private, hresolution.unpublished_iff, hresolution.outcome_iff,
      hresolution.decided_iff, hresolution.policy_iff, hresolution.policy_eq⟩, fun row hrow => ?_,
      fun _ => rfl, by simp⟩
    have hsound := hflow row hrow
    refine ⟨hsound.workspaceId_eq, hsound.subjectType_eq, fun hactive => ?_⟩
    simp [(hsound.active hactive).1] at harchived
  · rw [h.view_of_ne id hid]
    exact hs id

/-! ## Runs -/

theorem Moves.sound (h : Moves store store') (hs : store.Sound) : store'.Sound :=
  fun id => (h id).sound (hs id)

theorem perform_moves {transaction : ProposalTransaction} (hs : store.Sound)
    (h : transaction.perform context store = .ok store')
    (hrestore : ∀ workspaceId proposalId isAdmin expectedVersion, transaction ≠
      .restoreWorkspaceArtifact workspaceId proposalId isAdmin expectedVersion) :
    Moves store store' := by
  cases transaction with
  | createProposal => exact createProposal_moves h
  | createProposalFromTension => exact createProposalFromTension_moves h
  | applyProposalDuplicateUpdate => exact applyProposalDuplicateUpdate_moves h
  | updateProposal => exact updateProposal_moves h
  | submitProposal => exact submitProposal_moves h
  | publishProposal => exact publishProposal_moves h
  | returnProposalToDraft => exact returnProposalToDraft_moves h
  | reopenProposal => exact reopenProposal_moves h
  | supportReopenResolvedProposals => exact supportReopenResolvedProposals_moves h
  | resolveProposal => exact resolveProposal_moves h
  | archiveProposal => exact archiveProposal_moves h
  | archiveWorkspaceArtifact => exact archiveWorkspaceArtifact_moves h
  | restoreWorkspaceArtifact => exact absurd rfl (hrestore _ _ _ _)
  | recordApprovalDecision => exact recordApprovalDecision_moves hs h
  | createObjection => exact createObjection_moves hs h
  | resolveObjection => exact resolveObjection_moves hs h
  | finalizeExpiredApprovalFlows =>
    cases (finalizeExpiredApprovalFlows_eq hs).symm.trans h
    exact .refl store
  | finalizeApprovalFlow =>
    obtain ⟨flow, hfind, h⟩ := bind_ok.1 h
    obtain ⟨hactive, hwrites⟩ := invariant_bind_ok.1 h
    obtain ⟨hcurrent, rfl⟩ := findFlow_ok hfind
    exact finalizeApprovalFlow_moves hcurrent ⟨rfl, rfl, rfl, rfl⟩ (of_decide_eq_true hactive)
      (hs.subjectType_eq hcurrent) hwrites

/-- What a step does: a move of the lifecycle, or a restore. -/
inductive StepOutcome (store : ProposalStore) (step : ProposalStep) : ProposalStore → Prop
  | moves {next : ProposalStore} (h : Moves store next)
      (hrestore : ∀ workspaceId proposalId isAdmin expectedVersion proposal, step.transaction =
        .restoreWorkspaceArtifact workspaceId proposalId isAdmin expectedVersion →
        restorable store workspaceId proposalId isAdmin expectedVersion ≠ .ok proposal) :
    StepOutcome store step next
  | restores {next : ProposalStore} (workspaceId proposalId : JsString) (isAdmin : Bool)
      (expectedVersion : Option ℚ) (proposal : Proposal) (htransaction : step.transaction =
        .restoreWorkspaceArtifact workspaceId proposalId isAdmin expectedVersion)
      (h : restorable store workspaceId proposalId isAdmin expectedVersion = .ok proposal)
      (hrestored : RestoredAt proposal store next) : StepOutcome store step next

theorem ProposalStep.outcome (hs : store.Sound) (step : ProposalStep) :
    StepOutcome store step (step.apply store) := by
  by_cases hrestore : ∃ workspaceId proposalId isAdmin expectedVersion, step.transaction =
      .restoreWorkspaceArtifact workspaceId proposalId isAdmin expectedVersion
  · obtain ⟨workspaceId, proposalId, isAdmin, expectedVersion, htransaction⟩ := hrestore
    cases hcheck : restorable store workspaceId proposalId isAdmin expectedVersion with
    | ok proposal =>
      obtain ⟨store', hperform, hrestored⟩ :=
        restoreWorkspaceArtifact_of_restorable step.context hs hcheck
      have happly : step.apply store = store' := by
        rw [ProposalStep.apply, htransaction]
        simp only [ProposalTransaction.perform, hperform]
      exact happly ▸ .restores _ _ _ _ proposal htransaction hcheck hrestored
    | error e =>
      have happly : step.apply store = store := by
        rw [ProposalStep.apply, htransaction]
        simp only [ProposalTransaction.perform, restoreWorkspaceArtifact, hcheck, bind, Except.bind]
      rw [happly]
      refine .moves (.refl store) fun _ _ _ _ proposal heq hok => ?_
      cases htransaction.symm.trans heq
      cases hcheck.symm.trans hok
  · refine .moves ?_ fun _ _ _ _ _ heq => absurd ⟨_, _, _, _, heq⟩ hrestore
    rw [ProposalStep.apply]
    split
    · next store' hperform =>
      exact perform_moves hs hperform fun _ _ _ _ heq => hrestore ⟨_, _, _, _, heq⟩
    · exact .refl store

theorem ProposalStore.Sound.apply (hs : store.Sound) (step : ProposalStep) :
    (step.apply store).Sound := by
  cases ProposalStep.outcome hs step with
  | moves h => exact h.sound hs
  | restores workspaceId proposalId isAdmin expectedVersion proposal _ h hrestored =>
    obtain ⟨hfound, -, harchived⟩ := restorable_ok h
    exact hs.restored hfound harchived hrestored

theorem sound_runProposalSteps (steps : List ProposalStep) : (runProposalSteps steps).Sound := by
  induction steps using reverseRecOn with
  | nil => exact fun _ => ⟨rfl, rfl, rfl⟩
  | append_singleton steps step ih =>
    rw [runProposalSteps, foldl_append]
    exact ProposalStore.Sound.apply ih step

end

/-- The fields of every proposal and its policy stand for one state. -/
def ProposalStore.ResolutionsSound (store : ProposalStore) : Prop :=
  ∀ proposal ∈ store.proposals.rows, ResolutionSound proposal (store.policies.find? proposal.id)

/-- **The resolution state of every proposal is sound** after every run. -/
theorem proposal_resolution_sound (steps : List ProposalStep) :
    (runProposalSteps steps).ResolutionsSound :=
  fun _ hproposal => ((sound_runProposalSteps steps).of_find? (KeyedTable.find?_key hproposal)).1

/-! ## Proposals and their flows -/

structure ProposalStore.FlowsInStep (store : ProposalStore) : Prop where
  active_of_open : ∀ proposal ∈ store.proposals.rows, proposal.archivedAt = none →
    proposal.status = .OPEN → ∃ flow ∈ store.flows.rows, flow.subjectId = proposal.id ∧
      flow.status = .ACTIVE
  open_of_active : ∀ flow ∈ store.flows.rows, flow.status = .ACTIVE →
    ∃ proposal ∈ store.proposals.rows, proposal.id = flow.subjectId ∧
      proposal.archivedAt = none ∧ proposal.status = .OPEN

/-- The step restores an open proposal from the archive: its request passes its checks. -/
def ProposalStep.RestoresOpen (store : ProposalStore) (step : ProposalStep) : Prop :=
  ∃ workspaceId proposalId isAdmin expectedVersion proposal, step.transaction =
      .restoreWorkspaceArtifact workspaceId proposalId isAdmin expectedVersion ∧
    restorable store workspaceId proposalId isAdmin expectedVersion = .ok proposal ∧
    proposal.status = .OPEN

section
variable {store : ProposalStore}

/-- An active flow always belongs to an open proposal, so what may fail is the other direction. -/
theorem ProposalStore.Sound.flowsInStep_iff (hs : store.Sound) :
    store.FlowsInStep ↔ ∀ id, (store.view id).InStep := by
  constructor
  · intro h id proposal hproposal harchived hopen
    obtain ⟨hrow, hid⟩ := KeyedTable.find?_eq_some.1 hproposal
    obtain ⟨flow, hflow, hsubject, hactive⟩ := h.active_of_open proposal hrow harchived hopen
    exact ⟨flow, KeyedTable.find?_eq_some.2 ⟨hflow, hsubject.trans hid⟩, hactive⟩
  · intro h
    constructor
    · intro proposal hproposal harchived hopen
      obtain ⟨flow, hflow, hactive⟩ := h proposal.id proposal (KeyedTable.find?_key hproposal)
        harchived hopen
      obtain ⟨hrow, hsubject⟩ := KeyedTable.find?_eq_some.1 hflow
      exact ⟨flow, hrow, hsubject, hactive⟩
    · intro flow hflow hactive
      have hview := hs flow.subjectId
      have hfound : store.flows.find? flow.subjectId = some flow := KeyedTable.find?_key hflow
      rw [ProposalStore.view, hfound] at hview
      cases hproposal : store.proposals.find? flow.subjectId with
      | none =>
        rw [hproposal] at hview
        cases hview.2.1
      | some proposal =>
        rw [hproposal] at hview
        obtain ⟨hrow, hid⟩ := KeyedTable.find?_eq_some.1 hproposal
        exact ⟨proposal, hrow, hid, (hview.2.1 flow rfl).active hactive⟩

/-- **A step keeps proposals and flows in step exactly if it restores no open proposal.** -/
theorem ProposalStep.apply_inStep_iff (hs : store.Sound) (h : store.FlowsInStep)
    (step : ProposalStep) : (step.apply store).FlowsInStep ↔ ¬ step.RestoresOpen store := by
  rw [(hs.apply step).flowsInStep_iff]
  have hviews := hs.flowsInStep_iff.1 h
  have houtcome := ProposalStep.outcome hs step
  generalize step.apply store = next at houtcome ⊢
  cases houtcome with
  | moves hmoves hrestore =>
    refine iff_of_true (fun id => (hmoves id).inStep (hviews id)) ?_
    rintro ⟨_, _, _, _, proposal, htransaction, hok, -⟩
    exact hrestore _ _ _ _ proposal htransaction hok
  | restores workspaceId proposalId isAdmin expectedVersion proposal htransaction hok hrestored =>
    obtain ⟨hfound, -, harchived⟩ := restorable_ok hok
    obtain ⟨-, hflow, -⟩ := hs.of_find? hfound
    constructor
    · rintro hinStep ⟨_, _, _, _, other, htransaction', hok', hopen⟩
      cases htransaction.symm.trans htransaction'
      cases hok.symm.trans hok'
      -- the archive has withdrawn the flow, and the restore leaves it so
      have hview := hinStep proposal.id
      rw [hrestored.view_eq] at hview
      obtain ⟨flow, hfind, hactive⟩ := hview _ rfl rfl hopen
      simp [((hflow flow hfind).active hactive).1] at harchived
    · intro hnot id
      by_cases hid : id = proposal.id
      · rw [hid, hrestored.view_eq]
        rintro row ⟨⟩ - hopen
        exact absurd ⟨_, _, _, _, proposal, htransaction, hok, hopen⟩ hnot
      · rw [hrestored.view_of_ne id hid]
        exact hviews id

end

/-- **Proposals and their flows are in step** all along a run exactly if the run restores no open
proposal from the archive. -/
theorem flows_in_step_iff (steps : List ProposalStep) :
    (∀ done, done <+: steps → (runProposalSteps done).FlowsInStep) ↔
      ∀ done step, done ++ [step] <+: steps → ¬ step.RestoresOpen (runProposalSteps done) := by
  have hempty : ProposalStore.empty.Sound := fun _ => ⟨rfl, rfl, rfl⟩
  have hstep (s : ProposalStore) (step : ProposalStep) (hgood : s.Sound ∧ s.FlowsInStep) :
      ((step.apply s).Sound ∧ (step.apply s).FlowsInStep) ↔ ¬ step.RestoresOpen s := by
    rw [← ProposalStep.apply_inStep_iff hgood.1 hgood.2 step]
    exact and_iff_right (hgood.1.apply step)
  have hinit : ProposalStore.empty.Sound ∧ ProposalStore.empty.FlowsInStep :=
    ⟨hempty, by constructor <;> rintro _ ⟨⟩⟩
  have hrun : (∀ done, done <+: steps → (runProposalSteps done).Sound ∧
      (runProposalSteps done).FlowsInStep) ↔
      ∀ done step, done ++ [step] <+: steps → ¬ step.RestoresOpen (runProposalSteps done) :=
    @List.forall_prefix_foldl_iff _ _ ProposalStep.apply ProposalStore.empty
      (fun s => s.Sound ∧ s.FlowsInStep) _ hinit hstep steps
  refine Iff.trans ⟨fun h done hdone => ⟨sound_runProposalSteps done, h done hdone⟩,
    fun h done hdone => (h done hdone).2⟩ hrun

/-! ## A run -/

/-- An administrator, and a workspace in which proposals are decided by consent. -/
def adminContext (now : Nat) : ProposalContext where
  actor := .user (lit "u") (lit "u@example.com") none
  membership := some ⟨lit "m", lit "w", lit "u", .admin, true⟩
  now
  readable _ := true
  lineage := .ok ()
  approvalPolicy _ := some ⟨.CONSENT, 0, 1, 72⟩
  approverIds _ := []
  activeHuman _ := true
  activeCircle _ := true
  generateProposalSummary _ _ := .ok none
  approvalDecisionMd _ := []
  authorUserId := lit "u"
  defaultOwner _ := none
  uuid := lit "p"
  flowUuid := lit "f"
  recordUuid := lit "r"
  importInactive := false
  normalizeDuplicateGuardText := id

def publicProposal : CreateProposalParams where
  workspaceId := lit "w"
  title := lit "t"
  bodyMd := lit "b"
  isPrivate := some false

def archivedAndRestored : List ProposalStep :=
  [⟨adminContext 0, .createProposal publicProposal none⟩,
    ⟨adminContext 1, .archiveProposal (lit "w") (lit "p") (lit "Archived.")⟩,
    ⟨adminContext 2, .restoreWorkspaceArtifact (lit "w") (lit "p") true none⟩]

/-- **An open proposal that was restored has no active flow.** -/
theorem not_flows_in_step : ¬ (runProposalSteps archivedAndRestored).FlowsInStep := by
  intro h
  have hopen : (runProposalSteps archivedAndRestored).proposals.rows.any (fun proposal =>
      proposal.archivedAt.isNone && proposal.status = .OPEN) = true := by decide +kernel
  have hwithdrawn : (runProposalSteps archivedAndRestored).flows.rows.all (fun flow =>
      flow.status = .WITHDRAWN) = true := by decide +kernel
  obtain ⟨proposal, hproposal, htest⟩ := any_eq_true.1 hopen
  simp only [Bool.and_eq_true, Option.isNone_iff_eq_none, decide_eq_true_eq] at htest
  obtain ⟨flow, hflow, -, hactive⟩ := h.active_of_open proposal hproposal htest.1 htest.2
  have hstatus := of_decide_eq_true (all_eq_true.1 hwithdrawn flow hflow)
  cases hstatus.symm.trans hactive

end Corgtex.Domain.Proposals
