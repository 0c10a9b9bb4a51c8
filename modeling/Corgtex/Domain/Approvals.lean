import Corgtex.Domain.Members
import Corgtex.Library.Double

/-!
# Approval flows

`approvals.ts`: the members of a workspace decide on a subject by a flow, whose
outcome is calculated from the decisions and objections recorded on it. This module has the rows of
a flow, the outcome, and the checks that the requests on a flow share.
-/

namespace Corgtex.Domain.Approvals

open JsString (lit)

/-! ## Rows -/

/-- `ApprovalMode` (`schema.prisma`). -/
inductive ApprovalMode
  | SINGLE | MAJORITY | CONSENSUS | CONSENT
deriving DecidableEq, Repr

/-- `ApprovalFlowStatus` (`schema.prisma`). -/
inductive ApprovalFlowStatus
  | DRAFT | ACTIVE | APPROVED | REJECTED | WITHDRAWN | EXPIRED
deriving DecidableEq, Repr

/-- A flow that is decided, or that nobody decides any more. -/
def ApprovalFlowStatus.isTerminal : ApprovalFlowStatus → Bool
  | .DRAFT | .ACTIVE => false
  | .APPROVED | .REJECTED | .WITHDRAWN | .EXPIRED => true

/-- `ApprovalDecisionChoice` (`schema.prisma`). -/
inductive ApprovalDecisionChoice
  | APPROVE | REJECT | ABSTAIN | AGREE | BLOCK
deriving DecidableEq, Repr

/-- `ProposalStatus` (`schema.prisma`). -/
inductive ProposalStatus
  | DRAFT | OPEN | RESOLVED
deriving DecidableEq, Repr

/-- `ProposalResolutionOutcome` (`schema.prisma`). -/
inductive ProposalResolutionOutcome
  | ADOPTED | NOT_ADOPTED | WITHDRAWN
deriving DecidableEq, Repr

structure ApprovalDecision where
  memberId : JsString
  choice : ApprovalDecisionChoice
  rationale : Option JsString
deriving DecidableEq

structure Objection where
  id : JsString
  userId : JsString
  bodyMd : JsString
  resolvedAt : Option Nat
deriving DecidableEq

/-- `DecisionSummary` (line 22). -/
structure DecisionSummary where
  approve : Nat
  reject : Nat
  abstain : Nat
  agree : Nat
  block : Nat
deriving DecidableEq, Repr

/-- `ApprovalOutcome` (line 30). -/
structure ApprovalOutcome where
  approved : Bool
  quorumMet : Bool
  minApproverCountMet : Bool
  participationPercent : ℚ
  summary : DecisionSummary
deriving DecidableEq

/-- What `resultJson` holds. -/
inductive FlowResult
  | outcome (outcome : ApprovalOutcome)
  | manuallyResolved (outcome : ProposalResolutionOutcome) (decisionMd : JsString)
  | withdrawn (cleanupReason subjectType subjectId : JsString) (withdrawnAt : Nat)
deriving DecidableEq

structure ApprovalFlow where
  id : JsString
  subjectType : JsString
  subjectId : JsString
  mode : ApprovalMode
  status : ApprovalFlowStatus
  quorumPercent : Int
  minApproverCount : Int
  openedAt : Option Nat
  closesAt : Option Nat
  closedAt : Option Nat
  resultJson : Option FlowResult
deriving DecidableEq

/-- `LoadedFlow` (line 38): a flow with its decisions and its open objections. -/
structure LoadedFlow extends ApprovalFlow where
  decisions : List ApprovalDecision
  objections : List Objection
deriving DecidableEq

/-! ## The outcome -/

/-- `buildDecisionSummary` (line 87). -/
def buildDecisionSummary (decisions : List ApprovalDecision) : DecisionSummary :=
  decisions.foldl (fun summary decision =>
    match decision.choice with
    | .APPROVE => { summary with approve := summary.approve + 1 }
    | .REJECT => { summary with reject := summary.reject + 1 }
    | .ABSTAIN => { summary with abstain := summary.abstain + 1 }
    | .AGREE => { summary with agree := summary.agree + 1 }
    | .BLOCK => { summary with block := summary.block + 1 }) ⟨0, 0, 0, 0, 0⟩

/-- The share of the approvers who have decided, in doubles. -/
def participationPercent (decisions eligibleApprovers : Nat) : ℚ :=
  if 0 < eligibleApprovers then
    Double.round (Double.round (decisions / eligibleApprovers) * 100)
  else 0

/-- `calculateApprovalOutcome` (line 119). -/
def calculateApprovalOutcome (mode : ApprovalMode) (quorumPercent minApproverCount : Int)
    (decisions : List ApprovalDecision) (eligibleApprovers openObjections : Nat) :
    ApprovalOutcome :=
  let summary := buildDecisionSummary decisions
  let participation := participationPercent decisions.length eligibleApprovers
  let quorumMet : Bool := participation ≥ quorumPercent
  let minApproverCountMet : Bool := decisions.length ≥ minApproverCount
  let approved := match mode with
    | .SINGLE => minApproverCountMet && (0 < summary.approve || 0 < summary.agree)
    | .MAJORITY => minApproverCountMet && quorumMet && summary.approve > summary.reject
    | .CONSENSUS => minApproverCountMet && quorumMet && summary.block = 0 &&
        (0 < decisions.length && decisions.all (·.choice = .AGREE))
    | .CONSENT => openObjections = 0
  { approved
    quorumMet
    minApproverCountMet
    participationPercent := participation
    summary }

/-- **Participation is at most 100%** where no more have decided than may, rounding included. -/
theorem participationPercent_le {decisions eligibleApprovers : Nat}
    (h : decisions ≤ eligibleApprovers) :
    participationPercent decisions eligibleApprovers ≤ 100 := by
  rw [participationPercent]
  split
  · next hsome =>
    rcases Nat.eq_zero_or_pos decisions with rfl | hpos
    · simp
    · have hshare : Double.round (decisions / eligibleApprovers) ≤ ((1 : ℕ) : ℚ) := by
        refine Double.round_le_natCast (by positivity) (by simp) ?_
        rw [div_le_iff₀ (by exact_mod_cast hsome)]
        simpa using h
      have hnonneg : 0 ≤ Double.round ((decisions : ℚ) / eligibleApprovers) :=
        Double.round_nonneg (by positivity)
      have hhundred : Nat.log 2 100 ≤ 52 := by decide +kernel
      rcases hnonneg.eq_or_lt with hzero | hshare_pos
      · rw [← hzero]
        simp
      · refine (Double.round_le_natCast (by positivity) hhundred ?_).trans (by norm_num)
        push_cast at hshare ⊢
        linarith
  · norm_num

/-! ## Approvers -/

/-- The columns of `Member` and of its user that its fingerprint covers
(`CONTENT_FIELDS`, `source-lineage.ts:162`). -/
structure MemberContent where
  user : User
  role : MemberRole
  kind : MemberKind
  isActive : Bool
  joinedAt : Int
deriving DecidableEq

/-- `Member`, with its user. -/
structure ApprovalMember where
  id : JsString
  content : MemberContent
deriving DecidableEq

abbrev ApprovalMember.userId (member : ApprovalMember) : JsString := member.content.user.id

section
/- `humanMemberIdentityWhere` (`member-identity.ts:77`), on the kind, the address and the name of a
member. -/
variable (human : MemberContent → Bool)

/-- The members of the query of `eligibleApproverIds`. -/
def isApprover (content : MemberContent) : Bool := content.isActive && human content

/-- `eligibleApproverIds` (line 185). -/
def eligibleApproverIds (members : List ApprovalMember) (excludedUserId : Option JsString) :
    List JsString :=
  ((members.filter fun member => isApprover human member.content).filter fun member =>
    excludedUserId.all fun userId => userId = [] || member.userId ≠ userId).map ApprovalMember.id

end

section
variable (flow : LoadedFlow) (approverIds : List JsString)

/-- `eligibleFlowDecisions` (line 250). -/
def eligibleFlowDecisions : List ApprovalDecision :=
  if flow.subjectType = lit "PROPOSAL" then
    flow.decisions.filter fun decision => decision.memberId ∈ approverIds
  else flow.decisions

/-- The outcome of a flow as the requests calculate it. -/
def LoadedFlow.outcome : ApprovalOutcome :=
  calculateApprovalOutcome flow.mode flow.quorumPercent flow.minApproverCount
    (eligibleFlowDecisions flow approverIds) approverIds.length flow.objections.length

end

/-! ## Checks -/

/-- `assertConsentWindowOpen` (line 155). -/
def assertConsentWindowOpen (flow : ApprovalFlow) (now : Nat) : Except AppError Unit :=
  checkIf (flow.mode = .CONSENT && flow.subjectType ≠ lit "PROPOSAL") <|
    invariant (flow.closesAt.all (now < ·)) 400 "INVALID_STATE"
      "The approval window has already closed."

/-- `validateDecisionChoice` (line 172). -/
def validateDecisionChoice (mode : ApprovalMode) (choice : ApprovalDecisionChoice) :
    Except AppError Unit :=
  checkIf (mode = .CONSENT) <|
    invariant (choice = .AGREE || choice = .ABSTAIN) 400 "INVALID_INPUT"
      "Consent flows accept AGREE or ABSTAIN decisions. Use objections for blocks."

/-- `assertProposalAuthorCanReview` (line 271), with the author that `proposalAuthorUserIdForFlow`
finds. -/
def assertProposalAuthorCanReview (authorUserId : Option JsString) (actorUserId : JsString) :
    Except AppError Unit :=
  invariant (authorUserId.all fun author => author = [] || author ≠ actorUserId) 403 "FORBIDDEN"
    "Proposal authors cannot review their own proposal."

/-- The condition of the query of `finalizeExpiredApprovalFlows` (line 1247); `importInactive` is
the feature flag of the workspace. -/
def isExpired (now : Nat) (importInactive : Bool) (flow : ApprovalFlow) : Bool :=
  flow.status = .ACTIVE && flow.mode = .CONSENT && flow.subjectType ≠ lit "PROPOSAL" &&
    flow.closesAt.any (· ≤ now) && !importInactive

/-! ## Outcomes on a flow -/

section
variable (flow : LoadedFlow) (approverIds : List JsString)

/-- The status with which a decision finalizes a flow, if it does (`recordApprovalDecision`,
line 976). -/
def finalStatus : Option ApprovalFlowStatus :=
  if flow.subjectType = lit "PROPOSAL" || flow.mode = .CONSENT then none
  else if (flow.outcome approverIds).approved then some .APPROVED
  else if (flow.mode = .SINGLE && flow.decisions.any fun decision =>
        decision.choice = .REJECT || decision.choice = .BLOCK) ||
      (flow.mode ≠ .SINGLE &&
        flow.decisions.length ≥ max flow.minApproverCount approverIds.length) then some .REJECTED
  else none

/-- The outcome that an expiry calculates (line 1277). -/
def LoadedFlow.expiryOutcome : ApprovalOutcome :=
  calculateApprovalOutcome flow.mode flow.quorumPercent flow.minApproverCount flow.decisions
    approverIds.length flow.objections.length

end

/-- Of another subject than a proposal every decision counts. -/
theorem LoadedFlow.outcome_eq {flow : LoadedFlow} (h : flow.subjectType ≠ lit "PROPOSAL")
    (approverIds : List JsString) : flow.outcome approverIds = flow.expiryOutcome approverIds := by
  rw [LoadedFlow.outcome, eligibleFlowDecisions, if_neg h]
  rfl

/-- The row that `writeFlowOutcome` (line 235) writes: the outcome, and where `finalizeApprovalFlow`
(line 398) calls it the final status. -/
def ApprovalFlow.writeOutcome (flow : ApprovalFlow) (now : Nat) (outcome : ApprovalOutcome) :
    Option ApprovalFlowStatus → ApprovalFlow
  | none => { flow with resultJson := some (.outcome outcome) }
  | some status =>
    { flow with
      status
      closedAt := some now
      resultJson := some (.outcome outcome) }

section
variable {flow : ApprovalFlow} {now : Nat} {outcome : ApprovalOutcome}
  {final : Option ApprovalFlowStatus}

@[simp] theorem ApprovalFlow.id_writeOutcome :
    (flow.writeOutcome now outcome final).id = flow.id := by
  cases final <;> rfl

@[simp] theorem ApprovalFlow.status_writeOutcome :
    (flow.writeOutcome now outcome final).status = final.getD flow.status := by
  cases final <;> rfl

@[simp] theorem ApprovalFlow.subjectType_writeOutcome :
    (flow.writeOutcome now outcome final).subjectType = flow.subjectType := by
  cases final <;> rfl

@[simp] theorem ApprovalFlow.resultJson_writeOutcome :
    (flow.writeOutcome now outcome final).resultJson = some (.outcome outcome) := by
  cases final <;> rfl

@[simp] theorem ApprovalFlow.mode_writeOutcome :
    (flow.writeOutcome now outcome final).mode = flow.mode := by
  cases final <;> rfl

@[simp] theorem ApprovalFlow.quorumPercent_writeOutcome :
    (flow.writeOutcome now outcome final).quorumPercent = flow.quorumPercent := by
  cases final <;> rfl

@[simp] theorem ApprovalFlow.minApproverCount_writeOutcome :
    (flow.writeOutcome now outcome final).minApproverCount = flow.minApproverCount := by
  cases final <;> rfl

end

end Corgtex.Domain.Approvals
