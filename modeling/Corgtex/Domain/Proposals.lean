import Corgtex.Domain.Approvals
import Corgtex.Domain.Tensions
import Corgtex.Library.JsArray

/-!
# Proposals

The requests of `proposals.ts` that write proposals, the reviews on their
approval flows (`approvals.ts`), the policies of the adopted ones, and their part of `archive.ts`.
Each is a transaction past the membership check, and they run one at a time. Summaries by a model
and the texts of system decisions are read from the context, and so is what the lineage of the rows
says.
-/

namespace Corgtex.Domain.Proposals

open Approvals
open JsString (lit)

/-! ## The rows -/

/-- The content of a proposal, which its version history follows. -/
structure ProposalContent where
  title : JsString
  summary : Option JsString
  bodyMd : JsString
  priority : Int
  circleId : Option JsString
  ownerMemberId : Option JsString
deriving DecidableEq, Repr

/-- A row of `Proposal`, without `autoApproveAt`, which is always null, and when it was written. -/
structure Proposal extends ProposalContent where
  id : JsString
  workspaceId : JsString
  authorUserId : JsString
  meetingId : Option JsString
  status : ProposalStatus
  version : Nat
  resolutionOutcome : Option ProposalResolutionOutcome
  decisionMd : Option JsString
  isPrivate : Bool
  publishedAt : Option Nat
  decidedAt : Option Nat
  archivedAt : Option Nat
  archivedByUserId : Option JsString
  archiveReason : Option JsString
deriving DecidableEq, Repr

/-- What `pickJsonSnapshot` keeps of a proposal in its version history. -/
structure ProposalSnapshot extends ProposalContent where
  id : JsString
  workspaceId : JsString
  status : ProposalStatus
  version : Nat
deriving DecidableEq, Repr

/-- `pickJsonSnapshot(proposal, […])` (line 1262). -/
def proposalSnapshot (proposal : Proposal) : ProposalSnapshot where
  toProposalContent := proposal.toProposalContent
  id := proposal.id
  workspaceId := proposal.workspaceId
  status := proposal.status
  version := proposal.version

/-- A row of `PolicyCorpus`. -/
structure PolicyCorpus where
  workspaceId : JsString
  proposalId : JsString
  title : JsString
  bodyMd : JsString
  circleId : Option JsString
  acceptedAt : Nat
deriving DecidableEq, Repr

/-- A row of `ApprovalFlow` on a proposal, with its reviews. -/
structure ProposalFlow extends ApprovalFlow where
  workspaceId : JsString
  decisions : KeyedTable Approvals.ApprovalDecision Approvals.ApprovalDecision.memberId
  objections : KeyedTable Approvals.Objection Approvals.Objection.id

/-- The proposal of a flow; the key is unique with the subject type. -/
def ProposalFlow.proposalId (flow : ProposalFlow) : JsString := flow.subjectId

/-- `loadFlow` (`approvals.ts:201`). -/
def ProposalFlow.load (flow : ProposalFlow) : LoadedFlow where
  toApprovalFlow := flow.toApprovalFlow
  decisions := flow.decisions.rows
  objections := flow.objections.rows.filter (·.resolvedAt.isNone)

/-- A row of `WorkspaceArchiveRecord` of a proposal; of `previousState` it has the status. -/
structure ArchiveRecord where
  id : JsString
  workspaceId : JsString
  entityId : JsString
  previousStatus : Option JsString
  archiveReason : Option JsString
  archivedAt : Nat
  restoredAt : Option Nat
deriving DecidableEq, Repr

/-- `ApprovalPolicy`, of the subject type `PROPOSAL`. -/
structure ApprovalPolicy where
  mode : ApprovalMode
  quorumPercent : Int
  minApproverCount : Int
  decisionWindowHours : Nat

/-- The proposals of all workspaces, and what goes with them. -/
structure ProposalStore where
  proposals : KeyedTable Proposal Proposal.id
  versions : WorkItemVersionTable ProposalSnapshot
  policies : KeyedTable PolicyCorpus PolicyCorpus.proposalId
  flows : KeyedTable ProposalFlow ProposalFlow.proposalId
  archiveRecords : KeyedTable ArchiveRecord ArchiveRecord.id

def ProposalStore.empty : ProposalStore := ⟨.empty, .empty, .empty, .empty, .empty⟩

/-- What a request brings along or reads of other tables. -/
structure ProposalContext where
  actor : AppActor
  membership : Option MembershipSummary
  now : Nat
  /-- The proposals that `readableArtifactIds` admits, if they are not archived. -/
  readable : JsString → Bool
  /-- Whether the inputs of the request can be proven and recorded. -/
  lineage : Except AppError Unit
  /-- `approvalPolicy.findUnique`, of a workspace. -/
  approvalPolicy : JsString → Option ApprovalPolicy
  /-- `eligibleApproverIds`, less an author. -/
  approverIds : Option JsString → List JsString
  /-- The active human members of the workspace. -/
  activeHuman : JsString → Bool
  activeCircle : JsString → Bool
  /-- `generateProposalSummary`. -/
  generateProposalSummary : JsString → JsString → Except AppError (Option JsString)
  /-- `approvalDecisionMd`. -/
  approvalDecisionMd : ApprovalOutcome → JsString
  /-- The user that an agent's proposal is attributed to. -/
  authorUserId : JsString
  /-- The member who owns an author's proposals. -/
  defaultOwner : JsString → Option JsString
  /-- The ids that new rows get. -/
  uuid : JsString
  flowUuid : JsString
  recordUuid : JsString
  importInactive : Bool
  normalizeDuplicateGuardText : JsString → JsString

/-! ## What the requests share -/

section
variable (store : ProposalStore) (context : ProposalContext) (workspaceId proposalId : JsString)

def findProposal : Except AppError Proposal :=
  match (store.proposals.find? proposalId).filter (·.workspaceId = workspaceId) with
  | none => throw ⟨404, "NOT_FOUND", "Proposal not found."⟩
  | some proposal => return proposal

/-- The proposal, if `readableArtifactIds` has it: nothing that is archived. -/
def loadProposal : Except AppError Proposal := do
  let proposal ← findProposal store workspaceId proposalId
  invariant (proposal.archivedAt.isNone && context.readable proposal.id) 404 "NOT_FOUND"
    "Proposal not found."
  return proposal

/-- `requireDraftManager` on a proposal. -/
def requireProposalDraftManager (proposal : Proposal) : Except AppError Unit :=
  requireDraftManager context.actor context.membership workspaceId {
    workspaceId := proposal.workspaceId
    authorUserId := some proposal.authorUserId
    ownerMemberId := proposal.ownerMemberId
    archivedAt := proposal.archivedAt.map Int.ofNat }

/-- `getApprovalPolicy` (`approvals.ts:471`). -/
def getApprovalPolicy : Except AppError ApprovalPolicy :=
  match context.approvalPolicy workspaceId with
  | none => throw ⟨404, "NOT_FOUND", "Missing approval policy for PROPOSAL."⟩
  | some policy => return policy

/-- `ensureApprovalFlow` (`approvals.ts:485`): the flow of the proposal, or a new one. -/
def ensureApprovalFlow (policy : ApprovalPolicy) : ProposalFlow :=
  (store.flows.find? proposalId).getD {
    id := context.flowUuid
    workspaceId
    subjectType := lit "PROPOSAL"
    subjectId := proposalId
    mode := policy.mode
    status := .DRAFT
    quorumPercent := policy.quorumPercent
    minApproverCount := policy.minApproverCount
    openedAt := none
    closesAt := none
    closedAt := none
    resultJson := none
    decisions := .empty
    objections := .empty }

/-- `activateProposalApprovalFlow` (line 140). -/
def activateProposalApprovalFlow (policy : ApprovalPolicy) : ProposalStore :=
  { store with
    flows := store.flows.set { ensureApprovalFlow store context workspaceId proposalId policy with
      status := .ACTIVE
      openedAt := some context.now
      closesAt := if policy.mode = .CONSENT then
          some (context.now + policy.decisionWindowHours * 60 * 60 * 1000)
        else none } }

/-- `resolveProposalOwnerMemberId` (line 354): `none` is `undefined`. -/
def resolveProposalOwnerMemberId (authorUserId : Option JsString) :
    Option (Option JsString) → Except AppError (Option JsString)
  | none => return (authorUserId.bind JsString.orNull).bind context.defaultOwner
  | some ownerMemberId =>
    match JsString.trimOrNull ownerMemberId with
    | none => return none
    | some ownerMemberId => do
      invariant (context.activeHuman ownerMemberId) 400 "INVALID_INPUT"
        "Proposal owner must be an active human member in the same workspace."
      return some ownerMemberId

end

/-! ## Updates -/

/-- The fields of an `updateProposal` request: `none` is `undefined`, an inner `none` is `null`. -/
structure UpdateProposalParams where
  workspaceId : JsString
  proposalId : JsString
  title : Option JsString := none
  summary : Option (Option JsString) := none
  includeAiSummary : Option Bool := none
  bodyMd : Option JsString := none
  priority : Option Int := none
  circleId : Option (Option JsString) := none
  ownerMemberId : Option (Option JsString) := none
  expectedVersion : Option ℚ := none

/-- The `data` of an `updateProposal`: a field without value is not assigned. -/
structure ProposalData where
  title : Option JsString
  summary : Option (Option JsString)
  bodyMd : Option JsString
  priority : Option Int
  circleId : Option (Option JsString)
  ownerMemberId : Option (Option JsString)

namespace ProposalData

section
variable (data : ProposalData) (content : ProposalContent)

/-- The content after the update. -/
def applyContent : ProposalContent where
  title := data.title.getD content.title
  summary := data.summary.getD content.summary
  bodyMd := data.bodyMd.getD content.bodyMd
  priority := data.priority.getD content.priority
  circleId := data.circleId.getD content.circleId
  ownerMemberId := data.ownerMemberId.getD content.ownerMemberId

/-- `changedDataFields(proposal, data)`. -/
def changedContentFields : List String :=
  changedField "title" content.title data.title ++
  changedField "summary" content.summary data.summary ++
  changedField "bodyMd" content.bodyMd data.bodyMd ++
  changedField "priority" content.priority data.priority ++
  changedField "circleId" content.circleId data.circleId ++
  changedField "ownerMemberId" content.ownerMemberId data.ownerMemberId

end

end ProposalData

/-- `canEditProposalContent` (`collaborative-permissions.ts:59`). -/
def canEditProposalContent (actor : AppActor) (membership : Option MembershipSummary)
    (authorUserId : JsString) : Bool :=
  match actor with
  | .agent _ _ => true
  | .user userId _ _ => membership.any fun membership =>
    membership.isActive && (membership.role = .admin || authorUserId.orNull = some userId)

/-- `requireUpdateProposalEditable` (line 1143). -/
def requireUpdateProposalEditable (context : ProposalContext) (proposal : Proposal) :
    Except AppError Unit := do
  invariant proposal.archivedAt.isNone 400 "INVALID_STATE" "Archived proposals cannot be edited."
  invariant (proposal.status = .DRAFT || proposal.status = .OPEN) 400 "INVALID_STATE"
    "Only draft or open proposals can be edited."
  invariant (canEditProposalContent context.actor context.membership proposal.authorUserId) 403
    "FORBIDDEN" "Only the proposal author, workspace admins, or agents can edit proposals."

namespace UpdateProposalParams

/-- `proposalEditsContent` (line 1162). -/
def editsContent (params : UpdateProposalParams) : Bool :=
  params.title.isSome || params.summary.isSome || params.bodyMd.isSome || params.priority.isSome ||
    params.circleId.isSome || params.ownerMemberId.isSome || params.includeAiSummary.isSome

/-- The `data` that `updateProposal` builds (lines 1229, 1360). -/
def data (params : UpdateProposalParams) (context : ProposalContext) (proposal : Proposal) :
    Except AppError ProposalData := do
  invariant (params.title.all fun title => title.trim.length > 0) 400 "INVALID_INPUT"
    "Proposal title is required."
  invariant (params.bodyMd.all fun bodyMd => bodyMd.trim.length > 0) 400 "INVALID_INPUT"
    "Proposal body is required."
  let ownerMemberId ← params.ownerMemberId.mapM fun ownerMemberId =>
    resolveProposalOwnerMemberId context none (some ownerMemberId)
  let title := params.title.map JsString.trim
  let bodyMd := params.bodyMd.map JsString.trim
  let circleId := params.circleId.map fun id => id.bind JsString.orNull
  let summary ← match params.includeAiSummary with
    | some true => do
      invariant ((circleId.bind id).all context.activeCircle) 400 "INVALID_INPUT"
        "Proposal circle must be active and belong to this workspace."
      let summary ← context.generateProposalSummary (title.getD proposal.title)
        (bodyMd.getD proposal.bodyMd)
      pure (some summary)
    | some false => pure (some none)
    | none => pure (params.summary.map JsString.trimOrNull)
  return { title, summary, bodyMd, priority := params.priority, circleId, ownerMemberId }

end UpdateProposalParams

/-- `updateProposal` (line 1335). The update asks for the version, status and privacy that
have just been read, so it finds its row. -/
def updateProposal (store : ProposalStore) (context : ProposalContext)
    (params : UpdateProposalParams) : Except AppError ProposalStore := do
  let proposal ← loadProposal store context params.workspaceId params.proposalId
  requireUpdateProposalEditable context proposal
  invariant (!params.editsContent || params.expectedVersion.isSome) 400 "INVALID_INPUT"
    "expectedVersion must be a positive integer."
  checkExpectedVersion params.expectedVersion proposal.version recordChanged
  let data ← params.data context proposal
  let changedFields := data.changedContentFields proposal.toProposalContent
  let (versions, version) ← recordContentVersion store.versions context.actor {
    workspaceId := params.workspaceId
    entityId := proposal.id
    currentVersion := proposal.version
    changedFields
    previousState := proposalSnapshot proposal }
  if changedFields = [] then
    return store
  context.lineage
  return { store with
    versions
    proposals := store.proposals.set { proposal with
      toProposalContent := data.applyContent proposal.toProposalContent
      version := version.getD proposal.version } }

/-! ## Creating proposals -/

/-- The fields of a `createProposal` and of a `createProposalFromTension` request. -/
structure CreateProposalParams where
  workspaceId : JsString
  title : JsString
  summary : Option JsString := none
  includeAiSummary : Bool := false
  bodyMd : JsString
  priority : Option Int := none
  circleId : Option JsString := none
  ownerMemberId : Option (Option JsString) := none
  authorUserId : Option JsString := none
  meetingId : Option JsString := none
  isPrivate : Option Bool := none

/-- The approval policy that a proposal needs to be public (line 862). -/
def CreateProposalParams.policy (params : CreateProposalParams) (context : ProposalContext) :
    Except AppError (Option ApprovalPolicy) :=
  if params.isPrivate.getD true then .ok none
  else (getApprovalPolicy context params.workspaceId).map some

section
variable (store : ProposalStore) (context : ProposalContext) (params : CreateProposalParams)

/-- What the two requests have in common (lines 867, 1022): the row, and the flow of a
proposal that is public from the beginning. -/
def insertProposal (title : JsString) (summary : Option JsString)
    (bodyMd : JsString) (sourceTension : Option Tension) (defaultPriority : Int) :
    Except AppError ProposalStore := do
  let isPrivate := params.isPrivate.getD true
  let policy ← params.policy context
  let authorUserId := context.actor.userId?.getD (params.authorUserId.getD context.authorUserId)
  let ownerMemberId ← resolveProposalOwnerMemberId context (some authorUserId) params.ownerMemberId
  let proposals ← createRow store.proposals {
    id := context.uuid
    workspaceId := params.workspaceId
    authorUserId
    title
    summary
    bodyMd
    priority := params.priority.getD defaultPriority
    ownerMemberId
    circleId := (params.circleId.bind JsString.orNull).or (sourceTension.bind (·.circleId))
    meetingId := (params.meetingId.bind JsString.orNull).or (sourceTension.bind (·.meetingId))
    status := if isPrivate then .DRAFT else .OPEN
    version := 1
    resolutionOutcome := none
    decisionMd := none
    isPrivate
    publishedAt := if isPrivate then none else some context.now
    decidedAt := none
    archivedAt := none
    archivedByUserId := none
    archiveReason := none }
  context.lineage
  let created := { store with proposals }
  return match policy with
    | none => created
    | some policy => activateProposalApprovalFlow created context params.workspaceId context.uuid
        policy

/-- `createProposal` (line 808) where the duplicate guard has found nothing to use
instead. -/
def createProposal (sourceTension : Option Tension) : Except AppError ProposalStore := do
  requireCreationInputRoots context.actor (params.isPrivate.getD true)
  invariant (params.title.trim.length > 0) 400 "INVALID_INPUT" "Proposal title is required."
  invariant (params.bodyMd.trim.length > 0) 400 "INVALID_INPUT" "Proposal body is required."
  let summary ← (if params.includeAiSummary then
      context.generateProposalSummary params.title.trim params.bodyMd.trim
    else .ok (JsString.trimOrNull params.summary))
  insertProposal store context params params.title.trim summary params.bodyMd.trim sourceTension 0

end

/-- The body that `proposalDraftFromTension` (line 276) writes. -/
def draftBodyMd (sourceDescription : JsString) : JsString :=
  JsString.join (lit "\n") [lit "## Tension", [], sourceDescription, [], lit "## Proposal", [],
    lit "Describe the governance change that would reduce or resolve this tension.", [],
    lit "## Safe-to-try check", [], lit "- What risk does this introduce?",
    lit "- How will we know it helped?"]

/-- `createProposalFromTension` (line 978), likewise. -/
def createProposalFromTension (store : ProposalStore) (context : ProposalContext)
    (params : CreateProposalParams) (sourceTension : Tension) : Except AppError ProposalStore := do
  requireCreationInputRoots context.actor (params.isPrivate.getD true)
  let title := (JsString.trimOrNull (some params.title)).getD
    (lit "Resolve tension: " ++ sourceTension.title)
  let summary := (JsString.trimOrNull params.summary).getD
    (lit "Proposal drafted from tension: " ++ sourceTension.title)
  let bodyMd := (JsString.trimOrNull (some params.bodyMd)).getD
    (draftBodyMd ((JsString.trimOrNull sourceTension.bodyMd).getD
      (lit "_No description provided._")))
  insertProposal store context params title (some summary) bodyMd (some sourceTension)
    sourceTension.priority

/-- What a request updates of the duplicate that it found (line 735). -/
def CreateProposalParams.duplicateUpdate (params : CreateProposalParams)
    (context : ProposalContext) (existing : Proposal) : UpdateProposalParams :=
  let mergedBody := duplicateGuardMergeText context.normalizeDuplicateGuardText
    (some existing.bodyMd) (some params.bodyMd)
  { workspaceId := params.workspaceId
    proposalId := existing.id
    bodyMd := mergedBody.filter fun mergedBody => mergedBody ≠ existing.bodyMd
    summary := orElse existing.summary params.summary
    circleId := orElse existing.circleId params.circleId
    ownerMemberId := orElse existing.ownerMemberId params.ownerMemberId.join
    priority := params.priority.filter fun priority => existing.priority ≠ priority
    expectedVersion := some existing.version }
where
  /-- `if (!existing.f && params.f) updateParams.f = params.f`. -/
  orElse (existing requested : Option JsString) : Option (Option JsString) :=
    if (existing.bind JsString.orNull).isNone then
      (requested.bind JsString.orNull).map some
    else none

/-- `applyProposalDuplicateUpdate` (line 735). -/
def applyProposalDuplicateUpdate (store : ProposalStore) (context : ProposalContext)
    (params : CreateProposalParams) (proposalId : JsString) : Except AppError ProposalStore := do
  let existing ← findProposal store params.workspaceId proposalId
  invariant (privacyFilter context.actor context.membership existing.isPrivate
      (existing.status = .DRAFT) (some existing.authorUserId) && context.readable existing.id)
    404 "NOT_FOUND" "Proposal not found."
  let updateParams := params.duplicateUpdate context existing
  if updateParams.editsContent then
    updateProposal store context updateParams
  else
    return store

/-! ## Drafts and open proposals -/

section
variable (store : ProposalStore) (context : ProposalContext) (workspaceId proposalId : JsString)

/-- `submitProposal` (line 1504). -/
def submitProposal : Except AppError ProposalStore := do
  let policy ← getApprovalPolicy context workspaceId
  let proposal ← loadProposal store context workspaceId proposalId
  invariant (proposal.status = .DRAFT) 400 "INVALID_STATE" "Only draft proposals can be opened."
  requireProposalDraftManager context workspaceId proposal
  context.lineage
  let store := activateProposalApprovalFlow store context workspaceId proposal.id policy
  return { store with
    proposals := store.proposals.set { proposal with
      status := .OPEN
      isPrivate := false
      publishedAt := some (proposal.publishedAt.getD context.now) } }

/-- `publishProposal` (line 1930). -/
def publishProposal : Except AppError ProposalStore := do
  let proposal ← loadProposal store context workspaceId proposalId
  invariant proposal.isPrivate 400 "INVALID_STATE" "Proposal is already public."
  requireProposalDraftManager context workspaceId proposal
  context.lineage
  return { store with
    proposals := store.proposals.set { proposal with
      isPrivate := false
      publishedAt := some context.now } }

/-- The flow without its reviews and its result. -/
def ProposalFlow.cleared (flow : ProposalFlow) (status : ApprovalFlowStatus)
    (openedAt : Option Nat) : ProposalFlow :=
  { flow with
    status
    openedAt
    closesAt := none
    closedAt := none
    resultJson := none
    decisions := .empty
    objections := .empty }

/-- `policyCorpus.deleteMany({ where: { proposalId } })`. -/
def withoutPolicy : KeyedTable PolicyCorpus PolicyCorpus.proposalId :=
  store.policies.filter fun policy => policy.proposalId ≠ proposalId

/-- `returnProposalToDraft` (line 1562). -/
def returnProposalToDraft : Except AppError ProposalStore := do
  let proposal ← loadProposal store context workspaceId proposalId
  invariant (proposal.status = .OPEN || proposal.status = .RESOLVED) 400 "INVALID_STATE"
    "Only open or resolved proposals can be returned to draft."
  requireProposalDraftManager context workspaceId proposal
  context.lineage
  return { store with
    flows := store.flows.update proposal.id (·.cleared .DRAFT none) fun _ => rfl
    policies := withoutPolicy store proposal.id
    proposals := store.proposals.set { proposal with
      status := .DRAFT
      resolutionOutcome := none
      decisionMd := none
      decidedAt := none
      isPrivate := true
      publishedAt := none } }

/-- The writes of `reopenProposal` (line 1665) and, for each proposal, of
`supportReopenResolvedProposals` (line 1777), which has read all of them before. -/
def reopened (policy : ApprovalPolicy) (proposal : Proposal) : ProposalStore :=
  let flow := ensureApprovalFlow store context workspaceId proposal.id policy
  { store with
    flows := store.flows.set (flow.cleared .ACTIVE (some (flow.openedAt.getD context.now)))
    policies := withoutPolicy store proposal.id
    proposals := store.proposals.update proposal.id (fun row => { row with
      status := .OPEN
      resolutionOutcome := none
      decisionMd := none
      decidedAt := none
      isPrivate := false
      publishedAt := some (proposal.publishedAt.getD context.now) }) fun _ => rfl }

/-- `reopenProposal` (line 1665). -/
def reopenProposal : Except AppError ProposalStore := do
  let policy ← getApprovalPolicy context workspaceId
  let proposal ← loadProposal store context workspaceId proposalId
  invariant proposal.archivedAt.isNone 400 "INVALID_STATE" "Archived proposals cannot be reopened."
  invariant (proposal.status = .RESOLVED) 400 "INVALID_STATE"
    "Only resolved proposals can be reopened."
  context.lineage
  return reopened store context workspaceId policy proposal

/-- `SUPPORT_REOPEN_PROPOSALS_LIMIT` (line 58). -/
def SUPPORT_REOPEN_PROPOSALS_LIMIT : Nat := 25

/-- `normalizeIds` (line 87). -/
def normalizeIds (ids : List JsString) : List JsString :=
  JsArray.distinct ((ids.map JsString.trim).filter (· ≠ []))

/-- One proposal of `supportReopenResolvedProposals`, which was read from `start`; the messages are
without the id. -/
def supportReopen (start : ProposalStore) (policy : ApprovalPolicy) (store : ProposalStore)
    (proposalId : JsString) : Except AppError ProposalStore := do
  let proposal ← loadProposal start context workspaceId proposalId
  invariant proposal.archivedAt.isNone 400 "INVALID_STATE" "Archived proposal cannot be reopened."
  invariant (proposal.status = .RESOLVED) 400 "INVALID_STATE"
    "Only resolved proposals can be reopened."
  context.lineage
  return reopened store context workspaceId policy proposal

/-- `supportReopenResolvedProposals` (line 1777); `isSupport` is what
`requireSupportRepairActor` asks. -/
def supportReopenResolvedProposals (isSupport : Bool) (proposalIds : List JsString)
    (reason : JsString) : Except AppError ProposalStore := do
  invariant isSupport 403 "FORBIDDEN" "Support repair requires a support-scoped actor."
  let proposalIds := normalizeIds proposalIds
  invariant (proposalIds.length > 0) 400 "INVALID_INPUT" "At least one proposal ID is required."
  invariant (proposalIds.length ≤ SUPPORT_REOPEN_PROPOSALS_LIMIT) 400 "INVALID_INPUT"
    "Cannot repair more than 25 proposals at once."
  invariant (reason.trim.length > 0) 400 "INVALID_INPUT" "Support repair reason is required."
  let policy ← getApprovalPolicy context workspaceId
  invariant (proposalIds.all fun id => (findProposal store workspaceId id).isOk) 404 "NOT_FOUND"
    "Proposal not found."
  proposalIds.foldlM (supportReopen context workspaceId store policy) store

/-! ## Decisions -/

/-- `policyCorpus.upsert` of an adopted proposal. -/
def upsertPolicy (proposal : Proposal) : KeyedTable PolicyCorpus PolicyCorpus.proposalId :=
  let acceptedAt := proposal.decidedAt.getD context.now
  store.policies.upsert {
      workspaceId := proposal.workspaceId
      proposalId := proposal.id
      title := proposal.title
      bodyMd := proposal.bodyMd
      circleId := proposal.circleId
      acceptedAt }
    (fun policy => { policy with
      title := proposal.title
      bodyMd := proposal.bodyMd
      circleId := proposal.circleId
      acceptedAt }) fun _ => rfl

/-- `resolveProposal` (line 1986). -/
def resolveProposal (outcome : ProposalResolutionOutcome) (decisionMd : JsString) :
    Except AppError ProposalStore := do
  invariant (decisionMd.trim.length > 0) 400 "INVALID_INPUT" "Resolution note is required."
  let proposal ← loadProposal store context workspaceId proposalId
  invariant (proposal.status = .DRAFT || proposal.status = .OPEN) 400 "INVALID_STATE"
    "Only draft or open proposals can be resolved."
  checkIf (proposal.status = .DRAFT) (requireProposalDraftManager context workspaceId proposal)
  context.lineage
  let updated := { proposal with
    status := .RESOLVED
    resolutionOutcome := some outcome
    decisionMd := some decisionMd.trim
    decidedAt := some context.now
    isPrivate := false
    publishedAt := some (proposal.publishedAt.getD context.now) }
  return { store with
    proposals := store.proposals.set updated
    flows := store.flows.update proposal.id (fun flow => { flow with
      status := match outcome with
        | .ADOPTED => .APPROVED
        | .WITHDRAWN => .WITHDRAWN
        | .NOT_ADOPTED => .REJECTED
      closedAt := some context.now
      resultJson := some (.manuallyResolved outcome decisionMd.trim) }) fun _ => rfl
    policies := if outcome = .ADOPTED then upsertPolicy store context updated else store.policies }

/-! ## The archive -/

/-- The name of a status in JSON. -/
def statusName : ProposalStatus → JsString
  | .DRAFT => lit "DRAFT"
  | .OPEN => lit "OPEN"
  | .RESOLVED => lit "RESOLVED"

/-- The status of a name, for the database. -/
def statusOf? (name : JsString) : Option ProposalStatus :=
  [.DRAFT, .OPEN, .RESOLVED].find? fun status => statusName status = name

section
variable (cleanupReason : JsString) (flow : ProposalFlow)

/-- `withdrawActiveApprovalFlowForSubject` (`approvals.ts:837`) on a flow of a proposal. -/
def withdrawn : ProposalFlow :=
  if flow.workspaceId = workspaceId && flow.status = .ACTIVE then
    { flow with
      status := .WITHDRAWN
      closedAt := some context.now
      resultJson := some (.withdrawn cleanupReason (lit "PROPOSAL") flow.subjectId context.now) }
  else flow

theorem proposalId_withdrawn :
    (withdrawn context workspaceId cleanupReason flow).proposalId = flow.proposalId := by
  unfold withdrawn
  split <;> rfl

end

/-- The writes of an archive request (line 1436, `archive.ts:821`). -/
def archived (proposal : Proposal) (reason : Option JsString) (cleanupReason : JsString) :
    Except AppError ProposalStore := do
  let archiveRecords ← createRow store.archiveRecords {
    id := context.recordUuid
    workspaceId
    entityId := proposal.id
    previousStatus := some (statusName proposal.status)
    archiveReason := reason
    archivedAt := context.now
    restoredAt := none }
  return { store with
    archiveRecords
    flows := store.flows.update proposal.id (withdrawn context workspaceId cleanupReason)
      (proposalId_withdrawn context workspaceId cleanupReason)
    proposals := store.proposals.set { proposal with
      archivedAt := some context.now
      archivedByUserId := context.actor.userId?
      archiveReason := reason } }

/-- `archiveProposalArtifactWithLock` (line 1404), of `archiveProposal` and
`deleteProposal`, which give the reason. -/
def archiveProposal (reason : JsString) : Except AppError ProposalStore := do
  let record ← loadProposal store context workspaceId proposalId
  if record.archivedAt.isSome then
    return store
  archived store context workspaceId record (some reason) (lit "Proposal archived")

/-- `archiveWorkspaceArtifact` (`archive.ts:748`) on a proposal. -/
def archiveWorkspaceArtifact (reason : Option JsString) (expectedVersion : Option ℚ) :
    Except AppError ProposalStore := do
  invariant (expectedVersion.all isArchiveVersion) 400 "INVALID_INPUT"
    "Expected version is invalid."
  let record ← findProposal store workspaceId proposalId
  invariant (expectedVersion.all fun (expected : ℚ) => expected = record.version) 409
    "VERSION_CONFLICT" recordReload
  if record.archivedAt.isSome then
    return store
  archived store context workspaceId record (JsString.trimOrNull reason) (lit "Proposal archived")

/-- The record that `activeArchiveRecord` (`archive.ts:582`) picks: the last that is not restored.
-/
def activeArchiveRecord : Option ArchiveRecord :=
  let records := store.archiveRecords.rows.filter fun record =>
    record.workspaceId = workspaceId && record.entityId = proposalId && record.restoredAt.isNone
  (records.mergeSort fun left right => right.archivedAt ≤ left.archivedAt).head?

/-- `restoreData` of a proposal (`archive.ts:383`); what it maps are the statuses of former
versions. -/
def restoreData (previousStatus : Option JsString) : JsString :=
  let previousStatus := previousStatus.getD (lit "DRAFT")
  if previousStatus = lit "SUBMITTED" || previousStatus = lit "ADVICE_GATHERING" then lit "OPEN"
  else if previousStatus = lit "APPROVED" || previousStatus = lit "REJECTED" ||
      previousStatus = lit "ARCHIVED" then lit "RESOLVED"
  else previousStatus

section
variable (isAdmin : Bool) (expectedVersion : Option ℚ)

/-- The checks of `restoreWorkspaceArtifact` (`archive.ts:929`) on a proposal; `isAdmin` is what its
membership check asks. -/
def restorable : Except AppError Proposal := do
  invariant (expectedVersion.all isArchiveVersion) 400 "INVALID_INPUT"
    "Expected version is invalid."
  invariant isAdmin 403 "FORBIDDEN" "Insufficient permissions."
  let record ← findProposal store workspaceId proposalId
  invariant record.archivedAt.isSome 400 "INVALID_STATE" "Proposal is not archived."
  invariant (expectedVersion.all fun (expected : ℚ) => expected = record.version) 409
    "VERSION_CONFLICT" recordReload
  return record

/-- `restoreWorkspaceArtifact` (`archive.ts:929`) on a proposal. -/
def restoreWorkspaceArtifact : Except AppError ProposalStore := do
  let record ← restorable store workspaceId proposalId isAdmin expectedVersion
  let archiveRecord := activeArchiveRecord store workspaceId record.id
  match statusOf? (restoreData (archiveRecord.bind (·.previousStatus))) with
  | none => .error ⟨500, "PrismaClientValidationError", "Invalid value for argument `status`."⟩
  | some status =>
    return { store with
      proposals := store.proposals.set { record with
        status
        archivedAt := none
        archivedByUserId := none
        archiveReason := none }
      archiveRecords := match archiveRecord with
        | none => store.archiveRecords
        | some archiveRecord => store.archiveRecords.update archiveRecord.id
          (fun row => { row with restoredAt := some context.now }) fun _ => rfl }

end

/-! ## Reviews -/

/-- The flow of a proposal, if it is in the workspace. -/
def findFlow : Except AppError ProposalFlow :=
  match (store.flows.find? proposalId).filter (·.workspaceId = workspaceId) with
  | none => throw ⟨404, "NOT_FOUND", "Approval flow not found."⟩
  | some flow => return flow

section
variable (flow : ProposalFlow)

/-- `proposalAuthorUserIdForFlow` (`approvals.ts:256`). -/
def proposalAuthorUserIdForFlow : Option JsString :=
  if flow.subjectType ≠ lit "PROPOSAL" then none
  else ((store.proposals.find? flow.subjectId).filter (·.workspaceId = flow.workspaceId)).map
    (·.authorUserId)

/-- `applySubjectOutcome` (`approvals.ts:316`). -/
def applySubjectOutcome (approved : Bool) (outcome : ApprovalOutcome) :
    Except AppError ProposalStore := do
  if flow.subjectType ≠ lit "PROPOSAL" then
    return store
  let before ← findProposal store flow.workspaceId flow.subjectId
  context.lineage
  let proposal := { before with
    status := .RESOLVED
    resolutionOutcome := some (if approved then .ADOPTED else .NOT_ADOPTED)
    decidedAt := some context.now
    decisionMd := some (context.approvalDecisionMd outcome) }
  return { store with
    proposals := store.proposals.set proposal
    policies := if approved then upsertPolicy store context proposal else store.policies }

/-- The row that `writeFlowOutcome` (`approvals.ts:235`) writes. -/
def ProposalFlow.writeOutcome (outcome : ApprovalOutcome)
    (final : Option ApprovalFlowStatus) : ProposalFlow :=
  { flow with toApprovalFlow := flow.toApprovalFlow.writeOutcome context.now outcome final }

/-- `finalizeApprovalFlow` (`approvals.ts:398`). -/
def finalizeApprovalFlow (approved : Bool) (outcome : ApprovalOutcome) :
    Except AppError ProposalStore := do
  context.lineage
  let status := if approved then .APPROVED else .REJECTED
  let store := { store with
    flows := store.flows.set (ProposalFlow.writeOutcome context flow outcome (some status)) }
  applySubjectOutcome store context flow approved outcome

/-- What the reviews of a flow lead to: `finalStatus` says whether it is decided. -/
def writeReview (approverIds : List JsString)
    (final : Option ApprovalFlowStatus) : Except AppError ProposalStore :=
  let outcome := flow.load.outcome approverIds
  match final with
  | none => return { store with
    flows := store.flows.set (ProposalFlow.writeOutcome context flow outcome none) }
  | some status => finalizeApprovalFlow store context flow (status = .APPROVED) outcome

end

/-- `recordApprovalDecision` (`approvals.ts:906`) on the flow of a proposal. -/
def recordApprovalDecision (choice : ApprovalDecisionChoice) (rationale : Option JsString) :
    Except AppError ProposalStore := do
  match context.membership with
  | none => .error ⟨403, "FORBIDDEN", "Agents cannot submit approval decisions."⟩
  | some membership =>
    let current ← findFlow store workspaceId proposalId
    invariant (current.status = .ACTIVE) 400 "INVALID_STATE" "Approval flow is not active."
    context.lineage
    let author := proposalAuthorUserIdForFlow store current
    assertProposalAuthorCanReview author membership.userId
    assertConsentWindowOpen current.toApprovalFlow context.now
    validateDecisionChoice current.mode choice
    let approverIds := context.approverIds author
    invariant (approverIds.contains membership.id) 403 "FORBIDDEN"
      "Only active reviewers can submit a decision."
    let flow : ProposalFlow := { current with
      decisions := current.decisions.set
        ⟨membership.id, choice, JsString.trimOrNull rationale⟩ }
    writeReview store context flow approverIds (finalStatus flow.load approverIds)

/-- `createObjection` (`approvals.ts:1047`) on the flow of a proposal. -/
def createObjection (objectionId bodyMd : JsString) : Except AppError ProposalStore := do
  match context.membership with
  | none => .error ⟨403, "FORBIDDEN", "Agents cannot object to approvals."⟩
  | some membership =>
    invariant (bodyMd.trim.length > 0) 400 "INVALID_INPUT" "Objection body is required."
    let current ← findFlow store workspaceId proposalId
    context.lineage
    invariant (current.status = .ACTIVE) 400 "INVALID_STATE" "Approval flow is not active."
    invariant (current.mode = .CONSENT) 400 "INVALID_STATE"
      "Objections are only supported on consent flows."
    let author := proposalAuthorUserIdForFlow store current
    assertProposalAuthorCanReview author membership.userId
    assertConsentWindowOpen current.toApprovalFlow context.now
    let approverIds := context.approverIds author
    invariant (approverIds.contains membership.id) 403 "FORBIDDEN"
      "Only active reviewers can object."
    invariant (!current.objections.rows.any fun objection =>
        objection.userId = membership.userId && objection.resolvedAt.isNone) 409 "ALREADY_EXISTS"
      "You already have an open objection on this flow."
    let objections ← createRow current.objections
      ⟨objectionId, membership.userId, bodyMd.trim, none⟩
    writeReview store context { current with objections } approverIds none

/-- `resolveObjection` (`approvals.ts:1148`) on the flow of a proposal. -/
def resolveObjection (objectionId : JsString) : Except AppError ProposalStore := do
  match context.membership with
  | none => .error ⟨403, "FORBIDDEN", "Agents cannot resolve objections."⟩
  | some membership =>
    let current ← findFlow store workspaceId proposalId
    context.lineage
    invariant (current.status = .ACTIVE) 400 "INVALID_STATE" "Approval flow is not active."
    invariant (current.mode = .CONSENT) 400 "INVALID_STATE"
      "Objections are only supported on consent flows."
    assertConsentWindowOpen current.toApprovalFlow context.now
    match current.objections.find? objectionId with
    | none => .error ⟨404, "NOT_FOUND", "Objection not found."⟩
    | some objection =>
      invariant objection.resolvedAt.isNone 400 "INVALID_STATE"
        "Objection has already been resolved."
      invariant (objection.userId = membership.userId || membership.role = .facilitator ||
          membership.role = .admin) 403 "FORBIDDEN" "You cannot resolve this objection."
      let objections := current.objections.set { objection with resolvedAt := some context.now }
      writeReview store context { current with objections }
        (context.approverIds (proposalAuthorUserIdForFlow store current)) none

/-- `finalizeExpiredApprovalFlows` (`approvals.ts:1247`) on the flows that its query returns. -/
def finalizeExpiredApprovalFlows : Except AppError ProposalStore :=
  ((store.flows.rows.filter fun flow =>
      isExpired context.now context.importInactive flow.toApprovalFlow).map (·.subjectId)).foldlM
    (fun store subjectId =>
      match store.flows.find? subjectId with
      | none => return store
      | some flow =>
        if flow.status ≠ .ACTIVE || flow.mode ≠ .CONSENT || flow.subjectType = lit "PROPOSAL" then
          return store
        else
          let outcome := flow.load.expiryOutcome (context.approverIds none)
          finalizeApprovalFlow store context flow outcome.approved outcome) store

end

/-! ## Runs -/

/-- What a request asks for. -/
inductive ProposalTransaction
  | createProposal (params : CreateProposalParams) (sourceTension : Option Tension)
  | createProposalFromTension (params : CreateProposalParams) (sourceTension : Tension)
  | applyProposalDuplicateUpdate (params : CreateProposalParams) (proposalId : JsString)
  | updateProposal (params : UpdateProposalParams)
  | submitProposal (workspaceId proposalId : JsString)
  | publishProposal (workspaceId proposalId : JsString)
  | returnProposalToDraft (workspaceId proposalId : JsString)
  | reopenProposal (workspaceId proposalId : JsString)
  | supportReopenResolvedProposals (workspaceId : JsString) (isSupport : Bool)
      (proposalIds : List JsString) (reason : JsString)
  | resolveProposal (workspaceId proposalId : JsString) (outcome : ProposalResolutionOutcome)
      (decisionMd : JsString)
  | archiveProposal (workspaceId proposalId reason : JsString)
  | archiveWorkspaceArtifact (workspaceId proposalId : JsString) (reason : Option JsString)
      (expectedVersion : Option ℚ)
  | restoreWorkspaceArtifact (workspaceId proposalId : JsString) (isAdmin : Bool)
      (expectedVersion : Option ℚ)
  | recordApprovalDecision (workspaceId proposalId : JsString) (choice : ApprovalDecisionChoice)
      (rationale : Option JsString)
  | createObjection (workspaceId proposalId objectionId bodyMd : JsString)
  | resolveObjection (workspaceId proposalId objectionId : JsString)
  | finalizeExpiredApprovalFlows
  /-- No caller finalizes the flow of a proposal; this is how they would, on an active flow. -/
  | finalizeApprovalFlow (workspaceId proposalId : JsString) (approved : Bool)

/-- The store after the transaction, if it commits. -/
def ProposalTransaction.perform (context : ProposalContext) (store : ProposalStore) :
    ProposalTransaction → Except AppError ProposalStore
  | .createProposal params sourceTension =>
    Proposals.createProposal store context params sourceTension
  | .createProposalFromTension params sourceTension =>
    Proposals.createProposalFromTension store context params sourceTension
  | .applyProposalDuplicateUpdate params proposalId =>
    Proposals.applyProposalDuplicateUpdate store context params proposalId
  | .updateProposal params => Proposals.updateProposal store context params
  | .submitProposal workspaceId proposalId =>
    Proposals.submitProposal store context workspaceId proposalId
  | .publishProposal workspaceId proposalId =>
    Proposals.publishProposal store context workspaceId proposalId
  | .returnProposalToDraft workspaceId proposalId =>
    Proposals.returnProposalToDraft store context workspaceId proposalId
  | .reopenProposal workspaceId proposalId =>
    Proposals.reopenProposal store context workspaceId proposalId
  | .supportReopenResolvedProposals workspaceId isSupport proposalIds reason =>
    Proposals.supportReopenResolvedProposals store context workspaceId isSupport proposalIds reason
  | .resolveProposal workspaceId proposalId outcome decisionMd =>
    Proposals.resolveProposal store context workspaceId proposalId outcome decisionMd
  | .archiveProposal workspaceId proposalId reason =>
    Proposals.archiveProposal store context workspaceId proposalId reason
  | .archiveWorkspaceArtifact workspaceId proposalId reason expectedVersion =>
    Proposals.archiveWorkspaceArtifact store context workspaceId proposalId reason expectedVersion
  | .restoreWorkspaceArtifact workspaceId proposalId isAdmin expectedVersion =>
    Proposals.restoreWorkspaceArtifact store context workspaceId proposalId isAdmin expectedVersion
  | .recordApprovalDecision workspaceId proposalId choice rationale =>
    Proposals.recordApprovalDecision store context workspaceId proposalId choice rationale
  | .createObjection workspaceId proposalId objectionId bodyMd =>
    Proposals.createObjection store context workspaceId proposalId objectionId bodyMd
  | .resolveObjection workspaceId proposalId objectionId =>
    Proposals.resolveObjection store context workspaceId proposalId objectionId
  | .finalizeExpiredApprovalFlows => Proposals.finalizeExpiredApprovalFlows store context
  | .finalizeApprovalFlow workspaceId proposalId approved => do
    let flow ← findFlow store workspaceId proposalId
    invariant (flow.status = .ACTIVE) 400 "INVALID_STATE" "Approval flow is not active."
    Proposals.finalizeApprovalFlow store context flow approved
      (flow.load.outcome (context.approverIds (proposalAuthorUserIdForFlow store flow)))

/-- A transaction at its time. -/
structure ProposalStep where
  context : ProposalContext
  transaction : ProposalTransaction

/-- A transaction that fails changes nothing. -/
def ProposalStep.apply (store : ProposalStore) (step : ProposalStep) : ProposalStore :=
  match step.transaction.perform step.context store with
  | .ok store => store
  | .error _ => store

/-- The store after a run from the empty one. -/
def runProposalSteps (steps : List ProposalStep) : ProposalStore :=
  steps.foldl ProposalStep.apply .empty

end Corgtex.Domain.Proposals
