import Corgtex.Domain.Approvals

/-!
# Whose decisions an outcome counts

The requests of `approvals.ts` that may finalize a flow, one at a time, while members come, go and
are merged. A subject other than a proposal counts every decision that is stored on its flow, so it
is the lineage of the flow that keeps the decisions of former members out: each outcome records the
approvers it was calculated for, and a flow whose recorded members have changed is unreadable, so
that nobody decides on it or finalizes it any more (`Covered`, `approval_counts_current`).
-/

namespace Corgtex.Domain.Approvals

open KeyedTable hiding mem_filter

open List

open JsString (lit orNull)

/-! ## State -/

/-- The content that a fingerprint of `lineageContentFingerprint` covers, of the kinds that are
followed here. -/
inductive LineageContent
  | Member (content : MemberContent)
  | ApprovalDecision (decision : ApprovalDecision)
deriving DecidableEq

/-- A root of kind `Member` in the manifest of a flow. -/
structure MemberRoot (δ : Type) where
  id : JsString
  fingerprint : δ

/-- A decision and the content hash of its latest manifest. -/
structure StoredDecision (δ : Type) extends ApprovalDecision where
  contentHash : δ

/-- A flow with its reviews, and the roots of kind `Member` in its latest manifest, none where its
lineage is not known. -/
structure FlowRecord (δ : Type) where
  flow : ApprovalFlow
  decisions : KeyedTable (StoredDecision δ) fun decision => decision.memberId
  objections : List Objection
  memberRoots : Option (List (MemberRoot δ))

abbrev FlowRecord.id {δ : Type} (record : FlowRecord δ) : JsString := record.flow.id

/-- The members of a workspace, with `@@unique([workspaceId, userId])`. -/
structure Membership where
  table : KeyedTable ApprovalMember ApprovalMember.id
  users : (table.rows.map ApprovalMember.userId).Nodup

/-- The members and the flows of a workspace. -/
structure ApprovalSystem (δ : Type) where
  members : Membership
  flows : KeyedTable (FlowRecord δ) FlowRecord.id

/-- What a transaction reads of a flow besides these rows: the clock, the rest of
`approvalInputsReadable`, the author of a proposal, and whether the proofs of the subject, of an
earlier decision and of the outcome could be captured. `upstream` are the roots of kind `Member`
that come with the subject and the reviews. -/
structure FlowReads (δ : Type) where
  now : Nat
  inputsReadable : Bool
  authorUserId : Option JsString
  subjectRoots : Except AppError Unit
  snapshot : Except AppError Unit
  outcomeRoots : Except AppError Unit
  upstream : List (MemberRoot δ)

/-! ## Requests -/

section
variable {δ : Type} [DecidableEq δ] (human : MemberContent → Bool)
  (lineageContentFingerprint : LineageContent → δ)

/-- `loadFlow` (line 201). -/
def FlowRecord.load (record : FlowRecord δ) : LoadedFlow where
  toApprovalFlow := record.flow
  decisions := record.decisions.rows.map StoredDecision.toApprovalDecision
  objections := record.objections.filter (·.resolvedAt.isNone)

section
variable (members : Membership)

/-- Whether a recorded member may be read: it is there, is active and is as it was recorded
(`evaluateRoot`, `source-lineage.ts:1682`). -/
def MemberRoot.isReadable (root : MemberRoot δ) : Bool :=
  (members.table.find? root.id).any fun member => member.content.isActive &&
    lineageContentFingerprint (.Member member.content) = root.fingerprint

/-- `approvalInputsReadable` (line 206). -/
def approvalInputsReadable (reads : FlowReads δ) (record : FlowRecord δ) : Bool :=
  record.memberRoots.any (·.all (·.isReadable lineageContentFingerprint members)) &&
    (record.decisions.rows.all fun decision => decision.contentHash =
      lineageContentFingerprint (.ApprovalDecision decision.toApprovalDecision)) &&
    reads.inputsReadable

variable (excludedUserId : Option JsString)

/-- The approvers of a subject. -/
def approvers : List JsString :=
  eligibleApproverIds human members.table.rows excludedUserId

/-- The roots of kind `Member` of `outcomeInputRoots` (line 216): those of the approvers, and those
that come with the other inputs. -/
def outcomeMemberRoots (reads : FlowReads δ) : List (MemberRoot δ) :=
  (members.table.rows.filter fun member => member.id ∈ approvers human members excludedUserId).map
      (fun member => ⟨member.id, lineageContentFingerprint (.Member member.content)⟩) ++
    reads.upstream

end

/-- `writeFlowOutcome` (line 235), with the manifest that it records. -/
def FlowRecord.writeOutcome (record : FlowRecord δ) (reads : FlowReads δ)
    (outcome : ApprovalOutcome) (final : Option ApprovalFlowStatus)
    (roots : List (MemberRoot δ)) : FlowRecord δ :=
  { record with
    flow := record.flow.writeOutcome reads.now outcome final
    memberRoots := some roots }

/-- The author of a proposal, who may not review it (line 256). -/
def excludedAuthor (flow : ApprovalFlow) (reads : FlowReads δ) : Option JsString :=
  if flow.subjectType = lit "PROPOSAL" then reads.authorUserId else none

/-- The subjects whose inputs can be verified (`approvalSubjectRoots`, `approvals.ts:246`). -/
def approvalSubjectRoots (flow : ApprovalFlow) (reads : FlowReads δ) : Except AppError Unit :=
  if flow.subjectType ∈ [lit "PROPOSAL", lit "ACTION", lit "TENSION"] then reads.subjectRoots
  else .error ⟨409, "UNKNOWN_LINEAGE", "Approval subject inputs cannot be verified."⟩

/-- The row of `approvalDecision.upsert` and its manifest. -/
def FlowRecord.decide (record : FlowRecord δ) (decision : ApprovalDecision) : FlowRecord δ :=
  let stored := ⟨decision, lineageContentFingerprint (.ApprovalDecision decision)⟩
  { record with decisions := KeyedTable.set record.decisions stored }

section
variable (members : Membership) (reads : FlowReads δ) (record : FlowRecord δ)

/-- The transaction of `recordApprovalDecision` (line 906) on a flow. -/
def recordApprovalDecision (membership : MembershipSummary) (choice : ApprovalDecisionChoice)
    (rationale : Option JsString) : Except AppError (FlowRecord δ) := do
  invariant (record.flow.status = .ACTIVE) 400 "INVALID_STATE" "Approval flow is not active."
  invariant (approvalInputsReadable lineageContentFingerprint members reads record) 409
    "UNKNOWN_LINEAGE" "Approval inputs cannot be verified."
  approvalSubjectRoots record.flow reads
  assertProposalAuthorCanReview (excludedAuthor record.flow reads) membership.userId
  assertConsentWindowOpen record.flow reads.now
  validateDecisionChoice record.flow.mode choice
  let author := excludedAuthor record.flow reads
  let approverIds := approvers human members author
  invariant (membership.id ∈ approverIds) 403 "FORBIDDEN"
    "Only active reviewers can submit a decision."
  checkIf (record.decisions.find? membership.id).isSome reads.snapshot
  let decided := record.decide lineageContentFingerprint
    ⟨membership.id, choice, rationale.bind fun text => orNull text.trim⟩
  let flow := decided.load
  reads.outcomeRoots
  .ok (decided.writeOutcome reads (flow.outcome approverIds) (finalStatus flow approverIds)
    (outcomeMemberRoots human lineageContentFingerprint members author reads))

/-- The body of the loop of `finalizeExpiredApprovalFlows` (line 1268) on a flow of the batch; a
flow whose inputs are unreadable is left as it is. -/
def finalizeExpiredFlow : Except AppError (FlowRecord δ) :=
  let flow := record.load
  if flow.status ≠ .ACTIVE || flow.mode ≠ .CONSENT || flow.subjectType = lit "PROPOSAL" then
    .ok record
  else if !approvalInputsReadable lineageContentFingerprint members reads record then .ok record
  else do
    let approverIds := approvers human members none
    let outcome := flow.expiryOutcome approverIds
    reads.outcomeRoots
    .ok (record.writeOutcome reads outcome
      (some (if outcome.approved then .APPROVED else .REJECTED))
      (outcomeMemberRoots human lineageContentFingerprint members none reads))

end

/-- `finalizeExpiredApprovalFlows` (line 1247) on the flows that its query returned. -/
def finalizeExpiredApprovalFlows (members : Membership) (reads : JsString → FlowReads δ)
    (flows : KeyedTable (FlowRecord δ) FlowRecord.id) :
    List JsString → Except AppError (KeyedTable (FlowRecord δ) FlowRecord.id)
  | [] => .ok flows
  | id :: rows =>
    match flows.find? id with
    | none => finalizeExpiredApprovalFlows members reads flows rows
    | some record => do
      let finalized ← finalizeExpiredFlow human lineageContentFingerprint members (reads id) record
      finalizeExpiredApprovalFlows members reads (flows.set finalized) rows

/-! ## Runs -/

/-- The decisions of a flow after a change of the members: a merge gives those of a member to
another one (`member-merge.ts:357`), and those of a member who is gone are deleted. -/
def FlowRecord.moveDecisions (record : FlowRecord δ) (members : Membership)
    (rewire : JsString → JsString) :
    Option (KeyedTable (StoredDecision δ) fun decision => decision.memberId) :=
  (record.decisions.rekey fun decision => { decision with
    memberId := rewire decision.memberId }).map fun decisions =>
      decisions.filter fun decision => (members.table.find? decision.memberId).isSome

/-- A decision, an expiry run on the flows that `batch` lists, or a change of the members. -/
inductive ApprovalStep (δ : Type)
  | decide (reads : FlowReads δ) (flowId : JsString) (membership : MembershipSummary)
      (choice : ApprovalDecisionChoice) (rationale : Option JsString)
  | expire (now : Nat) (importInactive : Bool) (reads : JsString → FlowReads δ)
      (batch : List JsString)
  | members (members : Membership) (rewire : JsString → JsString)

/-- The state after a step; a transaction that fails changes nothing. -/
def ApprovalSystem.apply (s : ApprovalSystem δ) : ApprovalStep δ → ApprovalSystem δ
  | .decide reads flowId membership choice rationale =>
    match s.flows.find? flowId with
    | none => s
    | some record =>
      match recordApprovalDecision human lineageContentFingerprint s.members reads record membership
          choice rationale with
      | .error _ => s
      | .ok decided => { s with flows := s.flows.set decided }
  | .expire now importInactive reads batch =>
    let rows := batch.filter fun id =>
      (s.flows.find? id).any fun record => isExpired now importInactive record.flow
    match finalizeExpiredApprovalFlows human lineageContentFingerprint s.members reads s.flows
        rows with
    | .error _ => s
    | .ok flows => { s with flows }
  | .members members rewire =>
    if s.flows.rows.all fun record => (record.moveDecisions members rewire).isSome then
      { members
        flows := s.flows.updateMany (fun _ => true) (fun record => { record with
          decisions := (record.moveDecisions members rewire).getD record.decisions })
          fun _ => rfl }
    else s

def ApprovalSystem.run (s : ApprovalSystem δ) (steps : List (ApprovalStep δ)) : ApprovalSystem δ :=
  steps.foldl (ApprovalSystem.apply human lineageContentFingerprint) s

end

/-! ## Covered decisions -/

section
variable {δ : Type} [DecidableEq δ] {human : MemberContent → Bool}
  {lineageContentFingerprint : LineageContent → δ} {members : Membership} {reads : FlowReads δ}
  {record record' : FlowRecord δ}

variable {id : JsString}

theorem mem_approvers : id ∈ approvers human members none ↔
    ∃ member ∈ members.table.rows, isApprover human member.content = true ∧ member.id = id := by
  simp [approvers, eligibleApproverIds, and_assoc]

variable (human lineageContentFingerprint) in
/-- The decision was recorded for a member whom these roots record as an approver. -/
def RecordedFor (decision : StoredDecision δ) (roots : List (MemberRoot δ)) : Prop :=
  ∃ recorded content,
    decision.contentHash = lineageContentFingerprint (.ApprovalDecision recorded) ∧
    isApprover human content = true ∧
    ⟨recorded.memberId, lineageContentFingerprint (.Member content)⟩ ∈ roots

variable (human lineageContentFingerprint) in
/-- The lineage of a flow covers the members who have decided on it. -/
def Covered (record : FlowRecord δ) : Prop :=
  record.flow.subjectType ≠ lit "PROPOSAL" → ∀ decision ∈ record.decisions.rows,
    ∃ roots, record.memberRoots = some roots ∧
      RecordedFor human lineageContentFingerprint decision roots

/-- **Readable decisions are those of approvers**: their members are as they were recorded. -/
theorem Covered.approver (hinj : Function.Injective lineageContentFingerprint)
    (hcovered : Covered human lineageContentFingerprint record)
    (hsubject : record.flow.subjectType ≠ lit "PROPOSAL")
    (hreadable : approvalInputsReadable lineageContentFingerprint members reads record = true)
    {decision : StoredDecision δ} (hmem : decision ∈ record.decisions.rows) :
    decision.memberId ∈ approvers human members none := by
  simp only [approvalInputsReadable, Bool.and_eq_true, all_eq_true, decide_eq_true_eq] at hreadable
  obtain ⟨⟨hroots, hdecisions⟩, _⟩ := hreadable
  obtain ⟨roots, hsome, recorded, content, hhash, happrover, hroot⟩ := hcovered hsubject _ hmem
  -- the row is the one that was recorded
  have hsame : decision.toApprovalDecision = recorded := by
    have heq := hinj ((hdecisions _ hmem).symm.trans hhash)
    exact LineageContent.ApprovalDecision.inj heq
  rw [hsome, Option.any_some, all_eq_true] at hroots
  obtain ⟨member, hmember, htest⟩ := (Option.any_eq_true _ _).1 (hroots _ hroot)
  simp only [Bool.and_eq_true, decide_eq_true_eq] at htest
  have hcontent : member.content = content := LineageContent.Member.inj (hinj htest.2)
  obtain ⟨hrow, hid⟩ := find?_eq_some.1 hmember
  exact mem_approvers.2 ⟨member, hrow, hcontent ▸ happrover, hid.trans (by rw [hsame])⟩

omit [DecidableEq δ] in
theorem mem_outcomeMemberRoots (h : id ∈ approvers human members none) :
    ∃ content, isApprover human content = true ∧
      ⟨id, lineageContentFingerprint (.Member content)⟩ ∈
        outcomeMemberRoots human lineageContentFingerprint members none reads := by
  obtain ⟨member, hmember, happrover, rfl⟩ := mem_approvers.1 h
  refine ⟨member.content, happrover, mem_append_left _ ?_⟩
  exact mem_map.2 ⟨member, mem_filter.2 ⟨hmember, by simpa using h⟩, rfl⟩

variable {final : Option ApprovalFlowStatus}

omit [DecidableEq δ] in
/-- **An outcome covers the decisions it counts.** -/
theorem covered_writeOutcome {outcome : ApprovalOutcome}
    (hhash : ∀ decision ∈ record.decisions.rows, decision.contentHash =
      lineageContentFingerprint (.ApprovalDecision decision.toApprovalDecision))
    (happrovers : ∀ decision ∈ record.decisions.rows,
      decision.memberId ∈ approvers human members none) :
    Covered human lineageContentFingerprint (record.writeOutcome reads outcome final
      (outcomeMemberRoots human lineageContentFingerprint members none reads)) := by
  intro _ decision hmem
  obtain ⟨content, happrover, hroot⟩ : ∃ content, isApprover human content = true ∧
      ⟨decision.memberId, lineageContentFingerprint (.Member content)⟩ ∈
        outcomeMemberRoots human lineageContentFingerprint members none reads :=
    mem_outcomeMemberRoots (happrovers decision hmem)
  exact ⟨_, rfl, decision.toApprovalDecision, content, hhash decision hmem, happrover, hroot⟩

/-! ## Counted decisions -/

variable (human) in
/-- The outcome of a flow counts its decisions: one for each user, of approvers only, and so at most
as many as there are approvers. -/
structure CountsCurrent (members : Membership) (record : FlowRecord δ) : Prop where
  outcome : record.flow.resultJson = some (.outcome (calculateApprovalOutcome record.flow.mode
    record.flow.quorumPercent record.flow.minApproverCount record.load.decisions
    (approvers human members none).length record.load.objections.length))
  approver : ∀ decision ∈ record.load.decisions, decision.memberId ∈ approvers human members none
  users : (record.load.decisions.map fun decision =>
    (members.table.find? decision.memberId).map ApprovalMember.userId).Nodup
  atMost : record.load.decisions.length ≤ (approvers human members none).length
  participation : participationPercent record.load.decisions.length
    (approvers human members none).length ≤ 100

omit [DecidableEq δ] in
/-- Decisions of different approvers are those of different users. -/
theorem countsCurrent_of_approvers
    (houtcome : record.flow.resultJson = some (.outcome (calculateApprovalOutcome record.flow.mode
      record.flow.quorumPercent record.flow.minApproverCount record.load.decisions
      (approvers human members none).length record.load.objections.length)))
    (happrovers : ∀ decision ∈ record.decisions.rows,
      decision.memberId ∈ approvers human members none) : CountsCurrent human members record := by
  have hloaded : ∀ decision ∈ record.load.decisions,
      decision.memberId ∈ approvers human members none := by
    intro decision hmem
    obtain ⟨stored, hstored, rfl⟩ := mem_map.1 hmem
    exact happrovers stored hstored
  have hids : (record.load.decisions.map ApprovalDecision.memberId).Nodup := by
    simpa [FlowRecord.load, Function.comp_def] using record.decisions.nodup
  have hlength : record.load.decisions.length ≤ (approvers human members none).length := by
    have hsub : record.load.decisions.map ApprovalDecision.memberId ⊆
        approvers human members none := by
      intro id hid
      obtain ⟨decision, hmem, rfl⟩ := mem_map.1 hid
      exact hloaded decision hmem
    simpa using (subperm_of_subset hids hsub).length_le
  refine ⟨houtcome, hloaded, ?_, hlength, participationPercent_le hlength⟩
  refine List.Nodup.map_on (fun a ha b hb hsame => ?_) (List.Nodup.of_map _ hids)
  obtain ⟨member, hmember, _, hid⟩ := mem_approvers.1 (hloaded a ha)
  obtain ⟨member', hmember', _, hid'⟩ := mem_approvers.1 (hloaded b hb)
  rw [find?_eq_some.2 ⟨hmember, hid⟩, find?_eq_some.2 ⟨hmember', hid'⟩] at hsame
  have husers : member = member' :=
    inj_on_of_nodup_map members.users hmember hmember' (Option.some.inj hsame)
  exact inj_on_of_nodup_map hids ha hb (hid.symm.trans (husers ▸ hid'))

omit [DecidableEq δ] in
/-- **An outcome of approvers' decisions.** -/
theorem countsCurrent_writeOutcome
    {roots : List (MemberRoot δ)}
    (happrovers : ∀ decision ∈ record.decisions.rows,
      decision.memberId ∈ approvers human members none) :
    CountsCurrent human members (record.writeOutcome reads
      (record.load.expiryOutcome (approvers human members none)) final roots) := by
  refine countsCurrent_of_approvers ?_ happrovers
  simp [FlowRecord.writeOutcome, FlowRecord.load, LoadedFlow.expiryOutcome]

/-! ## What a request does to a flow -/

variable (human lineageContentFingerprint) in
/-- A request leaves a flow as it is, or it writes on an active one; a flow of another subject than
a proposal is covered then, and where it is finalized its outcome counts current approvers. -/
structure Decided (members : Membership) (record record' : FlowRecord δ) : Prop where
  id : record'.id = record.id
  active : record.flow.status = .ACTIVE
  covered : Covered human lineageContentFingerprint record'
  finalized : record'.flow.status.isTerminal = true → CountsCurrent human members record'

omit [DecidableEq δ] in
theorem mem_rows_decide {decision : ApprovalDecision} {stored : StoredDecision δ}
    (h : stored ∈ (record.decide lineageContentFingerprint decision).decisions.rows) :
    stored = ⟨decision, lineageContentFingerprint (.ApprovalDecision decision)⟩ ∨
      stored ∈ record.decisions.rows := by
  have hfound := find?_key h
  rw [FlowRecord.decide, find?_set] at hfound
  split at hfound
  · exact .inl (Option.some.inj hfound).symm
  · exact .inr (find?_eq_some.1 hfound).1

theorem finalStatus_terminal {flow : LoadedFlow} {approverIds : List JsString}
    (hactive : flow.status = .ACTIVE)
    (h : ((finalStatus flow approverIds).getD flow.status).isTerminal = true) :
    flow.subjectType ≠ lit "PROPOSAL" := by
  intro hproposal
  rw [finalStatus, if_pos (by simp [hproposal]), Option.getD_none, hactive] at h
  cases h

section
variable (hinj : Function.Injective lineageContentFingerprint)
  (hcovered : Covered human lineageContentFingerprint record)
include hinj hcovered

/-- **A decision.** -/
theorem decided_recordApprovalDecision {membership : MembershipSummary}
    {choice : ApprovalDecisionChoice} {rationale : Option JsString}
    (h : recordApprovalDecision human lineageContentFingerprint members reads record membership
      choice rationale = .ok record') :
    Decided human lineageContentFingerprint members record record' := by
  rw [recordApprovalDecision] at h
  obtain ⟨hactive, h⟩ := invariant_bind_ok.1 h
  obtain ⟨hreadable, h⟩ := invariant_bind_ok.1 h
  obtain ⟨_, _, h⟩ := bind_ok.1 h
  obtain ⟨_, _, h⟩ := bind_ok.1 h
  obtain ⟨_, _, h⟩ := bind_ok.1 h
  obtain ⟨_, _, h⟩ := bind_ok.1 h
  obtain ⟨heligible, h⟩ := invariant_bind_ok.1 h
  obtain ⟨_, _, h⟩ := bind_ok.1 h
  obtain ⟨_, _, h⟩ := bind_ok.1 h
  cases h
  have hactive : record.flow.status = .ACTIVE := of_decide_eq_true hactive
  have heligible := of_decide_eq_true heligible
  -- of another subject, nobody is excluded and everybody who has decided is an approver
  have hothers (hsubject : record.flow.subjectType ≠ lit "PROPOSAL") :
      excludedAuthor record.flow reads = none ∧ ∀ decision ∈
        (record.decide lineageContentFingerprint
          ⟨membership.id, choice, rationale.bind fun text => orNull text.trim⟩).decisions.rows,
        decision.memberId ∈ approvers human members none := by
    have hauthor : excludedAuthor record.flow reads = none := if_neg hsubject
    refine ⟨hauthor, fun decision hmem => ?_⟩
    rcases mem_rows_decide hmem with rfl | hold
    · rwa [hauthor] at heligible
    · exact hcovered.approver hinj hsubject hreadable hold
  refine ⟨ApprovalFlow.id_writeOutcome, hactive, fun hsubject => ?_, fun hterminal => ?_⟩
  · have hsubject : record.flow.subjectType ≠ lit "PROPOSAL" := by
      simpa [FlowRecord.writeOutcome, FlowRecord.decide] using hsubject
    obtain ⟨hauthor, happrovers⟩ := hothers hsubject
    rw [hauthor]
    intro decision hmem
    refine covered_writeOutcome (fun decision hmem => ?_) happrovers
      (by simpa [FlowRecord.writeOutcome, FlowRecord.decide] using hsubject) decision hmem
    rcases mem_rows_decide hmem with rfl | hold
    · rfl
    · simp only [approvalInputsReadable, Bool.and_eq_true, all_eq_true,
        decide_eq_true_eq] at hreadable
      exact hreadable.1.2 decision hold
  · rw [FlowRecord.writeOutcome, ApprovalFlow.status_writeOutcome] at hterminal
    have hsubject : record.flow.subjectType ≠ lit "PROPOSAL" :=
      finalStatus_terminal hactive hterminal
    obtain ⟨hauthor, happrovers⟩ := hothers hsubject
    rw [hauthor, LoadedFlow.outcome_eq hsubject]
    exact countsCurrent_writeOutcome happrovers

/-- **An expiry.** -/
theorem decided_finalizeExpiredFlow
    (h : finalizeExpiredFlow human lineageContentFingerprint members reads record = .ok record') :
    record' = record ∨ record'.flow.status.isTerminal = true ∧
      Decided human lineageContentFingerprint members record record' := by
  rw [finalizeExpiredFlow] at h
  dsimp only at h
  split at h
  · cases h
    exact .inl rfl
  next hopen =>
  split at h
  · cases h
    exact .inl rfl
  next hreadable =>
  obtain ⟨_, _, h⟩ := bind_ok.1 h
  cases h
  simp only [Bool.or_eq_true, decide_eq_true_eq, not_or, Decidable.not_not] at hopen
  have hreadable :
      approvalInputsReadable lineageContentFingerprint members reads record = true := by
    simpa using hreadable
  have hsubject : record.flow.subjectType ≠ lit "PROPOSAL" := hopen.2
  have happrovers : ∀ decision ∈ record.decisions.rows,
      decision.memberId ∈ approvers human members none :=
    fun _ hmem => hcovered.approver hinj hsubject hreadable hmem
  right
  refine ⟨?_, ApprovalFlow.id_writeOutcome, hopen.1.1, ?_,
    fun _ => countsCurrent_writeOutcome happrovers⟩
  · rw [FlowRecord.writeOutcome, ApprovalFlow.status_writeOutcome, Option.getD_some]
    split <;> rfl
  · refine covered_writeOutcome (fun decision hmem => ?_) happrovers
    simp only [approvalInputsReadable, Bool.and_eq_true, all_eq_true,
      decide_eq_true_eq] at hreadable
    exact hreadable.1.2 decision hmem

end

/-! ## Runs keep the counts current -/

variable (human lineageContentFingerprint) in
def AllCovered (flows : KeyedTable (FlowRecord δ) FlowRecord.id) : Prop :=
  ∀ record ∈ flows.rows, Covered human lineageContentFingerprint record

/-- Every row of a table has a successor under its key. -/
def Moved (relation : FlowRecord δ → FlowRecord δ → Prop)
    (flows flows' : KeyedTable (FlowRecord δ) FlowRecord.id) : Prop :=
  ∀ id record, flows.find? id = some record →
    ∃ record', flows'.find? id = some record' ∧ relation record record'

variable {relation : FlowRecord δ → FlowRecord δ → Prop}

omit [DecidableEq δ] in
theorem Moved.refl
    (hrefl : ∀ record, relation record record)
    (flows : KeyedTable (FlowRecord δ) FlowRecord.id) : Moved relation flows flows :=
  fun _ record h => ⟨record, h, hrefl record⟩

variable {flows : KeyedTable (FlowRecord δ) FlowRecord.id}

omit [DecidableEq δ] in
/-- A row is put in the place of another one. -/
theorem moved_set
    (hrefl : ∀ record, relation record record)
    (hfound : flows.find? id = some record) (hid : record'.id = record.id)
    (hrel : relation record record') : Moved relation flows (flows.set record') := by
  intro id' old hold
  rw [find?_set]
  split
  · next heq =>
    rw [heq, hid, (find?_eq_some.1 hfound).2, hfound] at hold
    cases hold
    exact ⟨record', rfl, hrel⟩
  · exact ⟨old, hold, hrefl old⟩

variable (human lineageContentFingerprint) in
def Expired (members : Membership) (record record' : FlowRecord δ) : Prop :=
  record' = record ∨ record'.flow.status.isTerminal = true ∧
    Decided human lineageContentFingerprint members record record'

omit [DecidableEq δ] in
/-- A finalized flow is not finalized again. -/
theorem Expired.trans {record'' : FlowRecord δ}
    (h : Expired human lineageContentFingerprint members record record')
    (h' : Expired human lineageContentFingerprint members record' record'') :
    Expired human lineageContentFingerprint members record record'' := by
  rcases h with rfl | ⟨hterminal, hdecided⟩
  · exact h'
  · rcases h' with rfl | ⟨_, hdecided'⟩
    · exact .inr ⟨hterminal, hdecided⟩
    · rw [hdecided'.active] at hterminal
      cases hterminal

omit [DecidableEq δ] in
theorem AllCovered.set
    (h : AllCovered human lineageContentFingerprint flows)
    (hrecord : Covered human lineageContentFingerprint record) :
    AllCovered human lineageContentFingerprint (flows.set record) := by
  intro other hmem
  have hfound := find?_key hmem
  rw [find?_set] at hfound
  split at hfound
  · cases hfound
    exact hrecord
  · exact h _ (find?_eq_some.1 hfound).1

/-- **A batch** finalizes some of its flows. -/
theorem moved_finalizeExpiredApprovalFlows (hinj : Function.Injective lineageContentFingerprint)
    {reads : JsString → FlowReads δ} {batch : List JsString}
    {flows flows' : KeyedTable (FlowRecord δ) FlowRecord.id}
    (hcovered : AllCovered human lineageContentFingerprint flows)
    (h : finalizeExpiredApprovalFlows human lineageContentFingerprint members reads flows batch =
      .ok flows') :
    Moved (Expired human lineageContentFingerprint members) flows flows' ∧
      AllCovered human lineageContentFingerprint flows' := by
  induction batch generalizing flows with
  | nil =>
    cases h
    exact ⟨Moved.refl (fun _ => .inl rfl) _, hcovered⟩
  | cons id batch ih =>
    rw [finalizeExpiredApprovalFlows] at h
    split at h
    · exact ih hcovered h
    · next record hfound =>
      obtain ⟨finalized, hfinalized, h⟩ := bind_ok.1 h
      have hrecord := hcovered record (find?_eq_some.1 hfound).1
      have hexpired : Expired human lineageContentFingerprint members record finalized :=
        decided_finalizeExpiredFlow hinj hrecord hfinalized
      have hkept : finalized.id = record.id ∧
          Covered human lineageContentFingerprint finalized := by
        rcases hexpired with rfl | ⟨_, hdecided⟩
        · exact ⟨rfl, hrecord⟩
        · exact ⟨hdecided.id, hdecided.covered⟩
      obtain ⟨hmoved, hall⟩ := ih (hcovered.set hkept.2) h
      refine ⟨fun id' old hold => ?_, hall⟩
      obtain ⟨next, hnext, hfirst⟩ :=
        moved_set (fun _ => .inl rfl) hfound hkept.1 hexpired id' old hold
      obtain ⟨last, hlast, hrest⟩ := hmoved id' next hnext
      exact ⟨last, hlast, hfirst.trans hrest⟩

variable (human) in
/-- What a step keeps of a flow: its final status, and if it is finalized, its outcome counts
current approvers. -/
structure FlowKept (members : Membership) (record record' : FlowRecord δ) : Prop where
  terminal : record.flow.status.isTerminal = true → record'.flow.status = record.flow.status
  finalized : record.flow.status.isTerminal = false → record'.flow.status.isTerminal = true →
    CountsCurrent human members record'

omit [DecidableEq δ] in
theorem FlowKept.of_status (h : record'.flow.status = record.flow.status) :
    FlowKept human members record record' := by
  refine ⟨fun _ => h, fun hopen hterminal => ?_⟩
  rw [h, hopen] at hterminal
  cases hterminal

omit [DecidableEq δ] in
theorem Decided.kept (h : Decided human lineageContentFingerprint members record record') :
    FlowKept human members record record' := by
  refine ⟨fun hterminal => ?_, fun _ => h.finalized⟩
  rw [h.active] at hterminal
  cases hterminal

omit [DecidableEq δ] in
theorem Expired.kept (h : Expired human lineageContentFingerprint members record record') :
    FlowKept human members record record' := by
  rcases h with rfl | ⟨_, hdecided⟩
  · exact .of_status rfl
  · exact hdecided.kept

omit [DecidableEq δ] in
/-- A merge or a deletion keeps what was recorded of the decisions that are left. -/
theorem covered_moveDecisions {rewire : JsString → JsString}
    {decisions : KeyedTable (StoredDecision δ) fun decision => decision.memberId}
    (hcovered : Covered human lineageContentFingerprint record)
    (h : record.moveDecisions members rewire = some decisions) :
    Covered human lineageContentFingerprint { record with decisions } := by
  rw [FlowRecord.moveDecisions, Option.map_eq_some_iff] at h
  obtain ⟨moved, hmoved, rfl⟩ := h
  intro hsubject decision hmem
  have hrow := (KeyedTable.mem_filter.1 hmem).1
  rw [KeyedTable.rows_of_rekey hmoved] at hrow
  obtain ⟨old, hold, rfl⟩ := mem_map.1 hrow
  exact hcovered hsubject old hold

namespace ApprovalSystem

variable {s : ApprovalSystem δ}

section
variable (hinj : Function.Injective lineageContentFingerprint)
  (hcovered : AllCovered human lineageContentFingerprint s.flows)
include hinj hcovered

/-- **One step.** -/
theorem moved_apply (step : ApprovalStep δ) :
    Moved (FlowKept human (s.apply human lineageContentFingerprint step).members) s.flows
        (s.apply human lineageContentFingerprint step).flows ∧
      AllCovered human lineageContentFingerprint
        (s.apply human lineageContentFingerprint step).flows := by
  have hsame (members : Membership) (record : FlowRecord δ) :
      FlowKept human members record record :=
    .of_status rfl
  cases step with
  | decide reads flowId membership choice rationale =>
    rw [ApprovalSystem.apply]
    split
    · exact ⟨Moved.refl (hsame _) _, hcovered⟩
    · next record hfound =>
      split
      · exact ⟨Moved.refl (hsame _) _, hcovered⟩
      · next decided hdecided =>
        have hrecord := hcovered record (find?_eq_some.1 hfound).1
        have h := decided_recordApprovalDecision hinj hrecord hdecided
        exact ⟨moved_set (hsame _) hfound h.id h.kept, hcovered.set h.covered⟩
  | expire now importInactive reads batch =>
    rw [ApprovalSystem.apply]
    split
    · exact ⟨Moved.refl (hsame _) _, hcovered⟩
    · next flows hflows =>
      obtain ⟨hmoved, hall⟩ := moved_finalizeExpiredApprovalFlows hinj hcovered hflows
      refine ⟨fun id record hrecord => ?_, hall⟩
      obtain ⟨record', hrecord', hexpired⟩ := hmoved id record hrecord
      exact ⟨record', hrecord', hexpired.kept⟩
  | members members rewire =>
    rw [ApprovalSystem.apply]
    split
    · next hmoves =>
      rw [all_eq_true] at hmoves
      refine ⟨fun id record hrecord => ?_, fun record hmem => ?_⟩
      · have hkey (record : FlowRecord δ) : FlowRecord.id { record with
            decisions := (record.moveDecisions members rewire).getD record.decisions } =
            record.id := rfl
        refine ⟨_, (find?_updateMany hkey).trans (by rw [hrecord]; rfl), ?_⟩
        exact .of_status rfl
      · obtain ⟨old, hold, rfl⟩ := mem_map.1 hmem
        obtain ⟨decisions, hdecisions⟩ := Option.isSome_iff_exists.1 (hmoves old hold)
        have hmoved := covered_moveDecisions (hcovered old hold) hdecisions
        simpa [hdecisions] using hmoved
    · exact ⟨Moved.refl (hsame _) _, hcovered⟩

theorem allCovered_run (steps : List (ApprovalStep δ)) : AllCovered human lineageContentFingerprint
      (s.run human lineageContentFingerprint steps).flows := by
  induction steps generalizing s with
  | nil => exact hcovered
  | cons step steps ih => exact ih (moved_apply hinj hcovered step).2

end

end ApprovalSystem

end

/-- **Outcomes count current approvers.** From flows without decisions, whatever was decided, has
expired and has become of the members so far: a step that finalizes a flow calculates its outcome
from the decisions of current approvers, at most one for each user and so at most as many as there
are approvers, and a final status stays. -/
theorem approval_counts_current {δ : Type} [DecidableEq δ] (human : MemberContent → Bool)
    (lineageContentFingerprint : LineageContent → δ)
    (hinj : Function.Injective lineageContentFingerprint) (start : ApprovalSystem δ)
    (hstart : ∀ record ∈ start.flows.rows, record.decisions = .empty)
    (steps : List (ApprovalStep δ)) (step : ApprovalStep δ) :
    ∀ record ∈ (start.run human lineageContentFingerprint steps).flows.rows,
      ∃ record', ((start.run human lineageContentFingerprint steps).apply human
          lineageContentFingerprint step).flows.find? record.id = some record' ∧
        FlowKept human ((start.run human lineageContentFingerprint steps).apply human
          lineageContentFingerprint step).members record record' := by
  intro record hmem
  have hcovered : AllCovered human lineageContentFingerprint start.flows := by
    intro record hmem _ decision hdecision
    rw [hstart record hmem] at hdecision
    cases hdecision
  have hrun := ApprovalSystem.allCovered_run hinj hcovered steps
  exact (ApprovalSystem.moved_apply hinj hrun step).1 _ record (find?_key hmem)

/-! ## A run -/

def sampleHuman (content : MemberContent) : Bool := content.kind = .HUMAN

def sampleMember (name : String) : ApprovalMember :=
  ⟨lit name, ⟨⟨lit name, lit name, none⟩, .contributor, .HUMAN, true, 0⟩⟩

/-- Two members and an active flow of a tension. -/
def sampleApprovals : ApprovalSystem LineageContent where
  members := ⟨⟨[sampleMember "a", sampleMember "b"], by decide⟩, by decide⟩
  flows := ⟨[
    { flow := ⟨lit "f", lit "TENSION", lit "t", .MAJORITY, .ACTIVE, 50, 1, none, none, none, none⟩
      decisions := .empty
      objections := []
      memberRoots := some [] }], by decide⟩

def sampleDecide (name : String) (choice : ApprovalDecisionChoice) : ApprovalStep LineageContent :=
  .decide ⟨0, true, none, .ok (), .ok (), .ok (), []⟩ (lit "f")
    ⟨lit name, lit "w", lit name, .contributor, true⟩ choice none

/-- The first member abstains and the second one approves. -/
theorem approval_counts_current_sample :
    ∃ record', ((sampleApprovals.run sampleHuman id [sampleDecide "a" .ABSTAIN]).apply sampleHuman
        id (sampleDecide "b" .APPROVE)).flows.find? (lit "f") = some record' ∧
      record'.flow.status = .APPROVED ∧
      CountsCurrent sampleHuman ((sampleApprovals.run sampleHuman id
        [sampleDecide "a" .ABSTAIN]).apply sampleHuman id (sampleDecide "b" .APPROVE)).members
        record' := by
  have hbefore : ((sampleApprovals.run sampleHuman id [sampleDecide "a" .ABSTAIN]).flows.find?
      (lit "f")).any (fun record => record.flow.status = .ACTIVE) = true := by
    decide +kernel
  have hafter : (((sampleApprovals.run sampleHuman id [sampleDecide "a" .ABSTAIN]).apply
      sampleHuman id (sampleDecide "b" .APPROVE)).flows.find? (lit "f")).all
        (fun record => record.flow.status = .APPROVED) = true := by
    decide +kernel
  obtain ⟨record, hfound, hactive⟩ := (Option.any_eq_true _ _).1 hbefore
  obtain ⟨hmem, hid⟩ := find?_eq_some.1 hfound
  obtain ⟨record', hfound', hkept⟩ := approval_counts_current sampleHuman id
    (fun _ _ h => h) sampleApprovals (by simp [sampleApprovals])
    [sampleDecide "a" .ABSTAIN] (sampleDecide "b" .APPROVE) record hmem
  rw [hid] at hfound'
  rw [hfound', Option.all_some, decide_eq_true_eq] at hafter
  refine ⟨record', hfound', hafter, hkept.finalized ?_ (by rw [hafter]; rfl)⟩
  rw [of_decide_eq_true hactive]
  rfl

end Corgtex.Domain.Approvals
