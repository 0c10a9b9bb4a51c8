import Corgtex.Domain.Members
import Corgtex.Library.JsArray

/-!
# Email aliases and merges of members

`member-merge.ts`. A request is a function of the store; it fails as a whole, so
a failed one leaves the store as it was. A store that a request has written is described by
`AliasesWritten` for the aliases and by `Repointed` for the relations.
-/

namespace Corgtex.Domain

open JsString List

variable {platform : EmailPlatform}

/-- Prisma's error for a write that breaks a unique key; no code here catches it. -/
def uniqueConstraintFailed : AppError := ⟨500, "P2002", "Unique constraint failed."⟩

/-! ## Aliases -/

/-- `strongestRole` (line 56). -/
def strongestRole (left right : MemberRole) : MemberRole :=
  if left = .admin || right = .admin then .admin else .contributor

/-- `uniqueNormalizedEmails` (line 60). -/
def uniqueNormalizedEmails (platform : EmailPlatform) (emails : List JsString) : List JsString :=
  JsArray.distinct ((emails.map platform.normalizeEmail).filter (· ≠ []))

/-- A member of the workspace, or the error of an `invariant` that misses one. -/
def MemberStore.require (store : MemberStore platform) (workspaceId memberId : JsString)
    (message : String) : Except AppError Member :=
  match store.members.find? memberId with
  | some member =>
    if member.workspaceId = workspaceId then .ok member else .error ⟨404, "NOT_FOUND", message⟩
  | none => .error ⟨404, "NOT_FOUND", message⟩

/-- The parameters of `writeMemberEmailAlias`. -/
structure WriteMemberEmailAliasParams where
  workspaceId : JsString
  memberId : JsString
  email : JsString
  source : JsString
  createdByUserId : Option JsString
  allowedPrimaryMemberIds : Option (List JsString) := none
  allowedAliasMemberIds : Option (List JsString) := none

/-- `tx.member.findFirst({ where: { workspaceId, user: { email } } })`, restricted to `test`. -/
def MemberStore.findByEmail (store : MemberStore platform) (workspaceId email : JsString)
    (test : Member → Bool) : Option Member :=
  store.members.rows.find? fun member =>
    member.workspaceId = workspaceId && test member && member.user.email = email

/-- The `update` of the `upsert` below. -/
def MemberEmailAlias.give (row : MemberEmailAlias platform) (memberId source : JsString) :
    MemberEmailAlias platform := { row with memberId, source }

theorem MemberEmailAlias.key_give (memberId source : JsString) (row : MemberEmailAlias platform) :
    (row.give memberId source).key = row.key := rfl

/-- `writeMemberEmailAlias` (line 64), with the alias that it returns. -/
def writeMemberEmailAlias (store : MemberStore platform) (params : WriteMemberEmailAliasParams) :
    Except AppError (Option (MemberEmailAlias platform) × MemberStore platform) := do
  let email ← parseEmail platform params.email
  let member ← store.require params.workspaceId params.memberId "Member not found."
  if platform.normalizeEmail member.user.email = email.1 then return (none, store)
  let primaryMember := store.findByEmail params.workspaceId email.1 fun _ => true
  let allowedPrimaryMemberIds := params.allowedPrimaryMemberIds.getD [params.memberId]
  invariant (primaryMember.all fun primary => allowedPrimaryMemberIds.contains primary.id) 409
    "ALIAS_EMAIL_CONFLICT" "Alias email belongs to another workspace member."
  let existingAlias := store.aliases.find? (params.workspaceId, email)
  let allowedAliasMemberIds := params.allowedAliasMemberIds.getD [params.memberId]
  invariant (existingAlias.all fun row => allowedAliasMemberIds.contains row.memberId) 409
    "ALIAS_EMAIL_CONFLICT" "Alias email is already assigned to another workspace member."
  let row : MemberEmailAlias platform :=
    { workspaceId := params.workspaceId, memberId := params.memberId, email
      source := params.source, createdByUserId := params.createdByUserId }
  let aliases := store.aliases.upsert row (·.give params.memberId params.source)
    (MemberEmailAlias.key_give params.memberId params.source)
  return (aliases.find? row.key, { store with aliases })

/-- `requireUnmanagedMember` (`workspace-support-access.ts:215`). -/
def requireUnmanagedMember (store : MemberStore platform) (workspaceId userId : JsString) :
    Except AppError Unit := do
  invariant ((store.supportOwnerUserId workspaceId).bind orNull ≠ some userId) 403
    "SUPPORT_OWNER_PROTECTED" "Use the owner's account settings to manage this identity."
  invariant (!store.supportGrants.contains (workspaceId, userId)) 403 "SUPPORT_OWNER_REQUIRED"
    "Support access is managed by the workspace owner."

/-- What a request reads besides the tables. `membership` and `lockedMembership` are the outcomes of
`requireWorkspaceMembership`, before the transaction and under its lock. -/
structure MemberContext where
  membership : Except AppError Unit := .ok ()
  lockedMembership : Except AppError Unit := .ok ()
  actor : AppActor
  now : Int

/-- The parameters of `addMemberEmailAlias`. -/
structure AddMemberEmailAliasParams where
  workspaceId : JsString
  memberId : JsString
  email : JsString
  source : Option JsString := none

/-- `addMemberEmailAlias` (line 135). -/
def addMemberEmailAlias (store : MemberStore platform) (context : MemberContext)
    (params : AddMemberEmailAliasParams) :
    Except AppError (MemberEmailAlias platform × MemberStore platform) := do
  context.membership
  context.lockedMembership
  let member ← store.require params.workspaceId params.memberId "Member not found."
  requireUnmanagedMember store params.workspaceId member.user.id
  let (row, store) ← writeMemberEmailAlias store
    { workspaceId := params.workspaceId, memberId := params.memberId, email := params.email
      source := (trimOrNull params.source).getD (lit "MANUAL")
      createdByUserId := context.actor.userId? }
  match row with
  | some row => return (row, store)
  | none => .error ⟨400, "INVALID_INPUT", "Alias email must differ from the member primary email."⟩

/-- `resolveWorkspaceMemberByEmail` (line 165). -/
def resolveWorkspaceMemberByEmail (store : MemberStore platform) (workspaceId email : JsString)
    (includeInactive : Bool) : Except AppError (Option Member) := do
  let email ← parseEmail platform email
  let member := (store.aliases.find? (workspaceId, email)).bind fun row =>
    store.members.find? row.memberId
  match member.filter fun member => includeInactive || member.isActive with
  | some member => return some member
  | none =>
    return store.findByEmail workspaceId email.1 fun member => includeInactive || member.isActive

/-! ## Links that both members have -/

section
variable {α : Type} {link : Link α JsString JsString}

variable (table : LinkTable link) (sourceMemberId targetMemberId : JsString)

/-- `findConflictingSingleKeyRows` (line 200). -/
def findConflictingSingleKeyRows : List JsString :=
  let sourceKeys := ((table.rowsOf sourceMemberId).map link.thing).filter (· ≠ [])
  if sourceKeys = [] then []
  else ((table.rowsOf targetMemberId).filter fun row =>
    sourceKeys.contains (link.thing row)).map link.thing

/-- `deleteDuplicateLinks` (line 276), with the number of rows that it deletes. -/
def deleteDuplicateLinks : LinkTable link × Nat :=
  let sourceKeys := ((table.rowsOf sourceMemberId).map link.thing).filter (· ≠ [])
  if sourceKeys = [] then (table, 0)
  else
    let targetRows := (table.rowsOf targetMemberId).filter fun row =>
      sourceKeys.contains (link.thing row)
    let duplicateKeys := (targetRows.map link.thing).filter (· ≠ [])
    if duplicateKeys = [] then (table, 0)
    else
      let isDuplicate := fun row =>
        link.owner row = sourceMemberId && duplicateKeys.contains (link.thing row)
      (table.filter fun row => !isDuplicate row, (table.rows.filter isDuplicate).length)

end

/-- `findConflictingImpactFootprints` (line 224). -/
def findConflictingImpactFootprints (table : LinkTable ImpactFootprint.link)
    (sourceMemberId targetMemberId : JsString) : List (Int × Int) :=
  let sourceRows := table.rowsOf sourceMemberId
  if sourceRows.isEmpty then []
  else ((table.rowsOf targetMemberId).filter fun row =>
    sourceRows.any fun other =>
      row.periodStart = other.periodStart && row.periodEnd = other.periodEnd).map fun row =>
        (row.periodStart, row.periodEnd)

/-- `assertNoBlockingMergeConflicts` (line 249). -/
def assertNoBlockingMergeConflicts (store : MemberStore platform)
    (sourceMemberId targetMemberId : JsString) : Except AppError Unit :=
  let approvalDecisionConflicts :=
    findConflictingSingleKeyRows store.approvalDecisions sourceMemberId targetMemberId
  let expertiseConflicts :=
    findConflictingSingleKeyRows store.memberExpertise sourceMemberId targetMemberId
  let impactFootprintConflicts :=
    findConflictingImpactFootprints store.impactFootprints sourceMemberId targetMemberId
  let conflicts :=
    (if approvalDecisionConflicts.length > 0 then ["approval decisions"] else []) ++
    (if expertiseConflicts.length > 0 then ["member expertise"] else []) ++
    (if impactFootprintConflicts.length > 0 then ["impact footprints"] else [])
  if conflicts.length > 0 then
    .error ⟨409, "MEMBER_MERGE_CONFLICT",
      "Merge would conflict with existing " ++ ", ".intercalate conflicts ++ " records."⟩
  else .ok ()

/-! ## Pointing the relations at the target -/

/-- `rewired[…] = count`, for a count that is not zero. -/
def record (rewired : List (String × Nat)) (label : String) (count : Nat) : List (String × Nat) :=
  if count > 0 then rewired ++ [(label, count)] else rewired

/-- `updateMany` of the owners in a link table, with the number of rows that it changes. -/
def rewireLinks {α κ : Type} [DecidableEq κ] {link : Link α κ JsString} (table : LinkTable link)
    (sourceMemberId targetMemberId : JsString) : Except AppError (LinkTable link × Nat) :=
  match table.rekey (link.repoint sourceMemberId targetMemberId) with
  | some rewired => .ok (rewired, (table.rowsOf sourceMemberId).length)
  | none => .error uniqueConstraintFailed

/-- The reference, pointed at the target if it names the source. -/
def MemberReference.repoint (sourceMemberId targetMemberId : JsString) (row : MemberReference) :
    MemberReference :=
  if row.memberId = some sourceMemberId then { row with memberId := some targetMemberId } else row

/-- The key of a row in `BrainArticle_variant_recipe_key`, where no column is null. -/
def MemberReference.variantKey (row : MemberReference) : Option (List JsString × JsString) :=
  row.variant.bind fun variant => row.memberId.map fun memberId => (variant, memberId)

/-- `updateMany` of a column, with the number of rows that it changes. -/
def rewireColumn (rows : List MemberReference) (sourceMemberId targetMemberId : JsString) :
    Except AppError (List MemberReference × Nat) :=
  let rewired := rows.map (MemberReference.repoint sourceMemberId targetMemberId)
  if (rewired.filterMap MemberReference.variantKey).Nodup then
    .ok (rewired, (rows.filter fun row => row.memberId = some sourceMemberId).length)
  else .error uniqueConstraintFailed

/-- `rewireMemberField` (line 309), with the number of rows that it changes. -/
def rewireMemberField (store : MemberStore platform) (sourceMemberId targetMemberId : JsString) :
    MemberRelation → Except AppError (MemberStore platform × Nat)
  | .roleAssignment => do
    let (table, count) ← rewireLinks store.roleAssignments sourceMemberId targetMemberId
    return ({ store with roleAssignments := table }, count)
  | .adviceRequestRecipient => do
    let (table, count) ← rewireLinks store.adviceRequestRecipients sourceMemberId targetMemberId
    return ({ store with adviceRequestRecipients := table }, count)
  | .approvalDecision => do
    let (table, count) ← rewireLinks store.approvalDecisions sourceMemberId targetMemberId
    return ({ store with approvalDecisions := table }, count)
  | .memberExpertise => do
    let (table, count) ← rewireLinks store.memberExpertise sourceMemberId targetMemberId
    return ({ store with memberExpertise := table }, count)
  | .impactFootprint => do
    let (table, count) ← rewireLinks store.impactFootprints sourceMemberId targetMemberId
    return ({ store with impactFootprints := table }, count)
  | .column column => do
    let (rows, count) ← rewireColumn (store.references column) sourceMemberId targetMemberId
    return ({ store with references := Function.update store.references column rows }, count)

/-- The `steps` of `rewireMemberRelations` (line 354), with their labels. -/
def rewireSteps : List (MemberRelation × String) :=
  [(.column .communicationExternalUserMemberId, "communicationExternalUser.memberId"),
    (.column .memberInviteRequestRequesterMemberId, "memberInviteRequest.requesterMemberId"),
    (.column .memberInviteRequestDeciderMemberId, "memberInviteRequest.deciderMemberId"),
    (.column .checkInMemberId, "checkIn.memberId"),
    (.column .roleHolderHistoryMemberId, "roleHolderHistory.memberId"),
    (.roleAssignment, "roleAssignment.memberId"),
    (.column .roleOnboardingSessionMemberId, "roleOnboardingSession.memberId"),
    (.column .actionAssigneeMemberId, "action.assigneeMemberId"),
    (.column .tensionAssigneeMemberId, "tension.assigneeMemberId"),
    (.column .tensionRaisedByMemberId, "tension.raisedByMemberId"),
    (.column .proposalOwnerMemberId, "proposal.ownerMemberId"),
    (.column .deliberationEntryTargetMemberId, "deliberationEntry.targetMemberId"),
    (.approvalDecision, "approvalDecision.memberId"),
    (.column .newspaperDeliveryMemberId, "newspaperDelivery.memberId"),
    (.column .brainArticleOwnerMemberId, "brainArticle.ownerMemberId"),
    (.column .brainSourceAuthorMemberId, "brainSource.authorMemberId"),
    (.column .brainDiscussionThreadAuthorMemberId, "brainDiscussionThread.authorMemberId"),
    (.column .brainDiscussionCommentAuthorMemberId, "brainDiscussionComment.authorMemberId"),
    (.column .goalOwnerMemberId, "goal.ownerMemberId"),
    (.column .goalUpdateAuthorMemberId, "goalUpdate.authorMemberId"),
    (.column .adviceProcessAuthorMemberId, "adviceProcess.authorMemberId"),
    (.column .adviceProcessOwnerMemberId, "adviceProcess.ownerMemberId"),
    (.adviceRequestRecipient, "adviceRequestRecipient.memberId"),
    (.impactFootprint, "impactFootprint.memberId"),
    (.memberExpertise, "memberExpertise.memberId"),
    (.column .recognitionRecipientMemberId, "recognition.recipientMemberId"),
    (.column .recognitionAuthorMemberId, "recognition.authorMemberId"),
    (.column .selfServeSupportSessionSupportMemberId, "selfServeSupportSession.supportMemberId"),
    (.column .selfServeSupportSessionTargetMemberId, "selfServeSupportSession.targetMemberId")]

/-- The loop over the steps (line 386). -/
def rewireMemberFields (sourceMemberId targetMemberId : JsString) :
    List (MemberRelation × String) → MemberStore platform × List (String × Nat) →
      Except AppError (MemberStore platform × List (String × Nat))
  | [], state => .ok state
  | (relation, label) :: steps, (store, rewired) => do
    let (store, count) ← rewireMemberField store sourceMemberId targetMemberId relation
    rewireMemberFields sourceMemberId targetMemberId steps (store, record rewired label count)

/-- `rewireMemberRelations` (line 325). -/
def rewireMemberRelations (store : MemberStore platform)
    (sourceMemberId targetMemberId : JsString) :
    Except AppError (MemberStore platform × List (String × Nat)) :=
  let (roleAssignments, roleDuplicates) :=
    deleteDuplicateLinks store.roleAssignments sourceMemberId targetMemberId
  let (adviceRequestRecipients, adviceRecipientDuplicates) :=
    deleteDuplicateLinks store.adviceRequestRecipients sourceMemberId targetMemberId
  let rewired := record [] "roleAssignment.duplicatesDeleted" roleDuplicates
  let rewired :=
    record rewired "adviceRequestRecipient.duplicatesDeleted" adviceRecipientDuplicates
  rewireMemberFields sourceMemberId targetMemberId rewireSteps
    ({ store with roleAssignments, adviceRequestRecipients }, rewired)

/-! ## The merge -/

/-- `isReservedPublicDemoEmail` (`public-demo-identity.ts:3`). -/
def isReservedPublicDemoEmail (platform : EmailPlatform) (email : JsString) : Bool :=
  platform.normalizeEmail email = lit "demo@jnj-demo.corgtex.app"

/-- `requireUnreservedPublicDemoEmail` (`public-demo-identity.ts:7`). -/
def requireUnreservedPublicDemoEmail (platform : EmailPlatform) (email : JsString) :
    Except AppError Unit :=
  invariant (!isReservedPublicDemoEmail platform email) 400 "RESERVED_IDENTITY"
    "The public demo account is reserved for its dedicated workspace."

/-- The parameters of `mergeWorkspaceMembers`. -/
structure MergeWorkspaceMembersParams where
  workspaceId : JsString
  sourceMemberId : JsString
  targetMemberId : JsString
  aliasEmails : Option (List JsString) := none
  reason : Option JsString := none

/-- `MemberMergeResult` (line 36). -/
structure MemberMergeResult where
  sourceMemberId : JsString
  targetMemberId : JsString
  targetMember : Member
  aliasEmails : List JsString
  rewired : List (String × Nat)
deriving DecidableEq, Repr

/-- `mergeAliasEmails` (line 383). -/
def mergeAliasEmails (store : MemberStore platform) (source target : Member)
    (extraAliasEmails : Option (List JsString)) : List JsString :=
  let emailAliases := store.aliases.rows.filter fun row => row.memberId = source.id
  (uniqueNormalizedEmails platform
    (source.user.email :: emailAliases.map (·.email.1) ++ extraAliasEmails.getD [])).filter
      (· ≠ platform.normalizeEmail target.user.email)

/-- The loop over the alias emails of a merge (line 441). -/
def writeMergeAliases (workspaceId sourceMemberId targetMemberId : JsString)
    (createdByUserId : Option JsString) :
    List JsString → MemberStore platform → Except AppError (MemberStore platform)
  | [], store => .ok store
  | email :: emails, store => do
    let (_, store) ← writeMemberEmailAlias store
      { workspaceId, memberId := targetMemberId, email, source := lit "MERGE", createdByUserId
        allowedPrimaryMemberIds := some [sourceMemberId, targetMemberId]
        allowedAliasMemberIds := some [sourceMemberId, targetMemberId] }
    writeMergeAliases workspaceId sourceMemberId targetMemberId createdByUserId emails store

def mergedTarget (source target row : Member) : Member :=
  { row with
    role := strongestRole source.role target.role
    newspaperCadence :=
      if target.newspaperCadence.isNone && source.newspaperCadence.isSome
      then source.newspaperCadence else row.newspaperCadence }

theorem id_mergedTarget (source target row : Member) :
    (mergedTarget source target row).id = row.id := rfl

section
variable (context : MemberContext) (params : MergeWorkspaceMembersParams) (targetId : JsString)
  (row : Member)

def mergedSource : Member :=
  { row with
    isActive := false
    mergedIntoMemberId := some targetId
    mergedAt := some context.now
    mergedByUserId := context.actor.userId?
    mergeReason := trimOrNull params.reason }

theorem id_mergedSource : (mergedSource context params targetId row).id = row.id := rfl

end

/-- `mergeWorkspaceMembers` (line 391). -/
def mergeWorkspaceMembers (store : MemberStore platform) (context : MemberContext)
    (params : MergeWorkspaceMembersParams) :
    Except AppError (MemberMergeResult × MemberStore platform) := do
  context.membership
  invariant (params.sourceMemberId ≠ params.targetMemberId) 400 "INVALID_INPUT"
    "Choose two different members to merge."
  context.lockedMembership
  let source ← store.require params.workspaceId params.sourceMemberId "Source member not found."
  let target ← store.require params.workspaceId params.targetMemberId "Target member not found."
  requireUnreservedPublicDemoEmail platform source.user.email
  requireUnreservedPublicDemoEmail platform target.user.email
  requireUnmanagedMember store params.workspaceId source.user.id
  requireUnmanagedMember store params.workspaceId target.user.id
  invariant (!source.isMerged) 400 "INVALID_STATE" "Source member has already been merged."
  invariant (!target.isMerged && target.isActive) 400 "INVALID_STATE"
    "Target member must be active and unmerged."
  invariant (source.kind = target.kind) 400 "INVALID_INPUT"
    "Source and target member kinds must match."
  assertNoBlockingMergeConflicts store source.id target.id
  let createdByUserId := context.actor.userId?
  let aliasEmails := mergeAliasEmails store source target params.aliasEmails
  let store ← writeMergeAliases params.workspaceId source.id target.id createdByUserId
    aliasEmails store
  let (store, rewired) ← rewireMemberRelations store source.id target.id
  let members := store.members.update target.id (mergedTarget source target)
    (id_mergedTarget source target)
  let targetMember := (members.find? target.id).getD target
  let members := members.update source.id (mergedSource context params target.id)
    (id_mergedSource context params target.id)
  let merges := store.merges ++
    [⟨params.workspaceId, createdByUserId, source.id, target.id, aliasEmails, rewired⟩]
  return (⟨source.id, target.id, targetMember, aliasEmails, rewired⟩,
    { store with members, merges })

/-! ## What a request writes -/

/-- The member that an alias names. -/
def MemberStore.aliasOwner (store : MemberStore platform)
    (key : JsString × NormalizedEmail platform) : Option JsString :=
  (store.aliases.find? key).map (·.memberId)

variable {store : MemberStore platform} {row : MemberEmailAlias platform}

theorem MemberStore.aliasOwner_of_mem
    (h : row ∈ store.aliases.rows) : store.aliasOwner row.key = some row.memberId :=
  Option.map_eq_some_iff.2 ⟨row, KeyedTable.find?_key h, rfl⟩

theorem MemberStore.exists_of_aliasOwner {key : JsString × NormalizedEmail platform}
    {owner : JsString} (h : store.aliasOwner key = some owner) :
    ∃ row ∈ store.aliases.rows, row.key = key ∧ row.memberId = owner := by
  obtain ⟨row, hfound, hmember⟩ := Option.map_eq_some_iff.1 h
  obtain ⟨hmem, hkey⟩ := KeyedTable.find?_eq_some.1 hfound
  exact ⟨row, hmem, hkey, hmember⟩

theorem MemberStore.require_ok {workspaceId memberId : JsString} {message : String}
    {member : Member} (h : store.require workspaceId memberId message = .ok member) :
    store.members.find? memberId = some member ∧ member.workspaceId = workspaceId := by
  unfold require at h
  split at h
  · next found hfound =>
    split at h
    · next hworkspace =>
      cases h
      exact ⟨hfound, hworkspace⟩
    · cases h
  · cases h

theorem aliasOwner_upsert (aliases : KeyedTable (MemberEmailAlias platform) MemberEmailAlias.key)
    (row : MemberEmailAlias platform) (key : JsString × NormalizedEmail platform) :
    ((aliases.upsert row _ (MemberEmailAlias.key_give row.memberId row.source)).find? key).map
        (·.memberId) =
      if key = row.key then some row.memberId else (aliases.find? key).map (·.memberId) := by
  rw [KeyedTable.find?_upsert]
  split
  · cases aliases.find? key with
    | none => rfl
    | some old => rfl
  · rfl

variable {store' : MemberStore platform}

theorem writeMemberEmailAlias_ok {params : WriteMemberEmailAliasParams}
    {row : Option (MemberEmailAlias platform)}
    (h : writeMemberEmailAlias store params = .ok (row, store')) :
    ∃ email member, parseEmail platform params.email = .ok email ∧
      store.members.find? params.memberId = some member ∧
      member.workspaceId = params.workspaceId ∧
      ((platform.normalizeEmail member.user.email = email.1 ∧ store' = store) ∨
        (platform.normalizeEmail member.user.email ≠ email.1 ∧
          (∀ primary ∈ store.findByEmail params.workspaceId email.1 fun _ => true,
            primary.id ∈ params.allowedPrimaryMemberIds.getD [params.memberId]) ∧
          (∀ owner ∈ store.aliasOwner (params.workspaceId, email),
            owner ∈ params.allowedAliasMemberIds.getD [params.memberId]) ∧
          store' = { store with aliases := store'.aliases } ∧
          ∀ key, store'.aliasOwner key =
            if key = (params.workspaceId, email) then some params.memberId
            else store.aliasOwner key)) := by
  unfold writeMemberEmailAlias at h
  obtain ⟨email, hemail, h⟩ := bind_ok.1 h
  obtain ⟨member, hmember, h⟩ := bind_ok.1 h
  obtain ⟨hfound, hworkspace⟩ := MemberStore.require_ok hmember
  refine ⟨email, member, hemail, hfound, hworkspace, ?_⟩
  dsimp only at h
  split at h
  · next hown =>
    cases h
    exact .inl ⟨hown, rfl⟩
  · next hother =>
    obtain ⟨hprimary, h⟩ := invariant_bind_ok.1 h
    obtain ⟨hexisting, h⟩ := invariant_bind_ok.1 h
    cases h
    refine .inr ⟨hother, ?_, ?_, rfl, ?_⟩
    · intro primary hmem
      rw [Option.mem_def.1 hmem] at hprimary
      simpa using hprimary
    · intro owner hmem
      obtain ⟨old, hold, rfl⟩ := Option.map_eq_some_iff.1 (Option.mem_def.1 hmem)
      rw [hold] at hexisting
      simpa using hexisting
    · exact fun key => aliasOwner_upsert store.aliases _ key

/-- What the alias emails of a merge must be, and whose they are afterwards. -/
structure AliasesWritten (workspaceId source target : JsString) (emails : List JsString)
    (store store' : MemberStore platform) : Prop where
  frame : store' = { store with aliases := store'.aliases }
  primaries : ∀ email ∈ emails, ∀ primary ∈ store.findByEmail workspaceId email fun _ => true,
    primary.id = source ∨ primary.id = target
  owners : ∀ email : NormalizedEmail platform, email.1 ∈ emails →
    ∀ owner ∈ store.aliasOwner (workspaceId, email), owner = source ∨ owner = target
  owner_eq : ∀ key, store'.aliasOwner key =
    if key.1 = workspaceId ∧ key.2.1 ∈ emails then some target else store.aliasOwner key

theorem findByEmail_aliases {store store' : MemberStore platform}
    (h : store' = { store with aliases := store'.aliases }) (workspaceId email : JsString)
    (test : Member → Bool) :
    store'.findByEmail workspaceId email test = store.findByEmail workspaceId email test := by
  rw [h]
  rfl

variable {source target : JsString} {emails : List JsString}

theorem writeMergeAliases_ok {workspaceId : JsString}
    {createdByUserId : Option JsString} {targetMember : Member}
    (htarget : store.members.find? target = some targetMember)
    (hemails : ∀ email ∈ emails, platform.normalizeEmail email = email ∧
      email ≠ platform.normalizeEmail targetMember.user.email)
    (h : writeMergeAliases workspaceId source target createdByUserId emails store = .ok store') :
    AliasesWritten workspaceId source target emails store store' := by
  induction emails generalizing store with
  | nil =>
    cases h
    exact ⟨rfl, by simp, by simp, by simp⟩
  | cons email emails ih =>
    unfold writeMergeAliases at h
    obtain ⟨⟨row, store₁⟩, hwrite, h⟩ := bind_ok.1 h
    obtain ⟨parsed, member, hparsed, hmember, hworkspace, heffect⟩ :=
      writeMemberEmailAlias_ok hwrite
    obtain ⟨⟨hnormal, hother⟩, hemails⟩ := forall_mem_cons.1 hemails
    have hparsed : parsed.1 = email := (parseEmail_ok hparsed).trans hnormal
    cases htarget.symm.trans hmember
    rcases heffect with ⟨hown, _⟩ | ⟨_, hprimary, hexisting, hframe, howner⟩
    · exact absurd (hparsed.symm.trans hown.symm) hother
    · have htarget₁ : store₁.members.find? target = some targetMember := by
        rw [hframe]
        exact htarget
      have hrest := ih htarget₁ hemails h
      refine ⟨?_, ?_, ?_, fun key => ?_⟩
      · have hframe' := hrest.frame
        rw [hframe] at hframe'
        exact hframe'
      · intro e he primary hmem
        rcases mem_cons.1 he with rfl | he
        · rw [← hparsed] at hmem
          simpa using hprimary primary hmem
        · rw [← findByEmail_aliases hframe] at hmem
          exact hrest.primaries e he primary hmem
      · intro e he owner hmem
        by_cases hsame : e = parsed
        · rw [hsame] at hmem
          simpa using hexisting owner hmem
        · rcases mem_cons.1 he with hhead | he
          · exact absurd (Subtype.ext (hhead.trans hparsed.symm)) hsame
          · have hkey := howner (workspaceId, e)
            rw [if_neg (fun hpair => hsame (congrArg Prod.snd hpair))] at hkey
            exact hrest.owners e he owner (hkey ▸ hmem)
      · have hkey : key = (workspaceId, parsed) ↔ key.1 = workspaceId ∧ key.2.1 = email := by
          rw [Prod.ext_iff, Subtype.ext_iff, hparsed]
        rw [hrest.owner_eq, howner]
        simp only [hkey, mem_cons]
        by_cases hws : key.1 = workspaceId
        · by_cases hhead : key.2.1 = email
          · simp [hws, hhead]
          · simp [hws, hhead]
        · simp [hws]

/-! ## What a merge rewires -/

section
variable {α : Type} {link : Link α JsString JsString}

theorem deleteDuplicateLinks_ok (table : LinkTable link) (source target : JsString) :
    ∃ keeps : α → Bool,
      (deleteDuplicateLinks table source target).1.rows = (table.filter keeps).rows ∧
      ∀ row ∈ table.rows, keeps row = false →
        link.owner row = source ∧ (table.find? (link.thing row, target)).isSome := by
  have hall : table.rows = (table.filter fun _ => true).rows := (filter_true _).symm
  unfold deleteDuplicateLinks
  dsimp only
  split
  · exact ⟨fun _ => true, hall, by simp⟩
  split
  · exact ⟨fun _ => true, hall, by simp⟩
  · refine ⟨_, rfl, fun row hrow hdrop => ?_⟩
    simp only [Bool.not_eq_false', Bool.and_eq_true, decide_eq_true_eq, contains_iff_mem,
      mem_filter, mem_map, LinkTable.mem_rowsOf] at hdrop
    obtain ⟨howner, ⟨other, ⟨⟨hother, htarget⟩, _⟩, hthing⟩, _⟩ := hdrop
    refine ⟨howner, Option.isSome_iff_exists.2 ⟨other, ?_⟩⟩
    rw [KeyedTable.find?_eq_some, Link.key, hthing, htarget]
    exact ⟨hother, rfl⟩

end

/-- The relations that have been pointed at the target, and what stays as it is. -/
structure Rewired (source target : JsString) (relations : List MemberRelation)
    (store store' : MemberStore platform) : Prop where
  members : store'.members = store.members
  aliases : store'.aliases = store.aliases
  roles : store'.roles = store.roles
  circles : store'.circles = store.circles
  merges : store'.merges = store.merges
  assignments : store'.roleAssignments.rows.map (RoleAssignment.link.repoint source target) =
    store.roleAssignments.rows.map (RoleAssignment.link.repoint source target)
  cleared : ∀ relation ∈ relations, ¬ store'.Refers source relation
  kept : ∀ relation, relation ∉ relations →
    (store'.Refers source relation ↔ store.Refers source relation)

variable {count : Nat}

section
variable {α κ : Type} [DecidableEq κ] {link : Link α κ JsString} {table table' : LinkTable link}

theorem rows_of_rewireLinks (h : rewireLinks table source target = .ok (table', count)) :
    table'.rows = table.rows.map (link.repoint source target) := by
  unfold rewireLinks at h
  split at h
  · next hrekey =>
    cases h
    exact KeyedTable.rows_of_rekey hrekey
  · cases h

/-- No link of the source is left. -/
theorem not_owner_of_rewireLinks (hne : source ≠ target)
    (h : rewireLinks table source target = .ok (table', count)) :
    ¬ ∃ row ∈ table'.rows, link.owner row = source := by
  rintro ⟨row, hrow, howner⟩
  rw [rows_of_rewireLinks h] at hrow
  obtain ⟨old, _, rfl⟩ := mem_map.1 hrow
  exact Link.owner_repoint_ne hne howner

end

/-- No reference to the source is left. -/
theorem not_reference_of_rewireColumn {rows rows' : List MemberReference}
    (hne : source ≠ target) (h : rewireColumn rows source target = .ok (rows', count)) :
    ¬ ∃ row ∈ rows', row.memberId = some source := by
  unfold rewireColumn at h
  dsimp only at h
  split at h
  · cases h
    rintro ⟨row, hrow, hsource⟩
    obtain ⟨old, _, rfl⟩ := mem_map.1 hrow
    unfold MemberReference.repoint at hsource
    split at hsource
    · exact hne (Option.some.inj hsource).symm
    · next hold => exact hold hsource
  · cases h

/-- A step points one relation at the target and leaves the others alone. -/
theorem rewireMemberField_ok {relation : MemberRelation} (hne : source ≠ target)
    (h : rewireMemberField store source target relation = .ok (store', count)) :
    Rewired source target [relation] store store' := by
  cases relation with
  | roleAssignment =>
    obtain ⟨⟨table, count⟩, hrewire, h⟩ := bind_ok.1 h
    cases h
    have hrows := rows_of_rewireLinks hrewire
    refine ⟨rfl, rfl, rfl, rfl, rfl, ?_, ?_, ?_⟩
    · rw [hrows, map_map]
      refine map_congr_left fun row _ => ?_
      exact Link.repoint_of_ne (Link.owner_repoint_ne hne)
    · rintro _ (_ | ⟨_, ⟨⟩⟩)
      exact not_owner_of_rewireLinks hne hrewire
    · intro relation hother
      cases relation with
      | roleAssignment => exact absurd (mem_singleton_self _) hother
      | _ => exact Iff.rfl
  | adviceRequestRecipient | approvalDecision | memberExpertise | impactFootprint =>
    obtain ⟨⟨table, count⟩, hrewire, h⟩ := bind_ok.1 h
    cases h
    refine ⟨rfl, rfl, rfl, rfl, rfl, rfl, ?_, ?_⟩
    · rintro _ (_ | ⟨_, ⟨⟩⟩)
      exact not_owner_of_rewireLinks hne hrewire
    · intro relation hother
      cases relation <;> first | exact absurd (mem_singleton_self _) hother | exact Iff.rfl
  | column column =>
    obtain ⟨⟨rows, count⟩, hrewire, h⟩ := bind_ok.1 h
    cases h
    refine ⟨rfl, rfl, rfl, rfl, rfl, rfl, ?_, ?_⟩
    · rintro _ (_ | ⟨_, ⟨⟩⟩)
      show ¬ ∃ row ∈ Function.update store.references column rows column, _
      rw [Function.update_self]
      exact not_reference_of_rewireColumn hne hrewire
    · intro relation hother
      cases relation with
      | column other =>
        have hcolumn : other ≠ column := fun he => hother (he ▸ mem_singleton_self _)
        show (∃ row ∈ Function.update store.references column rows other, _) ↔ _
        rw [Function.update_of_ne hcolumn]
        rfl
      | _ => exact Iff.rfl

/-- All steps of the loop. A relation that a step has cleared stays clear. -/
theorem rewireMemberFields_ok {steps : List (MemberRelation × String)}
    {rewired rewired' : List (String × Nat)} (hne : source ≠ target)
    (h : rewireMemberFields source target steps (store, rewired) = .ok (store', rewired')) :
    Rewired source target (steps.map Prod.fst) store store' := by
  induction steps generalizing store rewired with
  | nil =>
    cases h
    exact ⟨rfl, rfl, rfl, rfl, rfl, rfl, by simp, fun _ _ => Iff.rfl⟩
  | cons step steps ih =>
    obtain ⟨relation, label⟩ := step
    obtain ⟨⟨store₁, count⟩, hfield, h⟩ := bind_ok.1 h
    have hstep := rewireMemberField_ok hne hfield
    have hrest := ih h
    refine ⟨hrest.members.trans hstep.members, hrest.aliases.trans hstep.aliases,
      hrest.roles.trans hstep.roles, hrest.circles.trans hstep.circles,
      hrest.merges.trans hstep.merges, hrest.assignments.trans hstep.assignments, ?_, ?_⟩
    · intro cleared hmem
      by_cases hlater : cleared ∈ steps.map Prod.fst
      · exact hrest.cleared cleared hlater
      · rcases mem_cons.1 hmem with rfl | hmem
        · exact fun hrefers =>
            hstep.cleared _ (mem_singleton_self _) ((hrest.kept _ hlater).1 hrefers)
        · exact absurd hmem hlater
    · intro kept hmem
      rw [map_cons, mem_cons, not_or] at hmem
      exact (hrest.kept kept hmem.2).trans
        (hstep.kept kept fun hhead => hmem.1 (mem_singleton.1 hhead))

/-! ## What a merge does -/

variable {extra : Option (List JsString)} {email : JsString}

theorem mem_mergeAliasEmails {source target : Member} :
    email ∈ mergeAliasEmails store source target extra ↔
      (email ∈ uniqueNormalizedEmails platform
        (source.user.email :: (store.aliases.rows.filter fun row => row.memberId = source.id).map
          (·.email.1) ++ extra.getD [])) ∧
        email ≠ platform.normalizeEmail target.user.email := by
  simp [mergeAliasEmails]

theorem mem_uniqueNormalizedEmails :
    email ∈ uniqueNormalizedEmails platform emails ↔
      (∃ raw ∈ emails, platform.normalizeEmail raw = email) ∧ email ≠ [] := by
  simp [uniqueNormalizedEmails]

theorem normal_of_mem_mergeAliasEmails {source target : Member}
    (h : email ∈ mergeAliasEmails store source target extra) :
    platform.normalizeEmail email = email ∧ email ≠ platform.normalizeEmail target.user.email := by
  obtain ⟨hmem, hne⟩ := mem_mergeAliasEmails.1 h
  obtain ⟨⟨raw, _, rfl⟩, _⟩ := mem_uniqueNormalizedEmails.1 hmem
  exact ⟨platform.normalizeEmail_idem raw, hne⟩

theorem mem_mergeAliasEmails_of_alias {source target : Member}
    (hrow : row ∈ store.aliases.rows) (howner : row.memberId = source.id)
    (hne : row.email.1 ≠ platform.normalizeEmail target.user.email) :
    row.email.1 ∈ mergeAliasEmails store source target extra := by
  refine mem_mergeAliasEmails.2 ⟨mem_uniqueNormalizedEmails.2 ⟨⟨row.email.1, ?_, ?_⟩, ?_⟩, hne⟩
  · have hmem : row ∈ store.aliases.rows.filter fun row => row.memberId = source.id :=
      mem_filter.2 ⟨hrow, decide_eq_true howner⟩
    exact mem_cons_of_mem _ (mem_append_left _ (mem_map_of_mem hmem))
  · exact row.email.2.2
  · exact row.email.2.1

theorem mem_rewireSteps (relation : MemberRelation) :
    relation ∈ rewireSteps.map Prod.fst ↔ relation ≠ .column .financeConsultantMemberId := by
  cases relation with
  | column column =>
    cases column <;> decide
  | _ => decide

/-- What becomes of the relations of a source and a target. -/
structure RelationsMoved (source target : JsString) (store store' : MemberStore platform) :
    Prop where
  members : store'.members = store.members
  aliases : store'.aliases = store.aliases
  roles : store'.roles = store.roles
  circles : store'.circles = store.circles
  assignments : ∀ roleId, store'.roleAssignments.find? (roleId, target) =
    (store.roleAssignments.find? (roleId, target)).or
      ((store.roleAssignments.find? (roleId, source)).map (RoleAssignment.link.setOwner target))
  refers : ∀ relation, store'.Refers source relation ↔
    relation = .column .financeConsultantMemberId ∧ store.Refers source relation

theorem rewireMemberRelations_ok {rewired : List (String × Nat)} (hne : source ≠ target)
    (h : rewireMemberRelations store source target = .ok (store', rewired)) :
    RelationsMoved source target store store' := by
  -- the duplicates go first, and the loop runs on what is left
  have hrewired : Rewired source target (rewireSteps.map Prod.fst)
      { store with
        roleAssignments := (deleteDuplicateLinks store.roleAssignments source target).1
        adviceRequestRecipients :=
          (deleteDuplicateLinks store.adviceRequestRecipients source target).1 }
      store' := rewireMemberFields_ok hne h
  obtain ⟨keeps, hkept, hkeeps⟩ := deleteDuplicateLinks_ok store.roleAssignments source target
  have hclear : ¬ store'.Refers source .roleAssignment :=
    hrewired.cleared _ ((mem_rewireSteps _).2 nofun)
  have hrows : store'.roleAssignments.rows = (store.roleAssignments.filter keeps).rows.map
      (RoleAssignment.link.repoint source target) := by
    rw [← hkept, ← hrewired.assignments]
    refine ((map_congr_left fun row hrow => ?_).trans (map_id' _)).symm
    exact Link.repoint_of_ne fun howner => hclear ⟨row, hrow, howner⟩
  refine ⟨hrewired.members, hrewired.aliases, hrewired.roles, hrewired.circles,
    fun roleId => LinkTable.find?_moved hne hkeeps hrows, fun relation => ?_⟩
  by_cases hrelation : relation = .column .financeConsultantMemberId
  · subst hrelation
    have hkept := hrewired.kept (.column .financeConsultantMemberId)
      fun hmem => (mem_rewireSteps _).1 hmem rfl
    exact hkept.trans (iff_and_self.2 fun _ => rfl)
  · have hcleared := hrewired.cleared relation ((mem_rewireSteps _).2 hrelation)
    exact ⟨fun hrefers => absurd hrefers hcleared, fun hboth => absurd hboth.1 hrelation⟩

/-- A merge that succeeds: what it has checked, and the store that it leaves. -/
structure Merged (store : MemberStore platform) (context : MemberContext)
    (params : MergeWorkspaceMembersParams) (source target : Member)
    (store' : MemberStore platform) : Prop where
  ne : source.id ≠ target.id
  found_source : store.members.find? source.id = some source
  found_target : store.members.find? target.id = some target
  id_source : source.id = params.sourceMemberId
  id_target : target.id = params.targetMemberId
  workspace_source : source.workspaceId = params.workspaceId
  workspace_target : target.workspaceId = params.workspaceId
  unmerged_source : source.isMerged = false
  unmerged_target : target.isMerged = false
  active_target : target.isActive = true
  primaries : ∀ email ∈ mergeAliasEmails store source target params.aliasEmails,
    ∀ primary ∈ store.findByEmail params.workspaceId email fun _ => true,
      primary.id = source.id ∨ primary.id = target.id
  owners : ∀ email : NormalizedEmail platform,
    email.1 ∈ mergeAliasEmails store source target params.aliasEmails →
      ∀ owner ∈ store.aliasOwner (params.workspaceId, email), owner = source.id ∨ owner = target.id
  owner_eq : ∀ key, store'.aliasOwner key = if key.1 = params.workspaceId ∧
    key.2.1 ∈ mergeAliasEmails store source target params.aliasEmails then some target.id
    else store.aliasOwner key
  assignments : ∀ roleId, store'.roleAssignments.find? (roleId, target.id) =
    (store.roleAssignments.find? (roleId, target.id)).or
      ((store.roleAssignments.find? (roleId, source.id)).map
        (RoleAssignment.link.setOwner target.id))
  refers : ∀ relation, store'.Refers source.id relation ↔
    relation = .column .financeConsultantMemberId ∧ store.Refers source.id relation
  roles : store'.roles = store.roles
  circles : store'.circles = store.circles
  members : ∀ id, store'.members.find? id =
    if id = source.id then some (mergedSource context params target.id source)
    else if id = target.id then some (mergedTarget source target target)
    else store.members.find? id

variable {params : MergeWorkspaceMembersParams} {context : MemberContext}

theorem find?_mergedMembers {members : KeyedTable Member Member.id} {source target : Member}
    (hne : source.id ≠ target.id)
    (hsource : members.find? source.id = some source)
    (htarget : members.find? target.id = some target) (id : JsString) :
    ((members.update target.id _ (id_mergedTarget source target)).update source.id _
        (id_mergedSource context params target.id)).find? id =
      if id = source.id then some (mergedSource context params target.id source)
      else if id = target.id then some (mergedTarget source target target)
      else members.find? id := by
  rw [KeyedTable.find?_update, KeyedTable.find?_update, KeyedTable.find?_update, if_neg hne,
    hsource, htarget]
  rfl

theorem mergeWorkspaceMembers_ok
    {result : MemberMergeResult}
    (h : mergeWorkspaceMembers store context params = .ok (result, store')) :
    ∃ source target, Merged store context params source target store' := by
  unfold mergeWorkspaceMembers at h
  obtain ⟨_, _, h⟩ := bind_ok.1 h
  obtain ⟨hids, h⟩ := invariant_bind_ok.1 h
  obtain ⟨_, _, h⟩ := bind_ok.1 h
  obtain ⟨source, hsource, h⟩ := bind_ok.1 h
  obtain ⟨target, htarget, h⟩ := bind_ok.1 h
  obtain ⟨_, _, h⟩ := bind_ok.1 h
  obtain ⟨_, _, h⟩ := bind_ok.1 h
  obtain ⟨_, _, h⟩ := bind_ok.1 h
  obtain ⟨_, _, h⟩ := bind_ok.1 h
  obtain ⟨hunmerged, h⟩ := invariant_bind_ok.1 h
  obtain ⟨hactive, h⟩ := invariant_bind_ok.1 h
  obtain ⟨_, h⟩ := invariant_bind_ok.1 h
  obtain ⟨_, _, h⟩ := bind_ok.1 h
  obtain ⟨store₁, haliases, h⟩ := bind_ok.1 h
  obtain ⟨⟨store₂, rewired⟩, hrewire, h⟩ := bind_ok.1 h
  cases h
  obtain ⟨hsource, hsourceWorkspace⟩ := MemberStore.require_ok hsource
  obtain ⟨htarget, htargetWorkspace⟩ := MemberStore.require_ok htarget
  have hsourceId : source.id = params.sourceMemberId := (KeyedTable.find?_eq_some.1 hsource).2
  have htargetId : target.id = params.targetMemberId := (KeyedTable.find?_eq_some.1 htarget).2
  have hne : source.id ≠ target.id := by
    rw [hsourceId, htargetId]
    exact of_decide_eq_true hids
  rw [← hsourceId] at hsource
  rw [← htargetId] at htarget
  rw [Bool.and_eq_true] at hactive
  have hwritten := writeMergeAliases_ok htarget (fun _ => normal_of_mem_mergeAliasEmails) haliases
  have hframe := hwritten.frame
  have hmoved := rewireMemberRelations_ok hne hrewire
  refine ⟨source, target, hne, hsource, htarget, hsourceId, htargetId, hsourceWorkspace,
    htargetWorkspace, by simpa using hunmerged, by simpa using hactive.1, hactive.2,
    hwritten.primaries, hwritten.owners, ?_, ?_, ?_, ?_, ?_, ?_⟩
  · intro key
    rw [← hwritten.owner_eq, MemberStore.aliasOwner, MemberStore.aliasOwner, hmoved.aliases]
  · rw [hframe] at hmoved
    exact hmoved.assignments
  · rw [hframe] at hmoved
    exact hmoved.refers
  · exact hmoved.roles.trans (by rw [hframe])
  · exact hmoved.circles.trans (by rw [hframe])
  · intro id
    have hmembers : store₂.members = store.members := by rw [hmoved.members, hframe]
    rw [← hmembers] at hsource htarget ⊢
    exact find?_mergedMembers hne hsource htarget id

/-! ## An example -/

/-- A platform for addresses that are in lower case already. -/
def lowerCasePlatform : EmailPlatform := ⟨id, JsString.trim_trim⟩

/-- A member of the workspace `w`. -/
def exampleMember (id : String) : Member where
  id := lit id
  workspaceId := lit "w"
  user := { id := lit id, email := lit id ++ lit "@corp", displayName := none }
  role := .contributor
  kind := .HUMAN
  isActive := true
  mergedIntoMemberId := none
  mergedAt := none
  mergedByUserId := none
  mergeReason := none
  newspaperCadence := none

/-- Members, with assignments to a role `r`. -/
def exampleMembers (members : KeyedTable Member Member.id)
    (assignments : LinkTable RoleAssignment.link) : MemberStore lowerCasePlatform where
  members
  aliases := .empty
  roleAssignments := assignments
  adviceRequestRecipients := .empty
  approvalDecisions := .empty
  memberExpertise := .empty
  impactFootprints := .empty
  references _ := []
  roles := ⟨[⟨lit "r", lit "c", none⟩], List.nodup_singleton _⟩
  circles := ⟨[⟨lit "c", lit "w", none, lit "Circle", none, none, lit "GETTING_STARTED", none, none,
    none⟩], List.nodup_singleton _⟩
  supportOwnerUserId _ := none
  supportGrants := []
  merges := []

/-- An administrator, at the time 100. -/
def exampleMergeContext : MemberContext where
  actor := .user (lit "admin") (lit "admin@corp") none
  now := 100

end Corgtex.Domain
