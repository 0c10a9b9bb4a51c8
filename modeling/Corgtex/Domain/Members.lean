import Corgtex.Domain.Access
import Corgtex.Domain.Circles
import Corgtex.Library.LinkTable

/-!
# Members and what refers to them

The rows that `member-merge.ts` reads and writes (`schema.prisma`): the
members of all workspaces, their email aliases, the tables with a unique key that a member is part
of, and the columns of other tables that name a member. Every table keeps its unique key.
-/

namespace Corgtex.Domain

open JsString

/-! ## Email addresses -/

/-- What the platform supplies: `toLowerCase`, which adds no white space at the ends and leaves
nothing to lower. -/
structure EmailPlatform where
  toLowerCase : JsString → JsString
  idempotent : ∀ s : JsString, toLowerCase (toLowerCase s.trim).trim = toLowerCase s.trim

section
variable (platform : EmailPlatform)

/-- `normalizeEmail` (`member-merge.ts:44`). -/
def EmailPlatform.normalizeEmail (email : JsString) : JsString :=
  platform.toLowerCase email.trim

@[simp] theorem EmailPlatform.normalizeEmail_idem (email : JsString) :
    platform.normalizeEmail (platform.normalizeEmail email) = platform.normalizeEmail email :=
  platform.idempotent email

/-- A normalized email address. -/
abbrev NormalizedEmail :=
  {email : JsString // email ≠ [] ∧ platform.normalizeEmail email = email}

/-- The address that a request names. -/
def parseEmail (email : JsString) : Except AppError (NormalizedEmail platform) :=
  if h : platform.normalizeEmail email = [] then
    .error ⟨400, "INVALID_INPUT", "Email is required."⟩
  else .ok ⟨platform.normalizeEmail email, h, platform.normalizeEmail_idem email⟩

end

theorem parseEmail_ok {platform : EmailPlatform} {email : JsString}
    {parsed : NormalizedEmail platform} (h : parseEmail platform email = .ok parsed) :
    parsed.1 = platform.normalizeEmail email := by
  unfold parseEmail at h
  split at h
  · cases h
  · cases h
    rfl

/-! ## Members -/

/-- `MemberKind` (`schema.prisma`). -/
inductive MemberKind
  | HUMAN | SYSTEM
deriving DecidableEq, Repr

/-- `NewspaperCadence` (`schema.prisma`). -/
inductive NewspaperCadence
  | DAILY | WEEKLY | OFF
deriving DecidableEq, Repr

/-- The user that a member includes. -/
structure User where
  id : JsString
  email : JsString
  displayName : Option JsString
deriving DecidableEq, Repr

/-- A row of `Member` with its user. -/
structure Member where
  id : JsString
  workspaceId : JsString
  user : User
  role : MemberRole
  kind : MemberKind
  isActive : Bool
  mergedIntoMemberId : Option JsString
  mergedAt : Option Int
  mergedByUserId : Option JsString
  mergeReason : Option JsString
  newspaperCadence : Option NewspaperCadence
deriving DecidableEq, Repr

/-- `Boolean(member.mergedIntoMemberId)`. -/
def Member.isMerged (member : Member) : Bool := (member.mergedIntoMemberId.bind orNull).isSome

/-- A row of `MemberEmailAlias`. -/
structure MemberEmailAlias (platform : EmailPlatform) where
  workspaceId : JsString
  memberId : JsString
  email : NormalizedEmail platform
  source : JsString
  createdByUserId : Option JsString
deriving DecidableEq

/-- `@@unique([workspaceId, email])`. -/
def MemberEmailAlias.key {platform : EmailPlatform} (row : MemberEmailAlias platform) :
    JsString × NormalizedEmail platform := (row.workspaceId, row.email)

/-! ## Links with a unique key -/

/-- A row of `RoleAssignment`. -/
structure RoleAssignment where
  roleId : JsString
  memberId : JsString
  expiresAt : Option Int
deriving DecidableEq, Repr

/-- `@@unique([roleId, memberId])`. -/
@[simps] def RoleAssignment.link : Link RoleAssignment JsString JsString where
  thing := roleId
  owner := memberId
  setOwner memberId row := { row with memberId }
  thing_setOwner _ _ := rfl
  owner_setOwner _ _ := rfl

/-- `isRoleAssignmentActive` (`role-assignment-activity.ts:12`), on a date of the database. -/
def isRoleAssignmentActive (assignment : RoleAssignment) (now : Int) : Bool :=
  match assignment.expiresAt with
  | none => true
  | some expiresAt => expiresAt > now

/-- A row of `AdviceRequestRecipient`. -/
structure AdviceRequestRecipient where
  requestId : JsString
  memberId : JsString
deriving DecidableEq, Repr

/-- `@@unique([requestId, memberId])`. -/
@[simps] def AdviceRequestRecipient.link : Link AdviceRequestRecipient JsString JsString where
  thing := requestId
  owner := memberId
  setOwner memberId row := { row with memberId }
  thing_setOwner _ _ := rfl
  owner_setOwner _ _ := rfl

/-- A row of `ApprovalDecision`. -/
structure ApprovalDecision where
  flowId : JsString
  memberId : JsString
deriving DecidableEq, Repr

/-- `@@unique([flowId, memberId])`. -/
@[simps] def ApprovalDecision.link : Link ApprovalDecision JsString JsString where
  thing := flowId
  owner := memberId
  setOwner memberId row := { row with memberId }
  thing_setOwner _ _ := rfl
  owner_setOwner _ _ := rfl

/-- A row of `MemberExpertise`. -/
structure MemberExpertise where
  memberId : JsString
  expertiseTagId : JsString
deriving DecidableEq, Repr

/-- `@@unique([memberId, expertiseTagId])`. -/
@[simps] def MemberExpertise.link : Link MemberExpertise JsString JsString where
  thing := expertiseTagId
  owner := memberId
  setOwner memberId row := { row with memberId }
  thing_setOwner _ _ := rfl
  owner_setOwner _ _ := rfl

/-- A row of `ImpactFootprint`. -/
structure ImpactFootprint where
  workspaceId : JsString
  memberId : JsString
  periodStart : Int
  periodEnd : Int
deriving DecidableEq, Repr

/-- `@@unique([workspaceId, memberId, periodStart, periodEnd])`. -/
@[simps] def ImpactFootprint.link : Link ImpactFootprint (JsString × Int × Int) JsString where
  thing row := (row.workspaceId, row.periodStart, row.periodEnd)
  owner := memberId
  setOwner memberId row := { row with memberId }
  thing_setOwner _ _ := rfl
  owner_setOwner _ _ := rfl

/-! ## Columns that name a member -/

/-- The columns that name a member and are part of no unique key that every row has. -/
inductive MemberColumn
  | communicationExternalUserMemberId | memberInviteRequestRequesterMemberId
  | memberInviteRequestDeciderMemberId | checkInMemberId | roleHolderHistoryMemberId
  | roleOnboardingSessionMemberId | actionAssigneeMemberId | tensionAssigneeMemberId
  | tensionRaisedByMemberId | proposalOwnerMemberId | deliberationEntryTargetMemberId
  | newspaperDeliveryMemberId | brainArticleOwnerMemberId | brainSourceAuthorMemberId
  | brainDiscussionThreadAuthorMemberId | brainDiscussionCommentAuthorMemberId | goalOwnerMemberId
  | goalUpdateAuthorMemberId | adviceProcessAuthorMemberId | adviceProcessOwnerMemberId
  | recognitionRecipientMemberId | recognitionAuthorMemberId
  | selfServeSupportSessionSupportMemberId | selfServeSupportSessionTargetMemberId
  | financeConsultantMemberId
deriving DecidableEq, Repr

/-- A row under such a column. `variant` holds the other columns of
`BrainArticle_variant_recipe_key` where none of them is null. -/
structure MemberReference where
  id : JsString
  memberId : Option JsString
  variant : Option (List JsString) := none
deriving DecidableEq, Repr

/-- A relation to a member: a table with a unique key, or a column. -/
inductive MemberRelation
  | roleAssignment | adviceRequestRecipient | approvalDecision | memberExpertise | impactFootprint
  | column (column : MemberColumn)
deriving DecidableEq, Repr

/-! ## The tables -/

/-- A row of `Role`. -/
structure Role where
  id : JsString
  circleId : JsString
  archivedAt : Option Int
deriving DecidableEq, Repr

/-- The payload that the audit-log row and the event `member.merged` share. -/
structure MemberMerged where
  workspaceId : JsString
  actorUserId : Option JsString
  sourceMemberId : JsString
  targetMemberId : JsString
  aliasEmails : List JsString
  rewired : List (String × Nat)
deriving DecidableEq, Repr

/-- The tables that a merge of members reads and writes. -/
structure MemberStore (platform : EmailPlatform) where
  members : KeyedTable Member Member.id
  aliases : KeyedTable (MemberEmailAlias platform) MemberEmailAlias.key
  roleAssignments : LinkTable RoleAssignment.link
  adviceRequestRecipients : LinkTable AdviceRequestRecipient.link
  approvalDecisions : LinkTable ApprovalDecision.link
  memberExpertise : LinkTable MemberExpertise.link
  impactFootprints : LinkTable ImpactFootprint.link
  references : MemberColumn → List MemberReference
  roles : KeyedTable Role Role.id
  circles : CircleTable
  supportOwnerUserId : JsString → Option JsString
  supportGrants : List (JsString × JsString)
  merges : List MemberMerged

namespace MemberStore

variable {platform : EmailPlatform} (store : MemberStore platform)

/-- A row of the relation refers to the member. -/
def Refers (memberId : JsString) : MemberRelation → Prop
  | .roleAssignment => ∃ row ∈ store.roleAssignments.rows, row.memberId = memberId
  | .adviceRequestRecipient => ∃ row ∈ store.adviceRequestRecipients.rows, row.memberId = memberId
  | .approvalDecision => ∃ row ∈ store.approvalDecisions.rows, row.memberId = memberId
  | .memberExpertise => ∃ row ∈ store.memberExpertise.rows, row.memberId = memberId
  | .impactFootprint => ∃ row ∈ store.impactFootprints.rows, row.memberId = memberId
  | .column column => ∃ row ∈ store.references column, row.memberId = some memberId

/-- The role exists, and neither it nor its circle is archived. -/
def roleIsOpen (roleId : JsString) : Bool :=
  (store.roles.find? roleId).any fun role =>
    role.archivedAt.isNone &&
      (store.circles.findUnique role.circleId).any fun circle => circle.archivedAt.isNone

/-- The member has an assignment to the role that has not expired. -/
def isAssigned (now : Int) (memberId roleId : JsString) : Bool :=
  (store.roleAssignments.find? (roleId, memberId)).any (isRoleAssignmentActive · now)

def holdsRole (now : Int) (memberId roleId : JsString) : Bool :=
  store.roleIsOpen roleId && store.isAssigned now memberId roleId

def holdsCircle (now : Int) (memberId circleId : JsString) : Bool :=
  store.roles.rows.any fun role =>
    role.circleId = circleId && store.holdsRole now memberId role.id

end MemberStore

end Corgtex.Domain
