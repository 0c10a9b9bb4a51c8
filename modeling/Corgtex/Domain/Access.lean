import Corgtex.Domain.Errors
import Corgtex.Library.JsString

/-!
# Who may edit a work item

`collaborative-permissions.ts`, `draft-permissions.ts` and `privacy.ts`: the
pure rules that decide on an actor, its membership and a record. A membership is the one that
`requireWorkspaceMembership` has returned, so none for an agent.
-/

namespace Corgtex.Domain

/-- `MemberRole` (`schema.prisma`). -/
inductive MemberRole
  | contributor
  | facilitator
  | financeSteward
  | admin
deriving DecidableEq, Repr

/-- `MembershipSummary` (`shared/src/types.ts`). -/
structure MembershipSummary where
  id : JsString
  workspaceId : JsString
  userId : JsString
  role : MemberRole
  isActive : Bool
deriving DecidableEq, Repr

/-- The fields of an `AppActor` (`shared/src/types.ts`) that the rules and the version
history read. -/
inductive AppActor
  | user (id email : JsString) (displayName : Option JsString)
  | agent (authProvider label : JsString)
deriving DecidableEq, Repr

/-- `actor.kind === "user" ? actor.user.id : null`. -/
def AppActor.userId? : AppActor → Option JsString
  | .user id _ _ => some id
  | .agent _ _ => none

section
variable (actor : AppActor) (membership : Option MembershipSummary)

/-- `isActiveWorkspaceCollaborator` (line 19). -/
def isActiveWorkspaceCollaborator : Bool :=
  actor.userId?.isNone || membership.any (·.isActive)

/-- `canEditPrivateDraft` (line 23). -/
def canEditPrivateDraft (authorUserId : Option JsString) : Bool :=
  match actor, membership with
  | .user userId _ _, some membership =>
    membership.isActive && membership.userId = userId &&
      (membership.role = .admin || authorUserId.bind JsString.orNull = some userId)
  | _, _ => false

/-- `requirePrivateDraftEditor` (line 33). -/
def requirePrivateDraftEditor (authorUserId : Option JsString) : Except AppError Unit :=
  invariant (canEditPrivateDraft actor membership authorUserId) 403 "FORBIDDEN"
    "Only the draft creator or a current workspace administrator can manage this draft."

variable (archivedAt : Option Int) (isPrivate : Bool)

/-- `canEditCollaborativeWorkItem` (line 42). -/
def canEditCollaborativeWorkItem : Bool :=
  archivedAt.isNone && !isPrivate && isActiveWorkspaceCollaborator actor membership

/-- `requireCollaborativeWorkItemEditor` (line 50). -/
def requireCollaborativeWorkItemEditor : Except AppError Unit :=
  invariant (canEditCollaborativeWorkItem actor membership archivedAt isPrivate) 403 "FORBIDDEN"
    "Any active workspace member can edit public open work items."

end

/-- `DraftManageableRecord` (`draft-permissions.ts:8`). -/
structure DraftManageableRecord where
  workspaceId : JsString
  authorUserId : Option JsString := none
  requesterUserId : Option JsString := none
  ownerMemberId : Option JsString := none
  archivedAt : Option Int := none

section
variable (actor : AppActor) (membership : Option MembershipSummary)

/-- `canManageDraftRecord` (`draft-permissions.ts:16`). -/
def canManageDraftRecord (record : DraftManageableRecord) : Bool :=
  match actor, membership with
  | .user userId _ _, some membership =>
    membership.isActive && membership.workspaceId = record.workspaceId &&
      membership.userId = userId &&
      (membership.role = .admin || record.authorUserId.bind JsString.orNull = some userId ||
        record.requesterUserId.bind JsString.orNull = some userId ||
        record.ownerMemberId.bind JsString.orNull = some membership.id)
  | _, _ => false

/-- `requireDraftManager` (`draft-permissions.ts:31`), with the membership that it reads. -/
def requireDraftManager (workspaceId : JsString) (record : DraftManageableRecord) :
    Except AppError Unit := do
  invariant (record.workspaceId = workspaceId) 404 "NOT_FOUND" "Record not found."
  invariant record.archivedAt.isNone 400 "INVALID_STATE"
    "Archived records cannot be managed as drafts."
  invariant (canManageDraftRecord actor membership record) 403 "FORBIDDEN"
    "Only the draft owner or a current workspace administrator can manage this draft."

/-- The rows that `privacyFilter` (`privacy.ts:9`) lets through, as a test on a row's fields. -/
def privacyFilter (isPrivate isDraft : Bool) (authorUserId : Option JsString) : Bool :=
  match actor with
  | .agent _ _ => !isPrivate
  | .user userId _ _ =>
    !isPrivate || (isDraft && (membership.any (·.role = .admin) || authorUserId = some userId))

end

end Corgtex.Domain
