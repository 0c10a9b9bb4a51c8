import Corgtex.Domain.ActionMarks
import Corgtex.Library.Json
import Corgtex.Library.JsDate

/-!
# Sources of actions

A request to create an action can name its source (`actions.ts`). The first one
to succeed claims the source for the action that it creates or is matched to, and the later ones
find the claim. For some types of source the claim holds a hash of the content of the request. The
parts of `createAction` around the claim are modelled here, one function for each statement that
reads or writes.
-/

namespace Corgtex.Domain

open JsString

/-! ## Requests -/

/-- `DuplicateGuardResolution` (`duplicate-guard.ts:16`). -/
inductive DuplicateGuardResolution
  | use_existing
  | update_existing
  | create_new
deriving DecidableEq

/-- What `createAction` reads of the `DuplicateGuardOptions` (`duplicate-guard.ts:18`). -/
structure DuplicateGuardOptions where
  resolution : Option DuplicateGuardResolution := none
  targetEntityId : Option JsString := none
  /-- Whether `onExact` is `"use_existing"` and not `"confirm"`. -/
  onExact : Option Bool := none

/-- `params.source`. -/
structure ActionSource where
  type : JsString
  id : JsString
  groupId : Option JsString := none
deriving DecidableEq

/-- The source as it is stored. -/
def ActionSource.trim (source : ActionSource) : ActionSource where
  type := source.type.trim
  id := source.id.trim
  groupId := trimOrNull source.groupId

/-- A `createAction` request with a source. -/
structure SourcedActionParams extends CreateActionParams where
  authorMemberId : Option JsString := none
  source : ActionSource
  /-- Without value it is `undefined`. -/
  sourcePayload : Option (Json JsString) := none
  duplicateGuard : Option DuplicateGuardOptions := none

/-- The types of request whose content is hashed (line 786). -/
def requestSourceTypes : List JsString :=
  [lit "WEB_REQUEST", lit "API_REQUEST", lit "GPT_REQUEST", lit "MCP_REQUEST", lit "AGENT_TOOL"]

/-- `value ?? null` and the like, on a text. -/
def textOrNull : Option JsString → Json JsString
  | some value => .string value
  | none => .null

namespace SourcedActionParams

variable (params : SourcedActionParams)

/-- The checks of the source, and of the date that is written into the content (line 776). -/
def requireSource : Except AppError Unit := do
  let source := params.source.trim
  invariant (0 < source.type.length && source.type.length ≤ 64 && 0 < source.id.length &&
    source.id.length ≤ 191) 400 "INVALID_INPUT" "Action source identity is invalid."
  invariant (source.groupId.all fun groupId => groupId.length ≤ 191) 400 "INVALID_INPUT"
    "Action source group is invalid."
  invariant (source.type ≠ lit "MEETING_INSIGHT" || match params.sourcePayload with
      | none | some .null => false
      | _ => true) 400 "INVALID_INPUT"
    "Meeting insight Action source needs its original insight input."
  invariant (params.dueAt.all fun ms => (JsDate.timeClip ms).isSome) 500 "RangeError"
    "Invalid time value"

/-- The content of a request by the web and the like (line 787). -/
def requestContent : Json JsString :=
  let resolution := params.duplicateGuard.bind (·.resolution)
  let targets := resolution = some .use_existing || resolution = some .update_existing
  .object [
    (lit "title", .string params.title.trim), (lit "bodyMd", textOrNull (trimOrNull params.bodyMd)),
    (lit "circleId", textOrNull (params.circleId.bind orNull)),
    (lit "assigneeMemberId", textOrNull (params.assigneeMemberId.bind orNull)),
    (lit "authorMemberId", textOrNull (params.authorMemberId.bind orNull)),
    (lit "dueAt", textOrNull ((params.dueAt.bind JsDate.timeClip).map JsDate.toISOString)),
    (lit "proposalId", textOrNull (params.proposalId.bind orNull)),
    (lit "priority", .number (JsNumber.decimalInt (params.priority.getD 0))),
    (lit "isPrivate", .bool (params.isPrivate.getD true)),
    (lit "sourcePayload", params.sourcePayload.getD .null),
    (lit "duplicateResolution", textOrNull (resolution.map fun
      | .use_existing => lit "use_existing"
      | .update_existing => lit "update_existing"
      | .create_new => lit "create_new")),
    (lit "duplicateOnExact", textOrNull ((params.duplicateGuard.bind (·.onExact)).map
      fun use => if use then lit "use_existing" else lit "confirm")),
    (lit "duplicateTargetId",
      if targets then textOrNull (trimOrNull (params.duplicateGuard.bind (·.targetEntityId)))
      else .null)]

/-- The content that is hashed, for the types of source with a hash: the input of a meeting insight,
and what is created by a request. -/
def hashedContent : Option JsString :=
  let type := params.source.trim.type
  if type = lit "MEETING_INSIGHT" then
    some (Json.stringify id (params.sourcePayload.getD .null))
  else if requestSourceTypes.contains type then some (Json.stringify id params.requestContent)
  else none

end SourcedActionParams

/-- `createHash("sha256").update(text).digest("hex")`. -/
structure Sha256 where
  hex : JsString → JsString
  injective : ∀ a b : Json JsString, hex (Json.stringify id a) = hex (Json.stringify id b) →
    Json.stringify id a = Json.stringify id b
  ne_nil : ∀ text, hex text ≠ []

/-! ## Claims -/

/-- A row of `ActionCreationSource`. -/
structure ActionCreationSource where
  workspaceId : JsString
  sourceType : JsString
  sourceId : JsString
  actionId : JsString
  sourceGroupId : Option JsString
  payloadHash : Option JsString
deriving DecidableEq

/-- `workspaceId_sourceType_sourceId`. -/
abbrev ActionSourceKey := JsString × JsString × JsString

def ActionCreationSource.key (source : ActionCreationSource) : ActionSourceKey :=
  (source.workspaceId, source.sourceType, source.sourceId)

abbrev ActionSourceTable := KeyedTable ActionCreationSource ActionCreationSource.key

/-- The key of the claim of a request. -/
def SourcedActionParams.key (params : SourcedActionParams) : ActionSourceKey :=
  (params.workspaceId, params.source.trim.type, params.source.trim.id)

/-- The claim that a request stores. -/
def SourcedActionParams.claim (params : SourcedActionParams) (sha256 : Sha256)
    (actionId : JsString) : ActionCreationSource where
  workspaceId := params.workspaceId
  sourceType := params.source.trim.type
  sourceId := params.source.trim.id
  actionId
  sourceGroupId := params.source.trim.groupId
  payloadHash := params.hashedContent.map sha256.hex

def ActionCreationSource.moveTo (actionId : JsString) (source : ActionCreationSource) :
    ActionCreationSource := { source with actionId }

theorem key_moveTo {actionId : JsString} (source : ActionCreationSource) :
    (source.moveTo actionId).key = source.key := rfl

/-- The resolution of a duplicate moves its claims to the canonical action
(`action-duplicates.ts:151`). -/
def repointSources (sources : ActionSourceTable) (params : ResolveActionDuplicateParams) :
    ActionSourceTable :=
  sources.updateMany
    (fun source => source.workspaceId = params.workspaceId && source.actionId = params.duplicateId)
    (ActionCreationSource.moveTo params.canonicalId) key_moveTo

/-- The answer to a request for another content than the one of the claim. -/
def idempotencyConflict : AppError :=
  ⟨409, "IDEMPOTENCY_CONFLICT",
    "This Action idempotency key was already used with different content."⟩

/-- The check of a claim (line 956). -/
def checkPayload (sha256 : Sha256) (params : SourcedActionParams) (claimed : ActionCreationSource) :
    Except AppError Unit :=
  let payloadHash := (params.hashedContent.map sha256.hex).bind orNull
  let claimedHash := claimed.payloadHash.bind orNull
  invariant (payloadHash.isNone || claimedHash.isNone || claimedHash = payloadHash)
    idempotencyConflict.status idempotencyConflict.code idempotencyConflict.message

section
variable (store : ActionStore) (context : WorkItemContext)

/-- The action of a claim, as the request sees it (line 959). -/
def claimedAction (workspaceId : JsString)
    (claimed : ActionCreationSource) : Except AppError Action := do
  let missing := ⟨404, "NOT_FOUND", "Action source is no longer available."⟩
  let existing ← findAction store workspaceId claimed.actionId missing
  invariant (privacyFilter context.actor context.membership existing.isPrivate
    (existing.status = .draft) (some existing.authorUserId)) missing.status missing.code
    missing.message
  return existing

/-- `readAction` (line 476), past the joined rows; it reads outside of the transaction. -/
def readAction (workspaceId actionId : JsString) : Except AppError JsString := do
  let missing := ⟨404, "NOT_FOUND", "Action not found."⟩
  let action ← findAction store workspaceId actionId missing
  invariant (privacyFilter context.actor context.membership action.isPrivate
    (action.status = .draft) (some action.authorUserId) && action.archivedAt.isNone &&
    context.readable action.id) missing.status missing.code missing.message
  return action.id

end

/-- What the duplicate guard has decided on a request that is not refused. -/
inductive ActionDecision
  | create
  | useExisting (targetId : JsString)
  | updateExisting (targetId : JsString)

/-- The action of a request without claim (line 979). -/
def fulfilAction (store : ActionStore) (context : WorkItemContext) (params : SourcedActionParams) :
    ActionDecision → Except AppError (ActionStore × JsString)
  | .create => do
    let store ← createAction store context params.toCreateActionParams
    return (store, context.uuid)
  | .useExisting targetId => do
    let actionId ← readAction store context params.workspaceId targetId
    return (store, actionId)
  | .updateExisting targetId => do
    let store ← applyActionDuplicateUpdate store context params.toCreateActionParams targetId
    return (store, targetId)

/-- The answer with an action that is not marked (line 973). -/
def answerClaimed (context : WorkItemContext) (existing : Action) : Except AppError JsString := do
  invariant existing.archivedAt.isNone 409 "ACTION_SOURCE_UNAVAILABLE"
    "Action source was archived. Review it before retrying."
  invariant (context.readable existing.id) 404 "NOT_FOUND" "Action source is no longer readable."
  return existing.id

/-- The answer with the canonical action of a marked one (line 964). -/
def answerCanonical (store : ActionStore) (context : WorkItemContext)
    (workspaceId canonicalId : JsString) : Except AppError JsString := do
  let missing := ⟨409, "ACTION_SOURCE_UNAVAILABLE", "Canonical Action is no longer available."⟩
  let canonical ← findAction store workspaceId canonicalId missing
  invariant (canonical.archivedAt.isNone && canonical.duplicateOfActionId.isNone &&
    privacyFilter context.actor context.membership canonical.isPrivate
      (canonical.status = .draft) (some canonical.authorUserId)) missing.status missing.code
    missing.message
  invariant (context.readable canonical.id) 404 "NOT_FOUND" "Action source is no longer readable."
  return canonical.id

end Corgtex.Domain
