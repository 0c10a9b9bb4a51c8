import Corgtex.Domain.WorkItems

/-!
# Actions

The functions of `actions.ts`, `action-completion.ts` and `action-duplicates.ts`
that write actions, their part of `archive.ts`, and the links from a proposal to its related actions
(`proposals.ts`). Each is a transaction past the membership check, and reads its action after it has
got hold of the lock. The one exception are the related actions of a proposal, which are read first
(`readRelated`) and linked later (`linkRelated`).
-/

namespace Corgtex.Domain

open Except

/-! ## The rows -/

/-- `ActionStatus` (`schema.prisma`). -/
inductive ActionStatus
  | draft
  | opened
  | inProgress
  | completed
deriving DecidableEq, Repr

/-- The content of an action, which its version history follows. -/
structure ActionContent where
  title : JsString
  bodyMd : Option JsString
  priority : Int
  circleId : Option JsString
  assigneeMemberId : Option JsString
  dueAt : Option Int
  proposalId : Option JsString
deriving DecidableEq, Repr

/-- A row of `Action`, without when it was written. -/
structure Action extends ActionContent where
  id : JsString
  workspaceId : JsString
  authorUserId : JsString
  status : ActionStatus
  version : Nat
  completedVia : Option JsString
  duplicateOfActionId : Option JsString
  isPrivate : Bool
  publishedAt : Option Int
  archivedAt : Option Int
  archivedByUserId : Option JsString
  archiveReason : Option JsString
deriving DecidableEq, Repr

/-- What `pickJsonSnapshot` keeps of an action in its version history: an update keeps the content,
the resolution of a duplicate the body alone. -/
inductive ActionSnapshot
  | fields (content : ActionContent) (id workspaceId : JsString) (status : ActionStatus)
      (version : Nat)
  | bodyMd (bodyMd : Option JsString)
deriving DecidableEq, Repr

/-- `pickJsonSnapshot(action, […])`. -/
def actionSnapshot (action : Action) : ActionSnapshot :=
  .fields action.toActionContent action.id action.workspaceId action.status action.version

/-- The actions of all workspaces. -/
abbrev ActionStore := ItemStore ActionSnapshot Action.id

def findAction (store : ActionStore) (workspaceId actionId : JsString)
    (missing : AppError := ⟨404, "NOT_FOUND", "Action not found."⟩) : Except AppError Action :=
  store.findItem Action.workspaceId workspaceId actionId missing

/-- `requireDraftManager` on an action. -/
def requireActionDraftManager (context : WorkItemContext) (workspaceId : JsString)
    (action : Action) : Except AppError Unit :=
  requireDraftManager context.actor context.membership workspaceId {
    workspaceId := action.workspaceId
    authorUserId := some action.authorUserId
    archivedAt := action.archivedAt }

/-! ## Updates -/

/-- The `data` of an `update` on an action: a field without value is not assigned. -/
structure ActionData where
  title : Option JsString := none
  bodyMd : Option (Option JsString) := none
  priority : Option Int := none
  circleId : Option (Option JsString) := none
  assigneeMemberId : Option (Option JsString) := none
  dueAt : Option (Option Int) := none
  proposalId : Option (Option JsString) := none
  status : Option ActionStatus := none
  isPrivate : Option Bool := none
  publishedAt : Option (Option Int) := none
  completedVia : Option (Option JsString) := none
  version : Option Nat := none

namespace ActionData

section
variable (data : ActionData)

/-- The content after the update. -/
def applyContent (content : ActionContent) : ActionContent where
  title := data.title.getD content.title
  bodyMd := data.bodyMd.getD content.bodyMd
  priority := data.priority.getD content.priority
  circleId := data.circleId.getD content.circleId
  assigneeMemberId := data.assigneeMemberId.getD content.assigneeMemberId
  dueAt := data.dueAt.getD content.dueAt
  proposalId := data.proposalId.getD content.proposalId

/-- The row after the update. -/
def apply (action : Action) : Action :=
  { action with
    toActionContent := data.applyContent action.toActionContent
    status := data.status.getD action.status
    isPrivate := data.isPrivate.getD action.isPrivate
    publishedAt := data.publishedAt.getD action.publishedAt
    completedVia := data.completedVia.getD action.completedVia
    version := data.version.getD action.version }

/-- `changedDataFields(action, data)` on the content. -/
def changedContentFields (content : ActionContent) : List String :=
  changedField "title" content.title data.title ++
  changedField "bodyMd" content.bodyMd data.bodyMd ++
  changedField "priority" content.priority data.priority ++
  changedField "circleId" content.circleId data.circleId ++
  changedField "assigneeMemberId" content.assigneeMemberId data.assigneeMemberId ++
  changedField "dueAt" content.dueAt data.dueAt ++
  changedField "proposalId" content.proposalId data.proposalId

/-- `changedDataFields(action, data)`. -/
def changedFields (action : Action) : List String :=
  data.changedContentFields action.toActionContent ++
  changedField "status" action.status data.status ++
  changedField "isPrivate" action.isPrivate data.isPrivate ++
  changedField "publishedAt" action.publishedAt data.publishedAt ++
  changedField "completedVia" action.completedVia data.completedVia ++
  changedField "version" action.version data.version

end

/-- The fields that a change of status writes (line 1068). -/
def ofStatus (status : Option ActionStatus) (completedVia : Option JsString) (action : Action)
    (now : Int) : ActionData :=
  match status with
  | none => {}
  | some .draft =>
    { status, isPrivate := some true, publishedAt := some none, completedVia := some none }
  | some .completed =>
    { status, isPrivate := some false, publishedAt := some (some (action.publishedAt.getD now))
      completedVia := some (JsString.trimOrNull completedVia) }
  | some _ =>
    { status, isPrivate := some false, publishedAt := some (some (action.publishedAt.getD now))
      completedVia := some none }

end ActionData

/-- The fields of an `updateAction` request: `none` is `undefined`, an inner `none` is `null`. -/
structure UpdateActionParams where
  workspaceId : JsString
  actionId : JsString
  title : Option JsString := none
  bodyMd : Option (Option JsString) := none
  status : Option ActionStatus := none
  priority : Option Int := none
  circleId : Option (Option JsString) := none
  assigneeMemberId : Option (Option JsString) := none
  dueAt : Option (Option Int) := none
  proposalId : Option (Option JsString) := none
  isPrivate : Option Bool := none
  completedVia : Option (Option JsString) := none
  expectedVersion : Option ℚ := none

/-- `resolveAssigneeMemberId` (line 167). -/
def resolveAssigneeMemberId (context : WorkItemContext) (assigneeMemberId : Option JsString) :
    Except AppError (Option JsString) :=
  resolveMemberId context.activeHuman
    "Action assignee must be an active human member of this workspace." assigneeMemberId

/-- The answer to a request that would open an action that nobody is responsible for. -/
def assigneeRequired : String := "Assign an active human member before opening this Action."

/-- The check that an action that is not a draft keeps an assignee (line 1102). -/
def requireActionAssignee (context : WorkItemContext) (action : Action)
    (requested : Option (Option JsString)) : Except AppError Unit := do
  let assigneeMemberId ←
    match requested with
    | some assigneeMemberId => pure assigneeMemberId
    | none => resolveAssigneeMemberId context action.assigneeMemberId
  invariant (assigneeMemberId.bind JsString.orNull).isSome 400 "INVALID_INPUT" assigneeRequired

namespace UpdateActionParams

/-- `editsContent` (line 1044). -/
def editsContent (params : UpdateActionParams) : Bool :=
  params.title.isSome || params.bodyMd.isSome || params.priority.isSome ||
    params.circleId.isSome || params.assigneeMemberId.isSome || params.dueAt.isSome ||
    params.proposalId.isSome

/-- The `data` that `updateActionRecord` builds (line 1059). A requested `isPrivate` is
assigned last, over the one that goes with a requested status. -/
def data (params : UpdateActionParams) (context : WorkItemContext) (action : Action) :
    Except AppError ActionData := do
  invariant (params.title.all fun title => title.trim.length > 0) 400 "INVALID_INPUT"
    "Action title is required."
  checkIf (params.status.any fun status => status = .draft || action.status = .draft)
    (requireActionDraftManager context params.workspaceId action)
  invariant (params.status ≠ some .completed ||
      (JsString.trimOrNull params.completedVia.join).isSome) 400 "INVALID_INPUT"
    "Completion note is required."
  let assigneeMemberId ← params.assigneeMemberId.mapM (resolveAssigneeMemberId context)
  checkIf (params.status.getD action.status ≠ .draft &&
      (params.status.isSome || params.assigneeMemberId.isSome))
    (requireActionAssignee context action assigneeMemberId)
  let proposalId ← params.proposalId.mapM (resolveWorkspaceProposalLink context)
  let byStatus := ActionData.ofStatus params.status params.completedVia.join action context.now
  return { byStatus with
    title := params.title.map JsString.trim
    bodyMd := params.bodyMd.map JsString.trimOrNull
    priority := params.priority
    circleId := params.circleId.map fun id => id.bind JsString.orNull
    assigneeMemberId
    dueAt := params.dueAt
    proposalId
    isPrivate := params.isPrivate.or byStatus.isPrivate }

end UpdateActionParams

section
variable (context : WorkItemContext) (workspaceId : JsString) (action : Action)

/-- The permission to edit the content of an action (line 1050). -/
def requireEditableActionContent : Except AppError Unit :=
  if action.status = .draft then
    requireActionDraftManager context workspaceId action
  else do
    invariant (action.status = .opened || action.status = .inProgress) 400 "INVALID_STATE"
      "Only draft, open, or in-progress actions can be edited."
    requireCollaborativeWorkItemEditor context.actor context.membership action.archivedAt
      action.isPrivate

/-- The permission to change the privacy of an action (line 1058). -/
def requireActionPrivacyChange : Except AppError Unit := do
  invariant (action.status = .draft) 400 "INVALID_STATE" "Only draft actions can change privacy."
  requireActionDraftManager context workspaceId action

end

/-- `updateActionRecord` (line 1006). The update asks for the version and status that have
just been read, so it finds its row. -/
def updateActionRecord (store : ActionStore) (context : WorkItemContext)
    (params : UpdateActionParams) : Except AppError ActionStore := do
  let action ← findAction store params.workspaceId params.actionId
  invariant (context.readable action.id) 404 "NOT_FOUND" "Action not found."
  invariant (action.archivedAt.isNone &&
      (action.duplicateOfActionId.bind JsString.orNull).isNone) 400 "INVALID_STATE"
    "Archived or resolved duplicate actions cannot be edited."
  checkIf params.editsContent (requireEditableActionContent context params.workspaceId action)
  checkIf params.isPrivate.isSome (requireActionPrivacyChange context params.workspaceId action)
  let data ← params.data context action
  invariant (!params.editsContent || params.expectedVersion.isSome) 400 "INVALID_INPUT"
    "expectedVersion must be a positive integer."
  checkExpectedVersion params.expectedVersion action.version recordChanged
  let (versions, version) ← recordContentVersion store.versions context.actor {
    workspaceId := params.workspaceId
    entityId := action.id
    currentVersion := action.version
    changedFields := data.changedContentFields action.toActionContent
    previousState := actionSnapshot action }
  let data := { data with version }
  if data.changedFields action = [] then
    return store
  return { store with versions }.updateRow params.actionId data.apply fun _ => rfl

/-! ## Creating actions -/

/-- The fields of a `createAction` request: every `null` is treated as `undefined`. -/
structure CreateActionParams where
  workspaceId : JsString
  title : JsString
  bodyMd : Option JsString := none
  circleId : Option JsString := none
  assigneeMemberId : Option JsString := none
  dueAt : Option Int := none
  proposalId : Option JsString := none
  priority : Option Int := none
  isPrivate : Option Bool := none

/-- `createAction` (line 763) where neither the source of the request nor the duplicate
guard has led to an existing action. -/
def createAction (store : ActionStore) (context : WorkItemContext) (params : CreateActionParams) :
    Except AppError ActionStore := do
  let isPrivate := params.isPrivate.getD true
  requireCreationInputRoots context.actor isPrivate
  invariant (params.title.trim.length > 0) 400 "INVALID_INPUT" "Action title is required."
  let assigneeMemberId ← resolveAssigneeMemberId context params.assigneeMemberId
  invariant (isPrivate || assigneeMemberId.isSome) 400 "INVALID_INPUT" assigneeRequired
  let proposalId ← resolveWorkspaceProposalLink context params.proposalId
  let items ← createRow store.items {
    id := context.uuid
    workspaceId := params.workspaceId
    authorUserId := context.actor.userId?.getD context.authorUserId
    title := params.title.trim
    bodyMd := JsString.trimOrNull params.bodyMd
    circleId := params.circleId.bind JsString.orNull
    assigneeMemberId
    dueAt := params.dueAt
    proposalId
    priority := params.priority.getD 0
    status := if isPrivate then .draft else .opened
    version := 1
    completedVia := none
    duplicateOfActionId := none
    isPrivate
    publishedAt := if isPrivate then none else some context.now
    archivedAt := none
    archivedByUserId := none
    archiveReason := none }
  return { store with items }

/-- What a `createAction` request updates of the duplicate that it found (line 743). -/
def CreateActionParams.duplicateUpdate (params : CreateActionParams) (context : WorkItemContext)
    (existing : Action) : UpdateActionParams :=
  let mergedBody := duplicateGuardMergeText context.normalizeDuplicateGuardText existing.bodyMd
    params.bodyMd
  { workspaceId := params.workspaceId
    actionId := existing.id
    bodyMd := if mergedBody ≠ existing.bodyMd then some mergedBody else none
    circleId := orElse existing.circleId params.circleId
    assigneeMemberId := orElse existing.assigneeMemberId params.assigneeMemberId
    dueAt := if existing.dueAt.isNone then params.dueAt.map some else none
    proposalId := orElse existing.proposalId params.proposalId
    priority := params.priority.filter fun priority => existing.priority ≠ priority
    expectedVersion := some existing.version }
where
  /-- `if (!existing.f && params.f) updateParams.f = params.f`, on a key. -/
  orElse (existing requested : Option JsString) : Option (Option JsString) :=
    if (existing.bind JsString.orNull).isNone then
      (requested.bind JsString.orNull).map some
    else none

/-- `applyActionDuplicateUpdate` (line 728). -/
def applyActionDuplicateUpdate (store : ActionStore) (context : WorkItemContext)
    (params : CreateActionParams) (actionId : JsString) : Except AppError ActionStore := do
  let missing := ⟨404, "NOT_FOUND", "Action duplicate target is no longer available."⟩
  let existing ← findAction store params.workspaceId actionId missing
  invariant (existing.archivedAt.isNone && existing.duplicateOfActionId.isNone &&
      privacyFilter context.actor context.membership existing.isPrivate
        (existing.status = .draft) (some existing.authorUserId) && context.readable existing.id)
    missing.status missing.code missing.message
  let updateParams := params.duplicateUpdate context existing
  if updateParams.editsContent then
    updateActionRecord store context updateParams
  else
    return store

/-! ## Publishing, drafts, completion and the archive -/

section
variable (store : ActionStore) (context : WorkItemContext)

/-- `publishAction` (line 1317). -/
def publishAction (workspaceId actionId : JsString) : Except AppError ActionStore := do
  let action ← findAction store workspaceId actionId
  invariant (action.archivedAt.isNone &&
      (action.duplicateOfActionId.bind JsString.orNull).isNone) 400 "INVALID_STATE"
    "Archived or resolved duplicate actions cannot be opened."
  requireActionDraftManager context workspaceId action
  if action.status ≠ .draft then do
    invariant (!action.isPrivate) 400 "INVALID_STATE" "Only draft actions can be opened."
    return store
  else do
    let assigneeMemberId ← resolveAssigneeMemberId context action.assigneeMemberId
    invariant assigneeMemberId.isSome 400 "INVALID_INPUT" assigneeRequired
    return store.updateRow actionId (fun action => { action with
      status := .opened
      isPrivate := false
      publishedAt := some context.now }) fun _ => rfl

/-- `returnActionToDraft` (line 1382). -/
def returnActionToDraft (workspaceId actionId : JsString) : Except AppError ActionStore := do
  let action ← findAction store workspaceId actionId
  invariant (action.archivedAt.isNone &&
      (action.duplicateOfActionId.bind JsString.orNull).isNone) 400 "INVALID_STATE"
    "Archived or resolved duplicate actions cannot be returned to draft."
  invariant (action.status ≠ .draft) 400 "INVALID_STATE"
    "Only open, in-progress, or completed actions can be returned to draft."
  requireActionDraftManager context workspaceId action
  return store.updateRow actionId (fun action => { action with
    status := .draft
    isPrivate := true
    publishedAt := none
    completedVia := none }) fun _ => rfl

/-- `completeActionWithNativeRequest` (`action-completion.ts:234`). -/
def completeAction (workspaceId actionId completedVia : JsString) :
    Except AppError ActionStore := do
  invariant (actionId.trim.length > 0 && completedVia.trim.length > 0) 400 "INVALID_INPUT"
    "An action and completion note are required."
  let missing := ⟨409, "INVALID_STATE", "Only an active public assigned Action can be completed."⟩
  let action ← findAction store workspaceId actionId missing
  invariant (!action.isPrivate && action.archivedAt.isNone && action.duplicateOfActionId.isNone &&
      (action.status = .opened || action.status = .inProgress))
    missing.status missing.code missing.message
  invariant ((action.assigneeMemberId.bind JsString.orNull).any context.activeHuman) 400
    "INVALID_INPUT" "An active human assignee is required."
  return store.updateRow actionId (fun action => { action with
    status := .completed
    completedVia := some completedVia.trim }) fun _ => rfl

/-- `archiveWorkspaceArtifact` on an action (`archive.ts:748`); `deleteAction` is one. -/
def archiveAction (workspaceId actionId : JsString) (reason : Option JsString)
    (expectedVersion : Option ℚ) : Except AppError ActionStore := do
  invariant (expectedVersion.all isArchiveVersion) 400 "INVALID_INPUT"
    "Expected version is invalid."
  let record ← findAction store workspaceId actionId
  invariant (expectedVersion.all fun (expected : ℚ) => expected = record.version) 409
    "VERSION_CONFLICT" recordReload
  if record.archivedAt.isSome then
    return store
  return store.updateRow record.id (fun action => { action with
    archivedAt := some context.now
    archivedByUserId := context.actor.userId?
    archiveReason := JsString.trimOrNull reason }) fun _ => rfl

end

/-- `restoreWorkspaceArtifact` on an action (`archive.ts:929`). -/
def restoreAction (store : ActionStore) (workspaceId actionId : JsString)
    (expectedVersion : Option ℚ) : Except AppError ActionStore := do
  invariant (expectedVersion.all isArchiveVersion) 400 "INVALID_INPUT"
    "Expected version is invalid."
  let record ← findAction store workspaceId actionId
  invariant record.archivedAt.isSome 400 "INVALID_STATE" "Action is not archived."
  invariant (expectedVersion.all fun (expected : ℚ) => expected = record.version) 409
    "VERSION_CONFLICT" recordReload
  return store.updateRow record.id (fun action => { action with
    archivedAt := none
    archivedByUserId := none
    archiveReason := none }) fun _ => rfl

/-! ## The related actions of a proposal -/

/-- `validateRelatedActions` (`proposals.ts:327`) on one action; it takes no lock. -/
def validateRelatedAction (store : ActionStore) (context : WorkItemContext)
    (workspaceId actionId : JsString) : Except AppError ActionStore := do
  let missing := ⟨404, "NOT_FOUND", "Related action not found."⟩
  let action ← findAction store workspaceId actionId missing
  invariant (action.archivedAt.isNone && privacyFilter context.actor context.membership
      action.isPrivate (action.status = .draft) (some action.authorUserId) &&
      context.readable action.id) missing.status missing.code missing.message
  invariant (action.proposalId.bind JsString.orNull).isNone 400 "INVALID_STATE"
    "Related action is already linked to a proposal."
  return { store with reads := store.reads ++ [action] }

/-- The part of `linkProposalSourcesAndActions` (`proposals.ts:620`) on one related action, as it
was read. -/
def linkRelatedAction (context : WorkItemContext) (workspaceId proposalId : JsString)
    (store : ActionStore) (related : Action) : Except AppError ActionStore := do
  let (versions, newVersion) ← recordWorkItemVersion store.versions context.actor {
    workspaceId
    entityId := related.id
    currentVersion := related.version
    changedFields := ["proposalId"]
    previousState := actionSnapshot related }
  invariant ((store.items.find? related.id).any fun action =>
      action.workspaceId = workspaceId && action.archivedAt.isNone && action.proposalId.isNone &&
        action.version = related.version && privacyFilter context.actor context.membership
          action.isPrivate (action.status = .draft) (some action.authorUserId)) 409
    "VERSION_CONFLICT"
    "A related action changed before this update could be applied. Please refresh and try again."
  return { store with versions }.updateRow related.id (fun action => { action with
    proposalId := some proposalId
    version := newVersion }) fun _ => rfl

/-! ## Duplicates -/

/-- `mergedBody` (`action-duplicates.ts:26`). -/
def mergedBody (normalizeDuplicateGuardText : JsString → JsString) (canonical duplicate : Action) :
    Option JsString :=
  let current := (canonical.bodyMd.map JsString.trim).getD []
  let incoming := (duplicate.bodyMd.map JsString.trim).getD []
  if incoming = [] || includes (normalizeDuplicateGuardText current)
      (normalizeDuplicateGuardText incoming) then
    current.orNull
  else
    some (JsString.join (.lit "\n\n---\n\n") ([current,
      .lit "Additional context from duplicate Action [" ++ duplicate.title ++
        .lit "](/workspaces/" ++ duplicate.workspaceId ++ .lit "/actions/" ++ duplicate.id ++
        .lit "):", incoming].filter fun part => part ≠ []))

/-- What `inspectPair` finds out about two actions in their texts and in other tables: whether their
texts are equal or come from one meeting, and whether nothing refers to the duplicate. -/
structure DuplicatePair where
  sameText : Bool
  unreferenced : Bool

/-- `eligible` (`action-duplicates.ts:89`). -/
def DuplicatePair.eligible (pair : DuplicatePair) (store : ActionStore)
    (canonical duplicate : Action) : Bool :=
  canonical.archivedAt.isNone && duplicate.archivedAt.isNone &&
    (canonical.duplicateOfActionId.bind JsString.orNull).isNone &&
    (duplicate.duplicateOfActionId.bind JsString.orNull).isNone &&
    !(store.items.rows.any fun action => action.workspaceId = duplicate.workspaceId &&
      action.duplicateOfActionId = some duplicate.id) &&
    !(canonical.isPrivate && canonical.authorUserId ≠ duplicate.authorUserId) &&
    pair.sameText &&
    canonical.status = duplicate.status && canonical.isPrivate = duplicate.isPrivate &&
    canonical.assigneeMemberId = duplicate.assigneeMemberId &&
    canonical.circleId = duplicate.circleId && canonical.dueAt = duplicate.dueAt &&
    canonical.proposalId = duplicate.proposalId && canonical.priority = duplicate.priority &&
    canonical.completedVia = duplicate.completedVia && pair.unreferenced

/-- The fields of a `resolveActionDuplicate` request. -/
structure ResolveActionDuplicateParams where
  workspaceId : JsString
  canonicalId : JsString
  duplicateId : JsString
  confirmDuplicateId : JsString
  expectedCanonicalVersion : ℚ
  expectedDuplicateVersion : ℚ

/-- `resolveActionDuplicate` (`action-duplicates.ts:103`). -/
def resolveActionDuplicate (store : ActionStore) (context : WorkItemContext)
    (params : ResolveActionDuplicateParams) (pair : DuplicatePair) :
    Except AppError ActionStore := do
  invariant (context.actor.userId?.isSome && context.membership.any (·.role = .admin)) 403
    "FORBIDDEN" "A workspace admin must review Action duplicates."
  invariant (params.confirmDuplicateId = params.duplicateId) 400 "INVALID_INPUT"
    "Confirm the exact Action to archive."
  invariant (params.canonicalId ≠ params.duplicateId) 400 "INVALID_INPUT"
    "Choose two different Actions."
  let missing := ⟨404, "NOT_FOUND", "Both Actions must exist in this workspace."⟩
  let canonical ← findAction store params.workspaceId params.canonicalId missing
  let duplicate ← findAction store params.workspaceId params.duplicateId missing
  invariant (params.expectedCanonicalVersion = canonical.version &&
      params.expectedDuplicateVersion = duplicate.version) 409 "VERSION_CONFLICT"
    "An Action changed. Review both records again."
  invariant (pair.eligible store canonical duplicate) 409 "ACTION_DUPLICATE_NOT_SAFE"
    "The Actions cannot be merged."
  let mergedBodyMd := mergedBody context.normalizeDuplicateGuardText canonical duplicate
  let (versions, version) ← recordContentVersion store.versions context.actor {
    workspaceId := params.workspaceId
    entityId := params.canonicalId
    currentVersion := canonical.version
    changedFields := changedField "bodyMd" canonical.bodyMd (some mergedBodyMd)
    previousState := .bodyMd canonical.bodyMd }
  let store := { store with versions }.updateRow params.canonicalId (fun action => { action with
    bodyMd := mergedBodyMd
    version := version.getD action.version }) fun _ => rfl
  let store := store.updateRow params.duplicateId (fun action => { action with
    duplicateOfActionId := some params.canonicalId }) fun _ => rfl
  archiveAction store context params.workspaceId params.duplicateId
    (some (.lit "Duplicate of Action " ++ params.canonicalId ++
      .lit "; reviewed by a workspace admin.")) none

/-! ## Runs -/

/-- One transaction on the actions of some workspace. -/
inductive ActionTransaction
  | create (params : CreateActionParams)
  | updateDuplicate (params : CreateActionParams) (actionId : JsString)
  | update (params : UpdateActionParams)
  | publish (workspaceId actionId : JsString)
  | returnToDraft (workspaceId actionId : JsString)
  | complete (workspaceId actionId completedVia : JsString)
  | archive (workspaceId actionId : JsString) (reason : Option JsString)
      (expectedVersion : Option ℚ)
  | restore (workspaceId actionId : JsString) (expectedVersion : Option ℚ)
  | readRelated (workspaceId actionId : JsString)
  | linkRelated (workspaceId proposalId : JsString) (indices : List Nat)
  | resolveDuplicate (params : ResolveActionDuplicateParams) (pair : DuplicatePair)

/-- What a transaction does to the rows, or the error that it is rolled back with. The proposal
request links some of the actions that have been read as related. -/
def ActionTransaction.perform (context : WorkItemContext) (store : ActionStore) :
    ActionTransaction → Except AppError ActionStore
  | .create params => createAction store context params
  | .updateDuplicate params actionId => applyActionDuplicateUpdate store context params actionId
  | .update params => updateActionRecord store context params
  | .publish workspaceId actionId => publishAction store context workspaceId actionId
  | .returnToDraft workspaceId actionId => returnActionToDraft store context workspaceId actionId
  | .complete workspaceId actionId completedVia =>
    completeAction store context workspaceId actionId completedVia
  | .archive workspaceId actionId reason expectedVersion =>
    archiveAction store context workspaceId actionId reason expectedVersion
  | .restore workspaceId actionId expectedVersion =>
    restoreAction store workspaceId actionId expectedVersion
  | .readRelated workspaceId actionId => validateRelatedAction store context workspaceId actionId
  | .linkRelated workspaceId proposalId indices =>
    (indices.filterMap fun index => store.reads[index]?).foldlM
      (linkRelatedAction context workspaceId proposalId) store
  | .resolveDuplicate params pair => resolveActionDuplicate store context params pair

/-- One step of a run: a transaction, and what its request reads. -/
structure ActionStep where
  context : WorkItemContext
  transaction : ActionTransaction

/-- The rows after a step: a transaction that fails is rolled back. -/
def ActionStep.apply (store : ActionStore) (step : ActionStep) : ActionStore :=
  match step.transaction.perform step.context store with
  | .ok store' => store'
  | .error _ => store

/-- The rows after steps that run one at a time. -/
def runActionSteps (steps : List ActionStep) : ActionStore := steps.foldl ActionStep.apply .empty

/-- The step succeeds on the rows. -/
def ActionStep.Succeeds (store : ActionStore) (step : ActionStep) : Prop :=
  (step.transaction.perform step.context store).isOk

theorem ActionStep.apply_cases (store : ActionStore) (step : ActionStep) :
    (step.apply store = store ∧ ¬ step.Succeeds store) ∨
      (step.transaction.perform step.context store = .ok (step.apply store) ∧
        step.Succeeds store) := by
  unfold ActionStep.apply ActionStep.Succeeds
  cases step.transaction.perform step.context store with
  | ok store' => exact .inr ⟨rfl, rfl⟩
  | error e => exact .inl ⟨rfl, nofun⟩

/-! ## What a transaction does -/

namespace ActionData

/-- Without changed fields an update leaves the row as it is. -/
theorem apply_eq_self {data : ActionData} {action : Action}
    (h : data.changedFields action = []) : data.apply action = action := by
  simp only [changedFields, changedContentFields, List.append_eq_nil_iff, changedField_eq_nil] at h
  obtain ⟨⟨⟨⟨⟨hcontent, hstatus⟩, hprivate⟩, hpublished⟩, hvia⟩, hversion⟩ := h
  obtain ⟨⟨⟨⟨⟨⟨htitle, hbody⟩, hpriority⟩, hcircle⟩, hassignee⟩, hdue⟩, hproposal⟩ := hcontent
  simp only [apply, applyContent, htitle, hbody, hpriority, hcircle, hassignee, hdue, hproposal,
    hstatus, hprivate, hpublished, hvia, hversion]

theorem applyContent_eq_self {data : ActionData} {content : ActionContent}
    (h : data.changedContentFields content = []) : data.applyContent content = content := by
  simp only [changedContentFields, List.append_eq_nil_iff, changedField_eq_nil] at h
  obtain ⟨⟨⟨⟨⟨⟨htitle, hbody⟩, hpriority⟩, hcircle⟩, hassignee⟩, hdue⟩, hproposal⟩ := h
  simp only [applyContent, htitle, hbody, hpriority, hcircle, hassignee, hdue, hproposal]

end ActionData

/-- A request that opens an action and asks for it to be private. -/
def UpdateActionParams.hides (params : UpdateActionParams) : Bool :=
  params.status.any (· ≠ .draft) && params.isPrivate = some true

/-- A transaction that is such a request. -/
def ActionTransaction.hides : ActionTransaction → Bool
  | .update params => params.hides
  | _ => false

def ActionTransaction.expects : ActionTransaction → List (JsString × ℚ)
  | .update params => (params.expectedVersion.map fun e => (params.actionId, e)).toList
  | .archive _ actionId _ expectedVersion => (expectedVersion.map fun e => (actionId, e)).toList
  | .restore _ actionId expectedVersion => (expectedVersion.map fun e => (actionId, e)).toList
  | .resolveDuplicate params _ =>
    [(params.canonicalId, params.expectedCanonicalVersion),
      (params.duplicateId, params.expectedDuplicateVersion)]
  | _ => []

/-- What can happen to an action without a change of its content. -/
inductive ActionChange (now : Int) (old : Action) : Action → Prop
  | publish : old.status = .draft → ActionChange now old { old with
      status := .opened, isPrivate := false, publishedAt := some now }
  | returnToDraft : ActionChange now old { old with
      status := .draft, isPrivate := true, publishedAt := none, completedVia := none }
  | complete (completedVia : Option JsString) : old.isPrivate = false → old.status ≠ .draft →
      ActionChange now old { old with status := .completed, completedVia }
  | duplicate (duplicateOfActionId : Option JsString) :
      ActionChange now old { old with duplicateOfActionId }
  | archive (archivedAt : Option Int) (archivedByUserId archiveReason : Option JsString) :
      ActionChange now old { old with archivedAt, archivedByUserId, archiveReason }

/-- What a successful `updateActionRecord` does to the action `old`. -/
structure ActionEdit (context : WorkItemContext) (store : ActionStore)
    (params : UpdateActionParams) (old : Action) (data : ActionData)
    (versions : WorkItemVersionTable ActionSnapshot) (version : Option Nat)
    (store' : ActionStore) : Prop where
  isDraft : params.isPrivate.isSome → old.status = .draft
  data_ok : params.data context old = .ok data
  recorded : recordContentVersion store.versions context.actor {
    workspaceId := params.workspaceId
    entityId := old.id
    currentVersion := old.version
    changedFields := data.changedContentFields old.toActionContent
    previousState := actionSnapshot old } = .ok (versions, version)
  write : ItemWrite store versions old ({ data with version }.apply old) store'

/-- What a transaction does that leaves the content of the actions alone. -/
inductive ActionKeep (context : WorkItemContext) (store store' : ActionStore) : Prop
  | same : store' = store → ActionKeep context store store'
  | change (old new : Action) : ItemWrite store store.versions old new store' →
      ActionChange context.now old new → ActionKeep context store store'

/-- What a transaction on one action does. -/
inductive ActionEffect (context : WorkItemContext) (hides : Bool) (store store' : ActionStore) :
    Prop
  | keep : ActionKeep context store store' → ActionEffect context hides store store'
  | read (action : Action) : store.items.find? action.id = some action →
      store' = { store with reads := store.reads ++ [action] } →
      ActionEffect context hides store store'
  | create (row : Action) (isPrivate : Bool) : store.items.find? row.id = none →
      row.version = 1 → row.isPrivate = isPrivate →
      row.status = (if isPrivate then .draft else .opened) →
      row.publishedAt = (if isPrivate then none else some context.now) →
      store'.items.rows = store.items.rows ++ [row] → store'.versions = store.versions →
      store'.reads = store.reads → ActionEffect context hides store store'
  | edit (params : UpdateActionParams) (old : Action) (data : ActionData)
      (versions : WorkItemVersionTable ActionSnapshot) (version : Option Nat) :
      params.hides = hides → ActionEdit context store params old data versions version store' →
      ActionEffect context hides store store'

/-- What the link of an action to a proposal does, as the action was read before. -/
inductive ActionLink (context : WorkItemContext) (store store' : ActionStore) : Prop
  | intro (related old new : Action) (workspaceId proposalId : JsString)
      (versions : WorkItemVersionTable ActionSnapshot) (newVersion : Nat) :
      related ∈ store.reads → old.id = related.id → old.version = related.version →
      recordWorkItemVersion store.versions context.actor {
        workspaceId
        entityId := related.id
        currentVersion := related.version
        changedFields := ["proposalId"]
        previousState := actionSnapshot related } = .ok (versions, newVersion) →
      ItemWrite store versions old new store' →
      new = { old with proposalId := some proposalId, version := newVersion } →
      ActionLink context store store'

/-- What the resolution of a duplicate does to the canonical action. -/
inductive ActionMerge (context : WorkItemContext) (store store' : ActionStore) : Prop
  | intro (old new : Action) (bodyMd : Option JsString) (workspaceId : JsString)
      (versions : WorkItemVersionTable ActionSnapshot) (version : Option Nat) :
      recordContentVersion store.versions context.actor {
        workspaceId
        entityId := old.id
        currentVersion := old.version
        changedFields := changedField "bodyMd" old.bodyMd (some bodyMd)
        previousState := .bodyMd old.bodyMd } = .ok (versions, version) →
      ItemWrite store versions old new store' →
      new = { old with bodyMd, version := version.getD old.version } →
      ActionMerge context store store'

/-- What a transaction does when it succeeds. -/
inductive ActionEffects (context : WorkItemContext) (hides : Bool) (store store' : ActionStore) :
    Prop
  | one : ActionEffect context hides store store' → ActionEffects context hides store store'
  | links : Relation.ReflTransGen (ActionLink context) store store' →
      ActionEffects context hides store store'
  | merge (store₁ store₂ : ActionStore) : ActionMerge context store store₁ →
      ActionKeep context store₁ store₂ → ActionKeep context store₂ store' →
      ActionEffects context hides store store'

section
variable {store store' : ActionStore} {context : WorkItemContext}
  {workspaceId actionId : JsString} {action : Action} {missing : AppError} {hides : Bool}

theorem findAction_ok (h : findAction store workspaceId actionId missing = .ok action) :
    store.items.find? action.id = some action ∧ action.id = actionId :=
  ItemStore.findItem_ok h

variable {params : UpdateActionParams}

section
variable (h : updateActionRecord store context params = .ok store')
include h

theorem updateActionRecord_edit : (∃ old data versions version,
      ActionEdit context store params old data versions version store') ∧
      ∀ e, params.expectedVersion = some e →
        ∃ action, store.items.find? params.actionId = some action ∧ e = action.version := by
  obtain ⟨action, haction, h⟩ := bind_ok.1 h
  obtain ⟨_, h⟩ := invariant_bind_ok.1 h
  obtain ⟨_, h⟩ := invariant_bind_ok.1 h
  obtain ⟨_, _, h⟩ := bind_ok.1 h
  obtain ⟨_, hprivate, h⟩ := bind_ok.1 h
  obtain ⟨data, hdata, h⟩ := bind_ok.1 h
  obtain ⟨_, h⟩ := invariant_bind_ok.1 h
  obtain ⟨_, hversion, h⟩ := bind_ok.1 h
  obtain ⟨⟨versions, version⟩, hrecord, h⟩ := bind_ok.1 h
  obtain ⟨hfound, hid⟩ := findAction_ok haction
  refine ⟨⟨action, data, versions, version, fun hsome => ?_, hdata, hrecord, ?_⟩,
    fun e he => ⟨action, hid ▸ hfound, (checkExpectedVersion_eq_ok.1 hversion e he).1⟩⟩
  · rw [checkIf, if_pos hsome] at hprivate
    exact of_decide_eq_true (invariant_bind_ok.1 hprivate).1
  · dsimp only at h
    rw [← hid] at h
    split at h
    · next hnil =>
      -- nothing has changed, so no version was recorded either
      obtain rfl := ok.inj h
      have hcontent : data.changedContentFields action.toActionContent = [] := by
        simp only [ActionData.changedFields, List.append_eq_nil_iff] at hnil
        exact hnil.1.1.1.1.1
      have hsame : versions = store.versions := by
        rcases recordContentVersion_ok hrecord with ⟨_, hsame, _⟩ | ⟨hne, _⟩
        · exact hsame
        · exact absurd hcontent hne
      rw [ActionData.apply_eq_self hnil, hsame]
      exact .refl hfound
    · exact ok.inj h ▸ .updateRow hfound

theorem updateActionRecord_effect : ActionEffect context params.hides store store' := by
  obtain ⟨⟨old, data, versions, version, hedit⟩, _⟩ := updateActionRecord_edit h
  exact .edit params old data versions version rfl hedit

end

theorem createAction_effect {params : CreateActionParams}
    (h : createAction store context params = .ok store') :
    ActionEffect context hides store store' := by
  obtain ⟨_, _, h⟩ := bind_ok.1 h
  obtain ⟨_, h⟩ := invariant_bind_ok.1 h
  obtain ⟨assigneeMemberId, _, h⟩ := bind_ok.1 h
  obtain ⟨_, h⟩ := invariant_bind_ok.1 h
  obtain ⟨proposalId, _, h⟩ := bind_ok.1 h
  obtain ⟨items, hitems, h⟩ := bind_ok.1 h
  obtain rfl := ok.inj h
  obtain ⟨hnew, hrows⟩ := createRow_ok hitems
  exact .create _ (params.isPrivate.getD true) hnew rfl rfl rfl rfl hrows rfl rfl

/-- A transaction that writes one action at most, and neither its content nor its mark. -/
def WritesAction (context : WorkItemContext) (actionId : JsString) (store store' : ActionStore) :
    Prop :=
  store' = store ∨ ∃ old new, ItemWrite store store.versions old new store' ∧ old.id = actionId ∧
    ActionChange context.now old new ∧ new.duplicateOfActionId = old.duplicateOfActionId ∧
    new.workspaceId = old.workspaceId

theorem WritesAction.keep (h : WritesAction context actionId store store') :
    ActionKeep context store store' := by
  rcases h with hsame | ⟨old, new, hwrite, _, hchange, _⟩
  · exact .same hsame
  · exact .change old new hwrite hchange

theorem publishAction_writes (h : publishAction store context workspaceId actionId = .ok store') :
    WritesAction context actionId store store' := by
  obtain ⟨action, haction, h⟩ := bind_ok.1 h
  obtain ⟨_, h⟩ := invariant_bind_ok.1 h
  obtain ⟨_, _, h⟩ := bind_ok.1 h
  obtain ⟨hfound, rfl⟩ := findAction_ok haction
  split at h
  · obtain ⟨_, h⟩ := invariant_bind_ok.1 h
    exact .inl (ok.inj h).symm
  · next hdraft =>
    obtain ⟨_, _, h⟩ := bind_ok.1 h
    obtain ⟨_, h⟩ := invariant_bind_ok.1 h
    obtain rfl := ok.inj h
    exact .inr ⟨action, _, .of_updateRow hfound, rfl, .publish (not_not.1 hdraft), rfl, rfl⟩

theorem returnActionToDraft_writes
    (h : returnActionToDraft store context workspaceId actionId = .ok store') :
    WritesAction context actionId store store' := by
  obtain ⟨action, haction, h⟩ := bind_ok.1 h
  obtain ⟨_, h⟩ := invariant_bind_ok.1 h
  obtain ⟨_, h⟩ := invariant_bind_ok.1 h
  obtain ⟨_, _, h⟩ := bind_ok.1 h
  obtain ⟨hfound, rfl⟩ := findAction_ok haction
  obtain rfl := ok.inj h
  exact .inr ⟨action, _, .of_updateRow hfound, rfl, .returnToDraft, rfl, rfl⟩

theorem completeAction_writes {completedVia : JsString}
    (h : completeAction store context workspaceId actionId completedVia = .ok store') :
    WritesAction context actionId store store' := by
  obtain ⟨_, h⟩ := invariant_bind_ok.1 h
  obtain ⟨action, haction, h⟩ := bind_ok.1 h
  obtain ⟨hactive, h⟩ := invariant_bind_ok.1 h
  obtain ⟨_, h⟩ := invariant_bind_ok.1 h
  obtain ⟨hfound, rfl⟩ := findAction_ok haction
  obtain rfl := ok.inj h
  simp only [Bool.and_eq_true, Bool.not_eq_true', Bool.or_eq_true, decide_eq_true_eq] at hactive
  refine .inr ⟨action, _, .of_updateRow hfound, rfl, .complete _ hactive.1.1.1 ?_, rfl, rfl⟩
  rcases hactive.2 with hstatus | hstatus <;> simp [hstatus]

variable {expectedVersion : Option ℚ} {proposalId : JsString}

theorem archiveAction_writes {reason : Option JsString}
    (h : archiveAction store context workspaceId actionId reason expectedVersion = .ok store') :
    WritesAction context actionId store store' ∧ ∀ e, expectedVersion = some e →
      ∃ action, store.items.find? actionId = some action ∧ e = action.version := by
  obtain ⟨_, h⟩ := invariant_bind_ok.1 h
  obtain ⟨record, hrecord, h⟩ := bind_ok.1 h
  obtain ⟨hversion, h⟩ := invariant_bind_ok.1 h
  obtain ⟨hfound, hid⟩ := findAction_ok hrecord
  refine ⟨?_, ?_⟩
  · split at h
    · exact .inl (ok.inj h).symm
    · obtain rfl := ok.inj h
      exact .inr ⟨record, _, .of_updateRow hfound, hid, .archive .., rfl, rfl⟩
  · rintro e rfl
    exact ⟨record, hid ▸ hfound, of_decide_eq_true hversion⟩

theorem restoreAction_writes (context : WorkItemContext)
    (h : restoreAction store workspaceId actionId expectedVersion = .ok store') :
    WritesAction context actionId store store' ∧ ∀ e, expectedVersion = some e →
      ∃ action, store.items.find? actionId = some action ∧ e = action.version := by
  obtain ⟨_, h⟩ := invariant_bind_ok.1 h
  obtain ⟨record, hrecord, h⟩ := bind_ok.1 h
  obtain ⟨_, h⟩ := invariant_bind_ok.1 h
  obtain ⟨hversion, h⟩ := invariant_bind_ok.1 h
  obtain ⟨hfound, hid⟩ := findAction_ok hrecord
  obtain rfl := ok.inj h
  refine ⟨.inr ⟨record, _, .of_updateRow hfound, hid, .archive .., rfl, rfl⟩, ?_⟩
  rintro e rfl
  exact ⟨record, hid ▸ hfound, of_decide_eq_true hversion⟩

theorem linkRelatedAction_link (hread : action ∈ store.reads)
    (h : linkRelatedAction context workspaceId proposalId store action = .ok store') :
    ActionLink context store store' ∧ store'.reads = store.reads := by
  obtain ⟨⟨versions, newVersion⟩, hrecord, h⟩ := bind_ok.1 h
  obtain ⟨hrow, h⟩ := invariant_bind_ok.1 h
  obtain rfl := ok.inj h
  obtain ⟨old, hold, hrow⟩ := (Option.any_eq_true ..).1 hrow
  simp only [Bool.and_eq_true, decide_eq_true_eq] at hrow
  have hid := (KeyedTable.find?_eq_some.1 hold).2
  rw [← hid] at hold ⊢
  exact ⟨.intro action old _ workspaceId proposalId versions newVersion hread hid hrow.1.2 hrecord
    (.updateRow hold) rfl, rfl⟩

theorem foldlM_linkRelatedAction_links {related : List Action}
    (hread : ∀ action ∈ related, action ∈ store.reads)
    (h : related.foldlM (linkRelatedAction context workspaceId proposalId) store = .ok store') :
    Relation.ReflTransGen (ActionLink context) store store' := by
  induction related generalizing store with
  | nil => exact ok.inj h ▸ .refl
  | cons action related ih =>
    rw [List.foldlM_cons] at h
    obtain ⟨store₁, hfirst, h⟩ := bind_ok.1 h
    obtain ⟨hlink, hreads⟩ := linkRelatedAction_link (hread action (.head _)) hfirst
    refine .head hlink (ih (fun action hmem => ?_) h)
    exact hreads ▸ hread action (.tail _ hmem)

theorem resolveActionDuplicate_effects {params : ResolveActionDuplicateParams}
    {pair : DuplicatePair} (h : resolveActionDuplicate store context params pair = .ok store') :
    ActionEffects context hides store store' ∧
      (∃ action, store.items.find? params.canonicalId = some action ∧
        params.expectedCanonicalVersion = action.version) ∧
      ∃ action, store.items.find? params.duplicateId = some action ∧
        params.expectedDuplicateVersion = action.version := by
  obtain ⟨_, h⟩ := invariant_bind_ok.1 h
  obtain ⟨_, h⟩ := invariant_bind_ok.1 h
  obtain ⟨hne, h⟩ := invariant_bind_ok.1 h
  obtain ⟨canonical, hcanonical, h⟩ := bind_ok.1 h
  obtain ⟨duplicate, hduplicate, h⟩ := bind_ok.1 h
  obtain ⟨hexpected, h⟩ := invariant_bind_ok.1 h
  obtain ⟨_, h⟩ := invariant_bind_ok.1 h
  obtain ⟨⟨versions, version⟩, hrecord, h⟩ := bind_ok.1 h
  obtain ⟨hfound, hid⟩ := findAction_ok hcanonical
  obtain ⟨hfound', hid'⟩ := findAction_ok hduplicate
  simp only [Bool.and_eq_true, decide_eq_true_eq] at hexpected
  refine ⟨?_, ⟨canonical, hid ▸ hfound, hexpected.1⟩, duplicate, hid' ▸ hfound', hexpected.2⟩
  have hother : duplicate.id ≠ canonical.id := by
    rw [hid, hid']
    exact Ne.symm (of_decide_eq_true hne)
  dsimp only at h hrecord
  rw [← hid] at h hrecord
  rw [← hid'] at h
  -- the canonical action gets the merged body, and then the duplicate points to it
  have hwrite : ItemWrite store versions canonical _ ({ store with versions }.updateRow canonical.id
      (fun action => { action with
        bodyMd := mergedBody context.normalizeDuplicateGuardText canonical duplicate
        version := version.getD action.version }) fun _ => rfl) := .updateRow hfound
  have hstill := (hwrite.find duplicate.id).trans ((if_neg hother).trans hfound')
  exact .merge _ _ (.intro canonical _ _ _ versions version hrecord hwrite rfl)
    (.change duplicate _ (.of_updateRow hstill) (.duplicate _)) (archiveAction_writes h).1.keep

/-- **What a transaction on actions does.** One that succeeds has one of the effects, and meets the
versions that it expects. -/
theorem ActionTransaction.perform_effects {transaction : ActionTransaction}
    (h : transaction.perform context store = .ok store') :
    ActionEffects context transaction.hides store store' ∧
      ∀ id e, (id, e) ∈ transaction.expects →
        ∃ action, store.items.find? id = some action ∧ e = action.version := by
  cases transaction <;> simp only [ActionTransaction.perform] at h
  case create params => exact ⟨.one (createAction_effect h), nofun⟩
  case updateDuplicate params actionId =>
    refine ⟨.one ?_, nofun⟩
    obtain ⟨existing, _, h⟩ := bind_ok.1 h
    obtain ⟨_, h⟩ := invariant_bind_ok.1 h
    dsimp only at h
    split at h
    · exact updateActionRecord_effect h
    · exact .keep (.same (ok.inj h).symm)
  case update params =>
    refine ⟨.one (updateActionRecord_effect h), fun id e hmem => ?_⟩
    exact ItemStore.expects_map (updateActionRecord_edit h).2 id e (Option.mem_toList.1 hmem)
  case publish workspaceId actionId => exact ⟨.one (.keep (publishAction_writes h).keep), nofun⟩
  case returnToDraft workspaceId actionId =>
    exact ⟨.one (.keep (returnActionToDraft_writes h).keep), nofun⟩
  case complete workspaceId actionId completedVia =>
    exact ⟨.one (.keep (completeAction_writes h).keep), nofun⟩
  case archive workspaceId actionId reason expectedVersion =>
    obtain ⟨hwrites, hversion⟩ := archiveAction_writes h
    exact ⟨.one (.keep hwrites.keep), fun id e hmem => ItemStore.expects_map hversion id e
      (Option.mem_toList.1 hmem)⟩
  case restore workspaceId actionId expectedVersion =>
    obtain ⟨hwrites, hversion⟩ := restoreAction_writes context h
    exact ⟨.one (.keep hwrites.keep), fun id e hmem => ItemStore.expects_map hversion id e
      (Option.mem_toList.1 hmem)⟩
  case readRelated workspaceId actionId =>
    refine ⟨.one ?_, nofun⟩
    obtain ⟨action, haction, h⟩ := bind_ok.1 h
    obtain ⟨_, h⟩ := invariant_bind_ok.1 h
    obtain ⟨_, h⟩ := invariant_bind_ok.1 h
    exact .read action (findAction_ok haction).1 (ok.inj h).symm
  case linkRelated workspaceId proposalId indices =>
    refine ⟨.links (foldlM_linkRelatedAction_links (fun action hmem => ?_) h), nofun⟩
    obtain ⟨index, _, hindex⟩ := List.mem_filterMap.1 hmem
    exact List.mem_of_getElem? hindex
  case resolveDuplicate params pair =>
    obtain ⟨heffects, hcanonical, hduplicate⟩ := resolveActionDuplicate_effects h
    refine ⟨heffects, fun id e hmem => ?_⟩
    simp only [expects, List.mem_cons, Prod.mk.injEq, List.not_mem_nil, or_false] at hmem
    rcases hmem with ⟨rfl, rfl⟩ | ⟨rfl, rfl⟩
    · exact hcanonical
    · exact hduplicate

end

end Corgtex.Domain
