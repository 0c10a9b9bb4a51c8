import Corgtex.Domain.Goals
import Corgtex.Domain.WorkItems

/-!
# Requests on goals

The functions of `goals.ts` and `archive.ts` that write goals and key results.
Each is a transaction (`GoalTransaction`) on the rows of all workspaces, past the membership check
and without lineage; what it reads of other tables is in its `GoalContext`. A run is a sequence of
transactions, and one that fails is rolled back.
-/

namespace Corgtex.Domain

/-! ## Writing one goal -/

/-- The `data` of an `update` on a goal: a field without value is not assigned. -/
structure GoalData where
  title : Option JsString := none
  descriptionMd : Option (Option JsString) := none
  level : Option GoalLevel := none
  cadence : Option GoalCadence := none
  status : Option GoalStatus := none
  isPrivate : Option Bool := none
  publishedAt : Option (Option Int) := none
  progressPercent : Option Int := none
  targetDate : Option (Option Int) := none
  startDate : Option (Option Int) := none
  parentGoalId : Option (Option JsString) := none
  circleId : Option (Option JsString) := none
  ownerMemberId : Option (Option JsString) := none
  version : Option Nat := none

namespace GoalData

/-- The row after the update. -/
def apply (data : GoalData) (goal : Goal) : Goal :=
  { goal with
    title := data.title.getD goal.title
    descriptionMd := data.descriptionMd.getD goal.descriptionMd
    level := data.level.getD goal.level
    cadence := data.cadence.getD goal.cadence
    status := data.status.getD goal.status
    isPrivate := data.isPrivate.getD goal.isPrivate
    publishedAt := data.publishedAt.getD goal.publishedAt
    progressPercent := data.progressPercent.getD goal.progressPercent
    targetDate := data.targetDate.getD goal.targetDate
    startDate := data.startDate.getD goal.startDate
    parentGoalId := data.parentGoalId.getD goal.parentGoalId
    circleId := data.circleId.getD goal.circleId
    ownerMemberId := data.ownerMemberId.getD goal.ownerMemberId
    version := data.version.getD goal.version }

/-- `changedDataFields(goal, data)`. -/
def changedFields (data : GoalData) (goal : Goal) : List String :=
  changedField "title" goal.title data.title ++
  changedField "descriptionMd" goal.descriptionMd data.descriptionMd ++
  changedField "level" goal.level data.level ++
  changedField "cadence" goal.cadence data.cadence ++
  changedField "status" goal.status data.status ++
  changedField "isPrivate" goal.isPrivate data.isPrivate ++
  changedField "publishedAt" goal.publishedAt data.publishedAt ++
  changedField "progressPercent" goal.progressPercent data.progressPercent ++
  changedField "targetDate" goal.targetDate data.targetDate ++
  changedField "startDate" goal.startDate data.startDate ++
  changedField "parentGoalId" goal.parentGoalId data.parentGoalId ++
  changedField "circleId" goal.circleId data.circleId ++
  changedField "ownerMemberId" goal.ownerMemberId data.ownerMemberId ++
  changedField "version" goal.version data.version

/-- The fields that a change of status writes (lines 752, 1626). -/
def ofStatus (status : Option GoalStatus) (goal : Goal) (now : Int) : GoalData where
  status
  isPrivate := status.map fun status => status = .draft
  publishedAt := status.map fun status =>
    if status = .draft then none else some (goal.publishedAt.getD now)

end GoalData

/-- The content of a goal, which its version history follows. -/
def goalContentFields : List String :=
  ["title", "descriptionMd", "level", "cadence", "progressPercent", "targetDate", "startDate",
    "parentGoalId", "circleId", "ownerMemberId"]

/-- Stores the goal under its version if content changes, and adds the next version to `data`. -/
def recordGoalVersion (store : GoalStore) (actor : AppActor) (goal : Goal)
    (contentFields : List String) (data : GoalData) : Except AppError (GoalStore × GoalData) := do
  let changedFields := (data.changedFields goal).filter contentFields.contains
  if changedFields = [] then
    return (store, data)
  let (versions, newVersion) ← recordWorkItemVersion store.versions actor {
    workspaceId := goal.workspaceId
    entityId := goal.id
    currentVersion := goal.version
    changedFields
    previousState := goalSnapshot goal none }
  return ({ store with versions }, { data with version := some newVersion })

/-- The parents whose progress may change with an update of `goal`. -/
def parentGoalIdsToRecompute (requested changed : Bool) (requestedParent : Option JsString)
    (goal updated : Goal) : List (Option JsString) :=
  (if requested then [goal.parentGoalId, requestedParent] else []) ++
  (if changed || countsTowardParentProgress goal != countsTowardParentProgress updated then
    [goal.parentGoalId, updated.parentGoalId] else [])

/-- The fields of an `updateGoal` request: `none` is `undefined`, an inner `none` is `null`. -/
structure UpdateGoalParams where
  workspaceId : JsString
  goalId : JsString
  title : Option JsString := none
  descriptionMd : Option (Option JsString) := none
  level : Option GoalLevel := none
  cadence : Option GoalCadence := none
  status : Option GoalStatus := none
  progressPercent : Option ℚ := none
  targetDate : Option (Option Int) := none
  startDate : Option (Option Int) := none
  parentGoalId : Option (Option JsString) := none
  circleId : Option (Option JsString) := none
  ownerMemberId : Option (Option JsString) := none
  expectedVersion : Option ℚ := none

namespace UpdateGoalParams

section
variable (params : UpdateGoalParams)

/-- `editsDraftContent` (line 725). -/
def editsDraftContent : Bool :=
  params.title.isSome || params.descriptionMd.isSome || params.level.isSome ||
    params.cadence.isSome || params.targetDate.isSome || params.startDate.isSome ||
    params.parentGoalId.isSome || params.circleId.isSome || params.ownerMemberId.isSome

/-- `editsContent` (line 734). -/
def editsContent : Bool :=
  params.editsDraftContent || params.progressPercent.isSome

/-- `changesWorkflow` (line 735). -/
def changesWorkflow : Bool :=
  params.status.isSome || params.progressPercent.isSome

/-- The `data` that `updateGoal` builds (line 745). -/
def data (context : GoalContext) (goal : Goal) : Except AppError GoalData := do
  invariant (params.title.all fun title => title.trim.length > 0) 400 "INVALID_INPUT"
    "Goal title is required."
  let progressPercent ← params.progressPercent.mapM fun value =>
    clampProgressPercent value "Progress"
  return { GoalData.ofStatus params.status goal context.now with
    title := params.title.map JsString.trim
    descriptionMd := params.descriptionMd.map fun text => text.bind JsString.orNull
    level := params.level
    cadence := params.cadence
    progressPercent
    targetDate := params.targetDate
    startDate := params.startDate
    parentGoalId := params.parentGoalId.map fun id => id.bind JsString.orNull
    circleId := params.circleId.map fun id => id.bind JsString.orNull
    ownerMemberId := params.ownerMemberId.map fun id => id.bind JsString.orNull }

end

end UpdateGoalParams

/-- The permission that a change of status or progress needs (line 733). -/
def requireWorkflowChange (context : GoalContext) (goal : Goal) (params : UpdateGoalParams) :
    Except AppError Unit :=
  if params.status = some .draft then do
    invariant (EDITABLE_ACTIVE_GOAL_STATUSES.contains goal.status) 400 "INVALID_STATE"
      "Only active goals can be returned to draft."
    requirePrivateDraftEditor context.actor context.membership goal.authorUserId
  else if goal.status = .completed || goal.status = .abandoned then
    invariant (params.progressPercent.isNone && params.status.isNone) 400 "INVALID_STATE"
      "Completed or abandoned goals cannot be changed."
  else
    requireEditableGoalContent context goal "Only draft or active goals can change workflow state."

/-- `updateGoal` (line 675). -/
def updateGoal (fuel : Nat) (store : GoalStore) (context : GoalContext)
    (params : UpdateGoalParams) : Except AppError GoalStore := do
  let goal ← assertGoalInWorkspace store params.workspaceId params.goalId
  invariant (context.readable goal.id) 404 "NOT_FOUND" "Goal not found."
  validateGoalReferences store context params.workspaceId (some params.goalId)
    params.parentGoalId.join params.circleId.join params.ownerMemberId.join
  checkIf params.editsDraftContent
    (requireEditableGoalContent context goal "Only draft or active goals can be edited.")
  checkIf params.changesWorkflow (requireWorkflowChange context goal params)
  let data ← params.data context goal
  invariant (!params.editsContent || params.expectedVersion.isSome) 400 "INVALID_INPUT"
    "expectedVersion must be a positive integer."
  checkExpectedVersion params.expectedVersion goal.version recordChanged
  let (store, data) ← recordGoalVersion store context.actor goal goalContentFields data
  let changedUpdateFields := data.changedFields goal
  if changedUpdateFields = [] then
    return store
  let store := store.updateGoalRow params.goalId data.apply
  recomputeGoalParentsInTransaction fuel context.actor store
    (parentGoalIdsToRecompute
      (params.parentGoalId.isSome || params.progressPercent.isSome || params.status.isSome)
      (changedUpdateFields.contains "parentGoalId" ||
        changedUpdateFields.contains "progressPercent")
      params.parentGoalId.join goal (data.apply goal))

/-! ## Creating goals -/

/-- `GoalKeyResultInput` (line 37). -/
structure GoalKeyResultInput where
  title : JsString
  targetValue : Option ℚ := none
  currentValue : Option ℚ := none
  unit : Option JsString := none
  sortOrder : Option Int := none

/-- The body of `normalizeKeyResults` (line 323), with the id that the row gets. -/
def normalizeKeyResult (context : GoalContext) (goalId id : JsString) (index : Nat)
    (keyResult : GoalKeyResultInput) : Except AppError KeyResult := do
  let title := keyResult.title.trim
  invariant (title.length > 0) 400 "INVALID_INPUT" "Key Result title is required."
  let progressPercent ← keyResultProgress context keyResult.targetValue keyResult.currentValue
  return {
    id
    goalId
    title
    targetValue := keyResult.targetValue
    currentValue := some (keyResult.currentValue.getD 0)
    unit := keyResult.unit.bind JsString.orNull
    progressPercent
    sortOrder := keyResult.sortOrder.getD index }

/-- `normalizeKeyResults` (line 323): the rows for `goalId`. -/
def normalizeKeyResults (context : GoalContext) (goalId : JsString)
    (keyResults : List GoalKeyResultInput) : Except AppError (List KeyResult) :=
  keyResults.zipIdx.mapM fun (keyResult, index) =>
    normalizeKeyResult context goalId (context.uuid (index + 1)) index keyResult

/-- `keyResult.createMany({ data: rows })`. -/
def GoalStore.createKeyResults (store : GoalStore) (rows : List KeyResult) :
    Except AppError GoalStore := do
  return { store with keyResults := ← rows.foldlM createRow store.keyResults }

/-- The fields of a `createGoal` request: every `null` is treated as `undefined`. -/
structure CreateGoalParams where
  workspaceId : JsString
  title : JsString
  descriptionMd : Option JsString := none
  level : Option GoalLevel := none
  cadence : Option GoalCadence := none
  status : Option GoalStatus := none
  targetDate : Option Int := none
  startDate : Option Int := none
  parentGoalId : Option JsString := none
  circleId : Option JsString := none
  ownerMemberId : Option JsString := none
  isPrivate : Option Bool := none
  keyResults : List GoalKeyResultInput := []

namespace CreateGoalParams

section
variable (params : CreateGoalParams) (actor : AppActor)

/-- `requestedStatus` (line 533). -/
def requestedStatus : GoalStatus :=
  params.status.getD (if actor.userId?.isNone then .active else .draft)

/-- `isPrivate` (line 534). -/
def private? : Bool :=
  params.isPrivate.getD (params.requestedStatus actor = .draft)

/-- `status` (line 599). -/
def createdStatus : GoalStatus :=
  if params.private? actor then .draft
  else if params.requestedStatus actor = .draft then .active
  else params.requestedStatus actor

end

/-- The row that `createGoal` writes for the key results that it creates. -/
def row (params : CreateGoalParams) (context : GoalContext) (keyResults : List KeyResult) :
    Goal where
  id := context.uuid 0
  workspaceId := params.workspaceId
  title := params.title.trim
  descriptionMd := params.descriptionMd.bind JsString.orNull
  level := params.level.getD .company
  cadence := params.cadence.getD .quarterly
  status := params.createdStatus context.actor
  progressPercent :=
    if keyResults = [] then 0 else roundedMean (keyResults.map KeyResult.progressPercent)
  targetDate := params.targetDate
  startDate := params.startDate
  parentGoalId := params.parentGoalId.bind JsString.orNull
  circleId := params.circleId.bind JsString.orNull
  ownerMemberId := params.ownerMemberId.bind JsString.orNull
  authorUserId := some (context.actor.userId?.getD context.authorUserId)
  isPrivate := params.private? context.actor
  publishedAt := if params.private? context.actor then none else some context.now
  version := 1
  archivedAt := none
  archivedByUserId := none
  archiveReason := none

end CreateGoalParams

/-- `createGoal` (line 524) where the duplicate guard has found nothing to use instead. -/
def createGoal (store : GoalStore) (context : GoalContext) (params : CreateGoalParams) :
    Except AppError GoalStore := do
  invariant (context.actor.userId?.isSome || !params.private? context.actor) 403
    "PRIVATE_AGENT_ARTIFACT_UNSUPPORTED"
    "Private drafts require a current human owner; credentials cannot own private drafts."
  invariant (params.title.trim.length > 0) 400 "INVALID_INPUT" "Goal title is required."
  validateGoalReferences store context params.workspaceId none params.parentGoalId
    params.circleId params.ownerMemberId
  let keyResults ← normalizeKeyResults context (context.uuid 0) params.keyResults
  let goals ← createRow store.goals (params.row context keyResults)
  { store with goals }.createKeyResults keyResults

/-- What a `createGoal` request updates of the duplicate that it found (line 569). -/
def CreateGoalParams.duplicateUpdate (params : CreateGoalParams) (context : GoalContext)
    (existing : Goal) : UpdateGoalParams :=
  let mergedDescription := duplicateGuardMergeText context.normalizeDuplicateGuardText
    existing.descriptionMd params.descriptionMd
  { workspaceId := params.workspaceId
    goalId := existing.id
    descriptionMd :=
      if mergedDescription ≠ existing.descriptionMd then some mergedDescription else none
    ownerMemberId := orElse existing.ownerMemberId params.ownerMemberId
    circleId := orElse existing.circleId params.circleId
    parentGoalId := orElse existing.parentGoalId params.parentGoalId
    targetDate := if existing.targetDate.isNone then params.targetDate.map some else none
    startDate := if existing.startDate.isNone then params.startDate.map some else none
    cadence := params.cadence.filter fun cadence => existing.cadence ≠ cadence
    level := params.level.filter fun level => existing.level ≠ level
    status := params.status.filter fun status => existing.status ≠ status }
where
  /-- `if (!existing.f && params.f) updateParams.f = params.f`, on a key. -/
  orElse (existing requested : Option JsString) : Option (Option JsString) :=
    if (existing.bind JsString.orNull).isNone then
      (requested.bind JsString.orNull).map some
    else none

section
variable (fuel : Nat) (store : GoalStore) (context : GoalContext) (params : CreateGoalParams)
  (goalId : JsString)

/-- The first transaction of a `createGoal` request that updates a duplicate (line 565). -/
def updateDuplicateGoal : Except AppError GoalStore :=
  match store.goals.find? goalId with
  | none => throw ⟨404, "NOT_FOUND", "Goal not found."⟩
  | some existing => do
    invariant (existing.workspaceId = params.workspaceId && existing.archivedAt.isNone &&
        privacyFilter context.actor context.membership existing.isPrivate
          (existing.status = .draft) existing.authorUserId && context.readable existing.id)
      404 "NOT_FOUND" "Goal not found."
    let updateParams := params.duplicateUpdate context existing
    if updateParams.editsContent || updateParams.changesWorkflow then
      updateGoal fuel store context { updateParams with expectedVersion := some existing.version }
    else
      return store

/-- `appendMissingDuplicateGoalKeyResults` (line 418), the second one. -/
def appendMissingDuplicateGoalKeyResults : Except AppError GoalStore := do
  let keyResults ← normalizeKeyResults context goalId params.keyResults
  if keyResults = [] then
    return store
  let goal ← assertGoalInWorkspace store params.workspaceId goalId
  requireEditableGoalKeyResults context goal
  let existingKeyResults := store.keyResultsOf goalId
  let existingTitles := existingKeyResults.map fun keyResult =>
    context.normalizeDuplicateGuardText keyResult.title
  let missingKeyResults := keyResults.filter fun keyResult =>
    !existingTitles.contains (context.normalizeDuplicateGuardText keyResult.title)
  if missingKeyResults = [] then
    return store
  let maxSortOrder := (existingKeyResults.map KeyResult.sortOrder).foldl max (-1)
  let addedRows := missingKeyResults.zipIdx.map fun (keyResult, index) =>
    { keyResult with sortOrder := maxSortOrder + index + 1 }
  let store ← store.createKeyResults addedRows
  let progressPercent :=
    roundedMean ((existingKeyResults ++ missingKeyResults).map KeyResult.progressPercent)
  let (versions, newVersion) ← recordWorkItemVersion store.versions context.actor {
    workspaceId := params.workspaceId
    entityId := goal.id
    currentVersion := goal.version
    changedFields := ["keyResults", "progressPercent"]
    previousState := goalSnapshot goal none }
  let store := store.writeProgress versions goalId progressPercent newVersion
  recomputeGoalParentsInTransaction fuel context.actor store [goal.parentGoalId]

end

/-! ## Key results -/

/-- The fields of an `addKeyResult` request. -/
structure AddKeyResultParams where
  workspaceId : JsString
  goalId : JsString
  title : JsString
  targetValue : Option ℚ := none
  currentValue : Option ℚ := none
  unit : Option JsString := none

/-- The options with which the key result requests recompute their goal. -/
def keyResultsChanged (previousKeyResults : List KeyResult) : RecomputeOptions where
  forceVersion := true
  changedFields := ["keyResults"]
  previousKeyResults := some previousKeyResults

/-- `addKeyResult` (line 1342). -/
def addKeyResult (fuel : Nat) (store : GoalStore) (context : GoalContext)
    (params : AddKeyResultParams) : Except AppError GoalStore := do
  let title := params.title.trim
  invariant (title.length > 0) 400 "INVALID_INPUT" "Key Result title is required."
  let progressPercent ← keyResultProgress context params.targetValue params.currentValue
  let goal ← assertGoalInWorkspace store params.workspaceId params.goalId
  requireEditableGoalKeyResults context goal
  let previousKeyResults := store.keyResultsOf params.goalId
  let store ← store.createKeyResults [{
    id := context.uuid 0
    goalId := params.goalId
    title
    targetValue := params.targetValue.filter fun value => value ≠ 0
    currentValue := some (params.currentValue.getD 0)
    unit := params.unit.bind JsString.orNull
    progressPercent
    sortOrder := 0 }]
  recomputeGoalProgress fuel context.actor (keyResultsChanged previousKeyResults) store
    params.goalId

/-- The fields of an `updateKeyResult` request. -/
structure UpdateKeyResultParams where
  workspaceId : JsString
  krId : JsString
  title : Option JsString := none
  targetValue : Option (Option ℚ) := none
  currentValue : Option (Option ℚ) := none
  unit : Option (Option JsString) := none
  expectedVersion : Option ℚ := none

/-- A key result with its goal, if the goal is in the workspace and not archived. -/
def findKeyResult (store : GoalStore) (workspaceId krId : JsString) :
    Except AppError (KeyResult × Goal) :=
  match store.keyResults.find? krId with
  | none => throw ⟨404, "NOT_FOUND", "Key Result not found."⟩
  | some keyResult =>
    match store.goals.find? keyResult.goalId with
    | none => throw ⟨404, "NOT_FOUND", "Key Result not found."⟩
    | some goal => do
      invariant (goal.workspaceId = workspaceId && goal.archivedAt.isNone) 404 "NOT_FOUND"
        "Key Result not found."
      return (keyResult, goal)

section
variable (fuel : Nat) (store : GoalStore) (context : GoalContext)

/-- `updateKeyResult` (line 1397). -/
def updateKeyResult (params : UpdateKeyResultParams) : Except AppError GoalStore := do
  let (keyResult, goal) ← findKeyResult store params.workspaceId params.krId
  invariant (params.title.all fun title => title.trim.length > 0) 400 "INVALID_INPUT"
    "Key Result title is required."
  let updated : KeyResult := { keyResult with
    title := (params.title.map JsString.trim).getD keyResult.title
    targetValue := params.targetValue.getD keyResult.targetValue
    currentValue := params.currentValue.getD keyResult.currentValue
    unit := params.unit.getD keyResult.unit }
  let progressPercent ← keyResultProgress context updated.targetValue updated.currentValue
  requireEditableGoalKeyResults context goal
  checkExpectedVersion params.expectedVersion goal.version
    "The Goal changed before this Key Result update could be applied. Please refresh and try again."
  if updated = keyResult then
    return store
  let previousKeyResults := store.keyResultsOf goal.id
  let keyResults := store.keyResults.update params.krId
    (fun row => { updated with id := row.id, progressPercent }) fun _ => rfl
  let store := { store with keyResults }
  recomputeGoalProgress fuel context.actor (keyResultsChanged previousKeyResults) store goal.id

/-- `deleteKeyResult` (line 1496). -/
def deleteKeyResult (workspaceId krId : JsString) (expectedVersion : ℚ) :
    Except AppError GoalStore := do
  let (_, goal) ← findKeyResult store workspaceId krId
  requireEditableGoalKeyResults context goal
  checkExpectedVersion (some expectedVersion) goal.version
    "The Goal changed before this Key Result could be deleted. Please refresh and try again."
  let previousKeyResults := store.keyResultsOf goal.id
  let store := { store with keyResults := store.keyResults.filter fun row => row.id ≠ krId }
  recomputeGoalProgress fuel context.actor
    { keyResultsChanged previousKeyResults with resetProgressWhenUndriven := true } store goal.id

end

/-! ## Updates, archive and restore -/

/-- The fields of a `postGoalUpdate` request. -/
structure PostGoalUpdateParams where
  workspaceId : JsString
  goalId : JsString
  bodyMd : JsString
  authorMemberId : Option JsString := none
  statusChange : Option GoalStatus := none
  newProgress : Option ℚ := none
  expectedVersion : Option ℚ := none

/-- The `updateData` of `postGoalUpdate` (line 1624). -/
def PostGoalUpdateParams.data (params : PostGoalUpdateParams) (goal : Goal) (now : Int)
    (newProgress : Option Int) : GoalData :=
  { GoalData.ofStatus params.statusChange goal now with progressPercent := newProgress }

/-- The permission that `postGoalUpdate` needs (line 1570). -/
def requireGoalUpdater (context : GoalContext) (goal : Goal) (statusChange : Option GoalStatus) :
    Except AppError Unit :=
  if goal.status = .draft ∨ statusChange = some .draft then
    requirePrivateDraftEditor context.actor context.membership goal.authorUserId
  else
    requireEditableGoalContent context goal "Only draft or active goals can receive updates."

/-- `postGoalUpdate` (line 1537). The `GoalUpdate` row is read by none of the requests. -/
def postGoalUpdate (fuel : Nat) (store : GoalStore) (context : GoalContext)
    (params : PostGoalUpdateParams) : Except AppError GoalStore := do
  let goal ← assertGoalInWorkspace store params.workspaceId params.goalId
  requireGoalUpdater context goal params.statusChange
  invariant (params.bodyMd.trim.length > 0) 400 "INVALID_INPUT" "Goal update body is required."
  let newProgress ← params.newProgress.mapM fun value =>
    clampProgressPercent value "Goal progress"
  checkExpectedVersion params.expectedVersion goal.version recordChanged
  invariant ((params.authorMemberId.bind JsString.orNull).all context.activeMember) 400
    "INVALID_INPUT" "Goal update author must be an active member in the same workspace."
  if params.statusChange.isNone && newProgress.isNone then
    return store
  let (store, updateData) ← recordGoalVersion store context.actor goal ["progressPercent"]
    (params.data goal context.now newProgress)
  let store := store.updateGoalRow params.goalId updateData.apply
  recomputeGoalParentsInTransaction fuel context.actor store
    (parentGoalIdsToRecompute true newProgress.isSome none goal (updateData.apply goal))

/-- The permission that `deleteGoal` needs (line 921). -/
def requireGoalDeleter (context : GoalContext) (goal : Goal) : Except AppError Unit :=
  if goal.status = .draft || goal.isPrivate then
    requirePrivateDraftEditor context.actor context.membership goal.authorUserId
  else
    requireCollaborativeWorkItemEditor context.actor context.membership goal.archivedAt
      goal.isPrivate

/-- `deleteGoal` (line 897). -/
def deleteGoal (fuel : Nat) (store : GoalStore) (context : GoalContext)
    (workspaceId goalId : JsString) (includeArchived : Bool) : Except AppError GoalStore :=
  match store.goals.find? goalId with
  | none => throw ⟨404, "NOT_FOUND", "Goal not found."⟩
  | some goal => do
    invariant (goal.workspaceId = workspaceId && (includeArchived || goal.archivedAt.isNone)) 404
      "NOT_FOUND" "Goal not found."
    requireGoalDeleter context goal
    if goal.archivedAt.isSome then
      return store
    let store := store.updateGoalRow goal.id fun goal => { goal with
      archivedAt := some context.now
      archivedByUserId := context.actor.userId?
      archiveReason := some (.lit "Archived from goal delete path.") }
    match goal.parentGoalId.bind JsString.orNull with
    | none => return store
    | some parentGoalId => recomputeGoalProgress fuel context.actor {} store parentGoalId

/-- `findRecord` (`archive.ts:574`) on a goal. -/
def findGoalRecord (store : GoalStore) (workspaceId goalId : JsString) : Except AppError Goal :=
  match (store.goals.find? goalId).filter (·.workspaceId = workspaceId) with
  | none => throw ⟨404, "NOT_FOUND", "Goal not found."⟩
  | some record => return record

/-- `recomputeGoalParentProgressForArchiveTransition` (`archive.ts:563`). -/
def recomputeGoalParentProgressForArchiveTransition (fuel : Nat) (context : GoalContext)
    (store : GoalStore) (parentGoalId : Option JsString) : Except AppError GoalStore :=
  match parentGoalId with
  | none => return store
  | some parentGoalId => recomputeGoalProgressInTransaction fuel context.actor store parentGoalId

section
variable (fuel : Nat) (store : GoalStore) (context : GoalContext) (workspaceId goalId : JsString)

/-- `archiveWorkspaceArtifact` on a goal (`archive.ts:748`). -/
def archiveGoal (reason : Option JsString) (expectedVersion : Option ℚ) :
    Except AppError GoalStore := do
  invariant (expectedVersion.all isArchiveVersion) 400 "INVALID_INPUT"
    "Expected version is invalid."
  let record ← findGoalRecord store workspaceId goalId
  invariant (expectedVersion.all fun (expected : ℚ) => expected = record.version) 409
    "VERSION_CONFLICT" "The record changed. Reload and try again."
  if record.archivedAt.isSome then
    return store
  let store := store.updateGoalRow record.id fun goal => { goal with
    archivedAt := some context.now
    archivedByUserId := context.actor.userId?
    archiveReason := JsString.trimOrNull reason }
  recomputeGoalParentProgressForArchiveTransition fuel context store record.parentGoalId

/-- `restoreWorkspaceArtifact` on a goal (`archive.ts:929`). -/
def restoreGoal (expectedVersion : Option ℚ) : Except AppError GoalStore := do
  invariant (expectedVersion.all isArchiveVersion) 400 "INVALID_INPUT"
    "Expected version is invalid."
  let record ← findGoalRecord store workspaceId goalId
  invariant record.archivedAt.isSome 400 "INVALID_STATE" "Goal is not archived."
  invariant (expectedVersion.all fun (expected : ℚ) => expected = record.version) 409
    "VERSION_CONFLICT" "The record changed. Reload and try again."
  let store := store.updateGoalRow record.id fun goal => { goal with
    archivedAt := none
    archivedByUserId := none
    archiveReason := none }
  recomputeGoalParentProgressForArchiveTransition fuel context store record.parentGoalId

end

/-! ## Runs -/

/-- One transaction of a request on the goals of some workspace. A `createGoal` request that is
resolved to an existing goal is none of them, or `updateDuplicate` and then `appendMissing`. -/
inductive GoalTransaction
  | create (params : CreateGoalParams)
  | updateDuplicate (params : CreateGoalParams) (goalId : JsString)
  | appendMissing (params : CreateGoalParams) (goalId : JsString)
  | update (params : UpdateGoalParams)
  | post (params : PostGoalUpdateParams)
  | addKeyResult (params : AddKeyResultParams)
  | updateKeyResult (params : UpdateKeyResultParams)
  | deleteKeyResult (workspaceId krId : JsString) (expectedVersion : ℚ)
  | delete (workspaceId goalId : JsString) (includeArchived : Bool)
  | archive (workspaceId goalId : JsString) (reason : Option JsString) (expectedVersion : Option ℚ)
  | restore (workspaceId goalId : JsString) (expectedVersion : Option ℚ)

/-- What a transaction does to the rows, or the error that it is rolled back with. -/
def GoalTransaction.perform (fuel : Nat) (context : GoalContext) (store : GoalStore) :
    GoalTransaction → Except AppError GoalStore
  | .create params => createGoal store context params
  | .updateDuplicate params goalId => updateDuplicateGoal fuel store context params goalId
  | .appendMissing params goalId =>
    appendMissingDuplicateGoalKeyResults fuel store context params goalId
  | .update params => updateGoal fuel store context params
  | .post params => postGoalUpdate fuel store context params
  | .addKeyResult params => Domain.addKeyResult fuel store context params
  | .updateKeyResult params => Domain.updateKeyResult fuel store context params
  | .deleteKeyResult workspaceId krId expectedVersion =>
    Domain.deleteKeyResult fuel store context workspaceId krId expectedVersion
  | .delete workspaceId goalId includeArchived =>
    deleteGoal fuel store context workspaceId goalId includeArchived
  | .archive workspaceId goalId reason expectedVersion =>
    archiveGoal fuel store context workspaceId goalId reason expectedVersion
  | .restore workspaceId goalId expectedVersion =>
    restoreGoal fuel store context workspaceId goalId expectedVersion

/-- One step of a run: a transaction, what its request reads, and how deep it may recurse. -/
structure GoalStep where
  fuel : Nat
  context : GoalContext
  transaction : GoalTransaction

/-- The rows after a step. -/
def GoalStep.apply (store : GoalStore) (step : GoalStep) : GoalStore :=
  match step.transaction.perform step.fuel step.context store with
  | .ok store' => store'
  | .error _ => store

/-- The rows after steps that run one at a time. -/
def runGoalSteps (steps : List GoalStep) : GoalStore := steps.foldl GoalStep.apply .empty

end Corgtex.Domain
