import Corgtex.Domain.DuplicateGuard
import Corgtex.Domain.WorkItemVersions
import Corgtex.Library.JsNumber
import Corgtex.Library.StringOrder

/-!
# Goals and their key results

`goals.ts` and the goal part of `archive.ts`: the rows, the recomputation of
derived progress, and the checks that the requests of `GoalRequests.lean` share. A recursion of
recomputations that is deeper than the `fuel` of its transaction runs into the time limit of the
transaction.
-/

namespace Corgtex.Domain

/-! ## The rows -/

/-- `GoalLevel` (`schema.prisma`). -/
inductive GoalLevel
  | company
  | circle
  | personal
deriving DecidableEq, Repr

/-- `GoalCadence` (`schema.prisma`). -/
inductive GoalCadence
  | weekly
  | monthly
  | quarterly
  | annual
  | fiveYear
  | tenYear
deriving DecidableEq, Repr

/-- `GoalStatus` (`schema.prisma`). -/
inductive GoalStatus
  | draft
  | active
  | onTrack
  | atRisk
  | behind
  | completed
  | abandoned
deriving DecidableEq, Repr

/-- A row of `Goal`, without its ordering and time stamps. -/
structure Goal where
  id : JsString
  workspaceId : JsString
  title : JsString
  descriptionMd : Option JsString
  level : GoalLevel
  cadence : GoalCadence
  status : GoalStatus
  progressPercent : Int
  targetDate : Option Int
  startDate : Option Int
  parentGoalId : Option JsString
  circleId : Option JsString
  ownerMemberId : Option JsString
  authorUserId : Option JsString
  isPrivate : Bool
  publishedAt : Option Int
  version : Nat
  archivedAt : Option Int
  archivedByUserId : Option JsString
  archiveReason : Option JsString
deriving DecidableEq, Repr

/-- A row of `KeyResult`; its values are doubles. -/
structure KeyResult where
  id : JsString
  goalId : JsString
  title : JsString
  targetValue : Option ℚ
  currentValue : Option ℚ
  unit : Option JsString
  progressPercent : Int
  sortOrder : Int
deriving DecidableEq, Repr

/-- What `pickJsonSnapshot` keeps of a goal in its version history, with its key results where the
caller includes them. -/
structure GoalSnapshot where
  id : JsString
  workspaceId : JsString
  title : JsString
  descriptionMd : Option JsString
  level : GoalLevel
  cadence : GoalCadence
  progressPercent : Int
  targetDate : Option Int
  startDate : Option Int
  parentGoalId : Option JsString
  circleId : Option JsString
  ownerMemberId : Option JsString
  authorUserId : Option JsString
  isPrivate : Bool
  publishedAt : Option Int
  status : GoalStatus
  version : Nat
  keyResults : Option (List KeyResult)

/-- `pickJsonSnapshot(goal, […])`. -/
def goalSnapshot (goal : Goal) (keyResults : Option (List KeyResult)) : GoalSnapshot where
  id := goal.id
  workspaceId := goal.workspaceId
  title := goal.title
  descriptionMd := goal.descriptionMd
  level := goal.level
  cadence := goal.cadence
  progressPercent := goal.progressPercent
  targetDate := goal.targetDate
  startDate := goal.startDate
  parentGoalId := goal.parentGoalId
  circleId := goal.circleId
  ownerMemberId := goal.ownerMemberId
  authorUserId := goal.authorUserId
  isPrivate := goal.isPrivate
  publishedAt := goal.publishedAt
  status := goal.status
  version := goal.version
  keyResults

/-- The tables that the requests write. -/
structure GoalStore where
  goals : KeyedTable Goal Goal.id
  keyResults : KeyedTable KeyResult KeyResult.id
  versions : WorkItemVersionTable GoalSnapshot

namespace GoalStore

def empty : GoalStore := ⟨.empty, .empty, .empty⟩

section
variable (store : GoalStore) (id : JsString)

/-- The parent that a goal's row names. -/
def parentOf : Option JsString :=
  (store.goals.find? id).bind Goal.parentGoalId

/-- The workspace that a goal belongs to. -/
def workspaceOf : Option JsString :=
  (store.goals.find? id).map Goal.workspaceId

/-- `goal.update({ where: { id }, data })`: the row keeps its key. -/
def updateGoalRow (data : Goal → Goal) : GoalStore :=
  { store with
    goals := store.goals.update id (fun goal => { data goal with id := goal.id }) fun _ => rfl }

end

/-- The write of a derived progress, with the versions that record it. -/
def writeProgress (store : GoalStore) (versions : WorkItemVersionTable GoalSnapshot)
    (id : JsString) (progressPercent : Int) (version : Nat) : GoalStore :=
  { store with versions }.updateGoalRow id fun goal => { goal with progressPercent, version }

end GoalStore

/-! ## Derived progress -/

/-- `countsTowardParentProgress` (line 70), which the queries for `childGoals` repeat. -/
def countsTowardParentProgress (goal : Goal) : Bool :=
  goal.archivedAt.isNone && !(goal.isPrivate && goal.status = .draft)

section
variable (store : GoalStore) (id : JsString)

/-- The `keyResults` of a goal. -/
def GoalStore.keyResultsOf : List KeyResult :=
  store.keyResults.rows.filter fun keyResult => keyResult.goalId = id

/-- The `childGoals` of a goal that count. -/
def GoalStore.childGoals : List Goal :=
  store.goals.rows.filter fun goal =>
    goal.parentGoalId = some id && countsTowardParentProgress goal

/-- The progress of a goal's key results and of its children that count. -/
def GoalStore.drivers : List Int × List Int :=
  ((store.keyResultsOf id).map KeyResult.progressPercent,
    (store.childGoals id).map Goal.progressPercent)

end

/-- `Math.round(total / count)`. Both are integers, and far too small for the quotient of doubles to
round another way than the exact one. -/
def roundedMean (values : List Int) : Int :=
  JsNumber.round ((values.sum : ℚ) / (values.length : ℚ))

/-- The progress that the drivers of a goal give it, if there are any. -/
def derivedProgress : List Int × List Int → Option Int
  | ([], []) => none
  | ([], children) => some (roundedMean children)
  | (keyResults, _) => some (roundedMean keyResults)

/-- The options of `recomputeGoalProgress` (line 1856). -/
structure RecomputeOptions where
  forceVersion : Bool := false
  changedFields : List String := []
  previousKeyResults : Option (List KeyResult) := none
  resetProgressWhenUndriven : Bool := false

/-- `computedProgress` (line 1891). -/
def computedProgress (options : RecomputeOptions) (store : GoalStore) (goal : Goal) : Int :=
  (derivedProgress (store.drivers goal.id)).getD
    (if options.resetProgressWhenUndriven then 0 else goal.progressPercent)

/-- The answer to a transaction that runs longer than it may. -/
def transactionTimeout : AppError :=
  ⟨500, "P2028", "Transaction API error: the timeout for this transaction was exceeded."⟩

/-- What the two recomputations have in common. They differ in the key results that the version
history gets, and only one of them takes options. The parent is recomputed without them. -/
def recompute (snapshotKeyResults : RecomputeOptions → List KeyResult → Option (List KeyResult))
    (actor : AppActor) : Nat → RecomputeOptions → GoalStore → JsString → Except AppError GoalStore
  | 0, _, _, _ => throw transactionTimeout
  | fuel + 1, options, store, goalId =>
    match store.goals.find? goalId with
    | none => return store
    | some goal => do
      let progressPercent := computedProgress options store goal
      if progressPercent = goal.progressPercent ∧ options.forceVersion = false then
        return store
      let (versions, newVersion) ← recordWorkItemVersion store.versions actor {
        workspaceId := goal.workspaceId
        entityId := goal.id
        currentVersion := goal.version
        changedFields := options.changedFields ++
          changedField "progressPercent" goal.progressPercent (some progressPercent)
        previousState := goalSnapshot goal
          (snapshotKeyResults options (store.keyResultsOf goal.id)) }
      let store := store.writeProgress versions goalId progressPercent newVersion
      match goal.parentGoalId.bind JsString.orNull with
      | none => return store
      | some parentGoalId => recompute snapshotKeyResults actor fuel {} store parentGoalId

/-- `recomputeGoalProgress` (line 1856). -/
def recomputeGoalProgress (fuel : Nat) (actor : AppActor) (options : RecomputeOptions)
    (store : GoalStore) (goalId : JsString) : Except AppError GoalStore :=
  recompute (fun options keyResults => some (options.previousKeyResults.getD keyResults)) actor
    fuel options store goalId

/-- `recomputeGoalProgressInTransaction` (`archive.ts:485`). -/
def recomputeGoalProgressInTransaction (fuel : Nat) (actor : AppActor) (store : GoalStore)
    (goalId : JsString) : Except AppError GoalStore :=
  recompute (fun _ _ => none) actor fuel {} store goalId

/-- `sortedGoalIds` (line 82). -/
def sortedGoalIds (goalIds : List (Option JsString)) : List JsString :=
  JsString.sort (goalIds.filterMap fun id => id.bind JsString.orNull).dedup

/-- `recomputeGoalParentsInTransaction` (line 89). -/
def recomputeGoalParentsInTransaction (fuel : Nat) (actor : AppActor) (store : GoalStore)
    (parentGoalIds : List (Option JsString)) : Except AppError GoalStore :=
  (sortedGoalIds parentGoalIds).foldlM (recomputeGoalProgress fuel actor {}) store

/-! ## Checks -/

/-- What a request brings along or reads of other tables: its actor, the membership of the actor,
the time, the goals that `readableArtifactIds` admits, the active circles, active human members and
active members of the workspace, and text normalisation of the duplicate guard. -/
structure GoalContext where
  actor : AppActor
  membership : Option MembershipSummary
  now : Int
  readable : JsString → Bool
  activeCircle : JsString → Bool
  activeHuman : JsString → Bool
  activeMember : JsString → Bool
  /-- The user that an agent's goal is attributed to. -/
  authorUserId : JsString
  /-- The `randomUUID()`s that the request draws. -/
  uuid : Nat → JsString
  normalizeDuplicateGuardText : JsString → JsString
  /-- The double nearest to a number, none where that is an infinity. -/
  nearest : ℚ → Option ℚ

/-- `canReadGoalRecord` (line 370). -/
def canReadGoalRecord (context : GoalContext) (goal : Goal) : Bool :=
  if !goal.isPrivate then true
  else if goal.status ≠ .draft then false
  else canEditPrivateDraft context.actor context.membership goal.authorUserId

/-- `assertGoalInWorkspace` (line 227). -/
def assertGoalInWorkspace (store : GoalStore) (workspaceId goalId : JsString) :
    Except AppError Goal :=
  match store.goals.find? goalId with
  | none => throw ⟨404, "NOT_FOUND", "Goal not found."⟩
  | some goal => do
    invariant (goal.workspaceId = workspaceId && goal.archivedAt.isNone) 404 "NOT_FOUND"
      "Goal not found."
    return goal

section
variable (store : GoalStore) (context : GoalContext) (workspaceId : JsString)

/-- The part of `validateGoalReferences` (line 258) on a parent that is not empty. -/
def validateParentGoal (currentGoalId : Option JsString) (parentGoalId : JsString) :
    Except AppError Unit := do
  invariant (some parentGoalId ≠ currentGoalId) 400 "INVALID_INPUT" "Goal cannot be its own parent."
  invariant ((store.goals.find? parentGoalId).any fun parentGoal =>
      parentGoal.workspaceId = workspaceId && parentGoal.archivedAt.isNone &&
        canReadGoalRecord context parentGoal) 400 "INVALID_INPUT"
    "Parent goal must be a visible active goal in the same workspace."

/-- `validateGoalReferences` (line 258). -/
def validateGoalReferences (currentGoalId parentGoalId circleId ownerMemberId : Option JsString) :
    Except AppError Unit := do
  (parentGoalId.bind JsString.orNull).forM
    (validateParentGoal store context workspaceId currentGoalId)
  invariant ((circleId.bind JsString.orNull).all context.activeCircle) 400 "INVALID_INPUT"
    "Goal circle must be an active circle in the same workspace."
  invariant ((ownerMemberId.bind JsString.orNull).all context.activeHuman) 400 "INVALID_INPUT"
    "Goal owner must be an active human member in the same workspace."

end

/-- `EDITABLE_ACTIVE_GOAL_STATUSES` (line 68). -/
def EDITABLE_ACTIVE_GOAL_STATUSES : List GoalStatus := [.active, .onTrack, .atRisk, .behind]

/-- `requireEditableGoalContent` (line 338). -/
def requireEditableGoalContent (context : GoalContext) (goal : Goal)
    (activeStateMessage : String) : Except AppError Unit :=
  if goal.status = .draft then
    requirePrivateDraftEditor context.actor context.membership goal.authorUserId
  else do
    invariant (EDITABLE_ACTIVE_GOAL_STATUSES.contains goal.status) 400 "INVALID_STATE"
      activeStateMessage
    requireCollaborativeWorkItemEditor context.actor context.membership goal.archivedAt
      goal.isPrivate

/-- `requireEditableGoalKeyResults` (line 357). -/
def requireEditableGoalKeyResults (context : GoalContext) (goal : Goal) : Except AppError Unit :=
  requireEditableGoalContent context goal "Only draft or active goals can change key results."

/-- `clampProgressPercent` (line 206), on a finite number. -/
def clampProgressPercent (value : ℚ) (fieldName : String) : Except AppError Int := do
  let rounded := JsNumber.round value
  invariant (0 ≤ rounded && rounded ≤ 100) 400 "INVALID_INPUT"
    (fieldName ++ " must be between 0 and 100.")
  return rounded

/-- `keyResultProgress` (line 220). -/
def keyResultProgress (context : GoalContext) (targetValue currentValue : Option ℚ) :
    Except AppError Int :=
  match targetValue with
  | none => return 0
  | some target =>
    if 0 < target then
      match (context.nearest (currentValue.getD 0 / target)).bind fun quotient =>
          context.nearest (quotient * 100) with
      | none => throw ⟨400, "INVALID_INPUT", "Key result progress must be a number."⟩
      | some value => clampProgressPercent value "Key result progress"
    else
      return 0

end Corgtex.Domain
