import Corgtex.Domain.ActionSources
import Corgtex.Library.StringOrder

/-!
# Concurrent requests on actions

Requests that resolve duplicates, and requests that create actions from a source, run at the same
time, each in one transaction: it waits for locks, reads committed rows statement by statement, and
its writes are seen once it commits. A resolution locks both of its actions before it reads them
(`action-duplicates.ts:110`); nothing else writes an action that it has locked. All creations of a
workspace wait for one lock (`actions.ts:941`). The other transactions on actions are single steps.
-/

namespace Corgtex.Domain

/-! ## The state -/

/-- A transaction of `resolveActionDuplicate`: the locks that it holds, the rows of its pair and the
number of actions that point to the duplicate, once they are read. -/
structure Resolution where
  context : WorkItemContext
  params : ResolveActionDuplicateParams
  held : List JsString := []
  rows : Option (List Action) := none
  marked : Option Nat := none

def ResolveActionDuplicateParams.locks (params : ResolveActionDuplicateParams) : List JsString :=
  JsString.sort [params.canonicalId, params.duplicateId]

/-- How far a transaction of `createAction` has come: from `locked` on it holds the lock of its
workspace, and its claim is not there, or is there, or is there with an action that is marked. -/
inductive CreationPhase
  | waiting
  | locked
  | unclaimed
  | claimed (claimed : ActionCreationSource)
  | marked (claimed : ActionCreationSource) (canonicalId : JsString)

/-- A transaction of `createAction` with a source. -/
structure Creation where
  context : WorkItemContext
  params : SourcedActionParams
  phase : CreationPhase := .waiting

/-- The lock of the workspace is held. -/
def Creation.isLocked (creation : Creation) : Prop := creation.phase ≠ .waiting

/-- The action that the transaction has locked for reading. -/
def Creation.shared (creation : Creation) : Option JsString :=
  match creation.phase with
  | .marked claimed _ => some claimed.actionId
  | _ => none

/-- The action of a successful answer, and how the request came to it. -/
inductive AnsweredAction
  | created (id : JsString)
  | matched (id : JsString)
  | found (id : JsString)

def AnsweredAction.id : AnsweredAction → JsString
  | .created id | .matched id | .found id => id

/-- The answer to a request with a source. -/
structure ActionAnswer where
  key : ActionSourceKey
  content : Option JsString
  result : Except AppError AnsweredAction

/-- The rows that are committed, the transactions that run, and the answers so far. -/
structure ActionState where
  store : ActionStore
  sources : ActionSourceTable
  resolutions : Nat → Option Resolution
  creations : Nat → Option Creation
  answers : List ActionAnswer

namespace ActionState

/-- Nothing runs, and no source is claimed. -/
def initial (store : ActionStore) : ActionState := ⟨store, .empty, fun _ => none, fun _ => none, []⟩

section
variable (state : ActionState)

def setResolution (i : Nat) (resolution : Option Resolution) : ActionState :=
  { state with resolutions := Function.update state.resolutions i resolution }

def setCreation (i : Nat) (creation : Option Creation) : ActionState :=
  { state with creations := Function.update state.creations i creation }

/-- The transaction ends with an answer. -/
def answer (i : Nat) (creation : Creation)
    (result : Except AppError AnsweredAction) : ActionState :=
  { state.setCreation i none with
    answers := state.answers ++ [⟨creation.params.key, creation.params.hashedContent, result⟩] }

/-- No resolution has locked the action. -/
def Unlocked (id : JsString) : Prop :=
  ∀ i resolution, state.resolutions i = some resolution → id ∉ resolution.held

/-- The rows that a resolution has locked are the same ones. -/
def KeepsLocked (store' : ActionStore) : Prop :=
  ∀ i resolution, state.resolutions i = some resolution → ∀ id ∈ resolution.held,
    store'.items.find? id = state.store.items.find? id

end

end ActionState

/-! ## Steps -/

/-- What a request answers with an action that it has not found by a claim. -/
def ActionDecision.answered (decision : ActionDecision) (actionId : JsString) : AnsweredAction :=
  match decision with
  | .create => .created actionId
  | .useExisting _ | .updateExisting _ => .matched actionId

inductive ActionStepTo (sha256 : Sha256) (state : ActionState) : ActionState → Prop
  /-- Another transaction on actions; what it would write to a locked row waits. -/
  | transaction (step : ActionStep) (store' : ActionStore) :
      step.transaction.resolves = false → step.context.uuid ≠ [] →
      step.transaction.perform step.context state.store = .ok store' →
      state.KeepsLocked store' →
      ActionStepTo sha256 state { state with store := store' }
  | beginResolution (i : Nat) (context : WorkItemContext) (params : ResolveActionDuplicateParams) :
      state.resolutions i = none → requireDuplicateResolution context params = .ok () →
      ActionStepTo sha256 state (state.setResolution i (some { context, params }))
  /-- `acquireWorkItemAdvisoryLock` and `FOR UPDATE`, on the next action. -/
  | lockAction (i : Nat) (resolution : Resolution) (id : JsString) :
      state.resolutions i = some resolution →
      resolution.params.locks[resolution.held.length]? = some id →
      (∀ j other, state.resolutions j = some other → id ∈ other.held → j = i) →
      (∀ j creation, state.creations j = some creation → creation.shared ≠ some id) →
      ActionStepTo sha256 state
        (state.setResolution i (some { resolution with held := resolution.held ++ [id] }))
  | readPair (i : Nat) (resolution : Resolution) :
      state.resolutions i = some resolution → resolution.held = resolution.params.locks →
      resolution.rows = none →
      ActionStepTo sha256 state (state.setResolution i (some { resolution with
        rows := some (resolution.params.toPair.rows state.store) }))
  | countMarked (i : Nat) (resolution : Resolution) (rows : List Action) :
      state.resolutions i = some resolution → resolution.rows = some rows →
      resolution.marked = none →
      ActionStepTo sha256 state (state.setResolution i (some { resolution with
        marked := some (resolution.params.toPair.marked state.store) }))
  | commitResolution (i : Nat) (resolution : Resolution) (rows : List Action) (marked : Nat)
      (referenceCounts : List Nat) (preview : DuplicatePreview) (store' : ActionStore) :
      state.resolutions i = some resolution → resolution.rows = some rows →
      resolution.marked = some marked →
      inspectPair resolution.context.normalizeDuplicateGuardText resolution.params.toPair rows
        marked referenceCounts = .ok preview →
      mergeActions state.store resolution.context resolution.params preview = .ok store' →
      ActionStepTo sha256 state { state.setResolution i none with
        store := store'
        sources := repointSources state.sources resolution.params }
  /-- A resolution that throws, or whose connection is lost. -/
  | abortResolution (i : Nat) : ActionStepTo sha256 state (state.setResolution i none)
  | beginCreation (i : Nat) (context : WorkItemContext) (params : SourcedActionParams) :
      state.creations i = none → params.requireSource = .ok () →
      ActionStepTo sha256 state (state.setCreation i (some { context, params }))
  /-- The advisory locks of the workspace and of the source. -/
  | lockSource (i : Nat) (creation : Creation) :
      state.creations i = some creation → creation.phase = .waiting →
      (∀ j other, state.creations j = some other → other.isLocked →
        other.params.workspaceId ≠ creation.params.workspaceId) →
      ActionStepTo sha256 state (state.setCreation i (some { creation with phase := .locked }))
  | findNoClaim (i : Nat) (creation : Creation) :
      state.creations i = some creation → creation.phase = .locked →
      state.sources.find? creation.params.key = none →
      ActionStepTo sha256 state (state.setCreation i (some { creation with phase := .unclaimed }))
  | findClaim (i : Nat) (creation : Creation) (claimed : ActionCreationSource) :
      state.creations i = some creation → creation.phase = .locked →
      state.sources.find? creation.params.key = some claimed →
      checkPayload sha256 creation.params claimed = .ok () →
      ActionStepTo sha256 state
        (state.setCreation i (some { creation with phase := .claimed claimed }))
  | refuseClaim (i : Nat) (creation : Creation) (claimed : ActionCreationSource) (e : AppError) :
      state.creations i = some creation → creation.phase = .locked →
      state.sources.find? creation.params.key = some claimed →
      checkPayload sha256 creation.params claimed = .error e →
      ActionStepTo sha256 state (state.answer i creation (.error e))
  /-- The action of the claim, read `FOR SHARE`, is not there for the actor. -/
  | refuseExisting (i : Nat) (creation : Creation) (claimed : ActionCreationSource) (e : AppError) :
      state.creations i = some creation → creation.phase = .claimed claimed →
      state.Unlocked claimed.actionId →
      claimedAction state.store creation.context creation.params.workspaceId claimed = .error e →
      ActionStepTo sha256 state (state.answer i creation (.error e))
  | answerExisting (i : Nat) (creation : Creation) (claimed : ActionCreationSource)
      (existing : Action) : state.creations i = some creation → creation.phase = .claimed claimed →
      state.Unlocked claimed.actionId →
      claimedAction state.store creation.context creation.params.workspaceId claimed
        = .ok existing →
      existing.duplicateOfActionId.bind JsString.orNull = none →
      ActionStepTo sha256 state
        (state.answer i creation ((answerClaimed creation.context existing).map .found))
  | followMark (i : Nat) (creation : Creation) (claimed : ActionCreationSource)
      (existing : Action) (canonicalId : JsString) :
      state.creations i = some creation → creation.phase = .claimed claimed →
      state.Unlocked claimed.actionId →
      claimedAction state.store creation.context creation.params.workspaceId claimed
        = .ok existing →
      existing.duplicateOfActionId.bind JsString.orNull = some canonicalId →
      ActionStepTo sha256 state
        (state.setCreation i (some { creation with phase := .marked claimed canonicalId }))
  | answerMarked (i : Nat) (creation : Creation) (claimed : ActionCreationSource)
      (canonicalId : JsString) :
      state.creations i = some creation → creation.phase = .marked claimed canonicalId →
      ActionStepTo sha256 state (state.answer i creation ((answerCanonical state.store
        creation.context creation.params.workspaceId canonicalId).map .found))
  /-- A request without claim that the duplicate guard or a check has refused. -/
  | refuseCreation (i : Nat) (creation : Creation) (e : AppError) :
      state.creations i = some creation → creation.phase = .unclaimed →
      ActionStepTo sha256 state (state.answer i creation (.error e))
  | commitCreation (i : Nat) (creation : Creation) (decision : ActionDecision)
      (store' : ActionStore) (actionId : JsString)
      (hnew : creation.params.key ∉ state.sources.rows.map ActionCreationSource.key) :
      state.creations i = some creation → creation.phase = .unclaimed →
      creation.context.uuid ≠ [] →
      fulfilAction state.store creation.context creation.params decision = .ok (store', actionId) →
      state.KeepsLocked store' →
      ActionStepTo sha256 state { state.answer i creation (.ok (decision.answered actionId)) with
        store := store'
        sources := state.sources.insert (creation.params.claim sha256 actionId) hnew }
  /-- A creation whose connection is lost, without an answer. -/
  | abortCreation (i : Nat) : ActionStepTo sha256 state (state.setCreation i none)

/-- The states of the runs from a state. -/
def ActionState.Reachable (sha256 : Sha256) (start : ActionState) : ActionState → Prop :=
  Relation.ReflTransGen (ActionStepTo sha256) start

end Corgtex.Domain
