import Corgtex.Domain.WorkItems

/-!
# Tensions

The functions of `tensions.ts` that write tensions, their part of `archive.ts`,
and the links from a proposal to its source tension (`proposals.ts`). Each is a transaction past the
membership check, and reads its tension after it has got hold of the lock. The one exception is the
source tension of a proposal, which is read first (`readSource`) and linked later (`linkSource`).
-/

namespace Corgtex.Domain

open Except

/-! ## The rows -/

/-- `TensionStatus` (`schema.prisma`). -/
inductive TensionStatus
  | draft
  | opened
  | resolved
deriving DecidableEq, Repr

/-- The content of a tension, which its version history follows. -/
structure TensionContent where
  title : JsString
  bodyMd : Option JsString
  circleId : Option JsString
  assigneeMemberId : Option JsString
  raisedByMemberId : Option JsString
  proposalId : Option JsString
  priority : Int
deriving DecidableEq, Repr

/-- A row of `Tension`, without its upvotes, its `urgency` and `importance`, and when it was
written. -/
structure Tension extends TensionContent where
  id : JsString
  workspaceId : JsString
  authorUserId : JsString
  status : TensionStatus
  version : Nat
  resolvedVia : Option JsString
  resolvedAt : Option Int
  meetingId : Option JsString
  isPrivate : Bool
  publishedAt : Option Int
  archivedAt : Option Int
  archivedByUserId : Option JsString
  archiveReason : Option JsString
deriving DecidableEq, Repr

/-- What `pickJsonSnapshot` keeps of a tension in its version history. -/
structure TensionSnapshot extends TensionContent where
  id : JsString
  workspaceId : JsString
  status : TensionStatus
  version : Nat
deriving DecidableEq, Repr

/-- `pickJsonSnapshot(tension, […])`. -/
def tensionSnapshot (tension : Tension) : TensionSnapshot where
  toTensionContent := tension.toTensionContent
  id := tension.id
  workspaceId := tension.workspaceId
  status := tension.status
  version := tension.version

/-- The tensions of all workspaces. -/
abbrev TensionStore := ItemStore TensionSnapshot Tension.id

def findTension (store : TensionStore) (workspaceId tensionId : JsString)
    (missing : AppError := ⟨404, "NOT_FOUND", "Tension not found."⟩) : Except AppError Tension :=
  store.findItem Tension.workspaceId workspaceId tensionId missing

/-- `requireDraftManager` on a tension. -/
def requireTensionDraftManager (context : WorkItemContext) (workspaceId : JsString)
    (tension : Tension) : Except AppError Unit :=
  requireDraftManager context.actor context.membership workspaceId {
    workspaceId := tension.workspaceId
    authorUserId := some tension.authorUserId
    archivedAt := tension.archivedAt }

/-! ## Updates -/

/-- The `data` of an `update` on a tension: a field without value is not assigned. -/
structure TensionData where
  title : Option JsString := none
  bodyMd : Option (Option JsString) := none
  circleId : Option (Option JsString) := none
  assigneeMemberId : Option (Option JsString) := none
  raisedByMemberId : Option (Option JsString) := none
  proposalId : Option (Option JsString) := none
  priority : Option Int := none
  status : Option TensionStatus := none
  isPrivate : Option Bool := none
  publishedAt : Option (Option Int) := none
  resolvedVia : Option (Option JsString) := none
  resolvedAt : Option (Option Int) := none
  version : Option Nat := none

namespace TensionData

section
variable (data : TensionData)

/-- The content after the update. -/
def applyContent (content : TensionContent) : TensionContent where
  title := data.title.getD content.title
  bodyMd := data.bodyMd.getD content.bodyMd
  circleId := data.circleId.getD content.circleId
  assigneeMemberId := data.assigneeMemberId.getD content.assigneeMemberId
  raisedByMemberId := data.raisedByMemberId.getD content.raisedByMemberId
  proposalId := data.proposalId.getD content.proposalId
  priority := data.priority.getD content.priority

/-- The row after the update. -/
def apply (tension : Tension) : Tension :=
  { tension with
    toTensionContent := data.applyContent tension.toTensionContent
    status := data.status.getD tension.status
    isPrivate := data.isPrivate.getD tension.isPrivate
    publishedAt := data.publishedAt.getD tension.publishedAt
    resolvedVia := data.resolvedVia.getD tension.resolvedVia
    resolvedAt := data.resolvedAt.getD tension.resolvedAt
    version := data.version.getD tension.version }

/-- `changedDataFields(tension, data)` on the content. -/
def changedContentFields (content : TensionContent) : List String :=
  changedField "title" content.title data.title ++
  changedField "bodyMd" content.bodyMd data.bodyMd ++
  changedField "circleId" content.circleId data.circleId ++
  changedField "assigneeMemberId" content.assigneeMemberId data.assigneeMemberId ++
  changedField "raisedByMemberId" content.raisedByMemberId data.raisedByMemberId ++
  changedField "proposalId" content.proposalId data.proposalId ++
  changedField "priority" content.priority data.priority

/-- `changedDataFields(tension, data)`. -/
def changedFields (tension : Tension) : List String :=
  data.changedContentFields tension.toTensionContent ++
  changedField "status" tension.status data.status ++
  changedField "isPrivate" tension.isPrivate data.isPrivate ++
  changedField "publishedAt" tension.publishedAt data.publishedAt ++
  changedField "resolvedVia" tension.resolvedVia data.resolvedVia ++
  changedField "resolvedAt" tension.resolvedAt data.resolvedAt ++
  changedField "version" tension.version data.version

end

/-- The fields that a change of status writes (line 573). -/
def ofStatus (status : Option TensionStatus) (resolvedVia : Option JsString) (tension : Tension)
    (now : Int) : TensionData :=
  match status with
  | none => {}
  | some .draft =>
    { status, isPrivate := some true, publishedAt := some none, resolvedVia := some none
      resolvedAt := some none }
  | some .opened =>
    { status, isPrivate := some false, publishedAt := some (some (tension.publishedAt.getD now))
      resolvedVia := some none, resolvedAt := some none }
  | some .resolved =>
    { status, isPrivate := some false, publishedAt := some (some (tension.publishedAt.getD now))
      resolvedVia := some (JsString.trimOrNull resolvedVia), resolvedAt := some (some now) }

end TensionData

/-- The fields of an `updateTension` request: `none` is `undefined`, an inner `none` is `null`. -/
structure UpdateTensionParams where
  workspaceId : JsString
  tensionId : JsString
  title : Option JsString := none
  bodyMd : Option (Option JsString) := none
  status : Option TensionStatus := none
  resolvedVia : Option (Option JsString) := none
  circleId : Option (Option JsString) := none
  assigneeMemberId : Option (Option JsString) := none
  raisedByMemberId : Option (Option JsString) := none
  proposalId : Option (Option JsString) := none
  priority : Option Int := none
  isPrivate : Option Bool := none
  expectedVersion : Option ℚ := none

/-- The active human that a request makes responsible for a tension. -/
def resolveResponsibleMemberId (context : WorkItemContext) (assigneeMemberId : Option JsString) :
    Except AppError (Option JsString) :=
  resolveMemberId context.activeHuman
    "Responsible person must be an active human member of this workspace." assigneeMemberId

def resolveRaisedByMemberId (context : WorkItemContext) (raisedByMemberId : Option JsString) :
    Except AppError (Option JsString) :=
  resolveMemberId context.activeMember
    "Raised-by member must be an active member of this workspace." raisedByMemberId

namespace UpdateTensionParams

/-- `editsContent` (line 549). -/
def editsContent (params : UpdateTensionParams) : Bool :=
  params.title.isSome || params.bodyMd.isSome || params.circleId.isSome ||
    params.assigneeMemberId.isSome || params.raisedByMemberId.isSome || params.proposalId.isSome ||
    params.priority.isSome

/-- The `data` that `updateTension` builds (line 569). A requested `isPrivate` is assigned
last, over the one that goes with a requested status. -/
def data (params : UpdateTensionParams) (context : WorkItemContext) (tension : Tension) :
    Except AppError TensionData := do
  invariant (params.title.all fun title => title.trim.length > 0) 400 "INVALID_INPUT"
    "Tension title is required."
  checkIf (params.status.any fun status => status = .draft || tension.status = .draft)
    (requireTensionDraftManager context params.workspaceId tension)
  invariant (params.status ≠ some .resolved ||
      (JsString.trimOrNull params.resolvedVia.join).isSome) 400 "INVALID_INPUT"
    "Resolution note is required."
  let assigneeMemberId ← params.assigneeMemberId.mapM (resolveResponsibleMemberId context)
  let raisedByMemberId ← params.raisedByMemberId.mapM (resolveRaisedByMemberId context)
  let proposalId ← params.proposalId.mapM (resolveWorkspaceProposalLink context)
  let byStatus := TensionData.ofStatus params.status params.resolvedVia.join tension context.now
  return { byStatus with
    title := params.title.map JsString.trim
    bodyMd := params.bodyMd.map JsString.trimOrNull
    circleId := params.circleId.map fun id => id.bind JsString.orNull
    assigneeMemberId
    raisedByMemberId
    proposalId
    priority := params.priority
    resolvedVia :=
      if params.status = some .resolved then byStatus.resolvedVia
      else (params.resolvedVia.map JsString.trimOrNull).or byStatus.resolvedVia
    isPrivate := params.isPrivate.or byStatus.isPrivate }

end UpdateTensionParams

section
variable (context : WorkItemContext) (workspaceId : JsString) (tension : Tension)

/-- The permission to edit the content of a tension (line 557). -/
def requireEditableTensionContent : Except AppError Unit :=
  if tension.status = .draft then
    requireTensionDraftManager context workspaceId tension
  else do
    invariant (tension.status = .opened) 400 "INVALID_STATE"
      "Only draft or open tensions can be edited."
    requireCollaborativeWorkItemEditor context.actor context.membership tension.archivedAt
      tension.isPrivate

/-- The permission to change the privacy of a tension (line 565). -/
def requireTensionPrivacyChange : Except AppError Unit := do
  invariant (tension.status = .draft) 400 "INVALID_STATE" "Only draft tensions can change privacy."
  requireTensionDraftManager context workspaceId tension

end

/-- `updateTension` (line 517). The update asks for the version and status that have just
been read, so it finds its row. -/
def updateTension (store : TensionStore) (context : WorkItemContext)
    (params : UpdateTensionParams) : Except AppError TensionStore := do
  let tension ← findTension store params.workspaceId params.tensionId
  invariant (context.readable tension.id) 404 "NOT_FOUND" "Tension not found."
  invariant tension.archivedAt.isNone 400 "INVALID_STATE" "Archived tensions cannot be edited."
  checkIf params.editsContent (requireEditableTensionContent context params.workspaceId tension)
  checkIf params.isPrivate.isSome (requireTensionPrivacyChange context params.workspaceId tension)
  let data ← params.data context tension
  invariant (!params.editsContent || params.expectedVersion.isSome) 400 "INVALID_INPUT"
    "expectedVersion must be a positive integer."
  checkExpectedVersion params.expectedVersion tension.version recordChanged
  let (versions, version) ← recordContentVersion store.versions context.actor {
    workspaceId := params.workspaceId
    entityId := tension.id
    currentVersion := tension.version
    changedFields := data.changedContentFields tension.toTensionContent
    previousState := tensionSnapshot tension }
  let data := { data with version }
  if data.changedFields tension = [] then
    return store
  return { store with versions }.updateRow params.tensionId data.apply fun _ => rfl

/-! ## Creating tensions -/

/-- The fields of a `createTension` request: every `null` is treated as `undefined`. -/
structure CreateTensionParams where
  workspaceId : JsString
  title : JsString
  bodyMd : Option JsString := none
  circleId : Option JsString := none
  assigneeMemberId : Option JsString := none
  raisedByMemberId : Option JsString := none
  proposalId : Option JsString := none
  isPrivate : Option Bool := none
  priority : Option Int := none
  meetingId : Option JsString := none

/-- `createTension` (line 360) where the duplicate guard has found nothing to use instead.
-/
def createTension (store : TensionStore) (context : WorkItemContext)
    (params : CreateTensionParams) : Except AppError TensionStore := do
  let isPrivate := params.isPrivate.getD true
  requireCreationInputRoots context.actor isPrivate
  invariant (params.title.trim.length > 0) 400 "INVALID_INPUT" "Tension title is required."
  let raisedByMemberId ← resolveRaisedByMemberId context params.raisedByMemberId
  let assigneeMemberId ← resolveResponsibleMemberId context params.assigneeMemberId
  let proposalId ← resolveWorkspaceProposalLink context params.proposalId
  let items ← createRow store.items {
    id := context.uuid
    workspaceId := params.workspaceId
    authorUserId := context.actor.userId?.getD context.authorUserId
    title := params.title.trim
    bodyMd := JsString.trimOrNull params.bodyMd
    circleId := params.circleId.bind JsString.orNull
    assigneeMemberId
    raisedByMemberId
    proposalId
    priority := params.priority.getD 0
    status := if isPrivate then .draft else .opened
    version := 1
    resolvedVia := none
    resolvedAt := none
    meetingId := params.meetingId.bind JsString.orNull
    isPrivate
    publishedAt := if isPrivate then none else some context.now
    archivedAt := none
    archivedByUserId := none
    archiveReason := none }
  return { store with items }

/-- What a `createTension` request updates of the duplicate that it found (line 339). -/
def CreateTensionParams.duplicateUpdate (params : CreateTensionParams) (context : WorkItemContext)
    (existing : Tension) : UpdateTensionParams :=
  let mergedBody := duplicateGuardMergeText context.normalizeDuplicateGuardText existing.bodyMd
    params.bodyMd
  { workspaceId := params.workspaceId
    tensionId := existing.id
    bodyMd := if mergedBody ≠ existing.bodyMd then some mergedBody else none
    circleId := orElse existing.circleId params.circleId
    assigneeMemberId := orElse existing.assigneeMemberId params.assigneeMemberId
    raisedByMemberId := orElse existing.raisedByMemberId params.raisedByMemberId
    proposalId := orElse existing.proposalId params.proposalId
    priority := params.priority.filter fun priority => existing.priority ≠ priority
    expectedVersion := some existing.version }
where
  /-- `if (!existing.f && params.f) updateParams.f = params.f`, on a key. -/
  orElse (existing requested : Option JsString) : Option (Option JsString) :=
    if (existing.bind JsString.orNull).isNone then
      (requested.bind JsString.orNull).map some
    else none

/-- A `createTension` request that updates a duplicate (line 410). -/
def updateDuplicateTension (store : TensionStore) (context : WorkItemContext)
    (params : CreateTensionParams) (tensionId : JsString) : Except AppError TensionStore := do
  let existing ← findTension store params.workspaceId tensionId
  invariant (privacyFilter context.actor context.membership existing.isPrivate
      (existing.status = .draft) (some existing.authorUserId) && context.readable existing.id)
    404 "NOT_FOUND" "Tension not found."
  let updateParams := params.duplicateUpdate context existing
  if updateParams.editsContent then
    updateTension store context updateParams
  else
    return store

/-! ## Publishing, drafts and the archive -/

section
variable (store : TensionStore) (context : WorkItemContext) (workspaceId tensionId : JsString)

/-- `publishTension` (line 847). -/
def publishTension : Except AppError TensionStore := do
  let tension ← findTension store workspaceId tensionId
  invariant tension.isPrivate 400 "INVALID_STATE" "Tension is already public."
  invariant (tension.status = .draft) 400 "INVALID_STATE" "Only draft tensions can be opened."
  requireTensionDraftManager context workspaceId tension
  return store.updateRow tensionId (fun tension => { tension with
    status := .opened
    isPrivate := false
    publishedAt := some context.now
    resolvedAt := none }) fun _ => rfl

/-- `returnTensionToDraft` (line 901). -/
def returnTensionToDraft : Except AppError TensionStore := do
  let tension ← findTension store workspaceId tensionId
  invariant (tension.status = .opened || tension.status = .resolved) 400 "INVALID_STATE"
    "Only open or resolved tensions can be returned to draft."
  requireTensionDraftManager context workspaceId tension
  return store.updateRow tensionId (fun tension => { tension with
    status := .draft
    isPrivate := true
    publishedAt := none
    resolvedVia := none
    resolvedAt := none }) fun _ => rfl

/-- `archiveWorkspaceArtifact` on a tension (`archive.ts:748`); `deleteTension` is one. -/
def archiveTension (reason : Option JsString) (expectedVersion : Option ℚ) :
    Except AppError TensionStore := do
  invariant (expectedVersion.all isArchiveVersion) 400 "INVALID_INPUT"
    "Expected version is invalid."
  let record ← findTension store workspaceId tensionId
  invariant (expectedVersion.all fun (expected : ℚ) => expected = record.version) 409
    "VERSION_CONFLICT" recordReload
  if record.archivedAt.isSome then
    return store
  return store.updateRow record.id (fun tension => { tension with
    archivedAt := some context.now
    archivedByUserId := context.actor.userId?
    archiveReason := JsString.trimOrNull reason }) fun _ => rfl

end

/-- `restoreWorkspaceArtifact` on a tension (`archive.ts:929`). -/
def restoreTension (store : TensionStore) (workspaceId tensionId : JsString)
    (expectedVersion : Option ℚ) : Except AppError TensionStore := do
  invariant (expectedVersion.all isArchiveVersion) 400 "INVALID_INPUT"
    "Expected version is invalid."
  let record ← findTension store workspaceId tensionId
  invariant record.archivedAt.isSome 400 "INVALID_STATE" "Tension is not archived."
  invariant (expectedVersion.all fun (expected : ℚ) => expected = record.version) 409
    "VERSION_CONFLICT" recordReload
  return store.updateRow record.id (fun tension => { tension with
    archivedAt := none
    archivedByUserId := none
    archiveReason := none }) fun _ => rfl

/-! ## The source tension of a proposal -/

section
variable (store : TensionStore) (context : WorkItemContext)

/-- `loadVisibleSourceTension` (`proposals.ts:302`), which takes no lock. -/
def loadVisibleSourceTension (workspaceId tensionId : JsString) : Except AppError TensionStore := do
  let missing := ⟨404, "NOT_FOUND", "Source tension not found."⟩
  let tension ← findTension store workspaceId tensionId missing
  invariant (tension.archivedAt.isNone && privacyFilter context.actor context.membership
      tension.isPrivate (tension.status = .draft) (some tension.authorUserId) &&
      context.readable tension.id) missing.status missing.code missing.message
  invariant (tension.proposalId.bind JsString.orNull).isNone 400 "INVALID_STATE"
    "Source tension is already linked to a proposal."
  return { store with reads := store.reads ++ [tension] }

/-- The part of `linkProposalSourcesAndActions` (`proposals.ts:620`) on the source tension, as it
was read. -/
def linkSourceTension (workspaceId proposalId : JsString) (sourceTension : Tension) :
    Except AppError TensionStore := do
  let (versions, newVersion) ← recordWorkItemVersion store.versions context.actor {
    workspaceId
    entityId := sourceTension.id
    currentVersion := sourceTension.version
    changedFields := ["proposalId"]
    previousState := tensionSnapshot sourceTension }
  invariant ((store.items.find? sourceTension.id).any fun tension =>
      tension.workspaceId = workspaceId && tension.archivedAt.isNone && tension.proposalId.isNone &&
        tension.version = sourceTension.version && privacyFilter context.actor context.membership
          tension.isPrivate (tension.status = .draft) (some tension.authorUserId)) 409
    "VERSION_CONFLICT"
    "The source tension changed before this update could be applied. Please refresh and try again."
  return { store with versions }.updateRow sourceTension.id (fun tension => { tension with
    proposalId := some proposalId
    version := newVersion }) fun _ => rfl

end

/-! ## Runs -/

/-- One transaction on the tensions of some workspace. -/
inductive TensionTransaction
  | create (params : CreateTensionParams)
  | updateDuplicate (params : CreateTensionParams) (tensionId : JsString)
  | update (params : UpdateTensionParams)
  | publish (workspaceId tensionId : JsString)
  | returnToDraft (workspaceId tensionId : JsString)
  | archive (workspaceId tensionId : JsString) (reason : Option JsString)
      (expectedVersion : Option ℚ)
  | restore (workspaceId tensionId : JsString) (expectedVersion : Option ℚ)
  | readSource (workspaceId tensionId : JsString)
  | linkSource (workspaceId proposalId : JsString) (index : Nat)

/-- What a transaction does to the rows, or the error that it is rolled back with. The proposal
request links one of the tensions that have been read as a source. -/
def TensionTransaction.perform (context : WorkItemContext) (store : TensionStore) :
    TensionTransaction → Except AppError TensionStore
  | .create params => createTension store context params
  | .updateDuplicate params tensionId => updateDuplicateTension store context params tensionId
  | .update params => updateTension store context params
  | .publish workspaceId tensionId => publishTension store context workspaceId tensionId
  | .returnToDraft workspaceId tensionId =>
    returnTensionToDraft store context workspaceId tensionId
  | .archive workspaceId tensionId reason expectedVersion =>
    archiveTension store context workspaceId tensionId reason expectedVersion
  | .restore workspaceId tensionId expectedVersion =>
    restoreTension store workspaceId tensionId expectedVersion
  | .readSource workspaceId tensionId =>
    loadVisibleSourceTension store context workspaceId tensionId
  | .linkSource workspaceId proposalId index =>
    match store.reads[index]? with
    | none => throw ⟨404, "NOT_FOUND", "Source tension not found."⟩
    | some sourceTension =>
      linkSourceTension store context workspaceId proposalId sourceTension

/-- One step of a run: a transaction, and what its request reads. -/
structure TensionStep where
  context : WorkItemContext
  transaction : TensionTransaction

/-- The rows after a step: a transaction that fails is rolled back. -/
def TensionStep.apply (store : TensionStore) (step : TensionStep) : TensionStore :=
  match step.transaction.perform step.context store with
  | .ok store' => store'
  | .error _ => store

/-- The rows after steps that run one at a time. -/
def runTensionSteps (steps : List TensionStep) : TensionStore :=
  steps.foldl TensionStep.apply .empty

/-- The step succeeds on the rows. -/
def TensionStep.Succeeds (store : TensionStore) (step : TensionStep) : Prop :=
  (step.transaction.perform step.context store).isOk

theorem TensionStep.apply_cases (store : TensionStore) (step : TensionStep) :
    (step.apply store = store ∧ ¬ step.Succeeds store) ∨
      (step.transaction.perform step.context store = .ok (step.apply store) ∧
        step.Succeeds store) := by
  unfold TensionStep.apply TensionStep.Succeeds
  cases step.transaction.perform step.context store with
  | ok store' => exact .inr ⟨rfl, rfl⟩
  | error e => exact .inl ⟨rfl, nofun⟩

/-! ## What a transaction does -/

namespace TensionData

/-- Without changed fields an update leaves the row as it is. -/
theorem apply_eq_self {data : TensionData} {tension : Tension}
    (h : data.changedFields tension = []) : data.apply tension = tension := by
  simp only [changedFields, changedContentFields, List.append_eq_nil_iff, changedField_eq_nil] at h
  obtain ⟨⟨⟨⟨⟨⟨hcontent, hstatus⟩, hprivate⟩, hpublished⟩, hvia⟩, hresolved⟩, hversion⟩ := h
  obtain ⟨⟨⟨⟨⟨⟨htitle, hbody⟩, hcircle⟩, hassignee⟩, hraised⟩, hproposal⟩, hpriority⟩ := hcontent
  simp only [apply, applyContent, htitle, hbody, hcircle, hassignee, hraised, hproposal, hpriority,
    hstatus, hprivate, hpublished, hvia, hresolved, hversion]

theorem applyContent_eq_self {data : TensionData} {content : TensionContent}
    (h : data.changedContentFields content = []) : data.applyContent content = content := by
  simp only [changedContentFields, List.append_eq_nil_iff, changedField_eq_nil] at h
  obtain ⟨⟨⟨⟨⟨⟨htitle, hbody⟩, hcircle⟩, hassignee⟩, hraised⟩, hproposal⟩, hpriority⟩ := h
  simp only [applyContent, htitle, hbody, hcircle, hassignee, hraised, hproposal, hpriority]

end TensionData

/-- A request that publishes a tension and asks for it to be private. -/
def UpdateTensionParams.hides (params : UpdateTensionParams) : Bool :=
  params.status.any (· ≠ .draft) && params.isPrivate = some true

/-- A transaction that is such a request. -/
def TensionTransaction.hides : TensionTransaction → Bool
  | .update params => params.hides
  | _ => false

/-- The version of a tension that a transaction expects. -/
def TensionTransaction.expects : TensionTransaction → Option (JsString × ℚ)
  | .update params => params.expectedVersion.map fun e => (params.tensionId, e)
  | .archive _ tensionId _ expectedVersion => expectedVersion.map fun e => (tensionId, e)
  | .restore _ tensionId expectedVersion => expectedVersion.map fun e => (tensionId, e)
  | _ => none

/-- What can happen to a tension without a change of its content. -/
inductive TensionChange (now : Int) (old : Tension) : Tension → Prop
  | publish : old.status = .draft → TensionChange now old { old with
      status := .opened, isPrivate := false, publishedAt := some now, resolvedAt := none }
  | returnToDraft : TensionChange now old { old with
      status := .draft, isPrivate := true, publishedAt := none, resolvedVia := none
      resolvedAt := none }
  | archive (archivedAt : Option Int) (archivedByUserId archiveReason : Option JsString) :
      TensionChange now old { old with archivedAt, archivedByUserId, archiveReason }

/-- What a successful `updateTension` does to the tension `old`. -/
structure TensionEdit (context : WorkItemContext) (store : TensionStore)
    (params : UpdateTensionParams) (old : Tension) (data : TensionData)
    (versions : WorkItemVersionTable TensionSnapshot) (version : Option Nat)
    (store' : TensionStore) : Prop where
  isDraft : params.isPrivate.isSome → old.status = .draft
  data_ok : params.data context old = .ok data
  recorded : recordContentVersion store.versions context.actor {
    workspaceId := params.workspaceId
    entityId := old.id
    currentVersion := old.version
    changedFields := data.changedContentFields old.toTensionContent
    previousState := tensionSnapshot old } = .ok (versions, version)
  write : ItemWrite store versions old ({ data with version }.apply old) store'

/-- What a transaction does when it succeeds. -/
inductive TensionEffect (context : WorkItemContext) (store : TensionStore) (hides : Bool)
    (store' : TensionStore) : Prop
  | keep : store' = store → TensionEffect context store hides store'
  | read (tension : Tension) : store.items.find? tension.id = some tension →
      store' = { store with reads := store.reads ++ [tension] } →
      TensionEffect context store hides store'
  | create (row : Tension) (isPrivate : Bool) : store.items.find? row.id = none →
      row.version = 1 → row.isPrivate = isPrivate →
      row.status = (if isPrivate then .draft else .opened) →
      row.publishedAt = (if isPrivate then none else some context.now) → row.resolvedAt = none →
      store'.items.rows = store.items.rows ++ [row] → store'.versions = store.versions →
      store'.reads = store.reads → TensionEffect context store hides store'
  | change (old new : Tension) : ItemWrite store store.versions old new store' →
      TensionChange context.now old new → TensionEffect context store hides store'
  | edit (params : UpdateTensionParams) (old : Tension) (data : TensionData)
      (versions : WorkItemVersionTable TensionSnapshot) (version : Option Nat) :
      params.hides = hides → TensionEdit context store params old data versions version store' →
      TensionEffect context store hides store'
  | link (source old new : Tension) (workspaceId proposalId : JsString)
      (versions : WorkItemVersionTable TensionSnapshot) (newVersion : Nat) :
      source ∈ store.reads → old.id = source.id → old.version = source.version →
      recordWorkItemVersion store.versions context.actor {
        workspaceId
        entityId := source.id
        currentVersion := source.version
        changedFields := ["proposalId"]
        previousState := tensionSnapshot source } = .ok (versions, newVersion) →
      ItemWrite store versions old new store' →
      new = { old with proposalId := some proposalId, version := newVersion } →
      TensionEffect context store hides store'

section
variable {store store' : TensionStore} {context : WorkItemContext}
  {workspaceId tensionId : JsString} {tension : Tension} {missing : AppError} {hides : Bool}

theorem findTension_ok (h : findTension store workspaceId tensionId missing = .ok tension) :
    store.items.find? tension.id = some tension ∧ tension.id = tensionId :=
  ItemStore.findItem_ok h

section
variable {params : UpdateTensionParams} (h : updateTension store context params = .ok store')
include h

theorem updateTension_edit : (∃ old data versions version,
      TensionEdit context store params old data versions version store') ∧
      ∀ e, params.expectedVersion = some e →
        ∃ tension, store.items.find? params.tensionId = some tension ∧ e = tension.version := by
  obtain ⟨tension, htension, h⟩ := bind_ok.1 h
  obtain ⟨_, h⟩ := invariant_bind_ok.1 h
  obtain ⟨_, h⟩ := invariant_bind_ok.1 h
  obtain ⟨_, _, h⟩ := bind_ok.1 h
  obtain ⟨_, hprivate, h⟩ := bind_ok.1 h
  obtain ⟨data, hdata, h⟩ := bind_ok.1 h
  obtain ⟨_, h⟩ := invariant_bind_ok.1 h
  obtain ⟨_, hversion, h⟩ := bind_ok.1 h
  obtain ⟨⟨versions, version⟩, hrecord, h⟩ := bind_ok.1 h
  obtain ⟨hfound, hid⟩ := findTension_ok htension
  refine ⟨⟨tension, data, versions, version, fun hsome => ?_, hdata, hrecord, ?_⟩,
    fun e he => ⟨tension, hid ▸ hfound, (checkExpectedVersion_eq_ok.1 hversion e he).1⟩⟩
  · rw [checkIf, if_pos hsome] at hprivate
    exact of_decide_eq_true (invariant_bind_ok.1 hprivate).1
  · dsimp only at h
    rw [← hid] at h
    split at h
    · next hnil =>
      -- nothing has changed, so no version was recorded either
      obtain rfl := ok.inj h
      have hcontent : data.changedContentFields tension.toTensionContent = [] := by
        simp only [TensionData.changedFields, List.append_eq_nil_iff] at hnil
        exact hnil.1.1.1.1.1.1
      have hsame : versions = store.versions := by
        rcases recordContentVersion_ok hrecord with ⟨_, hsame, _⟩ | ⟨hne, _⟩
        · exact hsame
        · exact absurd hcontent hne
      rw [TensionData.apply_eq_self hnil, hsame]
      exact .refl hfound
    · exact ok.inj h ▸ .updateRow hfound

theorem updateTension_effect : TensionEffect context store params.hides store' := by
  obtain ⟨⟨old, data, versions, version, hedit⟩, _⟩ := updateTension_edit h
  exact .edit params old data versions version rfl hedit

end

theorem createTension_effect {params : CreateTensionParams}
    (h : createTension store context params = .ok store') :
    TensionEffect context store hides store' := by
  obtain ⟨_, _, h⟩ := bind_ok.1 h
  obtain ⟨_, h⟩ := invariant_bind_ok.1 h
  obtain ⟨raisedByMemberId, _, h⟩ := bind_ok.1 h
  obtain ⟨assigneeMemberId, _, h⟩ := bind_ok.1 h
  obtain ⟨proposalId, _, h⟩ := bind_ok.1 h
  obtain ⟨items, hitems, h⟩ := bind_ok.1 h
  obtain rfl := ok.inj h
  obtain ⟨hnew, hrows⟩ := createRow_ok hitems
  exact .create _ (params.isPrivate.getD true) hnew rfl rfl rfl rfl rfl hrows rfl rfl

theorem publishTension_effect
    (h : publishTension store context workspaceId tensionId = .ok store') :
    TensionEffect context store hides store' := by
  obtain ⟨tension, htension, h⟩ := bind_ok.1 h
  obtain ⟨_, h⟩ := invariant_bind_ok.1 h
  obtain ⟨hdraft, h⟩ := invariant_bind_ok.1 h
  obtain ⟨_, _, h⟩ := bind_ok.1 h
  obtain rfl := ok.inj h
  obtain ⟨hfound, rfl⟩ := findTension_ok htension
  exact .change tension _ (.of_updateRow hfound) (.publish (of_decide_eq_true hdraft))

theorem returnTensionToDraft_effect
    (h : returnTensionToDraft store context workspaceId tensionId = .ok store') :
    TensionEffect context store hides store' := by
  obtain ⟨tension, htension, h⟩ := bind_ok.1 h
  obtain ⟨_, h⟩ := invariant_bind_ok.1 h
  obtain ⟨_, _, h⟩ := bind_ok.1 h
  obtain rfl := ok.inj h
  obtain ⟨hfound, rfl⟩ := findTension_ok htension
  exact .change tension _ (.of_updateRow hfound) .returnToDraft

theorem archiveTension_effect {reason : Option JsString} {expectedVersion : Option ℚ}
    (h : archiveTension store context workspaceId tensionId reason expectedVersion = .ok store') :
    TensionEffect context store hides store' ∧ ∀ e, expectedVersion = some e →
      ∃ tension, store.items.find? tensionId = some tension ∧ e = tension.version := by
  obtain ⟨_, h⟩ := invariant_bind_ok.1 h
  obtain ⟨record, hrecord, h⟩ := bind_ok.1 h
  obtain ⟨hversion, h⟩ := invariant_bind_ok.1 h
  obtain ⟨hfound, hid⟩ := findTension_ok hrecord
  refine ⟨?_, ?_⟩
  · split at h
    · exact .keep (ok.inj h).symm
    · exact ok.inj h ▸ .change record _ (.of_updateRow hfound) (.archive ..)
  · rintro e rfl
    exact ⟨record, hid ▸ hfound, of_decide_eq_true hversion⟩

theorem restoreTension_effect {expectedVersion : Option ℚ}
    (h : restoreTension store workspaceId tensionId expectedVersion = .ok store') :
    TensionEffect context store hides store' ∧ ∀ e, expectedVersion = some e →
      ∃ tension, store.items.find? tensionId = some tension ∧ e = tension.version := by
  obtain ⟨_, h⟩ := invariant_bind_ok.1 h
  obtain ⟨record, hrecord, h⟩ := bind_ok.1 h
  obtain ⟨_, h⟩ := invariant_bind_ok.1 h
  obtain ⟨hversion, h⟩ := invariant_bind_ok.1 h
  obtain ⟨hfound, hid⟩ := findTension_ok hrecord
  obtain rfl := ok.inj h
  refine ⟨.change record _ (.of_updateRow hfound) (.archive ..), ?_⟩
  rintro e rfl
  exact ⟨record, hid ▸ hfound, of_decide_eq_true hversion⟩

theorem linkSourceTension_effect {proposalId : JsString} (hread : tension ∈ store.reads)
    (h : linkSourceTension store context workspaceId proposalId tension = .ok store') :
    TensionEffect context store hides store' := by
  obtain ⟨⟨versions, newVersion⟩, hrecord, h⟩ := bind_ok.1 h
  obtain ⟨hrow, h⟩ := invariant_bind_ok.1 h
  obtain rfl := ok.inj h
  obtain ⟨old, hold, hrow⟩ := (Option.any_eq_true ..).1 hrow
  simp only [Bool.and_eq_true, decide_eq_true_eq] at hrow
  have hid := (KeyedTable.find?_eq_some.1 hold).2
  rw [← hid] at hold ⊢
  exact .link tension old _ workspaceId proposalId versions newVersion hread hid hrow.1.2 hrecord
    (.updateRow hold) rfl

/-- **What a transaction on tensions does.** One that succeeds has one of the effects, and meets the
version that it expects. -/
theorem TensionTransaction.perform_effect {transaction : TensionTransaction}
    (h : transaction.perform context store = .ok store') :
    TensionEffect context store transaction.hides store' ∧
      ∀ id e, transaction.expects = some (id, e) →
        ∃ tension, store.items.find? id = some tension ∧ e = tension.version := by
  cases transaction <;> simp only [TensionTransaction.perform] at h
  case create params => exact ⟨createTension_effect h, nofun⟩
  case updateDuplicate params tensionId =>
    refine ⟨?_, nofun⟩
    obtain ⟨existing, _, h⟩ := bind_ok.1 h
    obtain ⟨_, h⟩ := invariant_bind_ok.1 h
    dsimp only at h
    split at h
    · exact updateTension_effect h
    · exact .keep (ok.inj h).symm
  case update params =>
    exact ⟨updateTension_effect h, ItemStore.expects_map (updateTension_edit h).2⟩
  case publish workspaceId tensionId => exact ⟨publishTension_effect h, nofun⟩
  case returnToDraft workspaceId tensionId => exact ⟨returnTensionToDraft_effect h, nofun⟩
  case archive workspaceId tensionId reason expectedVersion =>
    exact (archiveTension_effect h).imp_right ItemStore.expects_map
  case restore workspaceId tensionId expectedVersion =>
    exact (restoreTension_effect h).imp_right ItemStore.expects_map
  case readSource workspaceId tensionId =>
    refine ⟨?_, nofun⟩
    obtain ⟨tension, htension, h⟩ := bind_ok.1 h
    obtain ⟨_, h⟩ := invariant_bind_ok.1 h
    obtain ⟨_, h⟩ := invariant_bind_ok.1 h
    exact .read tension (findTension_ok htension).1 (ok.inj h).symm
  case linkSource workspaceId proposalId index =>
    refine ⟨?_, nofun⟩
    cases hsource : store.reads[index]? with
    | none =>
      rw [hsource] at h
      cases h
    | some source =>
      rw [hsource] at h
      exact linkSourceTension_effect (List.mem_of_getElem? hsource) h

end

end Corgtex.Domain
