import Corgtex.Domain.Actions
import Corgtex.Library.JsArray

/-!
# Duplicate actions

`inspectPair` (`action-duplicates.ts`) reads two actions, the actions that are
marked as duplicates of one of them, and what refers to that one, and lists what stands in the way
of a merge. `resolveActionDuplicate` merges the two when nothing does. The transaction is cut here
at its reads: `inspectPair` is a function of what was read, and `mergeActions` of the rows at the
time of the writes. On rows that have not changed in between, it is the `resolveActionDuplicate` of
`Actions` (`mergeActions_atomic`).
-/

namespace Corgtex.Domain

open JsArray

/-! ## Texts -/

/-- The meeting link of a body, at its first character: its workspace and its meeting. The match of
`/\/workspaces\/([^/\s)]+)\/meetings\/([0-9a-f-]{36})/i` is determined, as a workspace segment ends
at the next slash. -/
def meetingLink (text : JsString) : Option (JsString × JsString) := do
  let text ← after (.lit "/workspaces/") text
  let workspace := text.takeWhile segment
  if workspace = [] then none
  let text ← after (.lit "/meetings/") (text.dropWhile segment)
  let meeting := text.take 36
  if meeting.length = 36 && meeting.all fun u => JsString.isHexDigit u || u = 0x2D then
    some (workspace, meeting)
  else none
where
  /-- The text behind a literal, in any case. -/
  after (literal text : JsString) : Option JsString :=
    let lower (u : UInt16) : UInt16 := if 0x41 ≤ u ∧ u ≤ 0x5A then u + 0x20 else u
    if (text.take literal.length).map lower = literal then some (text.drop literal.length) else none
  /-- `[^/\s)]`. -/
  segment (u : UInt16) : Bool := u ≠ 0x2F && !JsString.isSpace u && u ≠ 0x29

/-- `meetingSourceId` (line 14). -/
def meetingSourceId (bodyMd : Option JsString) (workspaceId : JsString) : Option JsString :=
  match bodyMd.bind fun body => body.tails.findSome? meetingLink with
  | some (workspace, meeting) => if workspace = workspaceId then some meeting else none
  | none => none

section
variable (normalizeDuplicateGuardText : JsString → JsString)

/-- The words of a title that count. -/
def titleTokens (title : JsString) : List JsString :=
  distinct ((JsString.split 0x20 (normalizeDuplicateGuardText title)).filter fun word =>
    word.length > 2)

/-- `titleOverlap` (line 19). -/
def titleOverlap (left right : JsString) : ℚ :=
  let leftTokens := titleTokens normalizeDuplicateGuardText left
  let rightTokens := titleTokens normalizeDuplicateGuardText right
  let common := (leftTokens.filter fun word => rightTokens.contains word).length
  common / max 1 (min leftTokens.length rightTokens.length)

end

/-! ## The inspection -/

/-- A `Pair` (line 12). -/
structure ActionPair where
  workspaceId : JsString
  canonicalId : JsString
  duplicateId : JsString

/-- What `inspectPair` returns of an action. -/
structure ActionSummary where
  id : JsString
  title : JsString
  bodyMd : Option JsString
  status : ActionStatus
  version : Nat
deriving DecidableEq

def ActionSummary.of (action : Action) : ActionSummary :=
  ⟨action.id, action.title, action.bodyMd, action.status, action.version⟩

/-- What `inspectPair` returns, without `eligible`. -/
structure DuplicatePreview where
  canonical : ActionSummary
  duplicate : ActionSummary
  sameMeetingSource : Bool
  mergedBodyMd : Option JsString
  blockers : List String

/-- `eligible`. -/
def DuplicatePreview.isEligible (preview : DuplicatePreview) : Bool := preview.blockers.length = 0

/-- `if (…) blockers.push(…)`. -/
def blocker (condition : Bool) (text : String) : List String := if condition then [text] else []

/-- The blocker of a field that differs (line 61). -/
def differs {β : Type} [DecidableEq β] (field : String) (left right : β) : List String :=
  blocker (left ≠ right) (field ++ " differs between the Actions.")

/-- Both bodies link to one meeting of the workspace. -/
def sameMeeting (workspaceId : JsString) (canonical duplicate : Action) : Bool :=
  let canonicalMeetingId := meetingSourceId canonical.bodyMd workspaceId
  canonicalMeetingId.isSome && canonicalMeetingId = meetingSourceId duplicate.bodyMd workspaceId

section
variable (normalizeDuplicateGuardText : JsString → JsString)

/-- The texts are too different for a merge (line 55). -/
def differentText (workspaceId : JsString) (canonical duplicate : Action) : Bool :=
  (canonical.title ≠ duplicate.title || canonical.bodyMd ≠ duplicate.bodyMd) &&
    (!sameMeeting workspaceId canonical duplicate ||
      titleOverlap normalizeDuplicateGuardText canonical.title duplicate.title < 1 / 2)

/-- `inspectPair` (line 34), on the two rows, the number of actions that are marked as duplicates of
the second one, and the numbers of what refers to it. -/
def inspectPair (pair : ActionPair)
    (rows : List Action) (marked : Nat) (referenceCounts : List Nat) :
    Except AppError DuplicatePreview := do
  invariant (pair.canonicalId ≠ pair.duplicateId) 400 "INVALID_INPUT"
    "Choose two different Actions."
  match rows.find? (·.id = pair.canonicalId), rows.find? (·.id = pair.duplicateId) with
  | some canonical, some duplicate => return {
      canonical := .of canonical
      duplicate := .of duplicate
      sameMeetingSource := sameMeeting pair.workspaceId canonical duplicate
      mergedBodyMd := mergedBody normalizeDuplicateGuardText canonical duplicate
      blockers :=
        blocker (canonical.archivedAt.isSome || duplicate.archivedAt.isSome)
          "Both Actions must be active." ++
        blocker ((canonical.duplicateOfActionId.bind JsString.orNull).isSome ||
            (duplicate.duplicateOfActionId.bind JsString.orNull).isSome || marked > 0)
          "An Action in this pair already has a duplicate resolution." ++
        blocker (canonical.isPrivate && canonical.authorUserId ≠ duplicate.authorUserId)
          "Private Actions from different authors cannot be merged." ++
        blocker (differentText normalizeDuplicateGuardText pair.workspaceId canonical duplicate)
          "Different text requires the same meeting source and a closely related title." ++
        differs "status" canonical.status duplicate.status ++
        differs "isPrivate" canonical.isPrivate duplicate.isPrivate ++
        differs "assigneeMemberId" canonical.assigneeMemberId duplicate.assigneeMemberId ++
        differs "circleId" canonical.circleId duplicate.circleId ++
        differs "dueAt" canonical.dueAt duplicate.dueAt ++
        differs "proposalId" canonical.proposalId duplicate.proposalId ++
        differs "priority" canonical.priority duplicate.priority ++
        differs "completedVia" canonical.completedVia duplicate.completedVia ++
        blocker (referenceCounts.any (· > 0))
          ("The duplicate has checklist items or linked work; " ++
            "merge those explicitly before archiving it.") }
  | _, _ => throw ⟨404, "NOT_FOUND", "Both Actions must exist in this workspace."⟩

end

/-! ## The merge -/

/-- The pair of a request. -/
def ResolveActionDuplicateParams.toPair (params : ResolveActionDuplicateParams) : ActionPair :=
  ⟨params.workspaceId, params.canonicalId, params.duplicateId⟩

/-- The rows of a pair: `findMany({ where: { workspaceId, id: { in: […] } } })`. -/
def ActionPair.rows (pair : ActionPair) (store : ActionStore) : List Action :=
  store.items.rows.filter fun action => action.workspaceId = pair.workspaceId &&
    [pair.canonicalId, pair.duplicateId].contains action.id

/-- The number of actions that are marked as duplicates of the second one of a pair. -/
def ActionPair.marked (pair : ActionPair) (store : ActionStore) : Nat :=
  (store.items.rows.filter fun action => action.workspaceId = pair.workspaceId &&
    action.duplicateOfActionId = some pair.duplicateId).length

/-- The checks before the transaction (line 108). -/
def requireDuplicateResolution (context : WorkItemContext) (params : ResolveActionDuplicateParams) :
    Except AppError Unit := do
  invariant (context.actor.userId?.isSome && context.membership.any (·.role = .admin)) 403
    "FORBIDDEN" "A workspace admin must review Action duplicates."
  invariant (params.confirmDuplicateId = params.duplicateId) 400 "INVALID_INPUT"
    "Confirm the exact Action to archive."

theorem ResolveActionDuplicateParams.id_mark (params : ResolveActionDuplicateParams)
    (action : Action) :
    ({ action with duplicateOfActionId := some params.canonicalId } : Action).id = action.id := rfl

/-- What the transaction writes to the actions once the pair has been inspected (line 117). The
update of the canonical action asks for the version that was read, which it still has as its row is
locked. -/
def mergeActions (store : ActionStore) (context : WorkItemContext)
    (params : ResolveActionDuplicateParams) (preview : DuplicatePreview) :
    Except AppError ActionStore := do
  invariant (params.expectedCanonicalVersion = preview.canonical.version &&
      params.expectedDuplicateVersion = preview.duplicate.version) 409 "VERSION_CONFLICT"
    "An Action changed. Review both records again."
  invariant preview.isEligible 409 "ACTION_DUPLICATE_NOT_SAFE" (" ".intercalate preview.blockers)
  let (versions, version) ← recordContentVersion store.versions context.actor {
    workspaceId := params.workspaceId
    entityId := params.canonicalId
    currentVersion := preview.canonical.version
    changedFields := changedField "bodyMd" preview.canonical.bodyMd (some preview.mergedBodyMd)
    previousState := .bodyMd preview.canonical.bodyMd }
  let store := { store with versions }.updateRow params.canonicalId (fun action => { action with
    bodyMd := preview.mergedBodyMd
    version := version.getD action.version }) fun _ => rfl
  let store := store.updateRow params.duplicateId (fun action => { action with
    duplicateOfActionId := some params.canonicalId }) params.id_mark
  archiveAction store context params.workspaceId params.duplicateId
    (some (.lit "Duplicate of Action " ++ params.canonicalId ++
      .lit "; reviewed by a workspace admin.")) none

/-! ## One transaction -/

section
variable {store store' : ActionStore} {context : WorkItemContext}
  {params : ResolveActionDuplicateParams} {pair : ActionPair} {action canonical duplicate : Action}
  {normalize : JsString → JsString} {rows : List Action} {marked : Nat} {referenceCounts : List Nat}
  {preview : DuplicatePreview}

theorem blocker_eq_nil {condition : Bool} {text : String} :
    blocker condition text = [] ↔ condition = false := by
  cases condition <;> simp [blocker]

theorem differs_eq_nil {β : Type} [DecidableEq β] {field : String} {left right : β} :
    differs field left right = [] ↔ left = right := by
  simp [differs, blocker_eq_nil]

/-- An inspection has found both actions, and they are what the preview shows. -/
structure Inspected (normalize : JsString → JsString) (pair : ActionPair) (rows : List Action)
    (canonical duplicate : Action) (preview : DuplicatePreview) : Prop where
  ne : pair.canonicalId ≠ pair.duplicateId
  canonical_mem : canonical ∈ rows
  canonical_id : canonical.id = pair.canonicalId
  duplicate_mem : duplicate ∈ rows
  duplicate_id : duplicate.id = pair.duplicateId
  canonical_eq : preview.canonical = .of canonical
  duplicate_eq : preview.duplicate = .of duplicate
  mergedBodyMd : preview.mergedBodyMd = mergedBody normalize canonical duplicate

/-- Nothing stands in the way of a merge. -/
structure MergeableActions (normalize : JsString → JsString) (workspaceId : JsString)
    (canonical duplicate : Action) (marked : Nat) (referenceCounts : List Nat) : Prop where
  active : canonical.archivedAt = none ∧ duplicate.archivedAt = none
  unmarked : canonical.duplicateOfActionId.bind JsString.orNull = none ∧
    duplicate.duplicateOfActionId.bind JsString.orNull = none
  not_canonical : marked = 0
  author : canonical.isPrivate = true → canonical.authorUserId = duplicate.authorUserId
  text : differentText normalize workspaceId canonical duplicate = false
  status : canonical.status = duplicate.status
  isPrivate : canonical.isPrivate = duplicate.isPrivate
  assigneeMemberId : canonical.assigneeMemberId = duplicate.assigneeMemberId
  circleId : canonical.circleId = duplicate.circleId
  dueAt : canonical.dueAt = duplicate.dueAt
  proposalId : canonical.proposalId = duplicate.proposalId
  priority : canonical.priority = duplicate.priority
  completedVia : canonical.completedVia = duplicate.completedVia
  unreferenced : referenceCounts.any (· > 0) = false

/-- **An inspection** shows the two actions, and is eligible just when they can be merged. -/
theorem inspectPair_ok (h : inspectPair normalize pair rows marked referenceCounts = .ok preview) :
    ∃ canonical duplicate, Inspected normalize pair rows canonical duplicate preview ∧
      (preview.isEligible = true ↔ MergeableActions normalize pair.workspaceId canonical duplicate
        marked referenceCounts) := by
  obtain ⟨hne, h⟩ := invariant_bind_ok.1 h
  split at h
  · next canonical duplicate hcanonical hduplicate =>
    obtain rfl := Except.ok.inj h
    refine ⟨canonical, duplicate, ⟨of_decide_eq_true hne, List.mem_of_find?_eq_some hcanonical,
      of_decide_eq_true (List.find?_some hcanonical :), List.mem_of_find?_eq_some hduplicate,
      of_decide_eq_true (List.find?_some hduplicate :), rfl, rfl, rfl⟩, ?_⟩
    simp only [DuplicatePreview.isEligible, decide_eq_true_eq, List.length_eq_zero_iff,
      List.append_eq_nil_iff, blocker_eq_nil, differs_eq_nil, Bool.or_eq_false_iff,
      Option.isSome_eq_false_iff, Option.isNone_iff_eq_none, decide_eq_false_iff_not, not_lt,
      Nat.le_zero, Bool.and_eq_false_imp, ne_eq, not_not, gt_iff_lt]
    constructor
    · rintro ⟨⟨⟨⟨⟨⟨⟨⟨⟨⟨⟨⟨hactive, hmarks⟩, hauthor⟩, htext⟩, hstatus⟩, hprivate⟩, hassignee⟩,
        hcircle⟩, hdue⟩, hproposal⟩, hpriority⟩, hvia⟩, hreferences⟩
      exact ⟨hactive, hmarks.1, hmarks.2, hauthor, htext, hstatus, hprivate, hassignee, hcircle,
        hdue, hproposal, hpriority, hvia, hreferences⟩
    · intro h
      exact ⟨⟨⟨⟨⟨⟨⟨⟨⟨⟨⟨⟨h.active, h.unmarked, h.not_canonical⟩, h.author⟩, h.text⟩, h.status⟩,
        h.isPrivate⟩, h.assigneeMemberId⟩, h.circleId⟩, h.dueAt⟩, h.proposalId⟩, h.priority⟩,
        h.completedVia⟩, h.unreferenced⟩
  · cases h

theorem findAction_of_rows {missing : AppError} (hmem : action ∈ pair.rows store) :
    findAction store pair.workspaceId action.id missing = .ok action := by
  obtain ⟨hrow, htest⟩ := List.mem_filter.1 hmem
  simp only [Bool.and_eq_true, decide_eq_true_eq] at htest
  rw [findAction, ItemStore.findItem, store.items.find?_key hrow, Option.filter_some,
    if_pos (by simp [htest.1])]
  rfl

/-- What `resolveActionDuplicate` is told about the two actions of an inspection. -/
def duplicatePair (normalize : JsString → JsString) (workspaceId : JsString)
    (canonical duplicate : Action) (referenceCounts : List Nat) : DuplicatePair where
  sameText := !differentText normalize workspaceId canonical duplicate
  unreferenced := !referenceCounts.any (· > 0)

theorem marked_eq_zero : pair.marked store = 0 ↔
    ∀ action ∈ store.items.rows, action.workspaceId = pair.workspaceId →
      action.duplicateOfActionId ≠ some pair.duplicateId := by
  simp [ActionPair.marked, List.filter_eq_nil_iff]

/-- Two actions that can be merged pass the test of `resolveActionDuplicate`. -/
theorem MergeableActions.eligible
    (h : MergeableActions normalize pair.workspaceId canonical duplicate (pair.marked store)
      referenceCounts)
    (hworkspace : duplicate.workspaceId = pair.workspaceId)
    (hid : duplicate.id = pair.duplicateId) :
    (duplicatePair normalize pair.workspaceId canonical duplicate referenceCounts).eligible store
      canonical duplicate = true := by
  have hmarked : store.items.rows.any (fun action => action.workspaceId = duplicate.workspaceId &&
      action.duplicateOfActionId = some duplicate.id) = false := by
    rw [List.any_eq_false]
    intro action hmem
    have hnot := marked_eq_zero.1 h.not_canonical action hmem
    rw [hworkspace, hid]
    simpa using hnot
  have hauthor := h.author
  simp only [DuplicatePair.eligible, duplicatePair, hmarked, h.active.1, h.active.2, h.unmarked.1,
    h.unmarked.2, h.text, h.unreferenced, ← h.status, ← h.isPrivate, ← h.assigneeMemberId,
    ← h.circleId, ← h.dueAt, ← h.proposalId, ← h.priority, ← h.completedVia, Option.isNone_none,
    Bool.not_false, Bool.and_true, decide_true, Bool.true_and, Bool.not_eq_true',
    Bool.and_eq_false_imp, decide_eq_false_iff_not, ne_eq, not_not]
  exact hauthor

/-- **A merge of actions as they were read** is the transaction that resolves the duplicate at
once. -/
theorem mergeActions_atomic (hrequired : requireDuplicateResolution context params = .ok ())
    (hpreview : inspectPair context.normalizeDuplicateGuardText params.toPair
      (params.toPair.rows store) (params.toPair.marked store) referenceCounts = .ok preview)
    (h : mergeActions store context params preview = .ok store') :
    ∃ pair, resolveActionDuplicate store context params pair = .ok store' := by
  obtain ⟨canonical, duplicate, hinspected, heligible⟩ := inspectPair_ok hpreview
  obtain ⟨hadmin, hrequired⟩ := invariant_bind_ok.1 hrequired
  obtain ⟨hversions, h⟩ := invariant_bind_ok.1 h
  obtain ⟨hmergeable, h⟩ := invariant_bind_ok.1 h
  rw [hinspected.canonical_eq, hinspected.duplicate_eq] at hversions
  have hconfirm : (decide (params.confirmDuplicateId = params.duplicateId)) = true := by
    by_contra hnot
    rw [Bool.eq_false_iff.2 hnot] at hrequired
    cases hrequired
  have hworkspace : duplicate.workspaceId = params.toPair.workspaceId := by
    have htest := (List.mem_filter.1 hinspected.duplicate_mem).2
    simp only [Bool.and_eq_true, decide_eq_true_eq] at htest
    exact htest.1
  refine ⟨duplicatePair context.normalizeDuplicateGuardText params.workspaceId canonical duplicate
    referenceCounts, ?_⟩
  refine invariant_bind_ok.2 ⟨hadmin, invariant_bind_ok.2 ⟨hconfirm, invariant_bind_ok.2
    ⟨decide_eq_true hinspected.ne, ?_⟩⟩⟩
  have hcanonical : findAction store params.workspaceId params.canonicalId
      ⟨404, "NOT_FOUND", "Both Actions must exist in this workspace."⟩ = .ok canonical := by
    have hid : canonical.id = params.canonicalId := hinspected.canonical_id
    rw [← hid]
    exact findAction_of_rows hinspected.canonical_mem
  have hduplicate : findAction store params.workspaceId params.duplicateId
      ⟨404, "NOT_FOUND", "Both Actions must exist in this workspace."⟩ = .ok duplicate := by
    have hid : duplicate.id = params.duplicateId := hinspected.duplicate_id
    rw [← hid]
    exact findAction_of_rows hinspected.duplicate_mem
  refine bind_ok.2 ⟨canonical, hcanonical, bind_ok.2 ⟨duplicate, hduplicate, ?_⟩⟩
  refine invariant_bind_ok.2 ⟨hversions, invariant_bind_ok.2 ⟨?_, ?_⟩⟩
  · exact (heligible.1 hmergeable).eligible hworkspace hinspected.duplicate_id
  · rw [hinspected.canonical_eq, hinspected.mergedBodyMd] at h
    exact h

end

end Corgtex.Domain
