import Corgtex.Domain.ActionDuplicates

/-!
# Marks of duplicates

An action that is resolved as a duplicate is marked with the action that it duplicates
(`duplicateOfActionId`). Only `resolveActionDuplicate` writes a mark (`keeps_marks`,
`resolveActionDuplicate_marks`). It checks that neither action is marked and that the new duplicate
is not pointed to, so that no mark leads to a marked action (`DuplicateForest`).
-/

namespace Corgtex.Domain

open Except Option

def markOf (store : ActionStore) (id : JsString) : Option (Option JsString × JsString) :=
  (store.items.find? id).map fun action => (action.duplicateOfActionId, action.workspaceId)

/-- Marked actions point to actions of their workspace that are not marked. -/
def DuplicateForest (store : ActionStore) : Prop :=
  ∀ id canonicalId workspaceId, markOf store id = some (some canonicalId, workspaceId) →
    markOf store canonicalId = some (none, workspaceId)

/-- The marks stay as they are, and a new action has none. -/
def KeepsMarks (uuid : JsString) (store store' : ActionStore) : Prop :=
  ∀ id, markOf store' id = markOf store id ∨
    id = uuid ∧ markOf store id = none ∧ ∃ workspaceId, markOf store' id = some (none, workspaceId)

section
variable {store store' store'' : ActionStore} {context : WorkItemContext} {old new action : Action}
  {versions : WorkItemVersionTable ActionSnapshot} {workspaceId actionId uuid : JsString}

theorem KeepsMarks.refl (store : ActionStore) : KeepsMarks uuid store store := fun _ => .inl rfl

theorem KeepsMarks.trans (h : KeepsMarks uuid store store') (h' : KeepsMarks uuid store' store'') :
    KeepsMarks uuid store store'' := by
  intro id
  rcases h' id with hsame' | ⟨hid, hnone, hnew⟩
  · rw [hsame']
    exact h id
  · rcases h id with hsame | ⟨_, _, _, hsome⟩
    · exact .inr ⟨hid, hsame ▸ hnone, hnew⟩
    · rw [hsome] at hnone
      cases hnone

theorem markOf_of_find (h : store.items.find? actionId = some action) :
    markOf store actionId = some (action.duplicateOfActionId, action.workspaceId) := by
  rw [markOf, h, map_some]

section
variable (h : ItemWrite store versions old new store')
include h

theorem markOf_write (id : JsString) :
    markOf store' id = if id = old.id then some (new.duplicateOfActionId, new.workspaceId)
      else markOf store id := by
  rw [markOf, h.find]
  split
  · rfl
  · rfl

variable (hmark : new.duplicateOfActionId = old.duplicateOfActionId)
  (hworkspace : new.workspaceId = old.workspaceId)
include hmark hworkspace

theorem markOf_write_same (id : JsString) : markOf store' id = markOf store id := by
  rw [markOf_write h]
  split
  · next hid => rw [hid, markOf_of_find h.found, hmark, hworkspace]
  · rfl

theorem KeepsMarks.of_write : KeepsMarks uuid store store' :=
  fun id => .inl (markOf_write_same h hmark hworkspace id)

end

section
variable (h : KeepsMarks uuid store store')
include h

/-- A mark that an action has stays. -/
theorem KeepsMarks.kept {mark : Option JsString × JsString}
    {id : JsString} (hmark : markOf store id = some mark) : markOf store' id = some mark := by
  rcases h id with hsame | ⟨_, hnone, _⟩
  · rw [hsame, hmark]
  · rw [hmark] at hnone
    cases hnone

/-- A mark that an action gets was there before. -/
theorem KeepsMarks.marked {canonicalId id : JsString}
    (hmark : markOf store' id = some (some canonicalId, workspaceId)) :
    markOf store id = some (some canonicalId, workspaceId) := by
  rcases h id with hsame | ⟨_, _, _, hnew⟩
  · rw [← hsame, hmark]
  · rw [hmark] at hnew
    cases hnew

/-- **The forest of duplicates** stays one while the marks do. -/
theorem KeepsMarks.forest (hforest : DuplicateForest store) : DuplicateForest store' :=
  fun id canonicalId workspaceId hmark =>
    h.kept (hforest id canonicalId workspaceId (h.marked hmark))

end

/-! ## Transactions that are no resolution -/

theorem updateActionRecord_keeps {params : UpdateActionParams}
    (h : updateActionRecord store context params = .ok store') :
    KeepsMarks context.uuid store store' := by
  obtain ⟨⟨old, data, versions, version, hedit⟩, _⟩ := updateActionRecord_edit h
  exact .of_write hedit.write rfl rfl

/-- What `createAction` adds. -/
structure ActionCreated (context : WorkItemContext) (workspaceId : JsString)
    (store store' : ActionStore) (row : Action) : Prop where
  id_eq : row.id = context.uuid
  workspaceId_eq : row.workspaceId = workspaceId
  unmarked : row.duplicateOfActionId = none
  fresh : store.items.find? row.id = none
  find : ∀ id, store'.items.find? id = if id = row.id then some row else store.items.find? id

theorem createAction_created {params : CreateActionParams}
    (h : createAction store context params = .ok store') :
    ∃ row, ActionCreated context params.workspaceId store store' row := by
  obtain ⟨_, _, h⟩ := bind_ok.1 h
  obtain ⟨_, h⟩ := invariant_bind_ok.1 h
  obtain ⟨assigneeMemberId, _, h⟩ := bind_ok.1 h
  obtain ⟨_, h⟩ := invariant_bind_ok.1 h
  obtain ⟨proposalId, _, h⟩ := bind_ok.1 h
  obtain ⟨items, hitems, h⟩ := bind_ok.1 h
  obtain rfl := ok.inj h
  obtain ⟨hnew, hrows⟩ := createRow_ok hitems
  exact ⟨_, rfl, rfl, rfl, hnew, fun _ => KeyedTable.find?_of_rows_append hrows hnew⟩

theorem ActionCreated.keeps {row : Action}
    (h : ActionCreated context workspaceId store store' row) :
    KeepsMarks context.uuid store store' := by
  intro id
  rw [markOf, markOf, h.find]
  by_cases hid : id = row.id
  · right
    rw [if_pos hid, hid, h.fresh]
    exact ⟨h.id_eq, rfl, _, by rw [map_some, h.unmarked]⟩
  · rw [if_neg hid]
    exact .inl rfl

section
variable (h : WritesAction context actionId store store')
include h

theorem WritesAction.markOf_eq (id : JsString) : markOf store' id = markOf store id := by
  rcases h with rfl | ⟨old, new, hwrite, _, _, hmark, hworkspace⟩
  · rfl
  · exact markOf_write_same hwrite hmark hworkspace id

theorem WritesAction.frame {id : JsString}
    (hne : id ≠ actionId) : store'.items.find? id = store.items.find? id := by
  rcases h with rfl | ⟨old, new, hwrite, hid, _⟩
  · rfl
  · rw [hwrite.find, if_neg (hid ▸ hne)]

theorem WritesAction.keeps : KeepsMarks uuid store store' :=
  fun id => .inl (h.markOf_eq id)

end

theorem applyActionDuplicateUpdate_keeps {params : CreateActionParams}
    (h : applyActionDuplicateUpdate store context params actionId = .ok store') :
    KeepsMarks context.uuid store store' := by
  obtain ⟨existing, _, h⟩ := bind_ok.1 h
  obtain ⟨_, h⟩ := invariant_bind_ok.1 h
  dsimp only at h
  split at h
  · exact updateActionRecord_keeps h
  · exact ok.inj h ▸ .refl store

variable {proposalId : JsString}

theorem linkRelatedAction_keeps
    (h : linkRelatedAction context workspaceId proposalId store action = .ok store') :
    KeepsMarks context.uuid store store' := by
  obtain ⟨⟨versions, newVersion⟩, _, h⟩ := bind_ok.1 h
  obtain ⟨hrow, h⟩ := invariant_bind_ok.1 h
  obtain rfl := ok.inj h
  obtain ⟨old, hold, _⟩ := (any_eq_true ..).1 hrow
  have hid := (KeyedTable.find?_eq_some.1 hold).2
  rw [← hid] at hold ⊢
  exact .of_write (.updateRow hold) rfl rfl

theorem foldlM_linkRelatedAction_keeps {related : List Action}
    (h : related.foldlM (linkRelatedAction context workspaceId proposalId) store = .ok store') :
    KeepsMarks context.uuid store store' := by
  induction related generalizing store with
  | nil => exact ok.inj h ▸ .refl store
  | cons action related ih =>
    rw [List.foldlM_cons] at h
    obtain ⟨store₁, hfirst, h⟩ := bind_ok.1 h
    exact (linkRelatedAction_keeps hfirst).trans (ih h)

def ActionTransaction.resolves : ActionTransaction → Bool
  | .resolveDuplicate .. => true
  | _ => false

/-- **The other transactions** write no marks. -/
theorem keeps_marks {transaction : ActionTransaction} (hother : transaction.resolves = false)
    (h : transaction.perform context store = .ok store') :
    KeepsMarks context.uuid store store' := by
  cases transaction with
  | create params =>
    obtain ⟨row, hcreated⟩ := createAction_created h
    exact hcreated.keeps
  | updateDuplicate params actionId => exact applyActionDuplicateUpdate_keeps h
  | update params => exact updateActionRecord_keeps h
  | publish workspaceId actionId => exact (publishAction_writes h).keeps
  | returnToDraft workspaceId actionId => exact (returnActionToDraft_writes h).keeps
  | complete workspaceId actionId completedVia => exact (completeAction_writes h).keeps
  | archive workspaceId actionId reason expectedVersion =>
    exact (archiveAction_writes h).1.keeps
  | restore workspaceId actionId expectedVersion => exact (restoreAction_writes context h).1.keeps
  | readRelated workspaceId actionId =>
    obtain ⟨action, _, h⟩ := bind_ok.1 h
    obtain ⟨_, h⟩ := invariant_bind_ok.1 h
    obtain ⟨_, h⟩ := invariant_bind_ok.1 h
    exact ok.inj h ▸ .refl store
  | linkRelated workspaceId proposalId indices => exact foldlM_linkRelatedAction_keeps h
  | resolveDuplicate params pair => cases hother

/-! ## The resolution of a duplicate -/

/-- What `resolveActionDuplicate` does to the marks: two actions of the workspace were not marked
and nothing pointed to the second one, and now that one points to the first. -/
structure Resolved (params : ResolveActionDuplicateParams) (store store' : ActionStore) : Prop where
  ne : params.canonicalId ≠ params.duplicateId
  canonical : ∃ mark, markOf store params.canonicalId = some (mark, params.workspaceId) ∧
    mark.bind JsString.orNull = none
  duplicate : ∃ mark, markOf store params.duplicateId = some (mark, params.workspaceId) ∧
    mark.bind JsString.orNull = none
  not_canonical : ∀ id, markOf store id ≠ some (some params.duplicateId, params.workspaceId)
  find : ∀ id, markOf store' id =
    if id = params.duplicateId then some (some params.canonicalId, params.workspaceId)
    else markOf store id
  frame : ∀ id, id ≠ params.canonicalId → id ≠ params.duplicateId →
    store'.items.find? id = store.items.find? id

theorem findAction_workspace {missing : AppError}
    (h : findAction store workspaceId actionId missing = .ok action) :
    action.workspaceId = workspaceId := by
  unfold findAction ItemStore.findItem at h
  split at h
  · cases h
  · next found hfound =>
    obtain rfl := ok.inj h
    exact of_decide_eq_true (filter_eq_some_iff.1 hfound).2

variable {pair : DuplicatePair}

/-- Two actions that can be merged are not marked, and nothing points to the second one. -/
theorem eligible_marks {canonical duplicate : Action}
    (h : pair.eligible store canonical duplicate = true) :
    canonical.duplicateOfActionId.bind JsString.orNull = none ∧
      duplicate.duplicateOfActionId.bind JsString.orNull = none ∧
      (store.items.rows.any fun action => action.workspaceId = duplicate.workspaceId &&
        action.duplicateOfActionId = some duplicate.id) = false := by
  simp only [DuplicatePair.eligible, Bool.and_eq_true, isNone_iff_eq_none, Bool.not_eq_true'] at h
  iterate 11 replace h := h.1
  exact ⟨h.1.1.2, h.1.2, h.2⟩

variable {params : ResolveActionDuplicateParams}

/-- **The resolution of a duplicate** marks it, and nothing else. -/
theorem resolveActionDuplicate_marks
    (h : resolveActionDuplicate store context params pair = .ok store') :
    Resolved params store store' := by
  obtain ⟨_, h⟩ := invariant_bind_ok.1 h
  obtain ⟨_, h⟩ := invariant_bind_ok.1 h
  obtain ⟨hne, h⟩ := invariant_bind_ok.1 h
  obtain ⟨canonical, hcanonical, h⟩ := bind_ok.1 h
  obtain ⟨duplicate, hduplicate, h⟩ := bind_ok.1 h
  obtain ⟨_, h⟩ := invariant_bind_ok.1 h
  obtain ⟨heligible, h⟩ := invariant_bind_ok.1 h
  obtain ⟨⟨versions, version⟩, _, h⟩ := bind_ok.1 h
  have hwc := findAction_workspace hcanonical
  have hwd := findAction_workspace hduplicate
  obtain ⟨hfound, hid⟩ := findAction_ok hcanonical
  obtain ⟨hfound', hid'⟩ := findAction_ok hduplicate
  obtain ⟨hmarkc, hmarkd, hfree⟩ := eligible_marks heligible
  have hother : duplicate.id ≠ canonical.id := by
    rw [hid, hid']
    exact Ne.symm (of_decide_eq_true hne)
  dsimp only at h
  rw [← hid] at h
  rw [← hid'] at h
  -- the canonical action gets the merged body, and then the duplicate points to it
  have hwrite : ItemWrite store versions canonical _ ({ store with versions }.updateRow canonical.id
      (fun action => { action with
        bodyMd := mergedBody context.normalizeDuplicateGuardText canonical duplicate
        version := version.getD action.version }) fun _ => rfl) := .updateRow hfound
  have hstill := (hwrite.find duplicate.id).trans ((if_neg hother).trans hfound')
  have hmark : ItemWrite _ _ duplicate _ (ItemStore.updateRow _ duplicate.id
      (fun action => { action with duplicateOfActionId := some canonical.id }) fun _ => rfl) :=
    .of_updateRow hstill
  refine ⟨of_decide_eq_true hne, ⟨_, hwc ▸ hid ▸ markOf_of_find hfound, hmarkc⟩,
    ⟨_, hwd ▸ hid' ▸ markOf_of_find hfound', hmarkd⟩, fun id he => ?_,
    fun id => ?_, fun id hc hd => ?_⟩
  · obtain ⟨action, haction, he⟩ := map_eq_some_iff.1 he
    obtain ⟨hmark, hworkspace⟩ := Prod.mk.inj he
    have hnot := List.any_eq_false.1 hfree action (KeyedTable.find?_eq_some.1 haction).1
    simp [hmark, hworkspace, hwd, hid'] at hnot
  · rw [(archiveAction_writes h).1.markOf_eq, markOf_write hmark, hid']
    split
    · rw [hid, hwd]
    · exact markOf_write_same hwrite rfl rfl id
  · rw [(archiveAction_writes h).1.frame (hid' ▸ hd), hmark.find, if_neg (hid' ▸ hd), hwrite.find,
      if_neg (hid ▸ hc)]

/-- **The forest of duplicates** stays one when a duplicate is resolved, as no action has an empty
id. -/
theorem Resolved.forest (h : Resolved params store store')
    (hforest : DuplicateForest store) (hempty : markOf store [] = none) :
    DuplicateForest store' := by
  obtain ⟨mark, hcanonical, hunmarked⟩ := h.canonical
  obtain ⟨_, hduplicate, _⟩ := h.duplicate
  intro id canonicalId workspaceId hmark
  rw [h.find] at hmark ⊢
  split at hmark
  · obtain ⟨hid, rfl⟩ := Prod.mk.inj (some.inj hmark)
    obtain rfl := some.inj hid
    rw [if_neg h.ne, hcanonical]
    cases mark with
    | none => rfl
    | some target =>
      have hroot := hforest _ _ _ hcanonical
      rw [JsString.orNull_eq_none.1 hunmarked, hempty] at hroot
      cases hroot
  · have hroot := hforest id canonicalId workspaceId hmark
    rw [if_neg, hroot]
    rintro rfl
    rw [hduplicate] at hroot
    obtain rfl := (Prod.mk.inj (some.inj hroot)).2
    exact h.not_canonical id hmark

end

end Corgtex.Domain
