import Corgtex.Domain.GoalEffects
import Corgtex.Library.ParentForest

/-!
# The goal hierarchy

`validateGoalReferences` rejects a goal as its own parent, but not a parent that lies below the
goal, so `updateGoal` can close a cycle, and `buildGoalTree` then shows none of its goals.
`goals_sound_iff` says that nothing else goes wrong.
-/

namespace Corgtex.Domain

open Function Option ParentForest Relation

/-! ## The tree -/

/-- What `buildGoalTree` has built: the keys of the roots, and of the `childGoals` of each node. -/
structure GoalTree where
  childGoals : JsString → List JsString
  roots : List JsString

section
variable (goals : List Goal)

/-- The parent under which the tree shows a goal: the one it names, if `byId` has it. -/
def shownParentGoal (goal : Goal) : Option JsString :=
  (goal.parentGoalId.bind JsString.orNull).filter fun p => goals.any fun other => other.id = p

/-- The body of the loop of `buildGoalTree` over `goals`. -/
def GoalTree.attach (tree : GoalTree) (goal : Goal) : GoalTree :=
  match shownParentGoal goals goal with
  | some p => { tree with
      childGoals := Function.update tree.childGoals p (tree.childGoals p ++ [goal.id]) }
  | none => { tree with roots := tree.roots ++ [goal.id] }

/-- `buildGoalTree` (`goals.ts:1138`). -/
def buildGoalTree : GoalTree :=
  goals.foldl (GoalTree.attach goals) ⟨fun _ => [], []⟩

theorem buildGoalTree_eq : buildGoalTree goals =
    ⟨fun p => (goals.filter fun goal => shownParentGoal goals goal = some p).map Goal.id,
      (goals.filter fun goal => shownParentGoal goals goal = none).map Goal.id⟩ := by
  have hloop : ∀ (rest : List Goal) (tree : GoalTree), rest.foldl (GoalTree.attach goals) tree =
      ⟨fun p => tree.childGoals p ++
          (rest.filter fun goal => shownParentGoal goals goal = some p).map Goal.id,
        tree.roots ++ (rest.filter fun goal => shownParentGoal goals goal = none).map Goal.id⟩ := by
    intro rest
    induction rest with
    | nil => intro tree; simp
    | cons goal rest ih =>
      intro tree
      rw [List.foldl_cons, ih, GoalTree.attach]
      cases hshown : shownParentGoal goals goal with
      | none => simp [hshown]
      | some p =>
        simp only [hshown, GoalTree.mk.injEq, reduceCtorEq, decide_false, Bool.false_eq_true,
          not_false_eq_true, List.filter_cons_of_neg, and_true]
        funext q
        by_cases hq : q = p
        · simp [hshown, hq]
        · simp [hshown, hq, Ne.symm hq]
  simpa [buildGoalTree] using hloop goals ⟨fun _ => [], []⟩

/-- The tree places each goal exactly once: walked from its roots, deep enough, it is a permutation
of the goals. -/
def PlacesGoalsOnce : Prop :=
  ∃ depth, ∀ depth' ≥ depth,
    ((buildGoalTree goals).roots.flatMap
      (listing (buildGoalTree goals).childGoals depth')).Perm (goals.map Goal.id)

end

/-- The goals of a workspace, archived ones included. -/
def GoalStore.goalsIn (store : GoalStore) (workspaceId : JsString) : List Goal :=
  store.goals.rows.filter fun goal => goal.workspaceId = workspaceId

/-- The parent relation is acyclic, and the tree over all goals of a workspace, read in any order,
places each of them exactly once. -/
structure GoalsSound (store : GoalStore) : Prop where
  acyclic : Acyclic store.parentOf
  tree : ∀ workspaceId goals, goals.Perm (store.goalsIn workspaceId) → PlacesGoalsOnce goals

theorem GoalsSound.of_acyclic {store : GoalStore} (hacyclic : Acyclic store.parentOf) :
    GoalsSound store := by
  refine ⟨hacyclic, fun workspaceId goals hperm => ?_⟩
  have hnodup : (goals.map Goal.id).Nodup :=
    (hperm.map _).nodup_iff.2 (store.goals.nodup.sublist (List.filter_sublist.map _))
  have hrow : ∀ goal ∈ goals, store.goals.find? goal.id = some goal := fun goal hgoal =>
    KeyedTable.find?_key (List.mem_of_mem_filter (hperm.subset hgoal))
  let listed : KeyedTable Goal Goal.id := ⟨goals, hnodup⟩
  have hpresents : Presents (fun id => (listed.find? id).bind (shownParentGoal goals))
      (goals.map Goal.id) _ _ :=
    presents_filter (shownParentGoal goals) hnodup (fun goal hgoal => ?_) fun goal _ p hp => ?_
  · rw [PlacesGoalsOnce, buildGoalTree_eq]
    refine hpresents.listing_perm (hacyclic.mono fun a b hab => ?_) hnodup
    obtain ⟨goal, hgoal, hb⟩ := bind_eq_some_iff.1 hab
    obtain ⟨hmem, hid⟩ := KeyedTable.find?_eq_some.1 hgoal
    obtain ⟨text, htext, hb⟩ := bind_eq_some_iff.1 (filter_eq_some_iff.1 hb).1
    obtain ⟨rfl, _⟩ := JsString.orNull_eq_some.1 hb
    rw [GoalStore.parentOf, ← hid, hrow goal hmem]
    exact htext
  · have hfind : listed.find? goal.id = some goal := KeyedTable.find?_key hgoal
    simp [hfind]
  · obtain ⟨other, hother, hid⟩ := List.any_eq_true.1 (filter_eq_some_iff.1 hp).2
    exact List.mem_map.2 ⟨other, hother, of_decide_eq_true hid⟩

/-! ## What a transaction does to the hierarchy -/

section
variable {store store' store₁ : GoalStore} {id a : JsString} {goal : Goal} {context : GoalContext}
  {fuel : Nat} {actor : AppActor}

namespace GoalStore

/-- Every goal has the same parent and the same workspace in both stores. -/
def SameHierarchy (store store' : GoalStore) : Prop :=
  store'.parentOf = store.parentOf ∧ store'.workspaceOf = store.workspaceOf

theorem SameHierarchy.trans {store₁ store₂ store₃ : GoalStore} (h : SameHierarchy store₁ store₂)
    (h' : SameHierarchy store₂ store₃) : SameHierarchy store₁ store₃ :=
  ⟨h'.1.trans h.1, h'.2.trans h.2⟩

theorem SameHierarchy.of_goals_eq (h : store'.goals = store.goals) :
    SameHierarchy store store' := by
  constructor <;> funext a
  · rw [parentOf, h, parentOf]
  · rw [workspaceOf, h, workspaceOf]

variable {data : Goal → Goal}

theorem workspaceOf_updateGoalRow
    (hdata : ∀ goal, (data goal).workspaceId = goal.workspaceId) :
    (store.updateGoalRow id data).workspaceOf = store.workspaceOf := by
  funext a
  rw [workspaceOf, find?_updateGoalRow, workspaceOf]
  cases store.goals.find? a with
  | none => rfl
  | some goal =>
    show some (if a = id then _ else goal : Goal).workspaceId = _
    split
    · exact congrArg some (hdata goal)
    · rfl

theorem parentOf_updateGoalRow (hfound : store.goals.find? id = some goal) :
    (store.updateGoalRow id data).parentOf =
      Function.update store.parentOf id (data goal).parentGoalId := by
  funext a
  rw [parentOf, find?_updateGoalRow, update_apply]
  split
  · next ha => rw [ha, hfound]; rfl
  · exact congrArg (fun row => bind row Goal.parentGoalId) map_id'

theorem SameHierarchy.updateGoalRow (hfound : store.goals.find? id = some goal)
    (hparent : (data goal).parentGoalId = goal.parentGoalId)
    (hworkspace : ∀ goal, (data goal).workspaceId = goal.workspaceId) :
    SameHierarchy store (store.updateGoalRow id data) := by
  refine ⟨?_, workspaceOf_updateGoalRow hworkspace⟩
  have hself : store.parentOf id = goal.parentGoalId := by simp [parentOf, hfound]
  rw [parentOf_updateGoalRow hfound, hparent, ← hself, update_eq_self]

end GoalStore

open GoalStore

theorem ProgressWrite.sameHierarchy (write : ProgressWrite actor store goal store') :
    SameHierarchy store store' := by
  rw [write.store_eq]
  exact (SameHierarchy.of_goals_eq rfl).trans (.updateGoalRow write.found rfl fun _ => rfl)

theorem Recomputes.sameHierarchy {ids : List JsString} (h : Recomputes actor ids store store') :
    SameHierarchy store store' :=
  h.induction (fun _ => ⟨rfl, rfl⟩) (fun _ _ _ => .trans) fun _ _ _ write => write.sameHierarchy

theorem ChangesArchive.sameHierarchy (hfound : store.goals.find? goal.id = some goal)
    (h : ChangesArchive actor store goal store') : SameHierarchy store store' := by
  obtain ⟨_, _, _, _, _, _, _, h⟩ := h
  refine .trans ?_ h.sameHierarchy
  exact .updateGoalRow hfound rfl fun _ => rfl

theorem ChangesKeyResults.sameHierarchy (h : ChangesKeyResults fuel actor store goal store') :
    SameHierarchy store store' := by
  obtain ⟨_, _, hwrite, h⟩ := h
  exact .trans (.of_goals_eq hwrite.goals_eq) (recomputeGoalProgress_ok h).sameHierarchy

theorem postGoalUpdate_sameHierarchy {params : PostGoalUpdateParams}
    (h : postGoalUpdate fuel store context params = .ok store') : SameHierarchy store store' := by
  obtain ⟨goal, progress, hfound, _, _, _, rfl | ⟨store₁, data₁, hrecord, h⟩⟩ := postGoalUpdate_ok h
  · exact ⟨rfl, rfl⟩
  obtain ⟨hgoals, _, hdata⟩ := recordGoalVersion_frame hrecord
  have hparent : data₁.parentGoalId = none := congrArg GoalData.parentGoalId hdata
  refine .trans (.of_goals_eq hgoals) (.trans ?_ h.sameHierarchy)
  refine .updateGoalRow (hgoals ▸ hfound) ?_ fun _ => rfl
  simp [GoalData.apply, hparent]

variable {params : CreateGoalParams}

theorem appendMissing_sameHierarchy {goalId : JsString}
    (h : appendMissingDuplicateGoalKeyResults fuel store context params goalId = .ok store') :
    SameHierarchy store store' := by
  rcases appendMissingDuplicateGoalKeyResults_ok h with rfl |
    ⟨goal, store₁, _, _, versions, _, hfound, _, hwrite, _, _, _, _, h⟩
  · exact ⟨rfl, rfl⟩
  have hgoals : { store₁ with versions }.goals = store.goals := hwrite.goals_eq
  refine .trans (.of_goals_eq hgoals) (.trans ?_ h.sameHierarchy)
  exact .updateGoalRow (hgoals ▸ hfound) rfl fun _ => rfl

theorem updateGoal_hierarchy {params : UpdateGoalParams}
    (h : updateGoal fuel store context params = .ok store') :
    store.workspaceOf params.goalId = some params.workspaceId ∧
      store'.workspaceOf = store.workspaceOf ∧
      (∀ p, params.parentGoalId.join.bind JsString.orNull = some p →
        p ≠ [] ∧ store.workspaceOf p = some params.workspaceId) ∧
      store'.parentOf =
        match params.parentGoalId with
        | none => store.parentOf
        | some requested =>
          update store.parentOf params.goalId (requested.bind JsString.orNull) := by
  obtain ⟨goal, data, store₁, data₁, hfound, hworkspace, _, hvalid, hdata, _, _, hrecord, h⟩ :=
    updateGoal_ok h
  obtain ⟨hgoals, _, hframe⟩ := recordGoalVersion_frame hrecord
  obtain ⟨progress, _, _, rfl⟩ := UpdateGoalParams.data_ok hdata
  have hself : store.workspaceOf params.goalId = some params.workspaceId := by
    simp [workspaceOf, hfound, hworkspace]
  have hold : store.parentOf params.goalId = goal.parentGoalId := by simp [parentOf, hfound]
  have hparent : data₁.parentGoalId = params.parentGoalId.map fun id => id.bind JsString.orNull :=
    congrArg GoalData.parentGoalId hframe
  have hfound₁ : store₁.goals.find? params.goalId = some goal := by rw [hgoals, hfound]
  have hsame₁ : SameHierarchy store store₁ := .of_goals_eq hgoals
  -- in both cases the goal's row ends up with the parent that the data assign
  have hend : store'.workspaceOf = store.workspaceOf ∧ store'.parentOf =
      update store.parentOf params.goalId (data₁.apply goal).parentGoalId := by
    rcases h with ⟨hnil, rfl⟩ | h
    · have hkeep : (data₁.apply goal).parentGoalId = goal.parentGoalId := by
        simp only [GoalData.changedFields, List.append_eq_nil_iff] at hnil
        exact changedField_eq_nil.1 hnil.1.1.1.2
      rw [hkeep, ← hold, update_eq_self]
      exact hsame₁.symm
    · have hrow : (store₁.updateGoalRow params.goalId data₁.apply).workspaceOf =
          store₁.workspaceOf := workspaceOf_updateGoalRow fun _ => rfl
      refine ⟨h.sameHierarchy.2.trans (hrow.trans hsame₁.2), ?_⟩
      rw [h.sameHierarchy.1, parentOf_updateGoalRow hfound₁, hsame₁.1]
  refine ⟨hself, hend.1, fun p hp => ?_, hend.2.trans ?_⟩
  · obtain ⟨⟨row, hrow, hws, _⟩, _, hne⟩ := hvalid p hp
    exact ⟨hne, by simp [workspaceOf, hrow, hws]⟩
  · rw [GoalData.apply, hparent]
    cases params.parentGoalId with
    | none => exact (congrArg _ hold.symm).trans (update_eq_self ..)
    | some requested => rfl

/-- The parent that a transaction asks for, with the goal that it asks it for. -/
def requestedParent (store : GoalStore) (context : GoalContext) :
    GoalTransaction → Option (JsString × JsString)
  | .update params => of params.goalId params.parentGoalId
  | .updateDuplicate params goalId => do
    let existing ← store.goals.find? goalId
    of existing.id (params.duplicateUpdate context existing).parentGoalId
  | _ => none
where
  of (goalId : JsString) (parentGoalId : Option (Option JsString)) : Option (JsString × JsString) :=
    (parentGoalId.join.bind JsString.orNull).map fun p => (goalId, p)

/-- The transaction asks to put a goal under a parent at or below the goal. -/
def MovesBelowItself (store : GoalStore) (context : GoalContext) (transaction : GoalTransaction) :
    Prop :=
  ∃ id p, requestedParent store context transaction = some (id, p) ∧
    ReflTransGen (Up store.parentOf) p id

/-- The three things that a transaction can do to the hierarchy: nothing, a new goal under a goal
of its workspace or none, or a goal that moves under another goal of its workspace or none. -/
inductive HierarchyStep (store store' : GoalStore) (requested : Option (JsString × JsString)) : Prop
  | same : SameHierarchy store store' → requested = none → HierarchyStep store store' requested
  | create (id workspaceId : JsString) (parent : Option JsString) :
      store.workspaceOf id = none → requested = none →
      (∀ p, parent = some p → p ≠ [] ∧ store.workspaceOf p = some workspaceId) →
      store'.parentOf = Function.update store.parentOf id parent →
      store'.workspaceOf = Function.update store.workspaceOf id (some workspaceId) →
      HierarchyStep store store' requested
  | move (id workspaceId : JsString) (parent : Option JsString) :
      store.workspaceOf id = some workspaceId → requested = parent.map (fun p => (id, p)) →
      (∀ p, parent = some p → p ≠ [] ∧ store.workspaceOf p = some workspaceId) →
      store'.parentOf = Function.update store.parentOf id parent →
      store'.workspaceOf = store.workspaceOf → HierarchyStep store store' requested

theorem updateGoal_hierarchyStep {params : UpdateGoalParams}
    (h : updateGoal fuel store context params = .ok store') :
    HierarchyStep store store' (requestedParent.of params.goalId params.parentGoalId) := by
  obtain ⟨hself, hworkspace, hvalid, hparent⟩ := updateGoal_hierarchy h
  cases hrequested : params.parentGoalId with
  | none =>
    rw [hrequested] at hparent
    exact .same ⟨hparent, hworkspace⟩ (by simp [requestedParent.of])
  | some requested =>
    rw [hrequested] at hparent hvalid
    exact .move params.goalId params.workspaceId _ hself
      (by simp [requestedParent.of]) hvalid hparent hworkspace

theorem createGoal_hierarchyStep
    (h : createGoal store context params = .ok store') : HierarchyStep store store' none := by
  obtain ⟨keyResults, _, hvalid, hnew, hrows, _⟩ := createGoal_ok h
  have hfind : ∀ a, store'.goals.find? a =
      if a = context.uuid 0 then some (params.row context keyResults) else store.goals.find? a :=
    fun a => KeyedTable.find?_of_rows_append hrows hnew
  refine .create (context.uuid 0) params.workspaceId (params.parentGoalId.bind JsString.orNull)
    (by simp [workspaceOf, hnew]) rfl (fun p hp => ?_) ?_ ?_
  · obtain ⟨⟨row, hrow, hws, _⟩, hne⟩ := hvalid p hp
    exact ⟨hne, by simp [workspaceOf, hrow, hws]⟩
  · funext a
    rw [parentOf, hfind, update_apply]
    split <;> rfl
  · funext a
    rw [workspaceOf, hfind, update_apply]
    split <;> rfl

theorem updateDuplicateGoal_hierarchyStep {goalId : JsString}
    (h : updateDuplicateGoal fuel store context params goalId = .ok store') :
    HierarchyStep store store'
      (requestedParent store context (.updateDuplicate params goalId)) := by
  obtain ⟨existing, hfound, ⟨rfl, hno⟩ | hupdate⟩ := updateDuplicateGoal_ok h
  · have hnone : (params.duplicateUpdate context existing).parentGoalId = none := by
      simp only [UpdateGoalParams.editsContent, UpdateGoalParams.editsDraftContent,
        Bool.or_eq_false_iff, isSome_eq_false_iff, isNone_iff_eq_none] at hno
      exact hno.1.1.1.2
    exact .same ⟨rfl, rfl⟩ (by simp [requestedParent, requestedParent.of, hfound, hnone])
  · have hrequested : requestedParent store context (.updateDuplicate params goalId) =
        requestedParent.of existing.id (params.duplicateUpdate context existing).parentGoalId := by
      simp [requestedParent, hfound]
    have hstep := updateGoal_hierarchyStep hupdate
    rw [hrequested]
    exact hstep

theorem perform_hierarchyStep {transaction : GoalTransaction}
    (h : transaction.perform fuel context store = .ok store') :
    HierarchyStep store store' (requestedParent store context transaction) := by
  cases transaction <;> simp only [GoalTransaction.perform] at h
  case create params => exact createGoal_hierarchyStep h
  case updateDuplicate params goalId => exact updateDuplicateGoal_hierarchyStep h
  case appendMissing params goalId => exact .same (appendMissing_sameHierarchy h) rfl
  case update params => exact updateGoal_hierarchyStep h
  case post params => exact .same (postGoalUpdate_sameHierarchy h) rfl
  case addKeyResult params =>
    obtain ⟨goal, _, h⟩ := addKeyResult_ok h
    exact .same h.sameHierarchy rfl
  case updateKeyResult params =>
    obtain ⟨_, goal, _, _, _, _, rfl | h⟩ := updateKeyResult_ok h
    · exact .same ⟨rfl, rfl⟩ rfl
    · exact .same h.sameHierarchy rfl
  case deleteKeyResult workspaceId krId expectedVersion =>
    obtain ⟨_, goal, _, _, _, _, h⟩ := deleteKeyResult_ok h
    exact .same h.sameHierarchy rfl
  case delete workspaceId goalId includeArchived =>
    obtain ⟨goal, hfound, rfl | h⟩ := deleteGoal_ok h
    · exact .same ⟨rfl, rfl⟩ rfl
    · exact .same (h.sameHierarchy hfound) rfl
  case archive workspaceId goalId reason expectedVersion =>
    obtain ⟨goal, hfound, _, _, rfl | h⟩ := archiveGoal_ok h
    · exact .same ⟨rfl, rfl⟩ rfl
    · exact .same (h.sameHierarchy hfound) rfl
  case restore workspaceId goalId expectedVersion =>
    obtain ⟨goal, hfound, _, _, h⟩ := restoreGoal_ok h
    exact .same (h.sameHierarchy hfound) rfl

/-! ## The hierarchy over a run -/

/-- Every parent is a goal of the same workspace, with a key that is not empty. -/
def GoalStore.Linked (store : GoalStore) : Prop :=
  Within (fun p => p ≠ []) store.workspaceOf store.parentOf

theorem GoalStore.workspaceOf_of_parentOf (a p : JsString) (h : store.parentOf a = some p) :
    (store.workspaceOf a).isSome := by
  obtain ⟨goal, hgoal, _⟩ := bind_eq_some_iff.1 h
  simp [workspaceOf, hgoal]

variable {requested : Option (JsString × JsString)}

section
variable (h : HierarchyStep store store' requested) (hlinked : store.Linked)
include h hlinked

theorem HierarchyStep.linked : store'.Linked := by
  unfold GoalStore.Linked
  cases h with
  | same hsame =>
    rw [hsame.1, hsame.2]
    exact hlinked
  | create id workspaceId parent hnew _ hvalid hparent hworkspace =>
    rw [hparent]
    exact hlinked.update workspaceOf_of_parentOf hworkspace (fun _ h => nomatch hnew.symm.trans h)
      hvalid
  | move id workspaceId parent hself _ hvalid hparent hworkspace =>
    have hgroup : store'.workspaceOf = update store.workspaceOf id (some workspaceId) := by
      rw [hworkspace, ← hself, update_eq_self]
    rw [hparent]
    exact hlinked.update workspaceOf_of_parentOf hgroup
      (fun _ h => some.inj (h.symm.trans hself)) hvalid

/-- When one step of the hierarchy keeps it a forest. -/
theorem HierarchyStep.acyclic_iff (hacyclic : Acyclic store.parentOf) : Acyclic store'.parentOf ↔
      ¬ ∃ id p, requested = some (id, p) ∧ ReflTransGen (Up store.parentOf) p id := by
  cases h with
  | same hsame hnone =>
    rw [hsame.1]
    exact iff_of_true hacyclic fun ⟨_, _, h, _⟩ => nomatch hnone.symm.trans h
  | create id workspaceId parent hnew hnone hvalid hparent hworkspace =>
    rw [hparent]
    refine iff_of_true ?_ fun ⟨_, _, h, _⟩ => nomatch hnone.symm.trans h
    cases parent with
    | none => exact hacyclic.update_none
    | some p =>
      -- nothing is below a new goal, so its parent is not
      refine (acyclic_update_iff hacyclic).2 fun hup => ?_
      cases hnew.symm.trans ((hlinked.group_eq hup).trans (hvalid p rfl).2)
  | move id workspaceId parent hself hrequested hvalid hparent hworkspace =>
    rw [hparent]
    subst hrequested
    cases parent with
    | none => exact iff_of_true hacyclic.update_none fun ⟨_, _, h, _⟩ => nomatch h
    | some p =>
      rw [acyclic_update_iff hacyclic]
      refine not_congr ⟨fun hup => ⟨id, p, rfl, hup⟩, ?_⟩
      rintro ⟨_, _, h, hup⟩
      obtain ⟨rfl, rfl⟩ := Prod.mk.inj (some.inj h)
      exact hup

end

/-- The step is not rolled back. -/
def GoalStep.Succeeds (store : GoalStore) (step : GoalStep) : Prop :=
  (step.transaction.perform step.fuel step.context store).isOk

theorem GoalStep.apply_cases (store : GoalStore) (step : GoalStep) :
    (step.apply store = store ∧ ¬ step.Succeeds store) ∨
      (step.transaction.perform step.fuel step.context store = .ok (step.apply store) ∧
        step.Succeeds store) := by
  unfold GoalStep.apply GoalStep.Succeeds
  cases step.transaction.perform step.fuel step.context store with
  | ok store' => exact .inr ⟨rfl, rfl⟩
  | error e => exact .inl ⟨rfl, nofun⟩

theorem GoalStep.apply_linked (step : GoalStep) (hlinked : store.Linked) :
    (step.apply store).Linked := by
  rcases step.apply_cases store with ⟨hsame, _⟩ | ⟨hok, _⟩
  · rwa [hsame]
  · exact (perform_hierarchyStep hok).linked hlinked

theorem linked_runGoalSteps (steps : List GoalStep) : (runGoalSteps steps).Linked := by
  induction steps using List.reverseRecOn with
  | nil => exact nofun
  | append_singleton steps step ih =>
    rw [runGoalSteps, List.foldl_append]
    exact step.apply_linked ih

/-- **When one step keeps the goals a forest.** It does exactly when it does not put a goal under a
parent at or below the goal. -/
theorem GoalStep.apply_acyclic_iff (step : GoalStep) (hlinked : store.Linked)
    (hacyclic : Acyclic store.parentOf) : Acyclic (step.apply store).parentOf ↔
      ¬ (step.Succeeds store ∧ MovesBelowItself store step.context step.transaction) := by
  rcases step.apply_cases store with ⟨hsame, hfails⟩ | ⟨hok, hsucceeds⟩
  · rw [hsame]
    exact iff_of_true hacyclic fun h => hfails h.1
  · rw [(perform_hierarchyStep hok).acyclic_iff hlinked hacyclic]
    exact not_congr ⟨fun h => ⟨hsucceeds, h⟩, And.right⟩

theorem runGoalSteps_append (steps : List GoalStep) (step : GoalStep) :
    runGoalSteps (steps ++ [step]) = step.apply (runGoalSteps steps) := by
  simp [runGoalSteps]

theorem acyclic_runGoalSteps {steps : List GoalStep}
    (hmoves : ∀ done step, done ++ [step] <+: steps → ¬ (step.Succeeds (runGoalSteps done) ∧
      MovesBelowItself (runGoalSteps done) step.context step.transaction)) :
    Acyclic (runGoalSteps steps).parentOf := by
  induction steps using List.reverseRecOn with
  | nil => exact acyclic_none
  | append_singleton steps step ih =>
    have hbefore := ih fun done step h => hmoves done step (h.trans (List.prefix_append ..))
    rw [runGoalSteps_append]
    exact (step.apply_acyclic_iff (linked_runGoalSteps steps) hbefore).2
      (hmoves steps step (List.prefix_refl _))

/-- **The goal hierarchy over a run.** After every prefix of a run the goals are sound, if and only
if no step of the run that succeeds puts a goal under a parent at or below the goal. -/
theorem goals_sound_iff (steps : List GoalStep) :
    (∀ done, done <+: steps → GoalsSound (runGoalSteps done)) ↔
      ∀ done step, done ++ [step] <+: steps → ¬ (step.Succeeds (runGoalSteps done) ∧
        MovesBelowItself (runGoalSteps done) step.context step.transaction) := by
  constructor
  · intro hsound done step hpre
    have hbefore := hsound done ((List.prefix_append done [step]).trans hpre)
    have hafter := hsound _ hpre
    rw [runGoalSteps_append] at hafter
    exact (step.apply_acyclic_iff (linked_runGoalSteps done) hbefore.acyclic).1 hafter.acyclic
  · intro hmoves done hpre
    refine .of_acyclic (acyclic_runGoalSteps fun _ _ h => ?_)
    exact hmoves _ _ (h.trans hpre)

end

/-- The context of an administrator's requests, whose new rows have keys that start with `id`. -/
def exampleContext (id : String) : GoalContext where
  actor := .user (.lit "u") (.lit "u@example.com") none
  membership := some ⟨.lit "m", .lit "w", .lit "u", .admin, true⟩
  now := 0
  readable _ := true
  activeCircle _ := true
  activeHuman _ := true
  activeMember _ := true
  authorUserId := .lit "u"
  uuid n := .lit (id ++ toString n)
  normalizeDuplicateGuardText text := text
  nearest := some

/-- A request for an active goal whose key starts with `id`. -/
def exampleCreate (id : String) (parent : Option JsString) (keyResults : List GoalKeyResultInput) :
    GoalStep :=
  ⟨9, exampleContext id, .create {
    workspaceId := .lit "w", title := .lit "Goal", status := some .active, parentGoalId := parent
    keyResults }⟩

/-- Goals `A0` and `B0` are created, the second under the first, and the first is moved under the
second. -/
def cyclicGoalSteps : List GoalStep :=
  [exampleCreate "A" none [], exampleCreate "B" (some (.lit "A0")) [],
    ⟨9, exampleContext "", .update {
      workspaceId := .lit "w", goalId := .lit "A0", parentGoalId := some (some (.lit "B0"))
      expectedVersion := some 1 }⟩]

/-- The move is accepted, `A0` is then its own ancestor, and the tree shows neither goal. -/
theorem runGoalSteps_cyclic : ¬ GoalsSound (runGoalSteps cyclicGoalSteps) ∧
    ((runGoalSteps cyclicGoalSteps).goalsIn (.lit "w")).length = 2 ∧
    (buildGoalTree ((runGoalSteps cyclicGoalSteps).goalsIn (.lit "w"))).roots = [] := by
  refine ⟨fun h => ?_, by decide +kernel, by decide +kernel⟩
  refine h.acyclic (.lit "A0") (.head (b := .lit "B0") ?_ (.single ?_))
  all_goals show GoalStore.parentOf _ _ = _; decide +kernel

end Corgtex.Domain
