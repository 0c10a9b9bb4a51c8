import Corgtex.Domain.GoalRequests
import Mathlib.Data.List.Dedup

/-!
# What the requests on goals do

One lemma for each function that writes: which rows a successful call changes, and which goals it
recomputes afterwards. The recomputation is described by an induction rule, `recompute_induction`:
what every write of a derived progress preserves, every recomputation preserves.
-/

namespace Corgtex.Domain

open Except JsString List

section
variable {store store' : GoalStore} {id a : JsString} {goal : Goal}

/-! ## Rows -/

namespace GoalStore

theorem find?_updateGoalRow (store : GoalStore) (id a : JsString) (data : Goal → Goal) :
    (store.updateGoalRow id data).goals.find? a = (store.goals.find? a).map fun goal =>
      if a = id then { data goal with id := goal.id } else goal := by
  by_cases ha : a = id
  · subst ha
    simp only [updateGoalRow, KeyedTable.find?_update_self, if_pos]
  · simp only [updateGoalRow, if_neg ha, Option.map_id']
    exact KeyedTable.find?_update_of_ne _ ha

theorem id_of_find? (h : store.goals.find? id = some goal) : goal.id = id :=
  (KeyedTable.find?_eq_some.1 h).2

@[simp] theorem keyResults_writeProgress (versions : WorkItemVersionTable GoalSnapshot)
    (progress : Int) (version : Nat) :
    (store.writeProgress versions id progress version).keyResults = store.keyResults := rfl

theorem find?_writeProgress (store : GoalStore) (versions : WorkItemVersionTable GoalSnapshot)
    (id a : JsString) (progress : Int) (version : Nat) :
    (store.writeProgress versions id progress version).goals.find? a =
      (store.goals.find? a).map fun goal =>
        if a = id then { goal with progressPercent := progress, version } else goal :=
  find?_updateGoalRow { store with versions } id a _

end GoalStore

/-! ## Recomputation -/

/-- A write that a recomputation makes to `goal`. -/
structure ProgressWrite (actor : AppActor) (store : GoalStore) (goal : Goal)
    (store' : GoalStore) where
  options : RecomputeOptions
  progress : Int
  keyResults : Option (List KeyResult)
  versions : WorkItemVersionTable GoalSnapshot
  version : Nat
  found : store.goals.find? goal.id = some goal
  progress_eq : progress = computedProgress options store goal
  needed : progress = goal.progressPercent → options.forceVersion = true
  recorded : recordWorkItemVersion store.versions actor {
    workspaceId := goal.workspaceId
    entityId := goal.id
    currentVersion := goal.version
    changedFields := options.changedFields ++
      changedField "progressPercent" goal.progressPercent (some progress)
    previousState := goalSnapshot goal keyResults } = .ok (versions, version)
  store_eq : store' = store.writeProgress versions goal.id progress version

variable {snapshotKeyResults : RecomputeOptions → List KeyResult → Option (List KeyResult)}
  {actor : AppActor} {fuel : Nat} {options : RecomputeOptions}

/-- What a recomputation does: nothing, for a goal that is missing or in order, or a write and then
the same to the parent. -/
theorem recompute_cases
    (h : recompute snapshotKeyResults actor (fuel + 1) options store id = .ok store') :
    (store.goals.find? id = none ∧ store' = store) ∨
      ∃ goal, store.goals.find? id = some goal ∧
        ((store' = store ∧ options.forceVersion = false ∧
            computedProgress options store goal = goal.progressPercent) ∨
          ∃ store₁, ∃ write : ProgressWrite actor store goal store₁, write.options = options ∧
            ((goal.parentGoalId.bind JsString.orNull = none ∧ store' = store₁) ∨
              ∃ p, goal.parentGoalId.bind JsString.orNull = some p ∧
                recompute snapshotKeyResults actor fuel {} store₁ p = .ok store')) := by
  unfold recompute at h
  cases hfound : store.goals.find? id with
  | none =>
    rw [hfound] at h
    exact .inl ⟨rfl, (ok.inj h).symm⟩
  | some goal =>
    rw [hfound] at h
    obtain rfl := GoalStore.id_of_find? hfound
    refine .inr ⟨goal, rfl, ?_⟩
    dsimp only at h
    split at h
    · next hsame => exact .inl ⟨(ok.inj h).symm, hsame.2, hsame.1⟩
    · next hneeded =>
      obtain ⟨⟨versions, version⟩, hrecord, h⟩ := bind_ok.1 h
      refine .inr ⟨_, ⟨options, _, _, versions, version, hfound, rfl, ?_, hrecord, rfl⟩, rfl, ?_⟩
      · intro hsame
        rw [not_and] at hneeded
        simpa using hneeded hsame
      · dsimp only at h
        cases hparent : goal.parentGoalId.bind orNull with
        | none =>
          rw [hparent] at h
          exact .inl ⟨rfl, (ok.inj h).symm⟩
        | some p =>
          rw [hparent] at h
          exact .inr ⟨p, rfl, h⟩

variable {R : GoalStore → GoalStore → Prop}

/-- A relation that composes and holds of every single write holds of every recomputation. -/
theorem recompute_induction (hrefl : ∀ store, R store store)
    (htrans : ∀ store₁ store₂ store₃, R store₁ store₂ → R store₂ store₃ → R store₁ store₃)
    (hwrite : ∀ store goal store₁, ProgressWrite actor store goal store₁ → R store store₁)
    (h : recompute snapshotKeyResults actor fuel options store id = .ok store') :
    R store store' := by
  induction fuel generalizing options store id with
  | zero => cases h
  | succ fuel ih =>
    rcases recompute_cases h with ⟨_, rfl⟩ | ⟨goal, _, ⟨rfl, _⟩ | ⟨store₁, write, _, hrest⟩⟩
    · exact hrefl _
    · exact hrefl _
    · have hfirst := hwrite _ _ _ write
      rcases hrest with ⟨_, rfl⟩ | ⟨p, _, hrest⟩
      · exact hfirst
      · exact htrans _ _ _ hfirst (ih hrest)

/-- Recomputations of the goals `ids`, one after the other, by either implementation. -/
inductive Recomputes (actor : AppActor) : List JsString → GoalStore → GoalStore → Prop
  | nil {store : GoalStore} : Recomputes actor [] store store
  | cons {snapshotKeyResults : RecomputeOptions → List KeyResult → Option (List KeyResult)}
      {fuel : Nat} {options : RecomputeOptions} {store store₁ store' : GoalStore} {id : JsString}
      {ids : List JsString} :
      recompute snapshotKeyResults actor fuel options store id = .ok store₁ →
      Recomputes actor ids store₁ store' → Recomputes actor (id :: ids) store store'

theorem Recomputes.induction {ids : List JsString}
    (hrefl : ∀ store, R store store)
    (htrans : ∀ store₁ store₂ store₃, R store₁ store₂ → R store₂ store₃ → R store₁ store₃)
    (hwrite : ∀ store goal store₁, ProgressWrite actor store goal store₁ → R store store₁)
    (h : Recomputes actor ids store store') : R store store' := by
  induction h with
  | nil => exact hrefl _
  | cons hfirst _ ih => exact htrans _ _ _ (recompute_induction hrefl htrans hwrite hfirst) ih

theorem recomputeGoalProgress_ok
    (h : recomputeGoalProgress fuel actor options store id = .ok store') :
    Recomputes actor [id] store store' := .cons h .nil

theorem recomputeGoalParentsInTransaction_ok {parentGoalIds : List (Option JsString)}
    (h : recomputeGoalParentsInTransaction fuel actor store parentGoalIds = .ok store') :
    Recomputes actor (sortedGoalIds parentGoalIds) store store' := by
  unfold recomputeGoalParentsInTransaction at h
  generalize sortedGoalIds parentGoalIds = ids at h ⊢
  induction ids generalizing store with
  | nil => exact ok.inj h ▸ .nil
  | cons id ids ih =>
    rw [foldlM_cons] at h
    obtain ⟨store₁, hfirst, h⟩ := bind_ok.1 h
    exact .cons hfirst (ih h)

theorem mem_sortedGoalIds {goalIds : List (Option JsString)} :
    a ∈ sortedGoalIds goalIds ↔ some a ∈ goalIds ∧ a ≠ [] := by
  unfold sortedGoalIds sort
  rw [(JsArray.sortBy_perm _ _).mem_iff, mem_dedup, mem_filterMap]
  constructor
  · rintro ⟨id, hid, ha⟩
    obtain ⟨text, rfl, htext⟩ := Option.bind_eq_some_iff.1 ha
    obtain ⟨rfl, hne⟩ := orNull_eq_some.1 htext
    exact ⟨hid, hne⟩
  · rintro ⟨ha, hne⟩
    exact ⟨some a, ha, orNull_eq_some.2 ⟨rfl, hne⟩⟩

/-! ## Checks -/

variable {context : GoalContext} {workspaceId goalId : JsString}

theorem assertGoalInWorkspace_eq_ok :
    assertGoalInWorkspace store workspaceId goalId = .ok goal ↔
      store.goals.find? goalId = some goal ∧ goal.workspaceId = workspaceId ∧
        goal.archivedAt = none := by
  unfold assertGoalInWorkspace
  cases hfound : store.goals.find? goalId with
  | none => exact ⟨nofun, fun h => nomatch h.1⟩
  | some found =>
    simp only [invariant_bind_ok, Bool.and_eq_true, decide_eq_true_eq, Option.isNone_iff_eq_none,
      Option.some.injEq]
    constructor
    · rintro ⟨⟨hworkspace, harchived⟩, h⟩
      obtain rfl := ok.inj h
      exact ⟨rfl, hworkspace, harchived⟩
    · rintro ⟨rfl, hworkspace, harchived⟩
      exact ⟨⟨hworkspace, harchived⟩, rfl⟩

/-- A goal of the workspace that is not archived. -/
def GoalStore.Live (store : GoalStore) (workspaceId id : JsString) : Prop :=
  ∃ goal, store.goals.find? id = some goal ∧ goal.workspaceId = workspaceId ∧ goal.archivedAt = none

/-- A parent that the checks let through is another live goal of the workspace. -/
theorem validateGoalReferences_ok
    {currentGoalId parentGoalId circleId ownerMemberId : Option JsString} {p : JsString}
    (h : validateGoalReferences store context workspaceId currentGoalId parentGoalId circleId
      ownerMemberId = .ok ())
    (hp : parentGoalId.bind JsString.orNull = some p) :
    store.Live workspaceId p ∧ some p ≠ currentGoalId ∧ p ≠ [] := by
  obtain ⟨_, hparent, _⟩ := bind_ok.1 h
  rw [hp] at hparent
  obtain ⟨hne, hparent⟩ := invariant_bind_ok.1 hparent
  obtain ⟨text, _, htext⟩ := Option.bind_eq_some_iff.1 hp
  refine ⟨?_, by simpa using hne, (orNull_eq_some.1 htext).2⟩
  cases hfound : store.goals.find? p with
  | none =>
    rw [hfound] at hparent
    cases hparent
  | some goal =>
    rw [hfound] at hparent
    unfold invariant at hparent
    split at hparent
    · next hlive =>
      simp only [Option.any_some, Bool.and_eq_true, decide_eq_true_eq,
        Option.isNone_iff_eq_none] at hlive
      exact ⟨goal, hfound, hlive.1.1, hlive.1.2⟩
    · cases hparent

/-! ## Creating -/

variable {rows : List KeyResult}

theorem createKeyResults_ok
    (h : store.createKeyResults rows = .ok store') :
    store'.goals = store.goals ∧ store'.versions = store.versions ∧
      store'.keyResults.rows = store.keyResults.rows ++ rows := by
  obtain ⟨table, htable, h⟩ := bind_ok.1 h
  obtain rfl := ok.inj h
  exact ⟨rfl, rfl, foldlM_createRow_ok htable⟩

theorem goalId_of_normalizeKeyResults {inputs : List GoalKeyResultInput}
    {keyResults : List KeyResult} (h : normalizeKeyResults context goalId inputs = .ok keyResults) :
    ∀ keyResult ∈ keyResults, keyResult.goalId = goalId := by
  unfold normalizeKeyResults at h
  generalize inputs.zipIdx = indexed at h
  induction indexed generalizing keyResults with
  | nil => simp [← ok.inj h]
  | cons input indexed ih =>
    rw [mapM_cons] at h
    obtain ⟨first, hfirst, h⟩ := bind_ok.1 h
    obtain ⟨rest, hrest, h⟩ := bind_ok.1 h
    obtain rfl := ok.inj h
    obtain ⟨_, hfirst⟩ := invariant_bind_ok.1 hfirst
    obtain ⟨_, _, hfirst⟩ := bind_ok.1 hfirst
    obtain rfl := ok.inj hfirst
    exact forall_mem_cons.2 ⟨rfl, ih hrest⟩

variable {params : CreateGoalParams}

theorem createGoal_ok
    (h : createGoal store context params = .ok store') :
    ∃ keyResults, (∀ keyResult ∈ keyResults, keyResult.goalId = context.uuid 0) ∧
      (∀ p, params.parentGoalId.bind JsString.orNull = some p →
        store.Live params.workspaceId p ∧ p ≠ []) ∧
      store.goals.find? (context.uuid 0) = none ∧
      store'.goals.rows = store.goals.rows ++ [params.row context keyResults] ∧
      store'.keyResults.rows = store.keyResults.rows ++ keyResults ∧
      store'.versions = store.versions := by
  obtain ⟨_, h⟩ := invariant_bind_ok.1 h
  obtain ⟨_, h⟩ := invariant_bind_ok.1 h
  obtain ⟨_, hrefs, h⟩ := bind_ok.1 h
  obtain ⟨keyResults, hkeyResults, h⟩ := bind_ok.1 h
  obtain ⟨goals, hgoals, h⟩ := bind_ok.1 h
  obtain ⟨hnew, hrows⟩ := createRow_ok hgoals
  obtain ⟨hsame, hversions, hkr⟩ := createKeyResults_ok h
  refine ⟨keyResults, goalId_of_normalizeKeyResults hkeyResults, fun p hp => ?_, hnew,
    hsame ▸ hrows, hkr, hversions⟩
  obtain ⟨hlive, _, hne⟩ := validateGoalReferences_ok hrefs hp
  exact ⟨hlive, hne⟩

/-! ## Writing one goal -/

variable {store₁ : GoalStore} {data data₁ : GoalData} {contentFields : List String}

section
variable (h : recordGoalVersion store actor goal contentFields data = .ok (store₁, data₁))
include h

theorem recordGoalVersion_ok :
    ((data.changedFields goal).filter contentFields.contains = [] ∧ store₁ = store ∧ data₁ = data) ∨
      ((data.changedFields goal).filter contentFields.contains ≠ [] ∧
        ∃ versions newVersion, recordWorkItemVersion store.versions actor {
            workspaceId := goal.workspaceId
            entityId := goal.id
            currentVersion := goal.version
            changedFields := (data.changedFields goal).filter contentFields.contains
            previousState := goalSnapshot goal none } = .ok (versions, newVersion) ∧
          store₁ = { store with versions } ∧ data₁ = { data with version := some newVersion }) := by
  unfold recordGoalVersion at h
  dsimp only at h
  split at h
  · next hnil =>
    obtain ⟨rfl, rfl⟩ := Prod.mk.inj (ok.inj h)
    exact .inl ⟨hnil, rfl, rfl⟩
  · next hchanged =>
    obtain ⟨⟨versions, newVersion⟩, hrecord, h⟩ := bind_ok.1 h
    obtain ⟨rfl, rfl⟩ := Prod.mk.inj (ok.inj h)
    exact .inr ⟨hchanged, versions, newVersion, hrecord, rfl, rfl⟩

/-- Up to the version, the recording leaves the rows and the data of the write alone. -/
theorem recordGoalVersion_frame :
    store₁.goals = store.goals ∧ store₁.keyResults = store.keyResults ∧
      { data₁ with version := data.version } = data := by
  rcases recordGoalVersion_ok h with ⟨_, rfl, rfl⟩ | ⟨_, versions, _, _, rfl, rfl⟩
  · exact ⟨rfl, rfl, rfl⟩
  · exact ⟨rfl, rfl, rfl⟩

end

theorem UpdateGoalParams.data_ok {params : UpdateGoalParams}
    (h : params.data context goal = .ok data) :
    ∃ progressPercent, (params.progressPercent = none → progressPercent = none) ∧
      (params.progressPercent.isSome → progressPercent.isSome) ∧
      data = { GoalData.ofStatus params.status goal context.now with
        title := params.title.map JsString.trim
        descriptionMd := params.descriptionMd.map fun text => text.bind JsString.orNull
        level := params.level
        cadence := params.cadence
        progressPercent
        targetDate := params.targetDate
        startDate := params.startDate
        parentGoalId := params.parentGoalId.map fun id => id.bind JsString.orNull
        circleId := params.circleId.map fun id => id.bind JsString.orNull
        ownerMemberId := params.ownerMemberId.map fun id => id.bind JsString.orNull } := by
  obtain ⟨_, h⟩ := invariant_bind_ok.1 h
  obtain ⟨progress, hprogress, h⟩ := bind_ok.1 h
  refine ⟨progress, fun hnone => ?_, fun hsome => ?_, (ok.inj h).symm⟩
  · rw [hnone] at hprogress
    exact (ok.inj hprogress).symm
  · obtain ⟨value, hvalue⟩ := Option.isSome_iff_exists.1 hsome
    rw [hvalue] at hprogress
    obtain ⟨rounded, _, hprogress⟩ := bind_ok.1 hprogress
    exact ok.inj hprogress ▸ rfl

/-- `updateGoal` updates the row of a live goal, if anything changes, and recomputes parents. -/
theorem updateGoal_ok {params : UpdateGoalParams}
    (h : updateGoal fuel store context params = .ok store') :
    ∃ goal data store₁ data₁, store.goals.find? params.goalId = some goal ∧
      goal.workspaceId = params.workspaceId ∧ goal.archivedAt = none ∧
      (∀ p, params.parentGoalId.join.bind JsString.orNull = some p →
        store.Live params.workspaceId p ∧ p ≠ params.goalId ∧ p ≠ []) ∧
      params.data context goal = .ok data ∧
      (params.editsContent → params.expectedVersion.isSome) ∧
      (∀ e, params.expectedVersion = some e → e = goal.version ∧ 0 < goal.version) ∧
      recordGoalVersion store context.actor goal goalContentFields data = .ok (store₁, data₁) ∧
      ((data₁.changedFields goal = [] ∧ store' = store₁) ∨
        Recomputes context.actor
          (sortedGoalIds (parentGoalIdsToRecompute
            (params.parentGoalId.isSome || params.progressPercent.isSome || params.status.isSome)
            ((data₁.changedFields goal).contains "parentGoalId" ||
              (data₁.changedFields goal).contains "progressPercent")
            params.parentGoalId.join goal (data₁.apply goal)))
          (store₁.updateGoalRow params.goalId data₁.apply) store') := by
  obtain ⟨goal, hgoal, h⟩ := bind_ok.1 h
  obtain ⟨_, h⟩ := invariant_bind_ok.1 h
  obtain ⟨_, hrefs, h⟩ := bind_ok.1 h
  obtain ⟨_, _, h⟩ := bind_ok.1 h
  obtain ⟨_, _, h⟩ := bind_ok.1 h
  obtain ⟨data, hdata, h⟩ := bind_ok.1 h
  obtain ⟨hexpected, h⟩ := invariant_bind_ok.1 h
  obtain ⟨_, hversion, h⟩ := bind_ok.1 h
  obtain ⟨⟨store₁, data₁⟩, hrecord, h⟩ := bind_ok.1 h
  obtain ⟨hfound, hworkspace, harchived⟩ := assertGoalInWorkspace_eq_ok.1 hgoal
  refine ⟨goal, data, store₁, data₁, hfound, hworkspace, harchived, fun p hp => ?_, hdata,
    ?_, checkExpectedVersion_eq_ok.1 hversion, hrecord, ?_⟩
  · obtain ⟨hlive, hne, hempty⟩ := validateGoalReferences_ok hrefs hp
    exact ⟨hlive, fun he => hne (congrArg some he), hempty⟩
  · intro hedits
    simpa [hedits] using hexpected
  · dsimp only at h
    split at h
    · next hnil => exact .inl ⟨hnil, (ok.inj h).symm⟩
    · exact .inr (recomputeGoalParentsInTransaction_ok h)

theorem updateDuplicateGoal_ok
    (h : updateDuplicateGoal fuel store context params goalId = .ok store') :
    ∃ existing, store.goals.find? goalId = some existing ∧
      ((store' = store ∧ (params.duplicateUpdate context existing).editsContent = false) ∨
        updateGoal fuel store context { params.duplicateUpdate context existing with
        expectedVersion := some existing.version } = .ok store') := by
  unfold updateDuplicateGoal at h
  cases hfound : store.goals.find? goalId with
  | none =>
    rw [hfound] at h
    cases h
  | some existing =>
    rw [hfound] at h
    obtain ⟨_, h⟩ := invariant_bind_ok.1 h
    refine ⟨existing, rfl, ?_⟩
    dsimp only at h
    split at h
    · exact .inr h
    · next hno =>
      simp only [Bool.or_eq_true, not_or, Bool.not_eq_true] at hno
      exact .inl ⟨(ok.inj h).symm, hno.1⟩

/-- `postGoalUpdate` updates status and progress of a live goal, and recomputes parents. -/
theorem postGoalUpdate_ok {params : PostGoalUpdateParams}
    (h : postGoalUpdate fuel store context params = .ok store') :
    ∃ goal newProgress, store.goals.find? params.goalId = some goal ∧
      goal.workspaceId = params.workspaceId ∧
      (params.newProgress = none → newProgress = none) ∧
      (∀ e, params.expectedVersion = some e → e = goal.version ∧ 0 < goal.version) ∧
      (store' = store ∨ ∃ store₁ data₁,
        recordGoalVersion store context.actor goal ["progressPercent"]
          (params.data goal context.now newProgress) = .ok (store₁, data₁) ∧
        Recomputes context.actor
          (sortedGoalIds (parentGoalIdsToRecompute true newProgress.isSome none goal
            (data₁.apply goal)))
          (store₁.updateGoalRow params.goalId data₁.apply) store') := by
  obtain ⟨goal, hgoal, h⟩ := bind_ok.1 h
  obtain ⟨_, _, h⟩ := bind_ok.1 h
  obtain ⟨_, h⟩ := invariant_bind_ok.1 h
  obtain ⟨newProgress, hprogress, h⟩ := bind_ok.1 h
  obtain ⟨_, hversion, h⟩ := bind_ok.1 h
  obtain ⟨_, h⟩ := invariant_bind_ok.1 h
  obtain ⟨hfound, hworkspace, _⟩ := assertGoalInWorkspace_eq_ok.1 hgoal
  refine ⟨goal, newProgress, hfound, hworkspace, fun hnone => ?_,
    checkExpectedVersion_eq_ok.1 hversion, ?_⟩
  · rw [hnone] at hprogress
    exact (ok.inj hprogress).symm
  · dsimp only at h
    split at h
    · exact .inl (ok.inj h).symm
    · obtain ⟨⟨store₁, data₁⟩, hrecord, h⟩ := bind_ok.1 h
      exact .inr ⟨store₁, data₁, hrecord, recomputeGoalParentsInTransaction_ok h⟩

/-! ## Key results -/

/-- A write to the key results of one goal. -/
structure KeyResultWrite (store : GoalStore) (goalId : JsString) (store₁ : GoalStore) : Prop where
  goals_eq : store₁.goals = store.goals
  versions_eq : store₁.versions = store.versions
  others : ∀ a, a ≠ goalId → store₁.keyResultsOf a = store.keyResultsOf a
  goalIds : ∀ keyResult ∈ store₁.keyResults.rows, keyResult.goalId = goalId ∨
    ∃ old ∈ store.keyResults.rows, old.goalId = keyResult.goalId

theorem KeyResultWrite.append
    (hgoal : ∀ keyResult ∈ rows, keyResult.goalId = id)
    (h : store.createKeyResults rows = .ok store') : KeyResultWrite store id store' := by
  obtain ⟨hgoals, hversions, hrows⟩ := createKeyResults_ok h
  refine ⟨hgoals, hversions, fun a ha => ?_, fun keyResult hmem => ?_⟩
  · have hnone : rows.filter (fun keyResult => keyResult.goalId = a) = [] := by
      refine filter_eq_nil_iff.2 fun keyResult hmem => ?_
      simpa [hgoal keyResult hmem] using ha.symm
    simp [GoalStore.keyResultsOf, hrows, hnone]
  · rw [hrows, mem_append] at hmem
    exact hmem.elim (fun hold => .inr ⟨keyResult, hold, rfl⟩) fun hnew => .inl (hgoal _ hnew)

/-- What the key result requests do: a write to the key results of a goal, and a recomputation of
the goal that is recorded in any case. -/
def ChangesKeyResults (fuel : Nat) (actor : AppActor) (store : GoalStore) (goal : Goal)
    (store' : GoalStore) : Prop :=
  ∃ store₁ reset, KeyResultWrite store goal.id store₁ ∧
    recomputeGoalProgress fuel actor { keyResultsChanged (store.keyResultsOf goal.id) with
      resetProgressWhenUndriven := reset } store₁ goal.id = .ok store'

theorem addKeyResult_ok {params : AddKeyResultParams}
    (h : addKeyResult fuel store context params = .ok store') :
    ∃ goal, store.goals.find? goal.id = some goal ∧
      ChangesKeyResults fuel context.actor store goal store' := by
  obtain ⟨_, h⟩ := invariant_bind_ok.1 h
  obtain ⟨progress, _, h⟩ := bind_ok.1 h
  obtain ⟨goal, hgoal, h⟩ := bind_ok.1 h
  obtain ⟨_, _, h⟩ := bind_ok.1 h
  obtain ⟨store₁, hcreate, h⟩ := bind_ok.1 h
  have hfound := (assertGoalInWorkspace_eq_ok.1 hgoal).1
  have hid := GoalStore.id_of_find? hfound
  rw [← hid] at hfound h hcreate
  refine ⟨goal, hfound, store₁, false, .append ?_ hcreate, h⟩
  simp

theorem findKeyResult_ok {krId : JsString} {keyResult : KeyResult}
    (h : findKeyResult store workspaceId krId = .ok (keyResult, goal)) :
    store.keyResults.find? krId = some keyResult ∧ goal.id = keyResult.goalId ∧
      store.goals.find? goal.id = some goal := by
  unfold findKeyResult at h
  split at h
  · cases h
  next found hkr =>
  split at h
  · cases h
  next parent hparent =>
  obtain ⟨_, h⟩ := invariant_bind_ok.1 h
  obtain ⟨rfl, rfl⟩ := Prod.mk.inj (ok.inj h)
  have hid := GoalStore.id_of_find? hparent
  exact ⟨hkr, hid, hid ▸ hparent⟩

theorem updateKeyResult_ok {params : UpdateKeyResultParams}
    (h : updateKeyResult fuel store context params = .ok store') :
    ∃ keyResult goal, store.keyResults.find? params.krId = some keyResult ∧
      goal.id = keyResult.goalId ∧ store.goals.find? goal.id = some goal ∧
      (∀ e, params.expectedVersion = some e → e = goal.version ∧ 0 < goal.version) ∧
      (store' = store ∨ ChangesKeyResults fuel context.actor store goal store') := by
  obtain ⟨⟨keyResult, goal⟩, hfind, h⟩ := bind_ok.1 h
  obtain ⟨_, h⟩ := invariant_bind_ok.1 h
  obtain ⟨progress, _, h⟩ := bind_ok.1 h
  obtain ⟨_, _, h⟩ := bind_ok.1 h
  obtain ⟨_, hversion, h⟩ := bind_ok.1 h
  obtain ⟨hkr, hgoalId, hfound⟩ := findKeyResult_ok hfind
  refine ⟨keyResult, goal, hkr, hgoalId, hfound, checkExpectedVersion_eq_ok.1 hversion, ?_⟩
  dsimp only at h
  split at h
  · exact .inl (ok.inj h).symm
  refine .inr ⟨_, false, ?_, h⟩
  refine ⟨rfl, rfl, fun a ha => ?_, fun row hrow => ?_⟩
  · refine filter_map_eq fun row hrow => ?_
    by_cases hid : row.id = params.krId
    · obtain rfl : row = keyResult := by
        rw [KeyedTable.find?_key hrow |>.symm.trans (hid ▸ hkr) |> Option.some.inj]
      simp [hid, ← hgoalId, ha.symm]
    · simp [hid]
  · obtain ⟨old, hold, rfl⟩ := mem_map.1 hrow
    split
    · exact .inl hgoalId.symm
    · exact .inr ⟨old, hold, rfl⟩

theorem deleteKeyResult_ok {krId : JsString} {expectedVersion : ℚ}
    (h : deleteKeyResult fuel store context workspaceId krId expectedVersion = .ok store') :
    ∃ keyResult goal, store.keyResults.find? krId = some keyResult ∧
      goal.id = keyResult.goalId ∧ store.goals.find? goal.id = some goal ∧
      expectedVersion = goal.version ∧ ChangesKeyResults fuel context.actor store goal store' := by
  obtain ⟨⟨keyResult, goal⟩, hfind, h⟩ := bind_ok.1 h
  obtain ⟨_, _, h⟩ := bind_ok.1 h
  obtain ⟨_, hversion, h⟩ := bind_ok.1 h
  obtain ⟨hkr, hgoalId, hfound⟩ := findKeyResult_ok hfind
  refine ⟨keyResult, goal, hkr, hgoalId, hfound, (checkExpectedVersion_eq_ok.1 hversion _ rfl).1,
    _, true, ?_, h⟩
  refine ⟨rfl, rfl, fun a ha => ?_, fun row hrow => ?_⟩
  · show filter _ (filter _ _) = filter _ _
    rw [filter_filter]
    refine filter_congr fun row hrow => ?_
    by_cases hid : row.id = krId
    · obtain rfl : row = keyResult :=
        Option.some.inj ((KeyedTable.find?_key hrow).symm.trans (hid ▸ hkr))
      simp [hid, ← hgoalId, ha.symm]
    · simp [hid]
  · exact .inr ⟨row, mem_of_mem_filter hrow, rfl⟩

/-- `appendMissingDuplicateGoalKeyResults` adds key results to a goal, gives it their mean, and
recomputes its parent. -/
theorem appendMissingDuplicateGoalKeyResults_ok
    (h : appendMissingDuplicateGoalKeyResults fuel store context params goalId = .ok store') :
    store' = store ∨ ∃ goal store₁ rows progress versions newVersion,
      store.goals.find? goalId = some goal ∧ rows ≠ [] ∧
      KeyResultWrite store goalId store₁ ∧
      store₁.keyResults.rows = store.keyResults.rows ++ rows ∧
      (∀ keyResult ∈ rows, keyResult.goalId = goalId) ∧
      progress = roundedMean
        ((store.keyResultsOf goalId).map KeyResult.progressPercent ++
          rows.map KeyResult.progressPercent) ∧
      recordWorkItemVersion store.versions context.actor {
        workspaceId := params.workspaceId
        entityId := goal.id
        currentVersion := goal.version
        changedFields := ["keyResults", "progressPercent"]
        previousState := goalSnapshot goal none } = .ok (versions, newVersion) ∧
      Recomputes context.actor (sortedGoalIds [goal.parentGoalId])
        (store₁.writeProgress versions goalId progress newVersion) store' := by
  obtain ⟨keyResults, hkeyResults, h⟩ := bind_ok.1 h
  split at h
  · exact .inl (ok.inj h).symm
  obtain ⟨goal, hgoal, h⟩ := bind_ok.1 h
  obtain ⟨_, _, h⟩ := bind_ok.1 h
  dsimp only at h
  split at h
  · exact .inl (ok.inj h).symm
  next hmissing =>
  obtain ⟨store₁, hcreate, h⟩ := bind_ok.1 h
  obtain ⟨⟨versions, newVersion⟩, hrecord, h⟩ := bind_ok.1 h
  obtain ⟨hfound, _, _⟩ := assertGoalInWorkspace_eq_ok.1 hgoal
  obtain ⟨hgoals, hversions, hrows⟩ := createKeyResults_ok hcreate
  rw [hversions] at hrecord
  have hgoalIds := goalId_of_normalizeKeyResults hkeyResults
  generalize hlist : keyResults.filter _ = missing at h hcreate hmissing hrows
  have hmem : ∀ row ∈ missing, row.goalId = goalId := fun row hrow =>
    hgoalIds row (mem_of_mem_filter (hlist ▸ hrow))
  have hadded : ∀ row ∈ missing.zipIdx.map (fun entry => { entry.1 with
      sortOrder := ((store.keyResultsOf goalId).map KeyResult.sortOrder).foldl max (-1)
        + entry.2 + 1 }), row.goalId = goalId := by
    intro row hrow
    obtain ⟨⟨old, index⟩, hold, rfl⟩ := mem_map.1 hrow
    exact hmem old (fst_mem_of_mem_zipIdx hold)
  refine .inr ⟨goal, store₁, _, _, versions, newVersion, hfound, ?_, .append hadded hcreate, hrows,
    hadded, ?_, hrecord, recomputeGoalParentsInTransaction_ok h⟩
  · simpa using hmissing
  · rw [map_append, map_map]
    congr 2
    exact (congrArg (map _) (zipIdx_map_fst 0 missing)).symm.trans map_map

/-! ## Archive and restore -/

/-- What the archive requests do: the archive fields of one row, and a recomputation of the parent
that it names and of nothing else. -/
def ChangesArchive (actor : AppActor) (store : GoalStore) (goal : Goal) (store' : GoalStore) :
    Prop :=
  ∃ archivedAt archivedByUserId archiveReason ids,
    (∀ p, goal.parentGoalId = some p → p ≠ [] → p ∈ ids) ∧ ids.Nodup ∧
    (∀ p ∈ ids, goal.parentGoalId = some p) ∧
    Recomputes actor ids (store.updateGoalRow goal.id fun goal =>
      { goal with archivedAt, archivedByUserId, archiveReason }) store'

theorem deleteGoal_ok {includeArchived : Bool}
    (h : deleteGoal fuel store context workspaceId goalId includeArchived = .ok store') :
    ∃ goal, store.goals.find? goal.id = some goal ∧
      (store' = store ∨ ChangesArchive context.actor store goal store') := by
  unfold deleteGoal at h
  cases hfound : store.goals.find? goalId with
  | none =>
    rw [hfound] at h
    cases h
  | some goal =>
    rw [hfound] at h
    obtain ⟨_, h⟩ := invariant_bind_ok.1 h
    obtain ⟨_, _, h⟩ := bind_ok.1 h
    refine ⟨goal, GoalStore.id_of_find? hfound ▸ hfound, ?_⟩
    dsimp only at h
    split at h
    · exact .inl (ok.inj h).symm
    refine .inr ⟨some context.now, context.actor.userId?,
      some (.lit "Archived from goal delete path."),
      (goal.parentGoalId.bind orNull).toList, ?_, ?_, ?_, ?_⟩
    · intro p hp hne
      simp [hp, orNull_eq_some.2 ⟨rfl, hne⟩]
    · cases goal.parentGoalId.bind orNull <;> simp
    · intro p hp
      obtain ⟨text, hparent, htext⟩ := Option.bind_eq_some_iff.1 (Option.mem_toList.1 hp)
      rw [hparent, (orNull_eq_some.1 htext).1]
    · cases hparent : goal.parentGoalId.bind orNull with
      | none =>
        rw [hparent] at h
        exact ok.inj h ▸ .nil
      | some p =>
        rw [hparent] at h
        exact recomputeGoalProgress_ok h

theorem recomputeGoalParentProgressForArchiveTransition_ok {parentGoalId : Option JsString}
    (h : recomputeGoalParentProgressForArchiveTransition fuel context store parentGoalId
      = .ok store') : Recomputes context.actor parentGoalId.toList store store' := by
  cases parentGoalId with
  | none => exact ok.inj h ▸ .nil
  | some p => exact .cons h .nil

theorem findGoalRecord_ok (h : findGoalRecord store workspaceId goalId = .ok goal) :
    store.goals.find? goal.id = some goal ∧ goal.id = goalId := by
  unfold findGoalRecord at h
  split at h
  · cases h
  next record hrecord =>
  obtain rfl := ok.inj h
  have hfound := (Option.filter_eq_some_iff.1 hrecord).1
  have hid := GoalStore.id_of_find? hfound
  exact ⟨hid ▸ hfound, hid⟩

theorem ChangesArchive.of_parent {archivedAt : Option Int} {archivedByUserId : Option JsString}
    {archiveReason : Option JsString}
    (h : recomputeGoalParentProgressForArchiveTransition fuel context
      (store.updateGoalRow goal.id fun goal =>
        { goal with archivedAt, archivedByUserId, archiveReason }) goal.parentGoalId = .ok store') :
    ChangesArchive context.actor store goal store' := by
  refine ⟨_, _, _, goal.parentGoalId.toList, fun p hp _ => by simp [hp], ?_, fun p hp => ?_,
    recomputeGoalParentProgressForArchiveTransition_ok h⟩
  · cases goal.parentGoalId <;> simp
  · exact Option.mem_toList.1 hp

variable {expectedVersion : Option ℚ}

theorem archiveGoal_ok {reason : Option JsString}
    (h : archiveGoal fuel store context workspaceId goalId reason expectedVersion = .ok store') :
    ∃ goal, store.goals.find? goal.id = some goal ∧ goal.id = goalId ∧
      (∀ e, expectedVersion = some e → e = goal.version) ∧
      (store' = store ∨ ChangesArchive context.actor store goal store') := by
  obtain ⟨_, h⟩ := invariant_bind_ok.1 h
  obtain ⟨goal, hgoal, h⟩ := bind_ok.1 h
  obtain ⟨hversion, h⟩ := invariant_bind_ok.1 h
  obtain ⟨hfound, hid⟩ := findGoalRecord_ok hgoal
  refine ⟨goal, hfound, hid, ?_, ?_⟩
  · rintro e rfl
    exact of_decide_eq_true hversion
  dsimp only at h
  split at h
  · exact .inl (ok.inj h).symm
  · exact .inr (.of_parent h)

theorem restoreGoal_ok
    (h : restoreGoal fuel store context workspaceId goalId expectedVersion = .ok store') :
    ∃ goal, store.goals.find? goal.id = some goal ∧ goal.id = goalId ∧
      (∀ e, expectedVersion = some e → e = goal.version) ∧
      ChangesArchive context.actor store goal store' := by
  obtain ⟨_, h⟩ := invariant_bind_ok.1 h
  obtain ⟨goal, hgoal, h⟩ := bind_ok.1 h
  obtain ⟨_, h⟩ := invariant_bind_ok.1 h
  obtain ⟨hversion, h⟩ := invariant_bind_ok.1 h
  obtain ⟨hfound, hid⟩ := findGoalRecord_ok hgoal
  refine ⟨goal, hfound, hid, ?_, .of_parent h⟩
  rintro e rfl
  exact of_decide_eq_true hversion

end

end Corgtex.Domain
