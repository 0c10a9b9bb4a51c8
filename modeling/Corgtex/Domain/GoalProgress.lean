import Corgtex.Domain.GoalHierarchy

/-!
# Derived progress

The progress of a goal with key results is their rounded mean, and that of a goal with children is
the rounded mean of the children that count. Every transaction recomputes the goals whose drivers it
changes, upwards until a level does not change. Two writes are not followed by a recomputation of
the goal concerned: progress that is set by hand, and a new goal under it. Every other goal keeps
its derived progress (`progress_derived`).
-/

namespace Corgtex.Domain

section
variable {store store' store₁ : GoalStore} {id a : JsString} {goal : Goal} {context : GoalContext}
  {fuel : Nat} {actor : AppActor} {ids : List JsString}

namespace GoalStore

/-- The goal, if it exists, has the progress that its drivers give it. -/
def Settled (store : GoalStore) (id : JsString) : Prop :=
  ∀ goal, store.goals.find? id = some goal →
    ∀ progress, derivedProgress (store.drivers id) = some progress → goal.progressPercent = progress

/-- The progress of the goal and of its drivers is the same in both stores. -/
def SameProgress (store store' : GoalStore) (id : JsString) : Prop :=
  store'.drivers id = store.drivers id ∧
    (store'.goals.find? id).map Goal.progressPercent =
      (store.goals.find? id).map Goal.progressPercent

theorem SameProgress.trans {store₁ store₂ store₃ : GoalStore} (h : SameProgress store₁ store₂ id)
    (h' : SameProgress store₂ store₃ id) : SameProgress store₁ store₃ id :=
  ⟨h'.1.trans h.1, h'.2.trans h.2⟩

theorem Settled.of_same (h : store.Settled id) (hsame : SameProgress store store' id) :
    store'.Settled id := by
  intro goal hgoal progress hprogress
  have hrow := hsame.2.symm.trans (congrArg _ hgoal)
  obtain ⟨old, hold, heq⟩ := Option.map_eq_some_iff.1 hrow
  exact heq ▸ h old hold progress (hsame.1 ▸ hprogress)

/-- A child that the drivers of `a` include. -/
def countsUnder (a : JsString) (goal : Goal) : Bool :=
  goal.parentGoalId = some a && countsTowardParentProgress goal

section
variable {data : Goal → Goal} (hfound : store.goals.find? id = some goal)
  (hcounts : countsUnder a (data goal) = countsUnder a goal)
  (hprogress : countsUnder a goal → (data goal).progressPercent = goal.progressPercent)
include hfound hcounts hprogress

/-- A write to a goal that is and stays out of the drivers of `a`, or is among them with the same
progress before and after, does not change the drivers of `a`. -/
theorem drivers_updateGoalRow : (store.updateGoalRow id data).drivers a = store.drivers a := by
  refine Prod.ext rfl (List.map_filter_map_eq fun row hrow => ?_)
  split
  · next he =>
    have hrow : row = goal := by
      rw [← of_decide_eq_true he, KeyedTable.find?_key hrow] at hfound
      exact Option.some.inj hfound
    subst hrow
    exact ⟨hcounts, hprogress⟩
  · exact ⟨rfl, fun _ => rfl⟩

theorem sameProgress_updateGoalRow
    (hself : a = id → (data goal).progressPercent = goal.progressPercent) :
    SameProgress store (store.updateGoalRow id data) a := by
  refine ⟨drivers_updateGoalRow hfound hcounts hprogress, ?_⟩
  rw [find?_updateGoalRow]
  split
  · next ha =>
    subst ha
    simpa [hfound] using hself rfl
  · simp

end

/-- The goal has its derived progress afterwards, or nothing that this depends on has changed. -/
def Keeps (store store' : GoalStore) (id : JsString) : Prop :=
  store'.Settled id ∨ SameProgress store store' id

theorem Keeps.trans (h : Keeps store store₁ id) (h' : Keeps store₁ store' id) :
    Keeps store store' id := by
  rcases h' with hsettled | hsame
  · exact .inl hsettled
  · exact h.imp (·.of_same hsame) (·.trans hsame)

theorem Settled.keeps (h : store.Settled id) (h' : Keeps store store' id) : store'.Settled id :=
  h'.elim (fun hsettled => hsettled) h.of_same

end GoalStore

open GoalStore List

/-! ## Recomputation -/

theorem ProgressWrite.settled (write : ProgressWrite actor store goal store₁)
    (hself : goal.parentGoalId ≠ some goal.id) : store₁.Settled goal.id := by
  obtain ⟨options, _, _, versions, version, hfound, rfl, _, _, rfl⟩ := write
  intro row hrow progress hprogress
  have hdrivers : (store.writeProgress versions goal.id (computedProgress options store goal)
      version).drivers goal.id = { store with versions }.drivers goal.id := by
    refine drivers_updateGoalRow hfound rfl ?_
    simp [countsUnder, hself]
  replace hprogress : derivedProgress (store.drivers goal.id) = some progress :=
    hdrivers ▸ hprogress
  rw [find?_writeProgress, hfound] at hrow
  obtain rfl := Option.some.inj hrow
  simp [computedProgress, hprogress]

theorem ProgressWrite.sameProgress (write : ProgressWrite actor store goal store₁)
    (ha : a ≠ goal.id) (hparent : goal.parentGoalId ≠ some a) : SameProgress store store₁ a := by
  obtain ⟨_, progress, _, versions, version, hfound, _, _, _, rfl⟩ := write
  have hwritten : SameProgress { store with versions }
      (store.writeProgress versions goal.id progress version) a := by
    refine sameProgress_updateGoalRow hfound rfl ?_ (absurd · ha)
    simp [countsUnder, hparent]
  exact hwritten

/-- No goal names a parent with an empty key, which `if (goal.parentGoalId)` would pass over. -/
def GoalStore.ParentsNonempty (store : GoalStore) : Prop :=
  ∀ a, store.parentOf a ≠ some []

theorem GoalStore.Linked.parentsNonempty (h : store.Linked) : store.ParentsNonempty :=
  fun _ ha => (h _ _ ha).1 rfl

theorem GoalStore.ParentsNonempty.orNull (h : store.ParentsNonempty)
    (hfound : store.goals.find? id = some goal) :
    goal.parentGoalId.bind JsString.orNull = goal.parentGoalId := by
  cases hparent : goal.parentGoalId with
  | none => rfl
  | some p =>
    refine JsString.orNull_eq_some.2 ⟨rfl, ?_⟩
    rintro rfl
    exact h id (by simp [parentOf, hfound, hparent])

variable {snapshotKeyResults : RecomputeOptions → List KeyResult → Option (List KeyResult)}
  {options : RecomputeOptions}

/-- A recomputation gives its goal the derived progress, and does not unsettle another goal. The
induction is on the recursion to the parents, the only other goals whose drivers a write changes. -/
theorem recompute_settles (hparents : store.ParentsNonempty)
    (h : recompute snapshotKeyResults actor fuel options store id = .ok store') :
    store'.Settled id ∧ ∀ a, Keeps store store' a := by
  induction fuel generalizing options store id with
  | zero => cases h
  | succ fuel ih =>
    rcases recompute_cases h with ⟨hnone, rfl⟩ |
      ⟨goal, hfound, ⟨rfl, _, hsame⟩ | ⟨store₁, write, _, hrest⟩⟩
    · exact ⟨fun goal hgoal => (nomatch hnone.symm.trans hgoal), fun _ => .inr ⟨rfl, rfl⟩⟩
    · refine ⟨fun row hrow progress hprogress => ?_, fun _ => .inr ⟨rfl, rfl⟩⟩
      obtain rfl := Option.some.inj (hfound.symm.trans hrow)
      obtain rfl := id_of_find? hfound
      simpa [computedProgress, hprogress] using hsame.symm
    · obtain rfl := id_of_find? hfound
      rw [hparents.orNull hfound] at hrest
      rcases hrest with ⟨hroot, rfl⟩ | ⟨p, hp, hrest⟩
      · have hself : store'.Settled goal.id := write.settled (by simp [hroot])
        refine ⟨hself, fun a => ?_⟩
        by_cases ha : a = goal.id
        · exact .inl (ha ▸ hself)
        · exact .inr (write.sameProgress ha (by simp [hroot]))
      · have hsame : SameHierarchy store store₁ := by
          rw [write.store_eq]
          exact (SameHierarchy.of_goals_eq rfl).trans (.updateGoalRow write.found rfl fun _ => rfl)
        have hparents₁ : store₁.ParentsNonempty := fun a => hsame.1 ▸ hparents a
        obtain ⟨hparent, hkeeps⟩ := ih hparents₁ hrest
        have hself : store'.Settled goal.id := by
          by_cases hp' : goal.parentGoalId = some goal.id
          · exact Option.some.inj (hp.symm.trans hp') ▸ hparent
          · exact (write.settled hp').keeps (hkeeps _)
        refine ⟨hself, fun a => ?_⟩
        by_cases ha : a = goal.id
        · exact .inl (ha ▸ hself)
        by_cases hap : a = p
        · exact .inl (hap ▸ hparent)
        · refine .trans (.inr (write.sameProgress ha fun h => hap ?_)) (hkeeps a)
          exact Option.some.inj (h.symm.trans hp)

theorem Recomputes.settles (hparents : store.ParentsNonempty)
    (h : Recomputes actor ids store store') :
    (∀ a ∈ ids, store'.Settled a) ∧ ∀ a, Keeps store store' a := by
  induction h with
  | nil => exact ⟨nofun, fun _ => .inr ⟨rfl, rfl⟩⟩
  | cons hfirst hrest ih =>
    have hsame := (Recomputes.cons hfirst .nil).sameHierarchy
    obtain ⟨hself, hkeeps₁⟩ := recompute_settles hparents hfirst
    obtain ⟨hids, hkeeps⟩ := ih fun a => hsame.1 ▸ hparents a
    refine ⟨forall_mem_cons.2 ⟨hself.keeps (hkeeps _), hids⟩, fun a => ?_⟩
    exact (hkeeps₁ a).trans (hkeeps a)

theorem Recomputes.keyResults_eq (h : Recomputes actor ids store store') :
    store'.keyResults = store.keyResults := by
  refine h.induction (R := fun store store' => store'.keyResults = store.keyResults)
    (fun _ => rfl) (fun _ _ _ h h' => h'.trans h) fun store goal _ write => ?_
  rw [write.store_eq, keyResults_writeProgress]

/-! ## What a transaction does to progress -/

/-- A goal of which a transaction writes the progress, or the children, without recomputing it. -/
def GoalStep.overrides (step : GoalStep) (id : JsString) : Bool :=
  match step.transaction with
  | .create params => params.parentGoalId = some id
  | .update params => params.goalId = id && params.progressPercent.isSome
  | .post params => params.goalId = id && params.newProgress.isSome
  | _ => false

theorem GoalStore.ParentsNonempty.of_countsUnder (h : store.ParentsNonempty)
    (hfound : store.goals.find? id = some goal) : countsUnder [] goal = false := by
  have hparent := h id
  rw [parentOf, hfound, Option.bind_some] at hparent
  simp [countsUnder, hparent]

/-- After an update of a goal, recomputing the parents of which the update changes the drivers
settles them, and every other goal keeps what it has. -/
theorem Recomputes.keeps_updateGoalRow {data : Goal → Goal}
    (hfound : store.goals.find? id = some goal) (hparents : store.ParentsNonempty)
    (hparents₁ : (store.updateGoalRow id data).ParentsNonempty)
    (hids : ∀ p, p ≠ [] → countsUnder p (data goal) ≠ countsUnder p goal ∨
      countsUnder p goal ∧ (data goal).progressPercent ≠ goal.progressPercent → p ∈ ids)
    (h : Recomputes actor ids (store.updateGoalRow id data) store')
    (hself : a = id → (data goal).progressPercent = goal.progressPercent) :
    Keeps store store' a := by
  obtain ⟨hsettled, hkeeps⟩ := h.settles hparents₁
  by_cases ha : a ∈ ids
  · exact .inl (hsettled a ha)
  have hno : countsUnder a (data goal) = countsUnder a goal ∧
      (countsUnder a goal → (data goal).progressPercent = goal.progressPercent) := by
    by_cases hempty : a = []
    · have hold := hparents.of_countsUnder hfound
      have hfound₁ : (store.updateGoalRow id data).goals.find? id =
          some { data goal with id := goal.id } := by
        rw [find?_updateGoalRow, hfound, Option.map_some, if_pos rfl]
      have hnew := hparents₁.of_countsUnder hfound₁
      rw [hempty, hold]
      exact ⟨hnew, nofun⟩
    · have hno := mt (hids a hempty) ha
      rwa [not_or, not_and, not_not, not_not] at hno
  exact .trans (.inr (sameProgress_updateGoalRow hfound hno.1 hno.2 hself)) (hkeeps a)

theorem GoalStore.SameHierarchy.parentsNonempty (h : SameHierarchy store store') :
    store'.ParentsNonempty ↔ store.ParentsNonempty := by
  rw [ParentsNonempty, h.1, ParentsNonempty]

theorem mem_parentGoalIdsToRecompute {requested changed : Bool} {requestedParent : Option JsString}
    {updated : Goal} {p : JsString} (hp : p ≠ [])
    (hparent : updated.parentGoalId ≠ goal.parentGoalId → changed = true)
    (hprogress : updated.progressPercent ≠ goal.progressPercent → changed = true)
    (h : countsUnder p updated ≠ countsUnder p goal ∨
      countsUnder p goal ∧ updated.progressPercent ≠ goal.progressPercent) :
    p ∈ sortedGoalIds
      (parentGoalIdsToRecompute requested changed requestedParent goal updated) := by
  rw [mem_sortedGoalIds, parentGoalIdsToRecompute, mem_append]
  refine ⟨.inr ?_, hp⟩
  have hmem : goal.parentGoalId = some p ∨ updated.parentGoalId = some p := by
    by_contra hno
    rw [not_or] at hno
    simp [countsUnder, hno.1, hno.2] at h
  have hchanged : (changed || countsTowardParentProgress goal !=
      countsTowardParentProgress updated) = true := by
    by_contra hno
    simp only [Bool.or_eq_true, not_or, bne_iff_ne, ne_eq, not_not, Bool.not_eq_true] at hno
    rw [hno.1] at hparent hprogress
    rcases h with hcounts | ⟨_, hne⟩
    · have hsame : updated.parentGoalId = goal.parentGoalId := by simpa using hparent
      exact hcounts (by rw [countsUnder, hsame, ← hno.2, countsUnder])
    · cases hprogress hne
  rw [if_pos hchanged]
  rcases hmem with h | h <;> simp [h]

def GoalStore.KeyResultsLinked (store : GoalStore) : Prop :=
  ∀ keyResult ∈ store.keyResults.rows, (store.workspaceOf keyResult.goalId).isSome

/-- The goals of the key results exist in the first store, or have key results in it. -/
def KeepsKeyResults (store store' : GoalStore) : Prop :=
  ∀ keyResult ∈ store'.keyResults.rows, (store.workspaceOf keyResult.goalId).isSome ∨
    ∃ old ∈ store.keyResults.rows, old.goalId = keyResult.goalId

theorem KeepsKeyResults.of_eq (h : store'.keyResults = store.keyResults) :
    KeepsKeyResults store store' := by
  intro keyResult hmem
  rw [h] at hmem
  exact .inr ⟨keyResult, hmem, rfl⟩

theorem KeepsKeyResults.linked (h : KeepsKeyResults store store') (hlinked : store.KeyResultsLinked)
    (hgroups : ∀ a, (store.workspaceOf a).isSome → (store'.workspaceOf a).isSome) :
    store'.KeyResultsLinked := by
  intro keyResult hmem
  rcases h keyResult hmem with hfound | ⟨old, hold, hid⟩
  · exact hgroups _ hfound
  · exact hgroups _ (hid ▸ hlinked old hold)

theorem KeyResultWrite.sameProgress (h : KeyResultWrite store id store₁) (ha : a ≠ id) :
    SameProgress store store₁ a := by
  refine ⟨?_, by rw [h.goals_eq]⟩
  rw [drivers, drivers, childGoals, childGoals, h.others a ha, h.goals_eq]

theorem KeyResultWrite.keepsKeyResults (h : KeyResultWrite store id store₁)
    (hfound : store.goals.find? id = some goal) : KeepsKeyResults store store₁ := by
  intro keyResult hmem
  refine (h.goalIds keyResult hmem).imp (fun hid => ?_) fun hold => hold
  simp [hid, workspaceOf, hfound]

section
variable (hfound : store.goals.find? goal.id = some goal) (hparents : store.ParentsNonempty)
include hfound hparents

theorem ChangesKeyResults.keeps (h : ChangesKeyResults fuel actor store goal store') :
    (∀ a, Keeps store store' a) ∧ KeepsKeyResults store store' := by
  obtain ⟨store₁, reset, hwrite, h⟩ := h
  have hparents₁ : store₁.ParentsNonempty := fun a =>
    (SameHierarchy.of_goals_eq hwrite.goals_eq).1 ▸ hparents a
  obtain ⟨hself, hkeeps⟩ := recompute_settles hparents₁ h
  refine ⟨fun a => ?_, ?_⟩
  · by_cases ha : a = goal.id
    · exact .inl (ha ▸ hself)
    · exact .trans (.inr (hwrite.sameProgress ha)) (hkeeps a)
  · intro keyResult hmem
    rw [(recomputeGoalProgress_ok h).keyResults_eq] at hmem
    exact hwrite.keepsKeyResults hfound keyResult hmem

theorem ChangesArchive.keeps (h : ChangesArchive actor store goal store') :
    (∀ a, Keeps store store' a) ∧ KeepsKeyResults store store' := by
  obtain ⟨archivedAt, archivedByUserId, archiveReason, ids, hids, _, _, h⟩ := h
  have hsame : SameHierarchy store (store.updateGoalRow goal.id fun goal =>
      { goal with archivedAt, archivedByUserId, archiveReason }) :=
    .updateGoalRow hfound rfl fun _ => rfl
  refine ⟨fun a => ?_, .of_eq h.keyResults_eq⟩
  refine h.keeps_updateGoalRow hfound hparents (fun a => hsame.1 ▸ hparents a)
    (fun p hne hp => ?_) fun _ => rfl
  have hparent : goal.parentGoalId = some p := by
    by_contra hno
    simp [countsUnder, hno] at hp
  exact hids p hparent hne

end

theorem GoalData.changedFields_contains (data : GoalData) (goal : Goal) :
    ((data.apply goal).parentGoalId ≠ goal.parentGoalId →
      (data.changedFields goal).contains "parentGoalId") ∧
    ((data.apply goal).progressPercent ≠ goal.progressPercent →
      (data.changedFields goal).contains "progressPercent") := by
  have hmem : ∀ {α : Type} [DecidableEq α] (field : String) (current : α) (data : Option α),
      data.getD current ≠ current → field ∈ changedField field current data := by
    intro α _ field current data hne
    unfold changedField
    split
    · next hall =>
      cases data with
      | none => exact absurd rfl hne
      | some value => exact absurd (of_decide_eq_true hall) hne
    · exact mem_singleton_self field
  refine ⟨fun hne => ?_, fun hne => ?_⟩
  · have hparent := hmem "parentGoalId" goal.parentGoalId data.parentGoalId hne
    simp only [GoalData.changedFields, contains_eq_mem, mem_append, hparent, true_or,
      or_true, decide_true]
  · have hprogress := hmem "progressPercent" goal.progressPercent data.progressPercent hne
    simp only [GoalData.changedFields, contains_eq_mem, mem_append, hprogress, true_or,
      or_true, decide_true]

theorem sameProgress_of_eq (hgoals : store'.goals = store.goals)
    (hkeyResults : store'.keyResults = store.keyResults) : SameProgress store store' a := by
  refine ⟨?_, by rw [hgoals]⟩
  rw [drivers, drivers, childGoals, childGoals, keyResultsOf, keyResultsOf, hgoals, hkeyResults]

theorem updateGoal_keeps {params : UpdateGoalParams} (hlinked : store.Linked)
    (h : updateGoal fuel store context params = .ok store') :
    ((a = params.goalId → params.progressPercent = none) → Keeps store store' a) ∧
      KeepsKeyResults store store' := by
  have hparents' : store'.ParentsNonempty :=
    ((updateGoal_hierarchyStep h).linked hlinked).parentsNonempty
  obtain ⟨goal, data, store₁, data₁, hfound, _, _, _, hdata, _, _, hrecord, h⟩ := updateGoal_ok h
  obtain ⟨hgoals, hkeyResults, hframe⟩ := recordGoalVersion_frame hrecord
  obtain ⟨progress, hnone, _, rfl⟩ := UpdateGoalParams.data_ok hdata
  have hprogress : data₁.progressPercent = progress := congrArg GoalData.progressPercent hframe
  have hsame₁ : SameProgress store store₁ a := sameProgress_of_eq hgoals hkeyResults
  rcases h with ⟨_, rfl⟩ | h
  · exact ⟨fun _ => .inr hsame₁, .of_eq hkeyResults⟩
  have hfound₁ : store₁.goals.find? params.goalId = some goal := by rw [hgoals, hfound]
  have hparents₁ : store₁.ParentsNonempty :=
    (SameHierarchy.of_goals_eq hgoals).parentsNonempty.2 hlinked.parentsNonempty
  obtain ⟨hmoved, hmoves⟩ := data₁.changedFields_contains goal
  refine ⟨fun hself => .trans (.inr hsame₁) ?_, .of_eq (h.keyResults_eq.trans hkeyResults)⟩
  refine h.keeps_updateGoalRow hfound₁ hparents₁ (h.sameHierarchy.parentsNonempty.1 hparents')
    (fun p hne => mem_parentGoalIdsToRecompute hne ?_ ?_) fun ha => ?_
  · exact fun hne => by rw [hmoved hne, Bool.true_or]
  · exact fun hne => by rw [hmoves hne, Bool.or_true]
  · simp [GoalData.apply, hprogress, hnone (hself ha)]

theorem postGoalUpdate_keeps {params : PostGoalUpdateParams} (hparents : store.ParentsNonempty)
    (h : postGoalUpdate fuel store context params = .ok store') :
    ((a = params.goalId → params.newProgress = none) → Keeps store store' a) ∧
      KeepsKeyResults store store' := by
  have hparents' : store'.ParentsNonempty :=
    (postGoalUpdate_sameHierarchy h).parentsNonempty.2 hparents
  obtain ⟨goal, progress, hfound, _, hnone, _, rfl | ⟨store₁, data₁, hrecord, h⟩⟩ :=
    postGoalUpdate_ok h
  · exact ⟨fun _ => .inr ⟨rfl, rfl⟩, .of_eq rfl⟩
  obtain ⟨hgoals, hkeyResults, hframe⟩ := recordGoalVersion_frame hrecord
  have hprogress : data₁.progressPercent = progress := congrArg GoalData.progressPercent hframe
  have hparent : data₁.parentGoalId = none := congrArg GoalData.parentGoalId hframe
  have hsame₁ : SameProgress store store₁ a := sameProgress_of_eq hgoals hkeyResults
  have hfound₁ : store₁.goals.find? params.goalId = some goal := by rw [hgoals, hfound]
  have hparents₁ : store₁.ParentsNonempty :=
    (SameHierarchy.of_goals_eq hgoals).parentsNonempty.2 hparents
  refine ⟨fun hself => .trans (.inr hsame₁) ?_, .of_eq (h.keyResults_eq.trans hkeyResults)⟩
  refine h.keeps_updateGoalRow hfound₁ hparents₁ (h.sameHierarchy.parentsNonempty.1 hparents')
    (fun p hne => mem_parentGoalIdsToRecompute hne ?_ ?_) fun ha => ?_
  · simp [GoalData.apply, hparent]
  · rw [GoalData.apply, hprogress]
    cases progress with
    | none => simp
    | some value => exact fun _ => rfl
  · simp [GoalData.apply, hprogress, hnone (hself ha)]

theorem appendMissing_keeps {params : CreateGoalParams} {goalId : JsString}
    (hparents : store.ParentsNonempty)
    (h : appendMissingDuplicateGoalKeyResults fuel store context params goalId = .ok store') :
    Keeps store store' a ∧ KeepsKeyResults store store' := by
  rcases appendMissingDuplicateGoalKeyResults_ok h with rfl |
    ⟨goal, store₁, rows, progress, versions, version, hfound, hrows, hwrite, hadded, hgoalId,
      hprogress, _, h⟩
  · exact ⟨.inr ⟨rfl, rfl⟩, .of_eq rfl⟩
  have hkeyResults : KeepsKeyResults store store' := by
    intro keyResult hmem
    rw [h.keyResults_eq] at hmem
    exact hwrite.keepsKeyResults hfound keyResult hmem
  refine ⟨?_, hkeyResults⟩
  have hfound₁ : { store₁ with versions }.goals.find? goalId = some goal := by
    rw [← hfound, ← hwrite.goals_eq]
  have hparents₁ : { store₁ with versions }.ParentsNonempty :=
    (SameHierarchy.of_goals_eq hwrite.goals_eq).parentsNonempty.2 hparents
  have hsame₂ : SameHierarchy { store₁ with versions }
      (store₁.writeProgress versions goalId progress version) :=
    .updateGoalRow hfound₁ rfl fun _ => rfl
  have hparents₂ := hsame₂.parentsNonempty.2 hparents₁
  by_cases ha : a = goalId
  · -- the progress that is written is the mean of the key results that the goal now has
    subst ha
    have hsettled : (store₁.writeProgress versions a progress version).Settled a := ?_
    · exact .inl (hsettled.keeps ((h.settles hparents₂).2 a))
    intro row hrow value hvalue
    rw [find?_writeProgress, hwrite.goals_eq, hfound] at hrow
    obtain rfl := Option.some.inj hrow
    have hdrivers : ((store₁.writeProgress versions a progress version).drivers a).1 =
        (store.keyResultsOf a).map KeyResult.progressPercent ++
          rows.map KeyResult.progressPercent := by
      have hall : rows.filter (fun keyResult => keyResult.goalId = a) = rows :=
        filter_eq_self.2 fun row hrow => by simpa using hgoalId row hrow
      simp only [drivers, keyResultsOf, keyResults_writeProgress, hadded, filter_append, hall,
        map_append]
    rw [← hdrivers] at hprogress
    generalize (store₁.writeProgress versions a progress version).drivers a = drivers
      at hdrivers hprogress hvalue
    obtain ⟨_ | ⟨first, rest⟩, children⟩ := drivers
    · simp [hrows] at hdrivers
    · dsimp only
      rw [if_pos rfl]
      exact hprogress.trans (Option.some.inj hvalue)
  · have hwritten : Keeps { store₁ with versions } store' a := by
      refine h.keeps_updateGoalRow hfound₁ hparents₁ hparents₂ (fun p hne hp => ?_) (absurd · ha)
      refine mem_sortedGoalIds.2 ⟨?_, hne⟩
      by_contra hno
      have hparent : goal.parentGoalId ≠ some p := fun h => hno (by simp [h])
      simp [countsUnder, hparent] at hp
    exact .trans (.inr (hwrite.sameProgress ha)) hwritten

/-- A new goal has no children yet, and the mean of its key results. -/
theorem createGoal_keeps {params : CreateGoalParams} (hlinked : store.Linked)
    (hkeyResults : store.KeyResultsLinked) (h : createGoal store context params = .ok store') :
    (params.parentGoalId ≠ some a → Keeps store store' a) ∧ store'.KeyResultsLinked := by
  obtain ⟨keyResults, hgoalId, hvalid, hnew, hrows, hadded, _⟩ := createGoal_ok h
  have hfind : ∀ b, store'.goals.find? b = if b = context.uuid 0 then
      some (params.row context keyResults) else store.goals.find? b :=
    fun b => KeyedTable.find?_of_rows_append hrows hnew
  have hmissing : ∀ b, (store.workspaceOf b).isSome → b ≠ context.uuid 0 := by
    rintro b hb rfl
    simp [workspaceOf, hnew] at hb
  have hlinked' : store'.KeyResultsLinked := by
    intro keyResult hmem
    rw [hadded, mem_append] at hmem
    rw [workspaceOf, hfind]
    rcases hmem with hold | hmem
    · rw [if_neg (hmissing _ (hkeyResults _ hold))]
      exact hkeyResults _ hold
    · simp [hgoalId _ hmem]
  refine ⟨fun ha => ?_, hlinked'⟩
  -- the new goal is a driver of its parent only
  have hchild : (params.row context keyResults).parentGoalId ≠ some a := by
    intro hparent
    obtain ⟨text, htext, hp⟩ := Option.bind_eq_some_iff.1 hparent
    exact ha (htext.trans (congrArg some (JsString.orNull_eq_some.1 hp).1))
  have hchildren : store'.childGoals a = store.childGoals a := by
    simp [childGoals, hrows, hchild]
  by_cases hself : a = context.uuid 0
  · subst hself
    have hnone : store.childGoals (context.uuid 0) = [] := by
      refine filter_eq_nil_iff.2 fun child hmem hcounts => ?_
      have hfound : store.goals.find? child.id = some child := KeyedTable.find?_key hmem
      have hparent : store.parentOf child.id = some (context.uuid 0) := by
        rw [parentOf, hfound]
        simpa using (Bool.and_eq_true_iff.1 hcounts).1
      have hgroup := (hlinked _ _ hparent).2
      rw [workspaceOf, hnew, workspaceOf, hfound] at hgroup
      cases hgroup
    have hkr : store'.keyResultsOf (context.uuid 0) = keyResults := by
      have hold : store.keyResults.rows.filter
          (fun keyResult => keyResult.goalId = context.uuid 0) = [] :=
        filter_eq_nil_iff.2 fun row hmem =>
          by simpa using hmissing _ (hkeyResults row hmem)
      rw [keyResultsOf, hadded, filter_append, hold, nil_append]
      exact filter_eq_self.2 fun row hmem => by simpa using hgoalId row hmem
    refine .inl fun goal hgoal progress hprogress => ?_
    rw [hfind, if_pos rfl] at hgoal
    obtain rfl := Option.some.inj hgoal
    rw [drivers, hchildren, hnone, hkr] at hprogress
    cases keyResults with
    | nil => cases hprogress
    | cons first rest => exact Option.some.inj hprogress
  · have hkr : store'.keyResultsOf a = store.keyResultsOf a := by
      have hnone : keyResults.filter (fun keyResult => keyResult.goalId = a) = [] :=
        filter_eq_nil_iff.2 fun row hmem => by simpa [hgoalId row hmem] using Ne.symm hself
      rw [keyResultsOf, hadded, filter_append, hnone, append_nil, keyResultsOf]
    refine .inr ⟨by rw [drivers, drivers, hchildren, hkr], ?_⟩
    rw [hfind, if_neg hself]

/-- What a successful transaction does to the progress of the goals that it does not override. -/
theorem GoalStep.keeps (step : GoalStep) (hlinked : store.Linked)
    (hkeyResults : store.KeyResultsLinked)
    (h : step.transaction.perform step.fuel step.context store = .ok store') :
    (step.overrides a = false → Keeps store store' a) ∧ store'.KeyResultsLinked := by
  have hparents := hlinked.parentsNonempty
  have hgroups : ∀ b, (store.workspaceOf b).isSome → (store'.workspaceOf b).isSome := by
    intro b hb
    cases perform_hierarchyStep h with
    | same hsame => rwa [hsame.2]
    | create id workspaceId parent hnew _ _ _ hworkspace =>
      rw [hworkspace, Function.update_apply]
      split
      · rfl
      · exact hb
    | move id workspaceId parent _ _ _ _ hworkspace => rwa [hworkspace]
  obtain ⟨fuel, context, transaction⟩ := step
  cases transaction <;> simp only [GoalTransaction.perform] at h
  case create params =>
    exact (createGoal_keeps hlinked hkeyResults h).imp_left fun hkeeps hself =>
      hkeeps (by simpa [GoalStep.overrides] using hself)
  -- the other transactions write key results of goals that exist only
  all_goals refine .imp id (fun hkr => KeepsKeyResults.linked hkr hkeyResults hgroups) ?_
  case updateDuplicate params goalId =>
    obtain ⟨existing, _, ⟨rfl, _⟩ | hupdate⟩ := updateDuplicateGoal_ok h
    · exact ⟨fun _ => .inr ⟨rfl, rfl⟩, .of_eq rfl⟩
    · exact (updateGoal_keeps hlinked hupdate).imp_left fun hkeeps _ => hkeeps fun _ => rfl
  case appendMissing params goalId =>
    exact (appendMissing_keeps hparents h).imp_left fun hkeeps _ => hkeeps
  case update params =>
    refine (updateGoal_keeps hlinked h).imp_left fun hkeeps hself => hkeeps fun ha => ?_
    simpa [GoalStep.overrides, ha] using hself
  case post params =>
    refine (postGoalUpdate_keeps hparents h).imp_left fun hkeeps hself => hkeeps fun ha => ?_
    simpa [GoalStep.overrides, ha] using hself
  case addKeyResult params =>
    obtain ⟨goal, hfound, h⟩ := addKeyResult_ok h
    exact (h.keeps hfound hparents).imp_left fun hkeeps _ => hkeeps a
  case updateKeyResult params =>
    obtain ⟨_, goal, _, _, hfound, _, rfl | h⟩ := updateKeyResult_ok h
    · exact ⟨fun _ => .inr ⟨rfl, rfl⟩, .of_eq rfl⟩
    · exact (h.keeps hfound hparents).imp_left fun hkeeps _ => hkeeps a
  case deleteKeyResult workspaceId krId expectedVersion =>
    obtain ⟨_, goal, _, _, hfound, _, h⟩ := deleteKeyResult_ok h
    exact (h.keeps hfound hparents).imp_left fun hkeeps _ => hkeeps a
  case delete workspaceId goalId includeArchived =>
    obtain ⟨goal, hfound, rfl | h⟩ := deleteGoal_ok h
    · exact ⟨fun _ => .inr ⟨rfl, rfl⟩, .of_eq rfl⟩
    · exact (h.keeps hfound hparents).imp_left fun hkeeps _ => hkeeps a
  case archive workspaceId goalId reason expectedVersion =>
    obtain ⟨goal, hfound, _, _, rfl | h⟩ := archiveGoal_ok h
    · exact ⟨fun _ => .inr ⟨rfl, rfl⟩, .of_eq rfl⟩
    · exact (h.keeps hfound hparents).imp_left fun hkeeps _ => hkeeps a
  case restore workspaceId goalId expectedVersion =>
    obtain ⟨goal, hfound, _, _, h⟩ := restoreGoal_ok h
    exact (h.keeps hfound hparents).imp_left fun hkeeps _ => hkeeps a

/-! ## Progress over a run -/

theorem keyResultsLinked_runGoalSteps (steps : List GoalStep) :
    (runGoalSteps steps).KeyResultsLinked := by
  induction steps using reverseRecOn with
  | nil => exact nofun
  | append_singleton steps step ih =>
    rw [runGoalSteps_append]
    rcases step.apply_cases (runGoalSteps steps) with ⟨hsame, _⟩ | ⟨hok, _⟩
    · rwa [hsame]
    · exact (step.keeps (a := []) (linked_runGoalSteps steps) ih hok).2

/-- A step has overridden the goal, and the progress of its drivers has been the same ever since. -/
def Overridden (steps : List GoalStep) (id : JsString) : Prop :=
  ∃ done step rest, steps = done ++ step :: rest ∧ step.Succeeds (runGoalSteps done) ∧
    step.overrides id ∧ ∀ since, since <+: rest →
      (runGoalSteps (done ++ step :: since)).drivers id = (runGoalSteps (done ++ [step])).drivers id

theorem Overridden.append {steps : List GoalStep} {step : GoalStep} (h : Overridden steps id)
    (hdrivers : (runGoalSteps (steps ++ [step])).drivers id = (runGoalSteps steps).drivers id) :
    Overridden (steps ++ [step]) id := by
  obtain ⟨done, first, rest, rfl, hsucceeds, hoverrides, hsince⟩ := h
  refine ⟨done, first, rest ++ [step], by simp, hsucceeds, hoverrides, fun since hpre => ?_⟩
  rcases prefix_concat_iff.1 hpre with rfl | hpre
  · rw [← hsince rest (prefix_refl rest), ← hdrivers]
    simp
  · exact hsince since hpre

theorem overridden_or_settled (steps : List GoalStep) (id : JsString) :
    Overridden steps id ∨ (runGoalSteps steps).Settled id := by
  induction steps using reverseRecOn with
  | nil => exact .inr fun _ hgoal => nomatch hgoal
  | append_singleton steps step ih =>
    have hstep := runGoalSteps_append steps step
    rcases step.apply_cases (runGoalSteps steps) with ⟨hsame, _⟩ | ⟨hok, hsucceeds⟩
    · rw [hsame] at hstep
      exact ih.imp (·.append (by rw [hstep])) fun h => hstep ▸ h
    · rw [← hstep] at hok
      cases hoverrides : step.overrides id with
      | true =>
        refine .inl ⟨steps, step, [], rfl, hsucceeds, hoverrides, fun since hpre => ?_⟩
        rw [prefix_nil.1 hpre]
      | false =>
        have hkeeps := (step.keeps (linked_runGoalSteps steps)
          (keyResultsLinked_runGoalSteps steps) hok).1 hoverrides
        rcases hkeeps with hsettled | hsame
        · exact .inr hsettled
        · exact ih.imp (·.append hsame.1) (·.of_same hsame)

/-- What the progress of a goal is derived from: its key results, and without any, the children that
count of a goal that is not archived. -/
structure HasDerivedProgress (store : GoalStore) (goal : Goal) : Prop where
  keyResults : store.keyResultsOf goal.id ≠ [] → goal.progressPercent =
    roundedMean ((store.keyResultsOf goal.id).map KeyResult.progressPercent)
  children : goal.archivedAt = none → store.keyResultsOf goal.id = [] →
    store.childGoals goal.id ≠ [] → goal.progressPercent =
      roundedMean ((store.childGoals goal.id).map Goal.progressPercent)

/-- **Derived progress.** In every reachable state each goal has its derived progress, except one
that a step has overridden and none of whose drivers has changed its progress since. -/
theorem progress_derived (steps : List GoalStep) (id : JsString) (goal : Goal)
    (hfound : (runGoalSteps steps).goals.find? id = some goal)
    (hoverridden : ¬ Overridden steps id) :
    HasDerivedProgress (runGoalSteps steps) goal := by
  have hsettled := (overridden_or_settled steps id).resolve_left hoverridden goal hfound
  obtain rfl := id_of_find? hfound
  rw [drivers] at hsettled
  constructor
  · intro hkeyResults
    refine hsettled _ ?_
    cases hrows : (runGoalSteps steps).keyResultsOf goal.id with
    | nil => exact absurd hrows hkeyResults
    | cons first rest => rfl
  · intro _ hkeyResults hchildren
    refine hsettled _ ?_
    rw [hkeyResults]
    cases hrows : (runGoalSteps steps).childGoals goal.id with
    | nil => exact absurd hrows hchildren
    | cons first rest => rfl

end

/-- Goal `A0` is created, goal `B0` with a key result that is half done, and moved under `A0`. -/
def movedGoalSteps : List GoalStep :=
  [exampleCreate "A" none [],
    exampleCreate "B" none
      [{ title := .lit "Result", targetValue := some 2, currentValue := some 1 }],
    ⟨9, exampleContext "", .update {
      workspaceId := .lit "w", goalId := .lit "B0", parentGoalId := some (some (.lit "A0"))
      expectedVersion := some 1 }⟩]

/-- `A0` is not overridden, and has the progress of its child. -/
theorem progress_derived_moved : ∃ goal,
    (runGoalSteps movedGoalSteps).goals.find? (.lit "A0") = some goal ∧
      goal.progressPercent = 50 ∧ HasDerivedProgress (runGoalSteps movedGoalSteps) goal := by
  have hprogress : ((runGoalSteps movedGoalSteps).goals.find? (.lit "A0")).map
      Goal.progressPercent = some 50 := by decide +kernel
  obtain ⟨goal, hfound, hgoal⟩ := Option.map_eq_some_iff.1 hprogress
  have hnone : ∀ step ∈ movedGoalSteps, step.overrides (.lit "A0") = false := by decide
  refine ⟨goal, hfound, hgoal, progress_derived _ _ goal hfound ?_⟩
  rintro ⟨done, step, rest, hsteps, _, hoverrides, _⟩
  cases (hnone step (hsteps ▸ by simp)).symm.trans hoverrides

/-- Goal `A0` is created, goal `B0` under it, and the progress of `A0` is set by hand. -/
def overriddenGoalSteps : List GoalStep :=
  [exampleCreate "A" none [], exampleCreate "B" (some (.lit "A0")) [],
    ⟨9, exampleContext "", .update {
      workspaceId := .lit "w", goalId := .lit "A0", progressPercent := some 40
      expectedVersion := some 1 }⟩]

/-- `A0` then has a progress that is not the mean of its only child, in a hierarchy without cycle.
-/
theorem not_progress_derived : ParentForest.Acyclic (runGoalSteps overriddenGoalSteps).parentOf ∧
    ∃ goal, (runGoalSteps overriddenGoalSteps).goals.find? (.lit "A0") = some goal ∧
      ¬ HasDerivedProgress (runGoalSteps overriddenGoalSteps) goal := by
  constructor
  · refine acyclic_runGoalSteps fun done step hpre ⟨_, id, p, hrequested, _⟩ => ?_
    have hstep : step ∈ overriddenGoalSteps := hpre.subset (by simp)
    simp only [overriddenGoalSteps, exampleCreate, List.mem_cons, List.not_mem_nil, or_false]
      at hstep
    rcases hstep with rfl | rfl | rfl <;> exact nomatch hrequested
  · have hrow : ((runGoalSteps overriddenGoalSteps).goals.find? (.lit "A0")).map (fun goal =>
        (goal.id, goal.progressPercent, goal.archivedAt)) = some (.lit "A0", 40, none) := by
      decide +kernel
    obtain ⟨goal, hfound, hgoal⟩ := Option.map_eq_some_iff.1 hrow
    simp only [Prod.mk.injEq] at hgoal
    refine ⟨goal, hfound, fun h => ?_⟩
    have hchildren := h.children hgoal.2.2 (by rw [hgoal.1]; decide +kernel)
      (by rw [hgoal.1]; decide +kernel)
    rw [hgoal.1, hgoal.2.1] at hchildren
    revert hchildren
    decide +kernel

end Corgtex.Domain
