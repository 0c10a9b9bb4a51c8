import Corgtex.Domain.GoalProgress
import Corgtex.Domain.WorkItemHistory

/-!
# The version history of goals

A request on a goal records the goal, and then the goals whose progress it recomputes on the way up
from a parent. In a forest each walk up meets a goal once, and none of them meets the goal that the
request is about, so a goal is recorded once unless it lies above both the old and the new parent of
a goal that moves.
-/

namespace Corgtex.Domain

open Option hiding or_self

open List ParentForest Relation VersionLog

/-! ## Goals as versioned entities -/

/-- The fields of a goal that its version history follows, `goalContentFields`. -/
structure GoalContent where
  title : JsString
  descriptionMd : Option JsString
  level : GoalLevel
  cadence : GoalCadence
  progressPercent : Int
  targetDate : Option Int
  startDate : Option Int
  parentGoalId : Option JsString
  circleId : Option JsString
  ownerMemberId : Option JsString
deriving DecidableEq, Repr

def Goal.content (goal : Goal) : GoalContent where
  title := goal.title
  descriptionMd := goal.descriptionMd
  level := goal.level
  cadence := goal.cadence
  progressPercent := goal.progressPercent
  targetDate := goal.targetDate
  startDate := goal.startDate
  parentGoalId := goal.parentGoalId
  circleId := goal.circleId
  ownerMemberId := goal.ownerMemberId

/-- The content that the version history has stored. -/
def GoalSnapshot.content (snapshot : GoalSnapshot) : GoalContent where
  title := snapshot.title
  descriptionMd := snapshot.descriptionMd
  level := snapshot.level
  cadence := snapshot.cadence
  progressPercent := snapshot.progressPercent
  targetDate := snapshot.targetDate
  startDate := snapshot.startDate
  parentGoalId := snapshot.parentGoalId
  circleId := snapshot.circleId
  ownerMemberId := snapshot.ownerMemberId

/-- The goals and their version history. -/
def GoalStore.items (store : GoalStore) : ItemStore GoalSnapshot Goal.id :=
  ⟨store.goals, store.versions, []⟩

/-- The versions and contents of the goals, and their version history. -/
def GoalStore.log (store : GoalStore) : VersionLog JsString GoalContent GoalSnapshot :=
  store.items.log Goal.version Goal.content

/-- The row holds the content that a change overwrites. -/
def GoalSnapshot.Stores (row : GoalSnapshot) (old _new : GoalContent) : Prop := row.content = old

/-- The goals `a` lies above, in the store after a transaction, both the old and the new parent of
a goal that the transaction has moved. -/
def MovesUnder (store store' : GoalStore) (a : JsString) : Prop :=
  ∃ id old new, old ≠ new ∧ store.parentOf id = some old ∧ store'.parentOf id = some new ∧
    ReflTransGen (Up store'.parentOf) old a ∧ ReflTransGen (Up store'.parentOf) new a

/-- The version that a transaction expects, and the goal that it expects it of. -/
def GoalTransaction.expects (store : GoalStore) : GoalTransaction → Option (JsString × ℚ)
  | .update params => params.expectedVersion.map fun e => (params.goalId, e)
  | .post params => params.expectedVersion.map fun e => (params.goalId, e)
  | .updateKeyResult params => do
    let keyResult ← store.keyResults.find? params.krId
    params.expectedVersion.map fun e => (keyResult.goalId, e)
  | .deleteKeyResult _ krId expectedVersion =>
    (store.keyResults.find? krId).map fun keyResult => (keyResult.goalId, expectedVersion)
  | .archive _ goalId _ expectedVersion => expectedVersion.map fun e => (goalId, e)
  | .restore _ goalId expectedVersion => expectedVersion.map fun e => (goalId, e)
  | _ => none

/-- The goals as a system of versioned entities. A step writes a goal once where the parents form a
forest and the goal does not lie above two parents of a goal that moves. -/
def goalSystem : VersionedSystem GoalStore GoalStep JsString GoalContent GoalSnapshot ℚ where
  init := .empty
  apply := GoalStep.apply
  Succeeds store step := step.Succeeds store
  Expects store step id e := step.transaction.expects store = some (id, e)
  log := GoalStore.log
  Stores := GoalSnapshot.Stores
  Once store step id := Acyclic store.parentOf ∧ Acyclic (step.apply store).parentOf ∧
    ¬ MovesUnder store (step.apply store) id

section
variable {store store₁ store' : GoalStore} {id a : JsString} {goal : Goal} {actor : AppActor}
  {fuel : Nat} {options : RecomputeOptions}
  {snapshotKeyResults : RecomputeOptions → List KeyResult → Option (List KeyResult)}
  {starts : List JsString}

/-! ## Rows -/

theorem GoalStore.write_of_eq (hgoals : store'.goals = store.goals)
    (hversions : store'.versions = store.versions) :
    Write GoalSnapshot.Stores store.log store'.log [] :=
  .keep (fun a => by simp only [log, items, ItemStore.log, hgoals])
    (by simp only [log, items, ItemStore.log, hversions])

theorem GoalStore.itemWrite_updateGoalRow (store₁ : GoalStore)
    (hfound : store.goals.find? goal.id = some goal) (hgoals : store₁.goals = store.goals)
    (data : Goal → Goal) :
    ItemWrite store.items store₁.versions goal { data goal with id := goal.id }
      (store₁.updateGoalRow goal.id data).items := by
  refine ⟨hfound, fun a => ?_, rfl, rfl, rfl⟩
  refine (find?_updateGoalRow store₁ goal.id a data).trans ?_
  rw [hgoals]
  split
  · next ha => rw [ha, hfound, map_some]
  · exact map_id' ..

/-- The write of a derived progress records the goal or leaves the log alone. -/
theorem ProgressWrite.write (write : ProgressWrite actor store goal store₁) :
    ∃ ids, (ids = [] ∨ ids = [goal.id]) ∧ Write GoalSnapshot.Stores store.log store₁.log ids := by
  have hwrite : ItemWrite store.items write.versions goal
      { goal with progressPercent := write.progress, version := write.version } store₁.items := by
    have hitems := congrArg GoalStore.items write.store_eq
    rw [hitems]
    exact GoalStore.itemWrite_updateGoalRow { store with versions := write.versions } write.found
      rfl fun goal => { goal with progressPercent := write.progress, version := write.version }
  have hrecord := write.recorded
  by_cases hnil : write.options.changedFields ++
      changedField "progressPercent" goal.progressPercent (some write.progress) = []
  · rw [recordWorkItemVersion_nil hnil] at hrecord
    obtain ⟨hversions, hversion⟩ := Prod.mk.inj (Except.ok.inj hrecord)
    rw [← hversions] at hwrite
    have hprogress : write.progress = goal.progressPercent :=
      changedField_eq_nil.1 (append_eq_nil_iff.1 hnil).2
    refine ⟨[], .inl rfl, ItemStore.write_keep hwrite hversion.symm ?_⟩
    simp only [Goal.content, hprogress]
  · exact ⟨[goal.id], .inr rfl, ItemStore.write_record hwrite hrecord hnil rfl rfl rfl rfl⟩

/-! ## Recomputation -/

/-- A recomputation records goals at or above the one where it starts, in a forest no goal twice.
-/
theorem recompute_writes
    (h : recompute snapshotKeyResults actor fuel options store id = .ok store') :
    ∃ ids, Writes GoalSnapshot.Stores store.log ids store'.log ∧
      (∀ a ∈ ids, ReflTransGen (Up store.parentOf) id a) ∧
      (Acyclic store.parentOf → ids.Nodup) := by
  induction fuel generalizing options store id with
  | zero => cases h
  | succ fuel ih =>
    rcases recompute_cases h with ⟨_, rfl⟩ | ⟨goal, hfound, ⟨rfl, _⟩ | ⟨store₁, write, _, hrest⟩⟩
    · exact ⟨[], .nil, fun a ha => absurd ha not_mem_nil, fun _ => .nil⟩
    · exact ⟨[], .nil, fun a ha => absurd ha not_mem_nil, fun _ => .nil⟩
    obtain rfl := GoalStore.id_of_find? hfound
    obtain ⟨own, hown, hwrite⟩ := write.write
    have hself : ∀ a ∈ own, a = goal.id := by
      rcases hown with rfl | rfl
      · exact fun a ha => absurd ha not_mem_nil
      · exact fun a ha => mem_singleton.1 ha
    have hnodup : own.Nodup := by
      rcases hown with rfl | rfl
      · exact .nil
      · exact nodup_singleton _
    rcases hrest with ⟨_, rfl⟩ | ⟨p, hp, hrest⟩
    · exact ⟨own, hwrite.writes, fun a ha => hself a ha ▸ .refl, fun _ => hnodup⟩
    obtain ⟨ids, hwrites, habove, hforest⟩ := ih hrest
    rw [write.sameHierarchy.1] at habove hforest
    have hup : Up store.parentOf goal.id p := by
      obtain ⟨text, hparent, htext⟩ := bind_eq_some_iff.1 hp
      rw [Up, GoalStore.parentOf, hfound]
      exact hparent.trans (congrArg some (JsString.orNull_eq_some.1 htext).1)
    refine ⟨own ++ ids, hwrite.writes.trans hwrites, fun a ha => ?_, fun hacyclic => ?_⟩
    · rcases mem_append.1 ha with ha | ha
      · exact hself a ha ▸ .refl
      · exact .head hup (habove a ha)
    · refine hnodup.append (hforest hacyclic) fun a ha ha' => ?_
      exact hacyclic goal.id (.head' hup (hself a ha ▸ habove a ha'))

/-- Recomputations record a goal once at most if it lies above one of their starts at most. -/
theorem Recomputes.writes (h : Recomputes actor starts store store') :
    ∃ ids, Writes GoalSnapshot.Stores store.log ids store'.log ∧
      (∀ a ∈ ids, ∃ s ∈ starts, ReflTransGen (Up store.parentOf) s a) ∧
      (Acyclic store.parentOf → starts.Nodup → ∀ a,
        (∀ s ∈ starts, ∀ s' ∈ starts, ReflTransGen (Up store.parentOf) s a →
          ReflTransGen (Up store.parentOf) s' a → s = s') → times ids a ≤ 1) := by
  induction h with
  | nil => exact ⟨[], .nil, fun a ha => absurd ha not_mem_nil, fun _ _ _ _ => Nat.zero_le 1⟩
  | @cons _ _ _ store store₁ store' start starts hfirst hrest ih =>
    obtain ⟨first, hwrites, habove, hforest⟩ := recompute_writes hfirst
    obtain ⟨rest, hwrites', habove', hforest'⟩ := ih
    have hsame : store₁.parentOf = store.parentOf :=
      (Recomputes.cons hfirst .nil).sameHierarchy.1
    rw [hsame] at habove' hforest'
    refine ⟨first ++ rest, hwrites.trans hwrites', fun a ha => ?_, fun hacyclic hnodup a hone => ?_⟩
    · rcases mem_append.1 ha with ha | ha
      · exact ⟨start, .head _, habove a ha⟩
      · obtain ⟨s, hs, hreach⟩ := habove' a ha
        exact ⟨s, .tail _ hs, hreach⟩
    · obtain ⟨hfresh, hnodup⟩ := nodup_cons.1 hnodup
      have hrest_le := hforest' hacyclic hnodup a fun s hs s' hs' =>
        hone s (.tail _ hs) s' (.tail _ hs')
      have hfirst_le : times first a ≤ 1 := times_le_one (hforest hacyclic)
      rw [times_append]
      by_cases ha : a ∈ first
      · have hno : a ∉ rest := by
          intro ha'
          obtain ⟨s, hs, hreach⟩ := habove' a ha'
          exact hfresh (hone start (.head _) s (.tail _ hs) (habove a ha) hreach ▸ hs)
        rw [times_eq_zero.2 hno]
        omega
      · rw [times_eq_zero.2 ha]
        omega

/-! ## Transactions -/

/-- A sequence of writes that records a goal once at most where a step writes it once. -/
def GoalWrites (store store' : GoalStore) : Prop :=
  ∃ ids, Writes GoalSnapshot.Stores store.log ids store'.log ∧
    (Acyclic store.parentOf → Acyclic store'.parentOf →
      ∀ a, ¬ MovesUnder store store' a → times ids a ≤ 1)

/-- A write that leaves the log alone. -/
theorem GoalWrites.of_eq (hgoals : store'.goals = store.goals)
    (hversions : store'.versions = store.versions) : GoalWrites store store' :=
  ⟨[], (GoalStore.write_of_eq hgoals hversions).writes, fun _ _ _ _ => Nat.zero_le 1⟩

/-- A goal below its old parent after a move was below it before. -/
theorem reach_of_update {parent : JsString → Option JsString} {x s : JsString}
    {q : Option JsString} (h : ReflTransGen (Up (Function.update parent x q)) s x) :
    ReflTransGen (Up parent) s x := by
  have hback := chain_to_update (parent x) h
  rwa [Function.update_idem, Function.update_eq_self] at hback

variable {own : List JsString}

/-- **A goal is written, and then the progress of its parents.** The goal is recorded once at most,
and another goal as well unless it lies above both parents. -/
theorem GoalWrites.of_update (newParent : Option JsString)
    (hown : own = [] ∨ own = [goal.id])
    (hwrite : Write GoalSnapshot.Stores store.log store₁.log own)
    (hparent : store₁.parentOf = Function.update store.parentOf goal.id newParent)
    (hstarts : ∀ s ∈ starts, store.parentOf goal.id = some s ∨ newParent = some s)
    (hnodup : starts.Nodup) (h : Recomputes actor starts store₁ store') :
    GoalWrites store store' := by
  obtain ⟨ids, hwrites, habove, honce⟩ := h.writes
  refine ⟨own ++ ids, hwrite.writes.trans hwrites, fun hacyclic hacyclic' a hmoves => ?_⟩
  have hsame := h.sameHierarchy.1
  rw [hsame] at hacyclic'
  have hnew : store₁.parentOf goal.id = newParent := by rw [hparent, Function.update_self]
  -- no walk up from a parent meets the goal itself
  have hself : goal.id ∉ ids := by
    intro hmem
    obtain ⟨s, hs, hreach⟩ := habove _ hmem
    rcases hstarts s hs with hold | hold
    · rw [hparent] at hreach
      exact hacyclic goal.id (.head' hold (reach_of_update hreach))
    · exact hacyclic' goal.id (.head' (hnew.trans hold) hreach)
  have hids : times ids a ≤ 1 := by
    refine honce hacyclic' hnodup a fun s hs s' hs' hreach hreach' => ?_
    by_contra hne
    have hboth : ∀ {s s' : JsString}, s ≠ s' → store.parentOf goal.id = some s →
        newParent = some s' → ReflTransGen (Up store₁.parentOf) s a →
        ReflTransGen (Up store₁.parentOf) s' a → False := by
      intro s s' hne hold hold' hreach hreach'
      rw [← hsame] at hreach hreach' hnew
      exact hmoves ⟨goal.id, s, s', hne, hold, hnew.trans hold', hreach, hreach'⟩
    rcases hstarts s hs with hold | hold <;> rcases hstarts s' hs' with hold' | hold'
    · exact hne (some.inj (hold.symm.trans hold'))
    · exact hboth hne hold hold' hreach hreach'
    · exact hboth (Ne.symm hne) hold' hold hreach' hreach
    · exact hne (some.inj (hold.symm.trans hold'))
  rw [times_append]
  by_cases ha : a = goal.id
  · subst ha
    rw [times_eq_zero.2 hself]
    rcases hown with rfl | rfl
    · simp
    · rw [times_singleton_self]
  · have hno : a ∉ own := by
      rcases hown with rfl | rfl
      · exact not_mem_nil
      · simpa using ha
    rw [times_eq_zero.2 hno]
    omega

theorem GoalWrites.of_progress (hown : own = [] ∨ own = [goal.id])
    (hwrite : Write GoalSnapshot.Stores store.log store₁.log own)
    (hparent : store₁.parentOf = store.parentOf)
    (hstarts : ∀ s ∈ starts, store.parentOf goal.id = some s) (hnodup : starts.Nodup)
    (h : Recomputes actor starts store₁ store') : GoalWrites store store' :=
  .of_update (store.parentOf goal.id) hown hwrite
    (hparent.trans (Function.update_eq_self ..).symm) (fun s hs => .inl (hstarts s hs)) hnodup h

theorem nodup_sortedGoalIds (goalIds : List (Option JsString)) : (sortedGoalIds goalIds).Nodup :=
  (JsArray.sortBy_perm _ _).nodup_iff.2 (nodup_dedup _)

theorem filter_changedField {α : Type} [DecidableEq α] {field : String} {current : α}
    {data : Option α} {contentFields : List String} (hfield : contentFields.contains field) :
    (changedField field current data).filter contentFields.contains =
      changedField field current data := by
  refine filter_eq_self.2 fun name hname => ?_
  unfold changedField at hname
  split at hname
  · exact absurd hname not_mem_nil
  · exact mem_singleton.1 hname ▸ hfield

theorem GoalData.content_apply {data : GoalData}
    (h : (data.changedFields goal).filter goalContentFields.contains = []) :
    (data.apply goal).content = goal.content := by
  simp only [changedFields, filter_append, append_eq_nil_iff] at h
  obtain ⟨⟨⟨⟨⟨⟨⟨⟨⟨⟨⟨⟨⟨htitle, hdescription⟩, hlevel⟩, hcadence⟩, _⟩, _⟩, _⟩, hprogress⟩, htarget⟩,
    hstart⟩, hparent⟩, hcircle⟩, howner⟩, _⟩ := h
  rw [filter_changedField (by decide), changedField_eq_nil]
    at htitle hdescription hlevel hcadence hprogress htarget hstart hparent hcircle howner
  simp only [apply, Goal.content, htitle, hdescription, hlevel, hcadence, hprogress, htarget,
    hstart, hparent, hcircle, howner]

variable {data data₁ : GoalData} {contentFields : List String}

theorem recordGoalVersion_write (hfound : store.goals.find? goal.id = some goal)
    (h : recordGoalVersion store actor goal contentFields data = .ok (store₁, data₁))
    (hversion : data.version = none)
    (hcontent : (data.changedFields goal).filter contentFields.contains = [] →
      (data.apply goal).content = goal.content) :
    ∃ own, (own = [] ∨ own = [goal.id]) ∧ Write GoalSnapshot.Stores store.log
      (store₁.updateGoalRow goal.id data₁.apply).log own := by
  have hgoals : store₁.goals = store.goals := (recordGoalVersion_frame h).1
  have hwrite := GoalStore.itemWrite_updateGoalRow store₁ hfound hgoals data₁.apply
  rcases recordGoalVersion_ok h with ⟨hnil, rfl, rfl⟩ | ⟨hchanged, versions, newVersion, hrecord,
    rfl, rfl⟩
  · refine ⟨[], .inl rfl, ItemStore.write_keep hwrite ?_ (hcontent hnil)⟩
    simp [GoalData.apply, hversion]
  · exact ⟨[goal.id], .inr rfl, ItemStore.write_record hwrite hrecord hchanged rfl rfl rfl rfl⟩

variable {context : GoalContext} {workspaceId goalId : JsString}

theorem parent_of_mem_toRecompute {requested changed : Bool} {requestedParent : Option JsString}
    {updated : Goal} {s : JsString}
    (hrequested : ∀ s, requestedParent = some s → s ≠ [] → updated.parentGoalId = some s)
    (h : s ∈ sortedGoalIds
      (parentGoalIdsToRecompute requested changed requestedParent goal updated)) :
    goal.parentGoalId = some s ∨ updated.parentGoalId = some s := by
  obtain ⟨hmem, hne⟩ := mem_sortedGoalIds.1 h
  rcases mem_append.1 hmem with hmem | hmem
  · split at hmem
    · rcases mem_cons.1 hmem with hold | hmem
      · exact .inl hold.symm
      · exact .inr (hrequested s (mem_singleton.1 hmem).symm hne)
    · exact absurd hmem not_mem_nil
  · split at hmem
    · rcases mem_cons.1 hmem with hold | hmem
      · exact .inl hold.symm
      · exact .inr (mem_singleton.1 hmem).symm
    · exact absurd hmem not_mem_nil

theorem GoalStore.parentOf_of_find? (hfound : store.goals.find? id = some goal) :
    store.parentOf id = goal.parentGoalId := by
  rw [parentOf, hfound]
  rfl

theorem updateGoal_writes {params : UpdateGoalParams}
    (h : updateGoal fuel store context params = .ok store') : GoalWrites store store' := by
  obtain ⟨goal, data, store₁, data₁, hfound, _, _, _, hdata, _, _, hrecord, h⟩ := updateGoal_ok h
  have hid := GoalStore.id_of_find? hfound
  rw [← hid] at hfound h
  obtain ⟨progress, _, _, hdata⟩ := UpdateGoalParams.data_ok hdata
  obtain ⟨hgoals, _, hframe⟩ := recordGoalVersion_frame hrecord
  rcases h with ⟨hnil, rfl⟩ | h
  · -- nothing changes, so no version is recorded either
    refine .of_eq hgoals ?_
    rcases recordGoalVersion_ok hrecord with ⟨_, hsame, _⟩ | ⟨hchanged, versions, newVersion,
      hrecord, _, hversion⟩
    · rw [hsame]
    · obtain ⟨hnext, _⟩ := recordWorkItemVersion_ok (by exact hchanged) hrecord
      dsimp only at hnext
      rw [GoalData.changedFields, append_eq_nil_iff, changedField_eq_nil, hversion] at hnil
      have hsame : newVersion = goal.version := hnil.2
      omega
  · obtain ⟨own, hown, hwrite⟩ := recordGoalVersion_write hfound hrecord
      (by rw [hdata]; rfl) fun hnil => GoalData.content_apply hnil
    have hparent : data₁.parentGoalId = params.parentGoalId.map fun id => id.bind JsString.orNull :=
      congrArg GoalData.parentGoalId (hframe.trans hdata)
    have hold := GoalStore.parentOf_of_find? hfound
    refine .of_update (data₁.apply goal).parentGoalId hown hwrite ?_ (fun s hs => ?_)
      (nodup_sortedGoalIds _) h
    · rw [GoalStore.parentOf_updateGoalRow (hgoals ▸ hfound),
        (GoalStore.SameHierarchy.of_goals_eq hgoals).1]
    · rw [hold]
      refine parent_of_mem_toRecompute (fun s hs hne => ?_) hs
      rw [GoalData.apply, hparent]
      rw [join_eq_some_iff] at hs
      rw [hs, map_some, bind_some, JsString.orNull_eq_some.2 ⟨rfl, hne⟩]
      rfl

theorem postGoalUpdate_writes {params : PostGoalUpdateParams}
    (h : postGoalUpdate fuel store context params = .ok store') : GoalWrites store store' := by
  obtain ⟨goal, newProgress, hfound, _, _, _, rfl | ⟨store₁, data₁, hrecord, h⟩⟩ :=
    postGoalUpdate_ok h
  · exact .of_eq rfl rfl
  have hid := GoalStore.id_of_find? hfound
  rw [← hid] at hfound h
  obtain ⟨hgoals, _, hframe⟩ := recordGoalVersion_frame hrecord
  obtain ⟨own, hown, hwrite⟩ := recordGoalVersion_write hfound hrecord rfl fun hnil => by
    -- a status update changes no content beside the progress
    simp only [GoalData.changedFields, filter_append, append_eq_nil_iff] at hnil
    have hprogress := hnil.1.1.1.1.1.1.2
    rw [filter_changedField (by decide), changedField_eq_nil] at hprogress
    simp only [GoalData.apply, Goal.content, hprogress]
    rfl
  have hparent : data₁.parentGoalId = none := congrArg GoalData.parentGoalId hframe
  have hkeep : (data₁.apply goal).parentGoalId = goal.parentGoalId := by
    rw [GoalData.apply, hparent]
    rfl
  have hold := GoalStore.parentOf_of_find? hfound
  refine .of_progress hown hwrite ?_ (fun s hs => ?_) (nodup_sortedGoalIds _) h
  · rw [GoalStore.parentOf_updateGoalRow (hgoals ▸ hfound), hkeep, ← hold,
      (GoalStore.SameHierarchy.of_goals_eq hgoals).1, Function.update_eq_self]
  · have hmem := parent_of_mem_toRecompute (by simp) hs
    rw [hkeep, or_self] at hmem
    exact hold.trans hmem

theorem ChangesKeyResults.writes (h : ChangesKeyResults fuel actor store goal store') :
    GoalWrites store store' := by
  obtain ⟨store₁, reset, hwrite, h⟩ := h
  obtain ⟨ids, hwrites, _, hforest⟩ := recompute_writes h
  have hkeep := GoalStore.write_of_eq hwrite.goals_eq hwrite.versions_eq
  rw [(GoalStore.SameHierarchy.of_goals_eq hwrite.goals_eq).1] at hforest
  exact ⟨ids, hkeep.writes.trans hwrites, fun hacyclic _ _ _ => times_le_one (hforest hacyclic)⟩

theorem ChangesArchive.writes (hfound : store.goals.find? goal.id = some goal)
    (h : ChangesArchive actor store goal store') : GoalWrites store store' := by
  obtain ⟨archivedAt, archivedByUserId, archiveReason, ids, _, hnodup, hparent, h⟩ := h
  have hwrite := GoalStore.itemWrite_updateGoalRow store hfound rfl fun goal =>
    { goal with archivedAt, archivedByUserId, archiveReason }
  have hold := GoalStore.parentOf_of_find? hfound
  refine .of_progress (.inl rfl) (ItemStore.write_keep hwrite rfl rfl) ?_
    (fun s hs => hold.trans (hparent s hs)) hnodup h
  have hsame : GoalStore.SameHierarchy store (store.updateGoalRow goal.id fun goal =>
      { goal with archivedAt, archivedByUserId, archiveReason }) :=
    .updateGoalRow hfound rfl fun _ => rfl
  exact hsame.1

variable {params : CreateGoalParams}

theorem appendMissing_writes
    (h : appendMissingDuplicateGoalKeyResults fuel store context params goalId = .ok store') :
    GoalWrites store store' := by
  rcases appendMissingDuplicateGoalKeyResults_ok h with
    rfl | ⟨goal, store₁, rows, progress, versions, newVersion, hfound, _, hwrite, _, _, _,
      hrecord, h⟩
  · exact .of_eq rfl rfl
  have hid := GoalStore.id_of_find? hfound
  rw [← hid] at hfound h
  have hgoals : { store₁ with versions }.goals = store.goals := hwrite.goals_eq
  have hrow := GoalStore.itemWrite_updateGoalRow { store₁ with versions } hfound hgoals
    fun goal => { goal with progressPercent := progress, version := newVersion }
  have hold := GoalStore.parentOf_of_find? hfound
  refine .of_progress (.inr rfl)
    (ItemStore.write_record hrow hrecord (cons_ne_nil _ _) rfl rfl rfl rfl) ?_
    (fun s hs => ?_) (nodup_sortedGoalIds _) h
  · have hsame : GoalStore.SameHierarchy { store₁ with versions }
        (store₁.writeProgress versions goal.id progress newVersion) :=
      .updateGoalRow (hgoals ▸ hfound) rfl fun _ => rfl
    exact hsame.1.trans (GoalStore.SameHierarchy.of_goals_eq hgoals).1
  · have hmem := (mem_sortedGoalIds.1 hs).1
    exact hold.trans (mem_singleton.1 hmem).symm

theorem createGoal_writes
    (h : createGoal store context params = .ok store') : GoalWrites store store' := by
  obtain ⟨keyResults, _, _, hnew, hrows, _, hversions⟩ := createGoal_ok h
  have hmissing : store.items.items.find? (params.row context keyResults).id = none := hnew
  have hwrite : Write GoalSnapshot.Stores store.log store'.log [] :=
    ItemStore.write_create hmissing rfl hrows hversions
  exact ⟨[], hwrite.writes, fun _ _ _ _ => Nat.zero_le 1⟩

variable {transaction : GoalTransaction}

/-- **What a transaction on goals writes.** -/
theorem GoalTransaction.perform_writes
    (h : transaction.perform fuel context store = .ok store') : GoalWrites store store' := by
  cases transaction <;> simp only [perform] at h
  case create params => exact createGoal_writes h
  case updateDuplicate params goalId =>
    obtain ⟨existing, _, ⟨rfl, _⟩ | h⟩ := updateDuplicateGoal_ok h
    · exact .of_eq rfl rfl
    · exact updateGoal_writes h
  case appendMissing params goalId => exact appendMissing_writes h
  case update params => exact updateGoal_writes h
  case post params => exact postGoalUpdate_writes h
  case addKeyResult params =>
    obtain ⟨goal, _, h⟩ := addKeyResult_ok h
    exact h.writes
  case updateKeyResult params =>
    obtain ⟨_, goal, _, _, _, _, rfl | h⟩ := updateKeyResult_ok h
    · exact .of_eq rfl rfl
    · exact h.writes
  case deleteKeyResult workspaceId krId expectedVersion =>
    obtain ⟨_, goal, _, _, _, _, h⟩ := deleteKeyResult_ok h
    exact h.writes
  case delete workspaceId goalId includeArchived =>
    obtain ⟨goal, hfound, rfl | h⟩ := deleteGoal_ok h
    · exact .of_eq rfl rfl
    · exact h.writes hfound
  case archive workspaceId goalId reason expectedVersion =>
    obtain ⟨goal, hfound, _, _, rfl | h⟩ := archiveGoal_ok h
    · exact .of_eq rfl rfl
    · exact h.writes hfound
  case restore workspaceId goalId expectedVersion =>
    obtain ⟨goal, hfound, _, _, h⟩ := restoreGoal_ok h
    exact h.writes hfound

theorem GoalTransaction.perform_expects {e : ℚ}
    (h : transaction.perform fuel context store = .ok store')
    (hexpects : transaction.expects store = some (id, e)) :
    ∃ goal, store.goals.find? id = some goal ∧ e = goal.version := by
  cases transaction <;> simp only [perform] at h
  case update params =>
    obtain ⟨expected, hexpected, heq⟩ := map_eq_some_iff.1 hexpects
    obtain ⟨rfl, rfl⟩ := Prod.mk.inj heq
    obtain ⟨goal, _, _, _, hfound, _, _, _, _, _, hversion, _⟩ := updateGoal_ok h
    exact ⟨goal, hfound, (hversion _ hexpected).1⟩
  case post params =>
    obtain ⟨expected, hexpected, heq⟩ := map_eq_some_iff.1 hexpects
    obtain ⟨rfl, rfl⟩ := Prod.mk.inj heq
    obtain ⟨goal, _, hfound, _, _, hversion, _⟩ := postGoalUpdate_ok h
    exact ⟨goal, hfound, (hversion _ hexpected).1⟩
  case updateKeyResult params =>
    obtain ⟨found, hkeyResult, hexpects⟩ := bind_eq_some_iff.1 hexpects
    obtain ⟨expected, hexpected, heq⟩ := map_eq_some_iff.1 hexpects
    obtain ⟨rfl, rfl⟩ := Prod.mk.inj heq
    obtain ⟨keyResult, goal, hsame, hid, hfound, hversion, _⟩ := updateKeyResult_ok h
    obtain rfl := some.inj (hkeyResult.symm.trans hsame)
    exact ⟨goal, hid ▸ hfound, (hversion _ hexpected).1⟩
  case deleteKeyResult workspaceId krId expectedVersion =>
    obtain ⟨found, hkeyResult, heq⟩ := map_eq_some_iff.1 hexpects
    obtain ⟨rfl, rfl⟩ := Prod.mk.inj heq
    obtain ⟨keyResult, goal, hsame, hid, hfound, hversion, _⟩ := deleteKeyResult_ok h
    obtain rfl := some.inj (hkeyResult.symm.trans hsame)
    exact ⟨goal, hid ▸ hfound, hversion⟩
  case archive workspaceId goalId reason expectedVersion =>
    obtain ⟨expected, hexpected, heq⟩ := map_eq_some_iff.1 hexpects
    obtain ⟨rfl, rfl⟩ := Prod.mk.inj heq
    obtain ⟨goal, hfound, hid, hversion, _⟩ := archiveGoal_ok h
    exact ⟨goal, hid ▸ hfound, hversion _ hexpected⟩
  case restore workspaceId goalId expectedVersion =>
    obtain ⟨expected, hexpected, heq⟩ := map_eq_some_iff.1 hexpects
    obtain ⟨rfl, rfl⟩ := Prod.mk.inj heq
    obtain ⟨goal, hfound, hid, hversion, _⟩ := restoreGoal_ok h
    exact ⟨goal, hid ▸ hfound, hversion _ hexpected⟩
  all_goals cases hexpects

end

/-- **The version history of goals.** -/
theorem goalSystem_hasHistory : goalSystem.HasHistory := by
  refine .of (fun _ => True) trivial ItemStore.log_sound_empty ?_ ?_ ?_
  · intro store step _
    refine ⟨trivial, ?_⟩
    rcases step.apply_cases store with ⟨hsame, _⟩ | ⟨hok, _⟩
    · have hlog : goalSystem.log (goalSystem.apply store step) = goalSystem.log store :=
        congrArg GoalStore.log hsame
      rw [hlog]
      exact ⟨[], .nil, fun _ _ => Nat.zero_le 1⟩
    · obtain ⟨ids, hwrites, honce⟩ := GoalTransaction.perform_writes hok
      exact ⟨ids, hwrites, fun a h => honce h.1 h.2.1 a h.2.2⟩
  · intro store step id e hsucceeds hexpects
    rcases step.apply_cases store with ⟨_, hfails⟩ | ⟨hok, _⟩
    · exact absurd hsucceeds hfails
    · obtain ⟨goal, hfound, he⟩ := GoalTransaction.perform_expects hok hexpects
      exact ⟨goal.version, goal.content, congrArg (Option.map _) hfound, he⟩
  · intro store step hfails
    rcases step.apply_cases store with ⟨hsame, _⟩ | ⟨_, hsucceeds⟩
    · exact hsame
    · exact absurd hsucceeds hfails

/-- A request that moves a goal. -/
def exampleMove (id parent : String) (expectedVersion : ℚ) : GoalStep :=
  ⟨9, exampleContext "", .update {
    workspaceId := .lit "w", goalId := .lit id, parentGoalId := some (some (.lit parent))
    expectedVersion }⟩

/-- Goal `C0`, which is done, moves under `A0`, and the goal `B0` is under `A0` as well. -/
def historyGoalSteps : List GoalStep :=
  [exampleCreate "A" none [], exampleCreate "B" (some (.lit "A0")) [],
    exampleCreate "C" none
      [{ title := .lit "Result", targetValue := some 1, currentValue := some 1 }],
    exampleMove "C0" "A0" 1]

/-- Goals `A0` and `B0` are each other's parent, and `C0` is under `A0`. -/
def cyclicHistorySteps : List GoalStep :=
  cyclicGoalSteps ++ [exampleCreate "C" (some (.lit "A0")) []]

/-- A key result that is done, for goal `C0`. -/
def exampleKeyResult : GoalStep :=
  ⟨30, exampleContext "D", .addKeyResult {
    workspaceId := .lit "w", goalId := .lit "C0", title := .lit "Result", targetValue := some 1
    currentValue := some 1 }⟩

def goalProgressAfter (steps : List GoalStep) (id : String) : Option (Nat × Int) :=
  ((runGoalSteps steps).goals.find? (.lit id)).map fun goal => (goal.version, goal.progressPercent)

/-- The context of an administrator's requests on actions, whose new row has the key `uuid`. -/
def adminContext (uuid : String) : WorkItemContext where
  actor := .user (.lit "user") (.lit "user@example.com") none
  membership := some ⟨.lit "member", .lit "workspace", .lit "user", .admin, true⟩
  now := 1000
  readable _ := true
  activeMember _ := true
  activeHuman _ := true
  visibleProposal _ := false
  authorUserId := .lit "user"
  uuid := .lit uuid
  normalizeDuplicateGuardText text := text

/-- An administrator creates two actions and resolves the second as a duplicate of the first. -/
def mergedActionSteps : List ActionStep :=
  [⟨adminContext "canonical", .create {
      workspaceId := .lit "workspace", title := .lit "Action", bodyMd := some (.lit "One") }⟩,
    ⟨adminContext "duplicate", .create {
      workspaceId := .lit "workspace", title := .lit "Action", bodyMd := some (.lit "Two") }⟩,
    ⟨adminContext "", .resolveDuplicate {
      workspaceId := .lit "workspace", canonicalId := .lit "canonical"
      duplicateId := .lit "duplicate", confirmDuplicateId := .lit "duplicate"
      expectedCanonicalVersion := 1, expectedDuplicateVersion := 1 } ⟨true, true⟩⟩]

end Corgtex.Domain
