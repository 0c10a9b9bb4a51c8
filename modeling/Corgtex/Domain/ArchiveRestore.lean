import Corgtex.Domain.ArchiveRecords
import Corgtex.Domain.GoalHierarchy

/-!
# Restoring what was archived

`archive.ts`: an archive switches some artifacts off (`archiveData`), and the
restore that follows switches them on (`restoreData`), whether they were on before or not. The
snapshot in the archive record is read for proposals only. `restore_undoes_archive` says which
records come back as they were. A goal is not switched, but both calls recompute the progress of its
parent, and so on upwards, which leaves the goal alone unless it stands below itself.
-/

namespace Corgtex.Domain.Archive

open Option hiding map map_map

open Relation ParentForest

/-! ## One artifact -/

/-- The two records differ at most in their version. -/
def SameButVersion (restored record : Artifact) : Prop :=
  { restored with version := record.version } = record

/-- The snapshot that a restore finds right after the archive of `record`. -/
def snapshotToRestore (records : ArchiveRecords) (recordId : JsString) (record : Artifact)
    (now : Int) : Option Artifact :=
  if h : recordId ∈ records.rows.map ArchiveRecord.id then none
  else (activeArchiveRecord (records.insert ⟨recordId, some record, now, none, none⟩ h)).bind
    ArchiveRecord.previousState

section
variable (entityType : ArchiveEntityType) (snapshot : Option Artifact) (record : Artifact)

/-- What the restore writes is what the record had. -/
def SwitchedOn : Prop :=
  match entityType with
  | .AgentIdentity | .ExternalDataSource | .OAuthApp | .WorkspaceAgentConfig =>
    record.isActive = true
  | .WebhookEndpoint => record.status = "ACTIVE"
  | .Proposal => restoredStatus snapshot = record.status
  | _ => True

/-- The row after both updates. -/
def restoredRow (userId reason : Option JsString) (now : Int) : Artifact :=
  restoreData entityType snapshot { archiveData entityType { record with
      archivedAt := some now, archivedByUserId := userId, archiveReason := reason } with
    archivedAt := none, archivedByUserId := none, archiveReason := none }

end

/-- **The two updates** of a live record leave it as it was if it was switched on and carried
nothing of an earlier archive. -/
theorem sameButVersion_restoredRow_iff {entityType : ArchiveEntityType} {record : Artifact}
    (hlive : record.archivedAt = none) (snapshot : Option Artifact)
    (userId reason : Option JsString) (now : Int) :
    SameButVersion (restoredRow entityType snapshot record userId reason now) record ↔
      record.archivedByUserId = none ∧ record.archiveReason = none ∧
        SwitchedOn entityType snapshot record := by
  obtain ⟨archivedAt, archivedByUserId, archiveReason, version, isActive, status⟩ := record
  obtain rfl : archivedAt = none := hlive
  cases entityType <;>
    simp [SameButVersion, restoredRow, archiveData, restoreData, SwitchedOn, eq_comm]

namespace ArchiveState

section
variable {entityType : ArchiveEntityType} {state : ArchiveState} {call : Nat} {record : Artifact}

/-- A read starts the call, unless the call has to wait or fails. -/
theorem read_cases (entityType : ArchiveEntityType) (op : ArchiveOp)
    (hrow : state.row = some record) (hfree : state.calls call = none) :
    state.read entityType call op = state ∨
      ∃ holder, state.read entityType call op = { state with
        calls := Function.update state.calls call (some ⟨op, record, none, state.commits⟩)
        holder } := by
  unfold read
  rw [hfree, hrow]
  dsimp only
  split
  · split
    · split
      · exact .inr ⟨_, rfl⟩
      · exact .inl rfl
    · exact .inr ⟨_, rfl⟩
  · exact .inl rfl

theorem commit_of_free (hfree : state.calls call = none) (recordId : JsString) (now : Int) :
    state.commit entityType call recordId now = state := by
  unfold commit
  rw [hfree]

theorem find_of_free (hfree : state.calls call = none) : state.find call = state := by
  unfold find
  rw [hfree]

theorem commits_read (op : ArchiveOp) :
    (state.read entityType call op).commits = state.commits := by
  unfold read
  split
  · split_ifs <;> rfl
  · rfl

theorem commits_find : (state.find call).commits = state.commits := by
  unfold find
  split
  · split_ifs <;> rfl
  · rfl

/-- Only a commit counts, and it counts once. -/
theorem commits_commit_le (recordId : JsString) (now : Int) :
    (state.commit entityType call recordId now).commits ≤ state.commits + 1 := by
  unfold commit
  split
  · split
    · exact Nat.le_succ _
    · split
      · split
        · unfold commitArchive
          split
          · exact Nat.le_succ _
          · exact le_rfl
        · exact Nat.le_succ _
      · split
        · exact le_rfl
        · exact Nat.le_succ _
      · exact le_rfl
      · exact Nat.le_succ _
  · exact Nat.le_succ _
  · exact Nat.le_succ _

/-- The statements of an archive, one after the other. -/
def archiveSteps (call : Nat) (userId reason : Option JsString) (expectedVersion : Option Nat)
    (recordId : JsString) (now : Int) : List ArchiveStep :=
  [.read call (.archive userId reason expectedVersion), .commit call recordId now]

/-- The statements of a restore, one after the other. -/
def restoreSteps (call : Nat) (expectedVersion : Option Nat) (recordId : JsString) (now : Int) :
    List ArchiveStep :=
  [.read call (.restore expectedVersion), .find call, .commit call recordId now]

theorem run_restoreSteps_eq (expectedVersion : Option Nat) (recordId : JsString) (now : Int) :
    state.run entityType (restoreSteps call expectedVersion recordId now) =
      ((state.read entityType call (.restore expectedVersion)).find call).commit entityType call
        recordId now := rfl

/-- **An archive** that commits marks the row and adds a record with its snapshot. -/
theorem run_archiveSteps (entityType : ArchiveEntityType) (userId reason : Option JsString)
    (expectedVersion : Option Nat) (recordId : JsString) (now : Int)
    (hrow : state.row = some record) (hfree : state.calls call = none) :
    (state.run entityType (archiveSteps call userId reason expectedVersion recordId now)).commits =
        state.commits ∨
      ∃ state' hnew, state.run entityType
          (archiveSteps call userId reason expectedVersion recordId now) = state' ∧
        state'.commits = state.commits + 1 ∧ state'.calls call = none ∧
        state'.records = state.records.insert ⟨recordId, some record, now, none, none⟩ hnew ∧
        state'.row = some (archiveData entityType { record with
          archivedAt := some now, archivedByUserId := userId, archiveReason := reason }) := by
  show ((state.read entityType call _).commit entityType call recordId now).commits = _ ∨
    ∃ state' hnew, (state.read entityType call _).commit entityType call recordId now = state' ∧ _
  rcases read_cases entityType (.archive userId reason expectedVersion) hrow hfree with
    hread | ⟨holder, hread⟩
  · rw [hread, commit_of_free hfree]
    exact .inl rfl
  · rw [hread, commit]
    simp only [Function.update_self, hrow]
    split
    · exact .inl rfl
    · split
      · unfold commitArchive
        split
        · exact .inl rfl
        · next hnew => exact .inr ⟨_, hnew, rfl, rfl, by simp, rfl, rfl⟩
      · exact .inl rfl

/-- **A restore** that commits takes the mark back, with the snapshot that it finds. -/
theorem run_restoreSteps (entityType : ArchiveEntityType) (expectedVersion : Option Nat)
    (recordId : JsString) (now : Int) (hrow : state.row = some record)
    (hfree : state.calls call = none) :
    (state.run entityType (restoreSteps call expectedVersion recordId now)).commits =
        state.commits ∨
      (state.run entityType (restoreSteps call expectedVersion recordId now)).commits =
          state.commits + 1 ∧
        (state.run entityType (restoreSteps call expectedVersion recordId now)).row =
          some (restoreData entityType
            ((activeArchiveRecord state.records).bind ArchiveRecord.previousState) { record with
              archivedAt := none, archivedByUserId := none, archiveReason := none }) := by
  rw [run_restoreSteps_eq]
  rcases read_cases entityType (.restore expectedVersion) hrow hfree with
    hread | ⟨holder, hread⟩
  · rw [hread, find_of_free hfree, commit_of_free hfree]
    exact .inl rfl
  · rw [hread, find]
    simp only [Function.update_self, reduceCtorEq, false_and, if_false]
    rw [commit]
    simp only [Function.update_self, hrow]
    split
    · exact .inl rfl
    · split
      · exact .inr ⟨rfl, rfl⟩
      · exact .inl rfl

/-- An archive and then a restore, with nothing in between. -/
def archiveAndRestore (call : Nat) (userId reason : Option JsString)
    (expectedVersion expectedVersion' : Option Nat) (recordId : JsString) (now now' : Int) :
    List ArchiveStep :=
  archiveSteps call userId reason expectedVersion recordId now ++
    restoreSteps call expectedVersion' recordId now'

/-- Where both commit, the row is the one of the two updates. -/
theorem row_archiveAndRestore {userId reason : Option JsString}
    {expectedVersion expectedVersion' : Option Nat} {recordId : JsString} {now now' : Int}
    (hrow : state.row = some record) (hfree : state.calls call = none)
    (hcommits : (state.run entityType (archiveAndRestore call userId reason expectedVersion
      expectedVersion' recordId now now')).commits = state.commits + 2) :
    (state.run entityType (archiveAndRestore call userId reason expectedVersion expectedVersion'
      recordId now now')).row =
        some (restoredRow entityType (snapshotToRestore state.records recordId record now) record
          userId reason now) := by
  have happend : state.run entityType (archiveAndRestore call userId reason expectedVersion
        expectedVersion' recordId now now') =
      (state.run entityType (archiveSteps call userId reason expectedVersion recordId now)).run
        entityType (restoreSteps call expectedVersion' recordId now') := List.foldl_append ..
  rw [happend] at hcommits ⊢
  rcases run_archiveSteps entityType userId reason expectedVersion recordId now hrow hfree with
    hnone | ⟨archived, hnew, hrun, hone, hfree', hrecords, hrow'⟩
  · generalize state.run entityType _ = waiting at hnone hcommits
    have hle : (waiting.run entityType (restoreSteps call expectedVersion' recordId now')).commits ≤
        waiting.commits + 1 := by
      rw [run_restoreSteps_eq]
      refine (commits_commit_le recordId now').trans_eq ?_
      rw [commits_find, commits_read]
    omega
  · rw [hrun] at hcommits ⊢
    rcases run_restoreSteps entityType expectedVersion' recordId now' hrow' hfree' with
      hnone | ⟨_, hrestored⟩
    · omega
    · rw [hrestored, restoredRow, snapshotToRestore, dif_neg hnew, hrecords]

end

end ArchiveState

/-! ## Goals -/

/-- A recomputation leaves a goal that is not among those it may climb to. -/
theorem find?_recompute {snapshotKeyResults : RecomputeOptions → List KeyResult →
      Option (List KeyResult)} {actor : AppActor} {fuel : Nat} {options : RecomputeOptions}
    {store store' : GoalStore} {id goalId : JsString}
    (h : recompute snapshotKeyResults actor fuel options store id = .ok store')
    (habove : ¬ ReflTransGen (Up store.parentOf) id goalId) :
    store'.goals.find? goalId = store.goals.find? goalId := by
  induction fuel generalizing options store id with
  | zero => cases h
  | succ fuel ih =>
    rcases recompute_cases h with ⟨_, rfl⟩ | ⟨goal, hfound, ⟨rfl, _⟩ | ⟨store₁, write, _, hrest⟩⟩
    · rfl
    · rfl
    have hid := GoalStore.id_of_find? hfound
    have hne : goalId ≠ goal.id := by
      rintro rfl
      exact habove (hid ▸ .refl)
    have hfirst : store₁.goals.find? goalId = store.goals.find? goalId := by
      rw [write.store_eq, GoalStore.find?_writeProgress]
      simp only [if_neg hne, map_id']
    rcases hrest with ⟨_, rfl⟩ | ⟨p, hparent, hrest⟩
    · exact hfirst
    · refine (ih hrest ?_).trans hfirst
      rw [write.sameHierarchy.1]
      intro hclimb
      obtain ⟨text, htext, hp⟩ := bind_eq_some_iff.1 hparent
      have hup : Up store.parentOf id p := by
        rw [Up, GoalStore.parentOf, hfound, bind_some, htext, (JsString.orNull_eq_some.1 hp).1]
      exact habove (.head hup hclimb)

/-- The mark of a goal's row. -/
def goalMark (goal : Goal) : Option Int × Option JsString × Option JsString :=
  (goal.archivedAt, goal.archivedByUserId, goal.archiveReason)

section
variable {fuel : Nat} {context : GoalContext} {store store' : GoalStore} {workspaceId : JsString}
  {goalId : JsString} {goal : Goal}

theorem goalMark_recompute {parentGoalId : Option JsString}
    (h : recomputeGoalParentProgressForArchiveTransition fuel context store parentGoalId
      = .ok store') (id : JsString) :
    (store'.goals.find? id).map goalMark = (store.goals.find? id).map goalMark := by
  have hrecomputes := recomputeGoalParentProgressForArchiveTransition_ok h
  refine hrecomputes.induction (R := fun store store' =>
    (store'.goals.find? id).map goalMark = (store.goals.find? id).map goalMark)
    (fun _ => rfl) (fun _ _ _ h₁ h₂ => h₂.trans h₁) fun store goal store₁ write => ?_
  rw [write.store_eq, GoalStore.find?_writeProgress, Option.map_map]
  refine congrArg (Option.map · _) (funext fun row => ?_)
  simp only [Function.comp_apply]
  split <;> rfl

/-- A recomputation from the parent leaves a goal that does not stand below itself. -/
theorem find?_recomputeTransition {parentGoalId : Option JsString}
    (h : recomputeGoalParentProgressForArchiveTransition fuel context store parentGoalId
      = .ok store') (hparent : store.parentOf goalId = parentGoalId)
    (hbelow : ¬ TransGen (Up store.parentOf) goalId goalId) :
    store'.goals.find? goalId = store.goals.find? goalId := by
  cases parentGoalId with
  | none =>
    obtain rfl := Except.ok.inj h
    rfl
  | some p => exact find?_recompute h fun hclimb => hbelow (.head' hparent hclimb)

/-- The mark that an archive writes. -/
def markGoal (archivedAt : Option Int) (archivedByUserId archiveReason : Option JsString)
    (goal : Goal) : Goal :=
  { goal with archivedAt, archivedByUserId, archiveReason }

theorem archiveGoal_live {reason : Option JsString} {expectedVersion : Option ℚ}
    (h : archiveGoal fuel store context workspaceId goalId reason expectedVersion = .ok store')
    (hfound : store.goals.find? goalId = some goal) (hlive : goal.archivedAt = none) :
    recomputeGoalParentProgressForArchiveTransition fuel context
      (store.updateGoalRow goalId (markGoal (some context.now) context.actor.userId?
        (JsString.trimOrNull reason))) goal.parentGoalId = .ok store' := by
  obtain ⟨_, hread⟩ := invariant_bind_ok.1 h
  obtain ⟨record, hrecord, hcheck⟩ := bind_ok.1 hread
  obtain ⟨_, hwrite⟩ := invariant_bind_ok.1 hcheck
  obtain ⟨hfound', hid⟩ := findGoalRecord_ok hrecord
  rw [hid, hfound, some_inj] at hfound'
  subst hid hfound'
  rw [hlive] at hwrite
  exact hwrite

theorem restoreGoal_found {expectedVersion : Option ℚ}
    (h : restoreGoal fuel store context workspaceId goalId expectedVersion = .ok store')
    (hfound : store.goals.find? goalId = some goal) :
    recomputeGoalParentProgressForArchiveTransition fuel context
      (store.updateGoalRow goalId (markGoal none none none)) goal.parentGoalId = .ok store' := by
  obtain ⟨_, hread⟩ := invariant_bind_ok.1 h
  obtain ⟨record, hrecord, hcheck⟩ := bind_ok.1 hread
  obtain ⟨_, hversion⟩ := invariant_bind_ok.1 hcheck
  obtain ⟨_, hwrite⟩ := invariant_bind_ok.1 hversion
  obtain ⟨hfound', hid⟩ := findGoalRecord_ok hrecord
  rw [hid, hfound, some_inj] at hfound'
  subst hid hfound'
  exact hwrite

section
variable (hfound : store.goals.find? goalId = some goal) (archivedAt : Option Int)
  (archivedByUserId archiveReason : Option JsString)
include hfound

theorem find?_updateGoalRow_mark : (store.updateGoalRow goalId
      (markGoal archivedAt archivedByUserId archiveReason)).goals.find? goalId =
        some (markGoal archivedAt archivedByUserId archiveReason goal) := by
  rw [GoalStore.find?_updateGoalRow, hfound, map_some, if_pos rfl]
  rfl

theorem parentOf_updateGoalRow_mark : (store.updateGoalRow goalId
      (markGoal archivedAt archivedByUserId archiveReason)).parentOf = store.parentOf := by
  have hsame : GoalStore.SameHierarchy store (store.updateGoalRow goalId
      (markGoal archivedAt archivedByUserId archiveReason)) :=
    .updateGoalRow hfound rfl fun _ => rfl
  exact hsame.1

end

/-- The goal is as it was, but for its version. -/
def GoalRestored (store store' : GoalStore) (goalId : JsString) : Prop :=
  ∃ goal restored, store.goals.find? goalId = some goal ∧
    store'.goals.find? goalId = some restored ∧ { restored with version := goal.version } = goal

variable {fuel' : Nat} {context' : GoalContext} {workspaceId' : JsString}
  {store₁ : GoalStore} {reason : Option JsString} {expectedVersion expectedVersion' : Option ℚ}

/-- After both calls the goal carries no mark. -/
theorem goalMark_restored
    (harchive : archiveGoal fuel store context workspaceId goalId reason expectedVersion
      = .ok store₁)
    (hrestore : restoreGoal fuel' store₁ context' workspaceId' goalId expectedVersion' = .ok store')
    (hfound : store.goals.find? goalId = some goal) (hlive : goal.archivedAt = none) :
    ∃ restored, store'.goals.find? goalId = some restored ∧
      goalMark restored = (none, none, none) := by
  have hmark := goalMark_recompute (archiveGoal_live harchive hfound hlive) goalId
  rw [find?_updateGoalRow_mark hfound, map_some, map_eq_some_iff] at hmark
  obtain ⟨archived, harchived, _⟩ := hmark
  have hunmark := goalMark_recompute (restoreGoal_found hrestore harchived) goalId
  rw [find?_updateGoalRow_mark harchived, map_some, map_eq_some_iff] at hunmark
  exact hunmark

/-- A goal that does not stand below itself has after both calls the row of the two updates. -/
theorem find?_restored
    (harchive : archiveGoal fuel store context workspaceId goalId reason expectedVersion
      = .ok store₁)
    (hrestore : restoreGoal fuel' store₁ context' workspaceId' goalId expectedVersion' = .ok store')
    (hfound : store.goals.find? goalId = some goal) (hlive : goal.archivedAt = none)
    (hbelow : ¬ TransGen (Up store.parentOf) goalId goalId) :
    store'.goals.find? goalId = some (markGoal none none none goal) := by
  have hparent : store.parentOf goalId = goal.parentGoalId := by
    rw [GoalStore.parentOf, hfound, bind_some]
  have hrecompute := archiveGoal_live harchive hfound hlive
  have hsame := parentOf_updateGoalRow_mark hfound (some context.now) context.actor.userId?
    (JsString.trimOrNull reason)
  have harchived := find?_recomputeTransition hrecompute (hsame ▸ hparent) (hsame ▸ hbelow)
  rw [find?_updateGoalRow_mark hfound] at harchived
  have hhierarchy : store₁.parentOf = store.parentOf :=
    (recomputeGoalParentProgressForArchiveTransition_ok hrecompute).sameHierarchy.1.trans hsame
  have hrecompute' := restoreGoal_found hrestore harchived
  have hsame' := (parentOf_updateGoalRow_mark harchived none none none).trans hhierarchy
  have hrestored := find?_recomputeTransition hrecompute' (hsame' ▸ hparent) (hsame' ▸ hbelow)
  rw [find?_updateGoalRow_mark harchived] at hrestored
  exact hrestored

end

/-! ## All types -/

/-- **Restore undoes archive** of every type but goals exactly for a record that was switched on and
carried nothing of an earlier archive; of a goal only if it carried nothing of one, and then if it
does not stand below itself. -/
theorem restore_undoes_archive (entityType : ArchiveEntityType) :
    (entityType ≠ .Goal → ∀ (state : ArchiveState) (record : Artifact) (call : Nat)
      (userId reason : Option JsString) (expectedVersion expectedVersion' : Option Nat)
      (recordId : JsString) (now now' : Int) (final : ArchiveState),
      state.row = some record → record.archivedAt = none → state.calls call = none →
      state.run entityType (ArchiveState.archiveAndRestore call userId reason expectedVersion
        expectedVersion' recordId now now') = final → final.commits = state.commits + 2 →
      ((∃ restored, final.row = some restored ∧ SameButVersion restored record) ↔
        record.archivedByUserId = none ∧ record.archiveReason = none ∧ SwitchedOn entityType
          (snapshotToRestore state.records recordId record now) record)) ∧
    (entityType = .Goal → ∀ (fuel fuel' : Nat) (store store₁ store' : GoalStore)
      (context context' : GoalContext) (workspaceId workspaceId' goalId : JsString) (goal : Goal)
      (reason : Option JsString) (expectedVersion expectedVersion' : Option ℚ),
      store.goals.find? goalId = some goal → goal.archivedAt = none →
      archiveGoal fuel store context workspaceId goalId reason expectedVersion = .ok store₁ →
      restoreGoal fuel' store₁ context' workspaceId' goalId expectedVersion' = .ok store' →
      (GoalRestored store store' goalId →
        goal.archivedByUserId = none ∧ goal.archiveReason = none) ∧
      (goal.archivedByUserId = none → goal.archiveReason = none →
        ¬ TransGen (Up store.parentOf) goalId goalId → GoalRestored store store' goalId)) := by
  constructor
  · rintro _ state record call userId reason expectedVersion expectedVersion' recordId now now'
      final hrow hlive hfree rfl hcommits
    rw [ArchiveState.row_archiveAndRestore hrow hfree hcommits,
      ← sameButVersion_restoredRow_iff hlive _ userId reason now]
    simp
  · intro _ fuel fuel' store store₁ store' context context' workspaceId workspaceId' goalId goal
      reason expectedVersion expectedVersion' hfound hlive harchive hrestore
    constructor
    · rintro ⟨before, restored, hbefore, hrestored, hsame⟩
      obtain rfl := some.inj (hfound.symm.trans hbefore)
      obtain ⟨row, hrow, hmark⟩ := goalMark_restored harchive hrestore hfound hlive
      obtain rfl := some.inj (hrestored.symm.trans hrow)
      rw [← hsame]
      simp only [goalMark, Prod.mk.injEq] at hmark
      exact hmark.2
    · intro huser hreason hbelow
      refine ⟨goal, _, hfound, find?_restored harchive hrestore hfound hlive hbelow, ?_⟩
      obtain ⟨⟩ := goal
      simp_all [markGoal]

/-- An artifact that nobody has archived yet, and no call under way. -/
def liveState (record : Artifact) : ArchiveState where
  row := some record
  records := .empty
  calls := fun _ => none
  holder := none
  commits := 0
  archive := none

def agentIdentity (isActive : Bool) : Artifact where
  archivedAt := none
  archivedByUserId := none
  archiveReason := none
  version := none
  isActive
  status := ""

def restoredIdentity (isActive : Bool) : ArchiveState :=
  (liveState (agentIdentity isActive)).run .AgentIdentity
    (ArchiveState.archiveAndRestore 0 none none none none (.lit "record") 1 2)

/-- A goal without a parent. -/
def loneGoal : Goal where
  id := .lit "goal"
  workspaceId := .lit "w"
  title := .lit "Goal"
  descriptionMd := none
  level := .company
  cadence := .quarterly
  status := .active
  progressPercent := 40
  targetDate := none
  startDate := none
  parentGoalId := none
  circleId := none
  ownerMemberId := none
  authorUserId := none
  isPrivate := false
  publishedAt := none
  version := 1
  archivedAt := none
  archivedByUserId := none
  archiveReason := none

def loneStore : GoalStore :=
  { GoalStore.empty with goals := KeyedTable.empty.insert loneGoal List.not_mem_nil }

/-- The goal once it is archived, and once it is restored. -/
def archivedLoneStore : GoalStore :=
  loneStore.updateGoalRow (.lit "goal") (markGoal (some 0) (some (.lit "u")) none)

def restoredLoneStore : GoalStore :=
  archivedLoneStore.updateGoalRow (.lit "goal") (markGoal none none none)

/-- An active identity and a goal without a parent come back as they were. -/
theorem restore_undoes_archive_sample :
    (∃ restored, (restoredIdentity true).row = some restored ∧
      SameButVersion restored (agentIdentity true)) ∧
    GoalRestored loneStore restoredLoneStore (.lit "goal") := by
  constructor
  · have hidentity := (restore_undoes_archive .AgentIdentity).1 (by decide)
      (liveState (agentIdentity true)) (agentIdentity true) 0 none none none none (.lit "record") 1
      2 (restoredIdentity true) rfl rfl rfl rfl (by decide)
    exact hidentity.2 ⟨rfl, rfl, rfl⟩
  · have hgoal := (restore_undoes_archive .Goal).2 rfl 1 1 loneStore archivedLoneStore
      restoredLoneStore (exampleContext "") (exampleContext "") (.lit "w") (.lit "w") (.lit "goal")
      loneGoal none none none rfl rfl rfl rfl
    refine hgoal.2 rfl rfl fun hbelow => ?_
    obtain ⟨_, hup, _⟩ := TransGen.head'_iff.1 hbelow
    cases hup

/-- An identity that was switched off is active after it was archived and restored. -/
theorem not_restore_undoes_archive :
    (restoredIdentity false).commits = 2 ∧
      ¬ ∃ restored, (restoredIdentity false).row = some restored ∧
        SameButVersion restored (agentIdentity false) := by
  have hrow : (restoredIdentity false).row = some (agentIdentity true) := by decide
  rw [hrow]
  refine ⟨by decide, ?_⟩
  rintro ⟨restored, hrestored, hsame⟩
  obtain rfl := some.inj hrestored
  cases congrArg Artifact.isActive hsame

end Corgtex.Domain.Archive
