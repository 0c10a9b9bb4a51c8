import Corgtex.Library.JsArray
import Corgtex.Library.JsString
import Corgtex.Library.KeyedTable
import Corgtex.Library.Runs

/-!
# Archive records

`archive.ts`: an archive marks the row of an artifact and adds a record with a
snapshot, a restore takes the mark back and closes the latest record that is open, and a purge
deletes the row and closes it. Each reads the row first and checks the mark there; the update names
the row by its id. `lockWorkspaceArchiveArtifact` puts ten entity types under an advisory lock
before that read, and so makes their calls follow each other. For the others mark and records match
as long as no call is overtaken between its read and its commit (`Unovertaken`).
-/

namespace Corgtex.Domain.Archive

open Function JsArray JsString Option

/-! ## Entity types -/

/-- `ArchiveEntityType` (line 43). -/
inductive ArchiveEntityType
  | Action | AgentIdentity | BrainArticle | BrainSource | Circle | CrmAccount | CrmActivity
  | CrmContact | CrmDeal | DecisionRecord | Document | ExpertiseTag | ExternalDataSource | Goal
  | Meeting | OAuthApp | Proposal | Role | Tension | WebhookEndpoint | WorkspaceToolLink
  | WorkspaceAgentConfig
deriving DecidableEq, Repr

/-- `WORK_ITEM_ARCHIVE_ENTITY_TYPES` (line 158). -/
def workItemArchiveEntityTypes : List ArchiveEntityType := [.Action, .Goal, .Proposal, .Tension]

/-- `CRM_ARCHIVE_ENTITY_TYPES` (line 164). -/
def crmArchiveEntityTypes : List ArchiveEntityType :=
  [.CrmAccount, .CrmActivity, .CrmContact, .CrmDeal]

/-- The types for which `lockWorkspaceArchiveArtifact` takes a lock (line 470). -/
def takesLock (entityType : ArchiveEntityType) : Bool :=
  entityType = .BrainSource || entityType = .DecisionRecord || entityType ∈ crmArchiveEntityTypes ||
    entityType ∈ workItemArchiveEntityTypes

/-- The columns of an artifact that these calls write, `isActive` also under the name `enabled`. A
type without a `version` has none. -/
structure Artifact where
  archivedAt : Option Int
  archivedByUserId : Option JsString
  archiveReason : Option JsString
  version : Option Nat
  isActive : Bool
  status : String
deriving DecidableEq

/-- `archiveData` of the type (`ENTITY_CONFIGS`, line 211). -/
def archiveData (entityType : ArchiveEntityType) (record : Artifact) : Artifact :=
  match entityType with
  | .AgentIdentity | .ExternalDataSource | .OAuthApp | .WorkspaceAgentConfig =>
    { record with isActive := false }
  | .DecisionRecord => { record with version := record.version.map (· + 1) }
  | .WebhookEndpoint => { record with status := "DISABLED" }
  | _ => record

/-- The status of a restored proposal (line 380). -/
def restoredStatus (previousState : Option Artifact) : String :=
  let previousStatus := (previousState.map Artifact.status).getD "DRAFT"
  if previousStatus = "SUBMITTED" ∨ previousStatus = "ADVICE_GATHERING" then "OPEN"
  else if previousStatus = "APPROVED" ∨ previousStatus = "REJECTED" ∨
    previousStatus = "ARCHIVED" then "RESOLVED"
  else previousStatus

/-- `restoreData` of the type. -/
def restoreData (entityType : ArchiveEntityType) (previousState : Option Artifact)
    (record : Artifact) : Artifact :=
  match entityType with
  | .AgentIdentity | .ExternalDataSource | .OAuthApp | .WorkspaceAgentConfig =>
    { record with isActive := true }
  | .DecisionRecord => { record with version := record.version.map (· + 1) }
  | .WebhookEndpoint => { record with status := "ACTIVE" }
  | .Proposal => { record with status := restoredStatus previousState }
  | _ => record

/-! ## Records -/

/-- `WorkspaceArchiveRecord` of the artifact. -/
structure ArchiveRecord where
  id : JsString
  previousState : Option Artifact
  archivedAt : Int
  restoredAt : Option Int
  purgedAt : Option Int
deriving DecidableEq

abbrev ArchiveRecords := KeyedTable ArchiveRecord ArchiveRecord.id

/-- The record is neither restored nor purged. -/
def ArchiveRecord.isActive (record : ArchiveRecord) : Bool :=
  record.restoredAt = none && record.purgedAt = none

def activeRecords (records : ArchiveRecords) : List ArchiveRecord :=
  records.rows.filter ArchiveRecord.isActive

/-- `activeArchiveRecord` (line 582): the latest of the active records. -/
def activeArchiveRecord (records : ArchiveRecords) : Option ArchiveRecord :=
  (sortBy (fun a b => b.archivedAt - a.archivedAt) (activeRecords records)).head?

/-! ## Calls -/

/-- A call of `archiveWorkspaceArtifact`, `restoreWorkspaceArtifact` or `purgeWorkspaceArtifact`,
with what it writes besides the mark. -/
inductive ArchiveOp
  | archive (userId reason : Option JsString) (expectedVersion : Option Nat)
  | restore (expectedVersion : Option Nat)
  | purge
deriving DecidableEq

/-- A call that has read the row: what it has read, whether it has looked for the active record, and
how many calls had committed when it read the row. -/
structure ArchiveCall where
  op : ArchiveOp
  record : Artifact
  found : Option (Option ArchiveRecord)
  readAt : Nat
deriving DecidableEq

/-- The artifact and its records, the calls under way and the one of them that holds the lock; and
how many have committed, and which record is that of the archive that the row is in. -/
structure ArchiveState where
  row : Option Artifact
  records : ArchiveRecords
  calls : Nat → Option ArchiveCall
  holder : Option Nat
  commits : Nat
  archive : Option JsString

/-- A step of a call: the transaction up to the check of the row that it reads, the search of the
active record, the updates with the commit, or an end without them, because a check throws. -/
inductive ArchiveStep
  | read (call : Nat) (op : ArchiveOp)
  | find (call : Nat)
  | commit (call : Nat) (recordId : JsString) (now : Int)
  | abort (call : Nat)

namespace ArchiveState

variable (entityType : ArchiveEntityType) (state : ArchiveState)

/-- The call has the advisory lock, or that of the row: the archive of a `Document` selects it `FOR
UPDATE` (line 795). -/
def locks (op : ArchiveOp) : Bool :=
  takesLock entityType || (entityType = .Document && op matches .archive ..)

/-- The check of the row (lines 775, 956, 1078): an archive of an archived artifact is
done, the others need one. -/
def admits (op : ArchiveOp) (record : Artifact) : Bool :=
  match op with
  | .archive _ _ expectedVersion =>
    expectedVersion.all (record.version = some ·) && record.archivedAt.isNone
  | .restore expectedVersion =>
    record.archivedAt.isSome && expectedVersion.all (record.version = some ·)
  | .purge => record.archivedAt.isSome

section
variable (call : Nat)

def endCall : ArchiveState :=
  { state with
    calls := Function.update state.calls call none
    holder := if state.holder = some call then none else state.holder }

def read (op : ArchiveOp) : ArchiveState :=
  match state.calls call, state.row with
  | none, some record =>
    if admits op record then
      if locks entityType op then
        if state.holder = none then
          { state with
            calls := Function.update state.calls call (some ⟨op, record, none, state.commits⟩)
            holder := some call }
        else state
      else { state with
        calls := Function.update state.calls call (some ⟨op, record, none, state.commits⟩) }
    else state
  | _, _ => state

/-- `activeArchiveRecord`, which a purge needs (lines 971, 1080). -/
def find : ArchiveState :=
  match state.calls call with
  | some c =>
    if c.op = .purge ∧ activeArchiveRecord state.records = none then state.endCall call
    else { state with
      calls := Function.update state.calls call
        (some { c with found := some (activeArchiveRecord state.records) }) }
  | none => state

/-- The updates of an archive (line 822). -/
def commitArchive (c : ArchiveCall) (row : Artifact) (userId reason : Option JsString)
    (recordId : JsString) (now : Int) : ArchiveState :=
  if h : recordId ∈ state.records.rows.map ArchiveRecord.id then state.endCall call
  else { state with
    row := some (archiveData entityType { row with
      archivedAt := some now, archivedByUserId := userId, archiveReason := reason })
    records := state.records.insert ⟨recordId, some c.record, now, none, none⟩ h
    commits := state.commits + 1
    archive := some recordId }.endCall call

/-- The updates of a restore (line 978). -/
def commitRestore (row : Artifact) (found : Option ArchiveRecord) (now : Int) : ArchiveState :=
  { state with
    row := some (restoreData entityType (found.bind ArchiveRecord.previousState) { row with
      archivedAt := none, archivedByUserId := none, archiveReason := none })
    records := match found with
      | some record => state.records.update record.id
          (fun record => { record with restoredAt := some now }) fun _ => rfl
      | none => state.records
    commits := state.commits + 1
    archive := none }.endCall call

/-- The deletion and the update of a purge (line 1099). -/
def commitPurge (record : ArchiveRecord) (now : Int) : ArchiveState :=
  { state with
    row := none
    records := state.records.update record.id
      (fun record => { record with previousState := none, purgedAt := some now }) fun _ => rfl
    commits := state.commits + 1
    archive := none }.endCall call

/-- The updates of a call name the row by its id, and the version where it expects one; they throw
where there is no such row. Those of the others wait for a lock of the row. -/
def commit (recordId : JsString) (now : Int) : ArchiveState :=
  match state.calls call, state.row with
  | some c, some row =>
    if state.holder.any (· ≠ call) then state
    else match c.op, c.found with
    | .archive userId reason expectedVersion, _ =>
      if expectedVersion.all (row.version = some ·) then
        state.commitArchive entityType call c row userId reason recordId now
      else state.endCall call
    | .restore expectedVersion, some found =>
      if expectedVersion.all (row.version = some ·) then
        state.commitRestore entityType call row found now
      else state.endCall call
    | .purge, some (some record) => state.commitPurge call record now
    | _, _ => state
  | some _, none => state.endCall call
  | none, _ => state

end

def apply : ArchiveStep → ArchiveState
  | .read call op => state.read entityType call op
  | .find call => state.find call
  | .commit call recordId now => state.commit entityType call recordId now
  | .abort call => state.endCall call

def run (steps : List ArchiveStep) : ArchiveState :=
  steps.foldl (fun state step => state.apply entityType step) state

/-! ## What matches -/

/-- An archived artifact has one active record, that of its archive, and a live or purged one has
none. -/
def Matches : Prop :=
  match state.row with
  | some row =>
    if row.archivedAt.isSome then
      ∃ record, activeRecords state.records = [record] ∧ state.archive = some record.id
    else activeRecords state.records = []
  | none => activeRecords state.records = []

/-- No call has committed since the call read the row. -/
def Unovertaken : ArchiveStep → Prop
  | .commit call _ _ => ∀ c, state.calls call = some c → c.readAt = state.commits
  | _ => True

/-- A restore that commits uses the record of the archive that it undoes. -/
def RestoresOwn : ArchiveStep → Prop
  | .commit call _ _ => ∀ c row expectedVersion found, state.calls call = some c →
      c.op = .restore expectedVersion → c.found = some found → state.row = some row →
        ∃ record, found = some record ∧ record ∈ activeRecords state.records ∧
          state.archive = some record.id
  | _ => True

/-! ## What a call knows -/

/-- What a call has read is still so as long as none has committed since, and it has been admitted
there. -/
structure Informed : Prop where
  readAt : ∀ call c, state.calls call = some c → c.readAt ≤ state.commits
  row : ∀ call c, state.calls call = some c → c.readAt = state.commits → state.row = some c.record
  admitted : ∀ call c, state.calls call = some c → admits c.op c.record = true
  found : ∀ call c found, state.calls call = some c → c.found = some found →
    c.readAt = state.commits → found = activeArchiveRecord state.records
  purge : ∀ call c, state.calls call = some c → c.op = .purge → c.found ≠ some none

end ArchiveState

section
variable {entityType : ArchiveEntityType} {state : ArchiveState} {records : ArchiveRecords}
  {step : ArchiveStep}

theorem activeArchiveRecord_of_eq_singleton {record : ArchiveRecord}
    (h : activeRecords records = [record]) : activeArchiveRecord records = some record := by
  rw [activeArchiveRecord, h]
  rfl

/-- Closing the only active record leaves none. -/
theorem activeRecords_update {record : ArchiveRecord} (data : ArchiveRecord → ArchiveRecord)
    (hid : ∀ row, (data row).id = row.id) (hclosed : ∀ row, (data row).restoredAt.isSome ∨
      (data row).purgedAt.isSome) (h : activeRecords records = [record]) :
    activeRecords (records.update record.id data hid) = [] := by
  refine List.filter_eq_nil_iff.2 fun row hrow => ?_
  obtain ⟨before, hbefore, rfl⟩ := List.mem_map.1 hrow
  split
  · rcases hclosed before with hrestored | hpurged
    · simp [ArchiveRecord.isActive, isSome_iff_ne_none.1 hrestored]
    · simp [ArchiveRecord.isActive, isSome_iff_ne_none.1 hpurged]
  · next hother =>
    intro hactive
    have hmem : before ∈ activeRecords records := List.mem_filter.2 ⟨hbefore, hactive⟩
    rw [h, List.mem_singleton] at hmem
    exact hother (by simp [hmem])

end

namespace ArchiveState

section
variable {entityType : ArchiveEntityType} {state : ArchiveState} {call other : Nat}
  {c : ArchiveCall} {step : ArchiveStep}

@[simp] theorem endCall_calls :
    (state.endCall call).calls other = if other = call then none else state.calls other :=
  update_apply ..

section
variable (h : state.Informed)
include h

/-- A call that ends leaves what the others know. -/
theorem Informed.endCall : (state.endCall call).Informed := by
  have hcalls : ∀ other c, (state.endCall call).calls other = some c →
      state.calls other = some c := by
    intro other c hc
    rw [endCall_calls] at hc
    split at hc
    · cases hc
    · exact hc
  exact ⟨fun other c hc => h.readAt other c (hcalls other c hc),
    fun other c hc => h.row other c (hcalls other c hc),
    fun other c hc => h.admitted other c (hcalls other c hc),
    fun other c found hc => h.found other c found (hcalls other c hc),
    fun other c hc => h.purge other c (hcalls other c hc)⟩

theorem Informed.overtaken {state' : ArchiveState}
    (hcalls : state'.calls = state.calls) (hcommits : state'.commits = state.commits + 1) :
    state'.Informed := by
  have hstale : ∀ other c, state'.calls other = some c → c.readAt ≠ state'.commits := by
    intro other c hc
    rw [hcalls] at hc
    have := h.readAt other c hc
    omega
  constructor
  · intro other c hc
    rw [hcalls] at hc
    have := h.readAt other c hc
    omega
  · exact fun other c hc hcurrent => absurd hcurrent (hstale other c hc)
  · exact fun other c hc => h.admitted other c (hcalls ▸ hc)
  · exact fun other c found hc _ hcurrent => absurd hcurrent (hstale other c hc)
  · exact fun other c hc => h.purge other c (hcalls ▸ hc)

theorem Informed.enter {op : ArchiveOp} {record : Artifact}
    {holder : Option Nat} (hrow : state.row = some record) (hadmits : admits op record = true) :
    Informed { state with
      calls := Function.update state.calls call (some ⟨op, record, none, state.commits⟩)
      holder := holder } := by
  have hcalls : ∀ other c, update state.calls call
      (some ⟨op, record, none, state.commits⟩) other = some c →
        c = ⟨op, record, none, state.commits⟩ ∨ state.calls other = some c := by
    intro other c hc
    rw [update_apply] at hc
    split at hc
    · exact .inl (some.inj hc).symm
    · exact .inr hc
  constructor
  · intro other c hc
    rcases hcalls other c hc with rfl | hold
    · exact le_rfl
    · exact h.readAt other c hold
  · intro other c hc hcurrent
    rcases hcalls other c hc with rfl | hold
    · exact hrow
    · exact h.row other c hold hcurrent
  · intro other c hc
    rcases hcalls other c hc with rfl | hold
    · exact hadmits
    · exact h.admitted other c hold
  · intro other c found hc hfound hcurrent
    rcases hcalls other c hc with rfl | hold
    · cases hfound
    · exact h.found other c found hold hfound hcurrent
  · intro other c hc hpurge
    rcases hcalls other c hc with rfl | hold
    · simp
    · exact h.purge other c hold hpurge

/-- A call that has just looked for the active record. -/
theorem Informed.find : (state.find call).Informed := by
  rw [ArchiveState.find]
  split
  · next c hc =>
    split
    · exact h.endCall
    · next hfound =>
      have hcalls : ∀ other c', update state.calls call
          (some { c with found := some (activeArchiveRecord state.records) }) other = some c' →
          (other = call ∧ c' = { c with found := some (activeArchiveRecord state.records) }) ∨
            state.calls other = some c' := by
        intro other c' hc'
        rw [update_apply] at hc'
        split at hc'
        · next hsame => exact .inl ⟨hsame, (some.inj hc').symm⟩
        · exact .inr hc'
      constructor
      · intro other c' hc'
        rcases hcalls other c' hc' with ⟨_, rfl⟩ | hold
        · exact h.readAt call c hc
        · exact h.readAt other c' hold
      · intro other c' hc' hcurrent
        rcases hcalls other c' hc' with ⟨_, rfl⟩ | hold
        · exact h.row call c hc hcurrent
        · exact h.row other c' hold hcurrent
      · intro other c' hc'
        rcases hcalls other c' hc' with ⟨_, rfl⟩ | hold
        · exact h.admitted call c hc
        · exact h.admitted other c' hold
      · intro other c' found hc' hsome hcurrent
        rcases hcalls other c' hc' with ⟨_, rfl⟩ | hold
        · exact (some.inj hsome).symm
        · exact h.found other c' found hold hsome hcurrent
      · intro other c' hc' hpurge hnone
        rcases hcalls other c' hc' with ⟨_, rfl⟩ | hold
        · exact hfound ⟨hpurge, some.inj hnone⟩
        · exact h.purge other c' hold hpurge hnone
  · exact h

/-- **What a call knows** after any step. -/
theorem Informed.apply : (state.apply entityType step).Informed := by
  cases step with
  | read call op =>
    rw [ArchiveState.apply, ArchiveState.read]
    split
    · next record _ hrow =>
      split
      · next hadmits =>
        split
        · split
          · exact h.enter hrow hadmits
          · exact h
        · exact h.enter hrow hadmits
      · exact h
    · exact h
  | find call => exact h.find
  | commit call recordId now =>
    rw [ArchiveState.apply, ArchiveState.commit]
    split
    · split
      · exact h
      · split
        · split
          · rw [commitArchive]
            split
            · exact h.endCall
            · exact Informed.endCall (h.overtaken rfl rfl)
          · exact h.endCall
        · split
          · exact Informed.endCall (h.overtaken rfl rfl)
          · exact h.endCall
        · exact Informed.endCall (h.overtaken rfl rfl)
        · exact h
    · exact h.endCall
    · exact h
  | abort call => exact h.endCall

end

/-! ## Matching steps -/

theorem archivedAt_archiveData {record : Artifact} :
    (archiveData entityType record).archivedAt = record.archivedAt := by
  cases entityType <;> rfl

theorem archivedAt_restoreData {record : Artifact} {previousState : Option Artifact} :
    (restoreData entityType previousState record).archivedAt = record.archivedAt := by
  cases entityType <;> rfl

section
variable (h : state.Matches) {row : Artifact} (hrow : state.row = some row)
include h hrow

theorem Matches.archived (harchived : row.archivedAt.isSome) :
    ∃ record, activeRecords state.records = [record] ∧ state.archive = some record.id := by
  rw [Matches, hrow] at h
  dsimp only at h
  rwa [if_pos harchived] at h

theorem Matches.live (hlive : row.archivedAt.isNone) : activeRecords state.records = [] := by
  have hnot : ¬ row.archivedAt.isSome := by simpa using hlive
  rw [Matches, hrow] at h
  dsimp only at h
  rwa [if_neg hnot] at h

end

section
variable (h : state.Matches) (hinformed : state.Informed) (hcurrent : state.Unovertaken step)
include h hinformed hcurrent

/-- **A restore that is not overtaken** undoes the archive whose record it has found. -/
theorem Matches.restoresOwn : state.RestoresOwn step := by
  cases step with
  | commit call recordId now =>
    intro c row expectedVersion found hc hop hfound hrow
    have hreadAt := hcurrent c hc
    have hread : row = c.record := by
      have := hinformed.row call c hc hreadAt
      rw [hrow] at this
      exact some.inj this
    have hadmitted := hinformed.admitted call c hc
    rw [hop, admits, Bool.and_eq_true] at hadmitted
    obtain ⟨record, hactive, harchive⟩ := h.archived hrow (hread ▸ hadmitted.1)
    refine ⟨record, ?_, ?_, harchive⟩
    · rw [hinformed.found call c found hc hfound hreadAt]
      exact activeArchiveRecord_of_eq_singleton hactive
    · rw [hactive]
      exact List.mem_singleton_self record
  | _ => trivial

/-- **A step** that is not overtaken keeps mark and records together. -/
theorem Matches.apply : (state.apply entityType step).Matches := by
  cases step with
  | read call op =>
    rw [ArchiveState.apply, ArchiveState.read]
    split
    · split
      · split
        · split
          · exact h
          · exact h
        · exact h
      · exact h
    · exact h
  | find call =>
    rw [ArchiveState.apply, ArchiveState.find]
    split
    · split
      · exact h
      · exact h
    · exact h
  | abort call => exact h
  | commit call recordId now =>
    have hrestores := h.restoresOwn hinformed hcurrent
    rw [ArchiveState.apply, ArchiveState.commit]
    split
    · next c row hc hrow =>
      have hreadAt := hcurrent c hc
      have hread : c.record = row := by
        have hread := hinformed.row call c hc hreadAt
        rw [hrow] at hread
        exact (some.inj hread).symm
      have hadmitted := hinformed.admitted call c hc
      split
      · exact h
      · split
        · next userId reason expectedVersion hop =>
          split
          · rw [commitArchive]
            split
            · exact h
            · -- the artifact was live, so the new record is the only active one
              rw [hop, admits, Bool.and_eq_true, hread] at hadmitted
              have hnone := h.live hrow hadmitted.2
              show (if _ then _ else _)
              rw [if_pos (by rw [archivedAt_archiveData]; rfl)]
              refine ⟨⟨recordId, some c.record, now, none, none⟩, ?_, rfl⟩
              show List.filter _ (_ ++ [_]) = _
              rw [List.filter_append]
              exact congrArg (· ++ _) hnone
          · exact h
        · next expectedVersion found hop hfound =>
          split
          · obtain ⟨record, rfl, hmem, _⟩ :=
              hrestores c row expectedVersion found hc hop hfound hrow
            rw [hop, admits, Bool.and_eq_true, hread] at hadmitted
            obtain ⟨only, hactive, _⟩ := h.archived hrow hadmitted.1
            rw [hactive, List.mem_singleton] at hmem
            subst hmem
            show (if _ then _ else _)
            rw [if_neg (by rw [archivedAt_restoreData]; simp)]
            exact activeRecords_update (fun record => { record with restoredAt := some now })
              (fun _ => rfl) (fun _ => .inl rfl) hactive
          · exact h
        · next record hop hfound =>
          rw [hop, admits, hread] at hadmitted
          obtain ⟨only, hactive, _⟩ := h.archived hrow hadmitted
          have hsame := hinformed.found call c _ hc hfound hreadAt
          rw [activeArchiveRecord_of_eq_singleton hactive] at hsame
          cases hsame
          exact activeRecords_update
            (fun record => { record with previousState := none, purgedAt := some now })
            (fun _ => rfl) (fun _ => .inr rfl) hactive
        · exact h
    · exact h
    · exact h

end

/-! ## The lock -/

/-- A call under way has the lock, and none has committed since it took it. -/
def Exclusive (state : ArchiveState) : Prop :=
  ∀ call c, state.calls call = some c → state.holder = some call ∧ c.readAt = state.commits

variable (h : state.Exclusive)
include h

theorem Exclusive.endCall : (state.endCall call).Exclusive := by
  intro other c hc
  rw [endCall_calls] at hc
  split at hc
  · cases hc
  · next hother =>
    obtain ⟨hholder, hreadAt⟩ := h other c hc
    refine ⟨?_, hreadAt⟩
    show (if state.holder = some call then none else state.holder) = some other
    rw [if_neg, hholder]
    rw [hholder]
    exact fun hsame => hother (some.inj hsame)

theorem Exclusive.commit (hc : state.calls call = some c)
    {state' : ArchiveState} (hcalls : state'.calls = state.calls) :
    (state'.endCall call).Exclusive := by
  intro other c' hc'
  rw [endCall_calls] at hc'
  split at hc'
  · cases hc'
  · next hother =>
    rw [hcalls] at hc'
    have hsame := (h other c' hc').1.symm.trans (h call c hc).1
    exact absurd (some.inj hsame) hother

/-- **The advisory lock** keeps the calls apart. -/
theorem Exclusive.apply (hlock : takesLock entityType = true) :
    (state.apply entityType step).Exclusive := by
  cases step with
  | read call op =>
    rw [ArchiveState.apply, ArchiveState.read]
    split
    · split
      · have hlocks : locks entityType op = true := by simp [locks, hlock]
        rw [if_pos hlocks]
        split
        · next hfree =>
          intro other c hc
          have hc : update state.calls call _ other = some c := hc
          rw [update_apply] at hc
          split at hc
          · next hsame =>
            cases hc
            exact ⟨congrArg some hsame.symm, rfl⟩
          · have hholder := (h other c hc).1
            rw [hfree] at hholder
            cases hholder
        · exact h
      · exact h
    · exact h
  | find call =>
    rw [ArchiveState.apply, ArchiveState.find]
    split
    · next c hc =>
      split
      · exact h.endCall
      · intro other c' hc'
        have hc' : update state.calls call _ other = some c' := hc'
        rw [update_apply] at hc'
        split at hc'
        · next hsame =>
          cases hc'
          exact hsame ▸ h call c hc
        · exact h other c' hc'
    · exact h
  | abort call => exact h.endCall
  | commit call recordId now =>
    rw [ArchiveState.apply, ArchiveState.commit]
    split
    · next c row hc hrow =>
      split
      · exact h
      · split
        · split
          · rw [commitArchive]
            split
            · exact h.endCall
            · exact h.commit hc rfl
          · exact h.endCall
        · split
          · exact h.commit hc rfl
          · exact h.endCall
        · exact h.commit hc rfl
        · exact h
    · exact h.endCall
    · exact h

theorem Exclusive.unovertaken : state.Unovertaken step := by
  cases step with
  | commit call recordId now => exact fun c hc => (h call c hc).2
  | _ => trivial

end

/-- No call is under way, and mark and records match. -/
structure Fresh (state : ArchiveState) : Prop where
  calls : ∀ call, state.calls call = none
  matched : state.Matches

theorem Fresh.informed {state : ArchiveState} (h : state.Fresh) : state.Informed := by
  constructor <;>
  · intro call c
    simp [h.calls call]

theorem Fresh.exclusive {state : ArchiveState} (h : state.Fresh) : state.Exclusive := by
  intro call c hc
  rw [h.calls] at hc
  cases hc

theorem exclusive_run {entityType : ArchiveEntityType} {state : ArchiveState}
    (h : state.Exclusive) (hlock : takesLock entityType = true) (steps : List ArchiveStep) :
    (state.run entityType steps).Exclusive := by
  induction steps generalizing state with
  | nil => exact h
  | cons step rest ih => exact ih (h.apply hlock)

end ArchiveState

/-- **Archive records match archive marks** in every run of a type that takes the lock, and of any
other type in every run in which no call is overtaken; a restore there undoes the archive whose
record it uses. -/
theorem archive_records_match (entityType : ArchiveEntityType) (state : ArchiveState)
    (hfresh : state.Fresh) (steps : List ArchiveStep)
    (hcurrent : takesLock entityType = true ∨ ∀ done step, done ++ [step] <+: steps →
      (state.run entityType done).Unovertaken step) :
    (∀ done, done <+: steps → (state.run entityType done).Matches) ∧
    ∀ done step, done ++ [step] <+: steps → (state.run entityType done).RestoresOwn step := by
  have hcurrent : ∀ done step, done ++ [step] <+: steps →
      (state.run entityType done).Unovertaken step := by
    rcases hcurrent with hlock | hcurrent
    · exact fun done step _ => (ArchiveState.exclusive_run hfresh.exclusive hlock done).unovertaken
    · exact hcurrent
  have hrun := List.forall_prefix_foldl (I := fun state => state.Informed ∧ state.Matches)
    ⟨hfresh.informed, hfresh.matched⟩
    (fun _ _ h hcurrent => ⟨h.1.apply, h.2.apply h.1 hcurrent⟩) hcurrent
  refine ⟨fun done hpre => (hrun done hpre).2, fun done step hpre => ?_⟩
  obtain ⟨hinformed, hmatches⟩ := hrun done ((List.prefix_append ..).trans hpre)
  exact hmatches.restoresOwn hinformed (hcurrent done step hpre)

/-! ## A type without a lock -/

def liveArtifact : ArchiveState where
  row := some ⟨none, none, none, none, true, ""⟩
  records := .empty
  calls _ := none
  holder := none
  commits := 0
  archive := none

/-- Two archives that both read the artifact before either commits. -/
def twoArchives : List ArchiveStep :=
  [.read 0 (.archive none none none), .read 1 (.archive none none none),
    .commit 0 (lit "r1") 1, .commit 1 (lit "r2") 2]

def restoreCall (call : Nat) (now : Int) : List ArchiveStep :=
  [.read call (.restore none), .find call, .commit call [] now]

/-- A restore finds its record, and another restore and an archive overtake it. -/
def overtakenRestore : List ArchiveStep :=
  [.read 0 (.archive none none none), .commit 0 (lit "r1") 1, .read 0 (.restore none), .find 0] ++
    restoreCall 1 2 ++ [.read 1 (.archive none none none), .commit 1 (lit "r2") 3]

theorem fresh_liveArtifact : liveArtifact.Fresh := ⟨fun _ => rfl, rfl⟩

/-- **An action is archived once** by two calls at a time. -/
theorem archive_records_match_action :
    (∀ done, done <+: twoArchives → (liveArtifact.run .Action done).Matches) ∧
    ∀ done step, done ++ [step] <+: twoArchives →
      (liveArtifact.run .Action done).RestoresOwn step :=
  archive_records_match .Action liveArtifact fresh_liveArtifact twoArchives (.inl rfl)

/-- **An expertise tag is archived twice** by two calls at a time, so that it keeps an active record
when it is restored; and a restore that is overtaken undoes an archive with the snapshot of another.
-/
theorem not_archive_records_match :
    (activeRecords (liveArtifact.run .ExpertiseTag twoArchives).records).map ArchiveRecord.id =
      [lit "r1", lit "r2"] ∧
    ((liveArtifact.run .ExpertiseTag (twoArchives ++ restoreCall 2 3)).row.map
        Artifact.archivedAt = some none ∧
      (activeRecords (liveArtifact.run .ExpertiseTag
        (twoArchives ++ restoreCall 2 3)).records).map ArchiveRecord.id = [lit "r1"]) ∧
    ¬ (liveArtifact.run .ExpertiseTag (twoArchives ++ restoreCall 2 3)).Matches ∧
    ¬ (liveArtifact.run .ExpertiseTag overtakenRestore).RestoresOwn (.commit 0 [] 4) := by
  have hids : (activeRecords (liveArtifact.run .ExpertiseTag
      (twoArchives ++ restoreCall 2 3)).records).map ArchiveRecord.id = [lit "r1"] := by
    decide +kernel
  have hlive : (liveArtifact.run .ExpertiseTag (twoArchives ++ restoreCall 2 3)).row =
      some ⟨none, none, none, none, true, ""⟩ := by decide +kernel
  refine ⟨by decide +kernel, ⟨by decide +kernel, hids⟩, fun hmatches => ?_, fun hrestores => ?_⟩
  · rw [hmatches.live hlive rfl] at hids
    cases hids
  · have hfound : (liveArtifact.run .ExpertiseTag overtakenRestore).calls 0 =
        some ⟨.restore none, ⟨some 1, none, none, none, true, ""⟩,
          some (some ⟨lit "r1", some ⟨none, none, none, none, true, ""⟩, 1, none, none⟩), 1⟩ := by
      decide +kernel
    have hrow : (liveArtifact.run .ExpertiseTag overtakenRestore).row =
        some ⟨some 3, none, none, none, true, ""⟩ := by decide +kernel
    have harchive : (liveArtifact.run .ExpertiseTag overtakenRestore).archive =
        some (lit "r2") := by decide +kernel
    obtain ⟨record, hrecord, _, hsame⟩ := hrestores _ _ none _ hfound rfl rfl hrow
    cases hrecord
    rw [harchive] at hsame
    exact absurd hsame (by decide +kernel)

end Corgtex.Domain.Archive
