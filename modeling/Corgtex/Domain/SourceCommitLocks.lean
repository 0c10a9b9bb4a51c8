import Corgtex.Library.JsonText
import Corgtex.Library.KeyedTable
import Corgtex.Library.OrderedLocks
import Corgtex.Library.StringOrder

/-!
# Source commit lock plans

`source-commit-lock-plan.ts`: before a commit, discovery walks the sources and asks for the rows it
meets (`addRow`), more than once and in different modes. A plan has each lock once.
`prepareSourceCommitOwnerAttestation` takes the advisory locks of a plan and
`withSourceCommitLockPlan` its row locks; the owner's and the commit's own statements are callbacks.
The saved epochs that are locked last are only ever shared by plans.

The maps of discovery keep for each lock the strongest mode that was asked for (`Strongest`), and
the sorted values are the locks in the order they are taken.
-/

namespace Corgtex.Domain

open JsArray JsString KeyedTable List OrderedLocks

/-! ## Discovery -/

/-- `SourceAuthorityRow` (`source-authority-edges.ts:14`). -/
structure SourceAuthorityRow where
  table : JsString
  id : JsString
  mode : Option LockMode

structure PhysicalLock where
  table : JsString
  id : JsString
  mode : LockMode

/-- An advisory lock of a plan. -/
structure AdvisoryLock where
  key : JsString
  mode : LockMode

/-- `ARCHIVE_TABLES` (line 57). -/
def ARCHIVE_TABLES : List JsString :=
  ["BrainSource", "Document", "BrainArticle", "Meeting", "Action", "Tension", "Proposal", "Goal",
    "Circle", "Role", "AgentIdentity", "CrmAccount", "CrmActivity", "CrmContact", "CrmDeal",
    "WorkspaceToolLink"].map lit

/-- `rowKey` (line 71), `JSON.stringify([row.table, row.id])`. -/
def rowKey (table id : JsString) : JsString :=
  Json.stringify (fun _ : Nat => []) (.array [.string table, .string id])

/-- `phase` (line 134). -/
def phase (table : JsString) : Int :=
  if (["CommunicationMessageNativeInput", "ExternalMcpResponseInput", "ExternalProviderFetchInput",
      "NativeTranscriptInput", "FinanceReportUploadInput"].map lit).contains table then 0
  else if (["WorkflowJob", "AgentRun"].map lit).contains table then 1
  else if table = lit "BrainSource" then 3
  else if table = lit "Document" then 4
  else if table = lit "BrainArticle" then 6
  else 5

/-- `source-head:…`, the head of a row in a workspace. -/
def sourceHeadKey (workspaceId table id : JsString) : JsString :=
  lit "source-head:" ++ (workspaceId ++ (lit ":" ++ rowKey table id))

/-- `workspace_archive:…`, the key of the archive writers. -/
def archiveKey (table id : JsString) : JsString :=
  lit "workspace_archive:" ++ (table ++ (lit ":" ++ id))

/-- The locks that discovery has collected: `physical` and `advisory`. -/
structure LockCollection where
  physical : KeyedTable PhysicalLock fun lock => rowKey lock.table lock.id
  advisory : KeyedTable AdvisoryLock AdvisoryLock.key

/-- What a discovery is about: the workspace, the rows it will write, and the rows that are asked
for, each with the mode of the call. -/
structure PlanRequests where
  workspaceId : JsString
  targetRows : List JsString
  rows : List (SourceAuthorityRow × LockMode)

namespace PlanRequests

variable (plan : PlanRequests)

/-- `targetRows.has(rowKey(row))`. -/
def isTarget (row : SourceAuthorityRow) : Bool := plan.targetRows.contains (rowKey row.table row.id)

/-- The mode of an advisory lock of a row. -/
def advisoryMode (row : SourceAuthorityRow) : LockMode :=
  if plan.isTarget row then .UPDATE else .SHARE

/-- `addRow` (line 198). -/
def addRow (locks : LockCollection) (request : SourceAuthorityRow × LockMode) : LockCollection :=
  let (row, mode) := request
  let old := locks.physical.find? (rowKey row.table row.id)
  let strongest : LockMode :=
    if mode = .UPDATE || row.mode = some .UPDATE || old.any (fun old => old.mode = .UPDATE) ||
      plan.isTarget row then .UPDATE else .SHARE
  let head := locks.advisory.set
    ⟨sourceHeadKey plan.workspaceId row.table row.id, plan.advisoryMode row⟩
  { physical := locks.physical.set ⟨row.table, row.id, strongest⟩
    advisory := if ARCHIVE_TABLES.contains row.table then
        head.set ⟨archiveKey row.table row.id, plan.advisoryMode row⟩
      else head }

/-- The collection after all the rows have been asked for. -/
def collected : LockCollection := plan.rows.foldl plan.addRow ⟨.empty, .empty⟩

/-- The order of rows (line 446). -/
def compareRows (a b : PhysicalLock) : Int :=
  orElse (phase a.table - phase b.table) (orElse (threeWay a.table b.table) (threeWay a.id b.id))

/-- `discovered.rows`. -/
def rowLocks : List PhysicalLock := sortBy compareRows plan.collected.physical.rows

/-- `discovered.advisories` (line 447). -/
def advisoryLocks : List AdvisoryLock :=
  sortBy (fun a b => threeWay a.key b.key) plan.collected.advisory.rows

end PlanRequests

/-! ## Acquisition -/

/-- A lock of a plan: an advisory lock by its key, or a row. -/
inductive SourceLock
  | advisory (key : JsString)
  | row (table id : JsString)
deriving DecidableEq

def AdvisoryLock.request (lock : AdvisoryLock) : Request SourceLock :=
  ⟨.advisory lock.key, lock.mode⟩

def PhysicalLock.request (lock : PhysicalLock) : Request SourceLock :=
  ⟨.row lock.table lock.id, lock.mode⟩

/-- The locks that a plan takes, in order: the reservation of the heads (line 555), and the rows
(line 615). -/
def PlanRequests.acquisitions (plan : PlanRequests) : List (Request SourceLock) :=
  plan.advisoryLocks.map AdvisoryLock.request ++ plan.rowLocks.map PhysicalLock.request

/-- The lock of the database: of an advisory key the 64-bit hash. -/
inductive DatabaseLock
  | advisory (hash : UInt64)
  | row (table id : JsString)

/-- `hashtextextended(key, 0)` names the advisory lock. -/
def SourceLock.inDatabase (hashtextextended : JsString → UInt64) : SourceLock → DatabaseLock
  | advisory key => .advisory (hashtextextended key)
  | row table id => .row table id

/-- The order in which locks are taken: advisory locks by key, then rows by phase, table and id. -/
def SourceLock.Before : SourceLock → SourceLock → Prop
  | advisory key, advisory key' => threeWay key key' < 0
  | advisory _, row _ _ => True
  | row _ _, advisory _ => False
  | row table id, row table' id' =>
    PlanRequests.compareRows ⟨table, id, .SHARE⟩ ⟨table', id', .SHARE⟩ < 0

/-! ## What was asked for -/

namespace PlanRequests

variable (plan : PlanRequests)

/-- The row lock that a call asks for; a row that will be written is asked for in the stronger
mode. -/
def rowRequest (request : SourceAuthorityRow × LockMode) : Request SourceLock :=
  ⟨.row request.1.table request.1.id,
    if request.2 = .UPDATE || request.1.mode = some .UPDATE || plan.isTarget request.1 then .UPDATE
    else .SHARE⟩

/-- The advisory locks that a call asks for. -/
def advisoryRequests (request : SourceAuthorityRow × LockMode) : List (Request SourceLock) :=
  ⟨.advisory (sourceHeadKey plan.workspaceId request.1.table request.1.id),
    plan.advisoryMode request.1⟩ ::
  if ARCHIVE_TABLES.contains request.1.table then
    [⟨.advisory (archiveKey request.1.table request.1.id), plan.advisoryMode request.1⟩]
  else []

/-- All the locks that discovery asks for. -/
def requested : List (Request SourceLock) :=
  plan.rows.map plan.rowRequest ++ plan.rows.flatMap plan.advisoryRequests

end PlanRequests

/-! ## The strongest mode -/

/-- A map has each requested lock, in the strongest mode that was asked for. -/
structure Strongest {α κ : Type*} {key : α → κ} (request : α → Request SourceLock)
    (table : KeyedTable α key) (requested : List (Request SourceLock)) : Prop where
  asked : ∀ a ∈ table.rows, request a ∈ requested
  strongest : ∀ a ∈ table.rows, ∀ r ∈ requested, r.key = (request a).key → r.mode ≤ (request a).mode
  complete : ∀ r ∈ requested, ∃ a ∈ table.rows, (request a).key = r.key

theorem Strongest.empty {α κ : Type*} {key : α → κ} {request : α → Request SourceLock} :
    Strongest request (.empty : KeyedTable α key) [] :=
  ⟨by simp [KeyedTable.empty], by simp, by simp⟩

section
variable {α κ : Type*} [DecidableEq κ] {key : α → κ} {request : α → Request SourceLock}
  {table : KeyedTable α key} {requested : List (Request SourceLock)}

/-- A lock is asked for once more, and the map keeps the stronger of the two modes. -/
theorem Strongest.set (h : Strongest request table requested)
    (hkey : ∀ a b, key a = key b ↔ (request a).key = (request b).key) {a : α}
    {r : Request SourceLock} (hr : r.key = (request a).key) (hle : r.mode ≤ (request a).mode)
    (hasked : request a ∈ requested ++ [r])
    (hold : ∀ old, table.find? (key a) = some old → (request old).mode ≤ (request a).mode) :
    Strongest request (table.set a) (requested ++ [r]) := by
  have hmem : ∀ b, b ∈ (table.set a).rows ↔ b = a ∨ (b ∈ table.rows ∧ key b ≠ key a) := by
    intro b
    have hfind : b ∈ (table.set a).rows ↔ (table.set a).find? (key b) = some b := by
      rw [find?_eq_some]
      exact (and_iff_left rfl).symm
    rw [hfind, find?_set]
    split
    · next hsame =>
      rw [Option.some_inj, eq_comm]
      exact (or_iff_left fun hne => hne.2 hsame).symm
    · next hne =>
      rw [find?_eq_some, and_iff_left rfl]
      constructor
      · exact fun hb => .inr ⟨hb, hne⟩
      · rintro (rfl | hb)
        · exact absurd rfl hne
        · exact hb.1
  constructor
  · intro b hb
    rcases (hmem b).1 hb with rfl | ⟨hb, -⟩
    · exact hasked
    · exact mem_append_left _ (h.asked b hb)
  · intro b hb s hs hsame
    rcases (hmem b).1 hb with rfl | ⟨hb, hne⟩
    · rcases mem_append.1 hs with hs | hs
      · obtain ⟨old, hold', hkeys⟩ := h.complete s hs
        have hfound : table.find? (key b) = some old := by
          rw [← (hkey old b).2 (hkeys.trans hsame)]
          exact find?_key hold'
        have hsold := h.strongest old hold' s hs hkeys.symm
        have holdle := hold old hfound
        rcases hsold with hshare | hupdate
        · exact .inl hshare
        · rcases holdle with hshare | hstronger
          · rw [hshare] at hupdate
            cases hupdate
          · exact .inr hstronger
      · rw [mem_singleton.1 hs]
        exact hle
    · rcases mem_append.1 hs with hs | hs
      · exact h.strongest b hb s hs hsame
      · rw [mem_singleton.1 hs] at hsame
        exact absurd ((hkey b a).2 (hsame.symm.trans hr)) hne
  · intro s hs
    rcases mem_append.1 hs with hs | hs
    · obtain ⟨b, hb, hkeys⟩ := h.complete s hs
      by_cases hsame : key b = key a
      · exact ⟨a, (hmem a).2 (.inl rfl), ((hkey b a).1 hsame).symm.trans hkeys⟩
      · exact ⟨b, (hmem b).2 (.inr ⟨hb, hsame⟩), hkeys⟩
    · exact ⟨a, (hmem a).2 (.inl rfl), by rw [mem_singleton.1 hs, hr]⟩

end

/-! ## Keys -/

theorem rowKey_inj {table id table' id' : JsString} :
    rowKey table id = rowKey table' id' ↔ table = table' ∧ id = id' := Json.stringify_pair_inj

theorem sourceHeadKey_inj {workspaceId table id table' id' : JsString} :
    sourceHeadKey workspaceId table id = sourceHeadKey workspaceId table' id' ↔
      table = table' ∧ id = id' := by
  simp only [sourceHeadKey, append_cancel_left_eq, rowKey_inj]

theorem sourceHeadKey_ne_archiveKey {workspaceId table id table' id' : JsString} :
    sourceHeadKey workspaceId table id ≠ archiveKey table' id' := by
  intro h
  have hhead : (sourceHeadKey workspaceId table id).head? = some 0x73 := rfl
  have harchive : (archiveKey table' id').head? = some 0x77 := rfl
  rw [h, harchive] at hhead
  exact absurd hhead (by decide)

/-- The name of an archived table has no colon, so its end is found in the key. -/
theorem archiveKey_inj {table id table' id' : JsString} (h : ARCHIVE_TABLES.contains table = true)
    (h' : ARCHIVE_TABLES.contains table' = true) :
    archiveKey table id = archiveKey table' id' ↔ table = table' ∧ id = id' := by
  have hcolon : ∀ name ∈ ARCHIVE_TABLES, (0x3A : UInt16) ∉ name := by decide +kernel
  have htable := hcolon table (contains_iff_mem.1 h)
  have htable' := hcolon table' (contains_iff_mem.1 h')
  constructor
  · intro heq
    have htail : table ++ 0x3A :: id = table' ++ 0x3A :: id' := append_cancel_left heq
    have hparts := congrArg (split 0x3A) htail
    rw [split_append htable, split_append htable'] at hparts
    obtain rfl := (cons.inj hparts).1
    exact ⟨rfl, (cons.inj (append_cancel_left htail)).2⟩
  · rintro ⟨rfl, rfl⟩
    rfl

namespace PlanRequests

variable {plan : PlanRequests}

/-! ## What a plan has -/

theorem mem_advisoryRequests {request : SourceAuthorityRow × LockMode} {r : Request SourceLock} :
    r ∈ plan.advisoryRequests request ↔ r.mode = plan.advisoryMode request.1 ∧
      (r.key = .advisory (sourceHeadKey plan.workspaceId request.1.table request.1.id) ∨
        ARCHIVE_TABLES.contains request.1.table = true ∧
          r.key = .advisory (archiveKey request.1.table request.1.id)) := by
  obtain ⟨key, mode⟩ := r
  simp only [advisoryRequests, mem_cons, Request.mk.injEq]
  split
  · next h => simp only [mem_singleton, Request.mk.injEq, h, true_and]; tauto
  · next h => simp only [not_mem_nil, h]; tauto

theorem advisoryRequests_mode {request request' : SourceAuthorityRow × LockMode}
    {r r' : Request SourceLock} (h : r ∈ plan.advisoryRequests request)
    (h' : r' ∈ plan.advisoryRequests request') (hkey : r.key = r'.key) : r.mode = r'.mode := by
  obtain ⟨hmode, hname⟩ := mem_advisoryRequests.1 h
  obtain ⟨hmode', hname'⟩ := mem_advisoryRequests.1 h'
  have hsame : request.1.table = request'.1.table ∧ request.1.id = request'.1.id := by
    rcases hname with hname | ⟨harchive, hname⟩ <;>
      rcases hname' with hname' | ⟨harchive', hname'⟩ <;>
      rw [hname, hname', SourceLock.advisory.injEq] at hkey
    · exact sourceHeadKey_inj.1 hkey
    · exact absurd hkey sourceHeadKey_ne_archiveKey
    · exact absurd hkey.symm sourceHeadKey_ne_archiveKey
    · exact (archiveKey_inj harchive harchive').1 hkey
  rw [hmode, hmode', advisoryMode, advisoryMode, isTarget, isTarget, hsame.1, hsame.2]

/-- One more row is asked for. -/
theorem strongest_physical_addRow {locks : LockCollection} {requested : List (Request SourceLock)}
    (h : Strongest PhysicalLock.request locks.physical requested)
    (request : SourceAuthorityRow × LockMode) :
    Strongest PhysicalLock.request (plan.addRow locks request).physical
      (requested ++ [plan.rowRequest request]) := by
  obtain ⟨row, mode⟩ := request
  have hkey : ∀ a b : PhysicalLock, rowKey a.table a.id = rowKey b.table b.id ↔
      a.request.key = b.request.key := by
    intro a b
    rw [rowKey_inj, PhysicalLock.request, PhysicalLock.request, SourceLock.row.injEq]
  refine h.set hkey rfl ?_ ?_ ?_
  · simp only [rowRequest, PhysicalLock.request]
    split
    · next hasked =>
      rw [if_pos]
      · exact LockMode.le_refl _
      · simp only [Bool.or_eq_true, decide_eq_true_eq] at hasked ⊢
        tauto
    · exact LockMode.SHARE_le _
  · by_cases hasked : (decide (mode = .UPDATE) || decide (row.mode = some .UPDATE) ||
        plan.isTarget row) = true
    · refine mem_append_right _ (mem_singleton.2 ?_)
      simp only [rowRequest, PhysicalLock.request, hasked, if_true]
      rw [if_pos]
      simp only [Bool.or_eq_true, decide_eq_true_eq] at hasked ⊢
      tauto
    · cases hfound : locks.physical.find? (rowKey row.table row.id) with
      | none =>
        refine mem_append_right _ (mem_singleton.2 ?_)
        simp only [rowRequest, PhysicalLock.request, Option.any_none, Bool.or_false]
      | some old =>
        -- the mode is that of the lock that is there
        obtain ⟨hold, hsame⟩ := find?_eq_some.1 hfound
        obtain ⟨htable, hid⟩ := rowKey_inj.1 hsame
        simp only [Bool.or_eq_true, not_or, Bool.not_eq_true] at hasked
        cases hmode : old.mode with
        | UPDATE =>
          refine mem_append_left _ ?_
          have holdAsked := h.asked old hold
          simp only [PhysicalLock.request, htable, hid, hmode] at holdAsked
          simpa [PhysicalLock.request, hmode] using holdAsked
        | SHARE =>
          refine mem_append_right _ (mem_singleton.2 ?_)
          simp [rowRequest, PhysicalLock.request, hasked, hmode]
  · intro old hold
    simp only [PhysicalLock.request, hold]
    cases hmode : old.mode with
    | SHARE => exact LockMode.SHARE_le _
    | UPDATE => simp [hmode]

theorem strongest_advisory_set {table : KeyedTable AdvisoryLock AdvisoryLock.key}
    {requested : List (Request SourceLock)} (h : Strongest AdvisoryLock.request table requested)
    {lock : AdvisoryLock} (hmode : ∀ r ∈ requested, r.key = lock.request.key → r.mode = lock.mode) :
    Strongest AdvisoryLock.request (table.set lock) (requested ++ [lock.request]) := by
  have hkey : ∀ a b : AdvisoryLock, a.key = b.key ↔ a.request.key = b.request.key := by
    intro a b
    rw [AdvisoryLock.request, AdvisoryLock.request, SourceLock.advisory.injEq]
  refine h.set hkey rfl (LockMode.le_refl _) (mem_append_right _ (.head _)) fun old hold => ?_
  obtain ⟨hmem, hsame⟩ := find?_eq_some.1 hold
  have holdMode := hmode old.request (h.asked old hmem) ((hkey old lock).1 hsame)
  show old.mode ≤ lock.mode
  exact (show old.mode = lock.mode from holdMode) ▸ LockMode.le_refl _

theorem strongest_advisory_addRow {locks : LockCollection}
    {rows : List (SourceAuthorityRow × LockMode)}
    (h : Strongest AdvisoryLock.request locks.advisory (rows.flatMap plan.advisoryRequests))
    (request : SourceAuthorityRow × LockMode) :
    Strongest AdvisoryLock.request (plan.addRow locks request).advisory
      (rows.flatMap plan.advisoryRequests ++ plan.advisoryRequests request) := by
  have hbefore : ∀ r ∈ rows.flatMap plan.advisoryRequests, ∀ r' ∈ plan.advisoryRequests request,
      r.key = r'.key → r.mode = r'.mode := by
    intro r hr r' hr' hkey
    obtain ⟨other, -, hother⟩ := mem_flatMap.1 hr
    exact advisoryRequests_mode hother hr' hkey
  let lock : AdvisoryLock :=
    ⟨sourceHeadKey plan.workspaceId request.1.table request.1.id, plan.advisoryMode request.1⟩
  have hhead := @strongest_advisory_set _ _ h lock fun r hr => hbefore r hr _ (.head _)
  simp only [addRow, advisoryRequests]
  split
  · next harchive =>
    have hlast : (⟨.advisory (archiveKey request.1.table request.1.id),
        plan.advisoryMode request.1⟩ : Request SourceLock) ∈ plan.advisoryRequests request :=
      mem_advisoryRequests.2 ⟨rfl, .inr ⟨harchive, rfl⟩⟩
    rw [append_cons]
    refine strongest_advisory_set hhead fun r hr hkey => ?_
    rcases mem_append.1 hr with hr | hr
    · exact hbefore r hr _ hlast hkey
    · rw [mem_singleton.1 hr]
      rfl
  · exact hhead

/-- The maps of a discovery have every lock that was asked for, in the strongest mode. -/
theorem strongest_collected :
    Strongest PhysicalLock.request plan.collected.physical (plan.rows.map plan.rowRequest) ∧
      Strongest AdvisoryLock.request plan.collected.advisory
        (plan.rows.flatMap plan.advisoryRequests) := by
  unfold collected
  induction plan.rows using reverseRecOn with
  | nil => exact ⟨.empty, .empty⟩
  | append_singleton rows request ih =>
    rw [foldl_append, map_append, flatMap_append]
    refine ⟨strongest_physical_addRow ih.1 request, ?_⟩
    rw [flatMap_singleton]
    exact strongest_advisory_addRow ih.2 request

/-- **Every lock is taken in the strongest mode that was asked for**, and no others are taken. -/
theorem acquisitions_strongest :
    (∀ r ∈ plan.acquisitions, r ∈ plan.requested ∧
      ∀ r' ∈ plan.requested, r'.key = r.key → r'.mode ≤ r.mode) ∧
    ∀ r ∈ plan.requested, ∃ r' ∈ plan.acquisitions, r'.key = r.key := by
  obtain ⟨hphysical, hadvisory⟩ := plan.strongest_collected
  have hrowKey : ∀ r ∈ plan.rows.map plan.rowRequest, ∀ key, r.key ≠ .advisory key := by
    intro r hr key hkey
    obtain ⟨request, -, rfl⟩ := mem_map.1 hr
    cases hkey
  have hadvisoryKey : ∀ r ∈ plan.rows.flatMap plan.advisoryRequests, ∀ table id,
      r.key ≠ .row table id := by
    intro r hr table id hkey
    obtain ⟨request, -, hr⟩ := mem_flatMap.1 hr
    rcases (mem_advisoryRequests.1 hr).2 with hname | ⟨-, hname⟩ <;> rw [hname] at hkey <;>
      cases hkey
  constructor
  · intro r hr
    rcases mem_append.1 hr with hr | hr
    · obtain ⟨lock, hlock, rfl⟩ := mem_map.1 hr
      have hmem := mem_sortBy.1 hlock
      refine ⟨mem_append_right _ (hadvisory.asked lock hmem), fun r' hr' hkey => ?_⟩
      rcases mem_append.1 hr' with hr' | hr'
      · exact absurd hkey (hrowKey r' hr' _)
      · exact hadvisory.strongest lock hmem r' hr' hkey
    · obtain ⟨lock, hlock, rfl⟩ := mem_map.1 hr
      have hmem := mem_sortBy.1 hlock
      refine ⟨mem_append_left _ (hphysical.asked lock hmem), fun r' hr' hkey => ?_⟩
      rcases mem_append.1 hr' with hr' | hr'
      · exact hphysical.strongest lock hmem r' hr' hkey
      · exact absurd hkey (hadvisoryKey r' hr' _ _)
  · intro r hr
    rcases mem_append.1 hr with hr | hr
    · obtain ⟨lock, hlock, hkey⟩ := hphysical.complete r hr
      exact ⟨lock.request, mem_append_right _ (mem_map_of_mem (mem_sortBy.2 hlock)), hkey⟩
    · obtain ⟨lock, hlock, hkey⟩ := hadvisory.complete r hr
      exact ⟨lock.request, mem_append_left _ (mem_map_of_mem (mem_sortBy.2 hlock)), hkey⟩

/-! ## The order -/

theorem comparator_compareRows : Comparator compareRows :=
  (Comparator.descending fun lock : PhysicalLock => phase lock.table).flip.orElse
    ((comparator_threeWay.on PhysicalLock.table).orElse (comparator_threeWay.on PhysicalLock.id))

theorem eq_of_compareRows {a b : PhysicalLock} (h : compareRows a b = 0) :
    a.table = b.table ∧ a.id = b.id := by
  unfold compareRows orElse at h
  split at h
  · next hne => exact absurd h hne
  · split at h
    · next hne => exact absurd h hne
    · next heq => exact ⟨threeWay_eq_zero.1 (not_not.1 heq), threeWay_eq_zero.1 h⟩

end PlanRequests

open PlanRequests

instance : IsTrans SourceLock SourceLock.Before := by
  constructor
  intro a b c hab hbc
  cases a <;> cases b <;> cases c <;> simp only [SourceLock.Before] at hab hbc ⊢
  · exact comparator_threeWay.lt_trans hab hbc
  · exact comparator_compareRows.lt_trans hab hbc

instance : Std.Irrefl SourceLock.Before := by
  constructor
  intro a h
  cases a with
  | advisory key => exact absurd h (by simp [SourceLock.Before, comparator_threeWay.self])
  | row table id => exact absurd h (by simp [SourceLock.Before, comparator_compareRows.self])

/-- **The locks of a plan are taken in strictly increasing order**, so each of them once. -/
theorem acquisitions_ordered (plan : PlanRequests) :
    plan.acquisitions.Pairwise fun a b => a.key.Before b.key := by
  have hadvisory : plan.advisoryLocks.Pairwise fun a b => threeWay a.key b.key < 0 := by
    refine pairwise_lt_sortBy (comparator_threeWay.on AdvisoryLock.key) ?_
    exact (pairwise_map.1 plan.collected.advisory.nodup).imp fun hne hzero =>
      hne (threeWay_eq_zero.1 hzero)
  have hrows : plan.rowLocks.Pairwise fun a b => compareRows a b < 0 := by
    refine pairwise_lt_sortBy comparator_compareRows ?_
    exact (pairwise_map.1 plan.collected.physical.nodup).imp fun hne hzero =>
      hne (rowKey_inj.2 (eq_of_compareRows hzero))
  refine pairwise_append.2 ⟨pairwise_map.2 hadvisory, pairwise_map.2 hrows, ?_⟩
  intro a ha b hb
  obtain ⟨advisory, -, rfl⟩ := mem_map.1 ha
  obtain ⟨row, -, rfl⟩ := mem_map.1 hb
  trivial

/-! ## Concurrent plans -/

/-- **Concurrent plans never wait for each other in a cycle.** Every plan takes its advisory locks
in strictly increasing order of their keys and then its row locks in strictly increasing order, each
in the strongest mode that was asked for; in every state that the plans can come to, no plans wait
in a cycle for locks that the others hold. `hashtextextended` takes the different advisory keys of
the plans to different locks. -/
theorem withSourceCommitLockPlan_no_deadlock {ι : Type} [DecidableEq ι] (plans : ι → PlanRequests)
    (hashtextextended : JsString → UInt64)
    (hcollision : ∀ i j, ∀ a ∈ (plans i).advisoryLocks, ∀ b ∈ (plans j).advisoryLocks,
      hashtextextended a.key = hashtextextended b.key → a.key = b.key) :
    (∀ i, ((plans i).acquisitions.Pairwise fun a b => a.key.Before b.key) ∧
      (∀ r ∈ (plans i).acquisitions, r ∈ (plans i).requested ∧
        ∀ r' ∈ (plans i).requested, r'.key = r.key → r'.mode ≤ r.mode) ∧
      ∀ r ∈ (plans i).requested, ∃ r' ∈ (plans i).acquisitions, r'.key = r.key) ∧
    ∀ state, Reachable (SourceLock.inDatabase hashtextextended)
        (fun i => (plans i).acquisitions) state →
      ∀ i, ¬Relation.TransGen (Waits (SourceLock.inDatabase hashtextextended) state) i i := by
  refine ⟨fun i => ⟨acquisitions_ordered (plans i), acquisitions_strongest⟩,
    fun state hreachable i => ?_⟩
  have hordered : Ordered SourceLock.Before fun i => (plans i).acquisitions :=
    fun i => acquisitions_ordered (plans i)
  refine no_cycle (fun i j a ha b hb hsame => ?_) hordered hreachable i
  rcases mem_append.1 ha with ha | ha <;> rcases mem_append.1 hb with hb | hb <;>
    obtain ⟨lock, hlock, rfl⟩ := mem_map.1 ha <;>
    obtain ⟨lock', hlock', rfl⟩ := mem_map.1 hb
  · have hkey := hcollision i j lock hlock lock' hlock' (DatabaseLock.advisory.inj hsame)
    exact congrArg SourceLock.advisory hkey
  · cases hsame
  · cases hsame
  · obtain ⟨htable, hid⟩ := DatabaseLock.row.inj hsame
    exact congrArg₂ SourceLock.row htable hid

namespace LockPlanExample

/-- A hash of the keys of the example. -/
def hash (key : JsString) : UInt64 := key.foldl (fun h u => h * 31 + u.toUInt64) 7

/-- Two plans meet an article and a document in different orders; the second writes the article. -/
def plans : Bool → PlanRequests
  | false => ⟨lit "w1", [], [(⟨lit "BrainArticle", lit "a1", none⟩, .SHARE),
      (⟨lit "Document", lit "d1", none⟩, .SHARE)]⟩
  | true => ⟨lit "w1", [rowKey (lit "BrainArticle") (lit "a1")],
      [(⟨lit "Document", lit "d1", none⟩, .SHARE), (⟨lit "BrainArticle", lit "a1", none⟩, .UPDATE)]⟩

theorem distinct_hashes : ∀ i j, ∀ a ∈ (plans i).advisoryLocks, ∀ b ∈ (plans j).advisoryLocks,
    hash a.key = hash b.key → a.key = b.key := by decide +kernel

/-- The second plan has taken the head of the article. -/
def state : State Bool SourceLock
  | false => ⟨[], (plans false).acquisitions⟩
  | true => ⟨(plans true).acquisitions.take 1, (plans true).acquisitions.drop 1⟩

theorem reachable : Reachable (SourceLock.inDatabase hash) (fun i => (plans i).acquisitions)
    state := by
  have hne : (plans true).acquisitions ≠ [] := by decide +kernel
  obtain ⟨request, rest, hacquisitions⟩ := exists_cons_of_ne_nil hne
  have hstate : state = Function.update (initial fun i => (plans i).acquisitions) true
      ⟨(initial (fun i => (plans i).acquisitions) true).held ++ [request], rest⟩ := by
    funext i
    cases i with
    | false => rfl
    | true =>
      rw [Function.update_self]
      simp [state, initial, hacquisitions]
  rw [hstate]
  refine .single (.acquire true request rest hacquisitions fun j hwaits => ?_)
  obtain ⟨-, -, -, -, taken, htaken, -⟩ := hwaits
  cases htaken

/-- The first plan waits for the second. -/
theorem waits : Waits (SourceLock.inDatabase hash) state false true := by
  have hfalse : (plans false).acquisitions.head? = some ⟨.advisory
      (sourceHeadKey (lit "w1") (lit "BrainArticle") (lit "a1")), .SHARE⟩ := by decide +kernel
  have htrue : (plans true).acquisitions.head? = some ⟨.advisory
      (sourceHeadKey (lit "w1") (lit "BrainArticle") (lit "a1")), .UPDATE⟩ := by decide +kernel
  obtain ⟨rest, hrest⟩ := head?_eq_some_iff.1 hfalse
  obtain ⟨rest', hrest'⟩ := head?_eq_some_iff.1 htrue
  refine ⟨by decide, _, rest, hrest, ⟨.advisory
    (sourceHeadKey (lit "w1") (lit "BrainArticle") (lit "a1")), .UPDATE⟩, ?_, rfl, rfl⟩
  show _ ∈ (plans true).acquisitions.take 1
  rw [hrest']
  exact .head _

end LockPlanExample

theorem withSourceCommitLockPlan_no_deadlock_example :
    Waits (SourceLock.inDatabase LockPlanExample.hash) LockPlanExample.state false true ∧
      ¬Relation.TransGen (Waits (SourceLock.inDatabase LockPlanExample.hash)
        LockPlanExample.state) false false :=
  ⟨LockPlanExample.waits, (withSourceCommitLockPlan_no_deadlock LockPlanExample.plans
    LockPlanExample.hash LockPlanExample.distinct_hashes).2 _ LockPlanExample.reachable false⟩

end Corgtex.Domain
