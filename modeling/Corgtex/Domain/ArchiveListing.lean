import Corgtex.Domain.ReadableWorkItemPage
import Corgtex.Library.Base64
import Corgtex.Library.JsonPlain
import Corgtex.Library.KeyedTable

/-!
# Pages of the archive

`archive.ts`: `listArchivedWorkspaceArtifactsPage` reads a window of at most 200
archive records, examines them until the page is full, and hands out a continuation that names the
last record it has examined, admitted or not. The continuation is text that the caller brings back;
what was handed out is read back as it was (`archiveWindowPosition_cursor`), so the pages follow
each other in the sorted table. `listArchivedWorkspaceArtifacts` answers with an array, and only
where one window decides it.

The actor is an administrator of the workspace throughout, and what a release has captured is the
same when it finishes.
-/

namespace Corgtex.Domain.Archive

open List hiding after

open JsArray JsDate JsNumber JsString Keyset

/-! ## Records -/

def isLowerHexOrDash (u : UInt16) : Bool :=
  (0x30 ≤ u && u ≤ 0x39) || (0x61 ≤ u && u ≤ 0x66) || u = 0x2D

/-- What `archiveMetadataSelect` reads of a record (line 595). Its id is a `uuid()`. -/
structure ArchiveMetadata where
  id : JsString
  workspaceId : JsString
  entityType : JsString
  entityId : JsString
  archivedAt : TimeValue
  archivedByUserId : Option JsString
  restoredAt : Option TimeValue
  restoredByUserId : Option JsString
  purgedAt : Option TimeValue
  purgedByUserId : Option JsString
  createdAt : TimeValue
  updatedAt : TimeValue
  uuid : id.length = 36 ∧ id.all isLowerHexOrDash
deriving DecidableEq

structure WorkspacePermalink where
  id : JsString
  workspaceId : JsString
  entityType : JsString
  entityId : JsString

/-- What a request reads: the records, which of them the actor may see, the permalinks, the order of
texts in the database and the hash function. -/
structure ArchiveTables where
  records : KeyedTable ArchiveMetadata ArchiveMetadata.id
  admits : ArchiveMetadata → Bool
  permalinks : List WorkspacePermalink
  collation : Collation
  sha256 : List UInt8 → Fin 32 → UInt8

/-- `ArchiveWindowParams` (line 1171). -/
structure ArchiveWindowParams where
  workspaceId : JsString
  entityType : Option JsString := none
  includeRestored : Option Bool := none
  includePurged : Option Bool := none
  take : Option Int := none
  skip : Option Int := none
  cursor : Option JsString := none

/-- An entry of `items`; the other fields of `archiveMetadata` are fixed. -/
structure ArchiveItem where
  record : ArchiveMetadata
  permanentPath : Option JsString

structure ArchivePage where
  items : List ArchiveItem
  complete : Bool
  nextCursor : Option JsString

/-- `ARCHIVE_WINDOW_LIMIT` (line 1175). -/
def ARCHIVE_WINDOW_LIMIT : Nat := 200

/-! ## Continuations -/

/-- `digest("hex")`. -/
def hexDigest (digest : Fin 32 → UInt8) : JsString :=
  (List.finRange 32).flatMap fun i =>
    [Json.hexDigit ((digest i).toNat / 16), Json.hexDigit ((digest i).toNat % 16)]

/-- `auditHash` (line 616), of a value that `canonical` leaves as it is. -/
def auditHash (sha256 : List UInt8 → Fin 32 → UInt8) (value : Json Nat) : JsString :=
  hexDigest (sha256 (Utf8.encode (Json.stringify decimal value)))

/-- `scope` (line 1197). -/
def archiveScope (sha256 : List UInt8 → Fin 32 → UInt8) (params : ArchiveWindowParams) : JsString :=
  auditHash sha256 (.array
    [.string params.workspaceId,
      match params.entityType.bind orNull with
      | some entityType => .string entityType
      | none => .null,
      .bool (params.includeRestored.getD false),
      .bool (params.includePurged.getD false)])

/-- Where a window begins: after this record. -/
structure ArchivePosition where
  id : JsString
  archivedAt : TimeValue
deriving DecidableEq

/-- The value of a continuation. -/
def cursorValue (scope : JsString) (last : ArchiveMetadata) : Json Nat :=
  .object
    [(lit "v", .number 1), (lit "scope", .string scope), (lit "id", .string last.id),
      (lit "archivedAt", .string (toISOString last.archivedAt))]

/-- The `nextCursor` after a record (line 1223). -/
def archiveCursor (scope : JsString) (last : ArchiveMetadata) : JsString :=
  Base64.encode .url (Utf8.encode (Json.stringify decimal (cursorValue scope last)))

section
variable (value : Json JsString) (key : JsString)

/-- A property of a parsed value, the last of a repeated key; a value that is no object has none of
those that are read here. -/
def property : Option (Json JsString) :=
  match value with
  | .object members => members.reverse.lookup key
  | _ => none

def stringProperty : Option JsString :=
  match property value key with
  | some (.string text) => some text
  | _ => none

def numberProperty : Option ℚ :=
  match property value key with
  | some (.number token) => some (Json.readDouble token)
  | _ => none

end

/-- The checks of a parsed continuation (line 1181). Of the strings that `Date.parse` reads only
those that `toISOString` writes pass. -/
def continuationPosition (scope : JsString) (value : Json JsString) : Option ArchivePosition := do
  let id ← stringProperty value (lit "id")
  let text ← stringProperty value (lit "archivedAt")
  let archivedAt ← parseIso text
  if numberProperty value (lit "v") = some 1 ∧ stringProperty value (lit "scope") = some scope ∧
      0 < id.length ∧ id.length ≤ 256 ∧ toISOString archivedAt = text then
    some ⟨id, archivedAt⟩
  else none

def invalidContinuation : AppError :=
  ⟨400, "INVALID_INPUT", "Invalid archive continuation."⟩

/-- `archiveWindowPosition` (line 1176). -/
def archiveWindowPosition (params : ArchiveWindowParams) (scope : JsString) :
    Except AppError (Option ArchivePosition) :=
  match params.cursor.bind orNull with
  | none => .ok none
  | some cursor =>
    if cursor.length ≤ 2048 then
      let text := Utf8.decode (Base64.decode cursor)
      match (Json.parse text).bind (continuationPosition scope) with
      | some position => .ok (some position)
      | none => .error invalidContinuation
    else .error invalidContinuation

/-! ## Windows -/

/-- The order of a window (line 1205). -/
def archiveOrder (collation : Collation) : ArchiveMetadata → ArchiveMetadata → Int :=
  orderBy [fun a b => b.archivedAt.ms - a.archivedAt.ms, fun a b => collation.collate a.id b.id]

/-- The filter of a listing (line 1199). -/
def ArchiveWindowParams.lists (params : ArchiveWindowParams) (record : ArchiveMetadata) : Bool :=
  record.workspaceId = params.workspaceId &&
    (params.entityType.bind orNull).all (record.entityType = ·) &&
    (params.includeRestored.getD false || record.restoredAt.isNone) &&
    (params.includePurged.getD false || record.purgedAt.isNone)

/-- The records after a position (line 1204). -/
def ArchivePosition.precedes (collation : Collation) (position : ArchivePosition)
    (record : ArchiveMetadata) : Bool :=
  record.archivedAt.ms < position.archivedAt.ms ||
    (record.archivedAt.ms = position.archivedAt.ms && 0 < collation.collate record.id position.id)

/-- The loop over a window (line 1209): the items and how many records it has examined. -/
def examineWindow (admits : ArchiveMetadata → Bool) (take skip : Int) :
    List ArchiveMetadata → (items : List ArchiveMetadata) → (examined skipped : Nat) →
      List ArchiveMetadata × Nat
  | [], items, examined, _ => (items, examined)
  | record :: records, items, examined, skipped =>
    if !admits record then examineWindow admits take skip records items (examined + 1) skipped
    else if skipped < skip then
      examineWindow admits take skip records items (examined + 1) (skipped + 1)
    else if (items ++ [record]).length = take then (items ++ [record], examined + 1)
    else examineWindow admits take skip records (items ++ [record]) (examined + 1) skipped

/-- `WORKSPACE_PERMALINK_ENTITY_TYPES` (`permalinks.ts:9`). -/
def WORKSPACE_PERMALINK_ENTITY_TYPES : List JsString :=
  ["Action", "Tension", "Proposal", "BrainArticle", "Meeting", "Goal"].map lit

/-- The `permanentPath` of an item (line 1226): of several permalinks with its key the last one
counts. -/
def permanentPath (permalinks : List WorkspacePermalink) (workspaceId : JsString)
    (items : List ArchiveMetadata) (record : ArchiveMetadata) : Option JsString :=
  let eligible := items.filter fun item =>
    WORKSPACE_PERMALINK_ENTITY_TYPES.contains item.entityType
  let found := permalinks.filter fun link => link.workspaceId = workspaceId &&
    eligible.any fun item => item.entityType = link.entityType && item.entityId = link.entityId
  let link := found.reverse.find? fun link =>
    link.entityType ++ lit ":" ++ link.entityId = record.entityType ++ lit ":" ++ record.entityId
  link.map fun link => lit "/workspaces/" ++ workspaceId ++ lit "/items/" ++ link.id

section
variable (tables : ArchiveTables) (params : ArchiveWindowParams)

/-- The page of a window (line 1207). -/
def archivePage (records : List ArchiveMetadata) : ArchivePage :=
  let (items, examined) :=
    examineWindow tables.admits (params.take.getD 100) (params.skip.getD 0) records [] 0 0
  let complete := examined = records.length && records.length < ARCHIVE_WINDOW_LIMIT
  let last := if examined = 0 then none else records[examined - 1]?
  { items := items.map fun record =>
      ⟨record, permanentPath tables.permalinks params.workspaceId items record⟩
    complete
    nextCursor := if complete then none
      else last.map (archiveCursor (archiveScope tables.sha256 params)) }

/-- `listArchivedWorkspaceArtifactsPage` (line 1190). -/
def listArchivedWorkspaceArtifactsPage : Except AppError ArchivePage := do
  let take := params.take.getD 100
  let skip := params.skip.getD 0
  invariant (isSafeInteger take && 0 < take && take ≤ 100 && isSafeInteger skip && 0 ≤ skip &&
      skip ≤ ARCHIVE_WINDOW_LIMIT)
    400 "INVALID_INPUT" "Archive window is out of range."
  let after ← archiveWindowPosition params (archiveScope tables.sha256 params)
  let records := sortBy (archiveOrder tables.collation) (tables.records.rows.filter fun record =>
    params.lists record && after.all (·.precedes tables.collation record))
  return archivePage tables params (records.take ARCHIVE_WINDOW_LIMIT)

/-- `listArchivedWorkspaceArtifacts` (line 1155), which takes no continuation. -/
def listArchivedWorkspaceArtifacts : Except AppError (List ArchiveItem) := do
  let take := params.take.getD 100
  let skip := params.skip.getD 0
  invariant (isSafeInteger take && 0 ≤ take && take ≤ 5000 && isSafeInteger skip && 0 ≤ skip)
    400 "INVALID_INPUT" "Archive pagination is invalid."
  if take = 0 then
    return []
  invariant (skip ≤ ARCHIVE_WINDOW_LIMIT) 409 "SOURCE_READ_SCAN_LIMIT"
    "Use archive continuation to read older records."
  let page ← listArchivedWorkspaceArtifactsPage tables
    { params with take := some (min take 100), skip := some skip, cursor := none }
  invariant (page.complete || page.items.length = take) 409 "SOURCE_READ_SCAN_LIMIT"
    "Use archive continuation to read older records."
  return page.items

end

/-! ## The continuation is read back -/

theorem hexDigest_plain (digest : Fin 32 → UInt8) :
    (∀ u ∈ hexDigest digest, Json.isPlain u) ∧ (hexDigest digest).length = 64 := by
  have hall : ∀ n : Fin 16, Json.isPlain (Json.hexDigit n) := by decide
  constructor
  · intro u hu
    obtain ⟨i, _, hu⟩ := mem_flatMap.1 hu
    have hbyte := (digest i).toNat_lt
    simp only [mem_cons, not_mem_nil, or_false] at hu
    rcases hu with rfl | rfl
    · exact hall ⟨_, by omega⟩
    · exact hall ⟨_, Nat.mod_lt _ (by decide)⟩
  · simp [hexDigest, length_flatMap]

theorem ArchiveMetadata.id_plain (record : ArchiveMetadata) : ∀ u ∈ record.id, Json.isPlain u := by
  intro u hu
  have hhex := all_eq_true.1 record.uuid.2 u hu
  simp only [isLowerHexOrDash, Bool.or_eq_true, Bool.and_eq_true, decide_eq_true_eq,
    UInt16.le_iff_toNat_le] at hhex
  refine Json.isPlain_iff.2 ⟨?_, ?_, ?_, ?_⟩
  · rw [UInt16.le_iff_toNat_le]
    rcases hhex with (⟨hlow, _⟩ | ⟨hlow, _⟩) | rfl
    · exact le_trans (by decide) hlow
    · exact le_trans (by decide) hlow
    · decide
  · rw [UInt16.lt_iff_toNat_lt]
    rcases hhex with (⟨_, hhigh⟩ | ⟨_, hhigh⟩) | rfl
    · exact hhigh.trans_lt (by decide)
    · exact hhigh.trans_lt (by decide)
    · decide
  · rintro rfl
    revert hhex
    decide
  · rintro rfl
    revert hhex
    decide

/-- The text of a continuation is short and needs one byte for each character. -/
theorem cursorText_plain {scope : JsString} (hscope : ∀ u ∈ scope, Json.isPlain u)
    (hlength : scope.length = 64) (last : ArchiveMetadata) :
    (∀ u ∈ Json.stringify decimal (cursorValue scope last), u.toNat < 0x80) ∧
      (Json.stringify decimal (cursorValue scope last)).length ≤ 200 := by
  have hone : decimal 1 = [0x31] := by simp [decimal]
  obtain ⟨hdate, hdateLength⟩ := Json.toISOString_plain last.archivedAt
  have hquotedScope := Json.quote_plain hscope
  have hquotedId := Json.quote_plain last.id_plain
  have hquotedDate := Json.quote_plain hdate
  have hkey : ∀ key ∈ ["v", "scope", "id", "archivedAt"], (∀ u ∈ Json.quote (lit key),
      u.toNat < 0x80) ∧ (Json.quote (lit key)).length ≤ 12 := by
    have hall : ∀ key ∈ ["v", "scope", "id", "archivedAt"],
        (lit key).all Json.isPlain = true ∧ (lit key).length ≤ 10 := by decide
    intro key hmem
    have hquoted := Json.quote_plain (all_eq_true.1 (hall key hmem).1)
    exact ⟨hquoted.1, hquoted.2.trans_le (Nat.add_le_add_right (hall key hmem).2 2)⟩
  have hv := hkey "v" (by decide)
  have hs := hkey "scope" (by decide)
  have hi := hkey "id" (by decide)
  have ha := hkey "archivedAt" (by decide)
  simp only [cursorValue, Json.stringify, Json.stringifyMembers, hone]
  constructor
  · simp only [forall_mem_append, forall_mem_cons]
    exact ⟨by decide, ⟨hv.1, by decide, by decide, by simp⟩, by decide,
      ⟨hs.1, by decide, hquotedScope.1⟩, by decide, ⟨hi.1, by decide, hquotedId.1⟩, by decide,
      ⟨ha.1, by decide, hquotedDate.1⟩, by decide, by simp⟩
  · simp only [length_append, length_cons, length_nil, hquotedScope.2,
      hquotedId.2, hquotedDate.2, hlength, last.uuid.1]
    omega

/-- What was written passes the checks. -/
theorem continuationPosition_cursorValue (scope : JsString) (last : ArchiveMetadata) :
    continuationPosition scope ((cursorValue scope last).mapNumber decimal) =
      some ⟨last.id, last.archivedAt⟩ := by
  have hv : numberProperty ((cursorValue scope last).mapNumber decimal) (lit "v") = some 1 :=
    congrArg some Json.readDouble_one
  have hs : stringProperty ((cursorValue scope last).mapNumber decimal) (lit "scope") =
      some scope := rfl
  have hi : stringProperty ((cursorValue scope last).mapNumber decimal) (lit "id") =
      some last.id := rfl
  have ha : stringProperty ((cursorValue scope last).mapNumber decimal) (lit "archivedAt") =
      some (toISOString last.archivedAt) := rfl
  have hlength := last.uuid.1
  unfold continuationPosition
  simp only [hi, ha, Option.bind_eq_bind, Option.bind_some, parseIso_toISOString]
  rw [if_pos ⟨hv, hs, by omega, by omega, trivial⟩]

/-- **A continuation is read back** as the position of its record. -/
theorem archiveWindowPosition_cursor (sha256 : List UInt8 → Fin 32 → UInt8)
    (params : ArchiveWindowParams) (last : ArchiveMetadata)
    (hcursor : params.cursor = some (archiveCursor (archiveScope sha256 params) last)) :
    archiveWindowPosition params (archiveScope sha256 params) =
      .ok (some ⟨last.id, last.archivedAt⟩) := by
  have hscope : (∀ u ∈ archiveScope sha256 params, Json.isPlain u) ∧
      (archiveScope sha256 params).length = 64 := hexDigest_plain _
  generalize archiveScope sha256 params = scope at hcursor hscope ⊢
  obtain ⟨hascii, hlength⟩ := cursorText_plain hscope.1 hscope.2 last
  have hpos : 0 < (Json.stringify decimal (cursorValue scope last)).length := by
    rw [cursorValue, Json.stringify]
    exact Nat.succ_pos _
  have hcursorLength : (archiveCursor scope last).length =
      ((Json.stringify decimal (cursorValue scope last)).length * 4 + 2) / 3 := by
    rw [archiveCursor, Base64.length_encode_url, Utf8.encode_ascii hascii, length_map]
  have hshort : (archiveCursor scope last).length ≤ 2048 := by omega
  have hne : archiveCursor scope last ≠ [] := by
    intro hnil
    rw [hnil, length_nil] at hcursorLength
    omega
  unfold archiveWindowPosition
  rw [hcursor, Option.bind_some, orNull_eq_some.2 ⟨rfl, hne⟩]
  simp only [if_pos hshort]
  rw [archiveCursor, Base64.decode_encode, Utf8.decode_encode (Utf8.isWellFormed_ascii hascii),
    Json.parse_stringify Json.number_decimal, Option.bind_some, continuationPosition_cursorValue]

/-! ## The order -/

section
variable {collation : Collation} {tables : ArchiveTables} {params : ArchiveWindowParams}

theorem comparator_archiveOrder (collation : Collation) : Comparator (archiveOrder collation) :=
  comparator_orderBy_cons (.descending _)
    (comparator_orderBy_cons (collation.comparator.on ArchiveMetadata.id) comparator_orderBy_nil)

theorem precedes_iff (last record : ArchiveMetadata) :
    ArchivePosition.precedes collation ⟨last.id, last.archivedAt⟩ record = true ↔
      archiveOrder collation last record < 0 := by
  have hswap := collation.comparator.swap last.id record.id
  simp only [ArchivePosition.precedes, archiveOrder, orderBy_cons, orderBy_nil, Bool.or_eq_true,
    Bool.and_eq_true, decide_eq_true_eq, and_false, or_false, hswap]
  omega

section
variable (tables : ArchiveTables) (params : ArchiveWindowParams)

def listedRecords : List ArchiveMetadata :=
  tables.records.rows.filter params.lists

theorem pairwise_listedRecords : (listedRecords tables params).Pairwise fun a b =>
      archiveOrder tables.collation a b ≠ 0 := by
  have hids : tables.records.rows.Pairwise fun a b => a.id ≠ b.id :=
    pairwise_map.1 tables.records.nodup
  refine (hids.sublist filter_sublist).imp fun {a b} hne hzero => hne ?_
  have hid := (orElse_eq_zero.1 (orElse_eq_zero.1 hzero).2).1
  exact tables.collation.eq_of_zero _ _ hid

/-- **The listing**: the records in the order of the windows, of which only the admitted ones are
shown. -/
def sortedRecords : List ArchiveMetadata :=
  sortBy (archiveOrder tables.collation) (listedRecords tables params)

def archiveListing : List ArchiveMetadata :=
  (sortedRecords tables params).filter tables.admits

end

theorem window_eq {seen rest : List ArchiveMetadata}
    (hsplit : sortedRecords tables params = seen ++ rest) :
    sortBy (archiveOrder tables.collation) (tables.records.rows.filter fun record =>
      params.lists record && (seen.getLast?.map fun last =>
        ArchivePosition.mk last.id last.archivedAt).all (·.precedes tables.collation record)) =
      rest := by
  rw [← after_split (comparator_archiveOrder tables.collation)
      (pairwise_listedRecords tables params) hsplit,
    after, listedRecords, List.filter_filter]
  refine congrArg (sortBy _) (List.filter_congr fun record _ => ?_)
  rw [Bool.and_comm]
  congr 1
  cases seen.getLast? with
  | none => rfl
  | some last =>
    rw [Option.map_some, Option.all_some, Option.all_some, Bool.eq_iff_iff, precedes_iff,
      decide_eq_true_eq]

end

/-! ## The loop over a window -/

section
variable {admits : ArchiveMetadata → Bool} {take skip : Int}
  {rows items items' : List ArchiveMetadata} {record : ArchiveMetadata} {left left' k : Nat}

/-- The items once `k` records are examined, of which the first `left` admitted ones are skipped. -/
def shownItems (admits : ArchiveMetadata → Bool) (rows items : List ArchiveMetadata)
    (left k : Nat) : List ArchiveMetadata :=
  items ++ ((rows.take k).filter admits).drop left

/-- The loop may stop after `k` records: the page is full, or they are all. -/
structure StopsAt (admits : ArchiveMetadata → Bool) (take : Int)
    (rows items : List ArchiveMetadata) (left k : Nat) : Prop where
  le : k ≤ rows.length
  length_le : (shownItems admits rows items left k).length ≤ take
  full : k < rows.length → (shownItems admits rows items left k).length = take

theorem StopsAt.cons (h : StopsAt admits take rows items' left' k)
    (hshown : shownItems admits (record :: rows) items left (k + 1) =
      shownItems admits rows items' left' k) :
    StopsAt admits take (record :: rows) items left (k + 1) := by
  refine ⟨Nat.succ_le_succ h.le, ?_, fun hlt => ?_⟩
  · rw [hshown]
    exact h.length_le
  · rw [hshown]
    exact h.full (Nat.lt_of_succ_lt_succ hlt)

theorem shownItems_denied (h : admits record = false) (rows items : List ArchiveMetadata)
    (left k : Nat) :
    shownItems admits (record :: rows) items left (k + 1) =
      shownItems admits rows items left k := by
  rw [shownItems, take_succ_cons, filter_cons_of_neg (by simp [h]), shownItems]

section
variable (h : admits record = true) (rows items : List ArchiveMetadata)
include h

theorem shownItems_skipped (left k : Nat) :
    shownItems admits (record :: rows) items (left + 1) (k + 1) =
      shownItems admits rows items left k := by
  rw [shownItems, take_succ_cons, filter_cons_of_pos h, drop_succ_cons, shownItems]

theorem shownItems_admitted (k : Nat) : shownItems admits (record :: rows) items 0 (k + 1) =
      shownItems admits rows (items ++ [record]) 0 k := by
  rw [shownItems, take_succ_cons, filter_cons_of_pos h, drop_zero, shownItems,
    drop_zero, append_assoc, singleton_append]

end

/-- **The loop** stops after the record that fills the page, and otherwise at the end. -/
theorem examineWindow_spec (admits : ArchiveMetadata → Bool) (rows items : List ArchiveMetadata)
    (examined skipped : Nat) (htake : items.length < take) (hskip : (skipped : Int) ≤ skip) :
    ∃ k, examineWindow admits take skip rows items examined skipped =
        (shownItems admits rows items (skip.toNat - skipped) k, examined + k) ∧
      StopsAt admits take rows items (skip.toNat - skipped) k ∧ (rows ≠ [] → 0 < k) := by
  induction rows generalizing items examined skipped with
  | nil =>
    have hitems : shownItems admits [] items (skip.toNat - skipped) 0 = items := by
      simp [shownItems]
    refine ⟨0, ?_, ⟨le_rfl, ?_, fun h => absurd h (Nat.lt_irrefl 0)⟩, fun h => absurd rfl h⟩
    · rw [hitems]
      rfl
    · rw [hitems]
      exact htake.le
  | cons record rows ih =>
    rw [examineWindow]
    split
    · next hdenied =>
      obtain ⟨k, heq, hstop, _⟩ := ih items (examined + 1) skipped htake hskip
      have hdenies : admits record = false := by simpa using hdenied
      have hshown := shownItems_denied hdenies rows items (skip.toNat - skipped) k
      refine ⟨k + 1, ?_, hstop.cons hshown, fun _ => k.succ_pos⟩
      rw [hshown, heq, Nat.add_right_comm, Nat.add_assoc]
    next hadmitted =>
    have hadmits : admits record = true := by simpa using hadmitted
    split
    · next hskipping =>
      obtain ⟨k, heq, hstop, _⟩ := ih items (examined + 1) (skipped + 1) htake (by omega)
      have hleft : skip.toNat - skipped = (skip.toNat - (skipped + 1)) + 1 := by omega
      have hshown := shownItems_skipped hadmits rows items (skip.toNat - (skipped + 1)) k
      rw [hleft]
      refine ⟨k + 1, ?_, hstop.cons hshown, fun _ => k.succ_pos⟩
      rw [hshown, heq, Nat.add_right_comm, Nat.add_assoc]
    next hshowing =>
    have hleft : skip.toNat - skipped = 0 := by omega
    have hlength : (items ++ [record]).length = items.length + 1 := by simp
    split
    · next hlast =>
      have hone : shownItems admits (record :: rows) items 0 1 = items ++ [record] := by
        rw [shownItems_admitted hadmits]
        simp [shownItems]
      rw [hleft]
      refine ⟨1, ?_, ⟨by simp, ?_, fun _ => ?_⟩, fun _ => Nat.one_pos⟩
      · rw [hone]
      · rw [hone, hlast]
      · rw [hone, hlast]
    next hmore =>
    obtain ⟨k, heq, hstop, _⟩ := ih (items ++ [record]) (examined + 1) skipped (by omega) hskip
    rw [hleft] at heq hstop ⊢
    have hshown := shownItems_admitted hadmits rows items k
    refine ⟨k + 1, ?_, hstop.cons hshown, fun _ => k.succ_pos⟩
    rw [hshown, heq, Nat.add_right_comm, Nat.add_assoc]

end

/-! ## Pages -/

section
variable {tables : ArchiveTables} {params : ArchiveWindowParams} {seen rest : List ArchiveMetadata}

/-- What a page shows and where it goes on, when the records from `rest` on are left and the loop
has stopped after `k` of them. -/
structure PageOf (tables : ArchiveTables) (params : ArchiveWindowParams)
    (rest : List ArchiveMetadata) (k : Nat) (page : ArchivePage) : Prop where
  stops : StopsAt tables.admits (params.take.getD 100) (rest.take 200) []
    (params.skip.getD 0).toNat k
  pos : rest ≠ [] → 0 < k
  items : page.items.map ArchiveItem.record =
    shownItems tables.admits (rest.take 200) [] (params.skip.getD 0).toNat k
  complete : page.complete = true ↔ k = (rest.take 200).length ∧ (rest.take 200).length < 200
  nextCursor : page.nextCursor = if page.complete then none
    else (rest.take k).getLast?.map (archiveCursor (archiveScope tables.sha256 params))

theorem PageOf.le_length {k : Nat} {page : ArchivePage} (h : PageOf tables params rest k page) :
    k ≤ 200 ∧ k ≤ rest.length := by
  have hle := h.stops.le
  rw [length_take] at hle
  exact ⟨hle.trans (Nat.min_le_left ..), hle.trans (Nat.min_le_right ..)⟩

theorem archivePage_spec (rest : List ArchiveMetadata) (htake : 0 < params.take.getD 100)
    (hskip : 0 ≤ params.skip.getD 0) :
    ∃ k, PageOf tables params rest k (archivePage tables params (rest.take 200)) := by
  obtain ⟨k, hloop, hstop, hpos⟩ :=
    examineWindow_spec tables.admits (rest.take 200) [] 0 0 htake hskip
  rw [Nat.sub_zero, Nat.zero_add] at hloop
  rw [Nat.sub_zero] at hstop
  have hle := hstop.le
  have hlast : (if k = 0 then none else (rest.take 200)[k - 1]?) = (rest.take k).getLast? := by
    rw [getLast?_take]
    split
    · rfl
    · rw [length_take] at hle
      have hlt : k - 1 < rest.length := by omega
      rw [getElem?_take_of_lt (by omega), getElem?_eq_getElem hlt, Option.some_or]
  unfold archivePage
  rw [hloop]
  refine ⟨k, hstop, ?_, ?_, ?_, ?_⟩
  · exact fun hrest => hpos (by simpa using hrest)
  · exact (map_map ..).trans (map_id _)
  · simp [ARCHIVE_WINDOW_LIMIT]
  · dsimp only
    rw [hlast]

/-- **A page** after the records that are seen shows the next ones. -/
theorem listArchivedWorkspaceArtifactsPage_spec (params : ArchiveWindowParams)
    (seen : List ArchiveMetadata) (htake : 0 < params.take.getD 100) 
    (htakeLe : params.take.getD 100 ≤ 100) (hskip : 0 ≤ params.skip.getD 0)
    (hskipLe : params.skip.getD 0 ≤ 200)
    (hsplit : sortedRecords tables params = seen ++ rest)
    (hafter : archiveWindowPosition params (archiveScope tables.sha256 params) =
      .ok (seen.getLast?.map fun last => ⟨last.id, last.archivedAt⟩)) :
    ∃ page k, listArchivedWorkspaceArtifactsPage tables params = .ok page ∧
      PageOf tables params rest k page := by
  have hbounds : (isSafeInteger (params.take.getD 100) && 0 < params.take.getD 100 &&
      params.take.getD 100 ≤ 100 && isSafeInteger (params.skip.getD 0) &&
      0 ≤ params.skip.getD 0 && params.skip.getD 0 ≤ ARCHIVE_WINDOW_LIMIT) = true := by
    have hlimit : (ARCHIVE_WINDOW_LIMIT : Int) = 200 := rfl
    simp only [isSafeInteger, Bool.and_eq_true, decide_eq_true_eq]
    omega
  obtain ⟨k, hpage⟩ := archivePage_spec rest htake hskip
  refine ⟨_, k, invariant_bind_ok.2 ⟨hbounds, bind_ok.2 ⟨_, hafter, ?_⟩⟩, hpage⟩
  rw [window_eq hsplit]
  rfl

/-- The pages that a client gets who follows the continuations from `cursor` on until there is
none. -/
inductive Follows (tables : ArchiveTables) (params : ArchiveWindowParams) :
    Option JsString → List ArchivePage → Prop
  | last {cursor : Option JsString} {page : ArchivePage} :
      listArchivedWorkspaceArtifactsPage tables { params with cursor } = .ok page →
      page.nextCursor = none → Follows tables params cursor [page]
  | more {cursor : Option JsString} {page : ArchivePage} {next : JsString}
      {pages : List ArchivePage} :
      listArchivedWorkspaceArtifactsPage tables { params with cursor } = .ok page →
      page.nextCursor = some next → Follows tables params (some next) pages →
      Follows tables params cursor (page :: pages)

/-- There is one way to follow them. -/
theorem Follows.unique {cursor : Option JsString} {pages pages' : List ArchivePage}
    (h : Follows tables params cursor pages) (h' : Follows tables params cursor pages') :
    pages = pages' := by
  induction h generalizing pages' with
  | last hpage hnone =>
    cases h' with
    | last hpage' _ => rw [Except.ok.inj (hpage.symm.trans hpage')]
    | more hpage' hsome _ =>
      rw [Except.ok.inj (hpage.symm.trans hpage'), hsome] at hnone
      cases hnone
  | more hpage hsome _ ih =>
    cases h' with
    | last hpage' hnone =>
      rw [← Except.ok.inj (hpage.symm.trans hpage'), hsome] at hnone
      cases hnone
    | more hpage' hsome' hrest =>
      obtain rfl := Except.ok.inj (hpage.symm.trans hpage')
      obtain rfl := Option.some.inj (hsome.symm.trans hsome')
      rw [ih hrest]

/-- **Following the continuations** from any place shows what is left. -/
theorem exists_follows (htake : 0 < params.take.getD 100) (htakeLe : params.take.getD 100 ≤ 100)
    (hskip : params.skip.getD 0 = 0) (seen : List ArchiveMetadata) (cursor : Option JsString)
    (hsplit : sortedRecords tables params = seen ++ rest)
    (hafter : archiveWindowPosition { params with cursor } (archiveScope tables.sha256 params) =
      .ok (seen.getLast?.map fun last => ⟨last.id, last.archivedAt⟩)) :
    ∃ pages, Follows tables params cursor pages ∧
      pages.flatMap (fun page => page.items.map ArchiveItem.record) =
        rest.filter tables.admits := by
  induction hlength : rest.length using Nat.strong_induction_on generalizing rest seen cursor with
  | _ n ih =>
  obtain ⟨page, k, hpage, hof⟩ := listArchivedWorkspaceArtifactsPage_spec
    { params with cursor } seen htake htakeLe hskip.ge (hskip.trans_le (by decide)) hsplit hafter
  obtain ⟨hk, hkrest⟩ := hof.le_length
  have hitems : page.items.map ArchiveItem.record = (rest.take k).filter tables.admits := by
    have h := hof.items
    rwa [hskip, shownItems, nil_append, Int.toNat_zero, drop_zero, take_take,
      Nat.min_eq_left hk] at h
  cases hcomplete : page.complete with
  | true =>
    obtain ⟨hall, hshort⟩ := hof.complete.1 hcomplete
    rw [length_take] at hall hshort
    have hrest : rest.take k = rest := take_of_length_le (by omega)
    have hnone : page.nextCursor = none := by rw [hof.nextCursor, hcomplete, if_pos rfl]
    exact ⟨[page], .last hpage hnone, by simp [hitems, hrest]⟩
  | false =>
    have hne : rest ≠ [] := by
      rintro rfl
      have hzero : k = 0 := Nat.le_zero.1 hkrest
      rw [hof.complete.2 ⟨by simp [hzero], by simp⟩] at hcomplete
      cases hcomplete
    have hkpos := hof.pos hne
    -- the last record that the page has examined
    rcases eq_nil_or_concat (rest.take k) with hnil | ⟨front, last, hlast⟩
    · have hzero : (rest.take k).length = 0 := by rw [hnil, length_nil]
      rw [length_take] at hzero
      omega
    rw [concat_eq_append] at hlast
    have hnext : page.nextCursor =
        some (archiveCursor (archiveScope tables.sha256 params) last) := by
      rw [hof.nextCursor, hcomplete, hlast, getLast?_concat]
      rfl
    have hafter' : archiveWindowPosition { params with
          cursor := some (archiveCursor (archiveScope tables.sha256 params) last) }
        (archiveScope tables.sha256 params) =
          .ok ((seen ++ rest.take k).getLast?.map fun last => ⟨last.id, last.archivedAt⟩) := by
      rw [hlast, ← append_assoc, getLast?_concat]
      exact archiveWindowPosition_cursor tables.sha256 { params with
        cursor := some (archiveCursor (archiveScope tables.sha256 params) last) } last rfl
    have hsplit' : sortedRecords tables params = (seen ++ rest.take k) ++ rest.drop k := by
      rw [append_assoc, take_append_drop, hsplit]
    obtain ⟨pages, hpages, hshown⟩ := ih (rest.drop k).length (by rw [length_drop]; omega)
      (seen ++ rest.take k) _ hsplit' hafter' rfl
    refine ⟨page :: pages, .more hpage hnext hpages, ?_⟩
    rw [flatMap_cons, hitems, hshown, ← filter_append, take_append_drop]

/-- **The array** is the slice of the listing that was asked for, where it is one at all. -/
theorem listArchivedWorkspaceArtifacts_slice {items : List ArchiveItem}
    (htake : 0 < params.take.getD 100)
    (h : listArchivedWorkspaceArtifacts tables params = .ok items) :
    items.map ArchiveItem.record = ((archiveListing tables params).drop
      (params.skip.getD 0).toNat).take (params.take.getD 100).toNat := by
  obtain ⟨hbounds, hrest⟩ := invariant_bind_ok.1 h
  simp only [Bool.and_eq_true, decide_eq_true_eq] at hbounds
  rw [if_neg htake.ne'] at hrest
  obtain ⟨hwindow, hrest⟩ := invariant_bind_ok.1 hrest
  obtain ⟨page, hpage, hrest⟩ := bind_ok.1 hrest
  obtain ⟨hdecided, hrest⟩ := invariant_bind_ok.1 hrest
  obtain rfl := Except.ok.inj hrest
  have hskipLe : params.skip.getD 0 ≤ 200 := of_decide_eq_true hwindow
  have hsplit : sortedRecords tables params = [] ++ sortedRecords tables params := rfl
  obtain ⟨page', k, hpage', hof⟩ := listArchivedWorkspaceArtifactsPage_spec
    { params with
      take := some (min (params.take.getD 100) 100), skip := some (params.skip.getD 0)
      cursor := none }
    [] (lt_min htake (by decide)) (min_le_right ..) hbounds.2 hskipLe hsplit rfl
  obtain rfl := Except.ok.inj (hpage.symm.trans hpage')
  obtain ⟨hk, hkrest⟩ := hof.le_length
  have hitems : page.items.map ArchiveItem.record = (((sortedRecords tables params).take k).filter
      tables.admits).drop (params.skip.getD 0).toNat := by
    have h := hof.items
    rw [shownItems, nil_append, take_take, Nat.min_eq_left hk] at h
    exact h
  have hlisting : archiveListing tables params =
      ((sortedRecords tables params).take k).filter tables.admits ++
        ((sortedRecords tables params).drop k).filter tables.admits := by
    rw [← filter_append, take_append_drop, archiveListing]
  rw [hlisting, hitems]
  rcases Bool.or_eq_true_iff.1 hdecided with hcomplete | hfull
  · -- the window reaches the end of the table
    obtain ⟨hall, hshort⟩ := hof.complete.1 hcomplete
    rw [length_take] at hall hshort
    have hlength : (sortedRecords tables params).length ≤ k := by omega
    have hshown : (page.items.map ArchiveItem.record).length ≤ (params.take.getD 100).toNat := by
      have hle := hof.stops.length_le
      rw [← hof.items] at hle
      have hmin : min (params.take.getD 100) 100 ≤ params.take.getD 100 := min_le_left ..
      have hget : (some (min (params.take.getD 100) 100)).getD 100 =
        min (params.take.getD 100) 100 := rfl
      rw [hget] at hle
      omega
    rw [hitems] at hshown
    rw [drop_of_length_le hlength, filter_nil, append_nil, take_of_length_le hshown]
  · -- the page is full
    have hlength : (page.items.map ArchiveItem.record).length = (params.take.getD 100).toNat := by
      have h := of_decide_eq_true hfull
      rw [length_map]
      omega
    rw [hitems] at hlength
    have hdrop : (params.skip.getD 0).toNat ≤
        (((sortedRecords tables params).take k).filter tables.admits).length := by
      rw [length_drop] at hlength
      omega
    rw [drop_append_of_le_length hdrop, ← hlength, take_left]

/-- The listing has every admitted record once, the latest archive first and equal ones by their
ids. -/
theorem archiveListing_exact (tables : ArchiveTables) (params : ArchiveWindowParams) :
    (archiveListing tables params).Pairwise (fun a b => a.archivedAt.ms > b.archivedAt.ms ∨
      a.archivedAt.ms = b.archivedAt.ms ∧ tables.collation.collate a.id b.id < 0) ∧
    ∀ record, record ∈ archiveListing tables params ↔ record ∈ tables.records.rows ∧
      params.lists record = true ∧ tables.admits record = true := by
  constructor
  · have hsorted := pairwise_lt_sortBy (comparator_archiveOrder tables.collation)
      (pairwise_listedRecords tables params)
    refine (hsorted.sublist filter_sublist).imp fun {a b} hlt => ?_
    simp only [archiveOrder, orderBy_cons, orderBy_nil, and_false, or_false] at hlt
    omega
  · intro record
    simp only [archiveListing, sortedRecords, listedRecords, mem_filter, mem_sortBy]
    tauto

end

/-- **Archive pages are exact.** Following the continuations ends and shows the listing, whatever
the filter, the table and the admissions are; and an array that is answered is the slice of the
listing that was asked for. -/
theorem archive_pages_exact (tables : ArchiveTables) (params : ArchiveWindowParams) :
    ((archiveListing tables params).Pairwise (fun a b => a.archivedAt.ms > b.archivedAt.ms ∨
        a.archivedAt.ms = b.archivedAt.ms ∧ tables.collation.collate a.id b.id < 0) ∧
      ∀ record, record ∈ archiveListing tables params ↔ record ∈ tables.records.rows ∧
        params.lists record = true ∧ tables.admits record = true) ∧
    (0 < params.take.getD 100 → params.take.getD 100 ≤ 100 → params.skip.getD 0 = 0 →
      ∃ pages, Follows tables params none pages ∧
        (∀ pages', Follows tables params none pages' → pages' = pages) ∧
        pages.flatMap (fun page => page.items.map ArchiveItem.record) =
          archiveListing tables params) ∧
    (0 < params.take.getD 100 → params.take.getD 100 ≤ 5000 → 0 ≤ params.skip.getD 0 →
      params.skip.getD 0 ≤ 200 → ∀ items,
        listArchivedWorkspaceArtifacts tables params = .ok items →
          items.map ArchiveItem.record = ((archiveListing tables params).drop
            (params.skip.getD 0).toNat).take (params.take.getD 100).toNat) := by
  refine ⟨archiveListing_exact tables params, ?_, ?_⟩
  · intro htake htakeLe hskip
    obtain ⟨pages, hpages, hshown⟩ := exists_follows htake htakeLe hskip [] none rfl rfl
    exact ⟨pages, hpages, fun pages' h => h.unique hpages, hshown⟩
  · exact fun htake _ _ _ items h => listArchivedWorkspaceArtifacts_slice htake h

/-- A record of the workspace `w` whose id ends in `digit`. -/
def exampleRecord (digit : String) (archivedAt : TimeValue)
    (uuid : (lit ("00000000-0000-4000-8000-00000000000" ++ digit)).length = 36 ∧
      (lit ("00000000-0000-4000-8000-00000000000" ++ digit)).all isLowerHexOrDash) :
    ArchiveMetadata where
  id := lit ("00000000-0000-4000-8000-00000000000" ++ digit)
  workspaceId := lit "w"
  entityType := lit "Goal"
  entityId := lit "g"
  archivedAt
  archivedByUserId := none
  restoredAt := none
  restoredByUserId := none
  purgedAt := none
  purgedByUserId := none
  createdAt := archivedAt
  updatedAt := archivedAt
  uuid

def newerRecord : ArchiveMetadata := exampleRecord "a" ⟨2, by decide⟩ (by decide)

def olderRecord : ArchiveMetadata := exampleRecord "b" ⟨1, by decide⟩ (by decide)

/-- Two records, of which the newer one is hidden. -/
def exampleTables : ArchiveTables where
  records := (KeyedTable.empty.insert newerRecord List.not_mem_nil).insert olderRecord (by decide)
  admits record := record.id = olderRecord.id
  permalinks := []
  collation := codeUnits
  sha256 _ _ := 0

/-- Pages of one record, and the array of one record, show the one that is admitted. -/
theorem archive_pages_exact_sample :
    (∃ pages, Follows exampleTables { workspaceId := lit "w", take := some 1 } none pages ∧
      pages.flatMap (fun page => page.items.map ArchiveItem.record) = [olderRecord]) ∧
    ∀ items, listArchivedWorkspaceArtifacts exampleTables
      { workspaceId := lit "w", take := some 1 } = .ok items →
        items.map ArchiveItem.record = [olderRecord] := by
  have hexact := archive_pages_exact exampleTables { workspaceId := lit "w", take := some 1 }
  have hlisting : archiveListing exampleTables { workspaceId := lit "w", take := some 1 } =
      [olderRecord] := by decide +kernel
  rw [hlisting] at hexact
  obtain ⟨pages, hpages, _, hshown⟩ := hexact.2.1 (by decide) (by decide) (by decide)
  exact ⟨⟨pages, hpages, hshown⟩, hexact.2.2 (by decide) (by decide) (by decide) (by decide)⟩

end Corgtex.Domain.Archive
