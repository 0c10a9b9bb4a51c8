import Corgtex.Domain.Errors
import Corgtex.Library.JsNumber
import Corgtex.Library.Keyset
import Corgtex.Library.StringOrder

/-!
# Keyset pages of readable work items

`readableWorkItemPage` (`work-item-readable-page.ts`) reads the rows of a list
in pages of at most 100, each after the last row of the one before, and keeps the slice of the
admitted rows that was asked for. The order of a list is written twice: as the `orderBy` of the
query and as the condition on the rows after a row (`workItemAfter`, `actionPageAfter`). The two
agree on every pair of rows (`workItemAfter_iff`, `actionPageAfter_iff`), so the pages follow each
other in the sorted table (`Keyset.after_split`).

The database compares texts by a collation in which only equal texts compare as equal.
-/

namespace Corgtex.Domain

open List hiding after

open JsArray JsNumber Keyset

/-! ## Orders -/

/-- `WorkItemPosition` (line 96). -/
structure WorkItemPosition where
  id : JsString
  title : JsString
  priority : Int
  createdAt : Int
deriving DecidableEq, Repr

/-- The columns of an action that its list sorts by; what else it has is in `body`. -/
structure ActionRow (β : Type) extends WorkItemPosition where
  dueAt : Option Int
  body : β
deriving DecidableEq, Repr

/-- `WorkItemSort` (`actions.ts:40`), of tensions and proposals. -/
inductive WorkItemSort
  | priority
  | date
  | alpha
deriving DecidableEq

/-- `ActionSort` (`actions.ts:41`). -/
inductive ActionSort
  | priority
  | date
  | alpha
  | created_asc
  | due_asc
  | due_desc
deriving DecidableEq

/-- The sorts of tensions and proposals are sorts of actions. -/
def WorkItemSort.toActionSort : WorkItemSort → ActionSort
  | priority => .priority
  | date => .date
  | alpha => .alpha

/-- The comparison of texts in the database. -/
structure Collation where
  collate : JsString → JsString → Int
  comparator : Comparator collate
  eq_of_zero : ∀ a b, collate a b = 0 → a = b

section
variable (collation : Collation)

section
variable (a b : WorkItemPosition)

/-- `{ id: "desc" }` and the like: the keys of an `orderBy`. -/
def idAsc : Int := collation.collate a.id b.id

def idDesc : Int := collation.collate b.id a.id

def titleAsc : Int := collation.collate a.title b.title

def createdAsc : Int := a.createdAt - b.createdAt

def createdDesc : Int := b.createdAt - a.createdAt

def priorityDesc : Int := b.priority - a.priority

end

/-- `workItemOrderBy` of tensions (`tensions.ts:125`) and of proposals (`proposals.ts:414`). -/
def workItemOrderBy (sort : Option WorkItemSort) :
    List (WorkItemPosition → WorkItemPosition → Int) :=
  if sort = some .alpha then [titleAsc collation, createdDesc, idDesc collation]
  else if sort = some .date then [createdDesc, idDesc collation]
  else [priorityDesc, createdDesc, idDesc collation]

variable {β : Type}

/-- `workItemOrderBy` of actions (`actions.ts:147`). -/
def actionOrderBy (sort : Option ActionSort) : List (ActionRow β → ActionRow β → Int) :=
  let on (key : WorkItemPosition → WorkItemPosition → Int) (a b : ActionRow β) : Int :=
    key a.toWorkItemPosition b.toWorkItemPosition
  if sort = some .alpha then [on (titleAsc collation), on createdDesc, on (idDesc collation)]
  else if sort = some .created_asc then [on createdAsc, on (idAsc collation)]
  else if sort = some .due_asc ∨ sort = some .due_desc then
    [fun a b => nullsLast (if sort = some .due_asc then (· - ·) else fun x y => y - x)
        a.dueAt b.dueAt,
      on createdDesc, on (idDesc collation)]
  else if sort = some .date then [on createdDesc, on (idDesc collation)]
  else [on priorityDesc, on createdDesc, on (idDesc collation)]

/-! ## Conditions -/

/-- `{ OR: […] }`. -/
def anyOf {α : Type} (conditions : List (α → Bool)) (row : α) : Bool :=
  conditions.any fun condition => condition row

/-- The rows with an earlier creation, or a smaller id at the same one (line 98). -/
def dateConditions (row : WorkItemPosition) : List (WorkItemPosition → Bool) :=
  [fun other => other.createdAt < row.createdAt,
    fun other => other.createdAt = row.createdAt && collation.collate other.id row.id < 0]

/-- `workItemAfter` (line 97). -/
def workItemAfter (row : WorkItemPosition) (sort : Option ActionSort) : WorkItemPosition → Bool :=
  let date := dateConditions collation row
  if sort = some .date then anyOf date
  else if sort = some .created_asc then
    anyOf [fun other => row.createdAt < other.createdAt,
      fun other => other.createdAt = row.createdAt && 0 < collation.collate other.id row.id]
  else if sort = some .alpha then
    anyOf ((fun other => 0 < collation.collate other.title row.title) ::
      date.map fun after other => other.title = row.title && after other)
  else
    anyOf ((fun other => other.priority < row.priority) ::
      date.map fun after other => other.priority = row.priority && after other)

/-- `actionPageAfter` (`actions.ts:374`); a comparison with a missing due date does not hold. -/
def actionPageAfter (row : ActionRow β) (sort : Option ActionSort) (other : ActionRow β) : Bool :=
  if sort ≠ some .due_asc ∧ sort ≠ some .due_desc then
    workItemAfter collation row.toWorkItemPosition sort other.toWorkItemPosition
  else
    let tied := workItemAfter collation row.toWorkItemPosition (some .date)
    match row.dueAt with
    | none => other.dueAt = none && tied other.toWorkItemPosition
    | some due =>
      anyOf [fun other => other.dueAt = none,
        fun other => other.dueAt.any fun dueAt =>
          if sort = some .due_asc then due < dueAt else dueAt < due,
        fun other => other.dueAt = some due && tied other.toWorkItemPosition] other

/-! ## The order and the condition -/

variable {collation}

theorem Collation.eq_zero {a b : JsString} : collation.collate a b = 0 ↔ a = b :=
  ⟨collation.eq_of_zero a b, fun h => h ▸ collation.comparator.self a⟩

section
variable {α : Type}

theorem anyOf_nil {row : α} : anyOf [] row = false := rfl

theorem anyOf_cons {condition : α → Bool} {conditions : List (α → Bool)} {row : α} :
    anyOf (condition :: conditions) row = true ↔
      condition row = true ∨ anyOf conditions row = true := by
  simp [anyOf]

/-- Conditions that are each joined to one more. -/
theorem anyOf_map_and {test : α → Bool} {conditions : List (α → Bool)} {row : α} :
    anyOf (conditions.map fun after other => test other && after other) row = true ↔
      test row = true ∧ anyOf conditions row = true := by
  simp only [anyOf, any_map, any_eq_true, Function.comp_apply, Bool.and_eq_true,
    exists_and_left, and_left_comm]

theorem orderBy_cons {key : α → α → Int} {keys : List (α → α → Int)} {a b : α} :
    orderBy (key :: keys) a b < 0 ↔ key a b < 0 ∨ key a b = 0 ∧ orderBy keys a b < 0 := orElse_neg

theorem orderBy_nil {a b : α} : ¬orderBy [] a b < 0 := by simp [orderBy]

end

variable {row other : WorkItemPosition}

theorem dateConditions_iff : anyOf (dateConditions collation row) other = true ↔
    orderBy [createdDesc, idDesc collation] row other < 0 := by
  simp only [dateConditions, anyOf_cons, anyOf_nil, orderBy_cons, orderBy_nil, createdDesc, idDesc,
    decide_eq_true_eq, Bool.and_eq_true, Bool.false_eq_true, or_false, and_false]
  omega

theorem titleAsc_iff : 0 < collation.collate other.title row.title ↔
    titleAsc collation row other < 0 := (collation.comparator.swap row.title other.title).symm

theorem titleAsc_eq_zero (collation : Collation) :
    other.title = row.title ↔ titleAsc collation row other = 0 :=
  eq_comm.trans collation.eq_zero.symm

theorem workItemAfter_alpha : workItemAfter collation row (some .alpha) other = true ↔
    orderBy [titleAsc collation, createdDesc, idDesc collation] row other < 0 := by
  rw [workItemAfter, if_neg (by decide), if_neg (by decide), if_pos rfl, anyOf_cons, anyOf_map_and,
    orderBy_cons, dateConditions_iff, decide_eq_true_eq, decide_eq_true_eq, titleAsc_iff,
    titleAsc_eq_zero collation]

theorem workItemAfter_date : workItemAfter collation row (some .date) other = true ↔
    orderBy [createdDesc, idDesc collation] row other < 0 := by
  rw [workItemAfter, if_pos rfl, dateConditions_iff]

theorem workItemAfter_created_asc : workItemAfter collation row (some .created_asc) other = true ↔
    orderBy [createdAsc, idAsc collation] row other < 0 := by
  have hid := collation.comparator.swap row.id other.id
  rw [workItemAfter, if_neg (by decide), if_pos rfl]
  simp only [anyOf_cons, anyOf_nil, orderBy_cons, orderBy_nil, createdAsc, idAsc,
    decide_eq_true_eq, Bool.and_eq_true, Bool.false_eq_true, or_false, and_false, hid]
  omega

variable {sort : Option ActionSort}

/-- The condition after a row where neither of the other orders is asked for. -/
theorem workItemAfter_priority (hdate : sort ≠ some .date)
    (hcreated : sort ≠ some .created_asc) (halpha : sort ≠ some .alpha) :
    workItemAfter collation row sort other = true ↔
      orderBy [priorityDesc, createdDesc, idDesc collation] row other < 0 := by
  rw [workItemAfter, if_neg hdate, if_neg hcreated, if_neg halpha, anyOf_cons, anyOf_map_and,
    orderBy_cons, dateConditions_iff]
  simp only [priorityDesc, decide_eq_true_eq]
  omega

/-- **The condition on the rows after a row** of tensions and proposals is their order. -/
theorem workItemAfter_iff {sort : Option WorkItemSort} :
    workItemAfter collation row (sort.map WorkItemSort.toActionSort) other = true ↔
      orderBy (workItemOrderBy collation sort) row other < 0 := by
  rcases sort with - | - | - | -
  · exact workItemAfter_priority (by decide) (by decide) (by decide)
  · exact workItemAfter_priority (by decide) (by decide) (by decide)
  · exact workItemAfter_date
  · exact workItemAfter_alpha

theorem orderBy_map {keys : List (WorkItemPosition → WorkItemPosition → Int)}
    {row other : ActionRow β} :
    orderBy (keys.map fun key (a b : ActionRow β) =>
        key a.toWorkItemPosition b.toWorkItemPosition) row other =
      orderBy keys row.toWorkItemPosition other.toWorkItemPosition := by
  rw [orderBy, foldr_map]
  rfl

/-- The condition after a row in the order of the due dates: missing ones are the last, and rows
with the same one are ordered by their creation. -/
theorem actionPageAfter_due {row other : ActionRow β}
    (hsort : sort = some .due_asc ∨ sort = some .due_desc) :
    actionPageAfter collation row sort other = true ↔
      nullsLast (if sort = some .due_asc then (· - ·) else fun x y => y - x) row.dueAt
          other.dueAt < 0 ∨
        nullsLast (if sort = some .due_asc then (· - ·) else fun x y => y - x) row.dueAt
            other.dueAt = 0 ∧
          orderBy [createdDesc, idDesc collation] row.toWorkItemPosition
            other.toWorkItemPosition < 0 := by
  have hdue : ¬(sort ≠ some .due_asc ∧ sort ≠ some .due_desc) := by tauto
  rw [actionPageAfter, if_neg hdue]
  cases hrow : row.dueAt with
  | none =>
    rw [Bool.and_eq_true, workItemAfter_date]
    cases other.dueAt with
    | none => simp [nullsLast]
    | some dueAt => simp [nullsLast]
  | some due =>
    simp only [anyOf_cons, anyOf_nil, Bool.and_eq_true, workItemAfter_date, decide_eq_true_eq,
      Bool.false_eq_true, or_false]
    cases other.dueAt with
    | none => simp [nullsLast]
    | some dueAt =>
      simp only [nullsLast, Option.any_some, Option.some_inj, reduceCtorEq, false_or]
      rcases hsort with rfl | rfl
      · simp only [if_true, decide_eq_true_eq]
        omega
      · simp only [Option.some_inj, reduceCtorEq, if_false, decide_eq_true_eq]
        omega

/-- **The condition on the rows after a row** of actions is their order, also where due dates are
missing. -/
theorem actionPageAfter_iff {row other : ActionRow β} :
    actionPageAfter collation row sort other = true ↔
      orderBy (actionOrderBy collation sort) row other < 0 := by
  rcases sort with - | - | - | - | - | - | -
  · show workItemAfter collation row.toWorkItemPosition none other.toWorkItemPosition = true ↔ _
    rw [workItemAfter_priority (by decide) (by decide) (by decide), ← orderBy_map]
    rfl
  · show workItemAfter collation row.toWorkItemPosition (some .priority) _ = true ↔ _
    rw [workItemAfter_priority (by decide) (by decide) (by decide), ← orderBy_map]
    rfl
  · show workItemAfter collation row.toWorkItemPosition (some .date) _ = true ↔ _
    rw [workItemAfter_date, ← orderBy_map]
    rfl
  · show workItemAfter collation row.toWorkItemPosition (some .alpha) _ = true ↔ _
    rw [workItemAfter_alpha, ← orderBy_map]
    rfl
  · show workItemAfter collation row.toWorkItemPosition (some .created_asc) _ = true ↔ _
    rw [workItemAfter_created_asc, ← orderBy_map]
    rfl
  · rw [actionPageAfter_due (.inl rfl), ← orderBy_map]
    exact orElse_neg.symm
  · rw [actionPageAfter_due (.inr rfl), ← orderBy_map]
    exact orElse_neg.symm

/-! ## Pages -/

section
variable {α : Type}

/-- The page that is asked for, and what the loop calls: the query, the release, and the list's own
test. -/
structure WorkItemPageParams (α : Type) where
  take : Int
  skip : Int
  load : Option α → Except AppError (List α)
  readable : List α → Except AppError (List JsString)
  admitRows : List α → Except AppError (List α)
  observe : List α → Except AppError Unit
  admitOne : Option (α → Except AppError Bool)

/-- The `items` and the `total` so far. -/
structure WorkItemScan (α : Type) where
  items : List α
  total : Nat

variable (position : α → WorkItemPosition) (params : WorkItemPageParams α)

/-- An admitted row is counted, and kept if it is in the slice. -/
def WorkItemScan.push (scan : WorkItemScan α) (row : α) : WorkItemScan α where
  items := if params.skip ≤ scan.total ∧ scan.items.length < params.take then scan.items ++ [row]
    else scan.items
  total := scan.total + 1

/-- A row passes the test of the caller, if there is one (line 135). -/
def admitRow (row : α) : Except AppError Bool :=
  match params.admitOne with
  | none => .ok true
  | some admits => admits row

/-- The loop over the rows of a page (line 133): the scan and the `admitted` rows. -/
def examineWorkItems (readable : List JsString) :
    List α → WorkItemScan α → List α → Except AppError (WorkItemScan α × List α)
  | [], scan, admitted => .ok (scan, admitted)
  | row :: rows, scan, admitted =>
    if !readable.contains (position row).id then examineWorkItems readable rows scan admitted
    else do
      let admits ← admitRow params row
      if admits then examineWorkItems readable rows (scan.push params row) (admitted ++ [row])
      else examineWorkItems readable rows scan admitted

/-- The ids of the rows that may be read. -/
def readableIds (rows : List α) : Except AppError (List JsString) :=
  match params.admitOne with
  | some _ => params.readable rows
  | none => do
    let admitted ← params.admitRows rows
    .ok (admitted.map fun row => (position row).id)

/-- The loop over the pages (line 121), which its budget bounds. -/
def scanWorkItems (after : Option α) (examined : Nat) (scan : WorkItemScan α) :
    Except AppError (WorkItemScan α) := do
  let rows ← params.load after
  invariant (rows.length ≤ 100 && rows.getLast?.all fun last =>
      some (position last).id ≠ after.map fun row => (position row).id)
    503 "SOURCE_READ_SCAN_CHANGED" "Source page changed; retry."
  if _hbudget : examined + rows.length ≤ 10000 then
    let readable ← readableIds position params rows
    let (scan, admitted) ← examineWorkItems position params readable rows scan []
    checkIf params.admitOne.isSome (params.observe admitted)
    if _hlast : rows.length < 100 then return scan
    else scanWorkItems rows.getLast? (examined + rows.length) scan
  else
    throw ⟨409, "SOURCE_READ_SCAN_LIMIT",
      "Work item listing exceeds its candidate window; narrow the filters."⟩
termination_by 10000 - examined
decreasing_by omega

/-- `readableWorkItemPage` (line 111): the `items` and the `total`. -/
def readableWorkItemPage : Except AppError (List α × Nat) := do
  invariant (isSafeInteger params.take && 0 ≤ params.take && params.take ≤ 5000
      && isSafeInteger params.skip && 0 ≤ params.skip)
    400 "INVALID_INPUT" "Work item pagination is invalid."
  let scan ← scanWorkItems position params none 0 ⟨[], 0⟩
  .ok (scan.items, scan.total)

/-! ## A table that stays fixed -/

/-- The callbacks read one table, in the order `compare` and with `condition` for the rows after a
row, and test each row in the same way; any of them may throw at any call. -/
structure FixedTable (compare : α → α → Int) (condition : α → α → Bool) (rows : List α)
    (readable test : α → Bool) : Prop where
  load : ∀ boundary page, params.load boundary = .ok page →
    page = (sortBy compare (rows.filter fun row =>
      boundary.all fun boundary => condition boundary row)).take 100
  mem_ids : ∀ page ids, page ⊆ rows → params.readable page = .ok ids →
    ∀ row ∈ page, (position row).id ∈ ids ↔ readable row = true
  admitted : ∀ page admitted, page ⊆ rows → params.admitRows page = .ok admitted →
    admitted = page.filter readable
  admits : ∀ admitOne, params.admitOne = some admitOne → ∀ row ∈ rows, ∀ admits,
    admitOne row = .ok admits → admits = test row

/-- The test of the rows: that of the release, and that of the list where it has one. -/
def admitted (readable test : α → Bool) (row : α) : Bool :=
  readable row && (params.admitOne.isNone || test row)

variable {position params} {compare : α → α → Int} {condition : α → α → Bool}
  {rows seen rest page : List α} {readable test : α → Bool}

/-- The scan has counted the admitted rows of `seen`, and has their slice. -/
structure Counted (params : WorkItemPageParams α) (admits : α → Bool) (seen : List α)
    (scan : WorkItemScan α) : Prop where
  total : scan.total = (seen.filter admits).length
  items : scan.items = ((seen.filter admits).drop params.skip.toNat).take params.take.toNat

theorem slice_concat (skip take : Nat) (done : List α) (row : α) :
    ((done ++ [row]).drop skip).take take =
      if skip ≤ done.length ∧ ((done.drop skip).take take).length < take then
        (done.drop skip).take take ++ [row]
      else (done.drop skip).take take := by
  rw [drop_append, take_append, List.length_take, List.length_drop]
  split
  · next h =>
    have hskip : skip - done.length = 0 := by omega
    have hroom : take - (done.length - skip) = take - (done.length - skip) - 1 + 1 := by omega
    rw [hskip, hroom, drop_zero, take_succ_cons, take_nil]
  · next h =>
    rcases Nat.lt_or_ge done.length skip with hlt | hge
    · have hnil : [row].drop (skip - done.length) = [] :=
        List.drop_eq_nil_of_le (by simp; omega)
      rw [hnil, take_nil, List.append_nil]
    · have hfull : take - (done.length - skip) = 0 := by omega
      rw [hfull, take_zero, List.append_nil]

variable {admits : α → Bool}

section
variable {scan : WorkItemScan α} (h : Counted params admits seen scan)
include h

theorem Counted.push (hskip : 0 ≤ params.skip) (htake : 0 ≤ params.take)
    {row : α} (hrow : admits row = true) :
    Counted params admits (seen ++ [row]) (scan.push params row) := by
  have hfilter : (seen ++ [row]).filter admits = seen.filter admits ++ [row] := by
    simp [filter_append, hrow]
  refine ⟨?_, ?_⟩
  · rw [hfilter, length_append, ← h.total]
    rfl
  · rw [hfilter, slice_concat, ← h.items, ← h.total]
    have hroom : (params.skip ≤ scan.total ∧ (scan.items.length : Int) < params.take) ↔
        params.skip.toNat ≤ scan.total ∧ scan.items.length < params.take.toNat := by omega
    simp only [WorkItemScan.push, hroom]

theorem Counted.skip {row : α} (hrow : admits row = false) :
    Counted params admits (seen ++ [row]) scan := by
  have hfilter : (seen ++ [row]).filter admits = seen.filter admits := by
    simp [filter_append, hrow]
  exact ⟨hfilter ▸ h.total, hfilter ▸ h.items⟩

end

variable {ids : List JsString}

section
variable (hfixed : FixedTable position params compare condition rows readable test)
include hfixed

/-- **The loop over a page** counts its admitted rows. -/
theorem Counted.examine (hskip : 0 ≤ params.skip) (htake : 0 ≤ params.take) (hpage : page ⊆ rows)
    (hids : ∀ row ∈ page, (position row).id ∈ ids ↔ readable row = true)
    {scan : WorkItemScan α} {kept : List α} {result : WorkItemScan α × List α}
    (h : Counted params (admitted params readable test) seen scan)
    (hok : examineWorkItems position params ids page scan kept = .ok result) :
    Counted params (admitted params readable test) (seen ++ page) result.1 := by
  induction page generalizing seen scan kept with
  | nil =>
    rw [List.append_nil]
    exact Except.ok.inj hok ▸ h
  | cons row page ih =>
    have hrow := hids row (.head _)
    have hrest : ∀ row ∈ page, (position row).id ∈ ids ↔ readable row = true :=
      fun row hmem => hids row (.tail _ hmem)
    obtain ⟨hmem, hpage⟩ := cons_subset.1 hpage
    rw [append_cons]
    rw [examineWorkItems] at hok
    split at hok
    · next hhidden =>
      have hnot : readable row = false := by
        rw [Bool.eq_false_iff, ne_eq, ← hrow]
        simpa using hhidden
      exact ih hpage hrest (h.skip (by simp [admitted, hnot])) hok
    · next hshown =>
      have hreadable : readable row = true := hrow.1 (by simpa using hshown)
      obtain ⟨admits, hadmits, hok⟩ := bind_ok.1 hok
      have hadmitted : admitted params readable test row = admits := by
        rw [admitRow] at hadmits
        cases hadmitted : params.admitOne with
        | none =>
          rw [hadmitted] at hadmits
          simp [admitted, hreadable, hadmitted, ← Except.ok.inj hadmits]
        | some admitOne =>
          rw [hadmitted] at hadmits
          simp [admitted, hreadable, hadmitted,
            hfixed.admits admitOne hadmitted row hmem admits hadmits]
      split at hok
      · next hyes => exact ih hpage hrest (h.push hskip htake (hadmitted.trans hyes)) hok
      · next hno => exact ih hpage hrest (h.skip (hadmitted.trans (Bool.eq_false_iff.2 hno))) hok

theorem mem_readableIds (hpage : page ⊆ rows)
    (hnodup : (page.map fun row => (position row).id).Nodup)
    (hok : readableIds position params page = .ok ids) :
    ∀ row ∈ page, (position row).id ∈ ids ↔ readable row = true := by
  rw [readableIds] at hok
  split at hok
  · exact hfixed.mem_ids page ids hpage hok
  · obtain ⟨kept, hkept, hok⟩ := bind_ok.1 hok
    obtain rfl := hfixed.admitted page kept hpage hkept
    obtain rfl := Except.ok.inj hok
    intro row hrow
    constructor
    · intro hmem
      obtain ⟨other, hother, hid⟩ := mem_map.1 hmem
      obtain ⟨hother, hreadable⟩ := mem_filter.1 hother
      exact inj_on_of_nodup_map hnodup hother hrow hid ▸ hreadable
    · intro hreadable
      exact mem_map.2 ⟨row, mem_filter.2 ⟨hrow, hreadable⟩, rfl⟩

end

theorem scanWorkItems_ok {after : Option α} {examined : Nat} {scan result : WorkItemScan α}
    (hok : scanWorkItems position params after examined scan = .ok result) :
    ∃ page ids next, params.load after = .ok page ∧ readableIds position params page = .ok ids ∧
      examineWorkItems position params ids page scan [] = .ok next ∧
      if page.length < 100 then result = next.1
      else scanWorkItems position params page.getLast? (examined + page.length) next.1
        = .ok result := by
  rw [scanWorkItems] at hok
  obtain ⟨page, hload, hok⟩ := bind_ok.1 hok
  obtain ⟨_, hok⟩ := invariant_bind_ok.1 hok
  split at hok
  · obtain ⟨ids, hids, hok⟩ := bind_ok.1 hok
    obtain ⟨next, hnext, hok⟩ := bind_ok.1 hok
    obtain ⟨_, _, hok⟩ := bind_ok.1 hok
    refine ⟨page, ids, next, hload, hids, hnext, ?_⟩
    split at hok
    · next hlast =>
      rw [if_pos hlast]
      exact (Except.ok.inj hok).symm
    · next hlast =>
      rw [if_neg hlast]
      exact hok
  · cases hok

variable (hfixed : FixedTable position params compare condition rows readable test)
  (hcompare : Comparator compare) (hcondition : ∀ a b, condition a b = true ↔ compare a b < 0)
  (hzero : ∀ a b, compare a b = 0 → (position a).id = (position b).id)
  (hnodup : (rows.map fun row => (position row).id).Nodup)
include hfixed hcompare hcondition hzero hnodup

/-- **The loop over the pages** counts the admitted rows of the whole table. -/
theorem Counted.scan (hskip : 0 ≤ params.skip) (htake : 0 ≤ params.take)
    (hsplit : sortBy compare rows = seen ++ rest) {examined : Nat} {scan result : WorkItemScan α}
    (h : Counted params (admitted params readable test) seen scan)
    (hok : scanWorkItems position params seen.getLast? examined scan = .ok result) :
    Counted params (admitted params readable test) (sortBy compare rows) result := by
  induction hleft : rest.length using Nat.strong_induction_on
    generalizing seen rest examined scan with
  | _ left ih =>
  obtain ⟨page, ids, next, hload, hids, hnext, hok⟩ := scanWorkItems_ok hok
  have hne : rows.Pairwise fun a b => compare a b ≠ 0 :=
    (List.pairwise_map.1 hnodup).imp fun hid he => hid (hzero _ _ he)
  have hafter : sortBy compare (rows.filter fun row =>
      seen.getLast?.all fun boundary => condition boundary row) = rest := by
    rw [← after_split hcompare hne hsplit, after]
    congr 1
    refine List.filter_congr fun row _ => ?_
    congr 1
    funext boundary
    rw [Bool.eq_iff_iff, hcondition, decide_eq_true_eq]
  obtain rfl := (hfixed.load _ _ hload).trans (congrArg (List.take 100) hafter)
  have hsplit' : sortBy compare rows = (seen ++ rest.take 100) ++ rest.drop 100 := by
    rw [List.append_assoc, List.take_append_drop, hsplit]
  have hsub : rest.take 100 ⊆ rows := by
    intro row hrow
    have hmem : row ∈ sortBy compare rows :=
      hsplit ▸ List.mem_append_right _ (List.mem_of_mem_take hrow)
    exact mem_sortBy.1 hmem
  have hpage : ((rest.take 100).map fun row => (position row).id).Nodup := by
    have hall : ((sortBy compare rows).map fun row => (position row).id).Nodup :=
      ((sortBy_perm compare rows).map _).nodup_iff.2 hnodup
    rw [hsplit', List.map_append, List.map_append] at hall
    exact (List.nodup_append.1 (List.nodup_append.1 hall).1).2.1
  have hcounted := h.examine hfixed hskip htake hsub (mem_readableIds hfixed hsub hpage hids) hnext
  split at hok
  · next hshort =>
    have hdone : rest.drop 100 = [] := by
      rw [List.length_take] at hshort
      exact List.drop_eq_nil_of_le (by omega)
    rw [hok, hsplit', hdone, List.append_nil]
    exact hcounted
  · next hlong =>
    rw [List.length_take] at hlong
    have hlast : (rest.take 100).getLast? = (seen ++ rest.take 100).getLast? := by
      rw [List.getLast?_append]
      cases hcase : (rest.take 100).getLast? with
      | some last => rfl
      | none =>
        have hlength := congrArg List.length (List.getLast?_eq_none_iff.1 hcase)
        rw [List.length_take, List.length_nil] at hlength
        omega
    rw [hlast] at hok
    refine ih _ ?_ hsplit' hcounted hok rfl
    rw [List.length_drop]
    omega

/-- **The page of a fixed table**, in any order of which the condition on the rows after a row is
the strict part, and in which only a row itself ties with it. -/
theorem readableWorkItemPage_slice {items : List α} {total : Nat}
    (hok : readableWorkItemPage position params = .ok (items, total)) :
    total = (rows.filter (admitted params readable test)).length ∧
      items = (((sortBy compare rows).filter (admitted params readable test)).drop
        params.skip.toNat).take params.take.toNat := by
  obtain ⟨hinput, hok⟩ := invariant_bind_ok.1 hok
  obtain ⟨scan, hscan, hok⟩ := bind_ok.1 hok
  obtain ⟨rfl, rfl⟩ := Prod.mk.inj (Except.ok.inj hok)
  simp only [Bool.and_eq_true, decide_eq_true_eq] at hinput
  have hstart : Counted params (admitted params readable test) [] ⟨[], 0⟩ := ⟨rfl, by simp⟩
  have hcounted := hstart.scan hfixed hcompare hcondition hzero hnodup hinput.2 hinput.1.1.1.2
    (nil_append (sortBy compare rows)).symm hscan
  refine ⟨?_, hcounted.items⟩
  rw [hcounted.total]
  exact ((sortBy_perm compare rows).filter _).length_eq

end

/-! ## The lists -/

theorem comparator_idAsc : Comparator (idAsc collation) := collation.comparator.on _

theorem comparator_idDesc : Comparator (idDesc collation) := (collation.comparator.on _).flip

theorem comparator_titleAsc : Comparator (titleAsc collation) := collation.comparator.on _

theorem comparator_createdAsc : Comparator createdAsc :=
  (Comparator.descending WorkItemPosition.createdAt).flip

theorem comparator_createdDesc : Comparator createdDesc := .descending _

theorem comparator_priorityDesc : Comparator priorityDesc := .descending _

theorem comparator_dateDesc : Comparator (orderBy [createdDesc, idDesc collation]) :=
  comparator_orderBy_cons comparator_createdDesc
    (comparator_orderBy_cons comparator_idDesc comparator_orderBy_nil)

/-- The order of a list of tensions or proposals is consistent. -/
theorem comparator_workItemOrderBy (sort : Option WorkItemSort) :
    Comparator (orderBy (workItemOrderBy collation sort)) := by
  unfold workItemOrderBy
  split
  · exact comparator_orderBy_cons comparator_titleAsc comparator_dateDesc
  split
  · exact comparator_dateDesc
  · exact comparator_orderBy_cons comparator_priorityDesc comparator_dateDesc

/-- Only rows with one id tie in it. -/
theorem workItemOrderBy_eq_zero {sort : Option WorkItemSort}
    (h : orderBy (workItemOrderBy collation sort) row other = 0) : row.id = other.id := by
  have hid : idDesc collation row other = 0 := by
    unfold workItemOrderBy at h
    split at h
    · exact (orElse_eq_zero.1 (orElse_eq_zero.1 (orElse_eq_zero.1 h).2).2).1
    split at h
    · exact (orElse_eq_zero.1 (orElse_eq_zero.1 h).2).1
    · exact (orElse_eq_zero.1 (orElse_eq_zero.1 (orElse_eq_zero.1 h).2).2).1
  exact (collation.eq_of_zero _ _ hid).symm

theorem comparator_actionOrderBy (sort : Option ActionSort) :
    Comparator (orderBy (actionOrderBy (β := β) collation sort)) := by
  have hdue : Comparator (nullsLast
      (if sort = some .due_asc then (· - ·) else fun x y => y - x)) := by
    refine comparator_nullsLast ?_
    split
    exacts [(Comparator.descending id).flip, .descending id]
  have hdate : Comparator (orderBy ([createdDesc, idDesc collation].map
      fun key (a b : ActionRow β) => key a.toWorkItemPosition b.toWorkItemPosition)) :=
    comparator_dateDesc.on ActionRow.toWorkItemPosition
  unfold actionOrderBy
  dsimp only
  split
  · exact comparator_orderBy_cons (comparator_titleAsc.on ActionRow.toWorkItemPosition) hdate
  split
  · exact comparator_orderBy_cons (comparator_createdAsc.on ActionRow.toWorkItemPosition)
      (comparator_orderBy_cons (comparator_idAsc.on ActionRow.toWorkItemPosition)
        comparator_orderBy_nil)
  split
  · exact comparator_orderBy_cons (hdue.on ActionRow.dueAt) hdate
  split
  · exact hdate
  · exact comparator_orderBy_cons (comparator_priorityDesc.on ActionRow.toWorkItemPosition) hdate

/-- Only rows with one id tie in it. -/
theorem actionOrderBy_eq_zero {row other : ActionRow β}
    (h : orderBy (actionOrderBy collation sort) row other = 0) : row.id = other.id := by
  have hdesc (h : idDesc collation row.toWorkItemPosition other.toWorkItemPosition = 0) :
      row.id = other.id := (collation.eq_of_zero _ _ h).symm
  unfold actionOrderBy at h
  dsimp only at h
  split at h
  · exact hdesc (orElse_eq_zero.1 (orElse_eq_zero.1 (orElse_eq_zero.1 h).2).2).1
  split at h
  · exact collation.eq_of_zero _ _ (orElse_eq_zero.1 (orElse_eq_zero.1 h).2).1
  split at h
  · exact hdesc (orElse_eq_zero.1 (orElse_eq_zero.1 (orElse_eq_zero.1 h).2).2).1
  split at h
  · exact hdesc (orElse_eq_zero.1 (orElse_eq_zero.1 h).2).1
  · exact hdesc (orElse_eq_zero.1 (orElse_eq_zero.1 (orElse_eq_zero.1 h).2).2).1

/-- **A page of work items** is the slice of the admitted rows in the order of the list, and its
total is their number, where the table stays fixed during the call and the call does not throw. The
condition on the rows after a row selects the ones after it in the order, for any two rows. -/
theorem readableWorkItemPage_orders (collation : Collation) :
    (∀ (sort : Option WorkItemSort) (row other : WorkItemPosition),
      workItemAfter collation row (sort.map WorkItemSort.toActionSort) other = true ↔
        orderBy (workItemOrderBy collation sort) row other < 0) ∧
    (∀ (β : Type) (sort : Option ActionSort) (row other : ActionRow β),
      actionPageAfter collation row sort other = true ↔
        orderBy (actionOrderBy collation sort) row other < 0) ∧
    (∀ (α : Type) (position : α → WorkItemPosition) (params : WorkItemPageParams α)
        (sort : Option WorkItemSort) (rows : List α) (readable test : α → Bool) (items : List α)
        (total : Nat),
      FixedTable position params
        (fun a b => orderBy (workItemOrderBy collation sort) (position a) (position b))
        (fun boundary row => workItemAfter collation (position boundary)
          (sort.map WorkItemSort.toActionSort) (position row)) rows readable test →
      (rows.map fun row => (position row).id).Nodup →
      readableWorkItemPage position params = .ok (items, total) →
      total = (rows.filter (admitted params readable test)).length ∧
        items = (((sortBy
            (fun a b => orderBy (workItemOrderBy collation sort) (position a) (position b))
            rows).filter (admitted params readable test)).drop
          params.skip.toNat).take params.take.toNat) ∧
    ∀ (β : Type) (params : WorkItemPageParams (ActionRow β)) (sort : Option ActionSort)
        (rows : List (ActionRow β)) (readable test : ActionRow β → Bool)
        (items : List (ActionRow β)) (total : Nat),
      FixedTable ActionRow.toWorkItemPosition params (orderBy (actionOrderBy collation sort))
        (fun boundary row => actionPageAfter collation boundary sort row) rows readable test →
      (rows.map fun row => row.id).Nodup →
      readableWorkItemPage ActionRow.toWorkItemPosition params = .ok (items, total) →
      total = (rows.filter (admitted params readable test)).length ∧
        items = (((sortBy (orderBy (actionOrderBy collation sort)) rows).filter
          (admitted params readable test)).drop params.skip.toNat).take params.take.toNat := by
  refine ⟨fun _ _ _ => workItemAfter_iff, fun _ _ _ _ => actionPageAfter_iff, ?_, ?_⟩
  · intro α position params sort rows readable test items total hfixed hnodup hok
    exact readableWorkItemPage_slice hfixed ((comparator_workItemOrderBy sort).on position)
      (fun _ _ => workItemAfter_iff) (fun _ _ => workItemOrderBy_eq_zero) hnodup hok
  · intro β params sort rows readable test items total hfixed hnodup hok
    exact readableWorkItemPage_slice hfixed (comparator_actionOrderBy sort)
      (fun _ _ => actionPageAfter_iff) (fun _ _ => actionOrderBy_eq_zero) hnodup hok

end

def WorkItemPageParams.ofTable {α : Type} (position : α → WorkItemPosition)
    (compare : α → α → Int) (condition : α → α → Bool) (rows : List α) (readable test : α → Bool)
    (take skip : Int) : WorkItemPageParams α where
  take := take
  skip := skip
  load boundary := .ok <| (sortBy compare (rows.filter fun row =>
    boundary.all fun boundary => condition boundary row)).take 100
  readable page := .ok ((page.filter readable).map fun row => (position row).id)
  admitRows page := .ok (page.filter readable)
  observe _ := .ok ()
  admitOne := some fun row => .ok (test row)

theorem ofTable_fixed {α : Type} {position : α → WorkItemPosition} {compare : α → α → Int}
    {condition : α → α → Bool} {rows : List α} {readable test : α → Bool} {take skip : Int}
    (hnodup : (rows.map fun row => (position row).id).Nodup) :
    FixedTable position (.ofTable position compare condition rows readable test take skip) compare
      condition rows readable test where
  load _ _ h := (Except.ok.inj h).symm
  mem_ids page ids hpage h row hrow := by
    obtain rfl := Except.ok.inj h
    constructor
    · intro hmem
      obtain ⟨other, hother, hid⟩ := mem_map.1 hmem
      obtain ⟨hother, hreadable⟩ := mem_filter.1 hother
      exact inj_on_of_nodup_map hnodup (hpage hother) (hpage hrow) hid ▸ hreadable
    · exact fun hreadable => mem_map.2 ⟨row, mem_filter.2 ⟨hrow, hreadable⟩, rfl⟩
  admitted _ _ _ h := (Except.ok.inj h).symm
  admits admitOne hadmitted row _ admits h := by
    obtain rfl := Option.some.inj hadmitted
    exact (Except.ok.inj h).symm

/-- The comparison by code units. -/
def codeUnits : Collation where
  collate := JsString.compare
  comparator := JsString.comparator_compare
  eq_of_zero _ _ := JsString.compare_eq_zero.1

/-- Two actions that are due and one that is not. -/
def dueActions : List (ActionRow Unit) :=
  [⟨⟨.lit "a", .lit "Later", 0, 7⟩, none, ()⟩, ⟨⟨.lit "b", .lit "Soon", 0, 7⟩, some 20, ()⟩,
    ⟨⟨.lit "c", .lit "First", 0, 7⟩, some 10, ()⟩]

/-- Their page of two after the first, by due date. -/
def duePage : WorkItemPageParams (ActionRow Unit) :=
  .ofTable ActionRow.toWorkItemPosition (orderBy (actionOrderBy codeUnits (some .due_asc)))
    (fun boundary row => actionPageAfter codeUnits boundary (some .due_asc) row) dueActions
    (fun _ => true) (fun _ => true) 2 1

/-- The action without a due date is the last of them. -/
theorem readableWorkItemPage_orders_due :
    readableWorkItemPage ActionRow.toWorkItemPosition duePage
      = .ok ((dueActions.take 2).reverse, 3) ∧
    3 = (dueActions.filter (admitted duePage (fun _ => true) fun _ => true)).length ∧
    (dueActions.take 2).reverse =
      (((sortBy (orderBy (actionOrderBy codeUnits (some .due_asc))) dueActions).filter
        (admitted duePage (fun _ => true) fun _ => true)).drop 1).take 2 := by
  have hok : readableWorkItemPage ActionRow.toWorkItemPosition duePage
      = .ok ((dueActions.take 2).reverse, 3) := by decide +kernel
  exact ⟨hok, (readableWorkItemPage_orders codeUnits).2.2.2 Unit duePage (some .due_asc) dueActions
    (fun _ => true) (fun _ => true) _ _ (ofTable_fixed (by decide +kernel)) (by decide +kernel) hok⟩

end Corgtex.Domain
