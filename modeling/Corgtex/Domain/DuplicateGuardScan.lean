import Corgtex.Domain.Errors
import Corgtex.Library.KeyedTable
import Corgtex.Library.Keyset

/-!
# The scan of the duplicate guard

`permittedRows` (`duplicate-guard.ts:331`) reads the rows that a query orders in batches and keeps
those that its filter admits, until it has enough of them. All calls of one request draw on one
budget of 5000 rows; when that is used up, one row more is asked for, and if there is one, the
request ends with an error instead of an answer (`runCalls_complete`).

A table stays fixed during a request. `κ` holds the values of the columns that are sorted by, times
and ids; a column may be null, the id is not.
-/

namespace Corgtex.Domain.DuplicateGuard

open JsArray Keyset List

/-! ## Queries -/

section
variable {ρ κ : Type} [LinearOrder κ]

section
variable (field : ρ → Option κ)

/-- `{ field: "desc" }`: PostgreSQL has the nulls first. -/
def descending (a b : ρ) : Int :=
  match field a, field b with
  | none, none => 0
  | none, some _ => -1
  | some _, none => 1
  | some x, some y => if y < x then -1 else if x < y then 1 else 0

/-- `{ field: value }`, which holds of no null. -/
def equals (row anchor : ρ) : Bool :=
  (field row).any fun x => (field anchor).any fun y => x = y

/-- `{ field: { lt: value } }`, which holds of no null. -/
def lessThan (row anchor : ρ) : Bool :=
  (field row).any fun x => (field anchor).any fun y => x < y

end

variable (fields : List (ρ → Option κ)) (anchor row : ρ)

/-- A clause of the `boundary` (line 339): the fields before it are equal. -/
def boundaryClause (index : Nat) : Bool :=
  ((fields.take index).all fun field => equals field row anchor) &&
    fields[index]?.any fun field => lessThan field row anchor

/-- `boundary` (line 339). -/
def boundary : Bool :=
  (List.range fields.length).any (boundaryClause fields anchor row)

end

/-- A query of `permittedRows`: the table, `args.where`, `args.orderBy` and `args.take`. -/
structure GuardQuery (ρ κ : Type) where
  key : ρ → κ
  table : KeyedTable ρ key
  condition : ρ → Bool
  columns : List (ρ → Option κ)
  take : Nat

/-- A `CandidateFilter`: the rows of a batch that it admits, in their order. -/
structure CandidateFilter (ρ : Type) where
  permitted : List ρ → List ρ
  sublist : ∀ batch, (permitted batch).Sublist batch

/-- What a call has come to: the rows or an error, the `scannedRows`, and the number of rows that it
has read. -/
structure Scan (ρ : Type) where
  outcome : Except AppError (List ρ)
  scannedRows : Nat
  rowsRead : Nat

/-- `SCAN_BATCH_SIZE` (line 92). -/
def SCAN_BATCH_SIZE : Nat := 100

/-- `SCAN_ROW_BUDGET` (line 93). -/
def SCAN_ROW_BUDGET : Nat := 5000

/-- `DEFAULT_CANDIDATE_LIMIT` (line 87). -/
def DEFAULT_CANDIDATE_LIMIT : Nat := 50

/-- `EXACT_LOOKUP_TAKE` (line 91). -/
def EXACT_LOOKUP_TAKE : Nat := 5

/-- The error of a request whose budget is used up. -/
def scanLimit (message : String) : AppError := ⟨503, "DUPLICATE_GUARD_SCAN_LIMIT", message⟩

section
variable {ρ κ : Type} [LinearOrder κ]

namespace GuardQuery

variable (query : GuardQuery ρ κ)

/-- `fields` (line 335): the id comes last. -/
def fields : List (ρ → Option κ) := query.columns ++ [fun row => some (query.key row)]

/-- `orderBy` (line 334). -/
def order : ρ → ρ → Int := orderBy (query.fields.map descending)

/-- The rows that the query is about, in its order. -/
def ordered : List ρ := sortBy query.order (query.table.rows.filter query.condition)

/-- `findMany` with the `boundary`, if there is one (line 345). -/
def findMany (after : Option ρ) (take : Nat) : List ρ :=
  (sortBy query.order (query.table.rows.filter fun row =>
    query.condition row && after.all fun after => boundary query.fields after row)).take take

/-- The loop over the rows that a filter has admitted (line 361). -/
def admitRows (rawIds : List κ) : List ρ → List ρ → List ρ
  | admitted, [] => admitted
  | admitted, row :: visible =>
    let admitted :=
      if rawIds.contains (query.key row) && !(admitted.map query.key).contains (query.key row) then
        admitted ++ [row]
      else admitted
    if admitted.length = query.take then admitted else admitRows rawIds admitted visible

/-- The `take` of a batch (line 344). -/
def batchTake (scannedRows : Nat) : Nat :=
  min SCAN_BATCH_SIZE (min (max DEFAULT_CANDIDATE_LIMIT query.take)
    (max 1 (SCAN_ROW_BUDGET - scannedRows)))

/-- `visible`: what the filter, if there is one, leaves of a batch. -/
def visible (filter : Option (CandidateFilter ρ)) (batch : List ρ) : List ρ :=
  filter.elim batch fun filter => filter.permitted batch

/-- The loop of `permittedRows`, from a boundary and with the rows admitted before it. -/
def permittedRowsAfter (filter : Option (CandidateFilter ρ)) (scannedRows rowsRead : Nat)
    (admitted : List ρ) (after : Option ρ) : Scan ρ :=
  if query.take ≤ admitted.length then ⟨.ok admitted, scannedRows, rowsRead⟩
  else
    let batch := query.findMany after (query.batchTake scannedRows)
    if _hremaining : SCAN_ROW_BUDGET - scannedRows = 0 then
      if batch.length = 0 then ⟨.ok admitted, scannedRows, rowsRead⟩
      else ⟨.error (scanLimit
        "Duplicate selection could not be completed within its scan budget."), scannedRows,
        rowsRead + batch.length⟩
    else if _hbatch : batch.length = 0 then ⟨.ok admitted, scannedRows, rowsRead⟩
    else
      let taken := query.admitRows (batch.map query.key) admitted (visible filter batch)
      if taken.length = query.take ∨ batch.length < query.batchTake scannedRows then
        ⟨.ok taken, scannedRows + batch.length, rowsRead + batch.length⟩
      else if query.fields.all fun field => batch.getLast?.any fun last => (field last).isSome then
        permittedRowsAfter filter (scannedRows + batch.length) (rowsRead + batch.length) taken
          batch.getLast?
      else ⟨.error (scanLimit "Duplicate selection could not establish a stable scan boundary."),
        scannedRows + batch.length, rowsRead + batch.length⟩
termination_by SCAN_ROW_BUDGET - scannedRows
decreasing_by
  exact Nat.sub_lt_sub_left (Nat.pos_of_ne_zero _hremaining |> Nat.lt_of_sub_pos)
    (Nat.lt_add_of_pos_right (Nat.pos_of_ne_zero _hbatch))

/-- `permittedRows` (line 331) in a request that has scanned some rows before. -/
def permittedRows (filter : Option (CandidateFilter ρ)) (scannedRows : Nat) : Scan ρ :=
  query.permittedRowsAfter filter scannedRows 0 [] none

end GuardQuery

/-- `exactRows` (line 373): the archived rows are looked at if no active one is admitted. -/
def exactRows (active archived : GuardQuery ρ κ) (filter : Option (CandidateFilter ρ))
    (scannedRows : Nat) : Scan ρ :=
  let scan := active.permittedRows filter scannedRows
  match scan.outcome with
  | .ok [] =>
    let rest := archived.permittedRows filter scan.scannedRows
    { rest with rowsRead := scan.rowsRead + rest.rowsRead }
  | _ => scan

/-- A call of one of the two; `exactRows` asks for five rows. -/
inductive GuardCall (ρ κ : Type)
  | permittedRows (query : GuardQuery ρ κ)
  | exactRows (active archived : GuardQuery ρ κ)

def GuardCall.run (filter : Option (CandidateFilter ρ)) (scannedRows : Nat) : GuardCall ρ κ → Scan ρ
  | .permittedRows query => query.permittedRows filter scannedRows
  | .exactRows active archived =>
    DuplicateGuard.exactRows { active with take := EXACT_LOOKUP_TAKE }
      { archived with take := EXACT_LOOKUP_TAKE } filter scannedRows

/-- The calls of a request, with what each has come to, and the numbers of rows scanned and read. -/
structure RequestScan (ρ κ : Type) where
  answers : List (GuardCall ρ κ × Except AppError (List ρ))
  scannedRows : Nat
  rowsRead : Nat

/-- The calls of a request one after the other, up to one that throws. -/
def runCalls (filter : Option (CandidateFilter ρ)) : Nat → List (GuardCall ρ κ) → RequestScan ρ κ
  | scannedRows, [] => ⟨[], scannedRows, 0⟩
  | scannedRows, call :: calls =>
    let scan := call.run filter scannedRows
    match scan.outcome with
    | .error error => ⟨[(call, .error error)], scan.scannedRows, scan.rowsRead⟩
    | .ok rows =>
      let rest := runCalls filter scan.scannedRows calls
      ⟨(call, .ok rows) :: rest.answers, rest.scannedRows, scan.rowsRead + rest.rowsRead⟩

end

/-! ## The order and its boundary -/

section
variable {ρ κ : Type} [LinearOrder κ] {field : ρ → Option κ} {fields : List (ρ → Option κ)}
  {a b anchor row : ρ}

theorem descending_eq_zero : descending field a b = 0 ↔ field a = field b := by
  unfold descending
  cases field a <;> cases field b <;> simp
  next x y =>
    rcases lt_trichotomy x y with h | rfl | h
    · simp [h.not_gt, h, h.ne]
    · simp
    · simp [h, h.ne']

theorem comparator_descending : Comparator (descending field) := by
  constructor
  · intro a b
    unfold descending
    cases field a <;> cases field b <;> simp
    next x y =>
      rcases lt_trichotomy x y with h | rfl | h
      · simp [h.not_gt, h]
      · simp
      · simp [h.not_gt, h]
  · intro a b c hab hbc
    unfold descending at *
    cases ha : field a <;> cases hb : field b <;> cases hc : field c <;> simp_all
    next x y z =>
      have hyx : y ≤ x := by
        by_contra h
        simp [(not_le.1 h).not_gt, not_le.1 h] at hab
      have hzy : z ≤ y := by
        by_contra h
        simp [(not_le.1 h).not_gt, not_le.1 h] at hbc
      rcases (hzy.trans hyx).lt_or_eq with h | rfl
      · simp [h]
      · simp

theorem comparator_orderBy_descending (fields : List (ρ → Option κ)) :
    Comparator (orderBy (fields.map descending)) := by
  induction fields with
  | nil => exact comparator_orderBy_nil
  | cons field fields ih => exact comparator_orderBy_cons comparator_descending ih

/-- Rows that compare as equal are equal in every column. -/
theorem orderBy_descending_eq_zero :
    orderBy (fields.map descending) a b = 0 ↔ ∀ field ∈ fields, field a = field b := by
  induction fields with
  | nil => simp [orderBy]
  | cons field fields ih =>
    rw [map_cons, orderBy, foldr_cons, orElse_eq_zero, descending_eq_zero, forall_mem_cons]
    exact and_congr_right fun _ => ih

theorem lessThan_iff (h : (field anchor).isSome) :
    lessThan field row anchor = true ↔ descending field anchor row < 0 := by
  obtain ⟨y, hy⟩ := Option.isSome_iff_exists.1 h
  unfold lessThan descending
  rw [hy]
  cases field row with
  | none => simp
  | some x =>
    by_cases hxy : x < y
    · simp [hxy]
    · simp only [hxy, Option.any_some, decide_false, Bool.false_eq_true, if_false, false_iff]
      split <;> omega

theorem equals_iff (h : (field anchor).isSome) :
    equals field row anchor = true ↔ descending field anchor row = 0 := by
  obtain ⟨y, hy⟩ := Option.isSome_iff_exists.1 h
  rw [descending_eq_zero, equals, hy]
  cases field row <;> simp [eq_comm]

theorem boundary_cons :
    boundary (field :: fields) anchor row =
      (lessThan field row anchor || equals field row anchor && boundary fields anchor row) := by
  have hclause (index : Nat) : boundaryClause (field :: fields) anchor row (index + 1) =
      (equals field row anchor && boundaryClause fields anchor row index) := by
    simp [boundaryClause, Bool.and_assoc]
  have hzero : boundaryClause (field :: fields) anchor row 0 = lessThan field row anchor := by
    simp [boundaryClause]
  rw [boundary, length_cons, range_succ_eq_map, any_cons, hzero, any_map]
  congr 1
  rw [Bool.eq_iff_iff]
  simp [boundary, Function.comp_def, hclause, and_left_comm]

/-- **The boundary of an anchor without nulls** holds of the rows that come after it. -/
theorem boundary_iff (h : ∀ field ∈ fields, (field anchor).isSome) :
    boundary fields anchor row = true ↔ orderBy (fields.map descending) anchor row < 0 := by
  induction fields with
  | nil => simp [boundary, orderBy]
  | cons field fields ih =>
    obtain ⟨hfield, hfields⟩ := forall_mem_cons.1 h
    rw [boundary_cons, map_cons, orderBy, foldr_cons, orElse_neg, Bool.or_eq_true,
      Bool.and_eq_true, lessThan_iff hfield, equals_iff hfield, ih hfields]
    rfl

end

/-! ## Pages of a query -/

section
variable {ρ κ : Type} [LinearOrder κ] {query : GuardQuery ρ κ} {seen rest : List ρ}

namespace GuardQuery

theorem nodup_ordered : (query.ordered.map query.key).Nodup :=
  ((sortBy_perm _ _).map _).nodup_iff.2 (query.table.nodup.sublist (filter_sublist.map _))

omit [LinearOrder κ] in
theorem mem_fields_key : (fun row => some (query.key row)) ∈ query.fields := by
  simp [fields]

/-- No two rows compare as equal, since the id comes last. -/
theorem pairwise_order :
    (query.table.rows.filter query.condition).Pairwise fun a b => query.order a b ≠ 0 := by
  have hnodup := query.table.nodup.sublist (filter_sublist (p := query.condition) |>.map query.key)
  refine (pairwise_map.1 hnodup).imp fun hkey he => hkey ?_
  exact Option.some.inj (orderBy_descending_eq_zero.1 he _ mem_fields_key)

/-- **A batch** is the next piece of the ordered rows. -/
theorem findMany_eq (hsplit : query.ordered = seen ++ rest)
    (hanchor : ∀ anchor ∈ seen.getLast?, ∀ field ∈ query.fields, (field anchor).isSome)
    (take : Nat) : query.findMany seen.getLast? take = rest.take take := by
  have hafter := after_split (comparator_orderBy_descending query.fields) pairwise_order hsplit
  rw [← hafter, findMany, Keyset.after, filter_filter]
  congr 2
  refine filter_congr fun row _ => ?_
  rw [Bool.and_comm]
  congr 1
  cases hlast : seen.getLast? with
  | none => rfl
  | some anchor =>
    rw [Option.all_some, Option.all_some, Bool.eq_iff_iff, decide_eq_true_eq]
    exact boundary_iff (hanchor anchor hlast)

/-- The rows of a batch that are admitted, until there are enough. -/
theorem admitRows_eq {rawIds : List κ} {visible admitted : List ρ}
    (hraw : ∀ row ∈ visible, query.key row ∈ rawIds)
    (hnodup : ((admitted ++ visible).map query.key).Nodup)
    (hfew : admitted.length < query.take) :
    query.admitRows rawIds admitted visible = (admitted ++ visible).take query.take := by
  induction visible generalizing admitted with
  | nil =>
    rw [admitRows, append_nil, take_of_length_le hfew.le]
  | cons row visible ih =>
    have hnew : query.key row ∉ admitted.map query.key := by
      intro hmem
      rw [map_append, nodup_append] at hnodup
      exact hnodup.2.2 _ hmem _ (by simp) rfl
    have htaken : (rawIds.contains (query.key row) &&
        !(admitted.map query.key).contains (query.key row)) = true := by
      rw [Bool.and_eq_true, Bool.not_eq_true', contains_iff_mem, ← Bool.not_eq_true,
        contains_iff_mem]
      exact ⟨hraw row (by simp), hnew⟩
    have happend : admitted ++ row :: visible = (admitted ++ [row]) ++ visible := by simp
    unfold admitRows
    simp only [if_pos htaken]
    rw [happend]
    split
    · next hfull => rw [← hfull, take_left]
    · next hfull =>
      refine ih (fun other hother => hraw other (by simp [hother])) (happend ▸ hnodup) ?_
      rw [length_append, length_singleton] at hfull ⊢
      omega

end GuardQuery

theorem visible_sublist (filter : Option (CandidateFilter ρ)) (batch : List ρ) :
    (GuardQuery.visible filter batch).Sublist batch := by
  cases filter with
  | none => exact List.Sublist.refl batch
  | some filter => exact filter.sublist batch

end

/-! ## Answers -/

section
variable {ρ κ : Type} (query : GuardQuery ρ κ) (filter : Option (CandidateFilter ρ))

/-- `rows` are the first admitted rows of `rest` in batches, after `admitted` ones; a shorter answer
has seen all of them. -/
def Selects (admitted rest rows : List ρ) : Prop :=
  ∃ batches : List (List ρ), batches.flatten <+: rest ∧
    rows = (admitted ++ batches.flatMap (GuardQuery.visible filter)).take query.take ∧
    (rows.length = query.take ∨ batches.flatten = rest)

variable {query filter} {admitted rest rows : List ρ}

variable (query) in
theorem batchTake_pos (scannedRows : Nat) : 0 < query.batchTake scannedRows := by
  unfold GuardQuery.batchTake SCAN_BATCH_SIZE DEFAULT_CANDIDATE_LIMIT
  omega

theorem batchTake_le {scannedRows : Nat} :
    query.batchTake scannedRows ≤ max 1 (SCAN_ROW_BUDGET - scannedRows) := by
  unfold GuardQuery.batchTake
  omega

theorem Selects.cons {batch : List ρ}
    (h : Selects query filter (admitted ++ GuardQuery.visible filter batch) rest rows) :
    Selects query filter admitted (batch ++ rest) rows := by
  obtain ⟨batches, hpieces, hrows, henough⟩ := h
  refine ⟨batch :: batches, ?_, ?_, ?_⟩
  · rw [flatten_cons]
    exact (prefix_append_right_inj batch).2 hpieces
  · rw [hrows, flatMap_cons, append_assoc]
  · rw [flatten_cons]
    exact henough.imp id fun hall => by rw [hall]

/-- The answer that a batch completes: it fills the rows, or it is the rest. -/
theorem Selects.last {take : Nat}
    (hend : ((admitted ++ GuardQuery.visible filter (rest.take take)).take query.take).length =
      query.take ∨ (rest.take take).length < take) :
    Selects query filter admitted rest
      ((admitted ++ GuardQuery.visible filter (rest.take take)).take query.take) := by
  refine ⟨[rest.take take], ?_, ?_, hend.imp id fun hshort => ?_⟩
  · simpa using take_prefix take rest
  · simp
  · rw [flatten_singleton, take_of_length_le]
    rw [length_take] at hshort
    omega

/-- Nothing is left to be seen, or to be admitted. -/
theorem Selects.nil (hfew : admitted.length ≤ query.take)
    (hend : admitted.length = query.take ∨ rest = []) :
    Selects query filter admitted rest admitted :=
  ⟨[], by simp, by simp [take_of_length_le hfew], hend.imp id fun h => by simp [h]⟩

end

section
variable {ρ κ : Type} [LinearOrder κ] (query : GuardQuery ρ κ) (filter : Option (CandidateFilter ρ))

/-- What a round of the loop comes to, with the batch that it reads. -/
inductive Round (scannedRows rowsRead : Nat) (admitted batch : List ρ) : Scan ρ → Prop
  | full (hfull : query.take ≤ admitted.length) :
    Round scannedRows rowsRead admitted batch ⟨.ok admitted, scannedRows, rowsRead⟩
  | exhausted (hbatch : batch = []) :
    Round scannedRows rowsRead admitted batch ⟨.ok admitted, scannedRows, rowsRead⟩
  | exceeded {message : String} (hbudget : SCAN_ROW_BUDGET ≤ scannedRows) :
    Round scannedRows rowsRead admitted batch
      ⟨.error (scanLimit message), scannedRows, rowsRead + batch.length⟩
  | last {taken : List ρ} (hfew : admitted.length < query.take)
    (hbudget : scannedRows < SCAN_ROW_BUDGET)
    (htaken : taken =
      query.admitRows (batch.map query.key) admitted (GuardQuery.visible filter batch))
    (hend : taken.length = query.take ∨ batch.length < query.batchTake scannedRows) :
    Round scannedRows rowsRead admitted batch
      ⟨.ok taken, scannedRows + batch.length, rowsRead + batch.length⟩
  | unstable {message : String} (hbudget : scannedRows < SCAN_ROW_BUDGET) :
    Round scannedRows rowsRead admitted batch
      ⟨.error (scanLimit message), scannedRows + batch.length, rowsRead + batch.length⟩
  | next {taken : List ρ} (hfew : admitted.length < query.take)
    (hbudget : scannedRows < SCAN_ROW_BUDGET) (hbatch : batch ≠ [])
    (htaken : taken =
      query.admitRows (batch.map query.key) admitted (GuardQuery.visible filter batch))
    (hmore : taken.length ≠ query.take)
    (hanchor : ∀ anchor ∈ batch.getLast?, ∀ field ∈ query.fields, (field anchor).isSome) :
    Round scannedRows rowsRead admitted batch
      (query.permittedRowsAfter filter (scannedRows + batch.length) (rowsRead + batch.length) taken
        batch.getLast?)

theorem permittedRowsAfter_round (scannedRows rowsRead : Nat) (admitted : List ρ)
    (after : Option ρ) :
    Round query filter scannedRows rowsRead admitted
      (query.findMany after (query.batchTake scannedRows))
      (query.permittedRowsAfter filter scannedRows rowsRead admitted after) := by
  unfold GuardQuery.permittedRowsAfter
  split
  · next hfull => exact .full hfull
  next hfull =>
    dsimp only
    split
    · next hremaining =>
      split
      · next hbatch => exact .exhausted (length_eq_zero_iff.1 hbatch)
      · exact .exceeded (Nat.sub_eq_zero_iff_le.1 hremaining)
    next hremaining =>
      have hbudget : scannedRows < SCAN_ROW_BUDGET := by omega
      split
      · next hbatch => exact .exhausted (length_eq_zero_iff.1 hbatch)
      next hbatch =>
        split
        · next hend => exact .last (not_le.1 hfull) hbudget rfl hend
        next hend =>
          split
          · next hanchor =>
            refine .next (not_le.1 hfull) hbudget (mt length_eq_zero_iff.2 hbatch) rfl
              (not_or.1 hend).1 fun anchor hlast field hfield => ?_
            have := all_eq_true.1 hanchor field hfield
            rwa [Option.mem_def.1 hlast, Option.any_some] at this
          · exact .unstable hbudget

end

section
variable {ρ κ : Type} [LinearOrder κ] {query : GuardQuery ρ κ} {filter : Option (CandidateFilter ρ)}
  {admitted seen rest rows : List ρ}

theorem admitRows_batch {batch tail : List ρ} (hsplit : query.ordered = seen ++ (batch ++ tail))
    (hseen : admitted.Sublist seen) (hfew : admitted.length < query.take) :
    query.admitRows (batch.map query.key) admitted (GuardQuery.visible filter batch) =
      (admitted ++ GuardQuery.visible filter batch).take query.take := by
  have hvisible := visible_sublist filter batch
  refine GuardQuery.admitRows_eq (fun row hrow => ?_) ?_ hfew
  · exact mem_map_of_mem (hvisible.subset hrow)
  · refine GuardQuery.nodup_ordered.sublist (List.Sublist.map query.key ?_)
    rw [hsplit]
    exact hseen.append (hvisible.trans (sublist_append_left batch tail))

/-- **The loop** selects among the rows after its boundary. -/
theorem permittedRowsAfter_selects (hsplit : query.ordered = seen ++ rest)
    (hanchor : ∀ anchor ∈ seen.getLast?, ∀ field ∈ query.fields, (field anchor).isSome)
    (hseen : admitted.Sublist seen) (hfew : admitted.length ≤ query.take)
    (scannedRows rowsRead : Nat)
    (hrows : (query.permittedRowsAfter filter scannedRows rowsRead admitted
      seen.getLast?).outcome = .ok rows) : Selects query filter admitted rest rows := by
  induction hbudget : SCAN_ROW_BUDGET - scannedRows using Nat.strong_induction_on
    generalizing scannedRows rowsRead admitted seen rest with
  | _ budget ih =>
    have hround := permittedRowsAfter_round query filter scannedRows rowsRead admitted seen.getLast?
    have hpos := batchTake_pos query scannedRows
    have hrest := (take_append_drop (query.batchTake scannedRows) rest).symm
    rw [GuardQuery.findMany_eq hsplit hanchor] at hround
    generalize hscan : query.permittedRowsAfter filter scannedRows rowsRead admitted seen.getLast? =
      scan at hround hrows
    cases hround with
    | full hfull =>
      cases hrows
      exact .nil hfew (.inl (hfew.antisymm hfull))
    | exhausted hbatch =>
      cases hrows
      refine .nil hfew (.inr ?_)
      rcases take_eq_nil_iff.1 hbatch with h | h
      · omega
      · exact h
    | exceeded => cases hrows
    | unstable => cases hrows
    | last hfew' _ htaken hend =>
      cases hrows
      rw [hrest] at hsplit
      rw [admitRows_batch hsplit hseen hfew'] at htaken
      subst htaken
      exact .last hend
    | next hfew' hleft hbatch htaken hmore hnext =>
      rw [hrest] at hsplit
      rw [admitRows_batch hsplit hseen hfew'] at htaken
      rw [hrest]
      generalize rest.take (query.batchTake scannedRows) = batch at *
      generalize rest.drop (query.batchTake scannedRows) = tail at *
      have hall : (admitted ++ GuardQuery.visible filter batch).length < query.take := by
        rw [htaken, length_take] at hmore
        omega
      rw [take_of_length_le hall.le] at htaken
      subst htaken
      have hlast : (seen ++ batch).getLast? = batch.getLast? :=
        getLast?_append_of_ne_nil _ hbatch
      have hlonger : 0 < batch.length := length_pos_iff.2 hbatch
      refine .cons (@ih (SCAN_ROW_BUDGET - (scannedRows + batch.length)) (by omega)
        _ (seen ++ batch) _ ?_ ?_ ?_ hall.le (scannedRows + batch.length)
        (rowsRead + batch.length) ?_ rfl)
      · rw [hsplit, append_assoc]
      · rw [hlast]
        exact hnext
      · exact hseen.append (visible_sublist filter batch)
      · rw [hlast]
        exact hrows

/-- The errors of a scan are of its limit. -/
def ScanLimited : Except AppError (List ρ) → Prop
  | .ok _ => True
  | .error error => ∃ message, error = scanLimit message

/-- A scan reads the rows it counts, and the call that throws may read one more. -/
structure Frugal (scannedRows rowsRead : Nat) (scan : Scan ρ) : Prop where
  budget : scan.scannedRows ≤ SCAN_ROW_BUDGET
  grows : scannedRows ≤ scan.scannedRows
  ok : scan.outcome.isOk = true → scan.rowsRead + scannedRows = scan.scannedRows + rowsRead
  error : scan.rowsRead + scannedRows ≤ scan.scannedRows + rowsRead + 1

/-- **The loop** reads within the budget and throws only for its limit. -/
theorem permittedRowsAfter_frugal (after : Option ρ) {scannedRows : Nat} (rowsRead : Nat)
    (hscanned : scannedRows ≤ SCAN_ROW_BUDGET) :
    ScanLimited (query.permittedRowsAfter filter scannedRows rowsRead admitted after).outcome ∧
      Frugal scannedRows rowsRead
        (query.permittedRowsAfter filter scannedRows rowsRead admitted after) := by
  induction hbudget : SCAN_ROW_BUDGET - scannedRows using Nat.strong_induction_on
    generalizing scannedRows rowsRead admitted after with
  | _ budget ih =>
    have hround := permittedRowsAfter_round query filter scannedRows rowsRead admitted after
    have hlength : (query.findMany after (query.batchTake scannedRows)).length ≤
        max 1 (SCAN_ROW_BUDGET - scannedRows) :=
      (length_take_le _ _).trans batchTake_le
    generalize query.findMany after (query.batchTake scannedRows) = batch at hround hlength
    generalize query.permittedRowsAfter filter scannedRows rowsRead admitted after = scan
      at hround ⊢
    cases hround with
    | full | exhausted =>
      exact ⟨trivial, hscanned, le_rfl, fun _ => Nat.add_comm _ _, by dsimp only; omega⟩
    | exceeded hbudget =>
      refine ⟨⟨_, rfl⟩, hscanned, le_rfl, fun hok => ?_, by dsimp only; omega⟩
      simp [Except.isOk, Except.toBool] at hok
    | last _ hbudget | unstable hbudget =>
      refine ⟨?_, by dsimp only; omega, by dsimp only; omega, fun _ => by dsimp only; omega,
        by dsimp only; omega⟩
      first
      | exact trivial
      | exact ⟨_, rfl⟩
    | @next taken _ hbudget hbatch =>
      have hlonger : 0 < batch.length := length_pos_iff.2 hbatch
      have hrest := @ih (SCAN_ROW_BUDGET - (scannedRows + batch.length)) (by omega) taken
        batch.getLast? (scannedRows + batch.length) (rowsRead + batch.length) (by omega) rfl
      refine ⟨hrest.1, hrest.2.budget, ?_, fun hok => ?_, ?_⟩
      · have := hrest.2.grows
        omega
      · have := hrest.2.ok hok
        omega
      · have := hrest.2.error
        omega

theorem permittedRows_selects {scannedRows : Nat}
    (hrows : (query.permittedRows filter scannedRows).outcome = .ok rows) :
    Selects query filter [] query.ordered rows :=
  @permittedRowsAfter_selects _ _ _ query filter [] [] query.ordered rows rfl (by simp)
    (List.Sublist.refl _) (Nat.zero_le _) scannedRows 0 hrows

variable (query filter) in
theorem permittedRows_frugal {scannedRows : Nat} (hscanned : scannedRows ≤ SCAN_ROW_BUDGET) :
    ScanLimited (query.permittedRows filter scannedRows).outcome ∧
      Frugal scannedRows 0 (query.permittedRows filter scannedRows) :=
  permittedRowsAfter_frugal none 0 hscanned

/-- Every row is selected at most once. -/
theorem Selects.nodup (h : Selects query filter [] query.ordered rows) :
    (rows.map query.key).Nodup := by
  obtain ⟨batches, hpieces, rfl, -⟩ := h
  have hvisible : (batches.flatMap (GuardQuery.visible filter)).Sublist batches.flatten := by
    rw [flatMap_def]
    clear hpieces
    induction batches with
    | nil => simp
    | cons batch batches ih => exact (visible_sublist filter batch).append ih
  refine GuardQuery.nodup_ordered.sublist (List.Sublist.map query.key ?_)
  exact (take_sublist _ _).trans (hvisible.trans hpieces.sublist)

/-- A filter that looks at one row at a time: the first admitted rows of the whole query. -/
theorem Selects.eq_take_filter {test : ρ → Bool} (h : Selects query filter [] query.ordered rows)
    (htest : ∀ batch, GuardQuery.visible filter batch = batch.filter test) :
    rows = (query.ordered.filter test).take query.take := by
  obtain ⟨batches, ⟨tail, htail⟩, rfl, henough⟩ := h
  have hflat : batches.flatMap (GuardQuery.visible filter) = batches.flatten.filter test := by
    rw [flatMap_congr fun batch _ => htest batch, filter_flatten, flatMap_def]
  rw [hflat, nil_append] at henough ⊢
  rcases henough with hfull | hall
  · rw [length_take] at hfull
    rw [← htail, filter_append, take_append_of_le_length (by omega)]
  · rw [hall]

/-! ## Requests -/

/-- The rows are the answer to a query: the first admitted rows of the ordered ones, each once. -/
structure Complete (query : GuardQuery ρ κ) (filter : Option (CandidateFilter ρ))
    (rows : List ρ) : Prop where
  selects : Selects query filter [] query.ordered rows
  once : (rows.map query.key).Nodup
  rowwise : ∀ test, (∀ batch, GuardQuery.visible filter batch = batch.filter test) →
    rows = (query.ordered.filter test).take query.take

theorem permittedRows_complete {scannedRows : Nat}
    (hrows : (query.permittedRows filter scannedRows).outcome = .ok rows) :
    Complete query filter rows :=
  have hselects := permittedRows_selects hrows
  ⟨hselects, hselects.nodup, fun _ htest => hselects.eq_take_filter htest⟩

/-- The answer of a call: `exactRows` looks at the archived rows when no active one is admitted. -/
def GuardCall.Answers (filter : Option (CandidateFilter ρ)) (rows : List ρ) : GuardCall ρ κ → Prop
  | .permittedRows query => Complete query filter rows
  | .exactRows active archived =>
    (rows ≠ [] ∧ Complete { active with take := EXACT_LOOKUP_TAKE } filter rows) ∨
    (Complete { active with take := EXACT_LOOKUP_TAKE } filter [] ∧
      Complete { archived with take := EXACT_LOOKUP_TAKE } filter rows)

theorem GuardCall.run_answers {call : GuardCall ρ κ} {scannedRows : Nat}
    (hrows : (call.run filter scannedRows).outcome = .ok rows) : call.Answers filter rows := by
  cases call with
  | permittedRows query => exact permittedRows_complete hrows
  | exactRows active archived =>
    unfold GuardCall.run at hrows
    dsimp only at hrows
    unfold DuplicateGuard.exactRows at hrows
    dsimp only at hrows
    split at hrows
    · next hactive => exact .inr ⟨permittedRows_complete hactive, permittedRows_complete hrows⟩
    · next hactive =>
      refine .inl ⟨?_, permittedRows_complete hrows⟩
      rintro rfl
      exact hactive hrows

variable (filter) in
theorem GuardCall.run_frugal (call : GuardCall ρ κ) {scannedRows : Nat}
    (hscanned : scannedRows ≤ SCAN_ROW_BUDGET) :
    ScanLimited (call.run filter scannedRows).outcome ∧
      Frugal scannedRows 0 (call.run filter scannedRows) := by
  cases call with
  | permittedRows query => exact permittedRows_frugal query filter hscanned
  | exactRows active archived =>
    unfold GuardCall.run
    dsimp only
    unfold DuplicateGuard.exactRows
    dsimp only
    have hactive := permittedRows_frugal { active with take := EXACT_LOOKUP_TAKE } filter hscanned
    split
    · next hok =>
      have harchived := permittedRows_frugal { archived with take := EXACT_LOOKUP_TAKE } filter
        hactive.2.budget
      have hread := hactive.2.ok (by rw [hok]; rfl)
      refine ⟨harchived.1, harchived.2.budget, hactive.2.grows.trans harchived.2.grows,
        fun hrest => ?_, ?_⟩
      · have := harchived.2.ok hrest
        dsimp only
        omega
      · have := harchived.2.error
        dsimp only
        omega
    · exact hactive

/-- What the answers of a request are worth. -/
def RequestScan.Sound (filter : Option (CandidateFilter ρ)) (request : RequestScan ρ κ) : Prop :=
  ∀ call outcome, (call, outcome) ∈ request.answers →
    ScanLimited outcome ∧ ∀ rows, outcome = .ok rows → call.Answers filter rows

theorem runCalls_sound (calls : List (GuardCall ρ κ)) {scannedRows : Nat}
    (hscanned : scannedRows ≤ SCAN_ROW_BUDGET) :
    (runCalls filter scannedRows calls).Sound filter ∧
      (runCalls filter scannedRows calls).scannedRows ≤ SCAN_ROW_BUDGET ∧
      (runCalls filter scannedRows calls).rowsRead + scannedRows ≤
        (runCalls filter scannedRows calls).scannedRows + 1 := by
  induction calls generalizing scannedRows with
  | nil =>
    refine ⟨?_, hscanned, ?_⟩
    · intro call outcome hmem
      cases hmem
    · unfold runCalls
      dsimp only
      omega
  | cons call calls ih =>
    have hanswers := fun rows =>
      @GuardCall.run_answers _ _ _ filter rows call scannedRows
    obtain ⟨hlimited, hfrugal⟩ := call.run_frugal filter hscanned
    unfold runCalls
    dsimp only
    split
    · next error herror =>
      refine ⟨?_, hfrugal.budget, hfrugal.error⟩
      intro call outcome hmem
      cases mem_singleton.1 hmem
      exact ⟨herror ▸ hlimited, fun rows h => by cases h⟩
    · next rows hok =>
      obtain ⟨hsound, hbudget, hread⟩ := ih hfrugal.budget
      refine ⟨?_, hbudget, ?_⟩
      · intro other outcome hmem
        rcases mem_cons.1 hmem with heq | hmem
        · cases heq
          exact ⟨trivial, fun rows' h => by cases h; exact hanswers rows hok⟩
        · exact hsound other outcome hmem
      · have := hfrugal.ok (by rw [hok]; rfl)
        dsimp only at *
        omega

/-- **A request's calls over a fixed table** answer with the first admitted rows or throw for the
scan limit, and together they read no more than the budget and one row. -/
theorem runCalls_complete (filter : Option (CandidateFilter ρ)) (calls : List (GuardCall ρ κ)) :
    (runCalls filter 0 calls).Sound filter ∧
      (runCalls filter 0 calls).scannedRows ≤ SCAN_ROW_BUDGET ∧
      (runCalls filter 0 calls).rowsRead ≤ (runCalls filter 0 calls).scannedRows + 1 :=
  runCalls_sound calls (Nat.zero_le SCAN_ROW_BUDGET)

end

end Corgtex.Domain.DuplicateGuard
