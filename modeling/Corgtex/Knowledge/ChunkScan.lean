import Corgtex.Domain.LineageRoots
import Corgtex.Domain.ReadableWorkItemPage

/-!
# The scan of the readable knowledge chunks

`scanReadableKnowledgeChunks` (`knowledge/src/retrieval.ts`) reads the chunks of one source type
after the other, in pages that all draw on one budget of 5000 rows, and keeps the first admitted
rows of each type. A page ends where its rows do, whoever may read them, so rows that the reader may
not see move the ends of the pages. A window that ends without an error holds the first admitted
rows all the same (`scanWindow_outcome`).
-/

namespace Corgtex.Knowledge

open List hiding after

open JsArray Keyset Domain

/-! ## Chunks -/

/-- `KnowledgeSourceType` (`schema.prisma`). -/
inductive KnowledgeSourceType
  | DOCUMENT | MEETING | PROPOSAL | CONSTITUTION | POLICY | BRAIN_ARTICLE | EVENT | TENSION | ACTION
  | CIRCLE | ROLE | EXTERNAL_DATABASE | EXTERNAL_RESOURCE | EXTERNAL_CONTENT | SLACK
deriving DecidableEq, Repr

/-- `KnowledgeAccessDomain` (`schema.prisma`). -/
inductive KnowledgeAccessDomain
  | WORKSPACE | FINANCE
deriving DecidableEq, Repr

/-- `SensitivityLabel`, in the order of `sensitivityOrder` (line 16). -/
inductive SensitivityLabel
  | PUBLIC | INTERNAL | CONFIDENTIAL | PII
deriving DecidableEq, Repr

/-- `sensitivityOrder` (line 16). -/
def sensitivityOrder : List SensitivityLabel := [.PUBLIC, .INTERNAL, .CONFIDENTIAL, .PII]

/-- `levelsUpTo` (line 18). -/
def levelsUpTo (maxLevel : SensitivityLabel) : List SensitivityLabel :=
  sensitivityOrder.take (sensitivityOrder.idxOf maxLevel + 1)

/-- `PermissionChunk` (line 367): the columns that are queried and sorted by; the rest of the
projection is in `body`. -/
structure PermissionChunk (β : Type) where
  id : JsString
  workspaceId : JsString
  sourceType : KnowledgeSourceType
  sourceId : JsString
  chunkIndex : Int
  accessDomain : KnowledgeAccessDomain
  sensitivity : SensitivityLabel
  createdAt : Int
  body : β
deriving DecidableEq, Repr

/-- What the scan uses of `RetrievalAccess` (line 163). -/
structure RetrievalAccess where
  workspaceId : JsString
  accessDomains : List KnowledgeAccessDomain
  maxSensitivity : Option SensitivityLabel
  sourceTypes : Option (List KnowledgeSourceType)

/-- The key of `retainedRoots` (line 536). -/
def rootKey (root : LineageRoot) : JsString × JsString := (root.kind, root.id)

/-- A table that stays fixed during the scan, and a reader: which pages have sources that can be
hydrated within the limit of `readableKnowledgeSources`, which rows are admitted, and the roots that
`captureKnowledgeInputs` collects for a row, its own and those of its parents. The roots that are
collected of one input are readings of one revision, whose receipts can be merged. -/
structure KnowledgeReads (β : Type) where
  knowledgeChunk : KeyedTable (PermissionChunk β) PermissionChunk.id
  hydrates : List (PermissionChunk β) → Bool
  admits : PermissionChunk β → Bool
  own : PermissionChunk β → List LineageRoot
  parents : PermissionChunk β → List LineageRoot
  settled : ∀ key roots,
    (∀ root ∈ roots, ∃ row, admits row = true ∧ root ∈ own row ++ parents row) →
    (∀ root ∈ roots, rootKey root = key) → ∃ result, collectLineageRoots none roots = .ok result

/-- `POSTGRES_SEARCH_WINDOW` (line 40). -/
def POSTGRES_SEARCH_WINDOW : Nat := 500

/-- `KNOWLEDGE_SCAN_LIMIT` (line 41). -/
def KNOWLEDGE_SCAN_LIMIT : Nat := 5000

/-- `scanLimitExceeded` (line 43). -/
def scanLimitExceeded : AppError :=
  ⟨409, "KNOWLEDGE_SCAN_LIMIT", "Knowledge permission scan exceeded its safe limit."⟩

/-! ## The scan -/

section
variable {β : Type}

/-- The keys of the `orderBy` (line 509). -/
def createdAtDesc (a b : PermissionChunk β) : Int := b.createdAt - a.createdAt

def chunkIndexAsc (a b : PermissionChunk β) : Int := a.chunkIndex - b.chunkIndex

section
variable (collation : Collation)

def idAsc (a b : PermissionChunk β) : Int := collation.collate a.id b.id

/-- The order of the pages, and of the result (line 545). -/
def chunkOrder : PermissionChunk β → PermissionChunk β → Int :=
  orderBy [createdAtDesc, chunkIndexAsc, idAsc collation]

/-- The condition on the rows after a row (line 504). -/
def chunkAfter (cursor : PermissionChunk β) : PermissionChunk β → Bool :=
  anyOf [fun row => row.createdAt < cursor.createdAt,
    fun row => row.createdAt = cursor.createdAt && cursor.chunkIndex < row.chunkIndex,
    fun row => row.createdAt = cursor.createdAt && row.chunkIndex = cursor.chunkIndex &&
      0 < collation.collate row.id cursor.id]

end

/-- The `where` of a window, without a source type for all of them (line 501). -/
def inWindow (params : RetrievalAccess) (sourceType : Option KnowledgeSourceType)
    (row : PermissionChunk β) : Bool :=
  row.workspaceId = params.workspaceId && params.accessDomains.contains row.accessDomain &&
    sourceType.all (row.sourceType = ·) &&
    params.maxSensitivity.all fun maxSensitivity =>
      (levelsUpTo maxSensitivity).contains row.sensitivity

/-- `sourceTypeWindows` (line 489). -/
def sourceTypeWindows (params : RetrievalAccess) : List (Option KnowledgeSourceType) :=
  match params.sourceTypes with
  | none | some [] => [none]
  | some sourceTypes => (distinct sourceTypes).map some

/-- `perTypeLimit === undefined ? rows : rows.slice(0, perTypeLimit)`. -/
def upTo {α : Type} (limit : Option Nat) (rows : List α) : List α :=
  match limit with
  | none => rows
  | some limit => rows.take limit

/-- What the scan has so far. -/
structure KnowledgeScan (β : Type) where
  chunks : List (PermissionChunk β)
  retainedRoots : KeyedTable LineageRoot rootKey
  scanned : Nat

/-- The loop over the roots of a page (line 535). -/
def retainRoots (retainedRoots : KeyedTable LineageRoot rootKey) (proof : List LineageRoot) :
    Except AppError (KeyedTable LineageRoot rootKey) :=
  proof.foldlM (fun retainedRoots root => do
    let root ← mergeLineageInputRoot (retainedRoots.find? (rootKey root)) root
    .ok (retainedRoots.set root)) retainedRoots

variable (collation : Collation) (reads : KnowledgeReads β) (params : RetrievalAccess)
  (perTypeLimit : Option Nat)

/-- `prisma.knowledgeChunk.findMany` (line 499). -/
def findChunks (sourceType : Option KnowledgeSourceType) (cursor : Option (PermissionChunk β))
    (take : Nat) : List (PermissionChunk β) :=
  (sortBy (chunkOrder collation) (reads.knowledgeChunk.rows.filter fun row =>
    inWindow params sourceType row &&
      cursor.all fun cursor => chunkAfter collation cursor row)).take take

/-- A page is hydrated, and its admitted rows are selected up to the limit and the roots of their
inputs retained (line 520). -/
def admitPage (page : List (PermissionChunk β)) (admitted : Nat)
    (retainedRoots : KeyedTable LineageRoot rootKey) :
    Except AppError (List (PermissionChunk β) × KeyedTable LineageRoot rootKey) :=
  if reads.hydrates page then do
    let selected := upTo (perTypeLimit.map (· - admitted)) (page.filter reads.admits)
    let retainedRoots ← retainRoots retainedRoots
      (selected.flatMap reads.own ++ selected.flatMap reads.parents)
    .ok (selected, retainedRoots)
  else .error scanLimitExceeded

/-- The loop over the pages of a window (line 495): the scan, with the number of rows that have been
read, and what the loop throws. -/
def scanWindow (sourceType : Option KnowledgeSourceType) (cursor : Option (PermissionChunk β))
    (admitted : Nat) (scan : KnowledgeScan β) : KnowledgeScan β × Except AppError Unit :=
  if perTypeLimit.all (admitted < ·) then
    let take := min POSTGRES_SEARCH_WINDOW (KNOWLEDGE_SCAN_LIMIT - scan.scanned + 1)
    let page := findChunks collation reads params sourceType cursor take
    let scanned := scan.scanned + page.length
    if _hlimit : scanned > KNOWLEDGE_SCAN_LIMIT then
      ({ scan with scanned := scanned }, .error scanLimitExceeded)
    else
      match admitPage reads perTypeLimit page admitted scan.retainedRoots with
      | .error error => ({ scan with scanned := scanned }, .error error)
      | .ok (selected, retainedRoots) =>
        let next : KnowledgeScan β := ⟨scan.chunks ++ selected, retainedRoots, scanned⟩
        if _hlast : page.length < take then (next, .ok ())
        else scanWindow sourceType page.getLast? (admitted + selected.length) next
  else (scan, .ok ())
termination_by KNOWLEDGE_SCAN_LIMIT - scan.scanned
decreasing_by
  have hwindow : 0 < POSTGRES_SEARCH_WINDOW := by decide
  show KNOWLEDGE_SCAN_LIMIT - (scan.scanned + page.length) < KNOWLEDGE_SCAN_LIMIT - scan.scanned
  omega

/-- The loop over the windows (line 492). -/
def scanWindows : List (Option KnowledgeSourceType) → KnowledgeScan β →
    KnowledgeScan β × Except AppError Unit
  | [], scan => (scan, .ok ())
  | sourceType :: windows, scan =>
    match scanWindow collation reads params perTypeLimit sourceType none 0 scan with
    | (scan, .error error) => (scan, .error error)
    | (scan, .ok ()) => scanWindows windows scan

/-- The result: the admitted rows of all windows, and the roots of their inputs. -/
structure KnowledgeResult (β : Type) where
  chunks : List (PermissionChunk β)
  roots : List LineageRoot

variable (localeCompare : Collation)

/-- `scanReadableKnowledgeChunks` (line 486): the number of rows that were read, and what is
returned or thrown. -/
def scanReadableKnowledgeChunks : Nat × Except AppError (KnowledgeResult β) :=
  let run := scanWindows collation reads params perTypeLimit (sourceTypeWindows params)
    ⟨[], .empty, 0⟩
  (run.1.scanned,
    run.2.map fun _ => ⟨sortBy (chunkOrder localeCompare) run.1.chunks, run.1.retainedRoots.rows⟩)

end

/-! ## Orders and limits -/

section
variable {β : Type} {collation : Collation} {a b : PermissionChunk β}

/-- **The condition on the rows after a row** is the order of the pages. -/
theorem chunkAfter_iff : chunkAfter collation a b = true ↔ chunkOrder collation a b < 0 := by
  have hid := collation.comparator.swap a.id b.id
  simp only [chunkAfter, chunkOrder, anyOf_cons, anyOf_nil, orderBy_cons, orderBy_nil,
    createdAtDesc, chunkIndexAsc, idAsc, Bool.and_eq_true, decide_eq_true_eq, Bool.false_eq_true,
    or_false, and_false, hid]
  omega

theorem comparator_chunkOrder (collation : Collation) :
    Comparator (chunkOrder (β := β) collation) :=
  comparator_orderBy_cons (.descending _) (comparator_orderBy_cons (Comparator.descending _).flip
    (comparator_orderBy_cons (collation.comparator.on _) comparator_orderBy_nil))

theorem chunkOrder_eq_zero (h : chunkOrder collation a b = 0) : a.id = b.id :=
  collation.eq_of_zero _ _ (orElse_eq_zero.1 (orElse_eq_zero.1 (orElse_eq_zero.1 h).2).2).1

variable {α : Type} {limit : Option Nat} {rows rows' : List α}

theorem upTo_append :
    upTo limit (rows ++ rows') = upTo limit rows ++ upTo (limit.map (· - rows.length)) rows' := by
  cases limit with
  | none => rfl
  | some limit => exact take_append

/-- A window with room has all rows that it was offered. -/
theorem upTo_of_lt (h : limit.all ((upTo limit rows).length < ·) = true) :
    upTo limit rows = rows := by
  cases limit with
  | none => rfl
  | some limit =>
    simp only [upTo, Option.all_some, decide_eq_true_eq, length_take] at h ⊢
    exact take_of_length_le (by omega)

/-- A window without room takes no more rows. -/
theorem upTo_append_of_not_lt (h : limit.all ((upTo limit rows).length < ·) = false) :
    upTo limit (rows ++ rows') = upTo limit rows := by
  cases limit with
  | none => simp at h
  | some limit =>
    simp only [upTo, Option.all_some, decide_eq_false_iff_not, length_take] at h ⊢
    exact take_append_of_le_length (by omega)

theorem mem_of_mem_upTo {row : α} (h : row ∈ upTo limit rows) : row ∈ rows := by
  cases limit with
  | none => exact h
  | some limit => exact mem_of_mem_take h

end

/-! ## Roots -/

/-- The table has for each input what the roots that were captured of it merge to. -/
def Retained (table : KeyedTable LineageRoot rootKey) (captured : List LineageRoot) : Prop :=
  ∀ key, collectLineageRoots none (captured.filter fun root => rootKey root = key) =
    .ok (table.find? key)

theorem Retained.perm {table : KeyedTable LineageRoot rootKey}
    {captured captured' : List LineageRoot} (h : Retained table captured)
    (hperm : captured.Perm captured') : Retained table captured' :=
  fun key => (collectLineageRoots_perm (hperm.filter _)).1 (h key)

section
variable {β : Type} {reads : KnowledgeReads β}

def KnowledgeReads.inputs (reads : KnowledgeReads β) (row : PermissionChunk β) : List LineageRoot :=
  reads.own row ++ reads.parents row

/-- The roots of admitted rows. -/
def KnowledgeReads.Captured (reads : KnowledgeReads β) (root : LineageRoot) : Prop :=
  ∃ row, reads.admits row = true ∧ root ∈ reads.inputs row

/-- **The loop over the roots** does not throw, since those of one input can be merged. -/
theorem Retained.retainRoots {table : KeyedTable LineageRoot rootKey}
    {captured proof : List LineageRoot} (h : Retained table captured)
    (hcaptured : ∀ root ∈ captured ++ proof, reads.Captured root) :
    ∃ table', retainRoots table proof = .ok table' ∧ Retained table' (captured ++ proof) := by
  induction proof generalizing table captured with
  | nil => exact ⟨table, rfl, (append_nil captured).symm ▸ h⟩
  | cons root proof ih =>
    rw [append_cons] at hcaptured ⊢
    have hsettled := reads.settled (rootKey root)
      ((captured ++ [root]).filter fun other => rootKey other = rootKey root)
      (fun other hother => hcaptured other (mem_append_left _ (mem_of_mem_filter hother)))
      (fun other hother => of_decide_eq_true (mem_filter.1 hother).2)
    obtain ⟨result, hresult⟩ := hsettled
    have hfilter : (captured ++ [root]).filter (fun other => rootKey other = rootKey root) =
        captured.filter (fun other => rootKey other = rootKey root) ++ [root] := by
      simp [filter_append]
    obtain ⟨prior, next, hprior, rfl, hnext⟩ :=
      collectLineageRoots_concat.1 (hfilter ▸ hresult)
    obtain rfl := Except.ok.inj ((h (rootKey root)).symm.trans hprior)
    have hkey : rootKey next = rootKey root := by
      obtain ⟨_, hsame, _⟩ := mergeLineageInputRoot_ok.1 hnext
      rw [rootKey, rootKey, hsame.1, hsame.2.1]
    have hstep : Retained (table.set next) (captured ++ [root]) := by
      intro key
      rw [KeyedTable.find?_set, hkey]
      by_cases hroot : key = rootKey root
      · subst hroot
        rw [if_pos rfl, hresult]
      · rw [if_neg hroot, ← h key, filter_append]
        simp [Ne.symm hroot]
    obtain ⟨table', htable', hretained⟩ := ih hstep hcaptured
    refine ⟨table', ?_, hretained⟩
    exact bind_ok.2 ⟨_, bind_ok.2 ⟨next, hnext, rfl⟩, htable'⟩

end

/-! ## Windows -/

section
variable {β : Type} {collation localeCompare : Collation} {reads : KnowledgeReads β}
  {params : RetrievalAccess} {perTypeLimit : Option Nat} {sourceType : Option KnowledgeSourceType}

variable (collation reads params) in
/-- The rows of a window in the order of its pages. -/
def windowTable (sourceType : Option KnowledgeSourceType) : List (PermissionChunk β) :=
  sortBy (chunkOrder collation) (reads.knowledgeChunk.rows.filter (inWindow params sourceType))

variable (collation reads params perTypeLimit) in
def windowRows (sourceType : Option KnowledgeSourceType) : List (PermissionChunk β) :=
  upTo perTypeLimit ((windowTable collation reads params sourceType).filter reads.admits)

theorem pairwise_chunkOrder {rows : List (PermissionChunk β)}
    (hnodup : (rows.map PermissionChunk.id).Nodup) :
    rows.Pairwise fun a b => chunkOrder collation a b ≠ 0 :=
  (pairwise_map.1 hnodup).imp fun hid he => hid (chunkOrder_eq_zero he)

theorem nodup_filter (test : PermissionChunk β → Bool) :
    ((reads.knowledgeChunk.rows.filter test).map PermissionChunk.id).Nodup :=
  reads.knowledgeChunk.nodup.sublist (filter_sublist.map _)

/-- A page is the next piece of the sorted window. -/
theorem findChunks_eq {seen rest : List (PermissionChunk β)} {take : Nat}
    (hsplit : windowTable collation reads params sourceType = seen ++ rest) :
    findChunks collation reads params sourceType seen.getLast? take = rest.take take := by
  have hafter := after_split (comparator_chunkOrder collation)
    (pairwise_chunkOrder (nodup_filter (inWindow params sourceType))) hsplit
  rw [← hafter, findChunks, after, List.filter_filter]
  congr 2
  refine filter_congr fun row _ => ?_
  rw [Bool.and_comm]
  congr 2
  funext cursor
  rw [Bool.eq_iff_iff, chunkAfter_iff, decide_eq_true_eq]

/-- What holds between the pages. -/
structure Sound (reads : KnowledgeReads β) (scan : KnowledgeScan β) : Prop where
  retained : Retained scan.retainedRoots (scan.chunks.flatMap reads.inputs)
  admitted : ∀ row ∈ scan.chunks, reads.admits row = true
  scanned : scan.scanned ≤ KNOWLEDGE_SCAN_LIMIT

/-- The loop has found `chunks`, or it throws since the limit was exceeded. -/
def Ends (reads : KnowledgeReads β) (chunks : List (PermissionChunk β))
    (run : KnowledgeScan β × Except AppError Unit) : Prop :=
  (run.2 = .error scanLimitExceeded ∧ run.1.scanned ≤ KNOWLEDGE_SCAN_LIMIT + 1) ∨
    (run.2 = .ok () ∧ Sound reads run.1 ∧ run.1.chunks = chunks)

/-- The rows that are selected of a page are admitted ones. -/
theorem admits_of_mem_upTo {limit : Option Nat} {page : List (PermissionChunk β)}
    {row : PermissionChunk β} (h : row ∈ upTo limit (page.filter reads.admits)) :
    reads.admits row = true := (mem_filter.1 (mem_of_mem_upTo h)).2

variable (perTypeLimit) in
/-- **A page** is selected from and its roots retained, or its sources exceed the limit. -/
theorem admitPage_outcome {scan : KnowledgeScan β} (hsound : Sound reads scan)
    (page : List (PermissionChunk β)) (admitted : Nat) :
    admitPage reads perTypeLimit page admitted scan.retainedRoots = .error scanLimitExceeded ∨
      ∃ selected retainedRoots,
        selected = upTo (perTypeLimit.map (· - admitted)) (page.filter reads.admits) ∧
        admitPage reads perTypeLimit page admitted scan.retainedRoots =
          .ok (selected, retainedRoots) ∧
        Retained retainedRoots ((scan.chunks ++ selected).flatMap reads.inputs) := by
  rw [admitPage]
  split
  · refine .inr ?_
    obtain ⟨selected, hselected⟩ :
        ∃ selected, selected = upTo (perTypeLimit.map (· - admitted)) (page.filter reads.admits) :=
      ⟨_, rfl⟩
    rw [← hselected]
    have hperm : (scan.chunks.flatMap reads.inputs ++
        (selected.flatMap reads.own ++ selected.flatMap reads.parents)).Perm
          ((scan.chunks ++ selected).flatMap reads.inputs) := by
      rw [flatMap_append]
      exact (flatMap_append_perm selected reads.own reads.parents).append_left _
    have hcaptured : ∀ root ∈ scan.chunks.flatMap reads.inputs ++
        (selected.flatMap reads.own ++ selected.flatMap reads.parents), reads.Captured root := by
      intro root hroot
      obtain ⟨row, hrow, hinput⟩ := mem_flatMap.1 (hperm.mem_iff.1 hroot)
      refine ⟨row, ?_, hinput⟩
      rcases mem_append.1 hrow with hrow | hrow
      · exact hsound.admitted row hrow
      · exact admits_of_mem_upTo (hselected ▸ hrow)
    obtain ⟨retainedRoots, hok, hretained⟩ := hsound.retained.retainRoots hcaptured
    refine ⟨selected, retainedRoots, rfl, ?_, hretained.perm hperm⟩
    exact bind_ok.2 ⟨retainedRoots, hok, rfl⟩
  · exact .inl rfl

/-- **The loop over the pages** of a window ends with its first admitted rows, wherever its pages
end. -/
theorem scanWindow_outcome {seen rest before : List (PermissionChunk β)} {scan : KnowledgeScan β}
    (hsplit : windowTable collation reads params sourceType = seen ++ rest)
    (hsound : Sound reads scan)
    (hchunks : scan.chunks = before ++ upTo perTypeLimit (seen.filter reads.admits)) :
    Ends reads (before ++ windowRows collation reads params perTypeLimit sourceType)
      (scanWindow collation reads params perTypeLimit sourceType seen.getLast?
        (upTo perTypeLimit (seen.filter reads.admits)).length scan) := by
  induction hleft : rest.length using Nat.strong_induction_on generalizing seen rest scan with
  | _ left ih =>
  rw [scanWindow]
  split
  · next hroom =>
    dsimp only
    rw [findChunks_eq hsplit]
    obtain ⟨take, htake⟩ : ∃ take, take =
        min POSTGRES_SEARCH_WINDOW (KNOWLEDGE_SCAN_LIMIT - scan.scanned + 1) := ⟨_, rfl⟩
    have hpositive : 0 < take := by
      have hwindow : 0 < POSTGRES_SEARCH_WINDOW := by decide
      omega
    have hscanned := hsound.scanned
    have hlength : (rest.take take).length ≤ KNOWLEDGE_SCAN_LIMIT - scan.scanned + 1 := by
      rw [length_take]
      omega
    rw [← htake]
    split
    · exact .inl ⟨rfl, by dsimp only; omega⟩
    · next hlimit =>
      have hfull := upTo_of_lt hroom
      rcases admitPage_outcome perTypeLimit hsound (rest.take take)
        (upTo perTypeLimit (seen.filter reads.admits)).length with hthrown | hok
      · rw [hthrown]
        exact .inl ⟨rfl, by dsimp only; omega⟩
      obtain ⟨selected, retainedRoots, hselected, hok, hretained⟩ := hok
      rw [hok]
      dsimp only
      have hupTo : upTo perTypeLimit ((seen ++ rest.take take).filter reads.admits) =
          upTo perTypeLimit (seen.filter reads.admits) ++ selected := by
        rw [filter_append, upTo_append, hselected, hfull]
      have hnext : Sound reads ⟨scan.chunks ++ selected, retainedRoots,
          scan.scanned + (rest.take take).length⟩ := by
        refine ⟨hretained, fun row hrow => ?_, by dsimp only; omega⟩
        rcases mem_append.1 hrow with hrow | hrow
        · exact hsound.admitted row hrow
        · exact admits_of_mem_upTo (hselected ▸ hrow)
      have hchunks' : scan.chunks ++ selected =
          before ++ upTo perTypeLimit ((seen ++ rest.take take).filter reads.admits) := by
        rw [hupTo, hchunks, append_assoc]
      split
      · next hshort =>
        -- the window has no more rows
        have hall : rest.take take = rest := by
          rw [length_take] at hshort
          exact take_of_length_le (by omega)
        refine .inr ⟨rfl, hnext, ?_⟩
        rw [hall] at hchunks'
        rw [hchunks', windowRows, hsplit]
      · next hlong =>
        rw [length_take] at hlong
        have hlast : (rest.take take).getLast? = (seen ++ rest.take take).getLast? := by
          rw [getLast?_append]
          cases hcase : (rest.take take).getLast? with
          | some last => rfl
          | none =>
            have hnil := congrArg length (getLast?_eq_none_iff.1 hcase)
            rw [length_take, length_nil] at hnil
            omega
        have hsplit' : windowTable collation reads params sourceType =
            (seen ++ rest.take take) ++ rest.drop take := by
          rw [append_assoc, take_append_drop, hsplit]
        have hcount : (upTo perTypeLimit (seen.filter reads.admits)).length + selected.length =
            (upTo perTypeLimit ((seen ++ rest.take take).filter reads.admits)).length := by
          rw [hupTo, length_append]
        rw [hlast, hcount]
        refine ih _ ?_ hsplit' hnext hchunks' rfl
        rw [length_drop]
        omega
  · next hroom =>
    -- the limit has been reached
    refine .inr ⟨rfl, hsound, ?_⟩
    rw [hchunks, windowRows, hsplit, filter_append,
      upTo_append_of_not_lt (Bool.eq_false_iff.2 hroom)]

/-- **The loop over the windows** ends with the rows of each. -/
theorem scanWindows_outcome {windows : List (Option KnowledgeSourceType)} {scan : KnowledgeScan β}
    (hsound : Sound reads scan) :
    Ends reads
      (scan.chunks ++ windows.flatMap (windowRows collation reads params perTypeLimit))
      (scanWindows collation reads params perTypeLimit windows scan) := by
  induction windows generalizing scan with
  | nil => exact .inr ⟨rfl, hsound, (append_nil _).symm⟩
  | cons sourceType windows ih =>
    have hnil : upTo perTypeLimit (([] : List (PermissionChunk β)).filter reads.admits) = [] := by
      cases perTypeLimit <;> simp [upTo]
    have hwindow : Ends reads
        (scan.chunks ++ windowRows collation reads params perTypeLimit sourceType)
        (scanWindow collation reads params perTypeLimit sourceType none 0 scan) := by
      have hstart : scan.chunks = scan.chunks ++ upTo perTypeLimit (filter reads.admits []) := by
        rw [hnil, append_nil]
      have hfirst := scanWindow_outcome
        (nil_append (windowTable collation reads params sourceType)).symm hsound hstart
      rwa [hnil] at hfirst
    rw [scanWindows]
    generalize scanWindow collation reads params perTypeLimit sourceType none 0 scan = run
      at hwindow
    obtain ⟨scan', error | ⟨⟩⟩ := run
    · rcases hwindow with hthrown | ⟨hok, _, _⟩
      · exact .inl hthrown
      · cases hok
    · rcases hwindow with ⟨hthrown, _⟩ | ⟨_, hnext, hchunks⟩
      · cases hthrown
      · rw [flatMap_cons, ← append_assoc, ← hchunks]
        exact ih hnext

variable (reads) in
/-- The scan before the first page. -/
theorem sound_empty : Sound reads ⟨[], .empty, 0⟩ :=
  ⟨fun _ => rfl, by simp, Nat.zero_le _⟩

variable (collation localeCompare reads params perTypeLimit) in
/-- **What a call reads and returns**: the rows of the windows, unless it throws. -/
theorem scanReadableKnowledgeChunks_outcome :
    (scanReadableKnowledgeChunks collation reads params perTypeLimit localeCompare).1 ≤
        KNOWLEDGE_SCAN_LIMIT + 1 ∧
      ((scanReadableKnowledgeChunks collation reads params perTypeLimit localeCompare).2 =
          .error scanLimitExceeded ∨
        ∃ result,
          (scanReadableKnowledgeChunks collation reads params perTypeLimit localeCompare).2 =
            .ok result ∧
          result.chunks = sortBy (chunkOrder localeCompare) ((sourceTypeWindows params).flatMap
            (windowRows collation reads params perTypeLimit)) ∧
          ∃ table : KeyedTable LineageRoot rootKey, result.roots = table.rows ∧
            Retained table (((sourceTypeWindows params).flatMap
              (windowRows collation reads params perTypeLimit)).flatMap reads.inputs)) := by
  have hrun : Ends reads
      ((sourceTypeWindows params).flatMap (windowRows collation reads params perTypeLimit))
      (scanWindows collation reads params perTypeLimit (sourceTypeWindows params)
        ⟨[], .empty, 0⟩) := scanWindows_outcome (sound_empty reads)
  rw [scanReadableKnowledgeChunks]
  rcases hrun with ⟨hthrown, hscanned⟩ | ⟨hok, hsound, hchunks⟩
  · exact ⟨hscanned, .inl (by rw [hthrown]; rfl)⟩
  · have hscanned := hsound.scanned
    refine ⟨by dsimp only; omega, .inr ⟨_, by rw [hok]; rfl, ?_, _, rfl, ?_⟩⟩
    · rw [hchunks]
    · rw [← hchunks]
      exact hsound.retained

/-! ## The result -/

theorem filter_windowTable :
    (windowTable collation reads params sourceType).filter reads.admits =
      sortBy (chunkOrder collation) ((reads.knowledgeChunk.rows.filter reads.admits).filter
        (inWindow params sourceType)) := by
  have hsorted : (windowTable collation reads params sourceType).Pairwise fun a b =>
      chunkOrder collation a b < 0 :=
    pairwise_lt_sortBy (comparator_chunkOrder collation) (pairwise_chunkOrder (nodup_filter _))
  refine (sortBy_unique (comparator_chunkOrder collation) ?_ (hsorted.sublist filter_sublist)
    ?_).symm
  · rw [List.filter_filter]
    exact pairwise_chunkOrder (nodup_filter _)
  · rw [filter_comm]
    exact ((sortBy_perm _ _).filter _).symm

theorem windowRows_congr {reads' : KnowledgeReads β}
    (h : (reads.knowledgeChunk.rows.filter reads.admits).Perm
      (reads'.knowledgeChunk.rows.filter reads'.admits)) :
    windowRows collation reads params perTypeLimit =
      windowRows collation reads' params perTypeLimit := by
  funext sourceType
  rw [windowRows, windowRows, filter_windowTable, filter_windowTable]
  have hne : ((reads.knowledgeChunk.rows.filter reads.admits).filter
      (inWindow params sourceType)).Pairwise fun a b => chunkOrder collation a b ≠ 0 := by
    rw [List.filter_filter]
    exact pairwise_chunkOrder (nodup_filter _)
  have hne' : ((reads'.knowledgeChunk.rows.filter reads'.admits).filter
      (inWindow params sourceType)).Pairwise fun a b => chunkOrder collation a b ≠ 0 := by
    rw [List.filter_filter]
    exact pairwise_chunkOrder (nodup_filter _)
  rw [sortBy_unique (comparator_chunkOrder collation) hne
    (pairwise_lt_sortBy (comparator_chunkOrder collation) hne')
    ((h.filter _).trans (sortBy_perm _ _).symm)]

theorem mem_windowRows {row : PermissionChunk β}
    (h : row ∈ windowRows collation reads params perTypeLimit sourceType) :
    row ∈ reads.knowledgeChunk.rows ∧ inWindow params sourceType row = true ∧
      reads.admits row = true := by
  obtain ⟨htable, hadmits⟩ := mem_filter.1 (mem_of_mem_upTo h)
  obtain ⟨hrow, hwindow⟩ := mem_filter.1 (mem_sortBy.1 htable)
  exact ⟨hrow, hwindow, hadmits⟩

/-- No row is in two windows of a call. -/
theorem filter_windowRows {sourceType' : Option KnowledgeSourceType}
    (h : sourceType ∈ sourceTypeWindows params) (h' : sourceType' ∈ sourceTypeWindows params) :
    (windowRows collation reads params perTypeLimit sourceType').filter
        (inWindow params sourceType) =
      if sourceType' = sourceType then
        windowRows collation reads params perTypeLimit sourceType' else [] := by
  split
  · next heq =>
    exact filter_eq_self.2 fun row hrow => heq ▸ (mem_windowRows hrow).2.1
  · next hne =>
    refine filter_eq_nil_iff.2 fun row hrow hwindow => hne ?_
    have hboth := (mem_windowRows hrow).2.1
    simp only [inWindow, Bool.and_eq_true] at hwindow hboth
    have hsome : ∀ window ∈ sourceTypeWindows params, window.all (row.sourceType = ·) = true →
        sourceTypeWindows params = [none] ∨ window = some row.sourceType := by
      intro window hmem htype
      cases window with
      | none =>
        unfold sourceTypeWindows at hmem ⊢
        split at hmem <;> simp_all
      | some type =>
        simp only [Option.all_some, decide_eq_true_eq] at htype
        exact .inr (htype ▸ rfl)
    rcases hsome _ h hwindow.1.2 with hnone | hleft
    · rw [hnone, mem_singleton] at h h'
      rw [h, h']
    · rcases hsome _ h' hboth.1.2 with hnone | hright
      · rw [hnone, mem_singleton] at h h'
        rw [h, h']
      · rw [hleft, hright]

theorem nodup_sourceTypeWindows (params : RetrievalAccess) : (sourceTypeWindows params).Nodup := by
  unfold sourceTypeWindows
  split
  · exact nodup_singleton _
  · exact nodup_singleton _
  · exact (nodup_distinct _).map (Option.some_injective _)

theorem flatMap_ite_eq {α γ : Type} [DecidableEq α] {items : List α} {a : α} {f : α → List γ}
    (hnodup : items.Nodup) (hmem : a ∈ items) :
    items.flatMap (fun item => if item = a then f item else []) = f a := by
  induction items with
  | nil => simp at hmem
  | cons item items ih =>
    obtain ⟨hnot, hnodup⟩ := nodup_cons.1 hnodup
    rw [flatMap_cons]
    rcases mem_cons.1 hmem with rfl | hmem
    · have hrest : items.flatMap (fun item => if item = a then f item else []) = [] := by
        refine flatMap_eq_nil_iff.2 fun item hitem => if_neg ?_
        rintro rfl
        exact hnot hitem
      rw [if_pos rfl, hrest, append_nil]
    · have hne : item ≠ a := by
        rintro rfl
        exact hnot hmem
      rw [if_neg hne, nil_append, ih hnodup hmem]

theorem filter_flatMap_windowRows (h : sourceType ∈ sourceTypeWindows params) :
    ((sourceTypeWindows params).flatMap
        (windowRows collation reads params perTypeLimit)).filter (inWindow params sourceType) =
      windowRows collation reads params perTypeLimit sourceType := by
  rw [filter_flatMap]
  refine Eq.trans ?_ (flatMap_ite_eq (nodup_sourceTypeWindows params) h)
  exact flatMap_congr fun window hwindow => filter_windowRows h hwindow

/-- Two collations that order the ids of two rows alike order the rows alike. -/
theorem chunkOrder_congr {a b : PermissionChunk β}
    (h : localeCompare.collate a.id b.id < 0 ↔ collation.collate a.id b.id < 0) :
    chunkOrder localeCompare a b < 0 ↔ chunkOrder collation a b < 0 := by
  simp only [chunkOrder, orderBy_cons, orderBy_nil, idAsc, h, and_false, or_false]

theorem pairwise_windowRows :
    (windowRows collation reads params perTypeLimit sourceType).Pairwise fun a b =>
      chunkOrder collation a b < 0 := by
  have hsorted : (windowTable collation reads params sourceType).Pairwise fun a b =>
      chunkOrder collation a b < 0 :=
    pairwise_lt_sortBy (comparator_chunkOrder collation) (pairwise_chunkOrder (nodup_filter _))
  have hfiltered := hsorted.sublist (filter_sublist : (filter reads.admits _).Sublist _)
  rw [windowRows]
  cases perTypeLimit with
  | none => exact hfiltered
  | some limit => exact hfiltered.sublist (take_sublist _ _)

/-- Sorting the rows of all windows leaves those of one window in their order, where the two
collations agree on the ids. -/
theorem sortBy_windowRows (hsource : sourceType ∈ sourceTypeWindows params)
    (hagree : ∀ a ∈ reads.knowledgeChunk.rows, ∀ b ∈ reads.knowledgeChunk.rows,
      localeCompare.collate a.id b.id < 0 ↔ collation.collate a.id b.id < 0) :
    (sortBy (chunkOrder localeCompare) ((sourceTypeWindows params).flatMap
      (windowRows collation reads params perTypeLimit))).filter (inWindow params sourceType) =
        windowRows collation reads params perTypeLimit sourceType := by
  have hperm := (sortBy_perm (chunkOrder localeCompare) ((sourceTypeWindows params).flatMap
    (windowRows collation reads params perTypeLimit))).filter (inWindow params sourceType)
  rw [filter_flatMap_windowRows hsource] at hperm
  have hle := (pairwise_sortBy (comparator_chunkOrder localeCompare) ((sourceTypeWindows
    params).flatMap (windowRows collation reads params perTypeLimit))).sublist
      (filter_sublist (p := inWindow params sourceType))
  have hne : ((sortBy (chunkOrder localeCompare) ((sourceTypeWindows params).flatMap
      (windowRows collation reads params perTypeLimit))).filter
        (inWindow params sourceType)).Pairwise fun a b => chunkOrder collation a b ≠ 0 := by
    refine (hperm.pairwise_iff fun {a b} hab hba => hab ?_).2 (pairwise_windowRows.imp Int.ne_of_lt)
    have hswap := (comparator_chunkOrder collation).swap a b
    have hswap' := (comparator_chunkOrder collation).swap b a
    omega
  refine eq_of_perm (comparator_chunkOrder collation) ?_ pairwise_windowRows hperm
  refine ((hle.imp₂ (fun _ _ => And.intro) hne).imp_of_mem ?_)
  rintro a b ha hb ⟨hle, hne⟩
  have hmem := (mem_windowRows (hperm.mem_iff.1 ha)).1
  have hmem' := (mem_windowRows (hperm.mem_iff.1 hb)).1
  refine (chunkOrder_congr (hagree a hmem b hmem')).1 (lt_of_le_of_ne hle fun hzero => hne ?_)
  -- rows that tie in one order are one row in the other
  have hsame : a = b := inj_on_of_nodup_map reads.knowledgeChunk.nodup hmem hmem'
    (chunkOrder_eq_zero hzero)
  rw [hsame]
  exact (comparator_chunkOrder collation).self b

end

/-- **Hidden rows do not interfere with the scan.** A call over a table that stays fixed reads at
most 5001 rows; it throws since the limit was exceeded, or each of its windows has the first
admitted rows in the order of the creation, the index and the id. The result has them all, sorted by
creation and index and then by `localeCompare`, which is their order in each window too where it
orders the ids like the database. Two tables with the same admitted rows give the same rows and the
same roots unless one of the calls throws. -/
theorem scanReadableKnowledgeChunks_exact {β : Type} (collation localeCompare : Collation)
    (params : RetrievalAccess) (perTypeLimit : Option Nat) :
    (∀ reads : KnowledgeReads β,
      let run := scanReadableKnowledgeChunks collation reads params perTypeLimit localeCompare
      run.1 ≤ 5001 ∧ (run.2 = .error scanLimitExceeded ∨ ∃ result, run.2 = .ok result ∧
        result.chunks.Perm ((sourceTypeWindows params).flatMap
          (windowRows collation reads params perTypeLimit)) ∧
        (result.chunks.Pairwise fun a b => chunkOrder localeCompare a b ≤ 0) ∧
        ∀ sourceType ∈ sourceTypeWindows params,
          (result.chunks.filter (inWindow params sourceType)).Perm
            (windowRows collation reads params perTypeLimit sourceType) ∧
          ((∀ a ∈ reads.knowledgeChunk.rows, ∀ b ∈ reads.knowledgeChunk.rows,
              localeCompare.collate a.id b.id < 0 ↔ collation.collate a.id b.id < 0) →
            result.chunks.filter (inWindow params sourceType) =
              windowRows collation reads params perTypeLimit sourceType))) ∧
    ∀ reads reads' : KnowledgeReads β,
      (reads.knowledgeChunk.rows.filter reads.admits).Perm
        (reads'.knowledgeChunk.rows.filter reads'.admits) →
      let run := scanReadableKnowledgeChunks collation reads params perTypeLimit localeCompare
      let run' := scanReadableKnowledgeChunks collation reads' params perTypeLimit localeCompare
      run.2 = .error scanLimitExceeded ∨ run'.2 = .error scanLimitExceeded ∨
        ∃ result result', run.2 = .ok result ∧ run'.2 = .ok result' ∧
          result.chunks = result'.chunks ∧
          ((∀ row ∈ reads.knowledgeChunk.rows.filter reads.admits,
            reads.inputs row = reads'.inputs row) → result.roots.Perm result'.roots) := by
  constructor
  · intro reads
    obtain ⟨hscanned, hresult⟩ := scanReadableKnowledgeChunks_outcome collation localeCompare reads
      params perTypeLimit
    refine ⟨hscanned, hresult.imp_right ?_⟩
    rintro ⟨result, hok, hchunks, _⟩
    refine ⟨result, hok, hchunks ▸ sortBy_perm _ _,
      hchunks ▸ pairwise_sortBy (comparator_chunkOrder localeCompare) _, ?_⟩
    intro sourceType hsource
    constructor
    · rw [hchunks, ← filter_flatMap_windowRows hsource]
      exact (sortBy_perm _ _).filter _
    · intro hagree
      rw [hchunks, sortBy_windowRows hsource hagree]
  · intro reads reads' hadmitted
    dsimp only
    obtain ⟨_, hresult⟩ := scanReadableKnowledgeChunks_outcome collation localeCompare reads
      params perTypeLimit
    obtain ⟨_, hresult'⟩ := scanReadableKnowledgeChunks_outcome collation localeCompare reads'
      params perTypeLimit
    rcases hresult with hthrown | ⟨result, hok, hchunks, table, hroots, hretained⟩
    · exact .inl hthrown
    rcases hresult' with hthrown | ⟨result', hok', hchunks', table', hroots', hretained'⟩
    · exact .inr (.inl hthrown)
    refine .inr (.inr ⟨result, result', hok, hok', ?_, ?_⟩)
    · rw [hchunks, hchunks', windowRows_congr hadmitted]
    · intro hinputs
      rw [hroots, hroots']
      refine KeyedTable.rows_perm fun key => ?_
      have hsame : ((sourceTypeWindows params).flatMap
          (windowRows collation reads params perTypeLimit)).flatMap reads.inputs =
        ((sourceTypeWindows params).flatMap
          (windowRows collation reads' params perTypeLimit)).flatMap reads'.inputs := by
        rw [← windowRows_congr hadmitted]
        refine flatMap_congr fun row hrow => hinputs row ?_
        obtain ⟨sourceType, _, hrow⟩ := mem_flatMap.1 hrow
        exact mem_filter.2 ⟨(mem_windowRows hrow).1, (mem_windowRows hrow).2.2⟩
      have hkey := (hretained key).symm
      rw [hsame, hretained' key] at hkey
      exact Except.ok.inj hkey

def sampleChunk (id : String) (createdAt : Int) : PermissionChunk Unit :=
  ⟨.lit id, .lit "ws", .DOCUMENT, .lit "doc", 0, .WORKSPACE, .PUBLIC, createdAt, ()⟩

/-- Two readable chunks, and a hidden one between them where `hidden` is set. -/
def sampleReads (hidden : Bool) : KnowledgeReads Unit where
  knowledgeChunk := ⟨
    if hidden then [sampleChunk "old" 1, sampleChunk "hidden" 2, sampleChunk "new" 3]
    else [sampleChunk "new" 3, sampleChunk "old" 1], by cases hidden <;> decide +kernel⟩
  hydrates _ := true
  admits row := row.id ≠ .lit "hidden"
  own _ := []
  parents _ := []
  settled _ roots h _ := ⟨none, by
    have hnil : roots = [] := List.eq_nil_iff_forall_not_mem.2 fun root hroot => by
      obtain ⟨_, _, hmem⟩ := h root hroot
      simp at hmem
    rw [hnil]
    rfl⟩

/-- The documents of the workspace. -/
def sampleAccess : RetrievalAccess := ⟨.lit "ws", [.WORKSPACE], some .PUBLIC, some [.DOCUMENT]⟩

/-- The hidden chunk changes nothing. -/
theorem scanReadableKnowledgeChunks_exact_hidden :
    let run := scanReadableKnowledgeChunks codeUnits (sampleReads true) sampleAccess (some 2)
      codeUnits
    let run' := scanReadableKnowledgeChunks codeUnits (sampleReads false) sampleAccess (some 2)
      codeUnits
    run.2.map KnowledgeResult.chunks = .ok [sampleChunk "new" 3, sampleChunk "old" 1] ∧
    (run.2 = .error scanLimitExceeded ∨ run'.2 = .error scanLimitExceeded ∨
      ∃ result result', run.2 = .ok result ∧ run'.2 = .ok result' ∧
        result.chunks = result'.chunks ∧
        ((∀ row ∈ (sampleReads true).knowledgeChunk.rows.filter (sampleReads true).admits,
          (sampleReads true).inputs row = (sampleReads false).inputs row) →
            result.roots.Perm result'.roots)) :=
  ⟨by decide +kernel, (scanReadableKnowledgeChunks_exact codeUnits codeUnits sampleAccess
    (some 2)).2 (sampleReads true) (sampleReads false) (by decide +kernel)⟩

end Corgtex.Knowledge
