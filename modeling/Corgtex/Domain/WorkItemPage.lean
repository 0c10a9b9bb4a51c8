import Corgtex.Domain.Errors
import Corgtex.Library.JsNumber
import Corgtex.Library.TopWindow

/-!
# Ranked pages of readable tensions

`rankedReadableTensionPage` (`work-item-readable-page.ts`) never sorts all the
rows it ranks. It scans the source again and again, keeps the 100 best rows after a moving boundary,
and drops from these what the page skips. `rankedReadableTensionPage_eq` states what that amounts
to: the slice of the sorted list.

`ι` is the type of row ids, ordered as the source compares strings; `localeCompare` is a parameter.
-/

namespace Corgtex.Domain

open Except JsArray JsNumber List

/-- `WorkItemPosition` (line 97), with the fields that `T` adds in `body`. -/
structure WorkItem (ι β : Type) where
  id : ι
  title : JsString
  priority : Option Int
  createdAt : Option Int
  body : β
deriving DecidableEq, Repr

/-- `Ranked` (line 155). -/
structure Ranked (ι β : Type) where
  row : WorkItem ι β
  votes : Int
deriving DecidableEq, Repr

/-- The page that is asked for, and the three callbacks that read the source. -/
structure RankedPageParams (ι β : Type) where
  take : Int
  skip : Int
  load : Option ι → Except AppError (List (WorkItem ι β))
  admitRows : List (WorkItem ι β) → Except AppError (List (WorkItem ι β))
  votes : List (WorkItem ι β) → Except AppError (ι → Option Int)

/-- What the scans of one window have gathered: the `window` and the `total`. -/
structure RankScan (ι β : Type) where
  window : List (Ranked ι β)
  total : Nat

section
variable {ι β : Type} (localeCompare : ι → ι → Int)

/-- `compare` (line 156). -/
def compareRanked (a b : Ranked ι β) : Int :=
  orElse (b.row.priority.getD 0 - a.row.priority.getD 0) <|
    orElse (b.votes - a.votes) <|
      orElse (b.row.createdAt.getD 0 - a.row.createdAt.getD 0) (localeCompare b.row.id a.row.id)

variable [LinearOrder ι] (params : RankedPageParams ι β) (boundary : Option (Ranked ι β))
  (first : Bool)

/-- The body of the loop over the rows of a page (line 175), after its check of the order. -/
def examineRow (readable : List ι) (votes : ι → Option Int) (scan : RankScan ι β)
    (row : WorkItem ι β) : RankScan ι β :=
  if row.id ∉ readable then scan
  else
    let total := if first then scan.total + 1 else scan.total
    if params.take = 0 then { scan with total }
    else
      let ranked : Ranked ι β := { row, votes := (votes row.id).getD 0 }
      if boundary.any fun boundary => compareRanked localeCompare ranked boundary ≤ 0 then
        { scan with total }
      else
        { window := TopWindow.push (compareRanked localeCompare) 100 scan.window ranked, total }

/-- The loop over the rows of a page. -/
def examinePage (afterId : Option ι) (readable : List ι) (votes : ι → Option Int) :
    List (WorkItem ι β) → RankScan ι β → Except AppError (RankScan ι β)
  | [], scan => return scan
  | row :: rows, scan => do
    invariant (afterId.all fun afterId => row.id > afterId) 503 "SOURCE_READ_SCAN_CHANGED"
      "Source page changed; retry."
    examinePage afterId readable votes rows
      (examineRow localeCompare params boundary first readable votes scan row)

/-- `params.take === 0 ? new Map() : await params.votes(admitted)`. -/
def readVotes (admitted : List (WorkItem ι β)) : Except AppError (ι → Option Int) :=
  if params.take = 0 then return fun _ => none else params.votes admitted

/-- The inner loop (line 167). It returns what it gathered and the number of rows examined so far,
which bounds it. -/
def scanSource (afterId : Option ι) (examined : Nat) (scan : RankScan ι β) :
    Except AppError (RankScan ι β × Nat) := do
  let rows ← params.load afterId
  invariant (rows.length ≤ 100) 503 "SOURCE_READ_SCAN_CHANGED" "Source page changed; retry."
  if _hbudget : examined + rows.length ≤ 10000 then
    let admitted ← params.admitRows rows
    let votes ← readVotes params admitted
    let scan ← examinePage localeCompare params boundary first afterId (admitted.map WorkItem.id)
      votes rows scan
    if _hlast : rows.length < 100 then
      return (scan, examined + rows.length)
    else
      scanSource (rows.getLast?.map WorkItem.id) (examined + rows.length) scan
  else
    throw ⟨409, "SOURCE_READ_SCAN_LIMIT",
      "Tension ranking exceeds its candidate window; narrow the filters."⟩
termination_by 10000 - examined
decreasing_by omega

theorem length_examineRow_le (readable : List ι) (votes : ι → Option Int) (scan : RankScan ι β)
    (row : WorkItem ι β) :
    (examineRow localeCompare params boundary first readable votes scan row).window.length
      ≤ scan.window.length + 1 := by
  unfold examineRow
  dsimp only
  split
  · exact Nat.le_succ _
  split
  · exact Nat.le_succ _
  split
  · exact Nat.le_succ _
  · exact TopWindow.length_push_le _ _ _ _

variable {localeCompare params boundary first}

variable {votes : ι → Option Int} {afterId : Option ι}

theorem length_examinePage_le {readable : List ι}
    {rows : List (WorkItem ι β)} {scan scan' : RankScan ι β}
    (h : examinePage localeCompare params boundary first afterId readable votes rows scan
      = .ok scan') :
    scan'.window.length ≤ scan.window.length + rows.length := by
  induction rows generalizing scan with
  | nil => exact ok.inj h ▸ Nat.le_refl _
  | cons row rows ih =>
    obtain ⟨_, h⟩ := invariant_bind_ok.1 h
    have hrow := length_examineRow_le localeCompare params boundary first readable votes scan row
    have hrows := ih h
    rw [length_cons]
    omega

variable {result : RankScan ι β × Nat} {scan : RankScan ι β} {examined : Nat}

section
variable (h : scanSource localeCompare params boundary first afterId examined scan = .ok result)
include h

/-- What one turn of the inner loop does when it does not throw: it reads a page, and returns after
a short one. -/
theorem scanSource_ok : ∃ rows admitted votes scan',
      params.load afterId = .ok rows ∧ rows.length ≤ 100 ∧ examined + rows.length ≤ 10000 ∧
      params.admitRows rows = .ok admitted ∧ (params.take ≠ 0 → params.votes admitted = .ok votes) ∧
      examinePage localeCompare params boundary first afterId (admitted.map WorkItem.id) votes rows
        scan = .ok scan' ∧
      (if rows.length < 100 then result = (scan', examined + rows.length)
        else scanSource localeCompare params boundary first (rows.getLast?.map WorkItem.id)
          (examined + rows.length) scan' = .ok result) := by
  rw [scanSource] at h
  obtain ⟨rows, hload, h⟩ := bind_ok.1 h
  obtain ⟨hpage, h⟩ := invariant_bind_ok.1 h
  split at h
  · next hbudget =>
    obtain ⟨admitted, hadmitted, h⟩ := bind_ok.1 h
    obtain ⟨votes, hvotes, h⟩ := bind_ok.1 h
    obtain ⟨scan', hscan, h⟩ := bind_ok.1 h
    refine ⟨rows, admitted, votes, scan', hload, of_decide_eq_true hpage, hbudget, hadmitted, ?_,
      hscan, ?_⟩
    · intro htake
      rwa [readVotes, if_neg htake] at hvotes
    · split at h
      · next hlast =>
        rw [if_pos hlast]
        exact (ok.inj h).symm
      · next hlast =>
        rw [if_neg hlast]
        exact h
  · cases h

/-- A scan examines at least as many rows as it adds to the window, and stays in the budget. -/
theorem scanSource_examined :
    examined + result.1.window.length ≤ result.2 + scan.window.length ∧ result.2 ≤ 10000 := by
  induction hleft : 10000 - examined using Nat.strong_induction_on
    generalizing afterId examined scan with
  | _ left ih =>
  obtain ⟨rows, admitted, votes, scan', _, _, hbudget, _, _, hpage, h⟩ := scanSource_ok h
  have hlength := length_examinePage_le hpage
  split at h
  · rw [h]
    exact ⟨by dsimp only; omega, hbudget⟩
  · obtain ⟨hle, hlimit⟩ := ih _ (by omega) h rfl
    exact ⟨by omega, hlimit⟩

end

variable (localeCompare params)

/-- The outer loop (line 164). A full window costs 100 examined rows, so the budget of the scans
bounds it. -/
def rankWindows (boundary : Option (Ranked ι β)) (remainingSkip : Nat) (first : Bool) (total : Nat)
    (items : List (WorkItem ι β)) (examined : Nat) : Except AppError (List (WorkItem ι β) × Nat) :=
  match _hscan : scanSource localeCompare params boundary first none examined
      { window := [], total } with
  | .error e => .error e
  | .ok (scan, examined') =>
    if scan.window = [] then .ok (items, scan.total)
    else
      let skip := min remainingSkip scan.window.length
      let items := (scan.window.drop skip).foldl (fun items candidate =>
        if items.length < params.take then items ++ [candidate.row] else items) items
      if _hstop : items.length = params.take ∨ scan.window.length < 100 then .ok (items, scan.total)
      else
        rankWindows scan.window.getLast? (remainingSkip - skip) false scan.total items examined'
termination_by 10000 - examined
decreasing_by
  obtain ⟨hle, hlimit⟩ := scanSource_examined _hscan
  simp only [List.length_nil] at hle
  omega

/-- `rankedReadableTensionPage` (line 148): the `items` and the `total`. -/
def rankedReadableTensionPage : Except AppError (List (WorkItem ι β) × Nat) := do
  invariant (isSafeInteger params.take && 0 ≤ params.take && params.take ≤ 5000
      && isSafeInteger params.skip && 0 ≤ params.skip)
    400 "INVALID_INPUT" "Work item pagination is invalid."
  rankWindows localeCompare params none params.skip.toNat true 0 [] 0

end

/-! ## The ranking -/

section
variable {ι β : Type} {localeCompare : ι → ι → Int} {readable : WorkItem ι β → Bool}
  {voteCount : WorkItem ι β → Int} {rows : List (WorkItem ι β)}

/-- A consistent order of the ids, in which no two are equal. -/
structure StrictLocale (localeCompare : ι → ι → Int) : Prop where
  comparator : Comparator localeCompare
  eq_of_zero : ∀ a b, localeCompare a b = 0 → a = b

theorem StrictLocale.ranked (h : StrictLocale localeCompare) :
    Comparator (compareRanked (β := β) localeCompare) := by
  refine .orElse (.descending fun a : Ranked ι β => a.row.priority.getD 0) ?_
  refine .orElse (.descending Ranked.votes) ?_
  refine .orElse (.descending fun a : Ranked ι β => a.row.createdAt.getD 0) ?_
  exact h.comparator.flip.on fun a : Ranked ι β => a.row.id

theorem StrictLocale.ranked_ne (h : StrictLocale localeCompare) {a b : Ranked ι β}
    (hne : a.row.id ≠ b.row.id) : compareRanked localeCompare a b ≠ 0 := by
  have hid : localeCompare b.row.id a.row.id ≠ 0 := fun he => hne (h.eq_of_zero _ _ he).symm
  simp only [compareRanked, orElse]
  split
  · assumption
  split
  · assumption
  split
  · assumption
  · exact hid

def rankedOf (voteCount : WorkItem ι β → Int) (row : WorkItem ι β) : Ranked ι β :=
  { row, votes := voteCount row }

def candidates (localeCompare : ι → ι → Int) (boundary : Option (Ranked ι β))
    (readable : WorkItem ι β → Bool) (voteCount : WorkItem ι β → Int)
    (rows : List (WorkItem ι β)) : List (Ranked ι β) :=
  ((rows.filter readable).map (rankedOf voteCount)).filter fun ranked =>
    !boundary.any fun boundary => compareRanked localeCompare ranked boundary ≤ 0

/-- The readable rows in the order of the ranking. -/
def ranking (localeCompare : ι → ι → Int) (readable : WorkItem ι β → Bool)
    (voteCount : WorkItem ι β → Int) (rows : List (WorkItem ι β)) : List (Ranked ι β) :=
  sortBy (compareRanked localeCompare) ((rows.filter readable).map (rankedOf voteCount))

theorem pairwise_ne_readable (hlocale : StrictLocale localeCompare)
    (hnodup : (rows.map WorkItem.id).Nodup) :
    ((rows.filter readable).map (rankedOf voteCount)).Pairwise fun a b =>
      compareRanked localeCompare a b ≠ 0 := by
  refine pairwise_map.2 ?_
  exact (pairwise_map.1 (hnodup.sublist (filter_sublist.map _))).imp
    fun hne => hlocale.ranked_ne hne

theorem pairwise_ranking (readable : WorkItem ι β → Bool) (voteCount : WorkItem ι β → Int)
    (hlocale : StrictLocale localeCompare) (hnodup : (rows.map WorkItem.id).Nodup) :
    (ranking localeCompare readable voteCount rows).Pairwise fun a b =>
      compareRanked localeCompare a b < 0 :=
  pairwise_lt_sortBy hlocale.ranked (pairwise_ne_readable hlocale hnodup)

/-- The loop that fills the page appends as many candidates as still fit. -/
theorem foldl_items (take : Int) (candidates : List (Ranked ι β)) (items : List (WorkItem ι β)) :
    candidates.foldl (fun items candidate =>
        if items.length < take then items ++ [candidate.row] else items) items =
      items ++ (candidates.map Ranked.row).take (take.toNat - items.length) := by
  induction candidates generalizing items with
  | nil => simp
  | cons candidate candidates ih =>
    rw [foldl_cons, ih]
    split
    · next hroom =>
      have hleft : take.toNat - items.length = take.toNat - (items.length + 1) + 1 := by omega
      rw [length_append, length_singleton, map_cons, hleft, take_succ_cons, append_assoc]
      rfl
    · next hfull =>
      have hleft : take.toNat - items.length = 0 := by omega
      rw [hleft, take_zero, take_zero]

end

/-! ## The source that stays fixed -/

section
variable {ι β : Type} [LinearOrder ι]

/-- `orderBy: { id: "asc" }`. -/
def byId (rows : List (WorkItem ι β)) : List (WorkItem ι β) :=
  rows.insertionSort fun a b => a.id ≤ b.id

/-- The next at most 100 rows by ascending id. -/
def nextPage (rows : List (WorkItem ι β)) (afterId : Option ι) : List (WorkItem ι β) :=
  (byId (rows.filter fun row => afterId.all fun afterId => afterId < row.id)).take 100

/-- The callbacks read one set of rows, of which `readable` are admitted, with one number of votes
for each row; any of them may throw at any call. -/
structure FixedSource (params : RankedPageParams ι β) (rows : List (WorkItem ι β))
    (readable : WorkItem ι β → Bool) (voteCount : WorkItem ι β → Int) : Prop where
  load : ∀ afterId page, params.load afterId = .ok page → page = nextPage rows afterId
  admitRows : ∀ page admitted, params.admitRows page = .ok admitted → admitted = page.filter readable
  votes : ∀ page counts, params.votes page = .ok counts →
    ∀ row ∈ page, (counts row.id).getD 0 = voteCount row

variable {rows seen rest : List (WorkItem ι β)}

theorem byId_perm (rows : List (WorkItem ι β)) : (byId rows).Perm rows :=
  perm_insertionSort _ rows

theorem pairwise_byId (hnodup : (rows.map WorkItem.id).Nodup) :
    (byId rows).Pairwise fun a b => a.id < b.id := by
  have : Std.Total fun a b : WorkItem ι β => a.id ≤ b.id := ⟨fun a b => le_total a.id b.id⟩
  have : IsTrans (WorkItem ι β) fun a b => a.id ≤ b.id := ⟨fun _ _ _ => le_trans⟩
  have hle := pairwise_insertionSort (fun a b : WorkItem ι β => a.id ≤ b.id) rows
  have hne : (byId rows).Pairwise fun a b => a.id ≠ b.id :=
    pairwise_map.1 (((byId_perm rows).map WorkItem.id).nodup_iff.2 hnodup)
  exact hle.imp₂ (fun _ _ hle hne => lt_of_le_of_ne hle hne) hne

theorem nextPage_eq (hnodup : (rows.map WorkItem.id).Nodup) (hsplit : byId rows = seen ++ rest) :
    nextPage rows (seen.getLast?.map WorkItem.id) = rest.take 100 := by
  have hsorted := pairwise_byId hnodup
  rw [hsplit] at hsorted
  obtain ⟨hseen, hrest, hcross⟩ := pairwise_append.1 hsorted
  have hperm : (rows.filter fun row =>
      (seen.getLast?.map WorkItem.id).all fun afterId => afterId < row.id).Perm rest := by
    refine ((byId_perm rows).symm.filter _).trans ?_
    rw [hsplit]
    rcases eq_nil_or_concat seen with rfl | ⟨front, last, hlast⟩
    · simp
    · rw [concat_eq_append] at hlast
      subst hlast
      have hnone : (front ++ [last]).filter (fun row => last.id < row.id) = [] := by
        refine filter_eq_nil_iff.2 fun row hrow => ?_
        rcases mem_append.1 hrow with hrow | hrow
        · simpa using (pairwise_append.1 hseen).2.2 row hrow last (.head _) |>.le
        · simp [mem_singleton.1 hrow]
      have hall : rest.filter (fun row => last.id < row.id) = rest := by
        refine filter_eq_self.2 fun row hrow => ?_
        simpa using hcross last (by simp) row hrow
      simp only [getLast?_concat, Option.map_some, Option.all_some]
      rw [filter_append, hnone, hall]
      exact .refl _
  have hnodup' : ((rows.filter fun row =>
      (seen.getLast?.map WorkItem.id).all fun afterId => afterId < row.id).map WorkItem.id).Nodup :=
    hnodup.sublist (filter_sublist.map _)
  rw [nextPage, List.Perm.eq_of_pairwise (fun a b _ _ hab hba => absurd hba hab.not_gt)
    (pairwise_byId hnodup') hrest ((byId_perm _).trans hperm)]

/-! ## One scan -/

variable {localeCompare : ι → ι → Int} {params : RankedPageParams ι β}
  {boundary : Option (Ranked ι β)} {first : Bool} {readable : WorkItem ι β → Bool}
  {voteCount : WorkItem ι β → Int}

/-- What a scan has gathered after the rows of `seen`: the number of readable rows, and the first
100 candidates. -/
structure Scanned (localeCompare : ι → ι → Int) (params : RankedPageParams ι β)
    (boundary : Option (Ranked ι β)) (first : Bool) (readable : WorkItem ι β → Bool)
    (voteCount : WorkItem ι β → Int) (total : Nat) (seen : List (WorkItem ι β))
    (scan : RankScan ι β) : Prop where
  total : scan.total = total + if first then (seen.filter readable).length else 0
  idle : params.take = 0 → scan.window = []
  window : params.take ≠ 0 → TopWindow.IsTop (compareRanked localeCompare) 100
    (candidates localeCompare boundary readable voteCount seen) scan.window

variable {total : Nat}

section
variable (hlocale : StrictLocale localeCompare)
include hlocale

/-- **One row.** -/
theorem Scanned.row
    (h : Scanned localeCompare params boundary first readable voteCount total seen scan)
    {ids : List ι} {row : WorkItem ι β} (hfresh : ∀ other ∈ seen, other.id ≠ row.id)
    (hids : row.id ∈ ids ↔ readable row)
    (hvotes : params.take ≠ 0 → readable row → (votes row.id).getD 0 = voteCount row) :
    Scanned localeCompare params boundary first readable voteCount total (seen ++ [row])
      (examineRow localeCompare params boundary first ids votes scan row) := by
  unfold examineRow
  by_cases hreadable : readable row = true
  · have hmem : ¬ row.id ∉ ids := not_not.2 (hids.2 hreadable)
    rw [if_neg hmem]
    have htotal : (if first then scan.total + 1 else scan.total) =
        total + if first then ((seen ++ [row]).filter readable).length else 0 := by
      rw [filter_append, filter_cons_of_pos hreadable, h.total]
      cases first <;> simp [Nat.add_assoc]
    dsimp only
    split
    · next htake => exact ⟨htotal, fun _ => h.idle htake, fun hne => absurd htake hne⟩
    next htake =>
    rw [hvotes htake hreadable]
    have hcandidates : candidates localeCompare boundary readable voteCount (seen ++ [row]) =
        candidates localeCompare boundary readable voteCount seen ++
          [rankedOf voteCount row].filter fun ranked =>
            !boundary.any fun boundary => compareRanked localeCompare ranked boundary ≤ 0 := by
      simp [candidates, hreadable]
    split
    · next hbefore =>
      refine ⟨htotal, fun he => absurd he htake, fun _ => ?_⟩
      rw [hcandidates, filter_cons_of_neg (by rw [rankedOf, hbefore]; nofun)]
      simpa using h.window htake
    · next hafter =>
      refine ⟨htotal, fun he => absurd he htake, fun _ => ?_⟩
      rw [hcandidates, filter_cons_of_pos (by rw [rankedOf, Bool.eq_false_iff.2 hafter]; rfl)]
      refine (h.window htake).push hlocale.ranked fun other hother => hlocale.ranked_ne ?_
      obtain ⟨item, hitem, rfl⟩ := mem_map.1 (mem_of_mem_filter hother)
      exact hfresh item (mem_of_mem_filter hitem)
  · have hmem : row.id ∉ ids := fun he => hreadable (hids.1 he)
    rw [if_pos hmem]
    have hfilter : (seen ++ [row]).filter readable = seen.filter readable := by
      rw [filter_append, filter_cons_of_neg hreadable]
      exact append_nil _
    refine ⟨hfilter ▸ h.total, h.idle, fun htake => ?_⟩
    rw [candidates, hfilter]
    exact h.window htake

/-- **One page.** -/
theorem Scanned.page {ids : List ι} {page : List (WorkItem ι β)} {scan' : RankScan ι β}
    (h : Scanned localeCompare params boundary first readable voteCount total seen scan)
    (hnodup : ((seen ++ page).map WorkItem.id).Nodup)
    (hids : ∀ row ∈ page, row.id ∈ ids ↔ readable row)
    (hvotes : params.take ≠ 0 → ∀ row ∈ page, readable row → (votes row.id).getD 0 = voteCount row)
    (hok : examinePage localeCompare params boundary first afterId ids votes page scan
      = .ok scan') :
    Scanned localeCompare params boundary first readable voteCount total (seen ++ page) scan' := by
  induction page generalizing seen scan with
  | nil =>
    rw [append_nil]
    exact ok.inj hok ▸ h
  | cons row page ih =>
    obtain ⟨_, hok⟩ := invariant_bind_ok.1 hok
    have hfresh : ∀ other ∈ seen, other.id ≠ row.id := by
      rw [map_append] at hnodup
      intro other hother he
      exact (nodup_append.1 hnodup).2.2 _ (mem_map.2 ⟨other, hother, rfl⟩) _ (.head _) he
    have hrow := h.row hlocale hfresh (hids row (.head _)) fun htake => hvotes htake row (.head _)
    rw [append_cons] at hnodup ⊢
    exact ih hrow hnodup (fun r hr => hids r (.tail _ hr))
      (fun htake r hr => hvotes htake r (.tail _ hr)) hok

/-- **One scan.** From the rows of `seen` on it examines all the rows of the source. -/
theorem Scanned.scan (hfixed : FixedSource params rows readable voteCount)
    (hnodup : (rows.map WorkItem.id).Nodup)
    {examined : Nat} {scan : RankScan ι β} {result : RankScan ι β × Nat}
    (hsplit : byId rows = seen ++ rest)
    (h : Scanned localeCompare params boundary first readable voteCount total seen scan)
    (hok : scanSource localeCompare params boundary first (seen.getLast?.map WorkItem.id) examined
      scan = .ok result) :
    Scanned localeCompare params boundary first readable voteCount total (byId rows) result.1 := by
  induction hleft : rest.length using Nat.strong_induction_on
    generalizing seen rest examined scan with
  | _ left ih =>
  obtain ⟨page, admitted, votes, scan', hload, _, _, hadmitted, hvotes, hpage, hok⟩ :=
    scanSource_ok hok
  obtain rfl := (hfixed.load _ _ hload).trans (nextPage_eq hnodup hsplit)
  obtain rfl := hfixed.admitRows _ _ hadmitted
  have hall : ((byId rows).map WorkItem.id).Nodup :=
    ((byId_perm rows).map WorkItem.id).nodup_iff.2 hnodup
  have hsplit' : byId rows = (seen ++ rest.take 100) ++ rest.drop 100 := by
    rw [append_assoc, take_append_drop, hsplit]
  have hnodup' : ((seen ++ rest.take 100).map WorkItem.id).Nodup := by
    rw [hsplit', map_append] at hall
    exact (nodup_append.1 hall).1
  have hids : ∀ row ∈ rest.take 100,
      row.id ∈ ((rest.take 100).filter readable).map WorkItem.id ↔ readable row := by
    intro row hrow
    constructor
    · intro hmem
      obtain ⟨other, hother, hid⟩ := mem_map.1 hmem
      obtain ⟨hother, hreadable⟩ := mem_filter.1 hother
      rw [map_append] at hnodup'
      exact inj_on_of_nodup_map (nodup_append.1 hnodup').2.1 hother hrow hid ▸ hreadable
    · exact fun hreadable => mem_map.2 ⟨row, mem_filter.2 ⟨hrow, hreadable⟩, rfl⟩
  have hafter := h.page hlocale hnodup' hids (fun htake row hrow hreadable =>
    hfixed.votes _ _ (hvotes htake) row (mem_filter.2 ⟨hrow, hreadable⟩)) hpage
  split at hok
  · next hshort =>
    have hdone : rest.drop 100 = [] := by
      rw [length_take] at hshort
      exact drop_eq_nil_of_le (by omega)
    rw [hok, hsplit', hdone, append_nil]
    exact hafter
  · next hlong =>
    rw [length_take] at hlong
    have hlast : (rest.take 100).getLast? = (seen ++ rest.take 100).getLast? := by
      rw [getLast?_append]
      cases hcase : (rest.take 100).getLast? with
      | some last => rfl
      | none =>
        have hlength := congrArg length (getLast?_eq_none_iff.1 hcase)
        rw [length_take, length_nil] at hlength
        omega
    rw [hlast] at hok
    refine ih _ ?_ hsplit' hafter hok rfl
    rw [length_drop]
    omega

end

/-! ## All scans -/

variable {done todo : List (Ranked ι β)}

theorem candidates_perm (hlocale : StrictLocale localeCompare)
    (hnodup : (rows.map WorkItem.id).Nodup)
    (hranking : ranking localeCompare readable voteCount rows = done ++ todo) :
    (candidates localeCompare done.getLast? readable voteCount (byId rows)).Perm todo := by
  have hsorted := pairwise_ranking readable voteCount hlocale hnodup
  rw [hranking] at hsorted
  obtain ⟨hdone, _, hcross⟩ := pairwise_append.1 hsorted
  have hperm : (((byId rows).filter readable).map (rankedOf voteCount)).Perm (done ++ todo) :=
    hranking ▸ (((byId_perm rows).filter readable).map _).trans (sortBy_perm _ _).symm
  refine (hperm.filter _).trans ?_
  rcases eq_nil_or_concat done with rfl | ⟨front, last, hlast⟩
  · simp
  rw [concat_eq_append] at hlast
  subst hlast
  simp only [getLast?_concat, Option.any_some]
  rw [filter_append, filter_eq_nil_iff.2, filter_eq_self.2]
  · exact .refl _
  · intro ranked hmem
    have hlt := (hlocale.ranked.swap last ranked).1 (hcross last (by simp) ranked hmem)
    simpa using hlt
  · intro ranked hmem
    rcases mem_append.1 hmem with hmem | hmem
    · have hlt := (pairwise_append.1 hdone).2.2 ranked hmem last (.head _)
      simpa using hlt.le
    · simp [mem_singleton.1 hmem, hlocale.ranked.self]

theorem window_eq (hlocale : StrictLocale localeCompare)
    (hfixed : FixedSource params rows readable voteCount) (hnodup : (rows.map WorkItem.id).Nodup)
    (hranking : ranking localeCompare readable voteCount rows = done ++ todo)
    (hok : scanSource localeCompare params done.getLast? first none examined ⟨[], total⟩
      = .ok result) :
    result.1.window = (if params.take = 0 then [] else todo.take 100) ∧
      result.1.total = total + if first then (rows.filter readable).length else 0 := by
  have hempty : Scanned localeCompare params done.getLast? first readable voteCount total []
      ⟨[], total⟩ := by
    refine ⟨by cases first <;> rfl, fun _ => rfl, fun _ => ?_⟩
    exact .nil _ _
  have hsplit : byId rows = [] ++ byId rows := rfl
  have hscan := hempty.scan hlocale hfixed hnodup hsplit hok
  have hcount : ((byId rows).filter readable).length = (rows.filter readable).length :=
    ((byId_perm rows).filter readable).length_eq
  refine ⟨?_, hcount ▸ hscan.total⟩
  split
  · next htake => exact hscan.idle htake
  · next htake =>
    have hne : (candidates localeCompare done.getLast? readable voteCount (byId rows)).Pairwise
        fun a b => compareRanked localeCompare a b ≠ 0 :=
      (pairwise_ne_readable hlocale
        (((byId_perm rows).map WorkItem.id).nodup_iff.2 hnodup)).sublist filter_sublist
    have hsorted := pairwise_ranking readable voteCount hlocale hnodup
    rw [hranking] at hsorted
    rw [(hscan.window htake).eq_take hlocale.ranked hne,
      sortBy_unique hlocale.ranked hne (pairwise_append.1 hsorted).2.1
        (candidates_perm hlocale hnodup hranking)]

/-- Filling the page from one more window. -/
theorem take_drop_append {α : Type} (take skip : Nat) (done window : List α) :
    ((done ++ window).drop skip).take take =
      (done.drop skip).take take ++
        (window.drop (min (skip - done.length) window.length)).take
          (take - ((done.drop skip).take take).length) := by
  have hskip : window.drop (min (skip - done.length) window.length) =
      window.drop (skip - done.length) := by
    rcases le_total (skip - done.length) window.length with hle | hle
    · rw [min_eq_left hle]
    · rw [min_eq_right hle, drop_length, drop_eq_nil_of_le hle]
  rw [hskip, drop_append, take_append]
  congr 2
  rw [length_take]
  omega

/-- A full page does not change. -/
theorem take_drop_of_full {α : Type} {take skip : Nat} {done rest : List α}
    (hfull : take ≤ ((done.drop skip).take take).length) :
    ((done ++ rest).drop skip).take take = (done.drop skip).take take := by
  rw [length_take] at hfull
  have hnone : take - (done.drop skip).length = 0 := by omega
  rw [drop_append, take_append, hnone, take_zero, append_nil]

/-- **All windows.** When the rows of `done` are ranked, the page is filled from them, and the rest
of the ranking is still to come, the loop returns the slice of the ranking. -/
theorem rankWindows_eq (hlocale : StrictLocale localeCompare)
    (hfixed : FixedSource params rows readable voteCount) (hnodup : (rows.map WorkItem.id).Nodup)
    {skip : Nat} {items : List (WorkItem ι β)} {result : List (WorkItem ι β) × Nat}
    (htake : 0 ≤ params.take)
    (hranking : ranking localeCompare readable voteCount rows = done ++ todo)
    (htotal : (if first then (rows.filter readable).length else 0) + total
      = (rows.filter readable).length)
    (hitems : items = ((done.map Ranked.row).drop skip).take params.take.toNat)
    (hok : rankWindows localeCompare params done.getLast? (skip - done.length) first total items
      examined = .ok result) :
    result = ((((ranking localeCompare readable voteCount rows).map Ranked.row).drop skip).take
      params.take.toNat, (rows.filter readable).length) := by
  induction hleft : todo.length using Nat.strong_induction_on
    generalizing done todo total examined items first with
  | _ left ih =>
  rw [rankWindows] at hok
  split at hok
  · cases hok
  next scan examined' hscan =>
  obtain ⟨hwindow, hcount⟩ := window_eq hlocale hfixed hnodup hranking hscan
  dsimp only at hwindow hcount
  rw [Nat.add_comm, htotal] at hcount
  split at hok
  · next hempty =>
    -- nothing is left after the boundary, or the page asks for nothing
    rw [← ok.inj hok, hcount, hitems]
    rw [hempty] at hwindow
    split at hwindow
    · next hzero => simp [hzero]
    · next hne =>
      have htodo : todo = [] := by
        rcases todo with _ | ⟨ranked, todo⟩
        · rfl
        · cases hwindow
      rw [hranking, htodo, append_nil]
  next hnonempty =>
  have hne : params.take ≠ 0 := fun hzero => hnonempty (by rw [hwindow, if_pos hzero])
  rw [if_neg hne] at hwindow
  have hitems' : (scan.window.drop (min (skip - done.length) scan.window.length)).foldl
      (fun items candidate =>
        if items.length < params.take then items ++ [candidate.row] else items) items =
      (((done ++ scan.window).map Ranked.row).drop skip).take params.take.toNat := by
    rw [foldl_items, map_append, take_drop_append, ← hitems, map_drop, length_map, length_map]
  have hsplit : ranking localeCompare readable voteCount rows =
      (done ++ scan.window) ++ todo.drop 100 := by
    rw [hranking, hwindow, append_assoc, take_append_drop]
  dsimp only at hok
  rw [hitems'] at hok
  split at hok
  · next hstop =>
    rw [← ok.inj hok, hcount, hsplit]
    rcases hstop with hfull | hshort
    · -- the page is full before the rest of the ranking
      have hmap : ((done ++ scan.window) ++ todo.drop 100).map Ranked.row =
          (done ++ scan.window).map Ranked.row ++ (todo.drop 100).map Ranked.row :=
        map_append
      rw [hmap, take_drop_of_full (by omega)]
    · have hend : todo.drop 100 = [] := by
        rw [hwindow, length_take] at hshort
        exact drop_eq_nil_of_le (by omega)
      rw [hend, append_nil]
  · next hgo =>
    have hlong := (not_or.1 hgo).2
    rw [not_lt, hwindow, length_take] at hlong
    have hlast : scan.window.getLast? = (done ++ scan.window).getLast? := by
      rw [getLast?_append]
      cases hcase : scan.window.getLast? with
      | some last => rfl
      | none => exact absurd (getLast?_eq_none_iff.1 hcase) hnonempty
    have hskip : skip - done.length - min (skip - done.length) scan.window.length =
        skip - (done ++ scan.window).length := by
      rw [length_append]
      omega
    rw [hlast, hskip] at hok
    refine ih _ ?_ hsplit ?_ rfl hok rfl
    · rw [length_drop]
      omega
    · simpa using hcount

/-- **A ranked page is a slice of the sorted list.** Over a source that stays fixed, a call that
returns gives the number of readable rows, and the rows `skip`, ..., `skip + take - 1` of the
ranking. -/
theorem rankedReadableTensionPage_eq (hlocale : StrictLocale localeCompare)
    (hfixed : FixedSource params rows readable voteCount) (hnodup : (rows.map WorkItem.id).Nodup)
    {items : List (WorkItem ι β)} {total : Nat}
    (hok : rankedReadableTensionPage localeCompare params = .ok (items, total)) :
    total = (rows.filter readable).length ∧
      items = (((sortBy (compareRanked localeCompare)
        ((rows.filter readable).map (rankedOf voteCount))).map Ranked.row).drop
          params.skip.toNat).take params.take.toNat := by
  obtain ⟨hvalid, hok⟩ := invariant_bind_ok.1 hok
  simp only [Bool.and_eq_true, decide_eq_true_eq] at hvalid
  have hstart : ranking localeCompare readable voteCount rows =
      [] ++ ranking localeCompare readable voteCount rows := rfl
  have hresult := rankWindows_eq hlocale hfixed hnodup hvalid.1.1.1.2 hstart rfl (by simp) hok
  exact ⟨congrArg Prod.snd hresult, congrArg Prod.fst hresult⟩

end

/-! ## Three tensions -/

/-- Two readable tensions and a hidden one. -/
def threeTensions : List (WorkItem Nat Unit) :=
  [⟨1, .lit "a", some 1, some 10, ()⟩, ⟨2, .lit "b", some 5, some 20, ()⟩,
    ⟨3, .lit "c", some 9, some 30, ()⟩]

/-- `localeCompare` on the ids of the example. -/
def compareIds (a b : Nat) : Int := (a : Int) - b

/-- The page that skips the best ranked of the three. -/
def secondTension : RankedPageParams Nat Unit where
  take := 1
  skip := 1
  load afterId := .ok (nextPage threeTensions afterId)
  admitRows page := .ok (page.filter fun row => row.id ≠ 3)
  votes _ := .ok fun _ => some 0

theorem scanSource_secondTension :
    scanSource compareIds secondTension none true none 0 ⟨[], 0⟩ =
      .ok (⟨[⟨⟨2, .lit "b", some 5, some 20, ()⟩, 0⟩, ⟨⟨1, .lit "a", some 1, some 10, ()⟩, 0⟩], 2⟩,
        3) := by
  rw [scanSource]
  rfl

theorem rankedReadableTensionPage_secondTension :
    rankedReadableTensionPage compareIds secondTension =
      .ok ([⟨1, .lit "a", some 1, some 10, ()⟩], 2) := by
  show rankWindows compareIds secondTension none 1 true 0 [] 0 = _
  rw [rankWindows]
  split
  · next h => exact nomatch scanSource_secondTension.symm.trans h
  · next h =>
    cases ok.inj (scanSource_secondTension.symm.trans h)
    rfl

theorem secondTension_is_slice :
    2 = (threeTensions.filter fun row => row.id ≠ 3).length ∧
      [⟨1, .lit "a", some 1, some 10, ()⟩] = (((sortBy (compareRanked compareIds)
        ((threeTensions.filter fun row => row.id ≠ 3).map (rankedOf fun _ => 0))).map
          Ranked.row).drop (1 : Int).toNat).take (1 : Int).toNat := by
  refine rankedReadableTensionPage_eq ⟨⟨?_, ?_⟩, ?_⟩ ⟨?_, ?_, ?_⟩ (by decide)
    rankedReadableTensionPage_secondTension
  · exact fun a b => by unfold compareIds; omega
  · exact fun a b c hab hbc => by unfold compareIds at *; omega
  · exact fun a b hab => by unfold compareIds at hab; omega
  · exact fun _ _ h => (ok.inj h).symm
  · exact fun _ _ h => (ok.inj h).symm
  · exact fun _ _ h _ _ => ok.inj h ▸ rfl

end Corgtex.Domain
