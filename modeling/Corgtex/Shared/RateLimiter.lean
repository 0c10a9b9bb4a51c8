import Corgtex.Library.JsNumber
import Corgtex.Library.SlidingWindow

/-!
# The two sliding-window rate limiters

`checkRateLimit` (`shared/src/rate-limiter.ts`) falls back to an in-memory bucket that prunes an
expired *prefix* of its timestamps; the Postgres backend (`shared/src/postgres-shared-state.ts`)
*filters* the stored array instead, and a background cleanup deletes rows whose last timestamp has
expired. Both are modelled as they are written, and `limiters_agree` runs them side by side over one
non-decreasing sequence of clock readings.
-/

namespace Corgtex.Shared

open JsNumber List

/-- `RateLimitResult` (line 6). -/
structure RateLimitResult where
  allowed : Bool
  remaining : Int
  limit : Int
  resetAtMs : Int
deriving DecidableEq, Repr

/-- `RateLimitOptions` (line 13), without `failClosed`, which neither limiter reads. -/
structure RateLimitOptions where
  windowMs : Int
  limit : Int
deriving DecidableEq, Repr

/-- The options that the Postgres limiter accepts (`postgres-shared-state.ts:23`). -/
def RateLimitOptions.valid (opts : RateLimitOptions) : Bool :=
  isSafeInteger opts.limit && 1 ≤ opts.limit && isSafeInteger opts.windowMs && 1 ≤ opts.windowMs

/-! ## The in-memory limiter -/

/-- `Bucket` (line 27). -/
structure Bucket where
  timestamps : List Int
  windowMs : Int
  limit : Int
deriving DecidableEq, Repr

/-- The process-wide `buckets` map (line 33). -/
abbrev Buckets := String → Option Bucket

/-- `pruneExpired` (line 59): drops the prefix before the first live timestamp. -/
def pruneExpired (bucket : Bucket) (now : Int) : Bucket :=
  let cutoff := now - bucket.windowMs
  match bucket.timestamps.findIdx? (fun t => t > cutoff) with
  | none => { bucket with timestamps := [] }
  | some firstValid =>
    if firstValid > 0 then { bucket with timestamps := bucket.timestamps.drop firstValid }
    else bucket

/-- `checkInMemoryRateLimit` (line 69) at clock reading `now`. -/
def checkInMemoryRateLimit (buckets : Buckets) (key : String) (opts : RateLimitOptions)
    (now : Int) : RateLimitResult × Buckets :=
  let bucket := (buckets key).getD { timestamps := [], windowMs := opts.windowMs, limit := opts.limit }
  let bucket := pruneExpired { bucket with windowMs := opts.windowMs, limit := opts.limit } now
  let remaining := max 0 (bucket.limit - bucket.timestamps.length)
  let resetAtMs := match bucket.timestamps with
    | oldest :: _ => oldest + bucket.windowMs
    | [] => now + bucket.windowMs
  if bucket.timestamps.length ≥ bucket.limit then
    ({ allowed := false, remaining := 0, limit := bucket.limit, resetAtMs },
      Function.update buckets key (some bucket))
  else
    ({ allowed := true, remaining := remaining - 1, limit := bucket.limit, resetAtMs },
      Function.update buckets key (some { bucket with timestamps := bucket.timestamps ++ [now] }))

/-! ## The Postgres limiter -/

/-- A row of `"SharedRateLimit"` (`schema.prisma`), found by its `id`. -/
structure SharedRateLimit where
  timestamps : List Int
  expiresAt : Int
deriving DecidableEq, Repr

/-- The table, by `sharedStateKey("rate-limit", key)`, an opaque digest of the key. -/
abbrev SharedRateLimits (Id : Type) := Id → Option SharedRateLimit

section
variable {Id : Type} [DecidableEq Id] (sharedStateKey : String → Id)

/-- `check` (`postgres-shared-state.ts:22`) at clock reading `now`: insert the row if it is
missing, filter it, and write the filtered array back with the new timestamp if it is allowed. -/
def check (rows : SharedRateLimits Id) (key : String) (opts : RateLimitOptions) (now : Int) :
    Except String (RateLimitResult × SharedRateLimits Id) :=
  if opts.valid then
    let id := sharedStateKey key
    let row := (rows id).getD { timestamps := [], expiresAt := now }
    let timestamps := row.timestamps.filter (fun time => time > now - opts.windowMs)
    let resetAtMs := timestamps.head?.getD now + opts.windowMs
    let allowed := decide ((timestamps.length : Int) < opts.limit)
    let timestamps := if allowed then timestamps ++ [now] else timestamps
    .ok ({ allowed, remaining := max 0 (opts.limit - timestamps.length), limit := opts.limit,
           resetAtMs },
         Function.update rows id
          (some { timestamps, expiresAt := timestamps.getLast?.getD now + opts.windowMs }))
  else .error "Invalid rate limit options"

/-- `cleanup` (`postgres-shared-state.ts:15`) at clock reading `now`: deletes expired rows, at most
a batch of those not locked. Which of them is left to the caller's `deleted`. -/
def cleanup (deleted : Id → Bool) (rows : SharedRateLimits Id) (now : Int) : SharedRateLimits Id :=
  fun id => (rows id).filter (fun row => !(deleted id && decide (row.expiresAt ≤ now)))

end

/-! ## Runs on one key -/

/-- What happens to the entry of one key: a call, or a pass of the cleanup, each at a clock
reading. -/
inductive Event (Id : Type)
  | check (now : Int)
  | cleanup (now : Int) (deleted : Id → Bool)

/-- The clock reading of an event. -/
def Event.now {Id : Type} : Event Id → Int
  | .check now => now
  | .cleanup now _ => now

/-- The readings of the calls among the events. -/
def checkTimes {Id : Type} (events : List (Event Id)) : List Int :=
  events.filterMap fun
    | .check now => some now
    | .cleanup .. => none

/-- The in-memory limiter over a run: each call's reading with its result, and the map left. The
cleanup does not concern it. -/
def runInMemory {Id : Type} (key : String) (opts : RateLimitOptions) :
    Buckets → List (Event Id) → List (Int × RateLimitResult) × Buckets
  | buckets, [] => ([], buckets)
  | buckets, .check now :: events =>
    let (result, buckets) := checkInMemoryRateLimit buckets key opts now
    let (results, buckets) := runInMemory key opts buckets events
    ((now, result) :: results, buckets)
  | buckets, .cleanup .. :: events => runInMemory key opts buckets events

section
variable {Id : Type} [DecidableEq Id] (sharedStateKey : String → Id)

/-- The Postgres limiter over a run; a call that throws leaves the table as it was. -/
def runPostgres (key : String) (opts : RateLimitOptions) :
    SharedRateLimits Id → List (Event Id) →
      List (Int × Except String RateLimitResult) × SharedRateLimits Id
  | rows, [] => ([], rows)
  | rows, .check now :: events =>
    match check sharedStateKey rows key opts now with
    | .ok (result, rows) =>
      let (results, rows) := runPostgres key opts rows events
      ((now, .ok result) :: results, rows)
    | .error message =>
      let (results, rows) := runPostgres key opts rows events
      ((now, .error message) :: results, rows)
  | rows, .cleanup now deleted :: events =>
    runPostgres key opts (cleanup deleted rows now) events

end

/-- The readings of the allowed calls of a run. -/
def allowedTimes (results : List (Int × RateLimitResult)) : List Int :=
  results.filterMap fun c => if c.2.allowed then some c.1 else none

/-! ## Both limiters compute the sliding window -/

open SlidingWindow

/-- The answer that the window over the allowed calls `history` gives at `now`. -/
def windowResult (opts : RateLimitOptions) (history : List Int) (now : Int) : RateLimitResult :=
  { allowed := decide (Admits opts.windowMs opts.limit history now)
    remaining := max 0 (opts.limit - (inside opts.windowMs now history).length -
      if Admits opts.windowMs opts.limit history now then 1 else 0)
    limit := opts.limit
    resetAtMs := resetAt opts.windowMs now history }

/-- The prefix that `pruneExpired` drops from a sorted bucket is what lies outside the window. -/
theorem pruneExpired_eq (bucket : Bucket) (now : Int)
    (hsorted : bucket.timestamps.Pairwise (· ≤ ·)) :
    pruneExpired bucket now =
      { bucket with timestamps := inside bucket.windowMs now bucket.timestamps } := by
  have hdrop := drop_findIdx?_eq_filter (p := fun t => decide (t > now - bucket.windowMs))
    (hsorted.imp fun hab => by simpa using fun ha => lt_of_lt_of_le ha hab)
  rw [inside, ← hdrop]
  simp only [pruneExpired]
  cases bucket.timestamps.findIdx? (fun t => decide (t > now - bucket.windowMs)) with
  | none => rfl
  | some i => cases i <;> rfl

/-- The timestamps in the bucket of a key, none when there is no bucket yet. -/
def Buckets.timestamps (buckets : Buckets) (key : String) : List Int :=
  ((buckets key).map Bucket.timestamps).getD []

/-- The bucket that a call works on: the key's, under the options of the call. -/
theorem Buckets.getD_with (buckets : Buckets) (key : String) (opts : RateLimitOptions) :
    { (buckets key).getD ⟨[], opts.windowMs, opts.limit⟩ with
      windowMs := opts.windowMs, limit := opts.limit } =
      (⟨buckets.timestamps key, opts.windowMs, opts.limit⟩ : Bucket) := by
  unfold Buckets.timestamps
  cases buckets key <;> rfl

/-- The bucket of `key` stands for the history from `last` on, with the timestamps sorted as the
prefix pruning needs them. -/
structure Buckets.Stores (buckets : Buckets) (key : String) (width last : Int)
    (history : List Int) : Prop where
  sorted : (buckets.timestamps key).Pairwise (· ≤ ·)
  stores : StoresFrom width last (buckets.timestamps key) history

/-- The in-memory reset instant, written as the window's. -/
theorem resetAtMs_eq (timestamps : List Int) (width now : Int) :
    (match timestamps with
      | oldest :: _ => oldest + width
      | [] => now + width) = timestamps.head?.getD now + width := by
  cases timestamps <;> rfl

variable {history : List Int} {opts : RateLimitOptions}

/-- The in-memory limiter answers as the window does, and its bucket keeps standing for the
history. -/
theorem checkInMemoryRateLimit_spec {buckets : Buckets} {key : String} {last now : Int}
    (h : buckets.Stores key opts.windowMs last history)
    (hp : Paced opts.windowMs opts.limit last history) (hnow : last ≤ now) :
    (checkInMemoryRateLimit buckets key opts now).1 = windowResult opts history now ∧
      (checkInMemoryRateLimit buckets key opts now).2.Stores key opts.windowMs now
        (record opts.windowMs opts.limit history now) := by
  have hpruned : pruneExpired ⟨buckets.timestamps key, opts.windowMs, opts.limit⟩ now =
      ⟨inside opts.windowMs now history, opts.windowMs, opts.limit⟩ := by
    rw [pruneExpired_eq _ _ h.sorted]
    exact congrArg (Bucket.mk · _ _) (h.stores now hnow)
  have hsorted := hp.written_sorted hnow
  have hstores := storesFrom_written opts.windowMs opts.limit history now
  unfold checkInMemoryRateLimit
  simp only [Buckets.getD_with, hpruned, resetAtMs_eq]
  by_cases hadm : Admits opts.windowMs opts.limit history now
  · have hroom : ((inside opts.windowMs now history).length : Int) < opts.limit := hadm
    simp only [written, if_pos hadm] at hsorted hstores
    rw [if_neg (not_le.2 hroom)]
    refine ⟨?_, ?_, ?_⟩
    · simp only [windowResult, hadm, decide_true, if_true, resetAt]
      congr 1
      omega
    · simpa [Buckets.timestamps] using hsorted
    · simpa [Buckets.timestamps] using hstores
  · have hfull : ((inside opts.windowMs now history).length : Int) ≥ opts.limit := not_lt.1 hadm
    simp only [written, if_neg hadm] at hsorted hstores
    rw [if_pos hfull]
    refine ⟨?_, ?_, ?_⟩
    · simp only [windowResult, hadm, decide_false, if_false, resetAt]
      congr 1
      omega
    · simpa [Buckets.timestamps] using hsorted
    · simpa [Buckets.timestamps] using hstores

section
variable {Id : Type}

/-- The stored array of a row, none when there is no row yet. -/
def SharedRateLimits.timestamps (rows : SharedRateLimits Id) (id : Id) : List Int :=
  ((rows id).map SharedRateLimit.timestamps).getD []

/-- The row of `id` stands for the history from `last` on, and it expires no earlier than its last
timestamp leaves the window, so the cleanup only deletes what no later window reads. -/
structure SharedRateLimits.Stores (rows : SharedRateLimits Id) (id : Id) (width last : Int)
    (history : List Int) : Prop where
  stores : StoresFrom width last (rows.timestamps id) history
  expires : ∀ row, rows id = some row → ∀ t ∈ row.timestamps, t + width ≤ row.expiresAt

/-- A sorted array lies at or before its last entry. -/
theorem le_getLast?_getD {l : List Int} {t : Int} (now : Int) (hs : l.Pairwise (· ≤ ·))
    (ht : t ∈ l) :
    t ≤ l.getLast?.getD now := by
  have hne : l ≠ [] := ne_nil_of_mem ht
  rw [getLast?_eq_some_getLast hne, Option.getD_some]
  rw [← dropLast_append_getLast hne, pairwise_append] at hs
  rw [← dropLast_append_getLast hne] at ht
  rcases mem_append.1 ht with ht | ht
  · exact hs.2.2 t ht _ (.head _)
  · exact (mem_singleton.1 ht).le

variable {rows : SharedRateLimits Id}

/-- The cleanup keeps the row standing for the history. -/
theorem cleanup_spec {id : Id} {width last now : Int} (deleted : Id → Bool)
    (h : rows.Stores id width last history) (hnow : last ≤ now) :
    (cleanup deleted rows now).Stores id width now history := by
  cases hrow : rows id with
  | none =>
    have hcleanup : (cleanup deleted rows now) id = rows id := by simp [cleanup, hrow]
    refine ⟨?_, ?_⟩
    · unfold SharedRateLimits.timestamps
      rw [hcleanup]
      exact h.stores.later hnow
    · rw [hcleanup]; exact h.expires
  | some row =>
    by_cases hdel : deleted id = true ∧ row.expiresAt ≤ now
    · -- the deleted row held only timestamps that have left every later window
      have hcleanup : (cleanup deleted rows now) id = none := by
        simp [cleanup, hrow, hdel.1, hdel.2]
      refine ⟨fun t ht => ?_, by rw [hcleanup]; nofun⟩
      rw [← h.stores t (hnow.trans ht)]
      have hgone : inside width t row.timestamps = [] := by
        refine filter_eq_nil_iff.2 fun a ha => ?_
        have := h.expires row hrow a ha
        simp only [decide_eq_true_eq, not_lt]
        omega
      simp [SharedRateLimits.timestamps, hcleanup, hrow, hgone]
    · have hcleanup : (cleanup deleted rows now) id = rows id := by
        simp only [cleanup, hrow, Option.filter_some]
        rw [if_pos]
        cases hd : deleted id with
        | false => rfl
        | true => simpa [hd] using hdel
      refine ⟨?_, ?_⟩
      · unfold SharedRateLimits.timestamps
        rw [hcleanup]
        exact h.stores.later hnow
      · rw [hcleanup]; exact h.expires

variable [DecidableEq Id] (sharedStateKey : String → Id)

/-- The Postgres limiter, under options it accepts, answers as the window does, and its row keeps
standing for the history. -/
theorem check_spec {key : String} {last now : Int} (hopts : opts.valid)
    (h : rows.Stores (sharedStateKey key) opts.windowMs last history)
    (hp : Paced opts.windowMs opts.limit last history) (hnow : last ≤ now) :
    ∃ rows', check sharedStateKey rows key opts now = .ok (windowResult opts history now, rows') ∧
      rows'.Stores (sharedStateKey key) opts.windowMs now
        (record opts.windowMs opts.limit history now) := by
  have hread : ((rows (sharedStateKey key)).getD ⟨[], now⟩).timestamps.filter
      (fun time => decide (time > now - opts.windowMs)) = inside opts.windowMs now history := by
    rw [← h.stores now hnow]
    unfold SharedRateLimits.timestamps
    cases rows (sharedStateKey key) <;> rfl
  refine ⟨Function.update rows (sharedStateKey key) (some
    ⟨written opts.windowMs opts.limit history now,
      (written opts.windowMs opts.limit history now).getLast?.getD now + opts.windowMs⟩),
    ?_, ?_, ?_⟩
  · have hif : (if decide (((inside opts.windowMs now history).length : Int) < opts.limit) then
        inside opts.windowMs now history ++ [now] else inside opts.windowMs now history) =
        written opts.windowMs opts.limit history now := by
      by_cases hadm : ((inside opts.windowMs now history).length : Int) < opts.limit <;>
        simp [written, Admits, hadm]
    have hremaining : max 0 (opts.limit - (written opts.windowMs opts.limit history now).length) =
        (windowResult opts history now).remaining := by
      unfold written windowResult
      by_cases hadm : Admits opts.windowMs opts.limit history now <;> simp [hadm]
      omega
    unfold check
    simp only [hopts, if_true, hread, hif, hremaining]
    rfl
  · simpa [SharedRateLimits.timestamps] using
      storesFrom_written opts.windowMs opts.limit history now
  · intro row hrow t ht
    rw [Function.update_self, Option.some.injEq] at hrow
    subst hrow
    have := le_getLast?_getD now (hp.written_sorted hnow) ht
    simpa using this

end

/-! ## Runs -/

/-- The answers of the window over a run. -/
def windowRun {Id : Type} (opts : RateLimitOptions) :
    List Int → List (Event Id) → List (Int × RateLimitResult)
  | _, [] => []
  | history, .check now :: events =>
    (now, windowResult opts history now) ::
      windowRun opts (record opts.windowMs opts.limit history now) events
  | history, .cleanup .. :: events => windowRun opts history events

theorem records_checkTimes {Id : Type} (opts : RateLimitOptions) (events : List (Event Id))
    (history : List Int) :
    records opts.windowMs opts.limit history (checkTimes events) =
      history ++ allowedTimes (windowRun opts history events) := by
  induction events generalizing history with
  | nil => simp [records, checkTimes, windowRun, allowedTimes]
  | cons e events ih =>
    cases e with
    | cleanup => exact ih history
    | check now =>
      have hstep := ih (record opts.windowMs opts.limit history now)
      simp only [records, checkTimes, windowRun, allowedTimes, filterMap_cons,
        foldl_cons] at hstep ⊢
      rw [hstep]
      unfold record windowResult
      split <;> simp_all

section
variable {Id : Type} {opts : RateLimitOptions} {key : String} {last : Int} {history : List Int}
  {events : List (Event Id)}

/-- The run lemma of the in-memory limiter: its answers are the window's, and its bucket stands for
the history left. -/
theorem runInMemory_spec {buckets : Buckets} (h : buckets.Stores key opts.windowMs last history)
    (hp : Paced opts.windowMs opts.limit last history)
    (hmono : (last :: events.map Event.now).Pairwise (· ≤ ·)) :
    (runInMemory key opts buckets events).1 = windowRun opts history events ∧
      ∀ now, last ≤ now → (∀ e ∈ events, e.now ≤ now) →
        (runInMemory key opts buckets events).2.Stores key opts.windowMs now
          (records opts.windowMs opts.limit history (checkTimes events)) := by
  induction events generalizing buckets last history with
  | nil => exact ⟨rfl, fun now hnow _ => ⟨h.sorted, h.stores.later hnow⟩⟩
  | cons e events ih =>
    obtain ⟨hle, hrest⟩ := pairwise_cons.1 hmono
    cases e with
    | cleanup now =>
      have hlast : last ≤ now := hle _ (.head _)
      obtain ⟨hrun, hstores⟩ := ih ⟨h.sorted, h.stores.later hlast⟩ (hp.later hlast) hrest
      exact ⟨hrun, fun t _ ht => hstores t (ht _ (.head _)) fun e he => ht e (.tail _ he)⟩
    | check now =>
      have hlast : last ≤ now := hle _ (.head _)
      obtain ⟨hanswer, hstored⟩ := checkInMemoryRateLimit_spec h hp hlast
      obtain ⟨hrun, hstores⟩ := ih hstored (hp.record hlast) hrest
      refine ⟨?_, fun t _ ht => hstores t (ht _ (.head _)) fun e he => ht e (.tail _ he)⟩
      simp only [runInMemory, windowRun, hanswer, hrun]

variable [DecidableEq Id] (sharedStateKey : String → Id)

/-- The run lemma of the Postgres limiter, over runs with the cleanup at any point. -/
theorem runPostgres_spec (hopts : opts.valid)
    (h : rows.Stores (sharedStateKey key) opts.windowMs last history)
    (hp : Paced opts.windowMs opts.limit last history)
    (hmono : (last :: events.map Event.now).Pairwise (· ≤ ·)) :
    (runPostgres sharedStateKey key opts rows events).1 =
        (windowRun opts history events).map (fun c => (c.1, .ok c.2)) ∧
      ∀ now, last ≤ now → (∀ e ∈ events, e.now ≤ now) →
        (runPostgres sharedStateKey key opts rows events).2.Stores (sharedStateKey key)
          opts.windowMs now (records opts.windowMs opts.limit history (checkTimes events)) := by
  induction events generalizing rows last history with
  | nil => exact ⟨rfl, fun now hnow _ => ⟨h.stores.later hnow, h.expires⟩⟩
  | cons e events ih =>
    obtain ⟨hle, hrest⟩ := pairwise_cons.1 hmono
    cases e with
    | cleanup now deleted =>
      have hlast : last ≤ now := hle _ (.head _)
      obtain ⟨hrun, hstores⟩ := ih (cleanup_spec deleted h hlast) (hp.later hlast) hrest
      exact ⟨hrun, fun t _ ht => hstores t (ht _ (.head _)) fun e he => ht e (.tail _ he)⟩
    | check now =>
      have hlast : last ≤ now := hle _ (.head _)
      obtain ⟨rows', hanswer, hstored⟩ := check_spec sharedStateKey hopts h hp hlast
      obtain ⟨hrun, hstores⟩ := ih hstored (hp.record hlast) hrest
      refine ⟨?_, fun t _ ht => ?_⟩
      · simp only [runPostgres, windowRun, hanswer, hrun, map_cons]
      · simp only [runPostgres, hanswer]
        exact hstores t (ht _ (.head _)) fun e he => ht e (.tail _ he)

end

/-- The calls of a run are some of its readings, in order. -/
theorem checkTimes_sublist {Id : Type} (events : List (Event Id)) :
    (checkTimes events).Sublist (events.map Event.now) := by
  induction events with
  | nil => exact .slnil
  | cons e events ih =>
    cases e with
    | check now => exact ih.cons_cons now
    | cleanup now => exact ih.cons now

/-- Before any call there is no bucket. -/
def noBuckets : Buckets := fun _ => none

/-- Before any call there is no row. -/
def noRows (Id : Type) : SharedRateLimits Id := fun _ => none

theorem noBuckets_stores (key : String) (width last : Int) : noBuckets.Stores key width last [] :=
  ⟨.nil, fun _ _ => rfl⟩

theorem noRows_stores {Id : Type} (id : Id) (width last : Int) :
    (noRows Id).Stores id width last [] :=
  ⟨fun _ _ => rfl, nofun⟩

/-- A denied call is denied again at every reading before its reset instant, and allowed at that
instant. `next t r` says that the limiter answers `r` to a call at `t` right after it. -/
def DeniedUntilReset (now : Int) (call : RateLimitResult)
    (next : Int → RateLimitResult → Prop) : Prop :=
  call.allowed = false →
    (∀ t, now ≤ t → t < call.resetAtMs → ∃ r, next t r ∧ r.allowed = false) ∧
      ∃ r, next call.resetAtMs r ∧ r.allowed = true

/-- A limiter that answers as the window does, and goes on doing so, denies until the reset
instant. -/
theorem deniedUntilReset_window {now : Int}
    {next : Int → RateLimitResult → Prop} (hlimit : 1 ≤ opts.limit)
    (hp : Paced opts.windowMs opts.limit now history)
    (hnext : ∀ t, now ≤ t →
      next t (windowResult opts (record opts.windowMs opts.limit history now) t)) :
    DeniedUntilReset now (windowResult opts history now) next := by
  intro hdenied
  have hden : ¬ Admits opts.windowMs opts.limit history now := by simpa [windowResult] using hdenied
  have hsame : record opts.windowMs opts.limit history now = history := if_neg hden
  rw [hsame] at hnext
  have hreset : (windowResult opts history now).resetAtMs = resetAt opts.windowMs now history := rfl
  rw [hreset]
  refine ⟨fun t hnow ht => ⟨_, hnext t hnow, ?_⟩, ⟨_, hnext _ ?_, ?_⟩⟩
  · simpa [windowResult] using not_admits_before_reset hp.sorted hlimit hden hnow ht
  · exact (lt_resetAt hlimit hden).le
  · simpa [windowResult] using hp.admits_at_reset hlimit hden

/-- **The two limiters agree.** Over any run of calls on one key at non-decreasing clock readings,
with the Postgres cleanup at any point, both give the same answer at every call; no window of
`windowMs` holds more than `limit` allowed calls; and after the run a call that is denied is denied
again at every reading before its reset instant, and allowed at that instant, by both. -/
theorem limiters_agree {Id : Type} [DecidableEq Id] (sharedStateKey : String → Id) (key : String)
    (opts : RateLimitOptions) (hopts : opts.valid) (events : List (Event Id))
    (hmono : (events.map Event.now).Pairwise (· ≤ ·)) :
    let memory := runInMemory key opts noBuckets events
    let postgres := runPostgres sharedStateKey key opts (noRows Id) events
    postgres.1 = memory.1.map (fun c => (c.1, .ok c.2)) ∧
      (∀ t, (((allowedTimes memory.1).filter
        (fun a => t - opts.windowMs < a ∧ a ≤ t)).length : Int) ≤ opts.limit) ∧
      ∀ now, (∀ e ∈ events, e.now ≤ now) →
        (∀ r buckets, checkInMemoryRateLimit memory.2 key opts now = (r, buckets) →
          DeniedUntilReset now r (fun t r' => (checkInMemoryRateLimit buckets key opts t).1 = r')) ∧
        ∃ r rows, check sharedStateKey postgres.2 key opts now = .ok (r, rows) ∧
          DeniedUntilReset now r
            (fun t r' => ∃ rows', check sharedStateKey rows key opts t = .ok (r', rows')) := by
  have hlimit : 1 ≤ opts.limit := by
    simp only [RateLimitOptions.valid, Bool.and_eq_true, decide_eq_true_eq] at hopts
    exact hopts.1.1.2
  -- a reading before the run, at which both stores are empty
  obtain ⟨first, hfirst⟩ : ∃ first : Int, ∀ t ∈ events.map Event.now, first ≤ t := by
    cases hl : events.map Event.now with
    | nil => exact ⟨0, nofun⟩
    | cons a l =>
      rw [hl] at hmono
      exact ⟨a, fun t ht => (mem_cons.1 ht).elim (fun h => h ▸ le_rfl)
        fun h => (pairwise_cons.1 hmono).1 t h⟩
  have hstart : ∀ last, last ≤ first → (last :: events.map Event.now).Pairwise (· ≤ ·) :=
    fun last hlast => pairwise_cons.2 ⟨fun t ht => hlast.trans (hfirst t ht), hmono⟩
  have hnil : ∀ last, Paced opts.windowMs opts.limit last [] :=
    fun last => Paced.nil (by omega)
  have hmemory := fun last hlast =>
    runInMemory_spec (noBuckets_stores key opts.windowMs last) (hnil last) (hstart last hlast)
  have hpostgres := fun last hlast => runPostgres_spec sharedStateKey hopts
    (noRows_stores (sharedStateKey key) opts.windowMs last) (hnil last) (hstart last hlast)
  have hhistory : allowedTimes (windowRun opts [] events) =
      records opts.windowMs opts.limit [] (checkTimes events) :=
    (records_checkTimes opts events []).symm
  have hpaced : ∀ now, (∀ e ∈ events, e.now ≤ now) → Paced opts.windowMs opts.limit now
      (records opts.windowMs opts.limit [] (checkTimes events)) := by
    intro now hnow
    refine (hnil (min first now)).records ?_ ?_
    · exact (hstart _ (min_le_left _ _)).sublist ((checkTimes_sublist events).cons_cons _)
    · intro c hc
      rcases mem_cons.1 hc with rfl | hc
      · exact min_le_right _ _
      · obtain ⟨e, he, rfl⟩ := mem_map.1 ((checkTimes_sublist events).subset hc)
        exact hnow e he
  refine ⟨?_, fun t => ?_, fun now hnow => ?_⟩
  · rw [(hmemory first le_rfl).1, (hpostgres first le_rfl).1]
  · -- the bound is that of the invariant at the last reading of the run
    have hfinal : ∀ e ∈ events, e.now ≤ (events.map Event.now).getLast?.getD t :=
      fun e he => le_getLast?_getD t hmono (mem_map_of_mem he)
    have hbound := (hpaced _ hfinal).bound t
    rw [(hmemory first le_rfl).1, hhistory]
    unfold inside at hbound
    rw [filter_filter] at hbound
    simpa only [Bool.decide_and, Bool.and_comm] using hbound
  · have hlow : min first now ≤ first := min_le_left _ _
    have hm := (hmemory _ hlow).2 now (min_le_right _ _) hnow
    have hp := (hpostgres _ hlow).2 now (min_le_right _ _) hnow
    have hpace := hpaced now hnow
    refine ⟨fun r buckets hcall => ?_, ?_⟩
    · obtain ⟨hanswer, hstored⟩ := checkInMemoryRateLimit_spec hm hpace le_rfl
      rw [hcall] at hanswer hstored
      subst hanswer
      refine deniedUntilReset_window hlimit hpace fun t ht => ?_
      exact (checkInMemoryRateLimit_spec hstored (hpace.record le_rfl) ht).1
    · obtain ⟨rows, hcall, hstored⟩ := check_spec sharedStateKey hopts hp hpace le_rfl
      refine ⟨_, rows, hcall, deniedUntilReset_window hlimit hpace fun t ht => ?_⟩
      obtain ⟨rows', hnext, -⟩ := check_spec sharedStateKey hopts hstored (hpace.record le_rfl) ht
      exact ⟨rows', hnext⟩

/-- Two calls a second: the third call of a second is denied until the first one is a second old,
also when the cleanup has run in between. -/
theorem limiters_agree_two_per_second :
    let events : List (Event String) :=
      [.check 0, .check 400, .check 900, .cleanup 950 (fun _ => true), .check 999, .check 1000]
    (runPostgres id "ip" ⟨1000, 2⟩ (noRows String) events).1 =
        (runInMemory "ip" ⟨1000, 2⟩ noBuckets events).1.map (fun c => (c.1, .ok c.2)) ∧
      allowedTimes (runInMemory "ip" ⟨1000, 2⟩ noBuckets events).1 = [0, 400, 1000] :=
  ⟨(limiters_agree id "ip" ⟨1000, 2⟩ (by decide) _ (by decide)).1, by decide⟩

end Corgtex.Shared
