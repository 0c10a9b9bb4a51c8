import Corgtex.Library.JsNumber
import Mathlib.Data.Rat.Floor

/-!
# Bounded concurrency

`workflows/src/outbox.ts`: `runWithBoundedConcurrency` starts a number of workers, which
take the items of a list in turn until none is left. A worker whose item is rejected ends, so that
the items which the last worker leaves behind are never processed. `runWithBoundedConcurrency_iff`
says when that does not happen, for every order in which the calls of `processItem` settle.
-/

namespace Corgtex.Workflows.BoundedConcurrency

open List

def DEFAULT_JOB_CONCURRENCY : Nat := 5

/-- `normalizeJobConcurrency` (line 653); `none` is a number that is not finite. -/
def normalizeJobConcurrency (concurrency : Option ℚ) (jobCount : Nat) : Nat :=
  if jobCount = 0 then 0
  else
    match concurrency with
    | none => min DEFAULT_JOB_CONCURRENCY jobCount
    | some concurrency => min (max 1 concurrency.floor).toNat jobCount

/-- A worker waits for the call of `processItem` on the item at `index`, or is settled. -/
inductive Worker
  | processing (index : Nat)
  | fulfilled
  | rejected
deriving DecidableEq

def Worker.isProcessing : Worker → Bool
  | processing _ => true
  | _ => false

/-- The variables that the workers share, and the calls of `processItem` so far. -/
structure Pool (ι : Type) where
  nextIndex : Nat
  workers : List Worker
  calls : List ι

variable {ι : Type} (items : List ι) (rejects : Nat → Bool)

namespace Pool

/-- A worker runs on until it waits or returns (line 668). -/
def advance (pool : Pool ι) : Worker × Pool ι :=
  match items[pool.nextIndex]? with
  | some item => (.processing pool.nextIndex,
      { pool with nextIndex := pool.nextIndex + 1, calls := pool.calls ++ [item] })
  | none => (.fulfilled, pool)

/-- `Array.from({ length }, worker)`: each worker runs until it first waits. -/
def start : Nat → Pool ι
  | 0 => ⟨0, [], []⟩
  | count + 1 =>
    let (worker, pool) := advance items (start count)
    { pool with workers := pool.workers ++ [worker] }

/-- The call that the worker at `position` waits for settles. -/
def settle (pool : Pool ι) (position : Nat) : Pool ι :=
  match pool.workers[position]? with
  | some (.processing index) =>
    if rejects index then { pool with workers := pool.workers.set position .rejected }
    else
      let (worker, advanced) := advance items pool
      { advanced with workers := pool.workers.set position worker }
  | _ => pool

/-- `Promise.allSettled(workers)` is settled. -/
def IsSettled (pool : Pool ι) : Prop := ∀ worker ∈ pool.workers, worker.isProcessing = false

end Pool

/-- `runWithBoundedConcurrency` (line 659) up to a point where the calls of the workers at the
positions `settled` have settled, in that order. -/
def runWithBoundedConcurrency (concurrency : Option ℚ) (settled : List Nat) : Pool ι :=
  settled.foldl (Pool.settle items rejects)
    (Pool.start items (normalizeJobConcurrency concurrency items.length))

/-- How many of the first `count` items are rejected. -/
def rejections (count : Nat) : Nat := (range count).countP rejects

theorem rejections_mono {m n : Nat} (h : m ≤ n) : rejections rejects m ≤ rejections rejects n :=
  (range_sublist.2 h).countP_le

theorem rejections_succ (n : Nat) : rejections rejects (n + 1) =
    rejections rejects n + if rejects n then 1 else 0 := by
  rw [rejections, range_succ, countP_append, countP_singleton, rejections]

/-- A worker that has ended on a rejected item, or will. -/
def Worker.isLost : Worker → Bool
  | processing index => rejects index
  | fulfilled => false
  | rejected => true

/-- **The invariant**: the rejected items among those taken are one for each lost worker, and at
least one worker was not lost when the last of them was taken. -/
structure Pool.Sound (pool : Pool ι) : Prop where
  nextIndex_le : pool.nextIndex ≤ items.length
  calls : pool.calls = items.take pool.nextIndex
  lost : pool.workers.countP (Worker.isLost rejects) = rejections rejects pool.nextIndex
  spare : pool.nextIndex ≠ 0 → rejections rejects (pool.nextIndex - 1) < pool.workers.length
  fulfilled : .fulfilled ∈ pool.workers → pool.nextIndex = items.length

namespace Pool.Sound

variable {items rejects} {pool : Pool ι} {workers : List Worker} {worker : Worker}

/-- A worker runs on, where `workers` are those besides it. -/
theorem advance (h : pool.Sound items rejects) (hlength : pool.workers.length ≤ workers.length)
    (hworkers : ∀ w ∈ workers, w = (pool.advance items).1 ∨ w ∈ pool.workers)
    (hlost : workers.countP (Worker.isLost rejects) = pool.workers.countP (Worker.isLost rejects) +
      if (pool.advance items).1.isLost rejects then 1 else 0)
    (hspare : pool.workers.countP (Worker.isLost rejects) < workers.length) :
    { (pool.advance items).2 with workers }.Sound items rejects := by
  unfold Pool.advance at hlost hworkers ⊢
  split at hlost
  · next item hitem =>
    have hlt := (List.getElem?_eq_some_iff.1 hitem).1
    rw [hitem] at hworkers
    refine ⟨hlt, ?_, ?_, fun _ => ?_, fun hmem => ?_⟩
    · rw [take_add_one, hitem, h.calls]
      rfl
    · rw [hlost, h.lost, rejections_succ]
      rfl
    · exact h.lost ▸ hspare
    · rcases hworkers _ hmem with hnew | hold
      · cases hnew
      · exact absurd (h.fulfilled hold) hlt.ne
  · next hnone =>
    have hend := le_antisymm h.nextIndex_le (getElem?_eq_none_iff.1 hnone)
    exact ⟨h.nextIndex_le, h.calls, hlost.trans h.lost, fun hne => (h.spare hne).trans_le hlength,
      fun _ => hend⟩

theorem start (count : Nat) : (Pool.start items count).Sound items rejects ∧
    (Pool.start items count).workers.length = count := by
  induction count with
  | zero =>
    exact ⟨⟨Nat.zero_le _, rfl, rfl, fun h => absurd rfl h, nofun⟩, rfl⟩
  | succ count ih =>
    obtain ⟨hsound, hlength⟩ := ih
    have hle : (Pool.start items count).workers.countP (Worker.isLost rejects) ≤ _ :=
      countP_le_length
    have hkeep : ((Pool.start items count).advance items).2.workers =
        (Pool.start items count).workers := by
      unfold Pool.advance
      split <;> rfl
    simp only [Pool.start, hkeep]
    refine ⟨hsound.advance ?_ ?_ ?_ ?_, ?_⟩
    · simp
    · intro w hw
      simpa [or_comm] using hw
    · rw [countP_append, countP_singleton]
    · simp only [length_append, length_singleton]
      omega
    · simp [hlength]

theorem settle (h : pool.Sound items rejects) (position : Nat) :
    (pool.settle items rejects position).Sound items rejects := by
  unfold Pool.settle
  split
  · next index hworker =>
    obtain ⟨hposition, hworker⟩ := List.getElem?_eq_some_iff.1 hworker
    have hset := fun worker => countP_set (p := Worker.isLost rejects) (a := worker) hposition
    have hmem := mem_of_getElem hworker
    simp only [hworker] at hset
    split
    · next hrejects =>
      have hpos : 0 < pool.workers.countP (Worker.isLost rejects) :=
        countP_pos_iff.2 ⟨_, hmem, hrejects⟩
      refine ⟨h.nextIndex_le, h.calls, ?_, fun hne => ?_, fun hmem => ?_⟩
      · rw [← h.lost, hset]
        simp only [Worker.isLost, hrejects, if_true]
        omega
      · exact (h.spare hne).trans_eq length_set.symm
      · rcases mem_or_eq_of_mem_set hmem with hold | hnew
        · exact h.fulfilled hold
        · cases hnew
    · next hrejects =>
      refine h.advance (length_set ..).ge ?_ ?_ ?_
      · exact fun w hw => (mem_or_eq_of_mem_set hw).symm
      · have hkept : Worker.isLost rejects (.processing index) = false :=
          eq_false_of_ne_true hrejects
        rw [hset, hkept]
        rfl
      · rw [length_set]
        refine lt_of_le_of_ne countP_le_length fun hall => ?_
        exact hrejects (countP_eq_length.1 hall _ hmem)
  · exact h

end Pool.Sound

variable {items rejects}

theorem Pool.length_settle (pool : Pool ι) (position : Nat) :
    (pool.settle items rejects position).workers.length = pool.workers.length := by
  unfold Pool.settle
  split
  · split <;> exact length_set
  · rfl

theorem run_sound (concurrency : Option ℚ) (settled : List Nat) :
    (runWithBoundedConcurrency items rejects concurrency settled).Sound items rejects ∧
      (runWithBoundedConcurrency items rejects concurrency settled).workers.length =
        normalizeJobConcurrency concurrency items.length := by
  induction settled using reverseRecOn with
  | nil => exact Pool.Sound.start _
  | append_singleton settled position ih =>
    rw [runWithBoundedConcurrency, foldl_concat]
    exact ⟨ih.1.settle position, (Pool.length_settle ..).trans ih.2⟩

/-- **When all items are processed.** Once every worker is settled, no item was processed twice, and
each was processed once exactly if fewer items than there are workers are rejected before the last
one: a worker is lost with each. -/
theorem runWithBoundedConcurrency_iff (items : List ι) (rejects : Nat → Bool)
    (concurrency : Option ℚ) (settled : List Nat)
    (h : (runWithBoundedConcurrency items rejects concurrency settled).IsSettled) :
    (runWithBoundedConcurrency items rejects concurrency settled).calls <+: items ∧
      ((runWithBoundedConcurrency items rejects concurrency settled).calls = items ↔
        items = [] ∨ rejections rejects (items.length - 1) <
          normalizeJobConcurrency concurrency items.length) := by
  obtain ⟨hsound, hlength⟩ := @run_sound ι items rejects concurrency settled
  generalize runWithBoundedConcurrency items rejects concurrency settled = pool at *
  refine ⟨hsound.calls ▸ take_prefix .., ?_⟩
  by_cases hne : items = []
  · simp [hsound.calls, hne]
  have hpos := length_pos_iff.2 hne
  rw [hsound.calls, take_eq_self_iff, or_iff_right hne]
  rcases hsound.nextIndex_le.lt_or_eq with hlt | heq
  · have hlost : pool.workers.countP (Worker.isLost rejects) = pool.workers.length := by
      refine countP_eq_length.2 fun worker hmem => ?_
      cases worker with
      | processing index => cases h _ hmem
      | fulfilled => exact absurd (hsound.fulfilled hmem) hlt.ne
      | rejected => rfl
    have hmono := rejections_mono rejects (Nat.le_sub_one_of_lt hlt)
    have := hsound.lost
    omega
  · have hspare := hsound.spare (by omega)
    rw [heq, hlength] at hspare
    exact iff_of_true heq.ge hspare

/-- A rejected item of three, with two workers. -/
theorem runWithBoundedConcurrency_three :
    (runWithBoundedConcurrency ["a", "b", "c"] (· = 0) (some 2) [0, 1, 1]).calls =
      ["a", "b", "c"] :=
  (runWithBoundedConcurrency_iff ["a", "b", "c"] (· = 0) (some 2) [0, 1, 1]
    (by unfold Pool.IsSettled; decide)).2.2 (by decide)

/-- With one worker, the item after a rejected one is not processed. -/
theorem runWithBoundedConcurrency_leaves :
    (runWithBoundedConcurrency ["a", "b"] (· = 0) (some 1) [0]).IsSettled ∧
      (runWithBoundedConcurrency ["a", "b"] (· = 0) (some 1) [0]).calls = ["a"] := by
  unfold Pool.IsSettled
  decide

end Corgtex.Workflows.BoundedConcurrency
