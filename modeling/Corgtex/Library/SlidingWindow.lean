import Mathlib.Algebra.Order.Group.Defs
import Mathlib.Data.List.Basic

/-!
# Sliding windows over a history of instants

A limiter that admits a call when fewer than `limit` admitted calls lie in the half-open window
`(now - width, now]`. `history` is the list of admitted instants, oldest first; `record` is one
call, `records` a sequence of them. `Paced` is the invariant of a history built from non-decreasing
calls, and it gives the three laws of the limiter: no window of the given width holds more than
`limit` admitted calls (`Paced.bound`), a refused call stays refused until its reset instant
(`not_admits_before_reset`), and the reset instant is admitted (`Paced.admits_at_reset`).
-/

namespace SlidingWindow

open List

variable {α : Type*} [AddCommGroup α] [LinearOrder α]

/-- The entries of `history` inside the window of the given width that ends at `now`. -/
def inside (width now : α) (history : List α) : List α :=
  history.filter (fun t => now - width < t)

@[simp] theorem inside_nil (width now : α) : inside width now [] = [] := rfl

theorem mem_inside {width now t : α} {history : List α} :
    t ∈ inside width now history ↔ t ∈ history ∧ now - width < t := by
  simp [inside]

theorem inside_append (width now : α) (l₁ l₂ : List α) :
    inside width now (l₁ ++ l₂) = inside width now l₁ ++ inside width now l₂ := by
  simp [inside]

/-- Dropping the prefix before the first entry that satisfies `p` is filtering by `p`, where `p`
is upward closed along the list. -/
theorem drop_findIdx?_eq_filter {β : Type*} {p : β → Bool} :
    ∀ {l : List β}, l.Pairwise (fun a b => p a → p b) →
      ((l.findIdx? p).map l.drop).getD [] = l.filter p
  | [], _ => rfl
  | a :: l, h => by
    obtain ⟨ha, hl⟩ := pairwise_cons.1 h
    cases hp : p a with
    | true =>
      have hall : l.filter p = l := filter_eq_self.2 fun b hb => ha b hb hp
      simp [findIdx?_cons, hp, hall]
    | false =>
      have ih := drop_findIdx?_eq_filter hl
      rw [filter_cons_of_neg (by simp [hp]), ← ih, findIdx?_cons]
      cases l.findIdx? p <;> simp [hp]

/-- The call at `now` is admitted. -/
def Admits (width : α) (limit : ℤ) (history : List α) (now : α) : Prop :=
  ((inside width now history).length : ℤ) < limit

instance (width : α) (limit : ℤ) (history : List α) (now : α) :
    Decidable (Admits width limit history now) :=
  inferInstanceAs (Decidable (_ < _))

/-- The instant from which the window has room again, where it is full. -/
def resetAt (width now : α) (history : List α) : α :=
  (inside width now history).head?.getD now + width

/-- One call: an admitted instant joins the history. -/
def record (width : α) (limit : ℤ) (history : List α) (now : α) : List α :=
  if Admits width limit history now then history ++ [now] else history

/-- What a limiter that stores its window writes back: the window that the call has read, with its
own instant when it is admitted. -/
def written (width : α) (limit : ℤ) (history : List α) (now : α) : List α :=
  if Admits width limit history now then inside width now history ++ [now]
  else inside width now history

/-- A stored list stands for a history from the instant `last` on: every later window reads the
same from both. -/
def StoresFrom (width last : α) (stored history : List α) : Prop :=
  ∀ now, last ≤ now → inside width now stored = inside width now history

/-- A sequence of calls. -/
def records (width : α) (limit : ℤ) (history : List α) (calls : List α) : List α :=
  calls.foldl (record width limit) history

/-- The invariant of a history whose last call was at `last` or before: it is sorted, nothing lies
after `last`, and no window of the width holds more than `limit` of it. -/
structure Paced (width : α) (limit : ℤ) (last : α) (history : List α) : Prop where
  sorted : history.Pairwise (· ≤ ·)
  before : ∀ t ∈ history, t ≤ last
  bound : ∀ t, (((inside width t history).filter (· ≤ t)).length : ℤ) ≤ limit

section
variable {width now last : α} {limit : ℤ} {history : List α}

theorem StoresFrom.later {stored : List α} (h : StoresFrom width last stored history)
    (hnow : last ≤ now) : StoresFrom width now stored history :=
  fun t ht => h t (hnow.trans ht)

theorem Paced.nil (hlimit : 0 ≤ limit) : Paced width limit last ([] : List α) :=
  ⟨.nil, nofun, fun _ => by simpa using hlimit⟩

section
variable (h : Paced width limit last history)
include h

/-- A window reads the history in its order. -/
theorem Paced.inside_sorted : (inside width now history).Pairwise (· ≤ ·) :=
  h.sorted.sublist filter_sublist

theorem Paced.later (hnow : last ≤ now) : Paced width limit now history :=
  ⟨h.sorted, fun t ht => (h.before t ht).trans hnow, h.bound⟩

theorem Paced.written_sorted (hnow : last ≤ now) :
    (written width limit history now).Pairwise (· ≤ ·) := by
  unfold written
  split
  · refine pairwise_append.2 ⟨h.inside_sorted, pairwise_singleton _ _, fun a ha b hb => ?_⟩
    rw [mem_singleton.1 hb]
    exact (h.later hnow).before a (mem_inside.1 ha).1
  · exact h.inside_sorted

end

/-- The window of a call holds at most `limit` entries. -/
theorem Paced.inside_length_le (h : Paced width limit now history) :
    ((inside width now history).length : ℤ) ≤ limit := by
  have := h.bound now
  rwa [filter_eq_self.2 fun t ht => by simpa using h.before t (mem_inside.1 ht).1] at this

/-- The window of a refused call is not empty. -/
theorem inside_ne_nil_of_not_admits (hlimit : 1 ≤ limit) (hden : ¬ Admits width limit history now) :
    inside width now history ≠ [] := by
  intro he
  rw [Admits, he] at hden
  simp at hden
  omega

variable [IsOrderedAddMonoid α]

/-- A window that ends later keeps nothing that an earlier one has dropped. -/
theorem inside_inside {now' : α} (h : now ≤ now') (history : List α) :
    inside width now' (inside width now history) = inside width now' history := by
  rw [inside, inside, inside, filter_filter]
  refine filter_congr fun t _ => ?_
  have : now' - width < t → now - width < t := lt_of_le_of_lt (sub_le_sub_right h width)
  simpa using this

/-- What a call writes back stands for the new history. -/
theorem storesFrom_written (width : α) (limit : ℤ) (history : List α) (now : α) :
    StoresFrom width now (written width limit history now) (record width limit history now) := by
  intro t ht
  unfold written record
  split
  · rw [inside_append, inside_append, inside_inside ht]
  · exact inside_inside ht history

/-- The step lemma: a call that is not before the last one keeps the invariant. A window that
contains the new instant ends no earlier than it, so what else it holds is inside the window of the
call, which had room. -/
theorem Paced.record (h : Paced width limit last history) (hnow : last ≤ now) :
    Paced width limit now (record width limit history now) := by
  have h' := h.later hnow
  unfold SlidingWindow.record
  split
  case isFalse => exact h'
  case isTrue hadm =>
  refine ⟨?_, ?_, fun t => ?_⟩
  · exact pairwise_append.2 ⟨h.sorted, pairwise_singleton _ _,
      fun a ha b hb => by rw [mem_singleton.1 hb]; exact h'.before a ha⟩
  · intro t ht
    rcases mem_append.1 ht with ht | ht
    · exact h'.before t ht
    · exact (mem_singleton.1 ht).le
  · rw [inside_append, filter_append, length_append]
    by_cases hin : t - width < now ∧ now ≤ t
    · have hsub : ((inside width t history).filter (· ≤ t)).length ≤
          (inside width now history).length := by
        rw [← inside_inside hin.2 history]
        exact ((filter_sublist).trans filter_sublist).length_le
      have hone : ((inside width t [now]).filter (· ≤ t)).length ≤ 1 :=
        ((filter_sublist).trans filter_sublist).length_le
      have hroom : ((inside width now history).length : ℤ) < limit := hadm
      push_cast
      omega
    · have hnone : (inside width t [now]).filter (· ≤ t) = [] := by
        rw [filter_eq_nil_iff]
        intro a ha
        obtain ⟨hmem, hlt⟩ := mem_inside.1 ha
        rw [mem_singleton.1 hmem] at hlt ⊢
        simpa using fun hle => hin ⟨hlt, hle⟩
      simpa [hnone] using h.bound t

/-- The run lemma: the invariant holds after any non-decreasing sequence of calls. -/
theorem Paced.records {calls : List α} (h : Paced width limit last history)
    (hcalls : (last :: calls).Pairwise (· ≤ ·)) (hnow : ∀ c ∈ last :: calls, c ≤ now) :
    Paced width limit now (records width limit history calls) := by
  induction calls generalizing last history with
  | nil => exact h.later (hnow last (.head _))
  | cons c calls ih =>
    obtain ⟨hlast, hrest⟩ := pairwise_cons.1 hcalls
    exact ih (h.record (hlast c (.head _))) hrest fun d hd => hnow d (.tail _ hd)

/-- Until its oldest entry expires, a window keeps exactly what it holds. -/
theorem inside_before_reset {t : α} (hs : history.Pairwise (· ≤ ·)) (hnow : now ≤ t)
    (ht : t < resetAt width now history) (hne : inside width now history ≠ []) :
    inside width t history = inside width now history := by
  rw [← inside_inside hnow history]
  refine filter_eq_self.2 fun a ha => ?_
  have hsub : (inside width now history).Pairwise (· ≤ ·) := hs.sublist filter_sublist
  unfold resetAt at ht
  cases hl : inside width now history with
  | nil => exact absurd hl hne
  | cons oldest rest =>
    rw [hl] at ha hsub ht
    have hle : oldest ≤ a := by
      rcases mem_cons.1 ha with rfl | ha
      · exact le_rfl
      · exact (pairwise_cons.1 hsub).1 a ha
    simpa using (sub_lt_iff_lt_add.2 ht).trans_le hle

/-- A refused call stays refused until the reset instant. -/
theorem not_admits_before_reset {t : α} (hs : history.Pairwise (· ≤ ·)) (hlimit : 1 ≤ limit)
    (hden : ¬ Admits width limit history now) (hnow : now ≤ t)
    (ht : t < resetAt width now history) : ¬ Admits width limit history t := by
  rwa [Admits, inside_before_reset hs hnow ht (inside_ne_nil_of_not_admits hlimit hden)]

/-- The reset instant of a refused call lies after it: its oldest entry is inside the window. -/
theorem lt_resetAt (hlimit : 1 ≤ limit) (hden : ¬ Admits width limit history now) :
    now < resetAt width now history := by
  obtain ⟨oldest, rest, hl⟩ := exists_cons_of_ne_nil (inside_ne_nil_of_not_admits hlimit hden)
  have hmem : oldest ∈ inside width now history := hl ▸ .head _
  rw [resetAt, hl, head?_cons, Option.getD_some]
  exact sub_lt_iff_lt_add.1 (mem_inside.1 hmem).2

/-- A refused call is admitted at the reset instant, the first at which the oldest entry of its
window has left it. -/
theorem Paced.admits_at_reset (h : Paced width limit now history) (hlimit : 1 ≤ limit)
    (hden : ¬ Admits width limit history now) :
    Admits width limit history (resetAt width now history) := by
  obtain ⟨oldest, rest, hl⟩ := exists_cons_of_ne_nil (inside_ne_nil_of_not_admits hlimit hden)
  have hreset : resetAt width now history = oldest + width := by
    rw [resetAt, hl, head?_cons, Option.getD_some]
  have hle : now ≤ oldest + width := hreset ▸ (lt_resetAt hlimit hden).le
  have hdrop : inside width (oldest + width) (oldest :: rest) =
      inside width (oldest + width) rest := by
    simp [inside]
  have hlen : (inside width (oldest + width) rest).length ≤ rest.length :=
    length_filter_le _ _
  have hfull := h.inside_length_le
  rw [hl, length_cons] at hfull
  rw [Admits, hreset, ← inside_inside hle history, hl, hdrop]
  push_cast at hfull
  omega

end

end SlidingWindow
