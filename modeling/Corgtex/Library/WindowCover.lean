import Mathlib.Data.List.Basic
import Mathlib.Order.Lattice

/-!
# Windows that cover a list

A list of overlapping windows covers the first `n` positions of a list from `start` on
(`Covers`): each window begins behind the beginning of the last one and not behind its end, and
the last one ends at `n`. Whoever appends of each window what is not there yet gets the whole list
(`Covers.foldl_append_drop`).
-/

namespace WindowCover

open List

variable {α β γ : Type*}

/-- The windows from `start` on, which end at `n`. -/
inductive Covers (first stop : β → ℕ) (n : ℕ) : ℕ → List β → Prop
  | last {b : β} : first b < stop b → stop b = n → Covers first stop n (first b) [b]
  | cons {b : β} {next : ℕ} {rest : List β} : first b < next → next ≤ stop b → stop b < n →
      Covers first stop n next rest → Covers first stop n (first b) (b :: rest)

namespace Covers

variable {first stop : β → ℕ} {n start : ℕ} {windows : List β}

section
variable (h : Covers first stop n start windows)
include h

theorem head? : windows.head?.map first = some start := by
  cases h <;> rfl

theorem getLast? : windows.getLast?.map stop = some n := by
  induction h with
  | last _ hstop => exact congrArg some hstop
  | @cons b next rest _ _ _ hrest ih =>
    cases rest with
    | nil => cases hrest
    | cons c rest => rwa [getLast?_cons_cons]

theorem lt_stop {b : β} (hb : b ∈ windows) : first b < stop b ∧ stop b ≤ n := by
  induction h with
  | last hlt hstop =>
    obtain rfl := mem_singleton.1 hb
    exact ⟨hlt, hstop.le⟩
  | cons hlt hle hstop _ ih =>
    rcases mem_cons.1 hb with rfl | hb
    · exact ⟨hlt.trans_le hle, hstop.le⟩
    · exact ih hb

/-- Neighbours overlap or touch. -/
theorem isChain : windows.IsChain fun a b => first a < first b ∧ first b ≤ stop a := by
  induction h with
  | last => exact .singleton _
  | @cons b next rest hlt hle _ hrest ih =>
    have hhead := hrest.head?
    cases rest with
    | nil => cases hhead
    | cons c rest =>
      obtain rfl := Option.some.inj hhead
      exact .cons_cons ⟨hlt, hle⟩ ih

end

/-- Only the beginnings and the ends matter. -/
theorem congr {first' stop' : γ → ℕ} (h : Covers first stop n start windows)
    {windows' : List γ} (hsame : windows'.map (fun c => (first' c, stop' c)) =
      windows.map fun b => (first b, stop b)) : Covers first' stop' n start windows' := by
  induction h generalizing windows' with
  | last hlt hstop =>
    obtain ⟨c, rfl, hc⟩ := map_eq_singleton_iff.1 hsame
    obtain ⟨hfirst, hend⟩ := Prod.mk.inj hc
    rw [← hfirst] at hlt ⊢
    rw [← hend] at hlt hstop
    exact .last hlt hstop
  | cons hlt hle hstop _ ih =>
    obtain ⟨c, rest', rfl, hc, hrest⟩ := map_eq_cons_iff.1 hsame
    obtain ⟨hfirst, hend⟩ := Prod.mk.inj hc
    rw [← hfirst] at hlt ⊢
    rw [← hend] at hle hstop
    exact .cons hlt hle hstop (ih hrest)

end Covers

/-- What of a window is behind position `m` follows on what is in front of it. -/
theorem take_append_drop_window (xs : List α) {first stop m : ℕ} (hfirst : first ≤ m)
    (hle : m ≤ xs.length) :
    xs.take m ++ ((xs.take stop).drop first).drop ((xs.take m).length - first) =
      xs.take (max m stop) := by
  rw [length_take_of_le hle, drop_drop, Nat.add_sub_cancel' hfirst]
  rcases le_total m stop with hlt | hlt
  · have hsplit := take_append_drop m (xs.take stop)
    rw [take_take, min_eq_left hlt] at hsplit
    rw [max_eq_right hlt, hsplit]
  · rw [max_eq_left hlt, drop_eq_nil_of_le ((length_take_le _ _).trans hlt), append_nil]

/-- **Reassembly**: what was put together up to `m` is completed to the whole list. -/
theorem Covers.foldl_append_drop {xs : List α} {first stop : β → ℕ} {start : ℕ} {windows : List β}
    {content : β → List α} (h : Covers first stop xs.length start windows)
    (hcontent : ∀ b ∈ windows, content b = (xs.take (stop b)).drop (first b)) {m : ℕ}
    (hm : start ≤ m) (hle : m ≤ xs.length) :
    windows.foldl (fun emitted b => emitted ++ (content b).drop (emitted.length - first b))
      (xs.take m) = xs := by
  induction h generalizing m with
  | @last b hlt hstop =>
    rw [foldl_cons, hcontent b (.head _), take_append_drop_window xs hm hle, hstop,
      max_eq_right hle]
    exact take_length
  | @cons b next rest hlt hnext hstop _ ih =>
    rw [foldl_cons, hcontent b (.head _), take_append_drop_window xs hm hle]
    exact ih (fun c hc => hcontent c (.tail _ hc)) (hnext.trans (le_max_right _ _))
      (max_le hle hstop.le)

end WindowCover
