import Corgtex.Library.JsArray

/-!
# Bounded windows of the first elements of an order

A window of size `k` over elements that arrive one by one keeps the first `k` of them in order:
each arrival is pushed, the window is sorted, and one that grew too large drops its last element.
`IsTop` is the invariant, with the dropped elements as its witness; `IsTop.eq_take` says that the
window is the beginning of the sorted list.
-/

namespace TopWindow

open JsArray List

variable {α : Type*} {compare : α → α → Int} {k : Nat} {window seen : List α} {a : α}

/-- `window.push(a); window.sort(compare); if (window.length > k) window.pop()`. -/
def push (compare : α → α → Int) (k : Nat) (window : List α) (a : α) : List α :=
  let window := sortBy compare (window ++ [a])
  if window.length > k then window.dropLast else window

/-- `window` holds the first `k` elements of `seen`, strictly sorted: what was dropped comes after
everything that is kept, and nothing is dropped before the window is full. -/
structure IsTop (compare : α → α → Int) (k : Nat) (seen window : List α) : Prop where
  sorted : window.Pairwise fun a b => compare a b < 0
  length_le : window.length ≤ k
  dropped : ∃ dropped, (window ++ dropped).Perm seen ∧
    (∀ a ∈ window, ∀ b ∈ dropped, compare a b < 0) ∧ (dropped = [] ∨ window.length = k)

theorem IsTop.nil (compare : α → α → Int) (k : Nat) : IsTop compare k [] [] :=
  ⟨.nil, Nat.zero_le k, [], .refl _, nofun, .inl rfl⟩

theorem length_push_le (compare : α → α → Int) (k : Nat) (window : List α) (a : α) :
    (push compare k window a).length ≤ window.length + 1 := by
  unfold push
  dsimp only
  split
  · rw [length_dropLast, length_sortBy, length_append]
    exact Nat.sub_le _ _
  · rw [length_sortBy, length_append]
    rfl

/-- **One arrival.** Pushing an element that compares equal to none before keeps the invariant. -/
theorem IsTop.push (h : Comparator compare) (htop : IsTop compare k seen window)
    (hne : ∀ b ∈ seen, compare b a ≠ 0) :
    IsTop compare k (seen ++ [a]) (push compare k window a) := by
  obtain ⟨hsorted, hle, dropped, hperm, hafter, hfull⟩ := htop
  have hmem : ∀ b ∈ window, b ∈ seen := fun b hb =>
    hperm.subset (mem_append_left _ hb)
  have hsorted' : (sortBy compare (window ++ [a])).Pairwise fun a b => compare a b < 0 := by
    refine pairwise_lt_sortBy h (pairwise_append.2 ⟨hsorted.imp Int.ne_of_lt, ?_, ?_⟩)
    · exact pairwise_singleton _ _
    · intro b hb c hc
      exact mem_singleton.1 hc ▸ hne b (hmem b hb)
  have hperm' := sortBy_perm compare (window ++ [a])
  have hlength : (sortBy compare (window ++ [a])).length = window.length + 1 := by
    rw [length_sortBy, length_append]
    rfl
  have hseen : ((window ++ [a]) ++ dropped).Perm (seen ++ [a]) := by
    refine .trans ?_ (hperm.append_right [a])
    rw [append_assoc, append_assoc]
    exact perm_append_comm.append_left window
  unfold TopWindow.push
  dsimp only
  split
  · next hlong =>
    have hk : window.length = k := by omega
    obtain ⟨kept, y, hy⟩ : ∃ kept y, sortBy compare (window ++ [a]) = kept ++ [y] := by
      rcases eq_nil_or_concat (sortBy compare (window ++ [a])) with hnil | ⟨kept, y, hy⟩
      · exact absurd hlength (by simp [hnil])
      · exact ⟨kept, y, by simpa using hy⟩
    rw [hy] at hsorted' hperm' hlength ⊢
    rw [dropLast_concat]
    obtain ⟨hkept, _, hlast⟩ := pairwise_append.1 hsorted'
    have hlast : ∀ b ∈ kept, compare b y < 0 := fun b hb => hlast b hb y (.head _)
    have hlen : kept.length = k := by
      rw [length_append] at hlength
      exact hk ▸ Nat.succ.inj hlength
    refine ⟨hkept, hlen.le, y :: dropped, ?_, ?_, .inr hlen⟩
    · refine .trans ?_ hseen
      rw [append_cons]
      exact hperm'.append_right dropped
    · intro b hb c hc
      rcases mem_cons.1 hc with rfl | hc
      · exact hlast b hb
      · -- `b` is in the old window, or it is the arrival and the last element is
        rcases mem_append.1 (hperm'.subset (mem_append_left [y] hb)) with hbw | hba
        · exact hafter b hbw c hc
        · rcases mem_append.1 (hperm'.subset (mem_append_right kept (.head _))) with
            hyw | hya
          · exact h.lt_trans (hlast b hb) (hafter y hyw c hc)
          · have hby := hlast b hb
            rw [mem_singleton.1 hba, mem_singleton.1 hya, h.self] at hby
            exact absurd hby (lt_irrefl 0)
  · next hshort =>
    have hnil : dropped = [] := hfull.resolve_right fun hk => hshort (by omega)
    refine ⟨hsorted', not_lt.1 hshort, [], ?_, nofun, .inl rfl⟩
    rw [hnil, append_nil] at hseen
    rw [append_nil]
    exact hperm'.trans hseen

/-- **The window is the beginning of the sorted list.** -/
theorem IsTop.eq_take (h : Comparator compare) (htop : IsTop compare k seen window)
    (hne : seen.Pairwise fun a b => compare a b ≠ 0) : window = (sortBy compare seen).take k := by
  obtain ⟨hsorted, hle, dropped, hperm, hafter, hfull⟩ := htop
  have hsymm : ∀ {a b : α}, compare a b ≠ 0 → compare b a ≠ 0 := by
    intro a b hab hba
    have := h.swap a b
    have := h.swap b a
    omega
  have hdropped : dropped.Pairwise fun a b => compare a b ≠ 0 :=
    (pairwise_append.1 ((hperm.pairwise_iff hsymm).2 hne)).2.1
  have hall : sortBy compare seen = window ++ sortBy compare dropped := by
    refine sortBy_unique h hne (pairwise_append.2 ⟨hsorted, pairwise_lt_sortBy h hdropped, ?_⟩)
      (hperm.symm.trans ((sortBy_perm compare dropped).symm.append_left window))
    exact fun a ha b hb => hafter a ha b (mem_sortBy.1 hb)
  rcases hfull with rfl | hk
  · rw [hall]
    exact (take_of_length_le (by simpa using hle)).symm.trans (by simp [sortBy])
  · rw [hall, ← hk, take_left]

end TopWindow
