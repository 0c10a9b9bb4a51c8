import Mathlib.Data.List.DropRight

/-!
# Trimming

What stands at both ends of a text and satisfies a predicate is dropped. A text is what remains
between what is dropped (`exists_trimBy`), and what has nothing to drop at its ends remains
(`trimBy_append`).
-/

namespace Trimming

open List

variable {α : Type*}

/-- The text without the units of `p` at its ends. -/
def trimBy (p : α → Bool) (text : List α) : List α := (text.rdropWhile p).dropWhile p

/-- A text that neither begins nor ends with a unit of `p`. -/
structure IsTrimmed (p : α → Bool) (text : List α) : Prop where
  head : ∀ u ∈ text.head?, ¬ p u
  last : ∀ u ∈ text.getLast?, ¬ p u

section
variable {p : α → Bool} {text before middle after : List α}

theorem rdropWhile_append (h : ∀ u ∈ after, p u) (text : List α) :
    (text ++ after).rdropWhile p = text.rdropWhile p := by
  induction after using reverseRecOn with
  | nil => rw [append_nil]
  | append_singleton after u ih =>
    obtain ⟨hafter, hu⟩ := forall_mem_append.1 h
    rw [← append_assoc, rdropWhile_concat_pos _ _ _ (hu u (.head _)), ih hafter]

theorem rdropWhile_of_last (h : ∀ u ∈ text.getLast?, ¬ p u) : text.rdropWhile p = text :=
  rdropWhile_eq_self_iff.2 fun hne => h _ (getLast?_eq_some_getLast hne)

theorem dropWhile_of_head (h : ∀ u ∈ text.head?, ¬ p u) : text.dropWhile p = text := by
  cases text with
  | nil => rfl
  | cons u text => exact dropWhile_cons_of_neg (h u rfl)

/-- **What has nothing to drop remains.** -/
theorem trimBy_append (hbefore : ∀ u ∈ before, p u) (hafter : ∀ u ∈ after, p u)
    (h : IsTrimmed p middle) : trimBy p (before ++ middle ++ after) = middle := by
  rw [trimBy, rdropWhile_append hafter]
  by_cases hne : middle = []
  · rw [hne, append_nil, rdropWhile_eq_nil_iff.2 hbefore]
    rfl
  · have hright : (before ++ middle).rdropWhile p = before ++ middle := by
      refine rdropWhile_of_last fun u hu => h.last u ?_
      rwa [getLast?_append_of_ne_nil _ hne] at hu
    rw [hright, dropWhile_append_of_pos hbefore, dropWhile_of_head h.head]

theorem isTrimmed_trimBy (p : α → Bool) (text : List α) : IsTrimmed p (trimBy p text) := by
  refine ⟨fun u hu => ?_, fun u hu => ?_⟩
  · have hne : (text.rdropWhile p).dropWhile p ≠ [] := ne_nil_of_mem (mem_of_mem_head? hu)
    obtain rfl : (trimBy p text).head hne = u :=
      Option.some.inj ((head?_eq_some_head hne).symm.trans hu)
    have hfirst := head_dropWhile_not p hne
    simpa [trimBy] using hfirst
  · obtain ⟨hne, rfl⟩ := mem_getLast?_eq_getLast hu
    have hsuffix : trimBy p text <:+ text.rdropWhile p := dropWhile_suffix p
    rw [hsuffix.getLast hne]
    exact rdropWhile_last_not p text _

/-- **A text is what remains, between what is dropped.** -/
theorem exists_trimBy (p : α → Bool) (text : List α) : ∃ before after, (∀ u ∈ before, p u) ∧
    (∀ u ∈ after, p u) ∧ text = before ++ trimBy p text ++ after := by
  refine ⟨(text.rdropWhile p).takeWhile p, text.rtakeWhile p, fun u hu => mem_takeWhile_imp hu,
    fun u hu => mem_rtakeWhile_imp hu, ?_⟩
  rw [trimBy, takeWhile_append_dropWhile, rdropWhile_append_rtakeWhile]

/-- Nothing is dropped behind a unit that is not of `p`. -/
theorem exists_trimBy_of_last (h : ∀ u ∈ text.getLast?, ¬ p u) :
    ∃ before, (∀ u ∈ before, p u) ∧ text = before ++ trimBy p text := by
  obtain ⟨before, after, hbefore, hafter, htext⟩ := exists_trimBy p text
  have hnil : after = [] := by
    by_contra hne
    refine h (after.getLast hne) ?_ (hafter _ (getLast_mem hne))
    rw [htext, getLast?_append_of_ne_nil _ hne]
    exact getLast?_eq_some_getLast hne
  rw [hnil, append_nil] at htext
  exact ⟨before, hbefore, htext⟩

/-- Nothing is dropped before a unit that is not of `p`. -/
theorem exists_trimBy_of_head (h : ∀ u ∈ text.head?, ¬ p u) :
    ∃ after, (∀ u ∈ after, p u) ∧ text = trimBy p text ++ after := by
  obtain ⟨before, after, hbefore, hafter, htext⟩ := exists_trimBy p text
  have hnil : before = [] := by
    cases before with
    | nil => rfl
    | cons u before => exact absurd (hbefore u (.head _)) (h u (by rw [htext]; rfl))
  rw [hnil, nil_append] at htext
  exact ⟨after, hafter, htext⟩

theorem IsTrimmed.last_tail {u : α} (h : IsTrimmed p (u :: text)) :
    ∀ v ∈ text.getLast?, ¬ p v := fun v hv =>
  h.last v (mem_getLast?_cons hv)

theorem IsTrimmed.head_dropLast {u : α} (h : IsTrimmed p (text ++ [u])) :
    ∀ v ∈ text.head?, ¬ p v := fun v hv =>
  h.head v (mem_head?_append_of_mem_head? hv)

end

end Trimming
