import Mathlib.Algebra.Order.Group.Int
import Mathlib.Data.List.Sort

/-!
# Sorted arrays and distinct elements

`Array.prototype.sort` is a stable sort by a function whose sign says which element comes first.
`Comparator` collects what the language asks of that function, `orElse` is the idiom
`first || second`, and two sorted lists with the same elements are equal when no two of their
elements compare as equal (`sortBy_unique`). `distinct` is the way through a `Set` and back.
-/

namespace JsArray

variable {α β : Type*}

/-- `list.sort(compare)`. -/
def sortBy (compare : α → α → Int) (list : List α) : List α :=
  list.insertionSort fun a b => compare a b ≤ 0

/-- `first || second`, on numbers. -/
def orElse (first second : Int) : Int := if first ≠ 0 then first else second

/-- A consistent comparator: a total preorder, given by signs. -/
structure Comparator (compare : α → α → Int) : Prop where
  swap : ∀ a b, compare a b < 0 ↔ 0 < compare b a
  trans : ∀ a b c, compare a b ≤ 0 → compare b c ≤ 0 → compare a c ≤ 0

namespace Comparator

variable {compare first second : α → α → Int} {a b c : α}

section
variable (h : Comparator compare)
include h

theorem total (a b : α) : compare a b ≤ 0 ∨ compare b a ≤ 0 := by
  rcases le_or_gt (compare a b) 0 with hab | hab
  · exact .inl hab
  · exact .inr ((h.swap b a).2 hab).le

theorem self (a : α) : compare a a = 0 := by
  have := h.swap a a
  omega

theorem lt_trans (hab : compare a b < 0) (hbc : compare b c < 0) : compare a c < 0 := by
  refine lt_of_le_of_ne (h.trans a b c hab.le hbc.le) fun hac => ?_
  have hca : compare c a ≤ 0 := by
    have := h.swap a c
    have := h.swap c a
    omega
  have hba := h.trans b c a hbc.le hca
  have := h.swap a b
  omega

/-- Equal elements compare alike with a third. -/
theorem eq_zero_trans (hab : compare a b ≤ 0) (hbc : compare b c ≤ 0)
    (hac : compare a c = 0) : compare a b = 0 ∧ compare b c = 0 := by
  have hca : compare c a ≤ 0 := by
    have := h.swap a c
    omega
  have hba := h.trans b c a hbc hca
  have hcb := h.trans c a b hca hab
  have := h.swap a b
  have := h.swap b c
  omega

end

theorem descending (key : α → Int) : Comparator fun a b => key b - key a :=
  ⟨fun a b => by omega, fun a b c hab hbc => by omega⟩

/-- The elements in the other order. -/
theorem flip (h : Comparator compare) : Comparator fun a b => compare b a :=
  ⟨fun a b => h.swap b a, fun a b c hab hbc => h.trans c b a hbc hab⟩

theorem on {compare : β → β → Int} (h : Comparator compare) (key : α → β) :
    Comparator fun a b => compare (key a) (key b) :=
  ⟨fun a b => h.swap (key a) (key b), fun a b c => h.trans (key a) (key b) (key c)⟩

theorem orElse (hfirst : Comparator first) (hsecond : Comparator second) :
    Comparator fun a b => JsArray.orElse (first a b) (second a b) := by
  refine ⟨fun a b => ?_, fun a b c hab hbc => ?_⟩
  · have := hfirst.swap a b
    have := hfirst.swap b a
    have := hsecond.swap a b
    simp only [JsArray.orElse]
    split <;> split <;> omega
  · simp only [JsArray.orElse] at hab hbc ⊢
    have hab' : first a b ≤ 0 := by split at hab <;> omega
    have hbc' : first b c ≤ 0 := by split at hbc <;> omega
    have hac' := hfirst.trans a b c hab' hbc'
    split
    · exact hac'
    · next hac =>
      rw [not_not] at hac
      obtain ⟨hab0, hbc0⟩ := hfirst.eq_zero_trans hab' hbc' hac
      rw [if_neg (not_not.2 hab0)] at hab
      rw [if_neg (not_not.2 hbc0)] at hbc
      exact hsecond.trans a b c hab hbc

end Comparator

/-! ## Sorted lists -/

section
variable {compare : α → α → Int} {l l' : List α}

theorem sortBy_perm (compare : α → α → Int) (l : List α) : (sortBy compare l).Perm l :=
  List.perm_insertionSort _ l

@[simp] theorem mem_sortBy {a : α} : a ∈ sortBy compare l ↔ a ∈ l :=
  (sortBy_perm compare l).mem_iff

@[simp] theorem length_sortBy : (sortBy compare l).length = l.length :=
  (sortBy_perm compare l).length_eq

variable (h : Comparator compare)
include h

theorem pairwise_sortBy (l : List α) : (sortBy compare l).Pairwise fun a b => compare a b ≤ 0 :=
  have : Std.Total fun a b : α => compare a b ≤ 0 := ⟨h.total⟩
  have : IsTrans α fun a b : α => compare a b ≤ 0 := ⟨h.trans⟩
  List.pairwise_insertionSort (fun a b => compare a b ≤ 0) l

/-- Sorting elements of which no two compare as equal puts each strictly before the later ones. -/
theorem pairwise_lt_sortBy (hl : l.Pairwise fun a b => compare a b ≠ 0) :
    (sortBy compare l).Pairwise fun a b => compare a b < 0 := by
  have hne : (sortBy compare l).Pairwise fun a b => compare a b ≠ 0 := by
    refine ((sortBy_perm compare l).pairwise_iff fun {a b} hab hba => hab ?_).2 hl
    have := h.swap a b
    have := h.swap b a
    omega
  exact (pairwise_sortBy h l).imp₂ (fun _ _ hle hne => lt_of_le_of_ne hle hne) hne

/-- A strictly sorted list is determined by its elements. -/
theorem eq_of_perm (hl : l.Pairwise fun a b => compare a b < 0)
    (hl' : l'.Pairwise fun a b => compare a b < 0) (hperm : l.Perm l') : l = l' := by
  refine hperm.eq_of_pairwise (fun a b _ _ hab hba => ?_) hl hl'
  have := h.swap a b
  omega

/-- The result of a sort does not depend on the order of its input. -/
theorem sortBy_unique (hl : l.Pairwise fun a b => compare a b ≠ 0)
    (hl' : l'.Pairwise fun a b => compare a b < 0) (hperm : l.Perm l') : sortBy compare l = l' :=
  eq_of_perm h (pairwise_lt_sortBy h hl) hl' ((sortBy_perm compare l).trans hperm)

end

section
variable [DecidableEq α]

/-- `[...new Set(items)]`: every item once, in the order of the first occurrences. -/
def distinct (items : List α) : List α :=
  items.foldl (fun seen item => if item ∈ seen then seen else seen ++ [item]) []

@[simp] theorem mem_distinct {items : List α} {a : α} : a ∈ distinct items ↔ a ∈ items := by
  have hfold : ∀ (items seen : List α), a ∈ items.foldl
      (fun seen item => if item ∈ seen then seen else seen ++ [item]) seen ↔
        a ∈ seen ∨ a ∈ items := by
    intro items
    induction items with
    | nil => simp
    | cons item items ih =>
      intro seen
      rw [List.foldl_cons, ih]
      split
      · next hseen =>
        simp only [List.mem_cons]
        constructor
        · rintro (h | h)
          · exact .inl h
          · exact .inr (.inr h)
        · rintro (h | rfl | h)
          · exact .inl h
          · exact .inl hseen
          · exact .inr h
      · simp [or_assoc]
  simpa [distinct] using hfold items []

theorem nodup_distinct (items : List α) : (distinct items).Nodup := by
  have hfold : ∀ (items seen : List α), seen.Nodup → (items.foldl
      (fun seen item => if item ∈ seen then seen else seen ++ [item]) seen).Nodup := by
    intro items
    induction items with
    | nil => intro seen hseen; exact hseen
    | cons item items ih =>
      intro seen hseen
      rw [List.foldl_cons]
      split
      · exact ih seen hseen
      · next hnew =>
        refine ih _ (List.nodup_append.2 ⟨hseen, List.nodup_singleton item, ?_⟩)
        intro a ha b hb he
        rw [List.mem_singleton] at hb
        exact hnew (hb ▸ he ▸ ha)
  exact hfold items [] .nil

/-- Lists with the same elements have the same distinct elements, in some order. -/
theorem distinct_perm {items items' : List α} (h : ∀ a, a ∈ items ↔ a ∈ items') :
    (distinct items).Perm (distinct items') :=
  (List.perm_ext_iff_of_nodup (nodup_distinct items) (nodup_distinct items')).2 fun a => by
    simp [h]

end

end JsArray
