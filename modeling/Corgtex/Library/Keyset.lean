import Corgtex.Library.JsArray

/-!
# Keyset pages

A table is read in pages: the first rows in the order of `orderBy`, then the first rows of those
that come after the last row of the page before. The rows after a prefix of the sorted table are the
rest of it (`after_split`), so the pages are consecutive pieces of the sorted table. An order is
given by the keys it compares by (`orderBy`), the first that differs decides.
-/

namespace Keyset

open JsArray

variable {α : Type*}

/-! ## Orders given by keys -/

/-- The comparison by the first key that differs. -/
def orderBy (keys : List (α → α → Int)) (a b : α) : Int :=
  keys.foldr (fun key rest => orElse (key a b) rest) 0

/-- Nulls after everything else. -/
def nullsLast (compare : Int → Int → Int) : Option Int → Option Int → Int
  | none, none => 0
  | none, some _ => 1
  | some _, none => -1
  | some a, some b => compare a b

theorem orElse_neg {first second : Int} :
    orElse first second < 0 ↔ first < 0 ∨ first = 0 ∧ second < 0 := by
  unfold orElse
  split <;> omega

theorem orElse_eq_zero {first second : Int} : orElse first second = 0 ↔ first = 0 ∧ second = 0 := by
  unfold orElse
  split <;> omega

theorem comparator_orderBy_nil : Comparator (orderBy ([] : List (α → α → Int))) :=
  ⟨fun _ _ => by simp [orderBy], fun _ _ _ _ _ => by simp [orderBy]⟩

theorem comparator_orderBy_cons {key : α → α → Int} {keys : List (α → α → Int)}
    (hkey : Comparator key) (hkeys : Comparator (orderBy keys)) :
    Comparator (orderBy (key :: keys)) := hkey.orElse hkeys

theorem comparator_nullsLast {compare : Int → Int → Int} (h : Comparator compare) :
    Comparator (nullsLast compare) := by
  constructor
  · intro a b
    cases a <;> cases b <;> simp [nullsLast, h.swap]
  · intro a b c hab hbc
    cases a <;> cases b <;> cases c <;> simp_all [nullsLast]
    exact h.trans _ _ _ hab hbc

/-! ## Pages -/

variable {compare : α → α → Int} {rows seen rest : List α}

/-- The rows after a row, all of them without one. -/
def after (compare : α → α → Int) (rows : List α) (boundary : Option α) : List α :=
  sortBy compare (rows.filter fun row => boundary.all fun boundary => compare boundary row < 0)

/-- **After a prefix of the sorted table comes the rest of it.** -/
theorem after_split (h : Comparator compare) (hne : rows.Pairwise fun a b => compare a b ≠ 0)
    (hsplit : sortBy compare rows = seen ++ rest) : after compare rows seen.getLast? = rest := by
  have hsorted := pairwise_lt_sortBy h hne
  rw [hsplit] at hsorted
  obtain ⟨hseen, hrest, hcross⟩ := List.pairwise_append.1 hsorted
  refine sortBy_unique h (hne.sublist List.filter_sublist) hrest ?_
  have hperm : rows.Perm (seen ++ rest) := hsplit ▸ (sortBy_perm compare rows).symm
  refine (hperm.filter _).trans ?_
  rcases List.eq_nil_or_concat seen with rfl | ⟨front, last, hlast⟩
  · simp
  rw [List.concat_eq_append] at hlast
  subst hlast
  simp only [List.getLast?_concat, Option.all_some]
  rw [List.filter_append, List.filter_eq_nil_iff.2, List.filter_eq_self.2, List.nil_append]
  · intro row hrow
    exact decide_eq_true (hcross last (by simp) row hrow)
  · intro row hrow
    rcases List.mem_append.1 hrow with hrow | hrow
    · have hlt := (List.pairwise_append.1 hseen).2.2 row hrow last (.head _)
      have hgt := (h.swap row last).1 hlt
      simpa using hgt.le
    · simp [List.mem_singleton.1 hrow, h.self]

end Keyset
