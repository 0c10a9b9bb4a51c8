import Mathlib.Algebra.Order.Group.Int

/-!
# Bisection

The search for a border between two numbers, where a condition does not hold at the lower one and
holds at the upper one. It finds a number at which the condition holds and before which it does not
(`bisect_spec`); nothing is asked of the condition in between.
-/

/-- `while (high - low > 1) { … }`: the halves are taken at the middle, and the fuel bounds the
distance. -/
def bisect (condition : Int → Bool) : Nat → Int → Int → Int
  | 0, _, high => high
  | fuel + 1, low, high =>
    if high - low ≤ 1 then high
    else if condition ((low + high) / 2) then bisect condition fuel low ((low + high) / 2)
    else bisect condition fuel ((low + high) / 2) high

/-- **A bisection finds a border.** -/
theorem bisect_spec {condition : Int → Bool} {fuel : Nat} {low high : Int}
    (hlow : condition low = false) (hhigh : condition high = true) (hlt : low < high)
    (hfuel : high - low ≤ fuel + 1) :
    condition (bisect condition fuel low high) = true ∧
      condition (bisect condition fuel low high - 1) = false ∧
      low < bisect condition fuel low high ∧ bisect condition fuel low high ≤ high := by
  induction fuel generalizing low high with
  | zero =>
    have hnext : high - 1 = low := by omega
    rw [bisect, hnext]
    exact ⟨hhigh, hlow, hlt, le_rfl⟩
  | succ fuel ih =>
    rw [bisect]
    split
    · have hnext : high - 1 = low := by omega
      rw [hnext]
      exact ⟨hhigh, hlow, hlt, le_rfl⟩
    · split
      · next hmiddle =>
        obtain ⟨hholds, hbefore, habove, hbelow⟩ :=
          ih hlow hmiddle (by omega) (by push_cast at hfuel; omega)
        exact ⟨hholds, hbefore, habove, by omega⟩
      · next hmiddle =>
        obtain ⟨hholds, hbefore, habove, hbelow⟩ :=
          ih (Bool.eq_false_iff.2 hmiddle) hhigh (by omega) (by push_cast at hfuel; omega)
        exact ⟨hholds, hbefore, by omega, hbelow⟩
