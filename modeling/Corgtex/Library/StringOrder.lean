import Corgtex.Library.JsArray
import Corgtex.Library.JsString

/-!
# The order of strings

`a < b` on strings compares code units from the left. `compare` is its three-way form, which is also
what `Array.prototype.sort` uses without a comparator; no two different strings compare as equal.
-/

namespace JsString

open JsArray

/-- The three-way comparison by code units. -/
def compare : JsString → JsString → Int
  | [], [] => 0
  | [], _ :: _ => -1
  | _ :: _, [] => 1
  | u :: a, v :: b => if u < v then -1 else if v < u then 1 else compare a b

/-- `a < b`. -/
def lt (a b : JsString) : Bool := compare a b < 0

/-- `strings.sort()`. -/
def sort (strings : List JsString) : List JsString := sortBy compare strings

theorem compare_eq_zero {a b : JsString} : compare a b = 0 ↔ a = b := by
  induction a generalizing b with
  | nil => cases b <;> simp [compare]
  | cons u a ih =>
    cases b with
    | nil => simp [compare]
    | cons v b =>
      rw [compare, List.cons.injEq, ← ih]
      split
      · next h => simp [UInt16.ne_of_lt h]
      · split
        · next h => simp [(UInt16.ne_of_lt h).symm]
        · next h h' => simp [UInt16.le_antisymm (UInt16.not_lt.1 h') (UInt16.not_lt.1 h)]

theorem compare_swap (a b : JsString) : compare a b < 0 ↔ 0 < compare b a := by
  induction a generalizing b with
  | nil => cases b <;> simp [compare]
  | cons u a ih =>
    cases b with
    | nil => simp [compare]
    | cons v b =>
      rw [compare, compare]
      by_cases h : u < v
      · simp [h, UInt16.lt_asymm h]
      · by_cases h' : v < u
        · simp [h, h']
        · simpa [h, h'] using ih b

theorem compare_trans {a b c : JsString} (hab : compare a b ≤ 0) (hbc : compare b c ≤ 0) :
    compare a c ≤ 0 := by
  induction a generalizing b c with
  | nil => cases c <;> simp [compare]
  | cons u a ih =>
    cases b with
    | nil => simp [compare] at hab
    | cons v b =>
      cases c with
      | nil => simp [compare] at hbc
      | cons w c =>
        rw [compare] at hab hbc ⊢
        by_cases huv : u < v
        · have huw : u < w := by
            by_cases hvw : v < w
            · exact UInt16.lt_trans huv hvw
            · by_cases hwv : w < v
              · simp [hvw, hwv] at hbc
              · exact UInt16.le_antisymm (UInt16.not_lt.1 hwv) (UInt16.not_lt.1 hvw) ▸ huv
          simp [huw]
        · by_cases hvu : v < u
          · simp [huv, hvu] at hab
          · obtain rfl := UInt16.le_antisymm (UInt16.not_lt.1 hvu) (UInt16.not_lt.1 huv)
            by_cases hvw : u < w
            · simp [hvw]
            · by_cases hwv : w < u
              · simp [hvw, hwv] at hbc
              · simp only [UInt16.lt_irrefl, if_false] at hab
                simp only [hvw, hwv, if_false] at hbc ⊢
                exact ih hab hbc

theorem comparator_compare : Comparator compare :=
  ⟨compare_swap, fun _ _ _ => compare_trans⟩

/-- `a < b ? -1 : a > b ? 1 : 0`. -/
def threeWay (a b : JsString) : Int := if lt a b then -1 else if lt b a then 1 else 0

theorem threeWay_neg {a b : JsString} : threeWay a b < 0 ↔ compare a b < 0 := by
  simp only [threeWay, lt, decide_eq_true_eq]
  split
  · simpa
  · next h => split <;> simpa using h

theorem threeWay_eq_zero {a b : JsString} : threeWay a b = 0 ↔ a = b := by
  have hswap := compare_swap b a
  simp only [threeWay, lt, decide_eq_true_eq, ← compare_eq_zero]
  split
  · omega
  · split <;> omega

theorem threeWay_pos {a b : JsString} : 0 < threeWay a b ↔ 0 < compare a b := by
  have hneg := threeWay_neg (a := a) (b := b)
  have hzero := (threeWay_eq_zero (a := a) (b := b)).trans compare_eq_zero.symm
  omega

theorem comparator_threeWay : Comparator threeWay := by
  refine ⟨fun a b => ?_, fun a b c hab hbc => ?_⟩
  · rw [threeWay_neg, threeWay_pos, compare_swap]
  · rw [← Int.not_lt, threeWay_pos, Int.not_lt] at hab hbc ⊢
    exact compare_trans hab hbc

end JsString
