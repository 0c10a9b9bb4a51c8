import Mathlib.Data.Int.Log
import Mathlib.Data.Rat.Floor

/-!
# Rounding to doubles

The value of an arithmetic operation of ECMAScript is the exact one, rounded to 53 significant bits
with ties to even. Only positive values well inside the range of the doubles are meant, so neither
the exponent nor the sign is limited here. A natural number that is a double bounds the rounded
value of whatever it bounds (`round_le_natCast`), and rounding moves a value by one part in `2 ^ 53`
at most (`abs_round_sub_le`).
-/

namespace Double

/-- The nearest integer, the even one of two. -/
def roundHalfEven (x : ℚ) : ℤ :=
  if x - ⌊x⌋ < 1 / 2 then ⌊x⌋
  else if 1 / 2 < x - ⌊x⌋ then ⌊x⌋ + 1
  else if ⌊x⌋ % 2 = 0 then ⌊x⌋ else ⌊x⌋ + 1

/-- The distance between the doubles next to `x`. -/
def unit (x : ℚ) : ℚ := 2 ^ (Int.log 2 x - 52)

/-- The double nearest to `x`. -/
def round (x : ℚ) : ℚ := roundHalfEven (x / unit x) * unit x

@[simp] theorem round_zero : round 0 = 0 := by decide +kernel

theorem unit_pos (x : ℚ) : 0 < unit x := by
  rw [unit]
  exact zpow_pos (by norm_num) _

theorem roundHalfEven_le {x : ℚ} {n : ℤ} (h : x ≤ n) : roundHalfEven x ≤ n := by
  have hfloor : ⌊x⌋ ≤ n := Int.floor_le_iff.2 (h.trans_lt (by simp))
  rcases hfloor.eq_or_lt with heq | hlt
  · -- `x` is the integer itself, so nothing is left to round
    have hself : x - ⌊x⌋ ≤ 0 := by
      rw [heq]
      linarith
    rw [roundHalfEven, if_pos (by linarith)]
    exact hfloor
  · rw [roundHalfEven]
    split_ifs <;> omega

theorem roundHalfEven_nonneg {x : ℚ} (h : 0 ≤ x) : 0 ≤ roundHalfEven x := by
  have hfloor : 0 ≤ ⌊x⌋ := Int.floor_nonneg.2 h
  rw [roundHalfEven]
  split_ifs <;> omega

theorem round_nonneg {x : ℚ} (h : 0 ≤ x) : 0 ≤ round x := by
  have hunits : 0 ≤ roundHalfEven (x / unit x) :=
    roundHalfEven_nonneg (div_nonneg h (unit_pos x).le)
  exact mul_nonneg (by exact_mod_cast hunits) (unit_pos x).le

theorem abs_roundHalfEven_sub_le (x : ℚ) : |roundHalfEven x - x| ≤ 1 / 2 := by
  have hfloor := Int.floor_le x
  have hlt := Int.lt_floor_add_one x
  rw [roundHalfEven, abs_le]
  split_ifs <;> push_cast <;> constructor <;> linarith

theorem unit_le {x : ℚ} (hx : 0 < x) : unit x ≤ x / 2 ^ 52 := by
  have hlog : (2 : ℚ) ^ Int.log 2 x ≤ x := Int.zpow_log_le_self (by norm_num) hx
  rw [unit, zpow_sub₀ (by norm_num)]
  exact div_le_div_of_nonneg_right hlog (by norm_num)

/-- **The error of a rounding.** -/
theorem abs_round_sub_le {x : ℚ} (hx : 0 ≤ x) : |round x - x| ≤ x / 2 ^ 53 := by
  rcases hx.eq_or_lt with rfl | hx
  · simp
  · have hunit := unit_pos x
    have hround : round x - x = (roundHalfEven (x / unit x) - x / unit x) * unit x := by
      rw [round, sub_mul, div_mul_cancel₀ _ hunit.ne']
    calc |round x - x| = |roundHalfEven (x / unit x) - x / unit x| * unit x := by
          rw [hround, abs_mul, abs_of_pos hunit]
      _ ≤ 1 / 2 * unit x :=
          mul_le_mul_of_nonneg_right (abs_roundHalfEven_sub_le _) hunit.le
      _ ≤ 1 / 2 * (x / 2 ^ 52) := mul_le_mul_of_nonneg_left (unit_le hx) (by norm_num)
      _ = x / 2 ^ 53 := by ring

/-- **Rounding is bounded by doubles**: a natural number of at most 53 bits is a multiple of the
unit. -/
theorem round_le_natCast {x : ℚ} {n : ℕ} (hx : 0 < x) (hbits : Nat.log 2 n ≤ 52) (h : x ≤ n) :
    round x ≤ n := by
  have hlog : Int.log 2 x ≤ 52 := by
    refine (Int.log_mono_right hx h).trans ?_
    rw [Int.log_natCast]
    exact_mod_cast hbits
  obtain ⟨k, hk⟩ : ∃ k : ℕ, 52 - Int.log 2 x = k := ⟨_, (Int.toNat_of_nonneg (by omega)).symm⟩
  have hunit : (n : ℚ) = ((n * 2 ^ k : ℕ) : ℤ) * unit x := by
    have hexp : Int.log 2 x - 52 = -(k : ℤ) := by omega
    rw [unit, hexp, zpow_neg, zpow_natCast]
    push_cast
    field_simp
  have hscaled : x / unit x ≤ ((n * 2 ^ k : ℕ) : ℤ) := by
    rw [div_le_iff₀ (unit_pos x), ← hunit]
    exact h
  rw [round]
  conv_rhs => rw [hunit]
  have hround : (roundHalfEven (x / unit x) : ℚ) ≤ (((n * 2 ^ k : ℕ) : ℤ) : ℚ) := by
    exact_mod_cast roundHalfEven_le hscaled
  exact mul_le_mul_of_nonneg_right hround (unit_pos x).le

end Double
