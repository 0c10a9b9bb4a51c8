import Corgtex.Library.JsString
import Mathlib.Data.Nat.Digits.Defs

/-!
# ECMAScript numbers

Counts, limits and time stamps of the source are integral numbers well inside the safe range, so
they are modelled by `Int`; the range itself matters only where the source tests it. Where a number
may be a fraction it is modelled by `ℚ`, which holds every finite double.
-/

namespace JsNumber

/-- `Number.isSafeInteger` on an integer. -/
def isSafeInteger (n : Int) : Bool := -9007199254740991 ≤ n && n ≤ 9007199254740991

/-- `Math.round`: the nearest integer, the greater one of two. -/
def round (x : ℚ) : Int := (x + 1 / 2).floor

/-- `n.toString()` of a natural number. -/
def decimal (n : Nat) : JsString :=
  if n = 0 then [0x30] else (Nat.digits 10 n).reverse.map fun d => (0x30 + d).toUInt16

/-- `n.toString()` of an integer. -/
def decimalInt (n : Int) : JsString :=
  if n < 0 then .lit "-" ++ decimal n.natAbs else decimal n.natAbs

/-- The number of decimal digits. -/
def ofDecimal (s : JsString) : Nat := Nat.ofDigits 10 (s.reverse.map fun u => u.toNat - 0x30)

theorem ofDecimal_decimal (n : Nat) : ofDecimal (decimal n) = n := by
  unfold ofDecimal decimal
  split
  · next h => simp [h]
  · have hdigits : (Nat.digits 10 n).map (fun d => (0x30 + d).toUInt16.toNat - 0x30) =
        Nat.digits 10 n := by
      refine (List.map_congr_left fun d hd => ?_).trans (List.map_id _)
      have hlt : d < 10 := Nat.digits_lt_base (by decide) hd
      have hunit : (0x30 + d).toUInt16.toNat = 0x30 + d :=
        UInt16.toNat_ofNat_of_lt (by simp only [UInt16.size]; omega)
      simp only [hunit, id]
      omega
    rw [← List.map_reverse, List.reverse_reverse, List.map_map]
    exact (congrArg (Nat.ofDigits 10) hdigits).trans (Nat.ofDigits_digits 10 n)

theorem decimal_inj {m n : Nat} : decimal m = decimal n ↔ m = n := by
  constructor
  · intro h
    rw [← ofDecimal_decimal m, h, ofDecimal_decimal]
  · exact fun h => h ▸ rfl

end JsNumber
