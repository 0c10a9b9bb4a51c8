import Corgtex.Library.JsNumber
import Mathlib.Data.Nat.Digits.Lemmas
import Mathlib.Tactic.FieldSimp

/-!
# Decimal numbers in texts

A number with a fraction stands for what its digits say (`decimalValue`), which is the integer of
all its digits over a power of ten (`decimalValue_eq`). A natural number is written with a fixed
number of digits (`fixedDigits`), and its digits in groups of three (`thousands`).
-/

namespace DecimalText

open JsNumber List

/-- `\d` -/
def isDigit (u : UInt16) : Bool := 0x30 ≤ u && u ≤ 0x39

/-- `/^\d+$/` -/
def isDigits (text : JsString) : Bool := !text.isEmpty && text.all isDigit

/-- The digit of a number below ten. -/
def digit (n : Nat) : UInt16 := (0x30 + n % 10).toUInt16

/-- What digits before and after a decimal separator stand for. -/
def decimalValue (integer fraction : JsString) : ℚ :=
  ofDecimal integer + ofDecimal fraction / 10 ^ fraction.length

/-- The last `k` digits of a number. -/
def fixedDigits : Nat → Nat → JsString
  | 0, _ => []
  | k + 1, n => fixedDigits k (n / 10) ++ [digit n]

/-- Digits in groups of three from the right. -/
def thousands (text : JsString) : List JsString :=
  if text.length ≤ 3 then [text]
  else thousands (text.take (text.length - 3)) ++ [text.drop (text.length - 3)]
termination_by text.length
decreasing_by
  rw [List.length_take]
  omega

section
variable {u : UInt16} {text : JsString} {k n : Nat}

theorem isDigits_iff : isDigits text ↔ text ≠ [] ∧ ∀ u ∈ text, isDigit u := by
  simp [isDigits]

theorem isDigit_iff : isDigit u ↔ 0x30 ≤ u.toNat ∧ u.toNat ≤ 0x39 := by
  simp [isDigit, UInt16.le_iff_toNat_le]

/-! ## Values -/

theorem ofDecimal_append (integer fraction : JsString) : ofDecimal (integer ++ fraction) =
    ofDecimal integer * 10 ^ fraction.length + ofDecimal fraction := by
  rw [ofDecimal, reverse_append, map_append, Nat.ofDigits_append, length_map,
    length_reverse, ofDecimal, ofDecimal]
  ring

theorem decimalValue_eq (integer fraction : JsString) : decimalValue integer fraction =
    (ofDecimal (integer ++ fraction) : ℚ) / 10 ^ fraction.length := by
  rw [decimalValue, ofDecimal_append]
  push_cast
  field_simp

theorem decimalValue_nil (integer : JsString) : decimalValue integer [] = ofDecimal integer := by
  simp [decimalValue, ofDecimal]

theorem toNat_digit (n : Nat) : (digit n).toNat = 0x30 + n % 10 :=
  UInt16.toNat_ofNat_of_lt (by simp only [UInt16.size]; omega)

theorem isDigit_digit (n : Nat) : isDigit (digit n) := by
  rw [isDigit_iff, toNat_digit]
  omega

theorem ofDecimal_singleton (n : Nat) : ofDecimal [digit n] = n % 10 := by
  simp [ofDecimal, toNat_digit]

/-! ## Digits of a number -/

theorem length_fixedDigits (k n : Nat) : (fixedDigits k n).length = k := by
  induction k generalizing n with
  | zero => rfl
  | succ k ih => simp [fixedDigits, ih]

theorem ofDecimal_fixedDigits (k n : Nat) : ofDecimal (fixedDigits k n) = n % 10 ^ k := by
  induction k generalizing n with
  | zero => simp [fixedDigits, ofDecimal, Nat.mod_one]
  | succ k ih =>
    rw [fixedDigits, ofDecimal_append, ih, ofDecimal_singleton, length_singleton, pow_one,
      pow_succ', Nat.mod_mul]
    ring

theorem isDigit_fixedDigits (hu : u ∈ fixedDigits k n) : isDigit u := by
  induction k generalizing n with
  | zero => cases hu
  | succ k ih =>
    rcases mem_append.1 hu with hu | hu
    · exact ih hu
    · exact mem_singleton.1 hu ▸ isDigit_digit n

theorem isDigits_fixedDigits (hk : k ≠ 0) (n : Nat) : isDigits (fixedDigits k n) := by
  refine isDigits_iff.2 ⟨fun hnil => hk ?_, fun u => isDigit_fixedDigits⟩
  rw [← length_fixedDigits k n, hnil, length_nil]

theorem isDigits_decimal (n : Nat) : isDigits (decimal n) := by
  rw [decimal]
  split
  · decide
  · next hn =>
    refine isDigits_iff.2 ⟨by simpa [Nat.digits_ne_nil_iff_ne_zero] using hn, fun u hu => ?_⟩
    obtain ⟨d, hd, rfl⟩ := mem_map.1 hu
    have hlt : d < 10 := Nat.digits_lt_base (by decide) (mem_reverse.1 hd)
    have hdigit := isDigit_digit d
    rwa [digit, Nat.mod_eq_of_lt hlt] at hdigit

theorem length_decimal_le (hk : k ≠ 0) (h : n < 10 ^ k) : (decimal n).length ≤ k := by
  rw [decimal]
  split
  · exact Nat.one_le_iff_ne_zero.2 hk
  · rw [length_map, length_reverse]
    exact (Nat.digits_length_le_iff (by decide) n).2 h

/-- A number is its digits before and after a place. -/
theorem decimalValue_fixedDigits (k n : Nat) :
    decimalValue (decimal (n / 10 ^ k)) (fixedDigits k n) = (n : ℚ) / 10 ^ k := by
  have hsplit : n / 10 ^ k * 10 ^ k + n % 10 ^ k = n := Nat.div_add_mod' n (10 ^ k)
  rw [decimalValue_eq, ofDecimal_append, ofDecimal_decimal, ofDecimal_fixedDigits,
    length_fixedDigits, hsplit]

/-! ## Groups of three digits -/

/-- The groups are the digits, three in each but the first one. -/
theorem thousands_eq (hne : text ≠ []) : ∃ first rest, thousands text = first :: rest ∧
    first ≠ [] ∧ first.length ≤ 3 ∧ (∀ group ∈ rest, group.length = 3) ∧
      first ++ rest.flatten = text := by
  fun_induction thousands text with
  | case1 text hshort => exact ⟨text, [], rfl, hne, hshort, forall_mem_nil _, by simp⟩
  | case2 text hlong ih =>
    have htake : text.take (text.length - 3) ≠ [] := by
      rw [Ne, take_eq_nil_iff]
      rintro (h | h)
      · omega
      · exact hne h
    obtain ⟨first, rest, hthousands, hfirst, hlength, hrest, hflatten⟩ := ih htake
    refine ⟨first, rest ++ [text.drop (text.length - 3)], by rw [hthousands]; rfl, hfirst, hlength,
      forall_mem_append.2 ⟨hrest, forall_mem_singleton.2 ?_⟩, ?_⟩
    · rw [length_drop]
      omega
    · rw [flatten_append, ← append_assoc, hflatten]
      simp

end

end DecimalText
