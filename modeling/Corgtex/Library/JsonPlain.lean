import Corgtex.Library.DecimalText
import Corgtex.Library.Double
import Corgtex.Library.JsDate
import Corgtex.Library.JsonTree

/-!
# Plain strings and numbers in JSON texts

Keys, hashes and dates are written in a JSON text as they are: a string of plain characters needs no
escape (`quote_of_plain`) and one byte for each character. The digits of a natural number are a
number of the grammar (`number_decimal`), which is read as the double nearest to its exact value.
-/

namespace Json

open JsNumber JsString List Utf8

/-! ## Plain strings -/

/-- A printable ASCII character that a string literal shows as it is. -/
def isPlain (u : UInt16) : Bool :=
  0x20 ≤ u && u < 0x7F && u != quotationMark && u != backslash

section
variable {u : UInt16} {text : JsString}

theorem isPlain_iff : isPlain u ↔ 0x20 ≤ u ∧ u < 0x7F ∧ u ≠ quotationMark ∧ u ≠ backslash := by
  simp [isPlain, and_assoc]

theorem toNat_lt_of_isPlain (h : isPlain u) : u.toNat < 0x80 := by
  have hlt : u.toNat < 0x7F := UInt16.lt_iff_toNat_lt.1 (isPlain_iff.1 h).2.1
  omega

theorem escape_of_isPlain (h : isPlain u) : escape u = [u] := by
  obtain ⟨hlow, hhigh, hquote, hslash⟩ := isPlain_iff.1 h
  have hsurrogate := not_surrogate (toNat_lt_of_isPlain h)
  have hspace : ∀ v : UInt16, v < 0x20 → u ≠ v := by
    rintro v hv rfl
    exact absurd hv (UInt16.not_lt.2 hlow)
  have hnot : ¬ u < 0x20 := UInt16.not_lt.2 hlow
  simp [escape, hspace, hquote, hslash, hnot, hsurrogate]

variable (h : ∀ u ∈ text, isPlain u)
include h

theorem escapes_of_plain : escapes text = text := by
  induction text using escapes.induct with
  | case1 => rfl
  | case2 u => exact escape_of_isPlain (h u (.head _))
  | case3 u v rest hpair ih =>
    have hsurrogate := not_surrogate (toNat_lt_of_isPlain (h u (.head _)))
    rw [hsurrogate.1] at hpair
    cases hpair
  | case4 u v rest hpair ih =>
    rw [escapes, if_neg hpair, escape_of_isPlain (h u (.head _)), ih fun w hw => h w (.tail _ hw)]
    rfl

/-- A plain string is written as it is. -/
theorem quote_of_plain : quote text = quotationMark :: text ++ [quotationMark] := by
  rw [quote, escapes_of_plain h]

/-- A plain string is written with one byte for each character and two for the marks around. -/
theorem quote_plain :
    (∀ u ∈ quote text, u.toNat < 0x80) ∧ (quote text).length = text.length + 2 := by
  rw [quote_of_plain h]
  refine ⟨fun u hu => ?_, by simp⟩
  rcases mem_append.1 hu with hu | hu
  · rcases mem_cons.1 hu with rfl | hu
    · decide
    · exact toNat_lt_of_isPlain (h u hu)
  · rw [mem_singleton.1 hu]
    decide

end

/-! ## Dates -/

theorem isPlain_digits (width n : Nat) : ∀ u ∈ JsDate.digits width n, isPlain u := by
  induction width generalizing n with
  | zero => exact fun u h => absurd h not_mem_nil
  | succ width ih =>
    intro u hu
    rcases mem_append.1 hu with hu | hu
    · exact ih _ u hu
    · have hall : ∀ d : Fin 10, isPlain (0x30 + d.val).toUInt16 := by decide
      rw [mem_singleton.1 hu]
      exact hall ⟨n % 10, Nat.mod_lt n (by decide)⟩

theorem length_digits (width n : Nat) : (JsDate.digits width n).length = width := by
  induction width generalizing n with
  | zero => rfl
  | succ width ih => rw [JsDate.digits, length_append, ih, length_singleton]

/-- A date is written in at most 27 plain characters. -/
theorem toISOString_plain (t : TimeValue) :
    (∀ u ∈ JsDate.toISOString t, isPlain u) ∧ (JsDate.toISOString t).length ≤ 27 := by
  have hyear : ∀ year, (∀ u ∈ JsDate.yearDigits year, isPlain u) ∧
      (JsDate.yearDigits year).length ≤ 7 := by
    intro year
    unfold JsDate.yearDigits
    split
    · exact ⟨isPlain_digits _ _, by rw [length_digits]; decide⟩
    · refine ⟨forall_mem_cons.2 ⟨?_, isPlain_digits _ _⟩, ?_⟩
      · split <;> decide
      · rw [length_cons, length_digits]
  obtain ⟨hplain, hlength⟩ := hyear (JsDate.yearFromDay (t.ms / 86400000))
  have hdigits := isPlain_digits
  unfold JsDate.toISOString
  refine ⟨?_, ?_⟩
  · simp only [forall_mem_append, forall_mem_cons]
    exact ⟨⟨⟨⟨⟨⟨⟨hplain, by decide, hdigits _ _⟩, by decide, hdigits _ _⟩, by decide, hdigits _ _⟩,
      by decide, hdigits _ _⟩, by decide, hdigits _ _⟩, by decide, hdigits _ _⟩, by decide, by simp⟩
  · simp only [length_append, length_cons, length_digits, length_nil]
    omega

/-! ## Numbers -/

open JsonGrammar

/-- The digits of a natural number are an integer without a leading zero. -/
theorem intPart_decimal (n : Nat) : IntPart (decimal n) := by
  have hdigits := DecimalText.isDigits_iff.1 (DecimalText.isDigits_decimal n)
  unfold decimal at hdigits ⊢
  split
  · exact .zero
  · next hn =>
    rw [if_neg hn] at hdigits
    rcases eq_nil_or_concat (Nat.digits 10 n) with hnil | ⟨front, last, hlast⟩
    · exact absurd hnil (Nat.digits_ne_nil_iff_ne_zero.2 hn)
    rw [concat_eq_append] at hlast
    have hne : last ≠ 0 := by
      have hget := Nat.getLast_digit_ne_zero 10 hn
      simpa [hlast] using hget
    have hlt : last < 10 := Nat.digits_lt_base (by decide) (hlast ▸ mem_concat_self)
    rw [hlast, reverse_append, reverse_singleton, singleton_append, map_cons] at hdigits ⊢
    refine .digits ?_ fun v hv => hdigits.2 v (.tail _ hv)
    have hall : ∀ d : Fin 10, d ≠ 0 → isDigitOneToNine (0x30 + d.val).toUInt16 := by decide
    exact hall ⟨last, hlt⟩ fun h => hne (congrArg Fin.val h)

theorem number_decimal (n : Nat) : Number (decimal n) := by
  have h := Number.parts Sign.none (intPart_decimal n) Frac.none Exp.none
  rwa [nil_append, append_nil, append_nil] at h

/-- The exact value of the digits of a number. -/
def numberValue (token : JsString) : ℚ :=
  let negative := token.head? = some 0x2D
  let unsigned := if negative then token.tail else token
  let mantissa := unsigned.takeWhile fun u => u != 0x65 && u != 0x45
  let integer := mantissa.takeWhile (· != 0x2E)
  let fraction := mantissa.drop (integer.length + 1)
  let exponent := unsigned.drop (mantissa.length + 1)
  let exponentValue : ℤ :=
    if exponent.head? = some 0x2D then -(ofDecimal exponent.tail : ℤ)
    else ofDecimal (if exponent.head? = some 0x2B then exponent.tail else exponent)
  let value := DecimalText.decimalValue integer fraction * 10 ^ exponentValue
  if negative then -value else value

/-- The double that a number is read as, where it is in their range. -/
def readDouble (token : JsString) : ℚ :=
  let value := numberValue token
  if 0 < value then Double.round value else if value < 0 then -Double.round (-value) else 0

theorem readDouble_one : readDouble (decimal 1) = 1 := by
  have hdigits : decimal 1 = [0x31] := by simp [decimal]
  rw [hdigits]
  decide +kernel

end Json
