import Corgtex.Library.Json

/-!
# Reading string literals

`readQuoted` reads the inside of a string literal of a JSON text up to its closing quotation mark.
It gives back what `Json.quote` wrote (`readQuoted_escapes`), whatever text follows; so a literal at
the start of a text determines both the string and the rest of the text (`quote_append_inj`).
-/

namespace Json

open JsString List Utf8

/-- The inside of a string literal and the text after its closing quotation mark; `none` where the
text is no literal. -/
def readQuoted : JsString → Option (JsString × JsString)
  | [] => none
  | u :: rest =>
    if u = quotationMark then some ([], rest)
    else if u = backslash then
      match rest with
      | v :: a :: b :: c :: d :: rest' =>
        if v = letterU then
          if [a, b, c, d].all isHexDigit then
            (readQuoted rest').map fun (value, tail) => (unitOfHex a b c d :: value, tail)
          else none
        else
          (unescape v).bind fun w =>
            (readQuoted (a :: b :: c :: d :: rest')).map fun (value, tail) => (w :: value, tail)
      | v :: rest' =>
        (unescape v).bind fun w =>
          (readQuoted rest').map fun (value, tail) => (w :: value, tail)
      | [] => none
    else if u < 0x20 then none
    else (readQuoted rest).map fun (value, tail) => (u :: value, tail)

/-! ## Hexadecimal digits -/

theorem hexValue_hexDigit {n : Nat} (h : n < 16) : hexValue (hexDigit n) = n := by
  have hall : ∀ m : Fin 16, hexValue (hexDigit m) = m := by decide
  exact hall ⟨n, h⟩

theorem isHexDigit_hexDigit {n : Nat} (h : n < 16) : isHexDigit (hexDigit n) = true := by
  have hall : ∀ m : Fin 16, isHexDigit (hexDigit m) = true := by decide
  exact hall ⟨n, h⟩

theorem unitOfHex_hexDigit (u : UInt16) :
    unitOfHex (hexDigit (u.toNat / 0x1000)) (hexDigit (u.toNat / 0x100 % 16))
      (hexDigit (u.toNat / 0x10 % 16)) (hexDigit (u.toNat % 16)) = u := by
  have hu : u.toNat < 65536 := u.toNat_lt
  have hvalue : ((u.toNat / 0x1000 * 16 + u.toNat / 0x100 % 16) * 16 + u.toNat / 0x10 % 16) * 16 +
      u.toNat % 16 = u.toNat := by omega
  rw [unitOfHex, hexValue_hexDigit (by omega), hexValue_hexDigit (by omega),
    hexValue_hexDigit (by omega), hexValue_hexDigit (by omega), hvalue]
  exact UInt16.ofNat_toNat

/-! ## Literals that were written -/

section
variable {u v : UInt16} (text : JsString)

theorem readQuoted_quotationMark : readQuoted (quotationMark :: text) = some ([], text) := by
  rw [readQuoted.eq_def]
  simp

/-- A code unit that stands for itself. -/
theorem readQuoted_cons (hquote : u ≠ quotationMark) (hslash : u ≠ backslash) (hlow : ¬u < 0x20) :
    readQuoted (u :: text) = (readQuoted text).map fun (value, tail) => (u :: value, tail) := by
  rw [readQuoted.eq_def]
  simp only [hquote, hslash, hlow, if_false]

/-- A single-character escape. -/
theorem readQuoted_backslash (hv : v ≠ letterU) (hu : unescape v = some u) :
    readQuoted (backslash :: v :: text) =
      (readQuoted text).map fun (value, tail) => (u :: value, tail) := by
  have hne : backslash ≠ quotationMark := by decide
  rw [readQuoted.eq_def]
  simp only [hne, if_false, if_true]
  split
  · next he =>
    cases he
    rw [if_neg hv, hu]
    rfl
  · next he =>
    cases he
    rw [hu]
    rfl
  · next he => cases he

theorem readQuoted_unicodeEscape :
    readQuoted (unicodeEscape u ++ text) =
      (readQuoted text).map fun (value, tail) => (u :: value, tail) := by
  have hne : backslash ≠ quotationMark := by decide
  have hu : u.toNat < 65536 := u.toNat_lt
  have hdigits : [hexDigit (u.toNat / 0x1000), hexDigit (u.toNat / 0x100 % 16),
      hexDigit (u.toNat / 0x10 % 16), hexDigit (u.toNat % 16)].all isHexDigit = true := by
    simp only [all_cons, all_nil, Bool.and_true, Bool.and_eq_true]
    exact ⟨isHexDigit_hexDigit (by omega), isHexDigit_hexDigit (by omega),
      isHexDigit_hexDigit (by omega), isHexDigit_hexDigit (by omega)⟩
  simp only [unicodeEscape, cons_append, nil_append]
  rw [readQuoted.eq_def]
  simp only [hne, if_false, if_true, hdigits, unitOfHex_hexDigit]

/-- A code unit is read back from its escape. -/
theorem readQuoted_escape :
    readQuoted (escape u ++ text) =
      (readQuoted text).map fun (value, tail) => (u :: value, tail) := by
  unfold escape
  split
  · next h => exact h ▸ readQuoted_backslash text (by decide) (by decide)
  split
  · next h => exact h ▸ readQuoted_backslash text (by decide) (by decide)
  split
  · next h => exact h ▸ readQuoted_backslash text (by decide) (by decide)
  split
  · next h => exact h ▸ readQuoted_backslash text (by decide) (by decide)
  split
  · next h => exact h ▸ readQuoted_backslash text (by decide) (by decide)
  split
  · next h =>
    rcases h with h | h
    · subst h
      exact readQuoted_backslash text (by decide) (by decide)
    · subst h
      exact readQuoted_backslash text (by decide) (by decide)
  · next hplain =>
    split
    · exact readQuoted_unicodeEscape text
    · next hshown =>
      exact readQuoted_cons text (fun h => hplain (.inl h)) (fun h => hplain (.inr h))
        fun h => hshown (.inl h)

/-- A surrogate is none of the code units that are escaped. -/
theorem readQuoted_surrogate (h : isHigh u = true ∨ isLow u = true) :
    readQuoted (u :: text) = (readQuoted text).map fun (value, tail) => (u :: value, tail) := by
  have hle : 0xD800 ≤ u := by
    rcases h with h | h <;> simp only [isHigh, isLow, Bool.and_eq_true, decide_eq_true_eq] at h
    · exact h.1
    · exact UInt16.le_trans (by decide) h.1
  refine readQuoted_cons text (fun he => ?_) (fun he => ?_) fun hlt => ?_
  · exact absurd (he ▸ hle) (by decide)
  · exact absurd (he ▸ hle) (by decide)
  · exact absurd (UInt16.lt_of_le_of_lt hle hlt) (by decide)

end

/-- **A string is read back from its literal**, whatever text follows. -/
theorem readQuoted_escapes (value text : JsString) :
    readQuoted (escapes value ++ quotationMark :: text) = some (value, text) := by
  induction value using escapes.induct with
  | case1 => simp [escapes, readQuoted_quotationMark]
  | case2 u => simp [escapes, readQuoted_escape, readQuoted_quotationMark]
  | case3 u v rest hpair ih =>
    have hsurrogates : isHigh u = true ∧ isLow v = true := by simpa using hpair
    rw [escapes, if_pos hpair, cons_append, cons_append,
      readQuoted_surrogate _ (.inl hsurrogates.1), readQuoted_surrogate _ (.inr hsurrogates.2), ih]
    rfl
  | case4 u v rest hpair ih =>
    rw [escapes, if_neg hpair, append_assoc, readQuoted_escape, ih]
    rfl

/-! ## Pieces of a literal -/

section
variable {a b : JsString}

/-- A literal may be written in pieces, cut where no surrogate pair is. -/
theorem escapes_append
    (h : ∀ u ∈ a.getLast?, ∀ v ∈ b.head?, (Utf8.isHigh u && Utf8.isLow v) = false) :
    escapes (a ++ b) = escapes a ++ escapes b := by
  induction a using escapes.induct with
  | case1 => rfl
  | case2 u =>
    cases b with
    | nil => simp [escapes]
    | cons v b =>
      have hpair := h u rfl v rfl
      have hone : escapes [u] = escape u := by rw [escapes]
      have htwo : escapes (u :: v :: b) = escape u ++ escapes (v :: b) := by
        rw [escapes, if_neg (by simp [hpair])]
      rw [singleton_append, htwo, hone]
  | case3 u v rest hpair ih =>
    rw [cons_append, cons_append, escapes, if_pos hpair, escapes, if_pos hpair]
    cases rest with
    | nil => rfl
    | cons w rest => rw [ih (by simpa using h), cons_append, cons_append]
  | case4 u v rest hpair ih =>
    rw [cons_append] at ih
    rw [cons_append, cons_append, escapes, if_neg hpair, escapes, if_neg hpair,
      ih (by simpa using h), append_assoc]

theorem hexDigit_lt {n : Nat} (h : n < 16) : (hexDigit n).toNat < 0x80 := by
  have hall : ∀ m : Fin 16, (hexDigit m).toNat < 0x80 := by decide
  exact hall ⟨n, h⟩

theorem isWellFormed_escape (u : UInt16) : isWellFormed (escape u) := by
  unfold escape
  split
  · decide
  split
  · decide
  split
  · decide
  split
  · decide
  split
  · decide
  split
  · next h => rcases h with rfl | rfl <;> decide
  split
  · have hu : u.toNat < 65536 := u.toNat_lt
    refine isWellFormed_ascii ?_
    simp only [unicodeEscape, forall_mem_cons]
    exact ⟨by decide, by decide, hexDigit_lt (by omega), hexDigit_lt (by omega),
      hexDigit_lt (by omega), hexDigit_lt (by omega), by simp⟩
  · next h =>
    simp only [not_or, Bool.not_eq_true] at h
    simp [isWellFormed, h]

/-- A literal has no surrogate that stands alone. -/
theorem isWellFormed_escapes (value : JsString) : isWellFormed (escapes value) := by
  induction value using escapes.induct with
  | case1 => rfl
  | case2 u =>
    rw [escapes]
    exact isWellFormed_escape u
  | case3 u v rest hpair ih =>
    rw [escapes, if_pos hpair, isWellFormed, if_pos hpair]
    exact ih
  | case4 u v rest hpair ih =>
    rw [escapes, if_neg hpair]
    exact isWellFormed_append (isWellFormed_escape u) ih

end

/-- A literal at the start of a text determines the string and what follows. -/
theorem quote_append_inj {a b text text' : JsString} (h : quote a ++ text = quote b ++ text') :
    a = b ∧ text = text' := by
  simp only [quote, cons_append, append_assoc, nil_append, cons.injEq, true_and] at h
  have hread := readQuoted_escapes a text
  rw [h, readQuoted_escapes] at hread
  simpa [eq_comm] using hread

/-- The text of a pair of strings determines them. -/
theorem stringify_pair_inj {ν : Type} {print : ν → JsString} {a b a' b' : JsString} :
    stringify print (.array [.string a, .string b]) =
      stringify print (.array [.string a', .string b']) ↔ a = a' ∧ b = b' := by
  constructor
  · intro h
    simp only [stringify, stringifyItems, cons.injEq, true_and] at h
    obtain ⟨hfirst, htail⟩ := quote_append_inj h
    rw [cons.injEq] at htail
    exact ⟨hfirst, (quote_append_inj htail.2).1⟩
  · rintro ⟨rfl, rfl⟩
    rfl

end Json
