import Corgtex.Library.JsonGrammar
import Corgtex.Library.JsonText

/-!
# The value of a JSON text

The grammar of RFC 8259 again, each rule with the value that its text stands for: a string literal
is decoded, a number keeps its digits, and the members of an object keep their order, repeated keys
included. `parse` is the reader of such texts. It reads every one of them (`parse_eq_some`), in
particular what `stringify` has written.
-/

namespace Json

open JsString JsonGrammar List

/-! ## Texts of values -/

/-- `*char quotation-mark`, with the string that it stands for. -/
inductive Characters : JsString → JsString → Prop
  | close : Characters [] [quotationMark]
  | unescaped {u : UInt16} {value text : JsString} : isUnescaped u → Characters value text →
      Characters (u :: value) (u :: text)
  | escape {u v : UInt16} {value text : JsString} : unescape v = some u →
      Characters value text → Characters (u :: value) (backslash :: v :: text)
  | unicode {a b c d : UInt16} {value text : JsString} : [a, b, c, d].all isHexDigit →
      Characters value text →
      Characters (unitOfHex a b c d :: value) (backslash :: letterU :: a :: b :: c :: d :: text)

/-- `string` -/
def Literal (value text : JsString) : Prop :=
  ∃ rest, text = quotationMark :: rest ∧ Characters value rest

mutual

/-- `value` -/
inductive Denotes : Json JsString → JsString → Prop
  | false : Denotes (.bool false) (lit "false")
  | null : Denotes .null (lit "null")
  | true : Denotes (.bool true) (lit "true")
  | number {text : JsString} : Number text → Denotes (.number text) text
  | string {value text : JsString} : Literal value text → Denotes (.string value) text
  | emptyArray {w : JsString} : Ws w → Denotes (.array []) (openBracket :: (w ++ [closeBracket]))
  | array {items : List (Json JsString)} {w rest : JsString} : Ws w → DenotesItems items rest →
      Denotes (.array items) (openBracket :: (w ++ rest))
  | emptyObject {w : JsString} : Ws w → Denotes (.object []) (openBrace :: (w ++ [closeBrace]))
  | object {members : List (JsString × Json JsString)} {w rest : JsString} : Ws w →
      DenotesMembers members rest → Denotes (.object members) (openBrace :: (w ++ rest))

/-- The elements of an array from the first one up to the closing bracket. -/
inductive DenotesItems : List (Json JsString) → JsString → Prop
  | last {item : Json JsString} {text w : JsString} : Denotes item text → Ws w →
      DenotesItems [item] (text ++ (w ++ [closeBracket]))
  | more {item : Json JsString} {items : List (Json JsString)} {text w y rest : JsString} :
      Denotes item text → Ws w → Ws y → DenotesItems items rest →
      DenotesItems (item :: items) (text ++ (w ++ comma :: (y ++ rest)))

/-- The members of an object from the first one up to the closing brace. -/
inductive DenotesMembers : List (JsString × Json JsString) → JsString → Prop
  | last {key keyText v x text w : JsString} {value : Json JsString} : Literal key keyText →
      Ws v → Ws x → Denotes value text → Ws w →
      DenotesMembers [(key, value)]
        (keyText ++ (v ++ colon :: (x ++ (text ++ (w ++ [closeBrace])))))
  | more {key keyText v x text w y rest : JsString} {value : Json JsString}
      {members : List (JsString × Json JsString)} : Literal key keyText →
      Ws v → Ws x → Denotes value text → Ws w → Ws y → DenotesMembers members rest →
      DenotesMembers ((key, value) :: members)
        (keyText ++ (v ++ colon :: (x ++ (text ++ (w ++ comma :: (y ++ rest))))))

end

/-- `JSON-text` -/
inductive DenotesText : Json JsString → JsString → Prop
  | value {tree : Json JsString} {w text y : JsString} : Ws w → Denotes tree text → Ws y →
      DenotesText tree (w ++ (text ++ y))

/-! ## The reader -/

/-- The text from its first token on. -/
def skipWs (text : JsString) : JsString := text.dropWhile isWhitespace

/-- What may stand in a number. -/
def isNumberUnit (u : UInt16) : Bool :=
  isDigit u || isExponentMark u || u = decimalPoint || u = minus || u = plus

/-- The text after one digit or more. -/
def afterDigits (text : JsString) : Option JsString :=
  if text.head?.any isDigit then some (text.dropWhile isDigit) else none

/-- The text after the integer part of a number. -/
def afterInteger : JsString → Option JsString
  | [] => none
  | u :: rest =>
    if u = 0x30 then some rest
    else if isDigitOneToNine u then some (rest.dropWhile isDigit)
    else none

/-- The text after the fraction, if there is one. -/
def afterFraction : JsString → Option JsString
  | [] => some []
  | u :: rest => if u = decimalPoint then afterDigits rest else some (u :: rest)

/-- The text after a sign of the exponent, if there is one. -/
def afterSign : JsString → JsString
  | [] => []
  | u :: rest => if u = minus ∨ u = plus then rest else u :: rest

/-- The rest of a number is its exponent, if there is one. -/
def isExponent : JsString → Bool
  | [] => true
  | u :: rest => isExponentMark u && afterDigits (afterSign rest) = some []

/-- The digits of a number. -/
def isNumber (token : JsString) : Bool :=
  ((afterInteger (if token.head? = some minus then token.tail else token)).bind afterFraction).any
    isExponent

def readNumber (text : JsString) : Option (Json JsString × JsString) :=
  if isNumber (text.takeWhile isNumberUnit) then
    some (.number (text.takeWhile isNumberUnit), text.dropWhile isNumberUnit)
  else none

/-- `true`, `false` and `null`. -/
def readWord (text : JsString) : Option (Json JsString × JsString) :=
  if lit "true" <+: text then some (.bool true, text.drop 4)
  else if lit "false" <+: text then some (.bool false, text.drop 5)
  else if lit "null" <+: text then some (.null, text.drop 4)
  else none

/-- The inside of an array or an object, which may be empty. -/
def readEnclosed {β : Type} (close : UInt16) (read : JsString → Option (List β × JsString))
    (text : JsString) : Option (List β × JsString) :=
  if (skipWs text).head? = some close then some ([], (skipWs text).tail) else read (skipWs text)

mutual

/-- A value and the text after it; `fuel` bounds the calls. -/
def readValue : Nat → JsString → Option (Json JsString × JsString)
  | 0, _ => none
  | _ + 1, [] => none
  | fuel + 1, u :: rest =>
    if u = quotationMark then
      (readQuoted rest).map fun result => (.string result.1, result.2)
    else if u = openBracket then
      (readEnclosed closeBracket (readItems fuel) rest).map fun result =>
        (.array result.1, result.2)
    else if u = openBrace then
      (readEnclosed closeBrace (readMembers fuel) rest).map fun result =>
        (.object result.1, result.2)
    else if isNumberUnit u then readNumber (u :: rest)
    else readWord (u :: rest)

/-- The elements of an array and the text after its closing bracket. -/
def readItems : Nat → JsString → Option (List (Json JsString) × JsString)
  | 0, _ => none
  | fuel + 1, text =>
    (readValue fuel text).bind fun result =>
      if (skipWs result.2).head? = some closeBracket then
        some ([result.1], (skipWs result.2).tail)
      else if (skipWs result.2).head? = some comma then
        (readItems fuel (skipWs (skipWs result.2).tail)).map fun rest =>
          (result.1 :: rest.1, rest.2)
      else none

/-- The members of an object and the text after its closing brace. -/
def readMembers : Nat → JsString → Option (List (JsString × Json JsString) × JsString)
  | 0, _ => none
  | fuel + 1, text =>
    if text.head? = some quotationMark then
      (readQuoted text.tail).bind fun key =>
        if (skipWs key.2).head? = some colon then
          (readValue fuel (skipWs (skipWs key.2).tail)).bind fun result =>
            if (skipWs result.2).head? = some closeBrace then
              some ([(key.1, result.1)], (skipWs result.2).tail)
            else if (skipWs result.2).head? = some comma then
              (readMembers fuel (skipWs (skipWs result.2).tail)).map fun rest =>
                ((key.1, result.1) :: rest.1, rest.2)
            else none
        else none
    else none

end

/-- The value of a text, `none` where it is no JSON text. -/
def parse (text : JsString) : Option (Json JsString) :=
  (readValue (2 * text.length) (skipWs text)).bind fun result =>
    if skipWs result.2 = [] then some result.1 else none

/-! ## Tokens -/

section
variable {text rest w : JsString}

theorem dropWhile_append_cons {p : UInt16 → Bool} {s rest : JsString} (hs : ∀ u ∈ s, p u)
    (hrest : ∀ u ∈ rest.head?, ¬ p u) :
    (s ++ rest).takeWhile p = s ∧ (s ++ rest).dropWhile p = rest := by
  rw [takeWhile_append_of_pos hs, dropWhile_append_of_pos hs]
  cases rest with
  | nil => simp
  | cons u rest =>
    have hu : ¬ p u := hrest u rfl
    simp [hu]

theorem skipWs_append (hw : Ws w) (hrest : ∀ u ∈ rest.head?, ¬ isWhitespace u) :
    skipWs (w ++ rest) = rest := (dropWhile_append_cons hw hrest).2

variable {u : UInt16}

theorem skipWs_cons (hw : Ws w) (hu : isWhitespace u = false) :
    skipWs (w ++ u :: rest) = u :: rest :=
  skipWs_append hw (by simp [hu])

/-! ## Numbers -/

theorem isDigit_of_oneToNine (h : isDigitOneToNine u) : isDigit u := by
  simp only [isDigitOneToNine, isDigit, Bool.and_eq_true, decide_eq_true_eq,
    UInt16.le_iff_toNat_le, UInt16.reduceToNat] at *
  omega

theorem not_isDigit_head_exp (h : Exp text) : ∀ u ∈ text.head?, ¬ isDigit u := by
  cases h with
  | none => simp
  | digits hmark =>
    intro u hu
    cases hu
    rcases Bool.or_eq_true _ _ ▸ hmark with h | h <;> simp only [decide_eq_true_eq] at h <;>
      subst h <;> decide

theorem not_isDigit_head_frac_exp {frac exp : JsString} (hfrac : Frac frac) (hexp : Exp exp) :
    ∀ u ∈ (frac ++ exp).head?, ¬ isDigit u := by
  cases hfrac with
  | none => exact not_isDigit_head_exp hexp
  | digits =>
    intro u hu
    cases hu
    decide

theorem afterDigits_append (hs : Digits text) (hrest : ∀ u ∈ rest.head?, ¬ isDigit u) :
    afterDigits (text ++ rest) = some rest := by
  obtain ⟨u, tail, rfl⟩ := exists_cons_of_ne_nil hs.ne_nil
  rw [afterDigits, (dropWhile_append_cons hs.all hrest).2]
  simp [hs.all u (by simp)]

theorem isExponent_of_exp (h : Exp text) : isExponent text = true := by
  cases h with
  | none => rfl
  | @digits u sign digits hmark hsign hdigits =>
    have hsigned : afterSign (sign ++ digits) = digits := by
      cases hsign with
      | minus | plus => rfl
      | none =>
        obtain ⟨v, tail, rfl⟩ := exists_cons_of_ne_nil hdigits.ne_nil
        have hv : isDigit v := hdigits.all v (by simp)
        have hplain : ¬ (v = minus ∨ v = plus) := by
          rintro (rfl | rfl)
          · exact absurd hv (by decide)
          · exact absurd hv (by decide)
        rw [nil_append, afterSign, if_neg hplain]
    have hend := @afterDigits_append _ [] hdigits (by simp)
    rw [append_nil] at hend
    rw [isExponent, hsigned, hend, hmark]
    rfl

theorem afterFraction_append {exp : JsString} (h : Frac text) (hexp : Exp exp) :
    afterFraction (text ++ exp) = some exp := by
  cases h with
  | none =>
    cases hexp with
    | none => rfl
    | @digits u _ _ hmark =>
      have hu : u ≠ decimalPoint := by
        rintro rfl
        exact absurd hmark (by decide)
      rw [nil_append, afterFraction, if_neg hu]
  | digits hdigits =>
    rw [cons_append, afterFraction, if_pos rfl,
      afterDigits_append hdigits (not_isDigit_head_exp hexp)]

theorem afterInteger_append (h : IntPart text) (hrest : ∀ u ∈ rest.head?, ¬ isDigit u) :
    afterInteger (text ++ rest) = some rest := by
  cases h with
  | zero => rfl
  | @digits u digits hu hdigits =>
    have hzero : u ≠ 0x30 := by
      rintro rfl
      exact absurd hu (by decide)
    rw [cons_append, afterInteger, if_neg hzero, if_pos hu, (dropWhile_append_cons hdigits hrest).2]

theorem isNumber_of_number (h : Number text) : isNumber text = true := by
  cases h with
  | @parts sign int frac exp hsign hint hfrac hexp =>
    have hunsigned : (if (sign ++ (int ++ (frac ++ exp))).head? = some minus then
        (sign ++ (int ++ (frac ++ exp))).tail else sign ++ (int ++ (frac ++ exp))) =
        int ++ (frac ++ exp) := by
      cases hsign with
      | minus => rfl
      | none =>
        refine if_neg fun hhead => ?_
        cases hint with
        | zero => cases hhead
        | digits hu =>
          cases hhead
          exact absurd hu (by decide)
    rw [isNumber, hunsigned, afterInteger_append hint (not_isDigit_head_frac_exp hfrac hexp),
      Option.bind_some, afterFraction_append hfrac hexp]
    exact isExponent_of_exp hexp

theorem isNumberUnit_of_isDigit (h : isDigit u) : isNumberUnit u := by
  simp [isNumberUnit, h]

/-- A number consists of number units and begins with a digit or its sign. -/
theorem isNumberUnit_of_number (h : Number text) : ∀ u ∈ text, isNumberUnit u := by
  cases h with
  | @parts sign int frac exp hsign hint hfrac hexp =>
    simp only [forall_mem_append]
    refine ⟨?_, ?_, ?_, ?_⟩
    · cases hsign with
      | none => simp
      | minus => exact forall_mem_singleton.2 (by decide)
    · cases hint with
      | zero => exact forall_mem_singleton.2 (by decide)
      | digits hu hdigits =>
        exact forall_mem_cons.2 ⟨isNumberUnit_of_isDigit (isDigit_of_oneToNine hu),
          fun v hv => isNumberUnit_of_isDigit (hdigits v hv)⟩
    · cases hfrac with
      | none => simp
      | digits hdigits =>
        exact forall_mem_cons.2 ⟨by decide, fun v hv => isNumberUnit_of_isDigit (hdigits.all v hv)⟩
    · cases hexp with
      | none => simp
      | @digits u sign digits hmark hsign hdigits =>
        refine forall_mem_cons.2 ⟨by simp [isNumberUnit, hmark], ?_⟩
        rw [forall_mem_append]
        refine ⟨?_, fun v hv => isNumberUnit_of_isDigit (hdigits.all v hv)⟩
        cases hsign with
        | none => simp
        | minus | plus => exact forall_mem_singleton.2 (by decide)

theorem number_ne_nil (h : Number text) : text ≠ [] := by
  cases h with
  | @parts sign int frac exp hsign hint =>
    cases hint <;> simp

/-- A number ends where something else begins. -/
theorem readNumber_append (h : Number text) (hrest : ∀ u ∈ rest.head?, ¬ isNumberUnit u) :
    readNumber (text ++ rest) = some (.number text, rest) := by
  obtain ⟨htake, hdrop⟩ := dropWhile_append_cons (isNumberUnit_of_number h) hrest
  rw [readNumber, htake, hdrop, if_pos (isNumber_of_number h)]

end

/-! ## Literals -/

section
variable {value text : JsString}

theorem unescape_letterU : unescape letterU = none := by decide

theorem readQuoted_unicode {a b c d : UInt16} (h : [a, b, c, d].all isHexDigit) (text : JsString) :
    readQuoted (backslash :: letterU :: a :: b :: c :: d :: text) =
      (readQuoted text).map fun (value, tail) => (unitOfHex a b c d :: value, tail) := by
  have hne : backslash ≠ quotationMark := by decide
  rw [readQuoted.eq_def]
  simp only [hne, if_false, if_true, h]

theorem readQuoted_of_characters (h : Characters value text) (rest : JsString) :
    readQuoted (text ++ rest) = some (value, rest) := by
  induction h with
  | close => exact readQuoted_quotationMark rest
  | @unescaped u value text hu _ ih =>
    simp only [isUnescaped, Bool.and_eq_true, bne_iff_ne, decide_eq_true_eq] at hu
    rw [cons_append, readQuoted_cons _ hu.1.2 hu.2 (UInt16.not_lt.2 hu.1.1), ih]
    rfl
  | @escape u v value text hv _ ih =>
    have hplain : v ≠ letterU := by
      rintro rfl
      rw [unescape_letterU] at hv
      cases hv
    rw [cons_append, cons_append, readQuoted_backslash _ hplain hv, ih]
    rfl
  | @unicode a b c d value text hdigits _ ih =>
    simp only [cons_append]
    rw [readQuoted_unicode hdigits, ih]
    rfl

theorem characters_escape (h : Characters value text) :
    Characters (u :: value) (escape u ++ text) := by
  unfold escape
  split
  · next he => exact he ▸ .escape (by decide) h
  split
  · next he => exact he ▸ .escape (by decide) h
  split
  · next he => exact he ▸ .escape (by decide) h
  split
  · next he => exact he ▸ .escape (by decide) h
  split
  · next he => exact he ▸ .escape (by decide) h
  split
  · next he =>
    rcases he with rfl | rfl
    · exact .escape (by decide) h
    · exact .escape (by decide) h
  · next hplain =>
    split
    · have hu : u.toNat < 65536 := u.toNat_lt
      have hdigits : [hexDigit (u.toNat / 0x1000), hexDigit (u.toNat / 0x100 % 16),
          hexDigit (u.toNat / 0x10 % 16), hexDigit (u.toNat % 16)].all isHexDigit = true := by
        simp only [all_cons, all_nil, Bool.and_true, Bool.and_eq_true]
        exact ⟨isHexDigit_hexDigit (by omega), isHexDigit_hexDigit (by omega),
          isHexDigit_hexDigit (by omega), isHexDigit_hexDigit (by omega)⟩
      have hunicode := Characters.unicode hdigits h
      rwa [unitOfHex_hexDigit] at hunicode
    · next hshown =>
      refine .unescaped ?_ h
      simp only [isUnescaped, Bool.and_eq_true, bne_iff_ne, decide_eq_true_eq]
      exact ⟨⟨UInt16.not_lt.1 fun hlow => hshown (.inl hlow), fun he => hplain (.inl he)⟩,
        fun he => hplain (.inr he)⟩

theorem characters_surrogate (hu : Utf8.isHigh u = true ∨ Utf8.isLow u = true)
    (h : Characters value text) : Characters (u :: value) (u :: text) := by
  refine .unescaped ?_ h
  have hle : 0xD800 ≤ u := by
    rcases hu with h | h <;>
      simp only [Utf8.isHigh, Utf8.isLow, Bool.and_eq_true, decide_eq_true_eq] at h
    · exact h.1
    · exact UInt16.le_trans (by decide) h.1
  simp only [isUnescaped, Bool.and_eq_true, bne_iff_ne, decide_eq_true_eq]
  refine ⟨⟨UInt16.le_trans (by decide) hle, ?_⟩, ?_⟩
  · rintro rfl
    exact absurd hle (by decide)
  · rintro rfl
    exact absurd hle (by decide)

theorem characters_escapes (value : JsString) :
    Characters value (escapes value ++ [quotationMark]) := by
  induction value using escapes.induct with
  | case1 => exact .close
  | case2 u => exact characters_escape .close
  | case3 u v rest hpair ih =>
    have hsurrogates : Utf8.isHigh u = true ∧ Utf8.isLow v = true := by simpa using hpair
    rw [escapes, if_pos hpair]
    exact characters_surrogate (.inl hsurrogates.1) (characters_surrogate (.inr hsurrogates.2) ih)
  | case4 u v rest hpair ih =>
    rw [escapes, if_neg hpair, append_assoc]
    exact characters_escape ih

theorem literal_quote (value : JsString) : Literal value (quote value) :=
  ⟨_, rfl, characters_escapes value⟩

end

/-! ## Values -/

section
variable {tree : Json JsString} {items : List (Json JsString)}
  {members : List (JsString × Json JsString)} {text rest w : JsString}

/-- A text begins with what is neither white space nor closes an array. -/
def Starts (text : JsString) : Prop :=
  ∃ u rest, text = u :: rest ∧ isWhitespace u = false ∧ u ≠ closeBracket ∧ u ≠ closeBrace

theorem starts_of_digit (h : isDigit u) (rest : JsString) : Starts (u :: rest) := by
  refine ⟨u, rest, rfl, ?_, ?_, ?_⟩
  · rw [Bool.eq_false_iff]
    intro hw
    simp only [isWhitespace, Bool.or_eq_true, decide_eq_true_eq] at hw
    rcases hw with ((rfl | rfl) | rfl) | rfl <;> exact absurd h (by decide)
  · rintro rfl
    exact absurd h (by decide)
  · rintro rfl
    exact absurd h (by decide)

theorem starts_of_number (h : Number text) : Starts text := by
  cases h with
  | parts hsign hint =>
    cases hsign with
    | minus => exact ⟨_, _, rfl, by decide, by decide, by decide⟩
    | none =>
      cases hint with
      | zero => exact starts_of_digit (by decide) _
      | digits hu => exact starts_of_digit (isDigit_of_oneToNine hu) _

theorem starts_of_denotes (h : Denotes tree text) : Starts text := by
  cases h with
  | number hnumber => exact starts_of_number hnumber
  | string hliteral =>
    obtain ⟨rest, rfl, -⟩ := hliteral
    exact ⟨_, _, rfl, by decide, by decide, by decide⟩
  | _ => exact ⟨_, _, rfl, by decide, by decide, by decide⟩

theorem Starts.append (h : Starts text) (rest : JsString) : Starts (text ++ rest) := by
  obtain ⟨u, tail, rfl, hu⟩ := h
  exact ⟨u, tail ++ rest, rfl, hu⟩

theorem starts_of_items (h : DenotesItems items text) : Starts text := by
  cases h with
  | last hitem => exact (starts_of_denotes hitem).append _
  | more hitem => exact (starts_of_denotes hitem).append _

variable {key : JsString}

theorem starts_of_literal (h : Literal key text) : Starts text := by
  obtain ⟨rest, rfl, -⟩ := h
  exact ⟨_, _, rfl, by decide, by decide, by decide⟩

theorem starts_of_members (h : DenotesMembers members text) : Starts text := by
  cases h with
  | last hkey => exact (starts_of_literal hkey).append _
  | more hkey => exact (starts_of_literal hkey).append _

theorem skipWs_starts (hw : Ws w) (h : Starts text) : skipWs (w ++ text) = text := by
  obtain ⟨u, tail, rfl, hu, -⟩ := h
  exact skipWs_cons hw hu

section
variable {β : Type} {close : UInt16} {read : JsString → Option (List β × JsString)} (hw : Ws w)
include hw

theorem readEnclosed_empty (hclose : isWhitespace close = false) :
    readEnclosed close read (w ++ ([close] ++ rest)) = some ([], rest) := by
  rw [singleton_append, readEnclosed, skipWs_cons hw hclose]
  simp

theorem readEnclosed_items (h : Starts text) (hclose : close = closeBracket ∨ close = closeBrace) :
    readEnclosed close read (w ++ (text ++ rest)) = read (text ++ rest) := by
  rw [readEnclosed, skipWs_starts hw (h.append rest)]
  obtain ⟨u, tail, rfl, -, hbracket, hbrace⟩ := h
  refine if_neg fun hhead => ?_
  cases hhead
  exact hclose.elim hbracket hbrace

end

/-- What ends a number. -/
def Follows (rest : JsString) : Prop := ∀ u ∈ rest.head?, ¬ isNumberUnit u

/-- White space and then something that is in no number. -/
theorem follows_ws (hw : Ws w) (hu : isNumberUnit u = false) : Follows (w ++ u :: rest) := by
  intro v hv
  cases w with
  | nil =>
    cases hv
    simp [hu]
  | cons v' w =>
    cases hv
    have hblank := hw v (by simp)
    simp only [isWhitespace, Bool.or_eq_true, decide_eq_true_eq] at hblank
    rcases hblank with ((rfl | rfl) | rfl) | rfl <;> decide

theorem exists_fuel (n fuel : Nat) (h : 2 * (n + 1) ≤ fuel) :
    ∃ fuel', fuel = fuel' + 1 ∧ 2 * n + 1 ≤ fuel' :=
  ⟨fuel - 1, by omega, by omega⟩

variable {fuel : Nat}

theorem readValue_word {word : JsString} (hword : readWord (word ++ rest) =
    some (tree, rest)) (hhead : ∃ u tail, word = u :: tail ∧ u ≠ quotationMark ∧ u ≠ openBracket ∧
      u ≠ openBrace ∧ isNumberUnit u = false) :
    readValue (fuel + 1) (word ++ rest) = some (tree, rest) := by
  obtain ⟨u, tail, rfl, hquote, hbracket, hbrace, hunit⟩ := hhead
  rw [cons_append] at hword ⊢
  rw [readValue, if_neg hquote, if_neg hbracket, if_neg hbrace, hunit]
  exact hword

theorem readValue_number (h : Number text) (hrest : Follows rest) :
    readValue (fuel + 1) (text ++ rest) = some (.number text, rest) := by
  have hunits := isNumberUnit_of_number h
  have hread := readNumber_append h hrest
  obtain ⟨u, tail, rfl⟩ := exists_cons_of_ne_nil (number_ne_nil h)
  have hu : isNumberUnit u := hunits u (by simp)
  have hquote : u ≠ quotationMark := by
    rintro rfl
    exact absurd hu (by decide)
  have hbracket : u ≠ openBracket := by
    rintro rfl
    exact absurd hu (by decide)
  have hbrace : u ≠ openBrace := by
    rintro rfl
    exact absurd hu (by decide)
  rw [cons_append] at hread ⊢
  rw [readValue, if_neg hquote, if_neg hbracket, if_neg hbrace, if_pos hu]
  exact hread

theorem readValue_literal {value : JsString} (h : Literal value text) :
    readValue (fuel + 1) (text ++ rest) = some (.string value, rest) := by
  obtain ⟨chars, rfl, hchars⟩ := h
  rw [cons_append, readValue, if_pos rfl, readQuoted_of_characters hchars]
  rfl

theorem readValue_array (h : readEnclosed closeBracket (readItems fuel) text = some (items, rest)) :
    readValue (fuel + 1) (openBracket :: text) = some (.array items, rest) := by
  rw [readValue, if_neg (by decide), if_pos rfl, h]
  rfl

theorem readValue_object
    (h : readEnclosed closeBrace (readMembers fuel) text = some (members, rest)) :
    readValue (fuel + 1) (openBrace :: text) = some (.object members, rest) := by
  rw [readValue, if_neg (by decide), if_neg (by decide), if_pos rfl, h]
  rfl

theorem readItems_last (h : readValue fuel text = some (tree, w ++ closeBracket :: rest))
    (hw : Ws w) : readItems (fuel + 1) text = some ([tree], rest) := by
  rw [readItems, h, Option.bind_some, skipWs_cons hw (by decide)]
  rfl

theorem readItems_more {w' more : JsString}
    (h : readValue fuel text = some (tree, w ++ comma :: (w' ++ more))) (hw : Ws w) (hw' : Ws w')
    (hmore : Starts more) (hitems : readItems fuel more = some (items, rest)) :
    readItems (fuel + 1) text = some (tree :: items, rest) := by
  rw [readItems, h, Option.bind_some, skipWs_cons hw (by decide)]
  simp only [head?_cons, tail_cons]
  rw [if_neg (by decide), if_pos trivial, skipWs_starts hw' hmore, hitems]
  rfl

section
variable {keyText v v' : JsString} (hkey : Literal key keyText) (hv : Ws v) (hv' : Ws v')
  (htext : Starts text)
include hkey hv hv' htext

theorem readMembers_key : readMembers (fuel + 1) (keyText ++ (v ++ colon :: (v' ++ text))) =
      (readValue fuel text).bind fun result =>
        if (skipWs result.2).head? = some closeBrace then
          some ([(key, result.1)], (skipWs result.2).tail)
        else if (skipWs result.2).head? = some comma then
          (readMembers fuel (skipWs (skipWs result.2).tail)).map fun rest =>
            ((key, result.1) :: rest.1, rest.2)
        else none := by
  obtain ⟨chars, rfl, hchars⟩ := hkey
  rw [cons_append, readMembers, if_pos (by rfl), tail_cons,
    readQuoted_of_characters hchars, Option.bind_some, skipWs_cons hv (by decide),
    if_pos (by rfl), tail_cons, skipWs_starts hv' htext]

theorem readMembers_last (h : readValue fuel text = some (tree, w ++ closeBrace :: rest))
    (hw : Ws w) : readMembers (fuel + 1) (keyText ++ (v ++ colon :: (v' ++ text))) =
      some ([(key, tree)], rest) := by
  rw [readMembers_key hkey hv hv' htext, h, Option.bind_some, skipWs_cons hw (by decide)]
  rfl

end

theorem readMembers_more {keyText v v' w' more : JsString} (hkey : Literal key keyText)
    (hv : Ws v) (hv' : Ws v') (htext : Starts text)
    (h : readValue fuel text = some (tree, w ++ comma :: (w' ++ more))) (hw : Ws w) (hw' : Ws w')
    (hmore : Starts more) (hmembers : readMembers fuel more = some (members, rest)) :
    readMembers (fuel + 1) (keyText ++ (v ++ colon :: (v' ++ text))) =
      some ((key, tree) :: members, rest) := by
  rw [readMembers_key hkey hv hv' htext, h, Option.bind_some, skipWs_cons hw (by decide)]
  simp only [head?_cons, tail_cons]
  rw [if_neg (by decide), if_pos trivial, skipWs_starts hw' hmore, hmembers]
  rfl

mutual

/-- **A value is read** up to the end of its text, whatever follows. -/
theorem readValue_append : ∀ {tree : Json JsString} {text : JsString}, Denotes tree text →
    ∀ (fuel : Nat), 2 * text.length ≤ fuel → ∀ (rest : JsString), Follows rest →
      readValue fuel (text ++ rest) = some (tree, rest)
  | _, _, .false, fuel, hfuel, rest, _ => by
    obtain ⟨fuel, rfl, -⟩ := exists_fuel 4 fuel hfuel
    exact readValue_word rfl ⟨_, _, rfl, by decide⟩
  | _, _, .null, fuel, hfuel, rest, _ | _, _, .true, fuel, hfuel, rest, _ => by
    obtain ⟨fuel, rfl, -⟩ := exists_fuel 3 fuel hfuel
    exact readValue_word rfl ⟨_, _, rfl, by decide⟩
  | _, text, .number h, fuel, hfuel, rest, hrest => by
    have hpos := length_pos_iff.2 (number_ne_nil h)
    obtain ⟨fuel, rfl, -⟩ := exists_fuel (text.length - 1) fuel (by omega)
    exact readValue_number h hrest
  | _, _, .string ⟨chars, htext, h⟩, fuel, hfuel, rest, _ => by
    obtain ⟨fuel, rfl, -⟩ := exists_fuel chars.length fuel (by simpa [htext] using hfuel)
    exact readValue_literal ⟨chars, htext, h⟩
  | _, _, @Denotes.emptyArray w hw, fuel, hfuel, rest, _ => by
    obtain ⟨fuel, rfl, -⟩ := exists_fuel _ fuel hfuel
    rw [cons_append, append_assoc]
    exact readValue_array (readEnclosed_empty hw (by decide))
  | _, _, @Denotes.array items w itemsText hw hitems, fuel, hfuel, rest, _ => by
    obtain ⟨fuel, rfl, hrest⟩ := exists_fuel _ fuel hfuel
    rw [length_append] at hrest
    rw [cons_append, append_assoc]
    refine readValue_array ?_
    rw [readEnclosed_items hw (starts_of_items hitems) (.inl rfl)]
    exact readItems_append hitems fuel (by omega) rest
  | _, _, @Denotes.emptyObject w hw, fuel, hfuel, rest, _ => by
    obtain ⟨fuel, rfl, -⟩ := exists_fuel _ fuel hfuel
    rw [cons_append, append_assoc]
    exact readValue_object (readEnclosed_empty hw (by decide))
  | _, _, @Denotes.object members w membersText hw hmembers, fuel, hfuel, rest, _ => by
    obtain ⟨fuel, rfl, hrest⟩ := exists_fuel _ fuel hfuel
    rw [length_append] at hrest
    rw [cons_append, append_assoc]
    refine readValue_object ?_
    rw [readEnclosed_items hw (starts_of_members hmembers) (.inr rfl)]
    exact readMembers_append hmembers fuel (by omega) rest

/-- Elements are read up to the closing bracket. -/
theorem readItems_append : ∀ {items : List (Json JsString)} {text : JsString},
    DenotesItems items text → ∀ (fuel : Nat), 2 * text.length ≤ fuel → ∀ (rest : JsString),
      readItems fuel (text ++ rest) = some (items, rest)
  | _, _, @DenotesItems.last item text w hitem hw, fuel, hfuel, rest => by
    simp only [length_append, length_singleton, ← Nat.add_assoc] at hfuel
    obtain ⟨fuel, rfl, hrest⟩ := exists_fuel _ fuel hfuel
    have hread := readValue_append hitem fuel (by omega) (w ++ closeBracket :: rest)
      (follows_ws hw (by decide))
    rw [append_assoc, append_assoc, singleton_append]
    exact readItems_last hread hw
  | _, _, @DenotesItems.more item items text w w' more hitem hw hw' hitems, fuel, hfuel, rest => by
    simp only [length_append, length_cons] at hfuel
    obtain ⟨fuel, rfl, hrest⟩ :=
      exists_fuel (text.length + w.length + w'.length + more.length) fuel (by omega)
    have hread := readValue_append hitem fuel (by omega) (w ++ comma :: (w' ++ (more ++ rest)))
      (follows_ws hw (by decide))
    simp only [append_assoc, cons_append]
    exact readItems_more hread hw hw' ((starts_of_items hitems).append rest)
      (readItems_append hitems fuel (by omega) rest)

theorem readMembers_append : ∀ {members : List (JsString × Json JsString)} {text : JsString},
    DenotesMembers members text → ∀ (fuel : Nat), 2 * text.length ≤ fuel → ∀ (rest : JsString),
      readMembers fuel (text ++ rest) = some (members, rest)
  | _, _, @DenotesMembers.last key keyText v v' text w value hkey hv hv' hvalue hw, fuel, hfuel,
      rest => by
    simp only [length_append, length_cons, length_nil] at hfuel
    obtain ⟨fuel, rfl, hrest⟩ := exists_fuel (text.length + w.length + 1) fuel (by omega)
    have hread := readValue_append hvalue fuel (by omega) (w ++ closeBrace :: rest)
      (follows_ws hw (by decide))
    simp only [append_assoc, cons_append, nil_append]
    exact readMembers_last hkey hv hv' ((starts_of_denotes hvalue).append _) hread hw
  | _, _, @DenotesMembers.more key keyText v v' text w w' more value members hkey hv hv' hvalue hw
      hw' hmembers, fuel, hfuel, rest => by
    simp only [length_append, length_cons] at hfuel
    obtain ⟨fuel, rfl, hrest⟩ := exists_fuel (text.length + w.length + more.length + 1) fuel
      (by omega)
    have hread := readValue_append hvalue fuel (by omega) (w ++ comma :: (w' ++ (more ++ rest)))
      (follows_ws hw (by decide))
    simp only [append_assoc, cons_append]
    exact readMembers_more hkey hv hv' ((starts_of_denotes hvalue).append _) hread hw hw'
      ((starts_of_members hmembers).append rest) (readMembers_append hmembers fuel (by omega) rest)

end

/-- **Every JSON text is read**: as the value that it stands for. -/
theorem parse_eq_some (h : DenotesText tree text) : parse text = some tree := by
  cases h with
  | @value w text w' hw htext hw' =>
    have hread := readValue_append htext (2 * (w ++ (text ++ w')).length)
      (by simp only [length_append]; omega) w' ?_
    · have hrest : skipWs w' = [] := by
        have := @skipWs_append [] _ hw' (by simp)
        rwa [append_nil] at this
      rw [parse, skipWs_starts hw ((starts_of_denotes htext).append w'), hread, Option.bind_some,
        if_pos hrest]
    · intro u hu
      have hblank := hw' u (mem_of_mem_head? hu)
      simp only [isWhitespace, Bool.or_eq_true, decide_eq_true_eq] at hblank
      rcases hblank with ((rfl | rfl) | rfl) | rfl <;> decide

end

/-! ## What was written -/

section
variable {ν : Type} {print : ν → JsString}

mutual

/-- **What was written** stands for the value. -/
theorem denotes_stringify (hprint : ∀ n, Number (print n)) : ∀ tree : Json ν,
    Denotes (tree.mapNumber print) (stringify print tree)
  | .null => by
    rw [mapNumber, stringify]
    exact .null
  | .bool value => by
    rw [mapNumber, stringify]
    cases value
    · exact .false
    · exact .true
  | .number value => by
    rw [mapNumber, stringify]
    exact .number (hprint value)
  | .string value => by
    rw [mapNumber, stringify]
    exact .string (literal_quote value)
  | .array [] => by
    rw [mapNumber, stringify, mapItems, stringifyItems]
    exact .emptyArray (w := []) (by simp [Ws])
  | .array (item :: items) => by
    rw [mapNumber, stringify]
    exact .array (w := []) (by simp [Ws]) (denotes_stringifyItems hprint (item :: items) (by simp))
  | .object [] => by
    rw [mapNumber, stringify, mapMembers, stringifyMembers]
    exact .emptyObject (w := []) (by simp [Ws])
  | .object (member :: members) => by
    rw [mapNumber, stringify]
    exact .object (w := []) (by simp [Ws])
      (denotes_stringifyMembers hprint (member :: members) (by simp))

theorem denotes_stringifyItems (hprint : ∀ n, Number (print n)) :
    ∀ items : List (Json ν), items ≠ [] →
      DenotesItems (mapItems print items) (stringifyItems print items)
  | [], h => absurd rfl h
  | [item], _ => by
    rw [mapItems, mapItems, stringifyItems]
    exact .last (w := []) (denotes_stringify hprint item) (by simp [Ws])
  | item :: item' :: items, _ => by
    rw [mapItems, stringifyItems]
    exact .more (w := []) (y := []) (denotes_stringify hprint item) (by simp [Ws]) (by simp [Ws])
      (denotes_stringifyItems hprint (item' :: items) (by simp))

theorem denotes_stringifyMembers (hprint : ∀ n, Number (print n)) :
    ∀ members : List (JsString × Json ν), members ≠ [] →
      DenotesMembers (mapMembers print members) (stringifyMembers print members)
  | [], h => absurd rfl h
  | [(key, value)], _ => by
    rw [mapMembers, mapMembers, stringifyMembers, append_assoc]
    exact .last (v := []) (x := []) (w := []) (literal_quote key) (by simp [Ws]) (by simp [Ws])
      (denotes_stringify hprint value) (by simp [Ws])
  | (key, value) :: member :: members, _ => by
    rw [mapMembers, stringifyMembers, append_assoc]
    exact .more (v := []) (x := []) (w := []) (y := []) (literal_quote key) (by simp [Ws])
      (by simp [Ws]) (denotes_stringify hprint value) (by simp [Ws]) (by simp [Ws])
      (denotes_stringifyMembers hprint (member :: members) (by simp))

end

/-- **The round trip**: what was written is read back, each number by its digits. -/
theorem parse_stringify (hprint : ∀ n, Number (print n)) (tree : Json ν) :
    parse (stringify print tree) = some (tree.mapNumber print) := by
  have h := DenotesText.value (w := []) (y := []) (by simp [Ws]) (denotes_stringify hprint tree)
    (by simp [Ws])
  rw [nil_append, append_nil] at h
  exact parse_eq_some h

end

end Json
