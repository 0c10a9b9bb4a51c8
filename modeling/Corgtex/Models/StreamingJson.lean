import Corgtex.Library.JsonGrammar
import Corgtex.Library.PrefixReader
import Mathlib.Computability.RegularExpressions
import Mathlib.Data.Bool.AllAny

/-!
# What a stream of JSON has become

`models/src/streaming-json.ts`: `jsonPrefixState` tells a JSON text from one that has not
ended and from one that can no longer become one. Each of its functions takes what is left of the
input and gives back what it leaves; a loop has as much fuel as there is input.
-/

namespace Corgtex.Models.StreamingJson

open List hiding take

open JsString PrefixReader

/-! ## Characters -/

def whitespace (u : UInt16) : Bool := u ∈ lit " \n\r\t"

def hex (u : UInt16) : Bool := isHexDigit u

/-- The keys of `ESCAPES`. -/
def ESCAPES : JsString := lit "\"\\/bfnrt"

def skip (s : JsString) : JsString := s.dropWhile whitespace

/-! ## Strings and literals -/

/-- `if (!hex(take())) abort("malformed")`, so many times. -/
def hexDigits : ℕ → JsString → Except Abort JsString
  | 0, s => .ok s
  | count + 1, s => do
    let (character, rest) ← take s
    if hex character then hexDigits count rest else throw .malformed

/-- The loop of `string`. -/
def characters : ℕ → JsString → Except Abort JsString
  | 0, _ => .error .malformed
  | fuel + 1, s => do
    let (character, rest) ← take s
    if character = 0x22 then pure rest
    else if character = 0x5C then
      let (escape, rest) ← take rest
      if escape = 0x75 then
        let rest ← hexDigits 4 rest
        characters fuel rest
      else if escape ∈ ESCAPES then characters fuel rest
      else throw .malformed
    else if character < 0x20 then throw .malformed
    else characters fuel rest

def string (s : JsString) : Except Abort JsString := do
  let (quotation, rest) ← take s
  if quotation = 0x22 then characters (rest.length + 1) rest else throw .malformed

def literal : JsString → JsString → Except Abort JsString
  | [], s => .ok s
  | expected :: more, s => do
    let (character, rest) ← take s
    if character = expected then literal more rest else throw .malformed

/-! ## Numbers -/

def oneOf (class' : JsString) : RegularExpression UInt16 :=
  class'.foldr (fun u expression => .char u + expression) 0

/-- `r?` -/
def optional (r : RegularExpression UInt16) : RegularExpression UInt16 := 1 + r

/-- `\d` -/
def digit : RegularExpression UInt16 := oneOf (lit "0123456789")

/-- `\d+` -/
def digits : RegularExpression UInt16 := digit * digit.star

/-- `-?` -/
def sign : RegularExpression UInt16 := optional (oneOf (lit "-"))

/-- `(?:0|[1-9]\d*)` -/
def integer : RegularExpression UInt16 :=
  oneOf (lit "0") + oneOf (lit "123456789") * digit.star

/-- `(?:\.\d+)?` -/
def fraction : RegularExpression UInt16 := optional (oneOf (lit ".") * digits)

/-- `[eE][+-]?` -/
def exponentMark : RegularExpression UInt16 := oneOf (lit "eE") * optional (oneOf (lit "+-"))

def complete : RegularExpression UInt16 :=
  sign * (integer * (fraction * optional (exponentMark * digits)))

def viable : RegularExpression UInt16 :=
  sign + (sign * integer + (sign * (integer * (oneOf (lit ".") * digit.star)) +
    sign * (integer * (fraction * (exponentMark * digit.star)))))

/-- `/[0-9eE+.\-]/` -/
def isNumberCharacter (u : UInt16) : Bool := u ∈ lit "0123456789eE+.-"

def number (s : JsString) : Except Abort JsString :=
  let token := s.takeWhile isNumberCharacter
  let rest := s.dropWhile isNumberCharacter
  if complete.rmatch token then .ok rest
  else if rest = [] ∧ viable.rmatch token then .error .incomplete
  else .error .malformed

/-! ## Values -/

/-- The loop of `object` and of `array`. -/
def separated (item : JsString → Except Abort JsString) (close : UInt16) :
    ℕ → JsString → Except Abort JsString
  | 0, _ => .error .malformed
  | fuel + 1, s => do
    let rest ← item s
    let (delimiter, rest) ← take (skip rest)
    if delimiter = close then pure rest
    else if delimiter = 0x2C then separated item close fuel (skip rest)
    else throw .malformed

/-- `object` and `array`, behind the bracket. -/
def enclosed (item : JsString → Except Abort JsString) (close : UInt16) (s : JsString) :
    Except Abort JsString := do
  let (character, rest) ← take (skip s)
  if character = close then pure rest
  else separated item close (rest.length + 2) (character :: rest)

section
variable (value : JsString → Except Abort JsString)

/-- `string(); skip(); if (take() !== ":") abort("malformed"); value();` -/
def member (s : JsString) : Except Abort JsString := do
  let rest ← string s
  let (separator, rest) ← take (skip rest)
  if separator = 0x3A then value rest else throw .malformed

/-- `object`, behind its bracket. -/
def object : JsString → Except Abort JsString :=
  enclosed (member value) 0x7D

/-- `array`, behind its bracket. -/
def array : JsString → Except Abort JsString :=
  enclosed value 0x5D

end

def value : ℕ → JsString → Except Abort JsString
  | 0, _ => .error .malformed
  | fuel + 1, s => do
    let (character, rest) ← take (skip s)
    if character = 0x22 then string (character :: rest)
    else if character = 0x7B then object (value fuel) rest
    else if character = 0x5B then array (value fuel) rest
    else if character = 0x74 then literal (lit "true") (character :: rest)
    else if character = 0x66 then literal (lit "false") (character :: rest)
    else if character = 0x6E then literal (lit "null") (character :: rest)
    else if character = 0x2D ∨ character ∈ lit "0123456789" then number (character :: rest)
    else throw .malformed

/-- What `jsonPrefixState` answers. -/
inductive State
  | incomplete | complete | malformed
deriving DecidableEq

/-- The body of the `try` block. -/
def text (input : JsString) : Except Abort JsString := do
  let rest ← value (input.length + 1) input
  if skip rest = [] then pure (skip rest) else throw .malformed

/-- `jsonPrefixState` (line 5). -/
def jsonPrefixState (input : JsString) : State :=
  match text input with
  | .ok _ => .complete
  | .error .incomplete => .incomplete
  | .error .malformed => .malformed

/-! ## Classes of characters -/

section
variable (u : UInt16)

theorem whitespace_iff : whitespace u ↔ JsonGrammar.isWhitespace u := by
  have hclass : lit " \n\r\t" = [0x20, 0x0A, 0x0D, 0x09] := by decide
  simp only [whitespace, hclass, JsonGrammar.isWhitespace, mem_cons, not_mem_nil,
    Bool.or_eq_true, decide_eq_true_eq, or_false]
  tauto

theorem mem_ESCAPES_iff : u ∈ ESCAPES ↔ JsonGrammar.isEscape u := by
  have hclass : ESCAPES = [0x22, 0x5C, 0x2F, 0x62, 0x66, 0x6E, 0x72, 0x74] := by decide
  simp only [hclass, JsonGrammar.isEscape, mem_cons, not_mem_nil, Bool.or_eq_true,
    decide_eq_true_eq, or_false]
  tauto

theorem mem_digits_iff : u ∈ lit "0123456789" ↔ JsonGrammar.isDigit u := by
  have hclass : lit "0123456789" =
      [0x30, 0x31, 0x32, 0x33, 0x34, 0x35, 0x36, 0x37, 0x38, 0x39] := by decide
  simp only [hclass, JsonGrammar.isDigit, mem_cons, not_mem_nil, Bool.and_eq_true,
    decide_eq_true_eq, or_false, UInt16.le_iff_toNat_le, ← UInt16.toNat_inj, UInt16.reduceToNat]
  omega

theorem mem_digitsOneToNine_iff : u ∈ lit "123456789" ↔ JsonGrammar.isDigitOneToNine u := by
  have hclass : lit "123456789" =
      [0x31, 0x32, 0x33, 0x34, 0x35, 0x36, 0x37, 0x38, 0x39] := by decide
  simp only [hclass, JsonGrammar.isDigitOneToNine, mem_cons, not_mem_nil,
    Bool.and_eq_true, decide_eq_true_eq, or_false, UInt16.le_iff_toNat_le, ← UInt16.toNat_inj,
    UInt16.reduceToNat]
  omega

theorem mem_exponentMark_iff : u ∈ lit "eE" ↔ JsonGrammar.isExponentMark u := by
  have hclass : lit "eE" = [0x65, 0x45] := by decide
  simp [hclass, JsonGrammar.isExponentMark]

end

/-! ## Regular expressions of numbers -/

section Numbers

open JsonGrammar Language

variable {s t : JsString} {r : RegularExpression UInt16}

theorem mem_oneOf {class' : JsString} : s ∈ (oneOf class').matches' ↔ ∃ u ∈ class', s = [u] := by
  induction class' with
  | nil => simp [oneOf]
  | cons u class' ih =>
    rw [oneOf, foldr_cons, RegularExpression.matches'_add, Language.mem_add,
      RegularExpression.matches'_char]
    simp only [exists_mem_cons_iff]
    exact or_congr Iff.rfl ih

theorem mem_optional : s ∈ (optional r).matches' ↔ s = [] ∨ s ∈ r.matches' := by
  rw [optional, RegularExpression.matches'_add, Language.mem_add,
    RegularExpression.matches'_epsilon, Language.mem_one]

theorem mem_mul {r' : RegularExpression UInt16} :
    s ∈ (r * r').matches' ↔ ∃ v ∈ r.matches', ∃ w ∈ r'.matches', s = v ++ w := by
  rw [RegularExpression.matches'_mul, Language.mem_mul]
  constructor <;> rintro ⟨v, hv, w, hw, h⟩ <;> exact ⟨v, hv, w, hw, h.symm⟩

theorem mem_digit_star : s ∈ digit.star.matches' ↔ ∀ u ∈ s, isDigit u := by
  rw [RegularExpression.matches'_star, Language.mem_kstar]
  constructor
  · rintro ⟨parts, rfl, hparts⟩ u hu
    obtain ⟨part, hpart, hu⟩ := mem_flatten.1 hu
    obtain ⟨v, hv, rfl⟩ := mem_oneOf.1 (hparts part hpart)
    rw [mem_singleton.1 hu]
    exact (mem_digits_iff v).1 hv
  · intro hs
    have hflat : s = (s.map fun u => [u]).flatten := by
      rw [← flatMap_def, flatMap_singleton']
    refine ⟨s.map fun u => [u], hflat, fun part hpart => ?_⟩
    obtain ⟨u, hu, rfl⟩ := mem_map.1 hpart
    exact mem_oneOf.2 ⟨u, (mem_digits_iff u).2 (hs u hu), rfl⟩

theorem mem_digits : s ∈ digits.matches' ↔ Digits s := by
  rw [digits, mem_mul]
  constructor
  · rintro ⟨_, hfirst, w, hw, rfl⟩
    obtain ⟨u, hu, rfl⟩ := mem_oneOf.1 hfirst
    exact ⟨by simp, forall_mem_cons.2 ⟨(mem_digits_iff u).1 hu, mem_digit_star.1 hw⟩⟩
  · rintro ⟨hne, hall⟩
    obtain ⟨u, w, rfl⟩ := exists_cons_of_ne_nil hne
    obtain ⟨hu, hw⟩ := forall_mem_cons.1 hall
    exact ⟨[u], mem_oneOf.2 ⟨u, (mem_digits_iff u).2 hu, rfl⟩, w, mem_digit_star.2 hw, rfl⟩

theorem mem_single {c : String} {u : UInt16} (hc : lit c = [u]) :
    s ∈ (oneOf (lit c)).matches' ↔ s = [u] := by
  simp [mem_oneOf, hc]

theorem mem_sign : s ∈ sign.matches' ↔ Sign s := by
  rw [sign, mem_optional, mem_single (by decide : lit "-" = [minus])]
  constructor
  · rintro (rfl | rfl)
    · exact .none
    · exact .minus
  · rintro (_ | _)
    · exact .inl rfl
    · exact .inr rfl

theorem mem_integer : s ∈ integer.matches' ↔ IntPart s := by
  rw [integer, RegularExpression.matches'_add, Language.mem_add,
    mem_single (by decide : lit "0" = [0x30]), mem_mul]
  constructor
  · rintro (rfl | ⟨_, hfirst, w, hw, rfl⟩)
    · exact .zero
    · obtain ⟨u, hu, rfl⟩ := mem_oneOf.1 hfirst
      exact .digits ((mem_digitsOneToNine_iff u).1 hu) (mem_digit_star.1 hw)
  · rintro (_ | ⟨hu, hw⟩)
    · exact .inl rfl
    · exact .inr ⟨[_], mem_oneOf.2 ⟨_, (mem_digitsOneToNine_iff _).2 hu, rfl⟩, _,
        mem_digit_star.2 hw, rfl⟩

theorem mem_fraction : s ∈ fraction.matches' ↔ Frac s := by
  rw [fraction, mem_optional, mem_mul]
  constructor
  · rintro (rfl | ⟨_, hpoint, w, hw, rfl⟩)
    · exact .none
    · obtain rfl := (mem_single (by decide : lit "." = [decimalPoint])).1 hpoint
      exact .digits (mem_digits.1 hw)
  · rintro (_ | hw)
    · exact .inl rfl
    · exact .inr ⟨[decimalPoint], (mem_single (by decide)).2 rfl, _, mem_digits.2 hw, rfl⟩

/-- An exponent without its digits. -/
theorem mem_exponentMark :
    s ∈ exponentMark.matches' ↔ ∃ u sign, isExponentMark u ∧ ExpSign sign ∧ s = u :: sign := by
  have hsign : lit "+-" = [plus, minus] := by decide
  rw [exponentMark, mem_mul]
  constructor
  · rintro ⟨_, hmark, sign, hsign', rfl⟩
    obtain ⟨u, hu, rfl⟩ := mem_oneOf.1 hmark
    refine ⟨u, sign, (mem_exponentMark_iff u).1 hu, ?_, rfl⟩
    rw [mem_optional, mem_oneOf, hsign] at hsign'
    rcases hsign' with rfl | ⟨v, hv, rfl⟩
    · exact .none
    · rcases mem_pair.1 hv with rfl | rfl
      · exact .plus
      · exact .minus
  · rintro ⟨u, sign, hu, hsign', rfl⟩
    refine ⟨[u], mem_oneOf.2 ⟨u, (mem_exponentMark_iff u).2 hu, rfl⟩, sign, ?_, rfl⟩
    rw [mem_optional, mem_oneOf, hsign]
    cases hsign' with
    | none => exact .inl rfl
    | minus => exact .inr ⟨minus, by simp, rfl⟩
    | plus => exact .inr ⟨plus, by simp, rfl⟩

theorem mem_exponent : s ∈ (optional (exponentMark * digits)).matches' ↔ Exp s := by
  rw [mem_optional, mem_mul]
  constructor
  · rintro (rfl | ⟨_, hmark, w, hw, rfl⟩)
    · exact .none
    · obtain ⟨u, sign, hu, hsign, rfl⟩ := mem_exponentMark.1 hmark
      exact .digits hu hsign (mem_digits.1 hw)
  · rintro (_ | ⟨hu, hsign, hw⟩)
    · exact .inl rfl
    · exact .inr ⟨_, mem_exponentMark.2 ⟨_, _, hu, hsign, rfl⟩, _, mem_digits.2 hw, rfl⟩

/-- **The first expression matches the numbers.** -/
theorem complete_rmatch : complete.rmatch s ↔ Number s := by
  rw [RegularExpression.rmatch_iff_matches', complete]
  simp only [mem_mul, mem_sign, mem_integer, mem_fraction, mem_exponent]
  constructor
  · rintro ⟨sign, hsign, _, ⟨int, hint, _, ⟨frac, hfrac, exp, hexp, rfl⟩, rfl⟩, rfl⟩
    exact .parts hsign hint hfrac hexp
  · rintro ⟨hsign, hint, hfrac, hexp⟩
    exact ⟨_, hsign, _, ⟨_, hint, _, ⟨_, hfrac, _, hexp, rfl⟩, rfl⟩, rfl⟩

/-- The texts that the second expression matches. -/
inductive NumberStart : JsString → Prop
  | sign {s : JsString} : Sign s → NumberStart s
  | int {sign int : JsString} : Sign sign → IntPart int → NumberStart (sign ++ int)
  | frac {sign int s : JsString} : Sign sign → IntPart int → (∀ u ∈ s, isDigit u) →
      NumberStart (sign ++ (int ++ decimalPoint :: s))
  | exp {sign int frac expSign s : JsString} {u : UInt16} : Sign sign → IntPart int → Frac frac →
      isExponentMark u → ExpSign expSign → (∀ u ∈ s, isDigit u) →
      NumberStart (sign ++ (int ++ (frac ++ u :: (expSign ++ s))))

theorem viable_rmatch : viable.rmatch s ↔ NumberStart s := by
  rw [RegularExpression.rmatch_iff_matches', viable]
  simp only [RegularExpression.matches'_add, Language.mem_add, mem_mul, mem_sign, mem_integer,
    mem_fraction, mem_digit_star, mem_exponentMark,
    mem_single (by decide : lit "." = [decimalPoint])]
  constructor
  · rintro (hsign | ⟨sign, hsign, int, hint, rfl⟩ |
      ⟨sign, hsign, _, ⟨int, hint, _, ⟨_, rfl, w, hw, rfl⟩, rfl⟩, rfl⟩ |
      ⟨sign, hsign, _, ⟨int, hint, _, ⟨frac, hfrac, _, ⟨_, ⟨u, expSign, hu, hexp, rfl⟩, w, hw, rfl⟩,
        rfl⟩, rfl⟩, rfl⟩)
    · exact .sign hsign
    · exact .int hsign hint
    · exact .frac hsign hint hw
    · exact .exp hsign hint hfrac hu hexp hw
  · rintro (hsign | ⟨hsign, hint⟩ | ⟨hsign, hint, hw⟩ | ⟨hsign, hint, hfrac, hu, hexp, hw⟩)
    · exact .inl hsign
    · exact .inr (.inl ⟨_, hsign, _, hint, rfl⟩)
    · exact .inr (.inr (.inl ⟨_, hsign, _, ⟨_, hint, _, ⟨_, rfl, _, hw, rfl⟩, rfl⟩, rfl⟩))
    · exact .inr (.inr (.inr ⟨_, hsign, _, ⟨_, hint, _, ⟨_, hfrac, _,
        ⟨_, ⟨_, _, hu, hexp, rfl⟩, _, hw, rfl⟩, rfl⟩, rfl⟩, rfl⟩))

theorem digits_append_zero (hs : ∀ u ∈ s, isDigit u) : Digits (s ++ [0x30]) :=
  ⟨by simp, forall_mem_append.2 ⟨hs, all_eq_true.1 (by decide)⟩⟩

/-- What the second expression matches becomes a number. -/
theorem NumberStart.exists_number (h : NumberStart s) : ∃ t, Number (s ++ t) := by
  cases h with
  | sign hsign => exact ⟨[0x30], by simpa using Number.parts hsign .zero .none .none⟩
  | @int sign int hsign hint => exact ⟨[], by simpa using Number.parts hsign hint .none .none⟩
  | @frac sign int s hsign hint hs =>
    exact ⟨[0x30], by
      simpa using Number.parts hsign hint (.digits (digits_append_zero hs)) .none⟩
  | @exp sign int frac expSign s u hsign hint hfrac hu hexp hs =>
    exact ⟨[0x30], by
      simpa using Number.parts hsign hint hfrac (.digits hu hexp (digits_append_zero hs))⟩

/-- A number that is cut in its sign. -/
theorem sign_of_append (h : Sign (s ++ t)) : Sign s := by
  rcases s with _ | ⟨u, s⟩
  · exact .none
  · generalize hv : u :: s ++ t = v at h
    cases h with
    | none => simp at hv
    | minus =>
      obtain ⟨rfl, hnil⟩ := cons.inj hv
      obtain ⟨rfl, _⟩ := append_eq_nil_iff.1 hnil
      exact .minus

theorem intPart_of_append (h : IntPart (s ++ t)) : s = [] ∨ IntPart s := by
  rcases s with _ | ⟨u, s⟩
  · exact .inl rfl
  · generalize hv : u :: s ++ t = v at h
    cases h with
    | zero =>
      obtain ⟨rfl, hnil⟩ := cons.inj hv
      obtain ⟨rfl, _⟩ := append_eq_nil_iff.1 hnil
      exact .inr .zero
    | digits hu hs =>
      obtain ⟨rfl, rfl⟩ := cons.inj hv
      exact .inr (.digits hu (forall_mem_append.1 hs).1)

theorem frac_of_append (h : Frac (s ++ t)) :
    s = [] ∨ ∃ w, s = decimalPoint :: w ∧ ∀ u ∈ w, isDigit u := by
  rcases s with _ | ⟨u, s⟩
  · exact .inl rfl
  · generalize hv : u :: s ++ t = v at h
    cases h with
    | none => simp at hv
    | digits hs =>
      obtain ⟨rfl, rfl⟩ := cons.inj hv
      exact .inr ⟨s, rfl, (forall_mem_append.1 hs.all).1⟩

theorem expSign_of_append (h : ExpSign (s ++ t)) : ExpSign s := by
  rcases s with _ | ⟨u, s⟩
  · exact .none
  · generalize hv : u :: s ++ t = v at h
    cases h with
    | none => simp at hv
    | minus =>
      obtain ⟨rfl, hnil⟩ := cons.inj hv
      obtain ⟨rfl, _⟩ := append_eq_nil_iff.1 hnil
      exact .minus
    | plus =>
      obtain ⟨rfl, hnil⟩ := cons.inj hv
      obtain ⟨rfl, _⟩ := append_eq_nil_iff.1 hnil
      exact .plus

theorem exp_of_append (h : Exp (s ++ t)) :
    s = [] ∨ ∃ u sign w, isExponentMark u ∧ ExpSign sign ∧ (∀ u ∈ w, isDigit u) ∧
      s = u :: (sign ++ w) := by
  rcases s with _ | ⟨u, s⟩
  · exact .inl rfl
  · generalize hv : u :: s ++ t = v at h
    cases h with
    | none => simp at hv
    | @digits _ sign w hu hsign hw =>
      obtain ⟨rfl, hs⟩ := cons.inj hv
      rcases append_eq_append_iff.1 hs with ⟨rest, hsign', _⟩ | ⟨rest, rfl, hw'⟩
      · rw [hsign'] at hsign
        exact .inr ⟨u, s, [], hu, expSign_of_append hsign, by simp, by simp⟩
      · rw [hw'] at hw
        exact .inr ⟨u, sign, rest, hu, hsign, (forall_mem_append.1 hw.all).1, rfl⟩

/-- **A number that is cut is cut in one of its parts.** -/
theorem number_of_append (h : Number (s ++ t)) : Number s ∨ NumberStart s := by
  generalize hv : s ++ t = v at h
  obtain @⟨sign, int, frac, exp, hsign, hint, hfrac, hexp⟩ := h
  rcases append_eq_append_iff.1 hv with ⟨rest, rfl, _⟩ | ⟨s₁, rfl, hs₁⟩
  · exact .inr (.sign (sign_of_append hsign))
  rcases append_eq_append_iff.1 hs₁.symm with ⟨rest, rfl, _⟩ | ⟨s₂, rfl, hs₂⟩
  · rcases intPart_of_append hint with rfl | hint
    · exact .inr (.sign (by simpa using hsign))
    · exact .inr (.int hsign hint)
  rcases append_eq_append_iff.1 hs₂.symm with ⟨rest, rfl, _⟩ | ⟨s₃, rfl, hs₃⟩
  · rcases frac_of_append hfrac with rfl | ⟨w, rfl, hw⟩
    · exact .inr (by simpa using NumberStart.int hsign hint)
    · exact .inr (.frac hsign hint hw)
  rw [hs₃] at hexp
  rcases exp_of_append hexp with rfl | ⟨u, expSign, w, hu, hexpSign, hw, rfl⟩
  · exact .inl (.parts hsign hint hfrac .none)
  · exact .inr (.exp hsign hint hfrac hu hexpSign hw)

theorem isNumberCharacter_of_isDigit {u : UInt16} (h : isDigit u) : isNumberCharacter u := by
  have hclass : lit "0123456789eE+.-" = lit "0123456789" ++ lit "eE+.-" := by decide
  rw [isNumberCharacter, hclass]
  exact decide_eq_true (mem_append_left _ ((mem_digits_iff u).2 h))

theorem isNumberCharacter_of_mem (h : Number s) : ∀ u ∈ s, isNumberCharacter u := by
  obtain @⟨sign, int, frac, exp, hsign, hint, hfrac, hexp⟩ := h
  have hsignCharacters : ∀ u ∈ sign, isNumberCharacter u := by
    cases hsign with
    | none => simp
    | minus => exact all_eq_true.1 (by decide)
  have hintCharacters : ∀ u ∈ int, isNumberCharacter u := by
    cases hint with
    | zero => exact all_eq_true.1 (by decide)
    | digits hu hs =>
      refine forall_mem_cons.2 ⟨?_, fun u hu => isNumberCharacter_of_isDigit (hs u hu)⟩
      have hclass : lit "0123456789eE+.-" = [0x30] ++ (lit "123456789" ++ lit "eE+.-") := by decide
      rw [isNumberCharacter, hclass]
      exact decide_eq_true (mem_append_right _
        (mem_append_left _ ((mem_digitsOneToNine_iff _).2 hu)))
  have hfracCharacters : ∀ u ∈ frac, isNumberCharacter u := by
    cases hfrac with
    | none => simp
    | digits hs =>
      exact forall_mem_cons.2 ⟨by decide, fun u hu =>
        isNumberCharacter_of_isDigit (hs.all u hu)⟩
  have hexpCharacters : ∀ u ∈ exp, isNumberCharacter u := by
    cases hexp with
    | none => simp
    | digits hu hsign hs =>
      refine forall_mem_cons.2 ⟨?_, forall_mem_append.2 ⟨?_, fun u hu =>
        isNumberCharacter_of_isDigit (hs.all u hu)⟩⟩
      · rcases mem_pair.1 ((mem_exponentMark_iff _).2 hu) with rfl | rfl <;> decide
      · cases hsign with
        | none => simp
        | minus => exact all_eq_true.1 (by decide)
        | plus => exact all_eq_true.1 (by decide)
  exact forall_mem_append.2 ⟨hsignCharacters, forall_mem_append.2 ⟨hintCharacters,
    forall_mem_append.2 ⟨hfracCharacters, hexpCharacters⟩⟩⟩

/-- **A number is read** as far as its characters go. -/
theorem reads_number (s : JsString) :
    Reads Number (fun u => ¬ isNumberCharacter u) s (number s) := by
  have hsplit := takeWhile_append_dropWhile (p := isNumberCharacter) (l := s)
  refine ⟨?_, ?_, ?_, ?_, ?_⟩
  · rintro v r rfl hv hr
    have hcharacters := isNumberCharacter_of_mem hv
    simp only [number, takeWhile_append_behind hcharacters hr,
      dropWhile_append_behind hcharacters hr, if_pos (complete_rmatch.2 hv)]
  · intro r hok
    simp only [number] at hok
    split at hok
    · next hcomplete =>
      cases hok
      exact ⟨_, complete_rmatch.1 hcomplete, hsplit.symm⟩
    · split at hok <;> cases hok
  · intro hshort
    simp only [number] at hshort
    split at hshort
    · cases hshort
    · split at hshort
      · next hviable =>
        rw [hviable.1, append_nil] at hsplit
        rw [hsplit] at hviable
        exact (viable_rmatch.1 hviable.2).exists_number
      · cases hshort
  · intro r t v r' hok hne hs hv hr
    simp only [number] at hok
    split at hok
    · cases hok
      rw [← dropWhile_append_behind (isNumberCharacter_of_mem hv) hr, ← hs,
        dropWhile_append_of_ne_nil hne]
    · split at hok <;> cases hok
  · intro t v r hbad hs hv hr
    have htoken : (s ++ t).takeWhile isNumberCharacter = v := by
      rw [hs, takeWhile_append_behind (isNumberCharacter_of_mem hv) hr]
    simp only [number] at hbad
    split at hbad
    · cases hbad
    · next hcomplete =>
      split at hbad
      · cases hbad
      · next hviable =>
        by_cases hrest : s.dropWhile isNumberCharacter = []
        · -- the number has not ended, and cannot
          rw [hrest, append_nil] at hsplit
          rw [hsplit] at hcomplete hviable
          have hall : ∀ u ∈ s, isNumberCharacter u := by
            rw [← hsplit]
            exact fun u hu => mem_takeWhile_imp hu
          rw [takeWhile_append_of_pos hall] at htoken
          rw [← htoken] at hv
          rcases number_of_append hv with hnumber | hstart
          · exact hcomplete (complete_rmatch.2 hnumber)
          · exact hviable ⟨hrest, viable_rmatch.2 hstart⟩
        · rw [takeWhile_append_of_ne_nil hrest] at htoken
          exact hcomplete (complete_rmatch.2 (htoken ▸ hv))

end Numbers

/-! ## Strings and literals are read -/

section Strings

open JsonGrammar

variable {s v : JsString} {u : UInt16}

/-- Any symbol may follow. -/
abbrev Any : UInt16 → Prop := fun _ => True

/-- **White space is read.** -/
theorem reads_skip (s : JsString) : Reads Ws (fun u => ¬ isWhitespace u) s (.ok (skip s)) := by
  have hclass : whitespace = isWhitespace :=
    funext fun u => Bool.eq_iff_iff.2 (whitespace_iff u)
  rw [skip, hclass]
  exact reads_dropWhile isWhitespace s

theorem reads_hexDigits (count : ℕ) (s : JsString) :
    Reads (HexDigits count) Any s (hexDigits count s) := by
  induction count generalizing s with
  | zero =>
    refine Reads.done fun v => ⟨fun hv => eq_nil_of_length_eq_zero hv.length_eq, ?_⟩
    rintro rfl
    exact ⟨rfl, by simp⟩
  | succ count ih =>
    have hnil : ¬ HexDigits (count + 1) [] := fun h => by cases h.length_eq
    cases s with
    | nil => exact Reads.nil ⟨replicate (count + 1) 0x30, by simp,
        fun u hu => eq_of_mem_replicate hu ▸ by decide⟩ hnil
    | cons u s =>
      show Reads _ _ _ (if hex u then hexDigits count s else .error .malformed)
      split
      · next hhex =>
        refine Reads.cons (ih s) (fun v => ?_) hnil
        constructor
        · rintro ⟨hlength, hall⟩
          exact ⟨Nat.succ.inj hlength, (forall_mem_cons.1 hall).2⟩
        · rintro ⟨hlength, hall⟩
          exact ⟨congrArg Nat.succ hlength, forall_mem_cons.2 ⟨hhex, hall⟩⟩
      · next hhex =>
        exact Reads.cons_dead (fun v hv => hhex (hv.all u (.head _))) hnil

theorem not_characters_nil : ¬ Characters [] := by
  rintro ⟨⟩

theorem not_characters_reverseSolidus : ¬ Characters [reverseSolidus] := by
  intro h
  generalize hs : [reverseSolidus] = s at h
  cases h with
  | close => exact absurd hs (by decide)
  | unescaped hu hrest =>
    obtain ⟨rfl, rfl⟩ := cons.inj hs
    exact not_characters_nil hrest
  | escape hu hrest => simp at hs
  | unicode hdigits hrest => simp at hs

theorem characters_quotationMark : Characters (quotationMark :: v) ↔ v = [] := by
  constructor
  · intro h
    generalize hs : quotationMark :: v = s at h
    cases h with
    | close => exact (cons.inj hs).2
    | unescaped hu _ =>
      obtain ⟨rfl, _⟩ := cons.inj hs
      exact absurd hu (by decide)
    | escape => exact absurd (cons.inj hs).1 (by decide)
    | unicode => exact absurd (cons.inj hs).1 (by decide)
  · rintro rfl
    exact .close

theorem characters_unicode : Characters (reverseSolidus :: 0x75 :: v) ↔
    Concat (HexDigits 4) Characters v := by
  constructor
  · intro h
    generalize hs : reverseSolidus :: 0x75 :: v = s at h
    cases h with
    | close => simp at hs
    | unescaped hu _ =>
      obtain ⟨rfl, _⟩ := cons.inj hs
      exact absurd hu (by decide)
    | escape hu _ =>
      obtain ⟨_, hs⟩ := cons.inj hs
      obtain ⟨rfl, _⟩ := cons.inj hs
      exact absurd hu (by decide)
    | unicode hdigits hrest =>
      obtain ⟨_, hs⟩ := cons.inj hs
      exact ⟨_, _, hdigits, hrest, (cons.inj hs).2⟩
  · rintro ⟨digits, rest, hdigits, hrest, rfl⟩
    exact .unicode hdigits hrest

theorem characters_escape (hu : u ≠ 0x75) :
    Characters (reverseSolidus :: u :: v) ↔ isEscape u ∧ Characters v := by
  constructor
  · intro h
    generalize hs : reverseSolidus :: u :: v = s at h
    cases h with
    | close => simp at hs
    | unescaped hu _ =>
      obtain ⟨rfl, _⟩ := cons.inj hs
      exact absurd hu (by decide)
    | escape hescape hrest =>
      obtain ⟨_, hs⟩ := cons.inj hs
      obtain ⟨rfl, rfl⟩ := cons.inj hs
      exact ⟨hescape, hrest⟩
    | unicode =>
      obtain ⟨_, hs⟩ := cons.inj hs
      exact absurd (cons.inj hs).1 hu
  · rintro ⟨hescape, hrest⟩
    exact .escape hescape hrest

theorem characters_unescaped (hquote : u ≠ quotationMark) (hsolidus : u ≠ reverseSolidus) :
    Characters (u :: v) ↔ ¬ u < 0x20 ∧ Characters v := by
  constructor
  · intro h
    generalize hs : u :: v = s at h
    cases h with
    | close => exact absurd (cons.inj hs).1 hquote
    | unescaped hu hrest =>
      obtain ⟨rfl, rfl⟩ := cons.inj hs
      simp only [isUnescaped, Bool.and_eq_true, decide_eq_true_eq] at hu
      exact ⟨UInt16.not_lt.2 hu.1.1, hrest⟩
    | escape => exact absurd (cons.inj hs).1 hsolidus
    | unicode => exact absurd (cons.inj hs).1 hsolidus
  · rintro ⟨hu, hrest⟩
    exact .unescaped (by simp [isUnescaped, UInt16.not_lt.1 hu, hquote, hsolidus]) hrest

/-- **The characters of a string are read.** -/
theorem reads_characters (fuel : ℕ) (s : JsString) (hfuel : s.length < fuel) :
    Reads Characters Any s (characters fuel s) := by
  induction fuel generalizing s with
  | zero => cases hfuel
  | succ fuel ih =>
    rcases s with _ | ⟨u, s⟩
    · exact Reads.nil ⟨_, .close⟩ not_characters_nil
    have hlength : s.length < fuel := Nat.lt_of_succ_lt_succ hfuel
    show Reads _ _ _ (if u = 0x22 then .ok s
      else if u = 0x5C then take s >>= fun taken =>
        if taken.1 = 0x75 then hexDigits 4 taken.2 >>= characters fuel
        else if taken.1 ∈ ESCAPES then characters fuel taken.2
        else .error .malformed
      else if u < 0x20 then .error .malformed
      else characters fuel s)
    split
    · next hquote =>
      rw [hquote]
      exact Reads.cons (Reads.done fun v => Iff.rfl) (fun v => characters_quotationMark)
        not_characters_nil
    · next hquote =>
      split
      · next hsolidus =>
        rw [hsolidus]
        refine Reads.cons (?_ : Reads (fun v => Characters (reverseSolidus :: v)) _ _ _)
          (fun v => Iff.rfl) not_characters_nil
        rcases s with _ | ⟨u, s⟩
        · exact Reads.nil ⟨_, Characters.escape (u := 0x6E) (by decide) .close⟩
            not_characters_reverseSolidus
        have hlength : s.length < fuel := Nat.lt_of_succ_lt hlength
        show Reads _ _ _ (if u = 0x75 then hexDigits 4 s >>= characters fuel
          else if u ∈ ESCAPES then characters fuel s else .error .malformed)
        split
        · next hunicode =>
          rw [hunicode]
          refine Reads.cons ?_ (fun v => characters_unicode) not_characters_reverseSolidus
          refine Reads.bind _ (reads_hexDigits 4 s) (fun v r _ hs _ => ih r ?_)
            (fun w r _ _ => fun _ _ => trivial) ⟨_, .close⟩ ?_
          · rw [hs, length_append] at hlength
            omega
          · obtain ⟨fuel, rfl⟩ := Nat.exists_eq_succ_of_ne_zero (Nat.ne_zero_of_lt hlength)
            simp [characters, take, bind, Except.bind]
        · next hunicode =>
          split
          · next hescape =>
            refine Reads.cons (ih s hlength) (fun v => ?_) not_characters_reverseSolidus
            rw [characters_escape hunicode, and_iff_right ((mem_ESCAPES_iff u).1 hescape)]
          · next hescape =>
            refine Reads.cons_dead (fun v hv => ?_) not_characters_reverseSolidus
            exact hescape ((mem_ESCAPES_iff u).2 ((characters_escape hunicode).1 hv).1)
      · next hsolidus =>
        split
        · next hcontrol =>
          refine Reads.cons_dead (fun v hv => ?_) not_characters_nil
          exact ((characters_unescaped hquote hsolidus).1 hv).1 hcontrol
        · next hcontrol =>
          refine Reads.cons (ih s hlength) (fun v => ?_) not_characters_nil
          rw [characters_unescaped hquote hsolidus, and_iff_right hcontrol]

theorem str_cons : Str (u :: v) ↔ u = quotationMark ∧ Characters v := by
  constructor
  · rintro ⟨hv⟩
    exact ⟨rfl, hv⟩
  · rintro ⟨rfl, hv⟩
    exact .quote hv

theorem not_str_nil : ¬ Str [] := by
  rintro ⟨⟩

theorem exists_str : ∃ s, Str s := ⟨_, .quote .close⟩

/-- **A string is read.** -/
theorem reads_string (s : JsString) : Reads Str Any s (string s) := by
  rcases s with _ | ⟨u, s⟩
  · exact Reads.nil exists_str not_str_nil
  show Reads _ _ _ (if u = 0x22 then characters (s.length + 1) s else .error .malformed)
  split
  · next hquote =>
    refine Reads.cons (reads_characters _ s (Nat.lt_succ_self _)) (fun v => ?_) not_str_nil
    rw [str_cons, and_iff_right hquote]
  · next hquote =>
    exact Reads.cons_dead (fun v hv => hquote (str_cons.1 hv).1) not_str_nil

theorem reads_literal (expected s : JsString) :
    Reads (fun v => v = expected) Any s (literal expected s) := by
  induction expected generalizing s with
  | nil => exact Reads.done fun v => Iff.rfl
  | cons c expected ih =>
    have hnil : ¬ [] = c :: expected := by simp
    rcases s with _ | ⟨u, s⟩
    · exact Reads.nil ⟨_, rfl⟩ hnil
    show Reads _ _ _ (if u = c then literal expected s else .error .malformed)
    split
    · next hsame =>
      refine Reads.cons (ih s) (fun v => ?_) hnil
      rw [hsame, cons_inj_right]
    · next hne =>
      exact Reads.cons_dead (fun v hv => hne (cons.inj hv).1) hnil

end Strings

/-! ## Arrays and objects are read -/

section Items

open JsonGrammar

variable {Item : JsString → Prop} {close : UInt16} {item : JsString → Except Abort JsString}
  {follow : UInt16 → Prop} {size : ℕ} {s v : JsString} {u : UInt16}

theorem behind_skip (s : JsString) : Behind (fun u => ¬ isWhitespace u) (skip s) := by
  intro u hu
  rw [← whitespace_iff]
  exact behind_dropWhile whitespace s u hu

theorem length_skip_le (s : JsString) : (skip s).length ≤ s.length :=
  (dropWhile_suffix whitespace).length_le

theorem ws_nil : Ws [] := by simp [Ws]

/-- What stands behind an item and its white space. -/
def Delimited (Item : JsString → Prop) (close : UInt16) (b : JsString) : Prop :=
  b = [close] ∨ ∃ rest, Concat Ws (Items Item close) rest ∧ b = comma :: rest

theorem items_iff : Items Item close s ↔ Concat Item (Concat Ws (Delimited Item close)) s := by
  constructor
  · rintro (⟨hitem, hw⟩ | ⟨hitem, hw, hw', hrest⟩)
    · exact ⟨_, _, hitem, ⟨_, _, hw, .inl rfl, rfl⟩, rfl⟩
    · exact ⟨_, _, hitem, ⟨_, _, hw, .inr ⟨_, ⟨_, _, hw', hrest, rfl⟩, rfl⟩, rfl⟩, rfl⟩
  · rintro ⟨_, _, hitem, ⟨_, _, hw, rfl | ⟨_, ⟨_, _, hw', hrest, rfl⟩, rfl⟩, rfl⟩, rfl⟩
    · exact .last hitem hw
    · exact .more hitem hw hw' hrest

theorem enclosed_iff :
    Enclosed Item close s ↔ Concat Ws (fun b => b = [close] ∨ Items Item close b) s := by
  constructor
  · rintro (hw | ⟨hw, hrest⟩)
    · exact ⟨_, _, hw, .inl rfl, rfl⟩
    · exact ⟨_, _, hw, .inr hrest, rfl⟩
  · rintro ⟨_, _, hw, rfl | hrest, rfl⟩
    · exact .empty hw
    · exact .items hw hrest

theorem head_of_delimited {b r : JsString} (h : Delimited Item close b) :
    ∀ u ∈ (b ++ r).head?, u = close ∨ u = comma := by
  intro u hu
  rcases h with rfl | ⟨rest, _, rfl⟩
  · cases hu
    exact .inl rfl
  · cases hu
    exact .inr rfl

theorem not_delimited_nil : ¬ Delimited Item close [] := by
  rintro (hnil | ⟨_, _, hnil⟩) <;> cases hnil

theorem delimited_close (hne : close ≠ comma) : Delimited Item close (close :: v) ↔ v = [] := by
  constructor
  · rintro (hv | ⟨rest, _, hv⟩)
    · exact (cons.inj hv).2
    · exact absurd (cons.inj hv).1 hne
  · rintro rfl
    exact .inl rfl

theorem delimited_comma (hne : close ≠ comma) :
    Delimited Item close (comma :: v) ↔ Concat Ws (Items Item close) v := by
  constructor
  · rintro (hv | ⟨rest, hrest, hv⟩)
    · exact absurd (cons.inj hv).1.symm hne
    · rwa [(cons.inj hv).2]
  · exact fun hv => .inr ⟨v, hv, rfl⟩

/-- A reader of the items of an array or of an object, on texts of less than a size. -/
structure ReadsItems (Item : JsString → Prop) (close : UInt16) (follow : UInt16 → Prop) (size : ℕ)
    (item : JsString → Except Abort JsString) : Prop where
  reads : ∀ s, s.length < size → Behind (fun u => ¬ isWhitespace u) s → Reads Item follow s (item s)
  exists_item : ∃ s, Item s
  item_head : ∀ s, Item s → ∃ u ∈ s.head?, ¬ isWhitespace u ∧ u ≠ close
  close_ne : ¬ isWhitespace close ∧ close ≠ comma
  follows : ∀ u, isWhitespace u ∨ u = close ∨ u = comma → follow u

namespace ReadsItems

section
variable (h : ReadsItems Item close follow size item)
include h

theorem items_head (hs : Items Item close s) : ∃ u ∈ s.head?, ¬ isWhitespace u ∧ u ≠ close := by
  obtain ⟨v, w, hv, _, rfl⟩ := items_iff.1 hs
  obtain ⟨u, hu, hne⟩ := h.item_head v hv
  refine ⟨u, ?_, hne⟩
  rw [head?_append, Option.mem_def.1 hu]
  rfl

theorem exists_items : ∃ s, Items Item close s := by
  obtain ⟨s, hs⟩ := h.exists_item
  exact ⟨_, .last hs ws_nil⟩

/-- **The items are read,** up to what closes them. -/
theorem reads_separated (fuel : ℕ) (s : JsString)
    (hfuel : s.length < fuel) (hsize : s.length < size)
    (hbehind : Behind (fun u => ¬ isWhitespace u) s) :
    Reads (Items Item close) Any s (separated item close fuel s) := by
  induction fuel generalizing s with
  | zero => cases hfuel
  | succ fuel ih =>
    refine Reads.congr ?_ fun v => items_iff
    refine Reads.bind _ (h.reads s hsize hbehind) (fun v r hv hs _ => ?_) (fun w r hw _ => ?_) ?_ ?_
    · refine Reads.bind (fun r => take r >>= fun taken =>
          if taken.1 = close then .ok taken.2
          else if taken.1 = 0x2C then separated item close fuel (skip taken.2)
          else .error .malformed) (reads_skip r) (fun w r' hw hr _ => ?_)
        (fun w r hw _ u hu => ?_) ⟨_, .inl rfl⟩ ?_
      · rcases r' with _ | ⟨u, rest⟩
        · exact Reads.nil ⟨_, .inl rfl⟩ not_delimited_nil
        show Reads _ _ _ (if u = close then .ok rest
          else if u = 0x2C then separated item close fuel (skip rest) else .error .malformed)
        split
        · next hclose =>
          rw [hclose]
          exact Reads.cons (Reads.done fun v => Iff.rfl)
            (fun v => delimited_close h.close_ne.2) not_delimited_nil
        · next hclose =>
          split
          · next hcomma =>
            rw [hcomma]
            refine Reads.cons ?_ (fun v => delimited_comma h.close_ne.2) not_delimited_nil
            refine Reads.bind (separated item close fuel) (reads_skip rest)
              (fun w r'' hw hrest hok => ?_) (fun w r hw _ => ?_) h.exists_items ?_
            · cases hok
              have hlength := length_skip_le rest
              rw [hs, length_append, hr, length_append, length_cons] at hfuel hsize
              exact ih _ (by omega) (by omega) (behind_skip rest)
            · obtain ⟨u, hu, hnot, _⟩ := h.items_head hw
              intro v hv
              rw [head?_append, Option.mem_def.1 hu] at hv
              cases hv
              exact hnot
            · rw [hs, length_append, hr, length_append, length_cons] at hfuel hsize
              exact (ih [] (by rw [length_nil]; omega) (by rw [length_nil]; omega)
                behind_nil).nil_ne_malformed h.exists_items
          · next hcomma =>
            refine Reads.cons_dead (fun v hv => ?_) not_delimited_nil
            rcases hv with hv | ⟨rest, _, hv⟩
            · exact hclose (cons.inj hv).1
            · exact hcomma (cons.inj hv).1
      · rcases head_of_delimited hw u hu with rfl | rfl
        · exact h.close_ne.1
        · decide
      · simp [take, bind, Except.bind]
    · obtain ⟨w, b, hw, hb, rfl⟩ := hw
      intro u hu
      rcases w with _ | ⟨v, w⟩
      · exact h.follows u (.inr (head_of_delimited hb u hu))
      · cases hu
        exact h.follows _ (.inl (hw _ (.head _)))
    · exact ⟨_, [], [close], ws_nil, .inl rfl, rfl⟩
    · simp [skip, take, bind, Except.bind]

/-- **What stands behind the bracket is read.** -/
theorem reads_enclosed (s : JsString)
    (hsize : s.length < size) : Reads (Enclosed Item close) Any s (enclosed item close s) := by
  have hnil : ¬ ([] = [close] ∨ Items Item close []) := by
    rintro (hnil | hitems)
    · cases hnil
    · obtain ⟨u, hu, _⟩ := h.items_head hitems
      cases hu
  refine Reads.congr ?_ fun v => enclosed_iff
  refine Reads.bind (fun r => take r >>= fun taken =>
      if taken.1 = close then .ok taken.2
      else separated item close (taken.2.length + 2) (taken.1 :: taken.2)) (reads_skip s)
    (fun w r hw hs hok => ?_) (fun w r hw _ u hu => ?_) ⟨_, .inl rfl⟩ ?_
  · have hbehind : Behind (fun u => ¬ isWhitespace u) r := by
      cases hok
      exact behind_skip s
    rcases r with _ | ⟨u, rest⟩
    · exact Reads.nil ⟨_, .inl rfl⟩ hnil
    show Reads _ _ _ (if u = close then .ok rest
      else separated item close (rest.length + 2) (u :: rest))
    split
    · next hclose =>
      rw [hclose]
      refine Reads.cons (Reads.done fun v => Iff.rfl) (fun v => ?_) hnil
      constructor
      · rintro (hv | hitems)
        · exact (cons.inj hv).2
        · obtain ⟨u, hu, _, hne⟩ := h.items_head hitems
          cases hu
          exact absurd rfl hne
      · rintro rfl
        exact .inl rfl
    · next hclose =>
      rw [hs, length_append] at hsize
      refine Reads.of_head (h.reads_separated _ _ (Nat.lt_succ_self _)
        (by omega) hbehind) (fun v => ?_) hnil fun hitems => hnil (.inr hitems)
      constructor
      · rintro (hv | hitems)
        · exact absurd (cons.inj hv).1 hclose
        · exact hitems
      · exact .inr
  · rcases hw with rfl | hitems
    · cases hu
      exact h.close_ne.1
    · obtain ⟨v, hv, hnot, _⟩ := h.items_head hitems
      rw [head?_append, Option.mem_def.1 hv] at hu
      cases hu
      exact hnot
  · simp [take, bind, Except.bind]

end

end ReadsItems

/-! ## Values are read -/

/-- What may stand behind a value. -/
abbrev NoNumber : UInt16 → Prop := fun u => ¬ isNumberCharacter u

/-- The first unit of a value. -/
theorem number_head (h : Number s) : ∃ u ∈ s.head?, u = minus ∨ isDigit u := by
  obtain @⟨sign, int, frac, exp, hsign, hint, _, _⟩ := h
  cases hsign with
  | minus => exact ⟨minus, rfl, .inl rfl⟩
  | none =>
    cases hint with
    | zero => exact ⟨0x30, rfl, .inr (by decide)⟩
    | @digits u _ hu _ =>
      refine ⟨u, rfl, .inr ?_⟩
      have hclass : lit "0123456789" = [0x30] ++ lit "123456789" := by decide
      rw [← mem_digits_iff, hclass]
      exact mem_append_right _ ((mem_digitsOneToNine_iff u).2 hu)

theorem value_cons : Value (u :: v) ↔
    (u = leftBrace ∧ Enclosed (Member Value) rightBrace v) ∨
    (u = leftBracket ∧ Enclosed Value rightBracket v) ∨
    u :: v = lit "true" ∨ u :: v = lit "false" ∨ u :: v = lit "null" ∨
    Number (u :: v) ∨ Str (u :: v) := by
  constructor
  · intro h
    generalize hs : u :: v = s at h
    cases h with
    | false => tauto
    | null => tauto
    | true => tauto
    | object hrest =>
      obtain ⟨rfl, rfl⟩ := cons.inj hs
      exact .inl ⟨rfl, hrest⟩
    | array hrest =>
      obtain ⟨rfl, rfl⟩ := cons.inj hs
      exact .inr (.inl ⟨rfl, hrest⟩)
    | number h => tauto
    | string h => tauto
  · rintro (⟨rfl, h⟩ | ⟨rfl, h⟩ | h | h | h | h | h)
    · exact .object h
    · exact .array h
    · exact h ▸ .true
    · exact h ▸ .false
    · exact h ▸ .null
    · exact .number h
    · exact .string h

theorem not_value_nil : ¬ Value [] := by
  intro h
  generalize hs : [] = s at h
  cases h with
  | false => exact absurd hs (by decide)
  | null => exact absurd hs (by decide)
  | true => exact absurd hs (by decide)
  | object => cases hs
  | array => cases hs
  | number h =>
    obtain ⟨u, hu, _⟩ := number_head h
    rw [← hs] at hu
    cases hu
  | string h => exact not_str_nil (hs ▸ h)

theorem number_cons (h : Number (u :: v)) : u = 0x2D ∨ u ∈ lit "0123456789" := by
  obtain ⟨w, hw, hhead⟩ := number_head h
  cases hw
  rwa [← mem_digits_iff] at hhead

theorem skip_eq (h : Behind (fun u => ¬ isWhitespace u) s) : skip s = s := by
  rcases s with _ | ⟨u, s⟩
  · rfl
  · exact dropWhile_cons_of_neg fun hu => h u rfl ((whitespace_iff u).1 hu)

theorem exists_value : ∃ s, Value s := ⟨_, .null⟩

/-- The first character of a value tells what it is. -/
theorem value_eq_of_behind (fuel : ℕ) (h : Behind (fun u => ¬ isWhitespace u) (u :: s)) :
    value (fuel + 1) (u :: s) =
      if u = 0x22 then string (u :: s)
      else if u = 0x7B then object (value fuel) s
      else if u = 0x5B then array (value fuel) s
      else if u = 0x74 then literal (lit "true") (u :: s)
      else if u = 0x66 then literal (lit "false") (u :: s)
      else if u = 0x6E then literal (lit "null") (u :: s)
      else if u = 0x2D ∨ u ∈ lit "0123456789" then number (u :: s)
      else .error .malformed := by
  rw [value, skip_eq h]
  rfl

theorem value_skip (fuel : ℕ) (s : JsString) : value fuel (skip s) = value fuel s := by
  cases fuel with
  | zero => rfl
  | succ fuel => rw [value, value, skip_eq (behind_skip s)]

/-- What a value begins with, but for its literals. -/
theorem value_head (h : Value (u :: v)) :
    u = 0x22 ∨ u = 0x7B ∨ u = 0x5B ∨ u = 0x74 ∨ u = 0x66 ∨ u = 0x6E ∨
      (u = 0x2D ∨ u ∈ lit "0123456789") := by
  have htrue : lit "true" = [0x74, 0x72, 0x75, 0x65] := by decide
  have hfalse : lit "false" = [0x66, 0x61, 0x6C, 0x73, 0x65] := by decide
  have hnull : lit "null" = [0x6E, 0x75, 0x6C, 0x6C] := by decide
  rw [value_cons, htrue, hfalse, hnull, str_cons] at h
  rcases h with ⟨rfl, _⟩ | ⟨rfl, _⟩ | h | h | h | h | ⟨rfl, _⟩
  · exact .inr (.inl rfl)
  · exact .inr (.inr (.inl rfl))
  · exact .inr (.inr (.inr (.inl (cons.inj h).1)))
  · exact .inr (.inr (.inr (.inr (.inl (cons.inj h).1))))
  · exact .inr (.inr (.inr (.inr (.inr (.inl (cons.inj h).1)))))
  · exact .inr (.inr (.inr (.inr (.inr (.inr (number_cons h))))))
  · exact .inl rfl

/-- No value begins as white space does, or with what closes an array. -/
theorem value_item_head (h : Value s) : ∃ u ∈ s.head?, ¬ isWhitespace u ∧ u ≠ rightBracket := by
  rcases s with _ | ⟨u, s⟩
  · exact absurd h not_value_nil
  refine ⟨u, rfl, ?_⟩
  rcases value_head h with rfl | rfl | rfl | rfl | rfl | rfl | rfl | hdigit
  any_goals decide
  have hall : ∀ v ∈ lit "0123456789", ¬ isWhitespace v ∧ v ≠ rightBracket :=
    all_iff_forall_prop.1 (by decide)
  exact hall u hdigit

/-- The words that a value may be, by its first character. -/
theorem reads_value_of_head {fuel : ℕ} (s : JsString)
    (hbehind : Behind (fun u => ¬ isWhitespace u) s)
    (hobject : ∀ rest, rest.length < s.length →
      Reads (Enclosed (Member Value) rightBrace) Any rest (object (value fuel) rest))
    (harray : ∀ rest, rest.length < s.length →
      Reads (Enclosed Value rightBracket) Any rest (array (value fuel) rest)) :
    Reads Value NoNumber s (value (fuel + 1) s) := by
  have htrue : lit "true" = [0x74, 0x72, 0x75, 0x65] := by decide
  have hfalse : lit "false" = [0x66, 0x61, 0x6C, 0x73, 0x65] := by decide
  have hnull : lit "null" = [0x6E, 0x75, 0x6C, 0x6C] := by decide
  rcases s with _ | ⟨u, s⟩
  · exact Reads.nil exists_value not_value_nil
  have hlength : s.length < (u :: s).length := Nat.lt_succ_self _
  rw [value_eq_of_behind fuel hbehind]
  split
  · next hquote =>
    rw [hquote]
    refine Reads.of_head ((reads_string _).strengthen fun _ _ => trivial) (fun v => ?_)
      not_value_nil not_str_nil
    have hnumber : ¬ Number (0x22 :: v) := fun h => absurd (number_cons h) (by decide)
    simp [value_cons, leftBrace, leftBracket, htrue, hfalse, hnull, hnumber]
  next hquote =>
  split
  · next hbrace =>
    rw [hbrace]
    refine Reads.cons ((hobject s hlength).strengthen fun _ _ => trivial) (fun v => ?_)
      not_value_nil
    have hnumber : ¬ Number (0x7B :: v) := fun h => absurd (number_cons h) (by decide)
    simp [value_cons, str_cons, leftBrace, leftBracket, quotationMark, htrue, hfalse, hnull,
      hnumber]
  next hbrace =>
  split
  · next hbracket =>
    rw [hbracket]
    refine Reads.cons ((harray s hlength).strengthen fun _ _ => trivial) (fun v => ?_) not_value_nil
    have hnumber : ¬ Number (0x5B :: v) := fun h => absurd (number_cons h) (by decide)
    simp [value_cons, str_cons, leftBrace, leftBracket, quotationMark, htrue, hfalse, hnull,
      hnumber]
  next hbracket =>
  split
  · next hfirst =>
    rw [hfirst]
    refine Reads.of_head ((reads_literal _ _).strengthen fun _ _ => trivial) (fun v => ?_)
      not_value_nil (by decide)
    have hnumber : ¬ Number (0x74 :: v) := fun h => absurd (number_cons h) (by decide)
    simp [value_cons, str_cons, leftBrace, leftBracket, quotationMark, htrue, hfalse, hnull,
      hnumber]
  next htfirst =>
  split
  · next hfirst =>
    rw [hfirst]
    refine Reads.of_head ((reads_literal _ _).strengthen fun _ _ => trivial) (fun v => ?_)
      not_value_nil (by decide)
    have hnumber : ¬ Number (0x66 :: v) := fun h => absurd (number_cons h) (by decide)
    simp [value_cons, str_cons, leftBrace, leftBracket, quotationMark, htrue, hfalse, hnull,
      hnumber]
  next hffirst =>
  split
  · next hfirst =>
    rw [hfirst]
    refine Reads.of_head ((reads_literal _ _).strengthen fun _ _ => trivial) (fun v => ?_)
      not_value_nil (by decide)
    have hnumber : ¬ Number (0x6E :: v) := fun h => absurd (number_cons h) (by decide)
    simp [value_cons, str_cons, leftBrace, leftBracket, quotationMark, htrue, hfalse, hnull,
      hnumber]
  next hnfirst =>
  split
  · next hnumber =>
    have hnil : ¬ Number [] := fun h => not_value_nil (.number h)
    refine Reads.of_head (reads_number _) (fun v => ?_) not_value_nil hnil
    simp [value_cons, str_cons, leftBrace, leftBracket, quotationMark, htrue, hfalse, hnull, hquote,
      hbrace, hbracket, htfirst, hffirst, hnfirst]
  · next hnumber =>
    refine Reads.cons_dead (fun v hv => ?_) not_value_nil
    rcases value_head hv with h | h | h | h | h | h | h
    · exact hquote h
    · exact hbrace h
    · exact hbracket h
    · exact htfirst h
    · exact hffirst h
    · exact hnfirst h
    · exact hnumber h

/-- What stands behind the key of a member and its white space. -/
def Valued (b : JsString) : Prop := ∃ rest, Concat Ws Value rest ∧ b = colon :: rest

theorem member_iff : Member Value s ↔ Concat Str (Concat Ws Valued) s := by
  constructor
  · rintro ⟨hkey, hw, hw', hvalue⟩
    exact ⟨_, _, hkey, ⟨_, _, hw, ⟨_, ⟨_, _, hw', hvalue, rfl⟩, rfl⟩, rfl⟩, rfl⟩
  · rintro ⟨_, _, hkey, ⟨_, _, hw, ⟨_, ⟨_, _, hw', hvalue, rfl⟩, rfl⟩, rfl⟩, rfl⟩
    exact .pair hkey hw hw' hvalue

theorem exists_valued : ∃ s, Valued s := ⟨_, _, ⟨_, _, ws_nil, .null, rfl⟩, rfl⟩

theorem exists_member : ∃ s, Member Value s := by
  obtain ⟨key, hkey⟩ := exists_str
  exact ⟨_, .pair hkey ws_nil ws_nil .null⟩

theorem not_valued_nil : ¬ Valued [] := by
  rintro ⟨_, _, hnil⟩
  cases hnil

theorem member_head (h : Member Value s) : ∃ u ∈ s.head?, ¬ isWhitespace u ∧ u ≠ rightBrace := by
  obtain ⟨_, _, hkey, _, rfl⟩ := member_iff.1 h
  cases hkey
  exact ⟨quotationMark, rfl, by decide⟩

/-- A reader of values with white space in front of them, on texts of less than a size. -/
def ReadsValues (size : ℕ) (value : JsString → Except Abort JsString) : Prop :=
  ∀ s, s.length < size → Reads (Concat Ws Value) NoNumber s (value s)

/-- **A member is read.** -/
theorem reads_member {value : JsString → Except Abort JsString} (hvalue : ReadsValues size value)
    (s : JsString) (hsize : s.length < size) :
    Reads (Member Value) NoNumber s (member value s) := by
  refine Reads.congr ?_ fun v => member_iff
  refine Reads.bind (fun rest => take (skip rest) >>= fun taken =>
      if taken.1 = 0x3A then value taken.2 else .error .malformed) (reads_string s)
    (fun v r _ hs _ => ?_) (fun _ _ _ _ _ _ => trivial) ?_ ?_
  · refine Reads.bind (fun r => take r >>= fun taken =>
        if taken.1 = 0x3A then value taken.2 else .error .malformed) (reads_skip r)
      (fun w r' _ hr _ => ?_) (fun w r hw _ u hu => ?_) exists_valued ?_
    · rcases r' with _ | ⟨u, rest⟩
      · exact Reads.nil exists_valued not_valued_nil
      show Reads _ _ _ (if u = 0x3A then value rest else .error .malformed)
      split
      · next hcolon =>
        rw [hs, length_append, hr, length_append, length_cons] at hsize
        rw [hcolon]
        refine Reads.cons (hvalue rest (by omega)) (fun v => ?_) not_valued_nil
        constructor
        · rintro ⟨_, hrest, hv⟩
          rwa [(cons.inj hv).2]
        · exact fun hrest => ⟨v, hrest, rfl⟩
      · next hcolon =>
        refine Reads.cons_dead (fun v hv => ?_) not_valued_nil
        obtain ⟨_, _, hv⟩ := hv
        exact hcolon (cons.inj hv).1
    · obtain ⟨_, _, rfl⟩ := hw
      cases hu
      decide
    · simp [take, bind, Except.bind]
  · obtain ⟨w, hw⟩ := exists_valued
    exact ⟨_, [], w, ws_nil, hw, rfl⟩
  · simp [skip, take, bind, Except.bind]

theorem noNumber_of_delimiter {close : UInt16} (hclose : NoNumber close) :
    ∀ u, isWhitespace u ∨ u = close ∨ u = comma → NoNumber u := by
  rintro u (hspace | rfl | rfl)
  · have hmem := (whitespace_iff u).2 hspace
    have hall : ∀ v ∈ lit " \n\r\t", NoNumber v := all_iff_forall_prop.1 (by decide)
    exact hall u (of_decide_eq_true hmem)
  · exact hclose
  · decide

theorem readsItems_member {value : JsString → Except Abort JsString}
    (hvalue : ReadsValues size value) :
    ReadsItems (Member Value) rightBrace NoNumber size (member value) where
  reads s hsize _ := reads_member hvalue s hsize
  exists_item := exists_member
  item_head _ := member_head
  close_ne := by decide
  follows := noNumber_of_delimiter (by decide)

theorem readsItems_value {value : JsString → Except Abort JsString}
    (hvalue : ∀ s, s.length < size → Behind (fun u => ¬ isWhitespace u) s →
      Reads Value NoNumber s (value s)) :
    ReadsItems Value rightBracket NoNumber size value where
  reads := hvalue
  exists_item := exists_value
  item_head _ := value_item_head
  close_ne := by decide
  follows := noNumber_of_delimiter (by decide)

/-- White space is skipped in front of a value. -/
theorem readsValues_of_reads {fuel : ℕ} (hfuel : 0 < fuel)
    (h : ∀ s, s.length < fuel → Behind (fun u => ¬ isWhitespace u) s →
      Reads Value NoNumber s (value fuel s)) :
    ReadsValues fuel (value fuel) := by
  intro s hsize
  rw [← value_skip]
  refine Reads.bind (value fuel) (reads_skip s) (fun w r _ hs hok => ?_)
    (fun w r hw _ u hu => ?_) exists_value ((h [] hfuel behind_nil).nil_ne_malformed exists_value)
  · rw [hs, length_append] at hsize
    cases hok
    exact h _ (by omega) (behind_skip s)
  · obtain ⟨v, hv, hnot, _⟩ := value_item_head hw
    rw [head?_append, Option.mem_def.1 hv] at hu
    cases hu
    exact hnot

/-- **A value is read,** by induction on its depth: what is inside of it is shorter. -/
theorem reads_value (fuel : ℕ) (s : JsString) (hfuel : s.length < fuel)
    (hbehind : Behind (fun u => ¬ isWhitespace u) s) : Reads Value NoNumber s (value fuel s) := by
  induction fuel generalizing s with
  | zero => cases hfuel
  | succ fuel ih =>
    have hinside : ∀ rest : JsString, rest.length < s.length → rest.length < fuel :=
      fun rest hrest => Nat.lt_of_lt_of_le hrest (Nat.le_of_lt_succ hfuel)
    refine reads_value_of_head s hbehind (fun rest hrest => ?_) (fun rest hrest => ?_)
    · have hvalues := readsValues_of_reads (Nat.zero_lt_of_lt (hinside rest hrest)) ih
      exact (readsItems_member hvalues).reads_enclosed rest (hinside rest hrest)
    · exact (readsItems_value ih).reads_enclosed rest (hinside rest hrest)

/-! ## Texts -/

theorem text_iff : Text s ↔ Concat (Concat Ws Value) (Concat Ws fun v => v = []) s := by
  constructor
  · rintro ⟨hw, hvalue, hw'⟩
    exact ⟨_, _, ⟨_, _, hw, hvalue, rfl⟩, ⟨_, [], hw', rfl, rfl⟩, by simp⟩
  · rintro ⟨_, _, ⟨_, _, hw, hvalue, rfl⟩, ⟨_, _, hw', rfl, rfl⟩, rfl⟩
    rw [append_nil, append_assoc]
    exact .value hw hvalue hw'

/-- **A text is read** to its end. -/
theorem reads_text (input : JsString) : Reads Text (fun _ => False) input (text input) := by
  have hfuel : input.length < input.length + 1 := Nat.lt_succ_self _
  have hvalues := readsValues_of_reads (Nat.succ_pos input.length) (reads_value _)
  refine Reads.congr ?_ fun v => text_iff
  refine Reads.bind (fun rest =>
      if skip rest = [] then .ok (skip rest) else .error .malformed) (hvalues input hfuel)
    (fun v r _ _ _ => ?_) (fun w r hw hr u hu => ?_) ⟨_, [], [], ws_nil, rfl, rfl⟩ ?_
  · exact Reads.bind (fun rest => if rest = [] then .ok rest else .error .malformed)
      (reads_skip r) (fun _ rest _ _ _ => reads_end rest) (fun w r' hw hr' u hu => by
        rw [hw] at hu
        exact absurd (hr' u hu) id) ⟨_, rfl⟩ (by simp)
  · -- only white space may stand behind the value
    obtain ⟨w, _, hw, rfl, rfl⟩ := hw
    rw [append_nil] at hu
    rcases w with _ | ⟨v, w⟩
    · exact absurd (hr u hu) id
    · cases hu
      exact @noNumber_of_delimiter comma (by decide) _ (.inl (hw _ (.head _)))
  · simp [skip]

theorem text_ok {input rest : JsString} (h : text input = .ok rest) : rest = [] := by
  unfold text at h
  cases hvalue : value (input.length + 1) input with
  | error abort =>
    rw [hvalue] at h
    cases h
  | ok left =>
    rw [hvalue] at h
    simp only [bind, Except.bind] at h
    split at h
    · next hnil =>
      cases h
      exact hnil
    · cases h

/-- **What `jsonPrefixState` answers is exact:** a text is complete if it is a JSON text, incomplete
if it is none but can become one, and malformed if it cannot. -/
theorem jsonPrefixState_exact (input : JsString) :
    (jsonPrefixState input = .complete ↔ Text input) ∧
    (jsonPrefixState input = .incomplete ↔
      ¬ Text input ∧ ∃ more, more ≠ [] ∧ Text (input ++ more)) ∧
    (jsonPrefixState input = .malformed ↔ ∀ more, ¬ Text (input ++ more)) := by
  have hreads := reads_text input
  have hcomplete : ∀ rest, text input = .ok rest → Text input := by
    intro rest hok
    obtain ⟨v, hv, hinput⟩ := hreads.ok rest hok
    rwa [hinput, text_ok hok, append_nil]
  have htext : Text input → text input = .ok [] := fun hinput =>
    hreads.complete input [] (append_nil input).symm hinput behind_nil
  have hmalformed : text input = .error .malformed → ∀ more, ¬ Text (input ++ more) :=
    fun hbad more hmore =>
      hreads.malformed more _ [] hbad (append_nil _).symm hmore behind_nil
  cases houtcome : text input with
  | ok rest =>
    have hinput := hcomplete rest houtcome
    simp only [jsonPrefixState, houtcome, reduceCtorEq, true_iff, false_iff]
    exact ⟨hinput, fun h => h.1 hinput, fun h => h [] (by rwa [append_nil])⟩
  | error abort =>
    have hnone : ¬ Text input := fun hinput => by
      rw [htext hinput] at houtcome
      cases houtcome
    cases abort with
    | incomplete =>
      obtain ⟨more, hmore⟩ := hreads.incomplete houtcome
      have hne : more ≠ [] := by
        rintro rfl
        rw [append_nil] at hmore
        exact hnone hmore
      simp only [jsonPrefixState, houtcome, reduceCtorEq, true_iff, false_iff]
      exact ⟨hnone, ⟨hnone, more, hne, hmore⟩, fun h => h more hmore⟩
    | malformed =>
      have hdead := hmalformed houtcome
      simp only [jsonPrefixState, houtcome, reduceCtorEq, true_iff, false_iff]
      refine ⟨hnone, ?_, hdead⟩
      rintro ⟨_, more, _, hmore⟩
      exact hdead more hmore

end Items

end Corgtex.Models.StreamingJson
