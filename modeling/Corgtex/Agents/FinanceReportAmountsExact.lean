import Corgtex.Agents.FinanceReportAmounts
import Mathlib.Data.Nat.Cast.Field
import Mathlib.Tactic.Positivity

/-!
# The parser of amounts is exact

Each stage of `parseAmount` takes off what a layer of the grammar has put around an amount, and
nothing else: a text of the grammar is read as what it stands for (`parseAmount_text`), and a text
that is read is one of the grammar (`exists_of_parseAmount`).
-/

namespace Corgtex.Agents.FinanceReport

open Corgtex.Domain DecimalText Except JsNumber JsString List Trimming

/-! ## Cents -/

/-- A number of cents, if it is an integer of 32 bits. -/
def centsOf (claimId : JsString) (value : ℚ) : Except ValueError Int :=
  if value.den ≠ 1 then fail .fractionalCents claimId
  else if value.num < INT_MIN ∨ INT_MAX < value.num then fail .amountOutOfRange claimId
  else .ok value.num

section
variable {claimId : JsString} {value : ℚ} {cents : Int}

theorem centsOf_intCast (claimId : JsString) (n : Int) : centsOf claimId n =
    if n < INT_MIN ∨ INT_MAX < n then fail .amountOutOfRange claimId else .ok n := by
  rw [centsOf, Rat.den_intCast, Rat.num_intCast, if_neg (fun h => h rfl)]

theorem centsOf_ok : centsOf claimId value = .ok cents ↔
    (cents : ℚ) = value ∧ INT_MIN ≤ cents ∧ cents ≤ INT_MAX := by
  constructor
  · intro h
    rw [centsOf] at h
    split at h
    · cases h
    · next hden =>
      split at h
      · cases h
      · next hrange =>
        obtain rfl := ok.inj h
        have hvalue : (value.num : ℚ) = value := Rat.coe_int_num_of_den_eq_one (not_not.1 hden)
        exact ⟨hvalue, by omega⟩
  · rintro ⟨rfl, hmin, hmax⟩
    rw [centsOf_intCast, if_neg (by omega)]

/-- The integer arithmetic of the parser is exact. -/
theorem toCents_eq (claimId : JsString) (negative : Bool) (numerator : Nat) {denominator : Nat}
    (hpos : 0 < denominator) : toCents claimId negative numerator denominator =
      centsOf claimId ((if negative then -1 else 1) * ((numerator : ℚ) / denominator)) := by
  have hne : (denominator : ℚ) ≠ 0 := by exact_mod_cast hpos.ne'
  by_cases hdvd : denominator ∣ numerator
  · obtain ⟨k, rfl⟩ := hdvd
    have hvalue : (if negative then -1 else 1) * (((denominator * k : Nat) : ℚ) / denominator) =
        (((if negative then -1 else 1) * (k : Int) : Int) : ℚ) := by
      rw [Nat.cast_mul, mul_div_cancel_left₀ _ hne]
      split <;> simp
    rw [hvalue, centsOf_intCast, toCents, Nat.mul_mod_right, Nat.mul_div_cancel_left _ hpos,
      if_neg (fun h => h rfl)]
  · have hmod : numerator % denominator ≠ 0 := fun h => hdvd (Nat.dvd_of_mod_eq_zero h)
    rw [toCents, if_pos hmod, centsOf, if_pos]
    intro hden
    have hnum := Rat.coe_int_num_of_den_eq_one hden
    generalize ((if negative then -1 else 1) * ((numerator : ℚ) / denominator)).num = n at hnum
    have hcast : (numerator : ℚ) = denominator * ((if negative then -1 else 1) * n) := by
      rw [hnum]
      split <;> field_simp
    refine hdvd (Int.natCast_dvd_natCast.1 ⟨(if negative then -1 else 1) * n, ?_⟩)
    cases negative with
    | false =>
      rw [if_neg Bool.false_ne_true] at hcast ⊢
      exact_mod_cast hcast
    | true =>
      rw [if_pos rfl] at hcast ⊢
      exact_mod_cast hcast

end

/-! ## Exponents -/

section
variable {amount : ExponentAmount} {text : JsString} {parsed : ParsedFormat} {claimId : JsString}

theorem matchPower_text (h : isDigits amount.exponent) :
    matchPower amount.negative amount.lead amount.fraction
      (0x65 :: (if amount.exponentNegative then 0x2D else 0x2B) :: amount.exponent) =
        some amount := by
  obtain ⟨negative, lead, fraction, exponentNegative, exponent⟩ := amount
  cases exponentNegative <;> simp_all [matchPower]

theorem of_matchPower {negative : Bool} {lead : UInt16} {fraction power : JsString}
    (h : matchPower negative lead fraction power = some amount) :
    isDigits amount.exponent ∧ amount.negative = negative ∧ amount.lead = lead ∧
      amount.fraction = fraction ∧
        power = 0x65 :: (if amount.exponentNegative then 0x2D else 0x2B) :: amount.exponent := by
  unfold matchPower at h
  split at h
  · next e sign exponent =>
    split at h
    · next hcond =>
      obtain ⟨rfl, hsign, hexponent⟩ := hcond
      obtain rfl := Option.some.inj h
      refine ⟨hexponent, rfl, rfl, rfl, ?_⟩
      rcases hsign with rfl | rfl <;> rfl
    · cases h
  · cases h

theorem takeWhile_digits {digits : JsString} (hdigits : ∀ u ∈ digits, isDigit u)
    (rest : JsString) :
    (digits ++ 0x65 :: rest).takeWhile isDigit = digits ∧
      (digits ++ 0x65 :: rest).dropWhile isDigit = 0x65 :: rest := by
  have he : ¬ isDigit 0x65 := by decide
  rw [takeWhile_append_of_pos hdigits, dropWhile_append_of_pos hdigits,
    takeWhile_cons_of_neg he, dropWhile_cons_of_neg he, append_nil]
  exact ⟨rfl, rfl⟩

theorem matchUnsigned_text (h : amount.IsProper) : matchUnsigned amount.negative (amount.lead ::
    ((if amount.fraction = [] then [] else 0x2E :: amount.fraction) ++
      0x65 :: (if amount.exponentNegative then 0x2D else 0x2B) :: amount.exponent)) =
        some amount := by
  rw [matchUnsigned, if_neg (not_not.2 h.lead)]
  split
  · next hfraction =>
    have hpower := matchPower_text h.exponent
    rw [hfraction] at hpower
    rw [nil_append, head?_cons, if_neg (by decide), hpower]
  · next hfraction =>
    obtain ⟨htake, hdrop⟩ := takeWhile_digits h.fraction
      ((if amount.exponentNegative then 0x2D else 0x2B) :: amount.exponent)
    rw [cons_append, head?_cons, if_pos rfl, tail_cons]
    simp only [htake, hdrop]
    rw [if_neg hfraction, matchPower_text h.exponent]

theorem matchExponent_text (h : amount.IsProper) : matchExponent amount.text = some amount := by
  have hunsigned := matchUnsigned_text h
  rw [matchExponent, ExponentAmount.text]
  cases hnegative : amount.negative with
  | true =>
    rw [hnegative] at hunsigned
    rw [if_pos rfl, singleton_append, head?_cons, if_pos rfl, tail_cons, hunsigned]
  | false =>
    have hlead : amount.lead ≠ 0x2D := by
      intro heq
      have := h.lead
      rw [heq] at this
      exact absurd this (by decide)
    rw [hnegative] at hunsigned
    rw [if_neg Bool.false_ne_true, nil_append, head?_cons,
      if_neg (fun heq => hlead (Option.some.inj heq)), hunsigned]

theorem of_matchUnsigned {negative : Bool} (h : matchUnsigned negative text = some amount) :
    amount.IsProper ∧ amount.negative = negative ∧ text = amount.lead ::
      ((if amount.fraction = [] then [] else 0x2E :: amount.fraction) ++
        0x65 :: (if amount.exponentNegative then 0x2D else 0x2B) :: amount.exponent) := by
  unfold matchUnsigned at h
  split at h
  · cases h
  · next lead rest =>
    split at h
    · cases h
    · next hlead =>
      split at h
      · next hpoint =>
        simp only at h
        split at h
        · cases h
        · next hfraction =>
          obtain ⟨hexponent, rfl, rfl, heq, hpower⟩ := of_matchPower h
          obtain ⟨rest, rfl⟩ := head?_eq_some_iff.1 hpoint
          rw [tail_cons] at heq hpower hfraction
          refine ⟨⟨not_not.1 hlead, fun u hu => ?_, hexponent⟩, rfl, ?_⟩
          · rw [heq] at hu
            exact mem_takeWhile_imp hu
          · rw [heq, if_neg hfraction, ← hpower, cons_append, takeWhile_append_dropWhile]
      · obtain ⟨hexponent, rfl, rfl, heq, hpower⟩ := of_matchPower h
        refine ⟨⟨not_not.1 hlead, ?_, hexponent⟩, rfl, ?_⟩
        · rw [heq]
          exact forall_mem_nil _
        · rw [heq, if_pos rfl, nil_append, hpower]

theorem of_matchExponent (h : matchExponent text = some amount) :
    amount.IsProper ∧ amount.text = text := by
  unfold matchExponent at h
  split at h
  · next hminus =>
    obtain ⟨hproper, hnegative, htext⟩ := of_matchUnsigned h
    obtain ⟨rest, rfl⟩ := head?_eq_some_iff.1 hminus
    rw [tail_cons] at htext
    exact ⟨hproper, by rw [ExponentAmount.text, hnegative, htext]; rfl⟩
  · obtain ⟨hproper, hnegative, htext⟩ := of_matchUnsigned h
    exact ⟨hproper, by rw [ExponentAmount.text, hnegative, htext]; rfl⟩

/-- A power of ten as a quotient of two with natural exponents. -/
theorem pow_toNat_div (power : Int) :
    (10 : ℚ) ^ power.toNat / 10 ^ (-power).toNat = 10 ^ power := by
  rcases Int.le_total 0 power with hpos | hneg
  · obtain ⟨n, rfl⟩ := Int.eq_ofNat_of_zero_le hpos
    simp
  · obtain ⟨n, hn⟩ := Int.eq_ofNat_of_zero_le (Int.neg_nonneg_of_nonpos hneg)
    obtain rfl : power = -n := by omega
    simp

/-- **An exponent is read as the number that it stands for.** -/
theorem parseCanonicalExponent_text (h : amount.IsProper)
    (hlimit : amount.exponentValue.natAbs ≤ 400) :
    parseCanonicalExponent amount.text parsed claimId =
      centsOf claimId (amount.value * parsed.amountScale * 100) := by
  rw [parseCanonicalExponent, matchExponent_text h]
  simp only
  rw [if_neg (by omega), toCents_eq _ _ _ (by positivity)]
  congr 1
  rw [ExponentAmount.value, decimalValue_eq, singleton_append]
  push_cast
  rw [mul_div_assoc, pow_toNat_div, zpow_sub₀ (by norm_num), zpow_natCast]
  ring

end

/-! ## Units -/

section
variable {u : UInt16}

/-- What stands at the ends of an amount without its sign: a digit or a symbol. -/
def isEdge (u : UInt16) : Bool := isDigit u || isSymbol u

/-- A unit of an amount without its sign. -/
def isBody (u : UInt16) : Bool :=
  isEdge u || isBoundarySpace u || u = 0x2E || u = 0x2C || u = 0x27

theorem isSymbol_iff : isSymbol u ↔ u.toNat = 0x24 ∨ u.toNat = 0x20AC ∨ u.toNat = 0xA3 ∨
    u.toNat = 0xA5 ∨ u.toNat = 0x20B9 := by
  simp [isSymbol, SYMBOLS, ← UInt16.toNat_inj]

theorem isBoundarySpace_iff : isBoundarySpace u ↔ u.toNat = 0x20 ∨ u.toNat = 0x09 ∨
    u.toNat = 0xA0 ∨ u.toNat = 0x202F := by
  simp [isBoundarySpace, ← UInt16.toNat_inj, or_assoc]

theorem isBody_iff : isBody u ↔ isDigit u ∨ isSymbol u ∨ isBoundarySpace u ∨
    u.toNat = 0x2E ∨ u.toNat = 0x2C ∨ u.toNat = 0x27 := by
  simp [isBody, isEdge, ← UInt16.toNat_inj, or_assoc]

theorem isUnsupported_iff : isUnsupported u ↔ (0x41 ≤ u.toNat ∧ u.toNat ≤ 0x5A) ∨
    (0x61 ≤ u.toNat ∧ u.toNat ≤ 0x7A) ∨ u.toNat = 0x25 ∨ u.toNat = 0x2030 ∨ u.toNat = 0x2031 ∨
      u.toNat = 0xA2 := by
  simp [isUnsupported, UInt16.le_iff_toNat_le, ← UInt16.toNat_inj, or_assoc]

theorem isMinus_iff : isMinus u ↔ u.toNat = 0x2D ∨ u.toNat = 0x2212 := by
  simp [isMinus, ← UInt16.toNat_inj]

theorem isSign_iff : isSign u ↔ u.toNat = 0x2D ∨ u.toNat = 0x2212 ∨ u.toNat = 0x2B := by
  simp [isSign, isMinus_iff, ← UInt16.toNat_inj, or_assoc]

theorem not_isUnsupported_of_isBody (h : isBody u) : ¬ isUnsupported u := by
  rw [isBody_iff, isDigit_iff, isSymbol_iff, isBoundarySpace_iff] at h
  rw [isUnsupported_iff]
  omega

theorem not_isSign_of_isBody (h : isBody u) : ¬ isSign u := by
  rw [isBody_iff, isDigit_iff, isSymbol_iff, isBoundarySpace_iff] at h
  rw [isSign_iff]
  omega

theorem ne_parenthesis_of_isBody (h : isBody u) : u ≠ 0x28 ∧ u ≠ 0x29 := by
  rw [isBody_iff, isDigit_iff, isSymbol_iff, isBoundarySpace_iff] at h
  simp only [ne_eq, ← UInt16.toNat_inj, UInt16.reduceToNat]
  omega

theorem not_isBoundarySpace_of_isEdge (h : isEdge u) : ¬ isBoundarySpace u := by
  rw [isEdge, Bool.or_eq_true, isDigit_iff, isSymbol_iff] at h
  rw [isBoundarySpace_iff]
  omega

theorem not_isSymbol_of_isDigit (h : isDigit u) : ¬ isSymbol u := by
  rw [isDigit_iff] at h
  rw [isSymbol_iff]
  omega

theorem isBody_of_isEdge (h : isEdge u) : isBody u := by simp [isBody, h]

theorem isBody_of_isBoundarySpace (h : isBoundarySpace u) : isBody u := by simp [isBody, h]

theorem isEdge_of_isDigit (h : isDigit u) : isEdge u := by simp [isEdge, h]

theorem isEdge_of_isSymbol (h : isSymbol u) : isEdge u := by simp [isEdge, h]

/-- A sign or a parenthesis is no white space. -/
theorem not_isBoundarySpace_of_isSign (h : isSign u) : ¬ isBoundarySpace u := by
  rw [isSign_iff] at h
  rw [isBoundarySpace_iff]
  omega

theorem isSign_of_isMinus (h : isMinus u) : isSign u := by simp [isSign, h]

end

/-! ## Texts of amounts -/

/-- A text between two edges. -/
structure IsCore (edge : UInt16 → Bool) (text : JsString) : Prop where
  ne_nil : text ≠ []
  head : ∀ u ∈ text.head?, edge u
  last : ∀ u ∈ text.getLast?, edge u
  body : ∀ u ∈ text, isBody u

section
variable {edge : UInt16 → Bool} {text : JsString}

theorem IsCore.mono {edge' : UInt16 → Bool} (h : IsCore edge text) (hsub : ∀ u, edge u → edge' u) :
    IsCore edge' text :=
  ⟨h.ne_nil, fun u hu => hsub u (h.head u hu), fun u hu => hsub u (h.last u hu), h.body⟩

theorem IsCore.isTrimmed (h : IsCore isEdge text) : IsTrimmed isBoundarySpace text :=
  ⟨fun u hu => not_isBoundarySpace_of_isEdge (h.head u hu),
    fun u hu => not_isBoundarySpace_of_isEdge (h.last u hu)⟩

theorem IsCore.append {left right middle : JsString} (hleft : IsCore edge left)
    (hright : IsCore edge right) (hmiddle : ∀ u ∈ middle, isBody u) :
    IsCore edge (left ++ middle ++ right) := by
  refine ⟨by simp [hleft.ne_nil], fun u hu => ?_, fun u hu => ?_, fun u hu => ?_⟩
  · rw [append_assoc, head?_append_of_ne_nil _ hleft.ne_nil] at hu
    exact hleft.head u hu
  · rw [getLast?_append_of_ne_nil _ hright.ne_nil] at hu
    exact hright.last u hu
  · rw [mem_append, mem_append] at hu
    rcases hu with (hu | hu) | hu
    · exact hleft.body u hu
    · exact hmiddle u hu
    · exact hright.body u hu

theorem isCore_singleton {u : UInt16} (h : edge u) (hbody : isBody u) : IsCore edge [u] := by
  refine ⟨by simp, fun v hv => ?_, fun v hv => ?_, forall_mem_singleton.2 hbody⟩
  · exact Option.some.inj hv ▸ h
  · exact Option.some.inj hv ▸ h

theorem isCore_digits (h : isDigits text) : IsCore isDigit text := by
  obtain ⟨hne, hall⟩ := isDigits_iff.1 h
  exact ⟨hne, fun u hu => hall u (mem_of_mem_head? hu),
    fun u hu => hall u (mem_of_getLast? hu),
    fun u hu => isBody_of_isEdge (isEdge_of_isDigit (hall u hu))⟩

theorem isCore_join {separator : JsString} {groups : List JsString} (hne : groups ≠ [])
    (hgroups : ∀ group ∈ groups, isDigits group) (hseparator : ∀ u ∈ separator, isBody u) :
    IsCore isDigit (join separator groups) := by
  induction groups with
  | nil => exact absurd rfl hne
  | cons group groups ih =>
    obtain ⟨hgroup, hrest⟩ := forall_mem_cons.1 hgroups
    cases groups with
    | nil => exact isCore_digits hgroup
    | cons next groups =>
      rw [join_cons_cons]
      exact (isCore_digits hgroup).append (ih (by simp) hrest) hseparator

end

section
variable {parsed : ParsedFormat} {u : UInt16} {claimId : JsString}

/-- A separator is a unit of an amount, but no digit. -/
theorem separator_decimal (h : parsed.decimal = some u) : isBody u ∧ ¬ isDigit u := by
  have hall : DECIMALS.all fun separator => separator.all fun u => isBody u && !isDigit u := by
    decide
  simpa using (Option.all_eq_true _ _).1 (all_eq_true.1 hall _ parsed.decimal_mem) u h

theorem separator_grouping (h : parsed.grouping = some u) : isBody u ∧ ¬ isDigit u := by
  have hall : GROUPS.all fun separator => separator.all fun u => isBody u && !isDigit u := by
    decide
  simpa using (Option.all_eq_true _ _).1 (all_eq_true.1 hall _ parsed.grouping_mem) u h

theorem isBody_grouping : ∀ u ∈ parsed.grouping.toList, isBody u := by
  intro u hu
  exact (separator_grouping (Option.mem_toList.1 hu)).1

end

/-! ## Digits and groups -/

namespace PlainAmount

variable {parsed : ParsedFormat} {amount : PlainAmount} {claimId : JsString}

section
variable (h : amount.IsProper parsed)
include h

theorem IsProper.isCore_integerText : IsCore isDigit (amount.integerText parsed) :=
  isCore_join h.groups_ne_nil h.groups isBody_grouping

theorem IsProper.number_eq :
    (amount.fraction = none ∧ amount.number parsed = amount.integerText parsed) ∨
      ∃ point digits, parsed.decimal = some point ∧ amount.fraction = some digits ∧
        amount.number parsed = amount.integerText parsed ++ [point] ++ digits := by
  rw [number]
  cases hfraction : amount.fraction with
  | none => exact .inl ⟨rfl, by simp⟩
  | some digits =>
    obtain ⟨_, hdecimal⟩ := h.fraction digits hfraction
    obtain ⟨point, hpoint⟩ := Option.ne_none_iff_exists'.1 hdecimal
    exact .inr ⟨point, digits, hpoint, rfl, by simp [hpoint]⟩

theorem IsProper.isCore_number : IsCore isDigit (amount.number parsed) := by
  rcases h.number_eq with ⟨_, hnumber⟩ | ⟨point, digits, hpoint, hfraction, hnumber⟩
  · rw [hnumber]
    exact h.isCore_integerText
  · rw [hnumber]
    exact h.isCore_integerText.append (isCore_digits (h.fraction digits hfraction).1)
      (forall_mem_singleton.2 (separator_decimal hpoint).1)

theorem IsProper.splitBy_grouping :
    splitBy parsed.grouping (amount.integerText parsed) = amount.groups := by
  rw [integerText]
  cases hgrouping : parsed.grouping with
  | none =>
    obtain ⟨group, hgroup⟩ := length_eq_one_iff.1 (h.ungrouped hgrouping)
    rw [hgroup]
    rfl
  | some separator =>
    refine split_join h.groups_ne_nil fun group hgroup hmem => ?_
    exact (separator_grouping hgrouping).2 ((isDigits_iff.1 (h.groups group hgroup)).2 _ hmem)

theorem IsProper.point_notMem {point : UInt16}
    (hpoint : parsed.decimal = some point) : point ∉ amount.integerText parsed := by
  intro hmem
  rcases mem_join hmem with hgrouping | ⟨group, hgroup, hdigit⟩
  · refine parsed.distinct (by simp [hpoint]) ?_
    rw [hpoint, Option.mem_toList.1 hgrouping]
  · exact (separator_decimal hpoint).2 ((isDigits_iff.1 (h.groups group hgroup)).2 _ hdigit)

theorem IsProper.splitBy_decimal : splitBy parsed.decimal (amount.number parsed) =
      amount.integerText parsed :: amount.fraction.toList := by
  rcases h.number_eq with ⟨hfraction, hnumber⟩ | ⟨point, digits, hpoint, hfraction, hnumber⟩
  · rw [hnumber, hfraction]
    cases hdecimal : parsed.decimal with
    | none => rfl
    | some point => exact split_self (h.point_notMem hdecimal)
  · have hdigits := isDigits_iff.1 (h.fraction digits hfraction).1
    rw [hnumber, hfraction, hpoint, append_assoc, singleton_append]
    refine (split_append (h.point_notMem hpoint) digits).trans (congrArg _ ?_)
    exact split_self fun hmem => (separator_decimal hpoint).2 (hdigits.2 _ hmem)

/-- The fraction of a text that is split at the decimal separator. -/
theorem IsProper.fraction_digits :
    amount.fraction.getD [] = [] ∨ isDigits (amount.fraction.getD []) := by
  cases hfraction : amount.fraction with
  | none => exact .inl rfl
  | some digits => exact .inr (h.fraction digits hfraction).1

theorem IsProper.flatten_ne_nil : amount.groups.flatten ≠ [] := by
  obtain ⟨group, rest, hgroups⟩ := exists_cons_of_ne_nil h.groups_ne_nil
  have hgroup := isDigits_iff.1 (h.groups group (by simp [hgroups]))
  simp [hgroups, hgroup.1]

/-- **The digits of an amount are found.** -/
theorem IsProper.parseDigits_number (hsize : amount.size ≤ 100) :
    parseDigits parsed claimId (amount.number parsed) =
      .ok (amount.groups.flatten, amount.fraction.getD []) := by
  have hsplit := h.splitBy_decimal
  have hinteger : (amount.integerText parsed :: amount.fraction.toList)[0]?.getD [] =
      amount.integerText parsed := rfl
  have hfraction : (amount.integerText parsed :: amount.fraction.toList)[1]?.getD [] =
      amount.fraction.getD [] := by cases amount.fraction <;> rfl
  have hlength : (amount.integerText parsed :: amount.fraction.toList).length ≤ 2 := by
    cases amount.fraction <;> simp
  have hempty : ¬ (amount.integerText parsed = [] ∨
      (amount.integerText parsed :: amount.fraction.toList).length = 2 ∧
        amount.fraction.getD [] = []) := by
    rintro (hnil | ⟨htwo, hnil⟩)
    · exact h.isCore_integerText.ne_nil hnil
    · cases hsome : amount.fraction with
      | none => simp [hsome] at htwo
      | some digits =>
        rw [hsome, Option.getD_some] at hnil
        exact (isDigits_iff.1 (h.fraction digits hsome).1).1 hnil
  have hgroups : ¬ (¬ amount.groups.all isDigits ∨ 1 < amount.groups.length ∧
      (3 < (amount.groups[0]?.getD []).length ∨
        amount.groups.tail.any fun group => group.length ≠ 3)) := by
    rintro (hall | ⟨hlong, hfirst | hrest⟩)
    · exact hall (all_eq_true.2 h.groups)
    · obtain ⟨group, rest, heq⟩ := exists_cons_of_ne_nil h.groups_ne_nil
      have hle := h.first hlong group (by simp [heq])
      simp only [heq, getElem?_cons_zero, Option.getD_some] at hfirst
      omega
    · obtain ⟨group, hmem, hne⟩ := any_eq_true.1 hrest
      exact of_decide_eq_true hne (h.rest group hmem)
  have hdigits : ¬ (amount.groups.flatten = [] ∨
      amount.fraction.getD [] ≠ [] ∧ ¬ isDigits (amount.fraction.getD []) ∨
        100 < amount.groups.flatten.length + (amount.fraction.getD []).length) := by
    rintro (hnil | ⟨hne, hnot⟩ | hlong)
    · exact h.flatten_ne_nil hnil
    · rcases h.fraction_digits with hnil | hall
      · exact hne hnil
      · exact hnot hall
    · exact absurd hsize (by rw [size]; omega)
  simp only [parseDigits, hsplit, hinteger, hfraction, h.splitBy_grouping]
  rw [if_neg (by omega), if_neg hempty, if_neg hgroups, if_neg hdigits]

end

/-! ## Symbols and signs -/

theorem IsProper.isCore_symbol (h : amount.IsProper parsed) :
    IsCore isEdge (amount.symbol.wrap (amount.number parsed)) := by
  have hnumber : IsCore isEdge (amount.number parsed) :=
    h.isCore_number.mono fun u => isEdge_of_isDigit
  have hsymbol : ∀ {symbol : UInt16}, isSymbol symbol → IsCore isEdge [symbol] := fun hs =>
    isCore_singleton (isEdge_of_isSymbol hs) (isBody_of_isEdge (isEdge_of_isSymbol hs))
  have hgap : ∀ {gap : JsString}, IsGap gap → ∀ u ∈ gap, isBody u := fun hgap u hu =>
    isBody_of_isBoundarySpace (hgap u hu)
  have hproper := h.symbol
  cases hform : amount.symbol with
  | none => exact hnumber
  | before symbol gap =>
    rw [hform] at hproper
    exact (hsymbol hproper.1).append hnumber (hgap hproper.2)
  | after gap symbol =>
    rw [hform] at hproper
    exact hnumber.append (hsymbol hproper.1) (hgap hproper.2)

/-- **A symbol is taken off.** -/
theorem IsProper.stripSymbol_wrap (h : amount.IsProper parsed) :
    stripSymbol claimId (amount.symbol.wrap (amount.number parsed)) =
      .ok (amount.number parsed) := by
  have hbody := h.isCore_symbol.body
  have hsign : ¬ (amount.symbol.wrap (amount.number parsed)).any isSign := by
    intro hany
    obtain ⟨u, hu, hs⟩ := any_eq_true.1 hany
    exact not_isSign_of_isBody (hbody u hu) hs
  have hcore := h.isCore_number
  have htrimmed := (hcore.mono fun u => isEdge_of_isDigit).isTrimmed
  have hhead : ¬ (amount.number parsed).head?.any isSymbol := by
    rw [Option.any_eq_true]
    rintro ⟨u, hu, hs⟩
    exact not_isSymbol_of_isDigit (hcore.head u hu) hs
  have hlast : ¬ (amount.number parsed).getLast?.any isSymbol := by
    rw [Option.any_eq_true]
    rintro ⟨u, hu, hs⟩
    exact not_isSymbol_of_isDigit (hcore.last u hu) hs
  have hproper := h.symbol
  rw [stripSymbol, if_neg hsign]
  cases hform : amount.symbol with
  | none => rw [SymbolForm.wrap, if_neg hhead, if_neg hlast]
  | before symbol gap =>
    rw [hform] at hproper
    have hend : (symbol :: (gap ++ amount.number parsed)).getLast? =
        (amount.number parsed).getLast? := by
      rw [← cons_append, getLast?_append_of_ne_nil _ hcore.ne_nil]
    have htrim := trimBy_append hproper.2 (forall_mem_nil _) htrimmed
    rw [append_nil] at htrim
    rw [SymbolForm.wrap, if_pos (by simp [hproper.1]), hend, if_neg hlast, tail_cons,
      trimBoundary, htrim]
  | after gap symbol =>
    rw [hform] at hproper
    have hbegin : (amount.number parsed ++ gap ++ [symbol]).head? =
        (amount.number parsed).head? := by
      rw [append_assoc, head?_append_of_ne_nil _ hcore.ne_nil]
    have htrim := trimBy_append (forall_mem_nil _) hproper.2 htrimmed
    rw [nil_append] at htrim
    rw [SymbolForm.wrap, hbegin, if_neg hhead, if_pos (by simp [hproper.1]), dropLast_concat,
      trimBoundary, htrim]

end PlainAmount

section
variable {sign : SignForm} {core : JsString} {claimId : JsString}

theorem isTrimmed_wrap (hsign : sign.IsProper) (hcore : IsCore isEdge core) :
    IsTrimmed isBoundarySpace (sign.wrap core) := by
  have hlast : ∀ u ∈ core.getLast?, ¬ isBoundarySpace u := hcore.isTrimmed.last
  have hhead : ∀ u ∈ core.head?, ¬ isBoundarySpace u := hcore.isTrimmed.head
  cases sign with
  | none => exact hcore.isTrimmed
  | leading minus gap =>
    refine ⟨fun u hu => ?_, fun u hu => hlast u ?_⟩
    · obtain rfl := Option.some.inj hu
      exact not_isBoundarySpace_of_isSign (isSign_of_isMinus hsign.1)
    · rwa [SignForm.wrap, ← cons_append, getLast?_append_of_ne_nil _ hcore.ne_nil] at hu
  | trailing gap =>
    refine ⟨fun u hu => hhead u ?_, fun u hu => ?_⟩
    · rwa [SignForm.wrap, append_assoc, head?_append_of_ne_nil _ hcore.ne_nil] at hu
    · rw [SignForm.wrap, getLast?_concat] at hu
      obtain rfl := Option.some.inj hu
      decide
  | parentheses before after =>
    refine ⟨fun u hu => ?_, fun u hu => ?_⟩
    · obtain rfl := Option.some.inj hu
      decide
    · rw [SignForm.wrap, ← cons_append, getLast?_concat] at hu
      obtain rfl := Option.some.inj hu
      decide

/-- A text without parentheses has none to take off. -/
theorem stripParentheses_of_notMem {token : JsString} (h : ∀ u ∈ token, u ≠ 0x28 ∧ u ≠ 0x29) :
    stripParentheses claimId token = .ok (false, token) := by
  rw [stripParentheses, if_neg, if_neg]
  · rintro (hmem | hmem)
    · exact (h _ hmem).1 rfl
    · exact (h _ hmem).2 rfl
  · rintro ⟨hhead, _⟩
    exact (h _ (mem_of_mem_head? hhead)).1 rfl

/-- A text without a minus at its ends has none to take off. -/
theorem stripMinus_of_isCore (hcore : IsCore isEdge core) (negative : Bool) :
    stripMinus claimId negative core = .ok (negative, core) := by
  have hminus : ∀ u ∈ core, ¬ isMinus u := fun u hu hminus =>
    not_isSign_of_isBody (hcore.body u hu) (isSign_of_isMinus hminus)
  rw [stripMinus, if_neg, if_neg]
  · intro hlast
    exact hminus _ (mem_of_getLast? hlast) (by decide)
  · rw [Option.any_eq_true]
    rintro ⟨u, hu, hm⟩
    exact hminus u (mem_of_mem_head? hu) hm

theorem ne_parenthesis_of_isSign {u : UInt16} (h : isSign u) : u ≠ 0x28 ∧ u ≠ 0x29 := by
  rw [isSign_iff] at h
  simp only [ne_eq, ← UInt16.toNat_inj, UInt16.reduceToNat]
  omega

theorem ne_parenthesis_of_isGap {gap : JsString} (h : IsGap gap) :
    ∀ u ∈ gap, u ≠ 0x28 ∧ u ≠ 0x29 := fun u hu =>
  ne_parenthesis_of_isBody (isBody_of_isBoundarySpace (h u hu))

/-- **A sign is taken off**, in parentheses or as a minus. -/
theorem strip_wrap (hsign : sign.IsProper) (hcore : IsCore isEdge core) : ∃ unwrapped,
    stripParentheses claimId (sign.wrap core) = .ok unwrapped ∧
      stripMinus claimId unwrapped.1 unwrapped.2 = .ok (decide (sign ≠ .none), core) := by
  have hbody : ∀ u ∈ core, u ≠ 0x28 ∧ u ≠ 0x29 := fun u hu =>
    ne_parenthesis_of_isBody (hcore.body u hu)
  have hnil := forall_mem_nil fun u => isBoundarySpace u = true
  cases sign with
  | none =>
    exact ⟨_, stripParentheses_of_notMem hbody, stripMinus_of_isCore hcore false⟩
  | leading minus gap =>
    have htoken : ∀ u ∈ minus :: (gap ++ core), u ≠ 0x28 ∧ u ≠ 0x29 :=
      forall_mem_cons.2 ⟨ne_parenthesis_of_isSign (isSign_of_isMinus hsign.1),
        forall_mem_append.2 ⟨ne_parenthesis_of_isGap hsign.2, hbody⟩⟩
    refine ⟨_, stripParentheses_of_notMem htoken, ?_⟩
    have htrim := trimBy_append hsign.2 hnil hcore.isTrimmed
    rw [append_nil] at htrim
    show stripMinus claimId false (minus :: (gap ++ core)) = _
    rw [stripMinus, if_pos (by simp [hsign.1]), if_neg Bool.false_ne_true, tail_cons,
      trimBoundary, htrim]
    rfl
  | trailing gap =>
    have htoken : ∀ u ∈ core ++ gap ++ [0x2D], u ≠ 0x28 ∧ u ≠ 0x29 :=
      forall_mem_append.2 ⟨forall_mem_append.2 ⟨hbody, ne_parenthesis_of_isGap hsign⟩,
        forall_mem_singleton.2 (by decide)⟩
    have hhead : ¬ (core ++ gap ++ [0x2D]).head?.any isMinus := by
      rw [append_assoc, head?_append_of_ne_nil _ hcore.ne_nil, Option.any_eq_true]
      rintro ⟨u, hu, hminus⟩
      exact not_isSign_of_isBody (hcore.body u (mem_of_mem_head? hu)) (isSign_of_isMinus hminus)
    refine ⟨_, stripParentheses_of_notMem htoken, ?_⟩
    have htrim := trimBy_append hnil hsign hcore.isTrimmed
    rw [nil_append] at htrim
    show stripMinus claimId false (core ++ gap ++ [0x2D]) = _
    rw [stripMinus, if_neg hhead, if_pos getLast?_concat, if_neg Bool.false_ne_true,
      dropLast_concat, trimBoundary, htrim]
    rfl
  | parentheses before after =>
    refine ⟨(true, core), ?_, stripMinus_of_isCore hcore true⟩
    have htrim := trimBy_append hsign.1 hsign.2 hcore.isTrimmed
    have hends : (SignForm.parentheses before after).wrap core =
        0x28 :: (before ++ core ++ after) ++ [0x29] := by simp [SignForm.wrap]
    rw [hends, stripParentheses, if_pos ⟨rfl, getLast?_concat⟩, cons_append,
      tail_cons, dropLast_concat, trimBoundary, htrim]

theorem not_isUnsupported_wrap (hsign : sign.IsProper) (hcore : IsCore isEdge core) :
    ∀ u ∈ sign.wrap core, ¬ isUnsupported u := by
  have hbody : ∀ u ∈ core, ¬ isUnsupported u := fun u hu =>
    not_isUnsupported_of_isBody (hcore.body u hu)
  have hgap : ∀ {gap : JsString}, IsGap gap → ∀ u ∈ gap, ¬ isUnsupported u := fun hgap u hu =>
    not_isUnsupported_of_isBody (isBody_of_isBoundarySpace (hgap u hu))
  cases sign with
  | none => exact hbody
  | leading minus gap =>
    refine forall_mem_cons.2 ⟨?_, forall_mem_append.2 ⟨hgap hsign.2, hbody⟩⟩
    have hminus := isMinus_iff.1 hsign.1
    rw [isUnsupported_iff]
    omega
  | trailing gap =>
    exact forall_mem_append.2 ⟨forall_mem_append.2 ⟨hbody, hgap hsign⟩,
      forall_mem_singleton.2 (by decide)⟩
  | parentheses before after =>
    exact forall_mem_cons.2 ⟨by decide, forall_mem_append.2
      ⟨forall_mem_append.2 ⟨forall_mem_append.2 ⟨hgap hsign.1, hbody⟩, hgap hsign.2⟩,
        forall_mem_singleton.2 (by decide)⟩⟩

end

/-! ## What is written is read -/

namespace PlainAmount

variable {parsed : ParsedFormat} {amount : PlainAmount} {claimId : JsString}

theorem IsProper.not_isUnsupported (h : amount.IsProper parsed) :
    ∀ u ∈ amount.text parsed, ¬ isUnsupported u := by
  have hgap : ∀ {gap : JsString}, IsGap gap → ∀ u ∈ gap, ¬ isUnsupported u := fun hgap u hu =>
    not_isUnsupported_of_isBody (isBody_of_isBoundarySpace (hgap u hu))
  exact forall_mem_append.2 ⟨forall_mem_append.2 ⟨hgap h.before,
    not_isUnsupported_wrap h.sign h.isCore_symbol⟩, hgap h.after⟩

/-- **A plain amount is read as the number that it stands for.** -/
theorem IsProper.parsePlain_text (h : amount.IsProper parsed) (hsize : amount.size ≤ 100) :
    parsePlain (amount.text parsed) parsed claimId =
      centsOf claimId (amount.value * parsed.amountScale * 100) := by
  have hany : ¬ (amount.text parsed).any isUnsupported := by
    intro hany
    obtain ⟨u, hu, hunsupported⟩ := any_eq_true.1 hany
    exact h.not_isUnsupported u hu hunsupported
  have htrim : trimBoundary (amount.text parsed) =
      amount.sign.wrap (amount.symbol.wrap (amount.number parsed)) :=
    trimBy_append h.before h.after (isTrimmed_wrap h.sign h.isCore_symbol)
  obtain ⟨unwrapped, hparentheses, hminus⟩ :=
    @strip_wrap amount.sign _ claimId h.sign h.isCore_symbol
  have hsymbol := @IsProper.stripSymbol_wrap parsed amount claimId h
  have hdigits := @IsProper.parseDigits_number parsed amount claimId h hsize
  rw [parsePlain, if_neg hany, htrim, hparentheses]
  simp only [bind, Except.bind, hminus, hsymbol, hdigits]
  rw [toCents_eq _ _ _ (by positivity), value, decimalValue_eq]
  congr 1
  push_cast
  by_cases hsign : amount.sign = .none
  · simp [hsign]
    ring
  · simp [hsign]
    ring

end PlainAmount

/-! ## What is read is written -/

section
variable {claimId token inner text : JsString} {negative negative' : Bool}

section
variable (htrimmed : IsTrimmed isBoundarySpace token)
include htrimmed

theorem of_stripSymbol (h : stripSymbol claimId token = .ok inner) :
    ∃ symbol : SymbolForm, symbol.IsProper ∧ symbol.wrap inner = token := by
  rw [stripSymbol] at h
  split at h
  · cases h
  split at h
  · next hhead =>
    split at h
    · cases h
    · obtain rfl := ok.inj h
      obtain ⟨symbol, hsymbol, his⟩ := (Option.any_eq_true _ _).1 hhead
      obtain ⟨rest, rfl⟩ := head?_eq_some_iff.1 hsymbol
      obtain ⟨gap, hgap, hrest⟩ := exists_trimBy_of_last htrimmed.last_tail
      exact ⟨.before symbol gap, ⟨his, hgap⟩, congrArg (symbol :: ·) hrest.symm⟩
  · split at h
    · next hlast =>
      obtain rfl := ok.inj h
      obtain ⟨symbol, hsymbol, his⟩ := (Option.any_eq_true _ _).1 hlast
      obtain ⟨rest, rfl⟩ := getLast?_eq_some_iff.1 hsymbol
      obtain ⟨gap, hgap, hrest⟩ := exists_trimBy_of_head htrimmed.head_dropLast
      rw [dropLast_concat]
      exact ⟨.after gap symbol, ⟨his, hgap⟩, congrArg (· ++ [symbol]) hrest.symm⟩
    · obtain rfl := ok.inj h
      exact ⟨.none, trivial, rfl⟩

/-- A minus is taken off, where there has been no other sign. -/
theorem of_stripMinus (h : stripMinus claimId negative token = .ok (negative', inner)) :
    IsTrimmed isBoundarySpace inner ∧ ((negative' = negative ∧ inner = token) ∨
      (negative = false ∧ negative' = true ∧ ∃ sign : SignForm, sign ≠ .none ∧ sign.IsProper ∧
        sign.wrap inner = token)) := by
  rw [stripMinus] at h
  split at h
  · next hhead =>
    split at h
    · cases h
    · next hnegative =>
      obtain ⟨rfl, rfl⟩ := Prod.mk.inj (ok.inj h)
      obtain ⟨minus, hminus, his⟩ := (Option.any_eq_true _ _).1 hhead
      obtain ⟨rest, rfl⟩ := head?_eq_some_iff.1 hminus
      obtain ⟨gap, hgap, hrest⟩ := exists_trimBy_of_last htrimmed.last_tail
      exact ⟨isTrimmed_trimBy _ _, .inr ⟨Bool.eq_false_of_not_eq_true hnegative, rfl,
        .leading minus gap, by simp, ⟨his, hgap⟩, congrArg (minus :: ·) hrest.symm⟩⟩
  · split at h
    · next hlast =>
      split at h
      · cases h
      · next hnegative =>
        obtain ⟨rfl, rfl⟩ := Prod.mk.inj (ok.inj h)
        obtain ⟨rest, rfl⟩ := getLast?_eq_some_iff.1 hlast
        obtain ⟨gap, hgap, hrest⟩ := exists_trimBy_of_head htrimmed.head_dropLast
        rw [dropLast_concat]
        exact ⟨isTrimmed_trimBy _ _, .inr ⟨Bool.eq_false_of_not_eq_true hnegative, rfl,
          .trailing gap, by simp, hgap, congrArg (· ++ [0x2D]) hrest.symm⟩⟩
    · obtain ⟨rfl, rfl⟩ := Prod.mk.inj (ok.inj h)
      exact ⟨htrimmed, .inl ⟨rfl, rfl⟩⟩

theorem of_stripParentheses (h : stripParentheses claimId token = .ok (negative, inner)) :
    IsTrimmed isBoundarySpace inner ∧ ((negative = false ∧ inner = token) ∨
      (negative = true ∧ ∃ before after, IsGap before ∧ IsGap after ∧
        (SignForm.parentheses before after).wrap inner = token)) := by
  rw [stripParentheses] at h
  split at h
  · next hends =>
    obtain ⟨rfl, rfl⟩ := Prod.mk.inj (ok.inj h)
    obtain ⟨rest, rfl⟩ := head?_eq_some_iff.1 hends.1
    have hne : rest ≠ [] := by
      rintro rfl
      exact absurd hends.2 (by decide)
    have hlast : rest.getLast? = some 0x29 := by
      rw [← hends.2, getLast?_cons_of_ne_nil hne]
    obtain ⟨middle, rfl⟩ := getLast?_eq_some_iff.1 hlast
    obtain ⟨before, after, hbefore, hafter, hmiddle⟩ := exists_trimBy isBoundarySpace middle
    rw [tail_cons, dropLast_concat]
    refine ⟨isTrimmed_trimBy _ _, .inr ⟨rfl, before, after, hbefore, hafter, ?_⟩⟩
    exact congrArg (fun text => 0x28 :: (text ++ [0x29])) hmiddle.symm
  · split at h
    · cases h
    · obtain ⟨rfl, rfl⟩ := Prod.mk.inj (ok.inj h)
      exact ⟨htrimmed, .inl ⟨rfl, rfl⟩⟩

end

/-- **What is taken off is a sign.** -/
theorem of_strip {unwrapped : Bool × JsString} (htrimmed : IsTrimmed isBoundarySpace token)
    (hparentheses : stripParentheses claimId token = .ok unwrapped)
    (hminus : stripMinus claimId unwrapped.1 unwrapped.2 = .ok (negative', inner)) :
    IsTrimmed isBoundarySpace inner ∧ ∃ sign : SignForm, sign.IsProper ∧
      sign.wrap inner = token := by
  obtain ⟨negative, unwrapped⟩ := unwrapped
  obtain ⟨hunwrapped, hcase⟩ := of_stripParentheses htrimmed hparentheses
  obtain ⟨hinner, hcase'⟩ := of_stripMinus hunwrapped hminus
  refine ⟨hinner, ?_⟩
  rcases hcase' with ⟨_, rfl⟩ | ⟨rfl, _, sign, _, hsign, hwrap⟩
  · rcases hcase with ⟨_, rfl⟩ | ⟨_, before, after, hbefore, hafter, hwrap⟩
    · exact ⟨.none, trivial, rfl⟩
    · exact ⟨.parentheses before after, ⟨hbefore, hafter⟩, hwrap⟩
  · rcases hcase with ⟨_, rfl⟩ | ⟨hcontra, _⟩
    · exact ⟨sign, hsign, hwrap⟩
    · cases hcontra

theorem join_splitBy (separator : Option UInt16) (text : JsString) :
    join separator.toList (splitBy separator text) = text := by
  cases separator with
  | none => rfl
  | some unit => exact join_split unit text

theorem splitBy_ne_nil (separator : Option UInt16) (text : JsString) :
    splitBy separator text ≠ [] := by
  cases separator with
  | none => exact cons_ne_nil _ _
  | some unit => exact split_ne_nil unit text

/-- An amount of digits only. -/
def bareAmount (groups : List JsString) (fraction : Option JsString) : PlainAmount :=
  ⟨[], .none, .none, groups, fraction, []⟩

/-- The parts at a decimal separator are one or two. -/
theorem splitBy_cases {separator : Option UInt16} {text : JsString}
    (h : ¬ 2 < (splitBy separator text).length) :
    splitBy separator text = [text] ∨ ∃ point integer fraction, separator = some point ∧
      splitBy separator text = [integer, fraction] ∧ text = integer ++ [point] ++ fraction := by
  have hjoin := join_splitBy separator text
  obtain ⟨integer, parts, hparts⟩ := exists_cons_of_ne_nil (splitBy_ne_nil separator text)
  rw [hparts] at hjoin h ⊢
  cases parts with
  | nil => exact .inl (congrArg (fun part => [part]) hjoin)
  | cons fraction parts =>
    obtain rfl : parts = [] := by
      rw [← length_eq_zero_iff]
      simp only [length_cons] at h
      omega
    cases separator with
    | none => simp [splitBy] at hparts
    | some point => exact .inr ⟨point, integer, fraction, rfl, rfl, hjoin.symm⟩

/-- **Digits that are found are those of an amount.** -/
theorem of_parseDigits {parsed : ParsedFormat} {digits : JsString × JsString}
    (h : parseDigits parsed claimId token = .ok digits) : ∃ groups fraction,
      (bareAmount groups fraction).IsProper parsed ∧
        (bareAmount groups fraction).number parsed = token ∧
          (bareAmount groups fraction).size ≤ 100 := by
  simp only [parseDigits] at h
  split at h
  · cases h
  next hparts =>
  split at h
  · cases h
  next hempty =>
  split at h
  · cases h
  next hgroups =>
  split at h
  · cases h
  next hdigits =>
  rw [not_or] at hempty hgroups hdigits
  rw [not_or] at hdigits
  obtain ⟨hall, hlengths⟩ := hgroups
  obtain ⟨_, hfraction, hsize⟩ := hdigits
  have hproper : ∀ integer fraction, (∀ digits ∈ fraction, isDigits digits ∧
      parsed.decimal ≠ none) → (splitBy parsed.decimal token)[0]?.getD [] = integer →
        (bareAmount (splitBy parsed.grouping integer) fraction).IsProper parsed := by
    rintro integer fraction hfraction rfl
    refine ⟨forall_mem_nil _, forall_mem_nil _, trivial, trivial, splitBy_ne_nil _ _,
      all_eq_true.1 (not_not.1 hall), fun hnone => ?_, fun hlong group hgroup => ?_,
      fun group hgroup => ?_, hfraction⟩
    · rw [bareAmount, hnone]
      rfl
    · by_contra hle
      have hfirst : (splitBy parsed.grouping
          ((splitBy parsed.decimal token)[0]?.getD []))[0]? = some group := by
        rw [← head?_eq_getElem?]
        exact hgroup
      refine hlengths ⟨hlong, .inl ?_⟩
      rw [hfirst, Option.getD_some]
      omega
    · by_contra hne
      refine hlengths ⟨?_, .inr (any_eq_true.2 ⟨group, hgroup, decide_eq_true hne⟩)⟩
      have hpos := length_pos_of_mem hgroup
      rw [length_tail] at hpos
      exact Nat.lt_of_sub_pos hpos
  rcases splitBy_cases hparts with hone | ⟨point, integer, fraction, hpoint, htwo, htoken⟩
  · rw [hone] at hproper hsize
    refine ⟨_, none, hproper token none (by simp) rfl, ?_, ?_⟩
    · simpa [PlainAmount.number, PlainAmount.integerText, bareAmount] using join_splitBy _ _
    · simpa [PlainAmount.size, bareAmount] using hsize
  · rw [htwo] at hproper hsize hempty hfraction
    have hne : fraction ≠ [] := fun hnil => hempty.2 ⟨rfl, hnil⟩
    have hisDigits : isDigits fraction := by
      by_contra hnot
      exact hfraction ⟨hne, hnot⟩
    have hdecimal : ∀ digits ∈ some fraction, isDigits digits ∧ parsed.decimal ≠ none := by
      intro digits hdigits
      obtain rfl := Option.some.inj hdigits
      exact ⟨hisDigits, by simp [hpoint]⟩
    refine ⟨_, some fraction, hproper integer (some fraction) hdecimal rfl, ?_, ?_⟩
    · rw [htoken, PlainAmount.number, PlainAmount.integerText, bareAmount]
      simp [join_splitBy, hpoint]
    · simpa [PlainAmount.size, bareAmount] using hsize

/-- **A plain text that is read is an amount.** -/
theorem exists_of_parsePlain {parsed : ParsedFormat} {cents : Int}
    (h : parsePlain text parsed claimId = .ok cents) : ∃ amount : PlainAmount,
      amount.IsProper parsed ∧ amount.text parsed = text ∧ amount.size ≤ 100 := by
  rw [parsePlain] at h
  split at h
  · cases h
  · obtain ⟨unwrapped, hparentheses, h⟩ := bind_ok.1 h
    obtain ⟨unsigned, hminus, h⟩ := bind_ok.1 h
    obtain ⟨token, hsymbol, h⟩ := bind_ok.1 h
    obtain ⟨digits, hdigits, _⟩ := bind_ok.1 h
    obtain ⟨before, after, hbefore, hafter, htext⟩ := exists_trimBy isBoundarySpace text
    obtain ⟨htrimmed, sign, hsign, hwrap⟩ :=
      of_strip (isTrimmed_trimBy isBoundarySpace text) hparentheses hminus
    obtain ⟨symbol, hproper, hwrap'⟩ := of_stripSymbol htrimmed hsymbol
    obtain ⟨groups, fraction, hbare, hnumber, hsize⟩ := of_parseDigits hdigits
    refine ⟨⟨before, sign, symbol, groups, fraction, after⟩, ?_, ?_, hsize⟩
    · exact { hbare with before := hbefore, after := hafter, sign := hsign, symbol := hproper }
    · have hinner : (PlainAmount.mk before sign symbol groups fraction after).number parsed =
          token := hnumber
      rw [PlainAmount.text, hinner, hwrap', hwrap]
      exact htext.symm

end

/-! ## Both notations -/

section
variable {parsed : ParsedFormat} {claimId text : JsString} {cents : Int}

theorem PlainAmount.IsProper.e_notMem {amount : PlainAmount} (h : amount.IsProper parsed) :
    0x65 ∉ amount.text parsed := fun hmem =>
  h.not_isUnsupported _ hmem (by decide)

theorem ExponentAmount.e_mem (amount : ExponentAmount) : 0x65 ∈ amount.text := by
  simp [ExponentAmount.text]

/-- **A text of the grammar is read as what it stands for.** -/
theorem parseAmount_text {amount : Amount} {xlsxCanonical : Bool}
    (h : amount.IsProper parsed xlsxCanonical) (hlimits : amount.IsWithinLimits parsed) :
    parseAmount (amount.text parsed) parsed claimId xlsxCanonical =
      centsOf claimId (amount.value * parsed.amountScale * 100) := by
  rw [parseAmount, if_neg (by have := hlimits.1; omega)]
  cases amount with
  | plain amount =>
    rw [if_neg fun hmem => h.e_notMem hmem.2]
    exact h.parsePlain_text hlimits.2
  | exponent amount =>
    rw [if_pos ⟨h.1, amount.e_mem⟩]
    exact parseCanonicalExponent_text h.2 hlimits.2

/-- **A text that is read is one of the grammar.** -/
theorem exists_of_parseAmount {xlsxCanonical : Bool}
    (h : parseAmount text parsed claimId xlsxCanonical = .ok cents) : ∃ amount : Amount,
      amount.IsProper parsed xlsxCanonical ∧ amount.text parsed = text ∧
        amount.IsWithinLimits parsed := by
  rw [parseAmount] at h
  split at h
  · cases h
  next hlength =>
  split at h
  · next hexponent =>
    rw [parseCanonicalExponent] at h
    split at h
    · cases h
    · next amount hmatch =>
      obtain ⟨hproper, rfl⟩ := of_matchExponent hmatch
      simp only at h
      split at h
      · cases h
      · next hlimit =>
        exact ⟨.exponent amount, ⟨hexponent.1, hproper⟩, rfl,
          Nat.le_of_not_lt hlength, Nat.le_of_not_lt hlimit⟩
  · obtain ⟨amount, hproper, rfl, hsize⟩ := exists_of_parsePlain h
    exact ⟨.plain amount, hproper, rfl, Nat.le_of_not_lt hlength, hsize⟩

end

/-! ## Renderings -/

section
variable {parsed : ParsedFormat} {cents : Int} {style : PlainStyle}

theorem amountScale_mul (parsed : ParsedFormat) :
    parsed.amountScale * 100 = 10 ^ centPlaces parsed.amountScale := by
  have hall : ∀ scale ∈ SCALES, scale * 100 = 10 ^ centPlaces scale := by decide
  exact hall _ parsed.amountScale_mem

/-- A number of cents in the range has ten digits at most. -/
theorem natAbs_lt (hmin : INT_MIN ≤ cents) (hmax : cents ≤ INT_MAX) : cents.natAbs < 10 ^ 10 := by
  rw [INT_MIN] at hmin
  rw [INT_MAX] at hmax
  omega

theorem scaled_value {factor : ℚ} (hfactor : factor = if cents < 0 then -1 else 1) :
    factor * ((cents.natAbs : ℚ) / 10 ^ centPlaces parsed.amountScale) * parsed.amountScale * 100 =
      cents := by
  have hscale : (parsed.amountScale : ℚ) * 100 = 10 ^ centPlaces parsed.amountScale := by
    exact_mod_cast amountScale_mul parsed
  have hcents : factor * (cents.natAbs : ℚ) = cents := by
    rw [hfactor]
    split
    · next hneg =>
      have habs : cents = -(cents.natAbs : Int) := by omega
      rw [habs, Int.cast_neg, Int.cast_natCast, Int.natAbs_neg, Int.natAbs_natCast, neg_one_mul]
    · next hpos =>
      have habs : cents = (cents.natAbs : Int) := by omega
      rw [habs, Int.cast_natCast, Int.natAbs_natCast, one_mul]
  rw [mul_assoc, hscale, ← mul_div_assoc, hcents, div_mul_cancel₀ _ (by positivity)]

theorem isDigits_of_mem_thousands {digits group : JsString} (h : isDigits digits)
    (hgroup : group ∈ thousands digits) : isDigits group := by
  obtain ⟨hne, hall⟩ := isDigits_iff.1 h
  obtain ⟨first, rest, hthousands, hfirst, _, hrest, hflatten⟩ := thousands_eq hne
  rw [hthousands] at hgroup
  refine isDigits_iff.2 ⟨?_, fun u hu => hall u ?_⟩
  · rcases mem_cons.1 hgroup with rfl | hgroup
    · exact hfirst
    · intro hnil
      have := hrest group hgroup
      rw [hnil] at this
      cases this
  · rw [← hflatten]
    rcases mem_cons.1 hgroup with rfl | hgroup
    · exact mem_append_left _ hu
    · exact mem_append_right _ (mem_flatten.2 ⟨group, hgroup, hu⟩)

section
variable (parsed : ParsedFormat) (style : PlainStyle) (cents : Int)

theorem groups_renderPlain : (renderPlain parsed style cents).groups = if style.grouped then
      thousands (decimal (shownUnits parsed style.places cents / 10 ^ style.places))
    else [decimal (shownUnits parsed style.places cents / 10 ^ style.places)] := rfl

theorem flatten_renderPlain : (renderPlain parsed style cents).groups.flatten =
      decimal (shownUnits parsed style.places cents / 10 ^ style.places) := by
  rw [groups_renderPlain]
  split
  · obtain ⟨first, rest, hthousands, _, _, _, hflatten⟩ :=
      thousands_eq (isDigits_iff.1 (isDigits_decimal
        (shownUnits parsed style.places cents / 10 ^ style.places))).1
    rw [hthousands, flatten_cons, hflatten]
  · simp

theorem fraction_renderPlain : (renderPlain parsed style cents).fraction.getD [] =
      fixedDigits style.places (shownUnits parsed style.places cents) := by
  show (if style.places = 0 then none
    else some (fixedDigits style.places (shownUnits parsed style.places cents))).getD [] = _
  split
  · next hplaces =>
    rw [hplaces]
    rfl
  · rfl

end

theorem isProper_renderPlain (h : style.Accepts parsed cents) :
    (renderPlain parsed style cents).IsProper parsed := by
  have hdigits := isDigits_decimal (shownUnits parsed style.places cents / 10 ^ style.places)
  have hgroups : ∃ first rest, (renderPlain parsed style cents).groups = first :: rest ∧
      (∀ group ∈ first :: rest, isDigits group) ∧ (rest ≠ [] → style.grouped ∧ first.length ≤ 3) ∧
        ∀ group ∈ rest, group.length = 3 := by
    rw [groups_renderPlain]
    split
    · next hgrouped =>
      obtain ⟨first, rest, hthousands, _, hfirst, hrest, _⟩ :=
        thousands_eq (isDigits_iff.1 hdigits).1
      rw [hthousands]
      refine ⟨first, rest, rfl, fun group hgroup => ?_, fun _ => ⟨hgrouped, hfirst⟩, hrest⟩
      exact isDigits_of_mem_thousands hdigits (hthousands ▸ hgroup)
    · exact ⟨_, [], rfl, forall_mem_singleton.2 hdigits, fun hne => absurd rfl hne,
        forall_mem_nil _⟩
  obtain ⟨first, rest, hgroups, hall, hfirst, hrest⟩ := hgroups
  refine ⟨h.before, h.after, ?_, h.symbol, by simp [hgroups], hgroups ▸ hall, fun hnone => ?_,
    fun hlong => ?_, by simpa [hgroups] using hrest, fun digits hmem => ?_⟩
  · show (if cents < 0 then style.negative else .none).IsProper
    split
    · exact h.negative.1
    · trivial
  · by_contra hlength
    have hne : rest ≠ [] := by
      rintro rfl
      exact hlength (by simp [hgroups])
    exact h.grouped (hfirst hne).1 hnone
  · have hne : rest ≠ [] := by
      rintro rfl
      simp [hgroups] at hlong
    intro group hgroup
    rw [hgroups] at hgroup
    exact Option.some.inj hgroup ▸ (hfirst hne).2
  · simp only [renderPlain] at hmem
    split at hmem
    · cases hmem
    · next hplaces =>
      obtain rfl := Option.some.inj hmem
      exact ⟨isDigits_fixedDigits hplaces _, h.fraction hplaces⟩

theorem value_renderPlain (h : style.Accepts parsed cents) :
    (renderPlain parsed style cents).value * parsed.amountScale * 100 = cents := by
  have hshown : (shownUnits parsed style.places cents : ℚ) / 10 ^ style.places =
      (cents.natAbs : ℚ) / 10 ^ centPlaces parsed.amountScale := by
    rw [shownUnits, Nat.cast_div h.exact (by positivity)]
    push_cast
    field_simp
  rw [PlainAmount.value, flatten_renderPlain, fraction_renderPlain, decimalValue_fixedDigits,
    hshown]
  refine scaled_value ?_
  show (if (if cents < 0 then style.negative else .none) = .none then (1 : ℚ) else -1) = _
  split
  · next hneg => rw [if_neg h.negative.2]
  · next hpos => rw [if_pos rfl]

theorem size_renderPlain (hmin : INT_MIN ≤ cents) (hmax : cents ≤ INT_MAX)
    (h : style.Accepts parsed cents) : (renderPlain parsed style cents).size ≤ 100 := by
  have hle : shownUnits parsed style.places cents / 10 ^ style.places ≤ cents.natAbs := by
    refine Nat.div_le_of_le_mul ?_
    rw [shownUnits, Nat.mul_comm]
    exact Nat.div_le_self _ _
  have hdigits := length_decimal_le (by decide) (hle.trans_lt (natAbs_lt hmin hmax))
  have hplaces := h.places
  rw [PlainAmount.size, flatten_renderPlain, fraction_renderPlain, length_fixedDigits]
  omega

section
variable (parsed : ParsedFormat) (cents : Int)

theorem exponentValue_renderExponent : (renderExponent parsed cents).exponentValue =
      ((decimal cents.natAbs).tail.length : Int) - centPlaces parsed.amountScale := by
  simp only [ExponentAmount.exponentValue, renderExponent, ofDecimal_decimal, decide_eq_true_eq]
  split <;> omega

theorem renderExponent_digits :
    (renderExponent parsed cents).lead :: (renderExponent parsed cents).fraction =
      decimal cents.natAbs := by
  obtain ⟨lead, rest, hdigits⟩ :=
    exists_cons_of_ne_nil (isDigits_iff.1 (isDigits_decimal cents.natAbs)).1
  simp [renderExponent, hdigits]

theorem isProper_renderExponent : (renderExponent parsed cents).IsProper := by
  have hall := (isDigits_iff.1 (isDigits_decimal cents.natAbs)).2
  rw [← renderExponent_digits parsed cents] at hall
  obtain ⟨hlead, hfraction⟩ := forall_mem_cons.1 hall
  exact ⟨hlead, hfraction, isDigits_decimal _⟩

theorem value_renderExponent :
    (renderExponent parsed cents).value * parsed.amountScale * 100 = cents := by
  have hfraction : (renderExponent parsed cents).fraction = (decimal cents.natAbs).tail := rfl
  have hdigits := renderExponent_digits parsed cents
  rw [ExponentAmount.value, decimalValue_eq, singleton_append, hdigits, ofDecimal_decimal,
    exponentValue_renderExponent, hfraction, zpow_sub₀ (by norm_num), zpow_natCast, zpow_natCast]
  have hcancel : ((cents.natAbs : ℚ) / 10 ^ (decimal cents.natAbs).tail.length) *
      (10 ^ (decimal cents.natAbs).tail.length / 10 ^ centPlaces parsed.amountScale) =
        (cents.natAbs : ℚ) / 10 ^ centPlaces parsed.amountScale := by field_simp
  rw [mul_assoc (ite _ _ _), hcancel]
  refine scaled_value ?_
  show (if decide (cents < 0) then (-1 : ℚ) else 1) = _
  simp only [decide_eq_true_eq]

end

theorem centPlaces_le (parsed : ParsedFormat) : centPlaces parsed.amountScale ≤ 11 := by
  have hall : ∀ scale ∈ SCALES, centPlaces scale ≤ 11 := by decide
  exact hall _ parsed.amountScale_mem

theorem isWithinLimits_renderExponent (hmin : INT_MIN ≤ cents) (hmax : cents ≤ INT_MAX) :
    (Amount.exponent (renderExponent parsed cents)).IsWithinLimits parsed := by
  have hplaces := centPlaces_le parsed
  have hdigits := length_decimal_le (by decide) (natAbs_lt hmin hmax)
  have hvalue := exponentValue_renderExponent parsed cents
  have htail : (decimal cents.natAbs).tail.length ≤ 9 := by
    rw [length_tail]
    omega
  refine ⟨?_, show _ ≤ 400 by omega⟩
  have hexponent : (renderExponent parsed cents).exponent.length ≤ 2 := by
    refine length_decimal_le (by decide) ?_
    show (((decimal cents.natAbs).tail.length : Int) -
      centPlaces parsed.amountScale).natAbs < 10 ^ 2
    omega
  have hfraction : (renderExponent parsed cents).fraction.length ≤ 9 := htail
  show (renderExponent parsed cents).text.length ≤ 128
  rw [ExponentAmount.text]
  split <;> split <;> simp <;> omega

end

/-! ## The parser is exact -/

/-- **A text within the limits is read as the exact number of cents that it stands for, or rejected
if there is none in the range**; the two notations agree, and rendered cents are read back. -/
theorem parsesExactly (parsed : ParsedFormat) : ParsesExactly parsed where
  exact text claimId xlsxCanonical cents := by
    constructor
    · intro h
      obtain ⟨amount, hproper, rfl, hlimits⟩ := exists_of_parseAmount h
      rw [parseAmount_text hproper hlimits] at h
      exact ⟨amount, hproper, rfl, hlimits, centsOf_ok.1 h⟩
    · rintro ⟨amount, hproper, rfl, hlimits, hcents⟩
      rw [parseAmount_text hproper hlimits]
      exact centsOf_ok.2 hcents
  agree plain exponent parsed' claimId xlsxCanonical hplain hexponent hscale hlimits hlimits'
      hvalue := by
    have hleft := @parseAmount_text parsed claimId (.plain plain) xlsxCanonical hplain hlimits
    have hright := @parseAmount_text parsed' claimId (.exponent exponent) true ⟨rfl, hexponent⟩
      hlimits'
    rw [hscale] at hright
    refine hleft.trans (Eq.trans ?_ hright.symm)
    exact congrArg (fun value => centsOf claimId (value * parsed.amountScale * 100)) hvalue
  render cents style claimId xlsxCanonical hmin hmax haccepts := by
    have hread := @parseAmount_text parsed claimId (.plain (renderPlain parsed style cents))
      xlsxCanonical (isProper_renderPlain haccepts)
      ⟨haccepts.length, size_renderPlain hmin hmax haccepts⟩
    exact hread.trans (centsOf_ok.2 ⟨(value_renderPlain haccepts).symm, hmin, hmax⟩)
  renderExponent cents claimId hmin hmax := by
    have hread := @parseAmount_text parsed claimId (.exponent (renderExponent parsed cents)) true
      ⟨rfl, isProper_renderExponent parsed cents⟩ (isWithinLimits_renderExponent hmin hmax)
    exact hread.trans (centsOf_ok.2 ⟨(value_renderExponent parsed cents).symm, hmin, hmax⟩)

/-! ## An amount beyond the limits -/

/-- `1,234.50`, in units. -/
def defaultFormat : ParsedFormat where
  amountScale := 1
  decimal := some 0x2E
  grouping := some 0x2C
  amountScale_mem := by decide
  decimal_mem := by decide
  grouping_mem := by decide
  distinct := by decide

example : parseAmount (lit " ($ 1,234.5) ") defaultFormat [] false = .ok (-123450) := by
  decide +kernel

/-- Zero with an exponent above 400 is rejected. -/
theorem not_exact_zero : ¬ ∀ (parsed : ParsedFormat) text claimId xlsxCanonical cents,
    parseAmount text parsed claimId xlsxCanonical = .ok cents ↔
      ∃ amount : Amount, amount.IsProper parsed xlsxCanonical ∧ amount.text parsed = text ∧
        StandsFor parsed amount cents := by
  intro h
  have hread : parseAmount (lit "0e+500") defaultFormat [] true = .ok 0 := by
    refine (h defaultFormat (lit "0e+500") [] true 0).2
      ⟨.exponent ⟨false, 0x30, [], false, lit "500"⟩, ⟨rfl, ?_⟩, by decide +kernel, ?_⟩
    · exact ⟨by decide, forall_mem_nil _, by decide⟩
    · refine ⟨?_, by decide, by decide⟩
      have hzero : decimalValue [0x30] [] = 0 := by
        rw [decimalValue_nil]
        exact_mod_cast (by decide : ofDecimal [0x30] = 0)
      simp [Amount.value, ExponentAmount.value, hzero]
  have hrejected : parseAmount (lit "0e+500") defaultFormat [] true =
      fail .invalidAmount [] := by decide +kernel
  rw [hrejected] at hread
  cases hread

end Corgtex.Agents.FinanceReport
