import Corgtex.Library.JsString
import Mathlib.Algebra.Order.Group.Int

/-!
# Dates

A valid `Date` is a time value: a number of milliseconds since 1970 within 100 000 000 days of it.
`toISOString` is the language's own decomposition of a time value, and `parseIso` reads the strings
that it writes (`parseIso_toISOString`), so that no two time values are written alike.
-/

open JsString Option

/-- A time value, in milliseconds. -/
structure TimeValue where
  ms : Int
  bound : ms.natAbs ≤ 8640000000000000
deriving DecidableEq

namespace JsDate

/-- The start of 1970. -/
def epoch : TimeValue := ⟨0, by decide⟩

/-! ## The calendar -/

def dayFromYear (year : Int) : Int :=
  365 * (year - 1970) + (year - 1969) / 4 - (year - 1901) / 100 + (year - 1601) / 400

/-- `YearFromTime`, by day: the average length of a year is off by one year at most. -/
def yearFromDay (day : Int) : Int :=
  let year := 1970 + day * 400 / 146097
  if day < dayFromYear year then year - 1
  else if dayFromYear (year + 1) ≤ day then year + 1
  else year

def isLeapYear (year : Int) : Bool := year % 4 = 0 && (year % 100 ≠ 0 || year % 400 = 0)

/-- The day of the year on which each month begins. -/
def monthStarts (leap : Bool) : List Nat :=
  let february := if leap then 29 else 28
  [0, 31, 31 + february, 62 + february, 92 + february, 123 + february, 153 + february,
    184 + february, 215 + february, 245 + february, 276 + february, 306 + february]

/-- `MonthFromTime`, from 0. -/
def monthFromDay (leap : Bool) (dayInYear : Nat) : Nat :=
  (monthStarts leap).countP (· ≤ dayInYear) - 1

/-- The day of the year on which a month begins. -/
def monthStart (leap : Bool) (month : Nat) : Nat := (monthStarts leap).getD month 0

/-! ## Writing and reading -/

/-- The decimal digits of `n`, to a fixed width. -/
def digits : Nat → Nat → JsString
  | 0, _ => []
  | width + 1, n => digits width (n / 10) ++ [(0x30 + n % 10).toUInt16]

/-- A number of a fixed width, after the digits in `value`. -/
def readDigits (value : Nat) : Nat → JsString → Option (Nat × JsString)
  | 0, s => some (value, s)
  | _ + 1, [] => none
  | width + 1, u :: s =>
    if 0x30 ≤ u && u ≤ 0x39 then readDigits (value * 10 + (u.toNat - 0x30)) width s else none

/-- A number of a fixed width and the punctuation after it. -/
def readField (width : Nat) (punctuation : UInt16) (s : JsString) : Option (Nat × JsString) :=
  (readDigits 0 width s).bind fun field =>
    match field.2 with
    | u :: s => if u = punctuation then some (field.1, s) else none
    | [] => none

/-- The year, which has a sign and six digits when it is not in `0 .. 9999`. -/
def yearDigits (year : Int) : JsString :=
  if 0 ≤ year ∧ year ≤ 9999 then digits 4 year.toNat
  else (if year < 0 then 0x2D else 0x2B) :: digits 6 year.natAbs

/-- The year and the `-` after it. -/
def readYear : JsString → Option (Int × JsString)
  | [] => none
  | u :: s =>
    if u = 0x2D then (readField 6 0x2D s).map fun year => (-(year.1 : Int), year.2)
    else if u = 0x2B then (readField 6 0x2D s).map fun year => ((year.1 : Int), year.2)
    else (readField 4 0x2D (u :: s)).map fun year => ((year.1 : Int), year.2)

/-- `date.toISOString()`, on the time value. -/
def toISOString (t : TimeValue) : JsString :=
  let day := t.ms / 86400000
  let time := (t.ms % 86400000).toNat
  let year := yearFromDay day
  let dayInYear := (day - dayFromYear year).toNat
  let month := monthFromDay (isLeapYear year) dayInYear
  let date := dayInYear - monthStart (isLeapYear year) month + 1
  yearDigits year ++ 0x2D :: digits 2 (month + 1) ++ 0x2D :: digits 2 date ++
    0x54 :: digits 2 (time / 3600000) ++ 0x3A :: digits 2 (time / 60000 % 60) ++
    0x3A :: digits 2 (time / 1000 % 60) ++ 0x2E :: digits 3 (time % 1000) ++ [0x5A]

def timeClip (ms : Int) : Option TimeValue :=
  if h : ms.natAbs ≤ 8640000000000000 then some ⟨ms, h⟩ else none

/-- `Date.parse(s)`, on the strings in the format of `toISOString`. -/
def parseIso (s : JsString) : Option TimeValue := do
  let (year, s) ← readYear s
  let (month, s) ← readField 2 0x2D s
  let (date, s) ← readField 2 0x54 s
  let (hours, s) ← readField 2 0x3A s
  let (minutes, s) ← readField 2 0x3A s
  let (seconds, s) ← readField 2 0x2E s
  let (millis, s) ← readField 3 0x5A s
  if s ≠ [] ∨ month = 0 ∨ 12 < month ∨ date = 0 ∨ 31 < date ∨ 23 < hours ∨ 59 < minutes ∨
      59 < seconds then
    none
  else
    timeClip <|
      (dayFromYear year + monthStart (isLeapYear year) (month - 1) + (date - 1)) * 86400000 +
        hours * 3600000 + minutes * 60000 + seconds * 1000 + millis

/-! ## The round trip -/

/-- Up to two days, a year is its average length after the last. -/
theorem dayFromYear_bounds (year : Int) :
    146097 * (year - 1970) - 800 ≤ 400 * dayFromYear year ∧
      400 * dayFromYear year ≤ 146097 * (year - 1970) + 800 := by
  simp only [dayFromYear]
  omega

theorem yearFromDay_spec (day : Int) :
    dayFromYear (yearFromDay day) ≤ day ∧ day < dayFromYear (yearFromDay day + 1) := by
  have hbefore := dayFromYear_bounds (1970 + day * 400 / 146097 - 1)
  have hafter := dayFromYear_bounds (1970 + day * 400 / 146097 + 1 + 1)
  simp only [yearFromDay]
  split
  · next h =>
    rw [Int.sub_add_cancel]
    exact ⟨by omega, h⟩
  · split
    · next h => exact ⟨h, by omega⟩
    · next h h' => exact ⟨Int.not_lt.1 h, Int.not_le.1 h'⟩

theorem dayFromYear_succ (year : Int) :
    dayFromYear (year + 1) = dayFromYear year + if isLeapYear year then 366 else 365 := by
  simp only [dayFromYear, isLeapYear, Bool.and_eq_true, Bool.or_eq_true, decide_eq_true_eq]
  split <;> omega

theorem readDigits_digits (value width width' n : Nat) (s : JsString) :
    readDigits value (width + width') (digits width n ++ s) =
      readDigits (value * Nat.pow 10 width + n % Nat.pow 10 width) width' s := by
  induction width generalizing width' n s with
  | zero => simp [digits, Nat.mod_one]
  | succ width ih =>
    have hdigit : ((0x30 + n % 10).toUInt16).toNat = 0x30 + n % 10 := by
      rw [Nat.toUInt16_eq, UInt16.toNat_ofNat']
      omega
    have hmod : n % (Nat.pow 10 width * 10) = n / 10 % Nat.pow 10 width * 10 + n % 10 := by
      rw [Nat.mul_comm (Nat.pow 10 width), Nat.mod_mul, Nat.add_comm, Nat.mul_comm 10]
    have hrange : (0x30 ≤ (0x30 + n % 10).toUInt16 && (0x30 + n % 10).toUInt16 ≤ 0x39) = true := by
      rw [Bool.and_eq_true, decide_eq_true_eq, decide_eq_true_eq, UInt16.le_iff_toNat_le,
        UInt16.le_iff_toNat_le, hdigit]
      change 48 ≤ 48 + n % 10 ∧ 48 + n % 10 ≤ 57
      omega
    rw [digits, List.append_assoc, Nat.add_assoc, Nat.add_comm 1, ih, List.cons_append, readDigits,
      if_pos hrange, hdigit, Nat.add_sub_cancel_left, List.nil_append]
    congr 1
    change _ = value * (Nat.pow 10 width * 10) + n % (Nat.pow 10 width * 10)
    rw [hmod, ← Nat.mul_assoc, Nat.add_mul, Nat.add_assoc]

theorem readField_digits (width n : Nat) (h : n < Nat.pow 10 width) (punctuation : UInt16)
    (s : JsString) :
    readField width punctuation (digits width n ++ punctuation :: s) = some (n, s) := by
  have hread := readDigits_digits 0 width 0 n (punctuation :: s)
  rw [Nat.mod_eq_of_lt h, Nat.zero_mul, Nat.zero_add, Nat.add_zero] at hread
  rw [readField, hread]
  simp [readDigits]

theorem digits_succ (width n : Nat) : ∃ (u : UInt16) (s : JsString),
    0x30 ≤ u.toNat ∧ digits (width + 1) n = u :: s := by
  induction width generalizing n with
  | zero =>
    refine ⟨(0x30 + n % 10).toUInt16, [], ?_, rfl⟩
    rw [Nat.toUInt16_eq, UInt16.toNat_ofNat']
    omega
  | succ width ih =>
    obtain ⟨u, s, hu, hs⟩ := ih (n / 10)
    exact ⟨u, s ++ [(0x30 + n % 10).toUInt16], hu, by rw [digits, hs, List.cons_append]⟩

theorem readYear_yearDigits {year : Int} (h : year.natAbs < 1000000) (s : JsString) :
    readYear (yearDigits year ++ 0x2D :: s) = some (year, s) := by
  unfold yearDigits
  split
  · next hyear =>
    have hread := readField_digits 4 year.toNat (by
      change _ < 10000
      omega) 0x2D s
    obtain ⟨u, rest, hu, hdigits⟩ := digits_succ 3 year.toNat
    have hminus : u ≠ 0x2D := fun he => absurd (he ▸ hu) (by decide)
    have hplus : u ≠ 0x2B := fun he => absurd (he ▸ hu) (by decide)
    rw [hdigits] at hread ⊢
    rw [List.cons_append, readYear, if_neg hminus, if_neg hplus, ← List.cons_append, hread]
    simpa using hyear.1
  · next hyear =>
    have hread := readField_digits 6 year.natAbs h 0x2D s
    rw [List.cons_append]
    by_cases hsign : year < 0
    · rw [if_pos hsign, readYear, if_pos rfl, hread]
      simp only [map_some, some.injEq, Prod.mk.injEq, and_true]
      omega
    · rw [if_neg hsign, readYear, if_neg (by decide), if_pos rfl, hread]
      simp only [map_some, some.injEq, Prod.mk.injEq, and_true]
      omega

theorem monthFromDay_spec : ∀ (leap : Bool), ∀ dayInYear < 366,
    monthFromDay leap dayInYear < 12 ∧
      monthStart leap (monthFromDay leap dayInYear) ≤ dayInYear ∧
      (dayInYear < (if leap then 366 else 365) →
        dayInYear < monthStart leap (monthFromDay leap dayInYear) + 31) := by
  decide +kernel

theorem timeClip_ms (t : TimeValue) : timeClip t.ms = some t := dif_pos t.bound

/-- **Round trip.** A time value is read back from its ISO string. -/
theorem parseIso_toISOString (t : TimeValue) : parseIso (toISOString t) = some t := by
  have hbound := t.bound
  obtain ⟨day, hday⟩ : ∃ day, day = t.ms / 86400000 := ⟨_, rfl⟩
  obtain ⟨year, hyear⟩ : ∃ year, year = yearFromDay day := ⟨_, rfl⟩
  obtain ⟨hfirst, hlast⟩ := yearFromDay_spec day
  rw [← hyear] at hfirst hlast
  rw [dayFromYear_succ] at hlast
  have hdays : -100000000 ≤ day ∧ day ≤ 100000000 := by omega
  have hdigits : year.natAbs < 1000000 := by
    have := dayFromYear_bounds year
    split at hlast <;> omega
  obtain ⟨dayInYear, hdayInYear⟩ : ∃ d, d = (day - dayFromYear year).toNat := ⟨_, rfl⟩
  have hlength : dayInYear < if isLeapYear year then 366 else 365 := by
    split at hlast
    · next h => rw [if_pos h]; omega
    · next h => rw [if_neg h]; omega
  obtain ⟨hmonth, hstart, hdate⟩ := monthFromDay_spec (isLeapYear year) dayInYear
    (by split at hlength <;> omega)
  have hdate := hdate hlength
  simp only [toISOString, parseIso, List.append_assoc, List.cons_append, ← hday, ← hyear,
    ← hdayInYear]
  obtain ⟨month, hmonth'⟩ : ∃ m, m = monthFromDay (isLeapYear year) dayInYear := ⟨_, rfl⟩
  obtain ⟨start, hstart'⟩ : ∃ s, s = monthStart (isLeapYear year) month := ⟨_, rfl⟩
  rw [← hmonth'] at hmonth hstart hdate ⊢
  rw [← hstart'] at hstart hdate ⊢
  obtain ⟨time, htime⟩ : ∃ time, time = (t.ms % 86400000).toNat := ⟨_, rfl⟩
  have htwo : ∀ n < 100, n < Nat.pow 10 2 := fun _ h => h
  have hthree : ∀ n < 1000, n < Nat.pow 10 3 := fun _ h => h
  rw [← htime, readYear_yearDigits hdigits]
  simp only [bind_eq_bind, bind_some]
  rw [readField_digits _ _ (htwo _ (by omega)), bind_some]
  simp only
  rw [readField_digits _ _ (htwo _ (by omega)), bind_some]
  simp only
  rw [readField_digits _ _ (htwo _ (by omega)), bind_some]
  simp only
  rw [readField_digits _ _ (htwo _ (by omega)), bind_some]
  simp only
  rw [readField_digits _ _ (htwo _ (by omega)), bind_some]
  simp only
  rw [readField_digits _ _ (hthree _ (by omega)), bind_some]
  simp only
  rw [if_neg (by simp; omega), Nat.add_sub_cancel, ← hstart', ← timeClip_ms t]
  congr 1
  omega

end JsDate
