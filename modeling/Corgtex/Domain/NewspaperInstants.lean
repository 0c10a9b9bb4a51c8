import Corgtex.Domain.NewspaperSchedule
import Mathlib.Order.Bounds.Basic

/-!
# The instant of an edition

`newspaperScheduledInstant` inverts a local time: it tries the offsets of three samples and, where
none of them shows the time, searches for the end of a gap. It finds the first minute of the date
that reaches the requested time, and none only where no minute does (`scheduledInstant_eq_some`).
-/

namespace Corgtex.Domain.NewspaperSchedule

open JsArray List

variable {date : Int} {localTime : LocalTime} {timeZone : TimeZone}

/-! ## Minutes -/

section
variable (date : Int) (localTime : LocalTime)

/-- The requested local time of a date, in minutes. -/
def requested : Int :=
  date * 1440 + localTime.hour * 60 + localTime.minute

/-- A minute shows the date, at the requested time or later. -/
def Reaches (timeZone : TimeZone) (minute : Int) : Prop :=
  requested date localTime ≤ timeZone.wall minute ∧ timeZone.wall minute < (date + 1) * 1440

theorem requested_lt :
    date * 1440 ≤ requested date localTime ∧ requested date localTime < (date + 1) * 1440 := by
  have hhour := localTime.hour_lt
  have hminute := localTime.minute_lt
  unfold requested
  omega

theorem dateUTC_requested :
    dateUTC date localTime.hour localTime.minute = requested date localTime * 60000 := by
  unfold dateUTC requested
  omega

end

section
variable (minute : Int)

theorem parts_minute (timeZone : TimeZone) : getNewspaperLocalDateParts (minute * 60000) timeZone =
      ⟨timeZone.wall minute / 1440, weekdayOf (timeZone.wall minute / 1440),
        timeZone.wall minute % 1440 / 60, timeZone.wall minute % 60⟩ := by
  unfold getNewspaperLocalDateParts TimeZone.wall TimeZone.minuteOffset
  rw [Int.mul_ediv_cancel _ (by decide)]

theorem atOrAfter_iff : atOrAfter date localTime timeZone (minute * 60000) = true ↔
      requested date localTime ≤ timeZone.wall minute := by
  have hhour := localTime.hour_lt
  have hminute := localTime.minute_lt
  unfold atOrAfter requested
  simp only [parts_minute, Bool.or_eq_true, Bool.and_eq_true, decide_eq_true_eq]
  omega

theorem showsExactly_iff : showsExactly date localTime timeZone (minute * 60000) = true ↔
      timeZone.wall minute = requested date localTime := by
  have hhour := localTime.hour_lt
  have hminute := localTime.minute_lt
  unfold showsExactly requested
  simp only [parts_minute, Bool.and_eq_true, decide_eq_true_eq]
  omega

theorem sampledOffset (timeZone : TimeZone) :
    dateUTC (timeZone.wall minute / 1440) (timeZone.wall minute % 1440 / 60)
      (timeZone.wall minute % 60) - minute * 60000 = timeZone.minuteOffset minute * 60000 := by
  have hwall : timeZone.wall minute = minute + timeZone.minuteOffset minute := rfl
  unfold dateUTC
  omega

theorem sampledOffsets_eq : sampledOffsets timeZone (minute * 60000) = distinct
      [timeZone.minuteOffset (minute - 1440) * 60000, timeZone.minuteOffset minute * 60000,
        timeZone.minuteOffset (minute + 1440) * 60000] := by
  have hbefore : minute * 60000 - 24 * 60 * 60000 = (minute - 1440) * 60000 := by omega
  have hafter : minute * 60000 + 24 * 60 * 60000 = (minute + 1440) * 60000 := by omega
  unfold sampledOffsets
  simp only [map_cons, map_nil, hbefore, hafter, parts_minute, sampledOffset]

end

theorem sortBy_pair (x y : Int) (h : x < y) :
    sortBy (fun a b => a - b) [x, y] = [x, y] ∧ sortBy (fun a b => a - b) [y, x] = [x, y] := by
  constructor <;> simp [sortBy, insertionSort, orderedInsert] <;> omega

/-! ## The choice -/

variable {minute : Int}

theorem chooseInstant_first {rest : List Int}
    (h : timeZone.wall minute = requested date localTime) :
    chooseInstant date localTime timeZone (minute * 60000 :: rest) = some (minute * 60000) := by
  unfold chooseInstant
  rw [find?_cons_of_pos (showsExactly_iff minute |>.2 h)]

theorem chooseInstant_second {minute other : Int}
    (hother : timeZone.wall other ≠ requested date localTime)
    (h : timeZone.wall minute = requested date localTime) :
    chooseInstant date localTime timeZone [other * 60000, minute * 60000] =
      some (minute * 60000) := by
  have hnot : ¬ showsExactly date localTime timeZone (other * 60000) = true := fun hshows =>
    hother ((showsExactly_iff other).1 hshows)
  unfold chooseInstant
  rw [find?_cons_of_neg hnot, find?_cons_of_pos (showsExactly_iff minute |>.2 h)]

/-- **In a gap** the search ends at the first minute after it, which counts if it is still of the
date. -/
theorem chooseInstant_gap {low high change : Int} (hlow : low < change) (hhigh : change ≤ high)
    (hbefore : ∀ k, low ≤ k → k < change → timeZone.wall k < requested date localTime)
    (hafter : ∀ k, change ≤ k → k ≤ high → requested date localTime < timeZone.wall k) :
    chooseInstant date localTime timeZone [low * 60000, high * 60000] =
      if timeZone.wall change < (date + 1) * 1440 then some (change * 60000) else none := by
  have hfirst := hbefore low le_rfl hlow
  have hlast := hafter high hhigh le_rfl
  have hnone : [low * 60000, high * 60000].find? (showsExactly date localTime timeZone) = none := by
    rw [find?_eq_none]
    intro timestamp hmem hshows
    simp only [mem_cons, not_mem_nil, or_false] at hmem
    rcases hmem with rfl | rfl
    · have := (showsExactly_iff low).1 hshows
      omega
    · have := (showsExactly_iff high).1 hshows
      omega
  have hfloor : low * 60000 / 60000 = low := by omega
  have hceil : (high * 60000 + 59999) / 60000 = high := by omega
  let reached := fun minute => atOrAfter date localTime timeZone (minute * 60000)
  have hnotlow : reached low = false :=
    Bool.eq_false_iff.2 fun h => absurd ((atOrAfter_iff low).1 h) (by omega)
  have hishigh : reached high = true := (atOrAfter_iff high).2 hlast.le
  obtain ⟨hreached, hnot, habove, hbelow⟩ := @bisect_spec reached
    (high - low).toNat low high hnotlow hishigh (by omega) (by omega)
  have hborder : bisect reached (high - low).toNat low high = change := by
    generalize bisect reached (high - low).toNat low high = first at *
    by_contra hne
    rcases lt_or_gt_of_ne hne with hlt | hgt
    · have := hbefore first habove.le hlt
      have := (atOrAfter_iff first).1 hreached
      omega
    · have := hafter (first - 1) (by omega) (by omega)
      have hreached' : reached (first - 1) = true := (atOrAfter_iff (first - 1)).2 (by omega)
      rw [hreached'] at hnot
      cases hnot
  have hdate : (getNewspaperLocalDateParts (change * 60000) timeZone).date = date ↔
      timeZone.wall change < (date + 1) * 1440 := by
    have := hafter change le_rfl hhigh
    have := requested_lt date localTime
    rw [parts_minute]
    simp only
    omega
  unfold chooseInstant
  rw [hnone]
  simp only [length_cons, length_nil, head?_cons, Option.getD_some,
    getLast?_cons_cons, getLast?_singleton, hfloor, hceil]
  change (if 2 < 2 then none else if (reached low || !reached high) = true then none else
    if (getNewspaperLocalDateParts (bisect reached (high - low).toNat low high * 60000)
      timeZone).date = date then some (bisect reached (high - low).toNat low high * 60000)
    else none) = _
  rw [if_neg (by decide), hnotlow, hishigh, if_neg (by decide), hborder]
  simp only [hdate]

/-! ## The first minute that reaches the requested time -/

/-- What `newspaperScheduledInstant` should find: the first minute that reaches the requested time
of the date, if there is one. -/
def FindsFirst (date : Int) (localTime : LocalTime) (timeZone : TimeZone)
    (found : Option Int) : Prop :=
  (∃ minute, found = some (minute * 60000) ∧
      IsLeast {k | Reaches date localTime timeZone k} minute) ∨
    (found = none ∧ ∀ minute, ¬ Reaches date localTime timeZone minute)

theorem scheduledInstant_eq : newspaperScheduledInstant date localTime timeZone =
    chooseInstant date localTime timeZone (sortBy (fun a b => a - b) ((distinct
      [timeZone.minuteOffset (requested date localTime - 1440) * 60000,
        timeZone.minuteOffset (requested date localTime) * 60000,
        timeZone.minuteOffset (requested date localTime + 1440) * 60000]).map
          fun offset => requested date localTime * 60000 - offset)) := by
  unfold newspaperScheduledInstant
  simp only [dateUTC_requested, sampledOffsets_eq]

/-- A minute that shows exactly the requested time is first if none before it reaches that. -/
theorem findsFirst_of_exact {found : Option Int}
    (hfound : found = some (minute * 60000)) (h : timeZone.wall minute = requested date localTime)
    (hbefore : ∀ k < minute, timeZone.wall k < requested date localTime) :
    FindsFirst date localTime timeZone found := by
  refine .inl ⟨minute, hfound, ⟨h.ge, h.trans_lt (requested_lt date localTime).2⟩, ?_⟩
  intro k hk
  by_contra hlt
  have := hbefore k (by omega)
  have := hk.1
  omega

/-- Before the samples, no minute reaches the requested time. -/
theorem wall_lt_of_early {k : Int} (h : k ≤ requested date localTime - 1440) :
    timeZone.wall k < requested date localTime := by
  have := timeZone.wall_bounds k
  omega

theorem findsFirst_constant {offset : Int}
    (h : ∀ k, requested date localTime - 1440 ≤ k → k ≤ requested date localTime + 1440 →
      timeZone.minuteOffset k = offset) :
    FindsFirst date localTime timeZone (newspaperScheduledInstant date localTime timeZone) := by
  obtain ⟨W, hW⟩ : ∃ W, W = requested date localTime := ⟨_, rfl⟩
  have hbounded : -1440 < offset ∧ offset < 1440 := h W (by omega) (by omega) ▸ timeZone.bounded _
  have hwall : ∀ k, W - 1440 ≤ k → k ≤ W + 1440 → timeZone.wall k = k + offset := by
    intro k hlow hhigh
    rw [TimeZone.wall, h k (by omega) (by omega)]
  have hexact : timeZone.wall (W - offset) = W := by
    rw [hwall (W - offset) (by omega) (by omega)]
    omega
  refine findsFirst_of_exact ?_ (hexact.trans hW) fun k hk => ?_
  · rw [scheduledInstant_eq, ← hW, h (W - 1440) (by omega) (by omega), h W (by omega) (by omega),
      h (W + 1440) (by omega) (by omega)]
    have hcandidates : sortBy (fun a b : Int => a - b)
        ((distinct [offset * 60000, offset * 60000, offset * 60000]).map
          fun offset => W * 60000 - offset) = [(W - offset) * 60000] := by
      simp [distinct, sortBy, Int.sub_mul]
    rw [hcandidates]
    exact chooseInstant_first (hexact.trans hW)
  · by_cases hearly : k ≤ W - 1440
    · exact wall_lt_of_early (by omega)
    · rw [hwall k (by omega) (by omega)]
      omega

/-- Two offsets make two candidates, in the order of their instants. -/
theorem candidates_pair (W : Int) {p q middle : Int} (hmiddle : middle = p ∨ middle = q)
    (hlt : p < q) :
    sortBy (fun a b : Int => a - b) ((distinct [p * 60000, middle * 60000, q * 60000]).map
        fun offset => W * 60000 - offset) = [(W - q) * 60000, (W - p) * 60000] ∧
      sortBy (fun a b : Int => a - b) ((distinct [q * 60000, middle * 60000, p * 60000]).map
        fun offset => W * 60000 - offset) = [(W - q) * 60000, (W - p) * 60000] := by
  have hne : p * 60000 ≠ q * 60000 := by omega
  have horder : (W - q) * 60000 < (W - p) * 60000 := by omega
  have hp : W * 60000 - p * 60000 = (W - p) * 60000 := by omega
  have hq : W * 60000 - q * 60000 = (W - q) * 60000 := by omega
  obtain ⟨hsorted, hswapped⟩ := sortBy_pair _ _ horder
  rcases hmiddle with rfl | rfl
  · simp [distinct, hne, hne.symm, hp, hq, hsorted, hswapped]
  · simp [distinct, hne, hne.symm, hp, hq, hsorted, hswapped]

section
variable {W p q change : Int} (hW : W = requested date localTime)
  (hearly : ∀ k, W - 1440 ≤ k → k < change → timeZone.wall k = k + p)
  (hlate : ∀ k, change ≤ k → k ≤ W + 1440 → timeZone.wall k = k + q)

include hW hearly

variable {found : Option Int}

theorem findsFirst_before (hfound : found = some ((W - p) * 60000))
    (hbefore : W - p < change) (hp : -1440 < p ∧ p < 1440) :
    FindsFirst date localTime timeZone found := by
  have hexact : timeZone.wall (W - p) = W := by
    rw [hearly (W - p) (by omega) hbefore]
    omega
  refine findsFirst_of_exact hfound (hexact.trans hW) fun k hk => ?_
  by_cases hfar : k ≤ W - 1440
  · exact wall_lt_of_early (by omega)
  · rw [hearly k (by omega) (by omega)]
    omega

include hlate

theorem findsFirst_after (hfound : found = some ((W - q) * 60000))
    (hlow : change ≤ W - p) (hhigh : change ≤ W - q) (hq : -1440 < q ∧ q < 1440) :
    FindsFirst date localTime timeZone found := by
  have hexact : timeZone.wall (W - q) = W := by
    rw [hlate (W - q) hhigh (by omega)]
    omega
  refine findsFirst_of_exact hfound (hexact.trans hW) fun k hk => ?_
  by_cases hfar : k ≤ W - 1440
  · exact wall_lt_of_early (by omega)
  · by_cases hchange : k < change
    · rw [hearly k (by omega) hchange]
      omega
    · rw [hlate k (by omega) (by omega)]
      omega

theorem findsFirst_gap
    (hfound : found =
      if timeZone.wall change < (date + 1) * 1440 then some (change * 60000) else none)
    (hlow : W - q < change) (hhigh : change ≤ W - p) (hlast : change ≤ W + 1440)
    (hfirst : W - 1440 < change) :
    FindsFirst date localTime timeZone found := by
  have hbefore : ∀ k < change, timeZone.wall k < requested date localTime := by
    intro k hk
    by_cases hfar : k ≤ W - 1440
    · exact wall_lt_of_early (by omega)
    · rw [hearly k (by omega) hk]
      omega
  have hchange : timeZone.wall change = change + q := hlate change le_rfl hlast
  have hne : timeZone.minuteOffset (change - 1) ≠ timeZone.minuteOffset change := by
    have hprevious := hearly (change - 1) (by omega) (by omega)
    unfold TimeZone.wall at hprevious hchange
    omega
  rw [hfound]
  split
  · next hshown =>
    refine .inl ⟨change, rfl, ⟨by omega, hshown⟩, fun k hk => ?_⟩
    by_contra hlt
    have := hbefore k (by omega)
    have := hk.1
    omega
  · next hover =>
    refine .inr ⟨rfl, fun k hk => ?_⟩
    by_cases hlt : k < change
    · have := hbefore k hlt
      have := hk.1
      omega
    · have := TimeZone.wall_change_le hne (k := k) (by omega)
      have := hk.2
      omega

end

/-- **The scheduled instant is the first minute of the date that reaches the requested time.** -/
theorem findsFirst_scheduledInstant :
    FindsFirst date localTime timeZone (newspaperScheduledInstant date localTime timeZone) := by
  obtain ⟨W, hW⟩ : ∃ W, W = requested date localTime := ⟨_, rfl⟩
  rcases @TimeZone.minuteOffsets_of_near timeZone (W - 1440) (W + 1440) (by omega) (by omega) with
    hconstant | ⟨change, hafter, hbefore, hearly, hlate, hne⟩
  · exact findsFirst_constant fun k hlow hhigh => hconstant k (by omega) (by omega)
  · obtain ⟨p, hp⟩ : ∃ p, p = timeZone.minuteOffset (W - 1440) := ⟨_, rfl⟩
    obtain ⟨q, hq⟩ : ∃ q, q = timeZone.minuteOffset (W + 1440) := ⟨_, rfl⟩
    have hpbound : -1440 < p ∧ p < 1440 := hp ▸ timeZone.bounded _
    have hqbound : -1440 < q ∧ q < 1440 := hq ▸ timeZone.bounded _
    have hmiddle : timeZone.minuteOffset W = p ∨ timeZone.minuteOffset W = q := by
      by_cases hlt : W < change
      · exact .inl (hp ▸ hearly W (by omega) hlt)
      · exact .inr (hq ▸ hlate W (by omega) (by omega))
    have hwallEarly : ∀ k, W - 1440 ≤ k → k < change → timeZone.wall k = k + p := by
      intro k hlow hlt
      rw [TimeZone.wall, hearly k hlow hlt, hp]
    have hwallLate : ∀ k, change ≤ k → k ≤ W + 1440 → timeZone.wall k = k + q := by
      intro k hle hhigh
      rw [TimeZone.wall, hlate k hle hhigh, hq]
    rw [← hp, ← hq] at hne
    rw [scheduledInstant_eq, ← hW, ← hp, ← hq]
    rcases lt_or_gt_of_ne hne with hforward | hbackward
    · rw [(candidates_pair W hmiddle hforward).1]
      by_cases hgap : W - q < change
      · have hskipped : timeZone.wall (W - q) ≠ requested date localTime := by
          rw [hwallEarly (W - q) (by omega) hgap]
          omega
        by_cases hshown : W - p < change
        · have hexact : timeZone.wall (W - p) = requested date localTime := by
            rw [hwallEarly (W - p) (by omega) hshown]
            omega
          exact findsFirst_before hW hwallEarly (chooseInstant_second hskipped hexact) hshown
            hpbound
        · refine findsFirst_gap hW hwallEarly hwallLate
            (chooseInstant_gap hgap (by omega) ?_ ?_) hgap (by omega) hbefore hafter
          · intro k hlow hlt
            rw [hwallEarly k (by omega) hlt]
            omega
          · intro k hle hhigh
            rw [hwallLate k hle (by omega)]
            omega
      · have hexact : timeZone.wall (W - q) = requested date localTime := by
          rw [hwallLate (W - q) (by omega) (by omega)]
          omega
        exact findsFirst_after hW hwallEarly hwallLate (chooseInstant_first hexact) (by omega)
          (by omega) hqbound
    · rw [(candidates_pair W hmiddle.symm hbackward).2]
      by_cases hshown : W - p < change
      · have hexact : timeZone.wall (W - p) = requested date localTime := by
          rw [hwallEarly (W - p) (by omega) hshown]
          omega
        exact findsFirst_before hW hwallEarly (chooseInstant_first hexact) hshown hpbound
      · have hskipped : timeZone.wall (W - p) ≠ requested date localTime := by
          rw [hwallLate (W - p) (by omega) (by omega)]
          omega
        have hexact : timeZone.wall (W - q) = requested date localTime := by
          rw [hwallLate (W - q) (by omega) (by omega)]
          omega
        exact findsFirst_after hW hwallEarly hwallLate (chooseInstant_second hskipped hexact)
          (by omega) (by omega) hqbound

theorem scheduledInstant_eq_some {instant : Int} :
    newspaperScheduledInstant date localTime timeZone = some instant ↔
      ∃ minute, instant = minute * 60000 ∧
        IsLeast {k | Reaches date localTime timeZone k} minute := by
  constructor
  · intro h
    rcases @findsFirst_scheduledInstant date localTime timeZone with
      ⟨minute, hfound, hleast⟩ | ⟨hnone, _⟩
    · exact ⟨minute, Option.some.inj (h.symm.trans hfound), hleast⟩
    · rw [h] at hnone
      cases hnone
  · rintro ⟨minute, rfl, hleast⟩
    rcases @findsFirst_scheduledInstant date localTime timeZone with
      ⟨found, hfound, hleast'⟩ | ⟨_, hnever⟩
    · rw [hfound, hleast.unique hleast']
    · exact absurd hleast.1 (hnever minute)

theorem exists_scheduledInstant (h : Reaches date localTime timeZone minute) :
    ∃ first, first ≤ minute ∧
      newspaperScheduledInstant date localTime timeZone = some (first * 60000) := by
  rcases @findsFirst_scheduledInstant date localTime timeZone with
    ⟨first, hfound, hleast⟩ | ⟨_, hnever⟩
  · exact ⟨first, hleast.2 h, hfound⟩
  · exact absurd h (hnever minute)

end Corgtex.Domain.NewspaperSchedule
