import Corgtex.Domain.NewspaperInstants
import Mathlib.Data.Int.LeastGreatest

/-!
# The announced next run

`getNextNewspaperRunISO` looks at every quarter hour of the next fifteen days and announces the
first that shows a scheduled date at the requested time or later. `announcesRealRun_iff` says when
there is such a quarter hour and the scheduler has the edition of its date due.
-/

namespace Corgtex.Domain.NewspaperSchedule

variable {schedule : Schedule} {cadence : Cadence} {minute : Int}

/-! ## Due editions -/

/-- The cadence has an edition on the date. -/
def IsScheduledDate (schedule : Schedule) (cadence : Cadence) (date : Int) : Prop :=
  cadence = .DAILY ∨ weekdayOf date = schedule.weekday

section
variable (schedule : Schedule) (cadence : Cadence) (date now : Int)

/-- The local clock at an instant, in minutes. -/
def clock : Int := now / 60000 + schedule.timeZone.offset now

/-- The local date at an instant. -/
def dateAt : Int := clock schedule now / 1440

/-- The edition of the date before is carried over to the instant. -/
def CarriedTo : Prop :=
  IsScheduledDate schedule cadence (date - 1) ∧ ∃ first,
    IsLeast {k | Reaches (date - 1) schedule.localTime schedule.timeZone k} first ∧
      first * 60000 ≤ now ∧ now ≤ first * 60000 + 900000

/-- The edition of a date is due at an instant, after its own: on its date, unless the edition
before is carried over, and for a quarter of an hour on the next one. -/
def InTime (scheduledAt : Int) : Prop :=
  scheduledAt ≤ now ∧ (dateAt schedule now = date ∧ ¬ CarriedTo schedule cadence date now ∨
    dateAt schedule now = date + 1 ∧ now ≤ scheduledAt + 900000)

variable {schedule cadence date now} {occurrence : Occurrence}

theorem occurrenceOn_eq_some {currentDate : Int} :
    occurrenceOn now schedule cadence currentDate date = some occurrence ↔
      IsScheduledDate schedule cadence date ∧ ∃ scheduledAt,
        newspaperScheduledInstant date schedule.localTime schedule.timeZone = some scheduledAt ∧
        scheduledAt ≤ now ∧ (date = currentDate ∨ now ≤ scheduledAt + 900000) ∧
        occurrence = ⟨scheduledAt, date, cadence⟩ := by
  unfold occurrenceOn IsScheduledDate
  cases newspaperScheduledInstant date schedule.localTime schedule.timeZone <;> cases cadence <;>
    grind

theorem carriedTo_iff : CarriedTo schedule cadence date now ↔
    ∃ occurrence, occurrenceOn now schedule cadence date (date - 1) = some occurrence := by
  unfold CarriedTo
  simp only [occurrenceOn_eq_some, scheduledInstant_eq_some]
  constructor
  · rintro ⟨hscheduled, first, hleast, hle, hlate⟩
    exact ⟨_, hscheduled, _, ⟨first, rfl, hleast⟩, hle, .inr hlate, rfl⟩
  · rintro ⟨_, hscheduled, _, ⟨first, rfl, hleast⟩, hle, hlate, _⟩
    exact ⟨hscheduled, first, hleast, hle, hlate.resolve_left (by omega)⟩

theorem dueOccurrence_eq : getNewspaperDueOccurrence now schedule cadence =
    (occurrenceOn now schedule cadence (dateAt schedule now) (dateAt schedule now - 1)).or
      (occurrenceOn now schedule cadence (dateAt schedule now) (dateAt schedule now)) := by
  change [dateAt schedule now - 1, dateAt schedule now].findSome?
    (occurrenceOn now schedule cadence (dateAt schedule now)) = _
  simp only [List.findSome?_cons, List.findSome?_nil]
  cases occurrenceOn now schedule cadence (dateAt schedule now) (dateAt schedule now - 1) <;>
    cases occurrenceOn now schedule cadence (dateAt schedule now) (dateAt schedule now) <;> rfl

theorem dueOccurrence_eq_some :
    getNewspaperDueOccurrence now schedule cadence = some occurrence ↔
      IsScheduledDate schedule cadence occurrence.date ∧ occurrence.cadence = cadence ∧
        newspaperScheduledInstant occurrence.date schedule.localTime schedule.timeZone =
          some occurrence.scheduledAt ∧
        InTime schedule cadence occurrence.date now occurrence.scheduledAt := by
  obtain ⟨scheduledAt, date, own⟩ := occurrence
  have hnone : occurrenceOn now schedule cadence (dateAt schedule now) (dateAt schedule now - 1) =
      none ↔ ¬ CarriedTo schedule cadence (dateAt schedule now) now := by
    rw [carriedTo_iff, Option.eq_none_iff_forall_ne_some, not_exists]
  rw [dueOccurrence_eq, Option.or_eq_some_iff, hnone, occurrenceOn_eq_some, occurrenceOn_eq_some]
  unfold InTime
  grind

end

/-! ## Due minutes -/

def localDate (schedule : Schedule) (minute : Int) : Int := schedule.timeZone.wall minute / 1440

theorem date_minute (minute : Int) :
    (getNewspaperLocalDateParts (minute * 60000) schedule.timeZone).date =
      localDate schedule minute := by
  rw [parts_minute]
  rfl

section
variable (schedule : Schedule) (cadence : Cadence) (minute : Int)

/-- A minute shows the requested time, or a later one, of a scheduled date. -/
def ShowsRun : Prop :=
  IsScheduledDate schedule cadence (localDate schedule minute) ∧
    Reaches (localDate schedule minute) schedule.localTime schedule.timeZone minute

/-- The date before is scheduled too, and first reached the requested time within the last fifteen
minutes. -/
def CarriedOver : Prop :=
  IsScheduledDate schedule cadence (localDate schedule minute - 1) ∧
    ∃ first, IsLeast {k | Reaches (localDate schedule minute - 1) schedule.localTime
      schedule.timeZone k} first ∧ first ≤ minute ∧ minute ≤ first + 15

end

theorem isNewspaperScheduleDue_iff :
    isNewspaperScheduleDue (minute * 60000) schedule cadence = true ↔
      ShowsRun schedule cadence minute := by
  have hhour := schedule.localTime.hour_lt
  have hminute := schedule.localTime.minute_lt
  unfold isNewspaperScheduleDue ShowsRun IsScheduledDate Reaches requested localDate
  simp only [parts_minute, Bool.or_eq_true, Bool.and_eq_true, decide_eq_true_eq]
  constructor
  · rintro ⟨htime, hdate⟩
    exact ⟨hdate, by omega, by omega⟩
  · rintro ⟨hdate, htime, _⟩
    exact ⟨by omega, hdate⟩

/-- **At a minute that shows a run, its own date is due**, unless the date before is carried over.
-/
theorem dueOccurrence_iff (h : ShowsRun schedule cadence minute) :
    (∃ occurrence, getNewspaperDueOccurrence (minute * 60000) schedule cadence = some occurrence ∧
      occurrence.date = localDate schedule minute) ↔ ¬ CarriedOver schedule cadence minute := by
  have hdate : dateAt schedule (minute * 60000) = localDate schedule minute := date_minute minute
  have hcarried : CarriedOver schedule cadence minute ↔
      CarriedTo schedule cadence (localDate schedule minute) (minute * 60000) := by
    unfold CarriedOver CarriedTo
    grind
  rw [hcarried]
  constructor
  · rintro ⟨occurrence, hsome, hsame⟩
    obtain ⟨_, _, _, _, ⟨_, hnot⟩ | ⟨hon, _⟩⟩ := dueOccurrence_eq_some.1 hsome
    · exact hsame ▸ hnot
    · omega
  · intro hnot
    obtain ⟨first, hle, hinstant⟩ := exists_scheduledInstant h.2
    exact ⟨⟨first * 60000, _, cadence⟩, dueOccurrence_eq_some.2
      ⟨h.1, rfl, hinstant, by simp only; omega, .inl ⟨hdate, hnot⟩⟩, rfl⟩

/-! ## The scan -/

/-- A whole minute of a quarter hour from `start` on, for fifteen days. -/
structure IsQuarter (start minute : Int) : Prop where
  quarter : minute % 15 = 0
  notBefore : start ≤ minute * 60000
  within : minute * 60000 ≤ start + 15 * 24 * 60 * 60 * 1000

/-- The first of the quarter hours that shows a run. -/
structure FirstQuarter (schedule : Schedule) (cadence : Cadence) (start minute : Int) : Prop where
  isQuarter : IsQuarter start minute
  shows : ShowsRun schedule cadence minute
  first : ∀ k < minute, IsQuarter start k → ¬ ShowsRun schedule cadence k

theorem nextDue_eq_some {horizon next : Int} {fuel : Nat} {cursor : Int} :
    nextDue schedule cadence horizon fuel (cursor * 900000) = some next ↔
      ∃ quarter, cursor ≤ quarter ∧ quarter < cursor + fuel ∧ next = quarter * 900000 ∧
        next ≤ horizon ∧ ShowsRun schedule cadence (quarter * 15) ∧
        ∀ earlier, cursor ≤ earlier → earlier < quarter →
          ¬ ShowsRun schedule cadence (earlier * 15) := by
  induction fuel generalizing cursor with
  | zero =>
    constructor
    · intro h
      cases h
    · rintro ⟨quarter, hle, hlt, _⟩
      omega
  | succ fuel ih =>
    have hcursor : cursor * 900000 = cursor * 15 * 60000 := by omega
    have hnext : cursor * 900000 + 900000 = (cursor + 1) * 900000 := by omega
    have hdue : isNewspaperScheduleDue (cursor * 900000) schedule cadence = true ↔
        ShowsRun schedule cadence (cursor * 15) := by
      rw [hcursor, isNewspaperScheduleDue_iff]
    rw [nextDue]
    split
    · next hover =>
      constructor
      · intro h
        cases h
      · rintro ⟨quarter, hle, _, rfl, hwithin, _⟩
        omega
    · next hwithin =>
      split
      · next hshows =>
        constructor
        · intro h
          cases h
          exact ⟨cursor, le_rfl, by omega, rfl, by omega, hdue.1 hshows, fun k _ _ => by omega⟩
        · rintro ⟨quarter, hle, _, rfl, _, _, hfirst⟩
          have hsame : quarter = cursor := by
            by_contra hne
            exact hfirst cursor le_rfl (by omega) (hdue.1 hshows)
          rw [hsame]
      · next hshows =>
        rw [hnext, ih]
        constructor
        · rintro ⟨quarter, hle, hlt, rfl, hhorizon, hquarter, hfirst⟩
          refine ⟨quarter, by omega, by omega, rfl, hhorizon, hquarter, fun earlier hge hlt' => ?_⟩
          by_cases hhere : earlier = cursor
          · exact hhere ▸ fun h => hshows (hdue.2 h)
          · exact hfirst earlier (by omega) hlt'
        · rintro ⟨quarter, hle, hlt, rfl, hhorizon, hquarter, hfirst⟩
          have hne : quarter ≠ cursor := by
            rintro rfl
            exact hshows (hdue.2 hquarter)
          exact ⟨quarter, by omega, by omega, rfl, hhorizon, hquarter,
            fun earlier hge hlt' => hfirst earlier (by omega) hlt'⟩

theorem getNextNewspaperRunISO_eq_some {start next : Int} :
    getNextNewspaperRunISO schedule cadence start = some next ↔
      ∃ minute, next = minute * 60000 ∧ FirstQuarter schedule cadence start minute := by
  obtain ⟨cursor, hcursor⟩ : ∃ cursor, cursor = (start + 899999) / 900000 := ⟨_, rfl⟩
  have hquarter (quarter : Int) :
      IsQuarter start (quarter * 15) ↔ cursor ≤ quarter ∧ quarter * 900000 ≤
        start + 15 * 24 * 60 * 60 * 1000 := by
    constructor
    · rintro ⟨_, hnotBefore, hwithin⟩
      omega
    · rintro ⟨hle, hwithin⟩
      exact ⟨by omega, by omega, by omega⟩
  rw [getNextNewspaperRunISO, ← hcursor, nextDue_eq_some]
  constructor
  · rintro ⟨quarter, hle, _, rfl, hhorizon, hshows, hfirst⟩
    refine ⟨quarter * 15, by omega, (hquarter quarter).2 ⟨hle, hhorizon⟩, hshows, ?_⟩
    intro k hk hisQuarter
    have hk' : k = k / 15 * 15 := by
      have := hisQuarter.quarter
      omega
    rw [hk'] at hisQuarter ⊢
    exact hfirst (k / 15) ((hquarter _).1 hisQuarter).1 (by omega)
  · rintro ⟨minute, rfl, hisQuarter, hshows, hfirst⟩
    have hminute : minute = minute / 15 * 15 := by
      have := hisQuarter.quarter
      omega
    rw [hminute] at hisQuarter hshows
    obtain ⟨hle, hwithin⟩ := (hquarter _).1 hisQuarter
    refine ⟨minute / 15, hle, by omega, by omega, by omega, hshows, ?_⟩
    intro earlier hge hlt
    exact hfirst (earlier * 15) (by omega) ((hquarter _).2 ⟨hge, by omega⟩)

/-! ## The announced run is real -/

/-- What the announcement promises: an instant not before `start`, at which the scheduler has an
edition of that instant's local date due. -/
def AnnouncesRealRun (schedule : Schedule) (cadence : Cadence) (start : Int) : Prop :=
  ∃ next, getNextNewspaperRunISO schedule cadence start = some next ∧ start ≤ next ∧
    ∃ occurrence, getNewspaperDueOccurrence next schedule cadence = some occurrence ∧
      occurrence.date = (getNewspaperLocalDateParts next schedule.timeZone).date

theorem AnnouncesRealRun.exists_firstQuarter {start : Int}
    (h : AnnouncesRealRun schedule cadence start) :
    ∃ minute, FirstQuarter schedule cadence start minute ∧
      ¬ CarriedOver schedule cadence minute := by
  obtain ⟨next, hnext, _, occurrence, hdue, hsame⟩ := h
  obtain ⟨minute, rfl, hfirst⟩ := getNextNewspaperRunISO_eq_some.1 hnext
  rw [date_minute] at hsame
  exact ⟨minute, hfirst, (dueOccurrence_iff hfirst.shows).1 ⟨occurrence, hdue, hsame⟩⟩

theorem FirstQuarter.announcesRealRun {start : Int}
    (hfirst : FirstQuarter schedule cadence start minute)
    (hcarried : ¬ CarriedOver schedule cadence minute) :
    AnnouncesRealRun schedule cadence start := by
  obtain ⟨occurrence, hdue, hsame⟩ := (dueOccurrence_iff hfirst.shows).2 hcarried
  refine ⟨minute * 60000, getNextNewspaperRunISO_eq_some.2 ⟨minute, rfl, hfirst⟩,
    hfirst.isQuarter.notBefore, occurrence, hdue, ?_⟩
  rw [date_minute]
  exact hsame

/-- **The announced run is a real one** exactly if a quarter hour of the next fifteen days shows a
run and, at the first of them, the edition of the date before is not carried over. -/
theorem announcesRealRun_iff (schedule : Schedule) (cadence : Cadence) (start : Int) :
    AnnouncesRealRun schedule cadence start ↔
      ∃ minute, FirstQuarter schedule cadence start minute ∧
        ¬ CarriedOver schedule cadence minute := by
  constructor
  · exact AnnouncesRealRun.exists_firstQuarter
  · rintro ⟨minute, hfirst, hcarried⟩
    exact hfirst.announcesRealRun hcarried

/-! ## Which runs are announced -/

/-- **After 23:45 nothing is announced** where the local clock shows the quarter hours of UTC. -/
theorem not_announcesRealRun_of_late {start : Int}
    (hquarters : ∀ k, schedule.timeZone.minuteOffset k % 15 = 0)
    (hlate : 23 * 60 + 45 < schedule.localTime.hour * 60 + schedule.localTime.minute) :
    ¬ AnnouncesRealRun schedule cadence start := by
  intro h
  obtain ⟨minute, hfirst, _⟩ := h.exists_firstQuarter
  have hquarter := hfirst.isQuarter.quarter
  have hoffset := hquarters minute
  obtain ⟨hreached, hsame⟩ := hfirst.shows.2
  unfold requested at hreached
  unfold localDate TimeZone.wall at *
  omega

/-- Every day at 23:50, in UTC. -/
def lateSchedule : Schedule where
  weekday := .MONDAY
  localTime := ⟨23, 50, by decide, by decide⟩
  timeZone := ⟨fun _ => 0, fun _ => by decide, fun _ _ _ h => absurd rfl h⟩

theorem not_announcesRealRun :
    ¬ ∀ (schedule : Schedule) (cadence : Cadence) (start : Int),
      AnnouncesRealRun schedule cadence start := by
  intro hall
  exact @not_announcesRealRun_of_late lateSchedule .DAILY 0 (fun _ => rfl) (by decide)
    (hall lateSchedule .DAILY 0)

end Corgtex.Domain.NewspaperSchedule
