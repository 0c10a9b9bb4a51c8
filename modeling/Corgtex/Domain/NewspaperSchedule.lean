import Corgtex.Library.Bisection
import Corgtex.Library.JsArray
import Corgtex.Library.TimeZone

/-!
# The newspaper schedule

`agent-config.ts`: a newspaper goes out every day or on one day of the week, at
a local time. `getNewspaperDueOccurrence` tells the scheduler which edition is due, and
`getNextNewspaperRunISO` announces the next run.

Instants are milliseconds since 1970. A local date is the number of its day here: the source's texts
of dates, with years of four digits, are ordered and read back as their days.
-/

namespace Corgtex.Domain.NewspaperSchedule

/-! ## Data -/

inductive NewspaperWeekday where
  | SUNDAY | MONDAY | TUESDAY | WEDNESDAY | THURSDAY | FRIDAY | SATURDAY
deriving DecidableEq, Repr

/-- A cadence that is not `OFF`. -/
inductive Cadence where
  | DAILY
  | WEEKLY
deriving DecidableEq, Repr

/-- A local time `HH:MM`, as `normalizeNewspaperLocalTime` (line 129) leaves it. -/
structure LocalTime where
  hour : Nat
  minute : Nat
  hour_lt : hour < 24
  minute_lt : minute < 60

/-- `NewspaperScheduleConfig` (line 115), with a cadence of its own for each reader. -/
structure Schedule where
  weekday : NewspaperWeekday
  localTime : LocalTime
  timeZone : TimeZone

/-- The day of the week of a date; day 0 is a Thursday. -/
def weekdayOf (date : Int) : NewspaperWeekday :=
  match (date + 4) % 7 with
  | 0 => .SUNDAY
  | 1 => .MONDAY
  | 2 => .TUESDAY
  | 3 => .WEDNESDAY
  | 4 => .THURSDAY
  | 5 => .FRIDAY
  | _ => .SATURDAY

structure LocalDateParts where
  date : Int
  weekday : NewspaperWeekday
  hour : Int
  minute : Int

/-- `getNewspaperLocalDateParts` (line 169). -/
def getNewspaperLocalDateParts (now : Int) (timeZone : TimeZone) : LocalDateParts :=
  let clock := now / 60000 + timeZone.offset now
  { date := clock / 1440
    weekday := weekdayOf (clock / 1440)
    hour := clock % 1440 / 60
    minute := clock % 60 }

/-- `Date.UTC`, of a date and a time of day. -/
def dateUTC (date hour minute : Int) : Int := ((date * 24 + hour) * 60 + minute) * 60000

/-! ## The instant of an edition -/

section
variable (date : Int) (localTime : LocalTime) (timeZone : TimeZone)

/-- The local time was reached on the date, or the date is over. -/
def atOrAfter (timestamp : Int) : Bool :=
  let localParts := getNewspaperLocalDateParts timestamp timeZone
  date < localParts.date || (localParts.date = date &&
    (localTime.hour < localParts.hour ||
      (localParts.hour = localTime.hour && localTime.minute ≤ localParts.minute)))

/-- The three offsets that are sampled, each once. -/
def sampledOffsets (wallClockUTC : Int) : List Int :=
  JsArray.distinct <|
    [wallClockUTC - 24 * 60 * 60000, wallClockUTC, wallClockUTC + 24 * 60 * 60000].map fun sample =>
      let localParts := getNewspaperLocalDateParts sample timeZone
      dateUTC localParts.date localParts.hour localParts.minute - sample

/-- The timestamp shows the requested time of the date. -/
def showsExactly (timestamp : Int) : Bool :=
  let localParts := getNewspaperLocalDateParts timestamp timeZone
  localParts.date = date && localParts.hour = localTime.hour && localParts.minute = localTime.minute

/-- What `newspaperScheduledInstant` chooses of its candidates (lines 208-230). In a gap
of the local clock, the first minute after it. -/
def chooseInstant (candidates : List Int) : Option Int :=
  match candidates.find? (showsExactly date localTime timeZone) with
  | some timestamp => some timestamp
  | none =>
    if candidates.length < 2 then none
    else
      let low := candidates.head?.getD 0 / 60000
      let high := (candidates.getLast?.getD 0 + 59999) / 60000
      let reached := fun minute => atOrAfter date localTime timeZone (minute * 60000)
      if reached low || !reached high then none
      else
        let first := bisect reached (high - low).toNat low high
        if (getNewspaperLocalDateParts (first * 60000) timeZone).date = date then
          some (first * 60000)
        else none

/-- `newspaperScheduledInstant` (line 196). -/
def newspaperScheduledInstant : Option Int :=
  let wallClockUTC := dateUTC date localTime.hour localTime.minute
  chooseInstant date localTime timeZone <| JsArray.sortBy (fun a b => a - b) <|
    (sampledOffsets timeZone wallClockUTC).map fun offset => wallClockUTC - offset

end

/-! ## Due editions -/

structure Occurrence where
  scheduledAt : Int
  date : Int
  cadence : Cadence
deriving DecidableEq

section
variable (now : Int) (schedule : Schedule) (cadence : Cadence)

/-- A date of `getNewspaperDueOccurrence`, with the local date of now. -/
def occurrenceOn (currentDate date : Int) : Option Occurrence :=
  if cadence = .WEEKLY ∧ weekdayOf date ≠ schedule.weekday then none
  else
    match newspaperScheduledInstant date schedule.localTime schedule.timeZone with
    | none => none
    | some scheduledAt =>
      if now < scheduledAt then none
      else if date ≠ currentDate ∧ 15 * 60000 < now - scheduledAt then none
      else some ⟨scheduledAt, date, cadence⟩

/-- `getNewspaperDueOccurrence` (line 235). -/
def getNewspaperDueOccurrence : Option Occurrence :=
  let currentDate := (getNewspaperLocalDateParts now schedule.timeZone).date
  [currentDate - 1, currentDate].findSome? (occurrenceOn now schedule cadence currentDate)

/-- `isNewspaperScheduleDue` (line 256). -/
def isNewspaperScheduleDue : Bool :=
  let localParts := getNewspaperLocalDateParts now schedule.timeZone
  let isAfterLocalSendTime := schedule.localTime.hour < localParts.hour ||
    (localParts.hour = schedule.localTime.hour && schedule.localTime.minute ≤ localParts.minute)
  isAfterLocalSendTime && (cadence = .DAILY || localParts.weekday = schedule.weekday)

/-! ## The next run -/

/-- The quarter hours from a cursor to the horizon. -/
def nextDue (horizon : Int) : Nat → Int → Option Int
  | 0, _ => none
  | fuel + 1, cursor =>
    if horizon < cursor then none
    else if isNewspaperScheduleDue cursor schedule cadence then some cursor
    else nextDue horizon fuel (cursor + 900000)

/-- `getNextNewspaperRunISO` (line 269), for a cadence that is not `OFF`, with the instant of the
text that it returns. The fuel is the number of quarter hours of fifteen days. -/
def getNextNewspaperRunISO (start : Int) : Option Int :=
  nextDue schedule cadence (start + 15 * 24 * 60 * 60 * 1000) 1441
    ((start + 899999) / 900000 * 900000)

end

end Corgtex.Domain.NewspaperSchedule
