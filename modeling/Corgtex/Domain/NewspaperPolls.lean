import Corgtex.Domain.NewspaperNextRun

/-!
# The polls of the newspaper

The scheduler asks `getNewspaperDueOccurrence` every few minutes which edition is due. It delivers
the edition of a date in whatever sequence of polls exactly if the local clock leaves it a quarter
of an hour (`keepsEditions_iff`).
-/

namespace Corgtex.Domain.NewspaperSchedule

/-- The local clock shows the date, at the requested time or later. -/
def ShowsAt (schedule : Schedule) (date now : Int) : Prop :=
  requested date schedule.localTime ≤ clock schedule now ∧ dateAt schedule now = date

/-- Polls with gaps of fifteen minutes at most. -/
structure IsPolling (polls : Nat → Int) : Prop where
  increases : ∀ n, polls n < polls (n + 1)
  gap : ∀ n, polls (n + 1) ≤ polls n + 900000

/-- **Editions are neither missed nor moved**: whatever the polls, if they begin before a scheduled
date, one of them gets its edition, and all that get it have the same instant and come after it. It
is the first instant of the date at the requested time, or at a later one if none shows it. -/
def KeepsEditions (schedule : Schedule) (cadence : Cadence) : Prop :=
  ∀ polls, IsPolling polls → ∀ date, IsScheduledDate schedule cadence date →
    (∀ now, date ≤ dateAt schedule now → polls 0 ≤ now) →
    ∃ scheduledAt, IsLeast {now | ShowsAt schedule date now} scheduledAt ∧
      (∃ n, getNewspaperDueOccurrence (polls n) schedule cadence =
        some ⟨scheduledAt, date, cadence⟩) ∧
      ∀ n occurrence, getNewspaperDueOccurrence (polls n) schedule cadence = some occurrence →
        occurrence.date = date →
          occurrence = ⟨scheduledAt, date, cadence⟩ ∧ scheduledAt ≤ polls n

/-- Every scheduled date has a first instant at the requested time or later, at a whole minute, and
a quarter of an hour throughout which its edition is due. -/
def LeavesTime (schedule : Schedule) (cadence : Cadence) : Prop :=
  ∀ date, IsScheduledDate schedule cadence date →
    ∃ first, IsLeast {now | ShowsAt schedule date now} (first * 60000) ∧
      ∃ start, ∀ now, start ≤ now → now < start + 900000 →
        InTime schedule cadence date now (first * 60000)

variable {schedule : Schedule} {cadence : Cadence} {date now : Int}

/-! ## The first instant -/

theorem reaches_iff {minute : Int} :
    Reaches date schedule.localTime schedule.timeZone minute ↔
      ShowsAt schedule date (minute * 60000) := by
  have hclock : clock schedule (minute * 60000) = schedule.timeZone.wall minute := by
    unfold clock TimeZone.wall TimeZone.minuteOffset
    omega
  have := requested_lt date schedule.localTime
  unfold Reaches ShowsAt dateAt
  omega

theorem scheduledInstant_of_isLeast {first : Int}
    (h : IsLeast {now | ShowsAt schedule date now} (first * 60000)) :
    newspaperScheduledInstant date schedule.localTime schedule.timeZone = some (first * 60000) := by
  refine scheduledInstant_eq_some.2 ⟨first, rfl, reaches_iff.2 h.1, fun minute hminute => ?_⟩
  have := h.2 (reaches_iff.1 hminute)
  omega

/-! ## Polls -/

theorem IsPolling.exists_within {polls : Nat → Int} (h : IsPolling polls) {start : Int}
    (hstart : polls 0 ≤ start) : ∃ n, start ≤ polls n ∧ polls n < start + 900000 := by
  have hreach : ∃ n, start ≤ polls n := by
    have hgrows : ∀ n : Nat, polls 0 + n ≤ polls n := by
      intro n
      induction n with
      | zero => simp
      | succ n ih =>
        have := h.increases n
        omega
    exact ⟨(start - polls 0).toNat, by have := hgrows (start - polls 0).toNat; omega⟩
  refine ⟨Nat.find hreach, Nat.find_spec hreach, ?_⟩
  cases hfound : Nat.find hreach with
  | zero => omega
  | succ n =>
    have := Nat.find_min hreach (m := n) (by omega)
    have := h.gap n
    omega

/-- Polls that never meet a property, if no quarter of an hour has it throughout. -/
theorem exists_polls {p : Int → Prop} {start : Int} (hstart : ¬ p start)
    (hmiss : ∀ start, ¬ ∀ now, start ≤ now → now < start + 900000 → p now) :
    ∃ polls, IsPolling polls ∧ polls 0 = start ∧ ∀ n, ¬ p (polls n) := by
  simp only [not_forall] at hmiss
  choose miss hle hlt hnot using hmiss
  let next := fun now => miss (now + 1)
  have hstep (n : Nat) : next^[n + 1] start = miss (next^[n] start + 1) :=
    Function.iterate_succ_apply' next n start
  refine ⟨fun n => next^[n] start, ⟨fun n => ?_, fun n => ?_⟩, rfl, fun n => ?_⟩
  · have := hle (next^[n] start + 1)
    rw [hstep]
    omega
  · have := hlt (next^[n] start + 1)
    rw [hstep]
    omega
  · cases n with
    | zero => exact hstart
    | succ n =>
      simp only [hstep]
      exact hnot _

theorem LeavesTime.keepsEditions (h : LeavesTime schedule cadence) :
    KeepsEditions schedule cadence := by
  intro polls hpolls date hscheduled hbegin
  obtain ⟨first, hleast, start, hwindow⟩ := h date hscheduled
  have hinstant := scheduledInstant_of_isLeast hleast
  refine ⟨first * 60000, hleast, ?_, ?_⟩
  · have hstart : date ≤ dateAt schedule start := by
      rcases (hwindow start le_rfl (by omega)).2 with ⟨hon, _⟩ | ⟨hon, _⟩ <;> omega
    obtain ⟨n, hle, hlt⟩ := hpolls.exists_within (hbegin start hstart)
    exact ⟨n, dueOccurrence_eq_some.2 ⟨hscheduled, rfl, hinstant, hwindow _ hle hlt⟩⟩
  · rintro n ⟨instant, _, _⟩ hdue rfl
    obtain ⟨_, rfl, hsome, hle, _⟩ := dueOccurrence_eq_some.1 hdue
    cases hinstant.symm.trans hsome
    exact ⟨rfl, hle⟩

theorem KeepsEditions.leavesTime (h : KeepsEditions schedule cadence) :
    LeavesTime schedule cadence := by
  intro date hscheduled
  obtain ⟨start, hstart⟩ : ∃ start, start = (date * 1440 - 1440) * 60000 := ⟨_, rfl⟩
  have hbegin : ∀ now, date ≤ dateAt schedule now → start < now := by
    intro now hdate
    have := schedule.timeZone.bounded now
    unfold dateAt clock at hdate
    omega
  have hkept (polls : Nat → Int) (hpolls : IsPolling polls) (hzero : polls 0 = start) :=
    h polls hpolls date hscheduled fun now hdate => hzero ▸ (hbegin now hdate).le
  obtain ⟨_, hleast, ⟨n, hdue⟩, _⟩ := hkept (fun n => start + n * 900000)
    ⟨fun n => by omega, fun n => by omega⟩ (by simp)
  obtain ⟨first, rfl, _⟩ := scheduledInstant_eq_some.1 (dueOccurrence_eq_some.1 hdue).2.2.1
  refine ⟨first, hleast, ?_⟩
  by_contra hno
  have hnot : ¬ InTime schedule cadence date start (first * 60000) := by
    rintro ⟨_, ⟨hon, _⟩ | ⟨hon, _⟩⟩ <;> exact absurd (hbegin start (by omega)) (by omega)
  obtain ⟨polls, hpolls, hzero, hnever⟩ := @exists_polls
    (InTime schedule cadence date · (first * 60000)) start hnot fun start hall => hno ⟨start, hall⟩
  obtain ⟨_, hleast', ⟨n, hdue⟩, _⟩ := hkept polls hpolls hzero
  obtain rfl := hleast'.unique hleast
  exact hnever n (dueOccurrence_eq_some.1 hdue).2.2.2

/-- **Editions are neither missed nor moved** exactly if every scheduled date leaves its edition a
quarter of an hour, and its first instant is at a whole minute. -/
theorem keepsEditions_iff (schedule : Schedule) (cadence : Cadence) :
    KeepsEditions schedule cadence ↔ LeavesTime schedule cadence :=
  ⟨KeepsEditions.leavesTime, LeavesTime.keepsEditions⟩

end Corgtex.Domain.NewspaperSchedule
