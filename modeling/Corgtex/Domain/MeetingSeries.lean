import Corgtex.Domain.Errors
import Corgtex.Library.JsDate
import Mathlib.Data.List.Nodup

/-!
# Recurring meetings

`meetings.ts`: `expandIcsEvent` lists the occurrences of a calendar event inside
a window, and `materializeMeetingSeriesOccurrencesTx` makes a meeting of each that has none yet.
The calendar library yields the occurrences of a series from its first one on, and the loop asks it
370 times at most. So a window is listed as a whole exactly if no later occurrence is in it
(`recurring_meetings_iff`).
-/

namespace Corgtex.Domain.MeetingSeries

open JsDate JsString List

/-! ## Data -/

/-- What `iterator.next()` of the calendar library answers, call after call: the occurrences of the
event, the later ones after the earlier. -/
structure EventIterator where
  next : Nat → Option TimeValue
  ended : ∀ index, next index = none → next (index + 1) = none
  increasing : ∀ index a b, next index = some a → next (index + 1) = some b → a.ms < b.ms

/-- `ICAL.Event`; one that does not recur has no iterator. -/
structure IcsEvent where
  uid : JsString
  startDate : TimeValue
  endDate : Option TimeValue
  iterator : Option EventIterator

/-- The bounds of a call of `expandIcsEvent`, which it calls `from` and `to`. -/
structure ExpansionWindow where
  first : TimeValue
  last : TimeValue

structure Occurrence where
  start : TimeValue
  finish : Int
  externalId : JsString
  calendarExternalId : Option JsString
deriving DecidableEq

/-- The start is inside the window. -/
def ExpansionWindow.Contains (window : ExpansionWindow) (start : TimeValue) : Prop :=
  window.first.ms ≤ start.ms ∧ start.ms ≤ window.last.ms

instance (window : ExpansionWindow) (start : TimeValue) : Decidable (window.Contains start) :=
  inferInstanceAs (Decidable (_ ∧ _))

/-! ## Expansion -/

/-- `eventDurationMs` (line 186). -/
def eventDurationMs (event : IcsEvent) : Int :=
  let duration := (event.endDate.map fun finish => finish.ms - event.startDate.ms).getD 0
  if 0 < duration then duration else 60 * 60 * 1000

section
variable (event : IcsEvent) (window : ExpansionWindow) (externalIdPrefix : JsString)

/-- The entry of an occurrence (line 222). -/
def occurrenceAt (start : TimeValue) : Occurrence where
  start
  finish := start.ms + eventDurationMs event
  externalId := externalIdPrefix ++ lit ":" ++ toISOString start
  calendarExternalId := event.uid.orNull

/-- The loop over the iterator (line 216). -/
def collect (iterator : EventIterator) : Nat → Nat → List Occurrence
  | 0, _ => []
  | calls + 1, index =>
    match iterator.next index with
    | none => []
    | some start =>
      if window.last.ms < start.ms then []
      else if window.first.ms ≤ start.ms then
        occurrenceAt event externalIdPrefix start :: collect iterator calls (index + 1)
      else collect iterator calls (index + 1)

/-- `expandIcsEvent` (line 193). -/
def expandIcsEvent : List Occurrence :=
  match event.iterator with
  | none =>
    if window.Contains event.startDate then [occurrenceAt event externalIdPrefix event.startDate]
    else []
  | some iterator => collect event window externalIdPrefix iterator 370 0

end

/-! ## The occurrences of an iterator -/

section
variable {iterator : EventIterator} {i j : Nat} {a b : TimeValue}

theorem EventIterator.isSome_of_le (h : iterator.next j = some b) (hij : i ≤ j) :
    ∃ a, iterator.next i = some a := by
  induction hij using Nat.decreasingInduction with
  | self => exact ⟨b, h⟩
  | of_succ k _ ih =>
    cases hk : iterator.next k with
    | some a => exact ⟨a, rfl⟩
    | none =>
      obtain ⟨a, ha⟩ := ih
      rw [iterator.ended k hk] at ha
      cases ha

/-- A later call answers a later occurrence. -/
theorem EventIterator.lt_of_lt (ha : iterator.next i = some a) (hb : iterator.next j = some b)
    (hij : i < j) : a.ms < b.ms := by
  induction j, hij using Nat.le_induction generalizing b with
  | base => exact iterator.increasing i a b ha hb
  | succ j hij ih =>
    obtain ⟨c, hc⟩ := iterator.isSome_of_le hb (Nat.le_succ j)
    exact (ih hc).trans (iterator.increasing j c b hc hb)

theorem EventIterator.index_eq (ha : iterator.next i = some a) (hb : iterator.next j = some a) :
    i = j := by
  by_contra hne
  rcases Nat.lt_or_gt_of_ne hne with hlt | hgt
  · exact lt_irrefl _ (iterator.lt_of_lt ha hb hlt)
  · exact lt_irrefl _ (iterator.lt_of_lt hb ha hgt)

end

section
variable {event : IcsEvent} {window : ExpansionWindow} {externalIdPrefix : JsString}
  {iterator : EventIterator}

variable {calls index : Nat}

/-- **What the loop collects**: the occurrences in the window among the next `calls`. -/
theorem mem_collect {start : TimeValue} :
    start ∈ (collect event window externalIdPrefix iterator calls index).map Occurrence.start ↔
      ∃ i, index ≤ i ∧ i < index + calls ∧ iterator.next i = some start ∧
        window.Contains start := by
  induction calls generalizing index with
  | zero =>
    constructor
    · intro h
      cases h
    · rintro ⟨i, hle, hlt, _⟩
      omega
  | succ calls ih =>
    have hlater : ∀ i, index ≤ i → i ≠ index → index + 1 ≤ i := fun i hle hne => by omega
    rw [collect]
    cases hnext : iterator.next index with
    | none =>
      constructor
      · intro h
        cases h
      · rintro ⟨i, hle, _, hi, _⟩
        obtain ⟨a, ha⟩ := iterator.isSome_of_le hi hle
        rw [hnext] at ha
        cases ha
    | some first =>
      simp only
      split
      · next hover =>
        constructor
        · intro h
          cases h
        · rintro ⟨i, hle, _, hi, hin⟩
          have hstart : first.ms ≤ start.ms := by
            by_cases hsame : i = index
            · rw [hsame, hnext] at hi
              rw [Option.some.inj hi]
            · exact (iterator.lt_of_lt hnext hi (hlater i hle hsame)).le
          have := hin.2
          omega
      · next hinside =>
        split
        · next hfirst =>
          rw [map_cons, mem_cons, ih]
          constructor
          · rintro (rfl | ⟨i, hle, hlt, hi, hin⟩)
            · exact ⟨index, le_rfl, by omega, hnext, hfirst, by omega⟩
            · exact ⟨i, by omega, by omega, hi, hin⟩
          · rintro ⟨i, hle, hlt, hi, hin⟩
            by_cases hsame : i = index
            · rw [hsame, hnext] at hi
              exact .inl (Option.some.inj hi).symm
            · exact .inr ⟨i, hlater i hle hsame, by omega, hi, hin⟩
        · next hbefore =>
          rw [ih]
          constructor
          · rintro ⟨i, hle, hlt, hi, hin⟩
            exact ⟨i, by omega, by omega, hi, hin⟩
          · rintro ⟨i, hle, hlt, hi, hin⟩
            have hne : i ≠ index := by
              rintro rfl
              rw [hnext] at hi
              exact hbefore (Option.some.inj hi ▸ hin.1)
            exact ⟨i, hlater i hle hne, by omega, hi, hin⟩

theorem nodup_collect :
    ((collect event window externalIdPrefix iterator calls index).map Occurrence.start).Nodup := by
  induction calls generalizing index with
  | zero => exact nodup_nil
  | succ calls ih =>
    rw [collect]
    cases hnext : iterator.next index with
    | none => exact nodup_nil
    | some first =>
      simp only
      split
      · exact nodup_nil
      · split
        · rw [map_cons, nodup_cons]
          refine ⟨fun hmem => ?_, ih⟩
          obtain ⟨i, hle, _, hi, _⟩ := mem_collect.1 hmem
          exact absurd (iterator.index_eq hi hnext) (by omega)
        · exact ih

theorem eq_occurrenceAt {occurrence : Occurrence}
    (h : occurrence ∈ collect event window externalIdPrefix iterator calls index) :
    occurrence = occurrenceAt event externalIdPrefix occurrence.start := by
  induction calls generalizing index with
  | zero => cases h
  | succ calls ih =>
    rw [collect] at h
    cases hnext : iterator.next index with
    | none =>
      rw [hnext] at h
      cases h
    | some first =>
      simp only [hnext] at h
      split at h
      · cases h
      · split at h
        · rcases mem_cons.1 h with rfl | h
          · rfl
          · exact ih h
        · exact ih h

end

theorem occurrenceAt_externalId_inj {event event' : IcsEvent} {externalIdPrefix : JsString}
    {a b : TimeValue} (h : (occurrenceAt event externalIdPrefix a).externalId =
      (occurrenceAt event' externalIdPrefix b).externalId) : a = b := by
  have htext : toISOString a = toISOString b := append_cancel_left h
  have hparsed := parseIso_toISOString a
  rw [htext, parseIso_toISOString] at hparsed
  exact (Option.some.inj hparsed).symm

/-! ## Materialization -/

/-- What a materialized `Meeting` has of its occurrence and its series. -/
structure Meeting where
  workspaceId : JsString
  seriesId : JsString
  externalId : JsString
  calendarExternalId : Option JsString
  recordedAt : TimeValue
  scheduledEndAt : Int
deriving DecidableEq

/-- The series, with the event that `componentForSeries` makes of it (line 234). -/
structure MeetingSeriesForExpansion where
  id : JsString
  workspaceId : JsString
  event : IcsEvent

section
variable (series : MeetingSeriesForExpansion)

/-- `` `meeting-series:${seriesSnapshot.id}` `` -/
def MeetingSeriesForExpansion.externalIdPrefix : JsString :=
  lit "meeting-series:" ++ series.id

def MeetingSeriesForExpansion.occurrences (window : ExpansionWindow) : List Occurrence :=
  expandIcsEvent series.event window series.externalIdPrefix

/-- The row that is inserted for an occurrence. -/
def MeetingSeriesForExpansion.meeting (occurrence : Occurrence) : Meeting where
  workspaceId := series.workspaceId
  seriesId := series.id
  externalId := occurrence.externalId
  calendarExternalId := occurrence.calendarExternalId
  recordedAt := occurrence.start
  scheduledEndAt := occurrence.finish

end

/-- The meetings, and those of them that were created. -/
structure MeetingStore where
  meetings : List Meeting
  created : List Meeting

section
variable (series : MeetingSeriesForExpansion)

section
variable (store : MeetingStore) (occurrence : Occurrence)

/-- `INSERT … ON CONFLICT ("externalId") DO NOTHING` (line 290). -/
def insertMeeting : MeetingStore :=
  if store.meetings.any fun meeting => meeting.externalId = occurrence.externalId then store
  else
    { meetings := store.meetings ++ [series.meeting occurrence]
      created := store.created ++ [series.meeting occurrence] }

/-- The loop over the occurrences of a window (line 287). -/
def materializeOccurrence : Except AppError MeetingStore := do
  let store := insertMeeting series store occurrence
  let meeting := store.meetings.find? fun meeting => meeting.externalId = occurrence.externalId
  invariant
    (meeting.any fun meeting =>
      meeting.workspaceId = series.workspaceId && meeting.seriesId = series.id)
    409 "SOURCE_CHANGED" "Unable to verify the recurring meeting occurrence."
  return store

end

/-- `materializeMeetingSeriesOccurrencesTx` (line 267). -/
def materializeMeetingSeriesOccurrences (store : MeetingStore) (window : ExpansionWindow) :
    Except AppError MeetingStore :=
  (series.occurrences window).foldlM (materializeOccurrence series) store

def materializeWindows (windows : List ExpansionWindow) (store : MeetingStore) :
    Except AppError MeetingStore :=
  windows.foldlM (materializeMeetingSeriesOccurrences series) store

end

/-! ## Every occurrence once -/

/-- The occurrences of a window are listed as a whole, each once, under external ids of their own.
-/
structure ExpandsExactly (series : MeetingSeriesForExpansion) (iterator : EventIterator)
    (window : ExpansionWindow) : Prop where
  mem_iff : ∀ start, start ∈ (series.occurrences window).map Occurrence.start ↔
    (∃ index, iterator.next index = some start) ∧ window.Contains start
  nodup : ((series.occurrences window).map Occurrence.start).Nodup
  externalIds : ((series.occurrences window).map Occurrence.externalId).Nodup

/-- Whatever meetings there are, as long as none is of the series, the windows create one for each
occurrence in one of them. -/
def CreatesEachOnce (series : MeetingSeriesForExpansion) (iterator : EventIterator)
    (windows : List ExpansionWindow) : Prop :=
  ∀ meetings : List Meeting,
    (∀ meeting ∈ meetings, ∀ start,
      meeting.externalId ≠ (occurrenceAt series.event series.externalIdPrefix start).externalId) →
    ∃ store, materializeWindows series windows ⟨meetings, []⟩ = .ok store ∧
      store.meetings = meetings ++ store.created ∧
      (store.created.map Meeting.recordedAt).Nodup ∧
      ∀ start, start ∈ store.created.map Meeting.recordedAt ↔
        (∃ index, iterator.next index = some start) ∧ ∃ window ∈ windows, window.Contains start

section
variable {series : MeetingSeriesForExpansion} {iterator : EventIterator} {window : ExpansionWindow}

variable (h : series.event.iterator = some iterator)
include h

theorem occurrences_eq : series.occurrences window =
      collect series.event window series.externalIdPrefix iterator 370 0 := by
  unfold MeetingSeriesForExpansion.occurrences expandIcsEvent
  rw [h]

theorem mem_occurrences {start : TimeValue} :
    start ∈ (series.occurrences window).map Occurrence.start ↔
      ∃ index < 370, iterator.next index = some start ∧ window.Contains start := by
  rw [occurrences_eq h, mem_collect]
  constructor
  · rintro ⟨index, _, hlt, hnext, hin⟩
    exact ⟨index, by omega, hnext, hin⟩
  · rintro ⟨index, hlt, hnext, hin⟩
    exact ⟨index, Nat.zero_le _, by omega, hnext, hin⟩

theorem externalIds_eq : (series.occurrences window).map Occurrence.externalId =
      ((series.occurrences window).map Occurrence.start).map fun start =>
        (occurrenceAt series.event series.externalIdPrefix start).externalId := by
  rw [map_map]
  refine map_congr_left fun occurrence hmem => ?_
  rw [occurrences_eq h] at hmem
  exact congrArg Occurrence.externalId (eq_occurrenceAt hmem)

/-- **A window is listed as a whole** exactly if it has none of the occurrences after the first
370. -/
theorem expandsExactly_iff : ExpandsExactly series iterator window ↔
      ∀ index start, 370 ≤ index → iterator.next index = some start → ¬ window.Contains start := by
  constructor
  · intro hexact index start hlate hnext hin
    obtain ⟨early, hlt, hnext', _⟩ := (mem_occurrences h).1 ((hexact.mem_iff start).2
      ⟨⟨index, hnext⟩, hin⟩)
    have := iterator.index_eq hnext hnext'
    omega
  · intro hnone
    have hnodup : ((series.occurrences window).map Occurrence.start).Nodup := by
      rw [occurrences_eq h]
      exact nodup_collect
    refine ⟨fun start => ?_, hnodup, ?_⟩
    · rw [mem_occurrences h]
      constructor
      · rintro ⟨index, _, hnext, hin⟩
        exact ⟨⟨index, hnext⟩, hin⟩
      · rintro ⟨⟨index, hnext⟩, hin⟩
        refine ⟨index, ?_, hnext, hin⟩
        by_contra hlate
        exact hnone index start (by omega) hnext hin
    · rw [externalIds_eq h]
      exact hnodup.map fun a b hab => occurrenceAt_externalId_inj hab

end

/-! ## The run over the windows -/

/-- The meetings of a run: those before it, and the created ones, each of an occurrence of its
own. -/
structure Materialized (series : MeetingSeriesForExpansion) (meetings : List Meeting)
    (starts : TimeValue → Prop) (store : MeetingStore) : Prop where
  meetings_eq : store.meetings = meetings ++ store.created
  nodup : (store.created.map Meeting.recordedAt).Nodup
  mem_iff : ∀ start, start ∈ store.created.map Meeting.recordedAt ↔ starts start
  ofSeries : ∀ meeting ∈ store.created,
    meeting = series.meeting (occurrenceAt series.event series.externalIdPrefix meeting.recordedAt)

section
variable {series : MeetingSeriesForExpansion} {meetings : List Meeting} {starts : TimeValue → Prop}
  {store : MeetingStore}

/-- A step creates the meeting of its occurrence, unless there is one. -/
theorem Materialized.occurrence (hstore : Materialized series meetings starts store)
    (hfree : ∀ meeting ∈ meetings, ∀ start, meeting.externalId ≠
      (occurrenceAt series.event series.externalIdPrefix start).externalId)
    (start : TimeValue) :
    ∃ store', materializeOccurrence series store
        (occurrenceAt series.event series.externalIdPrefix start) = .ok store' ∧
      Materialized series meetings (fun other => starts other ∨ other = start) store' := by
  obtain ⟨occurrence, hoccurrence⟩ : ∃ occurrence,
    occurrence = occurrenceAt series.event series.externalIdPrefix start := ⟨_, rfl⟩
  have hcreated : ∀ meeting ∈ store.created, meeting.externalId = occurrence.externalId →
      meeting.recordedAt = start := by
    intro meeting hmem hid
    rw [hstore.ofSeries meeting hmem, hoccurrence] at hid
    exact @occurrenceAt_externalId_inj series.event series.event _ _ _ hid
  have hmem_of : ∀ meeting ∈ store.meetings, meeting.externalId = occurrence.externalId →
      meeting ∈ store.created := by
    intro meeting hmem hid
    rw [hstore.meetings_eq] at hmem
    rcases mem_append.1 hmem with hmem | hmem
    · exact absurd (hoccurrence ▸ hid) (hfree meeting hmem start)
    · exact hmem
  rw [← hoccurrence]
  unfold materializeOccurrence insertMeeting
  by_cases hthere : ∃ meeting ∈ store.meetings, meeting.externalId = occurrence.externalId
  · obtain ⟨meeting, hmem, hid⟩ := hthere
    have hany : (store.meetings.any fun meeting => meeting.externalId = occurrence.externalId) =
        true := any_eq_true.2 ⟨meeting, hmem, by simpa using hid⟩
    obtain ⟨found, hfound⟩ := Option.isSome_iff_exists.1
      (find?_isSome.2 ⟨meeting, hmem, decide_eq_true hid⟩ :
        (store.meetings.find? fun meeting =>
          decide (meeting.externalId = occurrence.externalId)).isSome = true)
    have hfoundCreated := hmem_of found (mem_of_find?_eq_some hfound)
      (by simpa using find?_some hfound)
    refine ⟨store, ?_, hstore.meetings_eq, hstore.nodup, fun other => ?_, hstore.ofSeries⟩
    · simp only [hany, if_true, hfound, Option.any_some]
      rw [hstore.ofSeries found hfoundCreated]
      simp [invariant, MeetingSeriesForExpansion.meeting]
    · rw [hstore.mem_iff]
      constructor
      · exact .inl
      · rintro (hother | rfl)
        · exact hother
        · exact (hstore.mem_iff _).1 (mem_map.2 ⟨meeting, hmem_of meeting hmem hid,
            hcreated meeting (hmem_of meeting hmem hid) hid⟩)
  · have hany : (store.meetings.any fun meeting => meeting.externalId = occurrence.externalId) =
        false := by
      rw [any_eq_false]
      exact fun meeting hmem hid => hthere ⟨meeting, hmem, by simpa using hid⟩
    have hfind : (store.meetings ++ [series.meeting occurrence]).find?
        (fun meeting => meeting.externalId = occurrence.externalId) =
          some (series.meeting occurrence) := by
      rw [find?_append, find?_eq_none.2 fun meeting hmem hid =>
        hthere ⟨meeting, hmem, by simpa using hid⟩]
      simp [MeetingSeriesForExpansion.meeting]
    have hnew : ¬ starts start := by
      intro hstart
      obtain ⟨meeting, hmem, hat⟩ := mem_map.1 ((hstore.mem_iff start).2 hstart)
      refine hthere ⟨meeting, hstore.meetings_eq ▸ mem_append_right _ hmem, ?_⟩
      rw [hstore.ofSeries meeting hmem, hoccurrence, hat]
      rfl
    have hstart : occurrence.start = start := hoccurrence ▸ rfl
    refine ⟨⟨store.meetings ++ [series.meeting occurrence],
      store.created ++ [series.meeting occurrence]⟩, ?_, ?_, ?_, fun other => ?_, ?_⟩
    · simp only [hany, Bool.false_eq_true, if_false, hfind, Option.any_some]
      simp [invariant, MeetingSeriesForExpansion.meeting]
    · rw [hstore.meetings_eq, append_assoc]
    · rw [map_append, nodup_append]
      refine ⟨hstore.nodup, nodup_singleton _, ?_⟩
      intro a ha b hb hab
      have hb' := mem_singleton.1 hb
      rw [hab, hb'] at ha
      exact hnew (hstart ▸ (hstore.mem_iff _).1 ha)
    · rw [map_append, mem_append, hstore.mem_iff]
      exact or_congr_right (mem_singleton.trans (hstart ▸ Iff.rfl))
    · intro meeting hmem
      rcases mem_append.1 hmem with hmem | hmem
      · exact hstore.ofSeries meeting hmem
      · rw [mem_singleton.1 hmem, hoccurrence]
        rfl

theorem Materialized.congr {starts' : TimeValue → Prop}
    (hstore : Materialized series meetings starts store)
    (h : ∀ start, starts start ↔ starts' start) : Materialized series meetings starts' store :=
  ⟨hstore.meetings_eq, hstore.nodup, fun start => (hstore.mem_iff start).trans (h start),
    hstore.ofSeries⟩

theorem Materialized.occurrences {occurrences : List Occurrence}
    (hstore : Materialized series meetings starts store)
    (hfree : ∀ meeting ∈ meetings, ∀ start, meeting.externalId ≠
      (occurrenceAt series.event series.externalIdPrefix start).externalId)
    (hof : ∀ occurrence ∈ occurrences,
      occurrence = occurrenceAt series.event series.externalIdPrefix occurrence.start) :
    ∃ store', occurrences.foldlM (materializeOccurrence series) store = .ok store' ∧
      Materialized series meetings
        (fun start => starts start ∨ start ∈ occurrences.map Occurrence.start) store' := by
  induction occurrences generalizing store starts with
  | nil => exact ⟨store, rfl, hstore.congr fun start => by simp⟩
  | cons occurrence occurrences ih =>
    obtain ⟨hfirst, hrest⟩ := forall_mem_cons.1 hof
    obtain ⟨next, hnext, hstore'⟩ := hstore.occurrence hfree occurrence.start
    rw [← hfirst] at hnext
    obtain ⟨store', hrun, hdone⟩ := ih hstore' hrest
    refine ⟨store', ?_, hdone.congr fun start => ?_⟩
    · rw [foldlM_cons, hnext]
      exact hrun
    · rw [map_cons, mem_cons, or_assoc]

theorem Materialized.windows {iterator : EventIterator} {windows : List ExpansionWindow}
    (hiterator : series.event.iterator = some iterator)
    (hstore : Materialized series meetings starts store)
    (hfree : ∀ meeting ∈ meetings, ∀ start, meeting.externalId ≠
      (occurrenceAt series.event series.externalIdPrefix start).externalId) :
    ∃ store', materializeWindows series windows store = .ok store' ∧
      Materialized series meetings
        (fun start => starts start ∨ ∃ window ∈ windows,
          start ∈ (series.occurrences window).map Occurrence.start) store' := by
  induction windows generalizing store starts with
  | nil => exact ⟨store, rfl, hstore.congr fun start => by simp⟩
  | cons window windows ih =>
    have hof : ∀ occurrence ∈ series.occurrences window,
        occurrence = occurrenceAt series.event series.externalIdPrefix occurrence.start := by
      rw [occurrences_eq hiterator]
      exact fun occurrence hmem => eq_occurrenceAt hmem
    obtain ⟨next, hnext, hstore'⟩ := hstore.occurrences hfree hof
    obtain ⟨store', hrun, hdone⟩ := ih hstore'
    refine ⟨store', ?_, hdone.congr fun start => ?_⟩
    · unfold materializeWindows at hrun ⊢
      rw [foldlM_cons, materializeMeetingSeriesOccurrences, hnext]
      exact hrun
    · rw [exists_mem_cons_iff, or_assoc]

end

/-- **Recurring meetings run dry** exactly where a window has an occurrence after the first 370 of
the series: without one, every window is listed as a whole, and the windows together create each
occurrence once. -/
theorem recurring_meetings_iff (series : MeetingSeriesForExpansion) (iterator : EventIterator)
    (h : series.event.iterator = some iterator) (windows : List ExpansionWindow) :
    ((∀ window ∈ windows, ExpandsExactly series iterator window) ∧
        CreatesEachOnce series iterator windows) ↔
      ∀ window ∈ windows, ∀ index start, 370 ≤ index → iterator.next index = some start →
        ¬ window.Contains start := by
  constructor
  · rintro ⟨hexact, _⟩ window hwindow
    exact (expandsExactly_iff h).1 (hexact window hwindow)
  · intro hnone
    have hexact : ∀ window ∈ windows, ExpandsExactly series iterator window :=
      fun window hwindow => (expandsExactly_iff h).2 (hnone window hwindow)
    refine ⟨hexact, fun meetings hfree => ?_⟩
    have hstart : Materialized series meetings (fun _ => False) ⟨meetings, []⟩ :=
      ⟨(append_nil _).symm, nodup_nil, fun start => by simp, fun meeting hmem => by
        cases hmem⟩
    obtain ⟨store, hrun, hdone⟩ :=
      @Materialized.windows series meetings _ _ iterator windows h hstart hfree
    refine ⟨store, hrun, hdone.meetings_eq, hdone.nodup, fun start => ?_⟩
    rw [hdone.mem_iff, false_or]
    constructor
    · rintro ⟨window, hwindow, hmem⟩
      obtain ⟨hindex, hin⟩ := ((hexact window hwindow).mem_iff start).1 hmem
      exact ⟨hindex, window, hwindow, hin⟩
    · rintro ⟨hindex, window, hwindow, hin⟩
      exact ⟨window, hwindow, ((hexact window hwindow).mem_iff start).2 ⟨hindex, hin⟩⟩

/-! ## A daily meeting -/

/-- Every day from 1970 on. -/
def daily : EventIterator where
  next index := timeClip (index * 86400000)
  ended index h := by
    unfold timeClip at h ⊢
    split at h
    · cases h
    · rw [dif_neg (by omega)]
  increasing index a b ha hb := by
    unfold timeClip at ha hb
    split at ha
    · split at hb
      · cases ha
        cases hb
        dsimp only
        omega
      · cases hb
    · cases ha

def dailySeries : MeetingSeriesForExpansion where
  id := lit "daily"
  workspaceId := lit "workspace"
  event :=
    { uid := lit "daily"
      startDate := epoch
      endDate := none
      iterator := some daily }

/-- The days of a window of the daily meeting. -/
def daysFrom (first last : Fin 1000) : ExpansionWindow where
  first := ⟨first * 86400000, by omega⟩
  last := ⟨last * 86400000, by omega⟩

theorem daily_next {index : Nat} {start : TimeValue} (h : daily.next index = some start) :
    start.ms = index * 86400000 := by
  change timeClip (index * 86400000) = some start at h
  unfold timeClip at h
  split at h
  · cases h
    rfl
  · cases h

/-- Two overlapping windows of the first weeks. -/
theorem dailySeries_created :
    (∀ window ∈ [daysFrom 0 13, daysFrom 7 20], ExpandsExactly dailySeries daily window) ∧
      CreatesEachOnce dailySeries daily [daysFrom 0 13, daysFrom 7 20] := by
  refine (recurring_meetings_iff dailySeries daily rfl _).2 ?_
  intro window hwindow index start hlate hnext hin
  have hstart := daily_next hnext
  have hlast : window.last.ms ≤ 20 * 86400000 := by
    simp only [mem_cons, not_mem_nil, or_false] at hwindow
    rcases hwindow with rfl | rfl <;> decide
  have := hin.2
  omega

/-- The window of day 400 is empty. -/
theorem not_recurring_meetings_exact :
    ¬ ∀ (series : MeetingSeriesForExpansion) (iterator : EventIterator)
      (windows : List ExpansionWindow), series.event.iterator = some iterator →
        (∀ window ∈ windows, ExpandsExactly series iterator window) ∧
          CreatesEachOnce series iterator windows := by
  intro hall
  have hexact := (hall dailySeries daily [daysFrom 400 400] rfl).1 _ (.head _)
  exact (expandsExactly_iff rfl).1 hexact 400 ⟨34560000000, by decide⟩ (by decide) (by decide)
    (by decide)

end Corgtex.Domain.MeetingSeries
