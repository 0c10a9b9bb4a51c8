import Corgtex.Domain.UsageReports

/-!
# Usage is billed once

An entry stands in one of three ways (`Standing`): Stripe has added nothing for it, Stripe has added
its cents and a run has the answer, or it is settled and Stripe has added its cents. A step of a run
changes one run and one entry (`Billed.step_at`), and keeps the rest where it stands.
-/

namespace Corgtex.Domain.Billing

open JsString KeyedTable List Option

section
variable {state state' : ReportState} {id other : Nat} {stored stored' entry : AiUsageLedgerEntry}
  {entryId : JsString} {run : Option ReportRun}

/-! ## Entries and runs -/

@[simp] theorem ReportState.setRun_runs :
    (state.setRun id run).runs other = if other = id then run else state.runs other :=
  Function.update_apply ..

@[simp] theorem ReportState.setRun_phase :
    (state.setRun id run).phase other =
      if other = id then run.map ReportRun.phase else state.phase other := by
  rw [ReportState.phase, ReportState.setRun_runs]
  split <;> rfl

theorem ReportState.Answered.settles (h : state.Answered id entryId) :
    state.Settles id entryId := by
  obtain ⟨entry, usageRecordId, hphase, hid⟩ := h
  exact ⟨entry, by simp [hphase, ReportPhase.entry?], hid⟩

theorem settles_congr (h : state'.phase id = state.phase id) :
    state'.Settles id entryId ↔ state.Settles id entryId := by
  rw [ReportState.Settles, ReportState.Settles, h]

theorem answered_congr (h : state'.phase id = state.phase id) :
    state'.Answered id entryId ↔ state.Answered id entryId := by
  rw [ReportState.Answered, ReportState.Answered, h]

/-- A run that has gone on is at no entry. -/
theorem not_settles_setRun (h : (run.map ReportRun.phase).bind ReportPhase.entry? = none) :
    ¬ (state.setRun id run).Settles id entryId := by
  rintro ⟨entry, hentry, _⟩
  rw [ReportState.setRun_phase, if_pos rfl, h] at hentry
  cases hentry

theorem cents_congr (h : stored'.billableMicros = stored.billableMicros) :
    stored'.cents = stored.cents := by
  rw [AiUsageLedgerEntry.cents, AiUsageLedgerEntry.cents, h]

/-- The ledger has the entry, whatever has been written to it since. -/
def Stored (store : BillingStore) (entry : AiUsageLedgerEntry) : Prop :=
  ∃ stored, store.ledger.find? entry.id = some stored ∧ stored.billableMicros = entry.billableMicros

theorem quantityCents_pos_iff : 0 < entry.quantityCents ↔ 0 < entry.cents := by
  constructor
  · intro hquantity
    by_contra hcents
    have hmicros : entry.billableMicros.val = 0 := by
      rw [AiUsageLedgerEntry.cents] at hcents
      omega
    rw [AiUsageLedgerEntry.quantityCents, AiUsageLedgerEntry.doubleCents, hmicros] at hquantity
    simp at hquantity
  · intro hcents
    have := cents_le_quantityCents entry
    omega

/-! ## Standing -/

/-- How an entry stands: nothing has been added for it and no run has an answer, its cents have been
added and a run has the answer, or its cents have been added, it is settled and no run is at it. -/
inductive Standing (state : ReportState) (stored : AiUsageLedgerEntry) : Prop
  | pending : ¬ stored.Settled → state.added stored.id = 0 →
      (∀ id, ¬ state.Answered id stored.id) → Standing state stored
  | accepted (id : Nat) : ¬ stored.Settled → state.added stored.id = stored.cents →
      state.Answered id stored.id → Standing state stored
  | settled : stored.Settled → state.added stored.id = stored.cents →
      (∀ id, ¬ state.Settles id stored.id) → Standing state stored

/-- Runs that are at the entry stay at it, and nothing is added for it. -/
theorem Standing.congr (h : Standing state stored)
    (hadded : state'.added stored.id = state.added stored.id)
    (hanswered : ∀ id, state'.Answered id stored.id ↔ state.Answered id stored.id)
    (hsettles : ∀ id, state'.Settles id stored.id → state.Settles id stored.id) :
    Standing state' stored := by
  cases h with
  | pending hopen hzero hnone =>
    exact .pending hopen (hadded.trans hzero) fun id h => hnone id ((hanswered id).1 h)
  | accepted id hopen hcents hid =>
    exact .accepted id hopen (hadded.trans hcents) ((hanswered id).2 hid)
  | settled hsettled hcents hnone =>
    exact .settled hsettled (hadded.trans hcents) fun id h => hnone id (hsettles id h)

/-- The columns that a standing is about. -/
theorem Standing.row (h : Standing state stored) (hid : stored'.id = stored.id)
    (hmicros : stored'.billableMicros = stored.billableMicros)
    (hsettled : stored'.Settled ↔ stored.Settled) : Standing state stored' := by
  have hcents := cents_congr hmicros
  cases h with
  | pending hopen hzero hnone =>
    exact .pending (hopen ∘ hsettled.1) (hid ▸ hzero) (hid ▸ hnone)
  | accepted id hopen hadded hanswered =>
    exact .accepted id (hopen ∘ hsettled.1) (by rw [hid, hcents, hadded]) (hid ▸ hanswered)
  | settled hbefore hadded hnone =>
    exact .settled (hsettled.2 hbefore) (by rw [hid, hcents, hadded]) (hid ▸ hnone)

/-- **What has been added** is never more than the cents, and it is the cents once the entry is
settled. -/
theorem Standing.added (h : Standing state stored) :
    state.added stored.id ≤ stored.cents ∧
      (stored.Settled → state.added stored.id = stored.cents) := by
  cases h with
  | pending hopen hzero _ => exact ⟨by omega, fun hsettled => absurd hsettled hopen⟩
  | accepted _ _ hcents _ => exact ⟨hcents.le, fun _ => hcents⟩
  | settled _ hcents _ => exact ⟨hcents.le, fun _ => hcents⟩

/-- What holds of the ledger and the runs: each entry has its standing, no two runs have sent the
same entry, and a run has entries of the ledger only. -/
structure Billed (state : ReportState) : Prop where
  standing : ∀ entryId stored, state.store.ledger.find? entryId = some stored →
    Standing state stored
  absent : ∀ entryId, state.store.ledger.find? entryId = none → state.added entryId = 0
  apart : ∀ id other entryId, state.Settles id entryId → state.Settles other entryId → id = other
  held : ∀ id run, state.runs id = some run → ∀ item ∈ run.entries, Stored state.store item.entry
  sent : ∀ id, ∀ entry ∈ (state.phase id).bind ReportPhase.entry?,
    Stored state.store entry ∧ 0 < entry.cents

/-- **A step at one run and one entry** keeps the rest where it stands. -/
theorem Billed.step_at (h : Billed state)
    (hruns : ∀ other ≠ id, state'.runs other = state.runs other)
    (hadded : ∀ k ≠ entryId, state'.added k = state.added k)
    (hfind : ∀ k ≠ entryId, state'.store.ledger.find? k = state.store.ledger.find? k)
    (hrow : ∃ stored stored', state.store.ledger.find? entryId = some stored ∧
      state'.store.ledger.find? entryId = some stored' ∧
      stored'.billableMicros = stored.billableMicros ∧ Standing state' stored')
    (hbefore : ∀ k, state.Settles id k → k = entryId)
    (hafter : ∀ k, state'.Settles id k → k = entryId)
    (hapart : ∀ other ≠ id, state.Settles other entryId → ¬ state'.Settles id entryId)
    (hheld : ∀ run, state'.runs id = some run → ∀ item ∈ run.entries, Stored state.store item.entry)
    (hsent : ∀ entry ∈ (state'.phase id).bind ReportPhase.entry?,
      Stored state.store entry ∧ 0 < entry.cents) : Billed state' := by
  obtain ⟨row, row', hrow, hrow', hmicros, hstanding⟩ := hrow
  have hphase : ∀ other ≠ id, state'.phase other = state.phase other := by
    intro other hne
    rw [ReportState.phase, ReportState.phase, hruns other hne]
  have hstored : ∀ entry, Stored state.store entry → Stored state'.store entry := by
    rintro entry ⟨found, hfound, hsame⟩
    by_cases hk : entry.id = entryId
    · rw [hk, hrow] at hfound
      cases hfound
      exact ⟨row', hk ▸ hrow', hmicros.trans hsame⟩
    · exact ⟨found, (hfind _ hk).trans hfound, hsame⟩
  constructor
  · intro k found hfound
    by_cases hk : k = entryId
    · subst hk
      rw [hrow'] at hfound
      cases hfound
      exact hstanding
    · rw [hfind k hk] at hfound
      have hid : found.id = k := (find?_eq_some.1 hfound).2
      refine (h.standing k found hfound).congr (hid ▸ hadded k hk) (fun other => ?_) fun other => ?_
      · by_cases hother : other = id
        · subst hother
          refine iff_of_false (fun hin => ?_) fun hin => ?_
          · exact hk (hid ▸ hafter _ hin.settles)
          · exact hk (hid ▸ hbefore _ hin.settles)
        · exact answered_congr (hphase other hother)
      · by_cases hother : other = id
        · subst hother
          intro hin
          exact absurd (hid ▸ hafter _ hin) hk
        · exact (settles_congr (hphase other hother)).1
  · intro k hnone
    have hk : k ≠ entryId := by
      rintro rfl
      rw [hrow'] at hnone
      cases hnone
    rw [hfind k hk] at hnone
    exact (hadded k hk).trans (h.absent k hnone)
  · have hone : ∀ other k, other ≠ id → state'.Settles id k → ¬ state'.Settles other k := by
      intro other k hother hin hin'
      obtain rfl := hafter k hin
      exact hapart other hother ((settles_congr (hphase other hother)).1 hin') hin
    intro a b k ha hb
    by_cases hid : a = id
    · subst hid
      by_contra hne
      exact hone b k (Ne.symm hne) ha hb
    · by_cases hid' : b = id
      · subst hid'
        exact absurd ha (hone a k hid hb)
      · exact h.apart a b k ((settles_congr (hphase a hid)).1 ha)
          ((settles_congr (hphase b hid')).1 hb)
  · intro other run hother item hitem
    by_cases hid : other = id
    · subst hid
      exact hstored _ (hheld run hother item hitem)
    · exact hstored _ (h.held other run ((hruns other hid).symm.trans hother) item hitem)
  · intro other entry hentry
    by_cases hid : other = id
    · subst hid
      exact (hsent entry hentry).imp_left (hstored _)
    · rw [hphase other hid] at hentry
      exact (h.sent other entry hentry).imp_left (hstored _)

/-- **A run that is not between a call and its update** goes on, begins or ends. -/
theorem Billed.setRun (h : Billed state)
    (hbefore : ∀ k, ¬ state.Answered id k)
    (hafter : (run.map ReportRun.phase).bind ReportPhase.entry? = none)
    (hheld : ∀ after ∈ run, ∀ item ∈ after.entries, Stored state.store item.entry) :
    Billed (state.setRun id run) := by
  have hnone : ∀ k, ¬ (state.setRun id run).Settles id k := fun k => not_settles_setRun hafter
  have hother : ∀ other k, (state.setRun id run).Settles other k → state.Settles other k := by
    intro other k hin
    by_cases hid : other = id
    · subst hid
      exact absurd hin (hnone k)
    · exact (settles_congr (by simp [hid])).1 hin
  constructor
  · intro k found hfound
    refine (h.standing k found hfound).congr rfl (fun other => ?_) fun other => hother other _
    by_cases hid : other = id
    · subst hid
      exact iff_of_false (fun hin => hnone _ hin.settles) (hbefore _)
    · exact answered_congr (by simp [hid])
  · exact h.absent
  · intro a b k ha hb
    exact h.apart a b k (hother a k ha) (hother b k hb)
  · intro other after hafter item hitem
    by_cases hid : other = id
    · rw [ReportState.setRun_runs, if_pos hid] at hafter
      exact hheld after hafter item hitem
    · rw [ReportState.setRun_runs, if_neg hid] at hafter
      exact h.held other after hafter item hitem
  · intro other entry hentry
    rw [ReportState.setRun_phase] at hentry
    split at hentry
    · rw [hafter] at hentry
      cases hentry
    · exact h.sent other entry hentry

variable {store : BillingStore}

/-- **The ledger changes** and each entry keeps its cost and has a standing. -/
theorem Billed.setStore (h : Billed state)
    (data : AiUsageLedgerEntry → AiUsageLedgerEntry)
    (hfind : ∀ k, store.ledger.find? k = (state.store.ledger.find? k).map data)
    (hdata : ∀ k stored, state.store.ledger.find? k = some stored →
      (data stored).billableMicros = stored.billableMicros ∧ Standing state (data stored)) :
    Billed { state with store := store } := by
  have hstored : ∀ entry, Stored state.store entry → Stored store entry := by
    rintro entry ⟨found, hfound, hsame⟩
    refine ⟨data found, ?_, (hdata _ _ hfound).1.trans hsame⟩
    rw [hfind, hfound, map_some]
  constructor
  · intro k found hfound
    have hfound : store.ledger.find? k = some found := hfound
    rw [hfind] at hfound
    obtain ⟨before, hbefore, rfl⟩ := map_eq_some_iff.1 hfound
    exact (hdata k before hbefore).2.congr rfl (fun other => answered_congr rfl)
      fun other => (settles_congr rfl).1
  · intro k hnone
    have hnone : store.ledger.find? k = none := hnone
    rw [hfind, map_eq_none_iff] at hnone
    exact h.absent k hnone
  · exact h.apart
  · exact fun other after hafter item hitem => hstored _ (h.held other after hafter item hitem)
  · exact fun other entry hentry => (h.sent other entry hentry).imp_left (hstored _)

/-! ## The steps of a run -/

theorem stored_of_mem_findEntries {status : AiUsageLedgerStatus} {tie : JsString → Nat}
    {take : Nat} {item : UsageItem} (h : item ∈ findEntries store status tie take) :
    Stored store item.entry := by
  obtain ⟨entry, hentry, rfl⟩ := mem_map.1 h
  have hmem := mem_of_mem_filter (JsArray.mem_sortBy.1 (mem_of_mem_take hentry))
  exact ⟨entry, find?_key hmem, rfl⟩

/-- The standing of an entry that is about to be sent. -/
theorem Billed.added_eq_zero (h : Billed state)
    (hrow : state.store.ledger.find? entryId = some stored) (hopen : ¬ stored.Settled)
    (hnone : ∀ other, ¬ state.Settles other entryId) : state.added entryId = 0 := by
  obtain rfl : stored.id = entryId := (find?_eq_some.1 hrow).2
  cases h.standing _ stored hrow with
  | pending _ hzero _ => exact hzero
  | accepted id _ _ hanswered => exact absurd hanswered.settles (hnone id)
  | settled hsettled _ _ => exact absurd hsettled hopen

theorem Billed.open_of_settles (h : Billed state) (hsettles : state.Settles id entryId) :
    ∃ stored, state.store.ledger.find? entryId = some stored ∧ 0 < stored.cents ∧
      ¬ stored.Settled := by
  obtain ⟨entry, hentry, rfl⟩ := hsettles
  obtain ⟨⟨stored, hrow, hmicros⟩, hcents⟩ := h.sent id entry hentry
  refine ⟨stored, hrow, cents_congr hmicros ▸ hcents, ?_⟩
  have hid : stored.id = entry.id := (find?_eq_some.1 hrow).2
  cases h.standing _ stored hrow with
  | pending hopen _ _ => exact hopen
  | accepted _ hopen _ _ => exact hopen
  | settled _ _ hnone => exact absurd ⟨entry, hentry, hid.symm⟩ (hnone id)

variable {now : Int}

theorem Billed.report (h : Billed state) (hrow : state.store.ledger.find? entryId = some stored)
    (hcents : stored.cents = 0) :
    Billed { state with store := setReported state.store entryId now } := by
  refine h.setStore (fun row => if row.id = entryId then
    { row with status := .REPORTED, stripeReportedAt := some now } else row)
    (fun k => by simp [setReported, update]) fun k found hfound => ?_
  have hstanding := h.standing k found hfound
  have hid : found.id = k := (find?_eq_some.1 hfound).2
  split
  · next hsame =>
    obtain rfl : k = entryId := hid.symm.trans hsame
    rw [hrow] at hfound
    cases hfound
    refine ⟨rfl, .settled (.inl rfl) ?_ fun other hsettles => ?_⟩
    · show state.added stored.id = stored.cents
      cases hstanding with
      | pending _ hzero _ => rw [hzero, hcents]; rfl
      | accepted _ _ hadded _ => exact hadded
      | settled _ hadded _ => exact hadded
    · have hsettles : state.Settles other stored.id := hsettles
      obtain ⟨row, hfound', hpos, _⟩ := h.open_of_settles (hid ▸ hsettles)
      rw [hrow] at hfound'
      cases hfound'
      omega
  · exact ⟨rfl, hstanding⟩

/-- **The next entry** of a run. -/
theorem Billed.send (h : Billed state) {run : ReportRun} {item : UsageItem}
    {rest : List UsageItem} {call : UsageCall} {written : Bool} (hrun : state.runs id = some run)
    (hphase : run.phase = .sending) (hentries : run.entries = item :: rest)
    (hexact : Exact state (.send id call written now)) :
    Billed (state.send id run item rest call written now) := by
  have hsending : state.phase id = some .sending := by
    rw [ReportState.phase, hrun, map_some, hphase]
  have hidle : ∀ k, ¬ state.Settles id k := by
    rintro k ⟨entry, hentry, _⟩
    rw [hsending] at hentry
    cases hentry
  have hnone : ∀ k, ¬ state.Answered id k := fun k hanswered => hidle k hanswered.settles
  have hheld : ∀ next ∈ rest, Stored state.store next.entry := by
    intro next hnext
    exact h.held id run hrun next (hentries ▸ mem_cons_of_mem _ hnext)
  obtain ⟨row, hrow, hmicros⟩ : Stored state.store item.entry :=
    h.held id run hrun item (hentries ▸ mem_cons_self ..)
  rw [ReportState.send]
  split
  · exact h.setRun hnone (by simp [hphase, ReportPhase.entry?]) (by simpa using hheld)
  · next hitem =>
    split
    · next hquantity =>
      have hcents : row.cents = 0 := by
        have := cents_le_quantityCents item.entry
        have := cents_congr hmicros
        omega
      split
      · refine (h.report hrow hcents).setRun hnone (by simp [hphase, ReportPhase.entry?]) ?_
        rintro after ⟨⟩ next hnext
        exact ((h.report hrow hcents).held id run hrun next (hentries ▸ mem_cons_of_mem _ hnext))
      · exact h.setRun hnone rfl (by simp)
    · next hquantity =>
      have hcents : 0 < item.entry.cents := quantityCents_pos_iff.1 (not_le.1 hquantity)
      obtain ⟨hrounds, hlost, hopen, hfree⟩ :=
        hexact run item rest hrun hphase hentries hitem hcents
      have hzero := h.added_eq_zero hrow (hopen row hrow) hfree
      have hid : row.id = item.entry.id := (find?_eq_some.1 hrow).2
      have hphase' : (state.send id run item rest call written now).phase id =
          some (call.phase item.entry) := by
        rw [ReportState.send, if_neg hitem, if_neg hquantity, ReportState.setRun_phase, if_pos rfl]
        rfl
      have hafter : ∀ k, (state.send id run item rest call written now).Settles id k →
          k = item.entry.id := by
        rintro k ⟨entry, hentry, rfl⟩
        rw [hphase'] at hentry
        cases call <;> cases hentry <;> rfl
      rw [ReportState.send, if_neg hitem, if_neg hquantity] at hafter hphase'
      refine h.step_at (fun other hne => by simp [hne]) (fun k hk => ?_) (fun k _ => rfl)
        ⟨row, row, hrow, hrow, rfl, ?_⟩ (fun k hk => absurd hk (hidle k)) hafter
        (fun other _ hin => absurd hin (hfree other)) ?_ ?_
      · show (if call.accepted then Function.update state.added item.entry.id _
          else state.added) k = _
        split
        · exact Function.update_of_ne hk ..
        · rfl
      · cases call with
        | answered usageRecordId =>
          refine .accepted id (hopen row hrow) ?_ ⟨item.entry, usageRecordId, hphase', hid.symm⟩
          show Function.update state.added item.entry.id _ row.id = _
          rw [hid, Function.update_self, hzero, zero_add, (quantityCents_eq_iff _).2 hrounds,
            cents_congr hmicros]
        | lost error => exact absurd rfl (hlost error)
        | refused error =>
          refine .pending (hopen row hrow) (hid ▸ hzero) ?_
          rintro other ⟨entry, usageRecordId, hanswered, hsame⟩
          rw [ReportState.setRun_phase] at hanswered
          split at hanswered
          · cases hanswered
          · have hbefore : state.Answered other item.entry.id :=
              ⟨entry, usageRecordId, hanswered, hsame.trans hid⟩
            exact hfree other hbefore.settles
      · simpa using hheld
      · intro entry hentry
        rw [hphase'] at hentry
        have hentry : entry = item.entry := by
          cases call <;> cases hentry <;> rfl
        exact hentry ▸ ⟨⟨row, hrow, hmicros⟩, hcents⟩

/-- **The update after a call.** -/
theorem Billed.settle (h : Billed state) {run : ReportRun} {written : Bool} {error : String}
    (hrun : state.runs id = some run) (hexact : Exact state (.settle id written error now)) :
    Billed (state.settle id run written error now) := by
  have hphase : state.phase id = some run.phase := by
    rw [ReportState.phase, hrun, map_some]
  have hheld : ∀ item ∈ run.entries, Stored state.store item.entry := h.held id run hrun
  rw [ReportState.settle]
  split
  · next entry usageRecordId hanswered =>
    rw [hanswered] at hphase
    have hin : state.Answered id entry.id := ⟨entry, usageRecordId, hphase, rfl⟩
    have hwritten : written = true := hexact entry.id hin
    obtain ⟨row, hrow, _, hopen⟩ := h.open_of_settles hin.settles
    have hid : row.id = entry.id := (find?_eq_some.1 hrow).2
    have hadded : state.added entry.id = row.cents := by
      cases h.standing _ row hrow with
      | pending _ _ hnone => exact absurd (hid ▸ hin) (hnone id)
      | accepted _ _ hadded _ => exact hid ▸ hadded
      | settled hsettled _ _ => exact absurd hsettled hopen
    have hfind : ∀ k, (setRecorded state.store entry.id usageRecordId now).ledger.find? k =
        if k = entry.id then (state.store.ledger.find? entry.id).map fun row => { row with
          status := .REPORTED, stripeUsageRecordId := usageRecordId, stripeReportedAt := some now
          lastReportError := none }
        else state.store.ledger.find? k := by
      intro k
      simp only [setRecorded, find?_update]
    rw [if_pos hwritten]
    refine h.step_at (fun other hne => by simp [hne]) (fun k _ => rfl)
      (fun k hk => (hfind k).trans (if_neg hk))
      ⟨row, _, hrow, ((hfind _).trans (if_pos rfl)).trans (congrArg _ hrow), rfl, ?_⟩ ?_
      (fun k hk => absurd hk (not_settles_setRun rfl)) (fun _ _ _ => not_settles_setRun rfl) ?_ ?_
    · refine .settled (.inl rfl) (hid ▸ hadded) fun other hsettles => ?_
      by_cases hsame : other = id
      · subst hsame
        exact not_settles_setRun rfl hsettles
      · have hbefore : state.Settles other entry.id := by
          obtain ⟨sent, hsent, hsentId⟩ := hsettles
          rw [ReportState.setRun_phase, if_neg hsame] at hsent
          exact ⟨sent, hsent, hsentId.trans hid⟩
        exact hsame (h.apart other id entry.id hbefore hin.settles)
    · rintro k ⟨sent, hsent, rfl⟩
      rw [hphase] at hsent
      cases hsent
      rfl
    · simpa using hheld
    · intro sent hsent
      rw [ReportState.setRun_phase, if_pos rfl] at hsent
      cases hsent
  · next entry message hfailing =>
    rw [hfailing] at hphase
    have hnone : ∀ k, ¬ state.Answered id k := by
      rintro k ⟨sent, usageRecordId, hanswered, _⟩
      rw [hphase] at hanswered
      cases hanswered
    have hin : state.Settles id entry.id := ⟨entry, by simp [hphase, ReportPhase.entry?], rfl⟩
    obtain ⟨row, hrow, _, hopen⟩ := h.open_of_settles hin
    split
    · have hfailed : Billed { state with store := setFailed state.store entry.id message } := by
        refine h.setStore (fun row => if row.id = entry.id then
          { row with status := .FAILED, lastReportError := some message } else row)
          (fun k => by simp [setFailed, update]) fun k found hfound => ?_
        have hstanding := h.standing k found hfound
        have hid : found.id = k := (find?_eq_some.1 hfound).2
        split
        · next hsame =>
          obtain rfl : k = entry.id := hid.symm.trans hsame
          rw [hrow] at hfound
          cases hfound
          have hfailed : ¬ ({ row with
              status := .FAILED, lastReportError := some message } : AiUsageLedgerEntry).Settled := by
            simp [AiUsageLedgerEntry.Settled]
          exact ⟨rfl, hstanding.row rfl rfl (iff_of_false hfailed hopen)⟩
        · exact ⟨rfl, hstanding⟩
      refine hfailed.setRun hnone rfl ?_
      rintro after ⟨⟩ item hitem
      exact hfailed.held id run hrun item hitem
    · exact h.setRun hnone rfl (by simp)
  · exact h
  · exact h

/-! ## Runs -/

/-- A new entry, for which nothing has been added. -/
theorem Billed.create (h : Billed state) (hnew : state.store.ledger.find? entry.id = none) :
    Billed { state with store := { state.store with
      ledger := state.store.ledger.set { entry with status := .PENDING } } } := by
  have hidle : ∀ other, ¬ state.Settles other entry.id := by
    intro other hsettles
    obtain ⟨row, hrow, _⟩ := h.open_of_settles hsettles
    rw [hnew] at hrow
    cases hrow
  have hstored : ∀ sent, Stored state.store sent → Stored { state.store with
      ledger := state.store.ledger.set { entry with status := .PENDING } } sent := by
    rintro sent ⟨found, hfound, hsame⟩
    refine ⟨found, ?_, hsame⟩
    rw [find?_set, if_neg]
    · exact hfound
    · intro hid
      have hid : sent.id = entry.id := hid
      rw [hid, hnew] at hfound
      cases hfound
  constructor
  · intro k found hfound
    rw [find?_set] at hfound
    split at hfound
    · cases hfound
      exact .pending (by simp [AiUsageLedgerEntry.Settled]) (h.absent entry.id hnew)
        fun other hanswered => hidle other hanswered.settles
    · exact (h.standing k found hfound).congr rfl (fun other => answered_congr rfl)
        fun other => (settles_congr rfl).1
  · intro k hnone
    rw [find?_set] at hnone
    split at hnone
    · cases hnone
    · exact h.absent k hnone
  · exact h.apart
  · exact fun other run hrun item hitem => hstored _ (h.held other run hrun item hitem)
  · exact fun other sent hsent => (h.sent other sent hsent).imp_left (hstored _)

/-- **A step** of the exact kind. -/
theorem ReportStep.apply_billed {step : ReportStep} (h : Billed state) (hexact : Exact state step) :
    Billed (step.apply state) := by
  cases step with
  | start id limit tie =>
    rw [ReportStep.apply]
    split
    · exact h
    · next hfree =>
      refine h.setRun ?_ rfl ?_
      · rintro k ⟨entry, usageRecordId, hphase, _⟩
        rw [ReportState.phase, hfree] at hphase
        cases hphase
      · rintro after ⟨⟩ item hitem
        exact stored_of_mem_findEntries hitem
  | retry id tie =>
    rw [ReportStep.apply]
    split
    · next run hrun =>
      split
      · next hphase =>
        refine h.setRun ?_ rfl ?_
        · rintro k ⟨entry, usageRecordId, hanswered, _⟩
          rw [ReportState.phase, hrun, map_some, hphase] at hanswered
          cases hanswered
        · rintro after ⟨⟩ item hitem
          rcases mem_append.1 hitem with hpending | hfailed
          · exact h.held id run hrun item hpending
          · exact stored_of_mem_findEntries hfailed
      · exact h
    · exact h
  | send id call stored now =>
    rw [ReportStep.apply]
    split
    · next run hrun =>
      split
      · next item rest hphase hentries => exact h.send hrun hphase hentries hexact
      · next hphase _ =>
        refine h.setRun ?_ rfl (by simp)
        rintro k ⟨entry, usageRecordId, hanswered, _⟩
        rw [ReportState.phase, hrun, map_some, hphase] at hanswered
        cases hanswered
      · exact h
    · exact h
  | settle id stored error now =>
    rw [ReportStep.apply]
    split
    · next run hrun => exact h.settle hrun hexact
    · exact h
  | crash id => exact h.setRun hexact rfl (by simp)
  | invoice workspaceId stripeInvoiceId =>
    refine h.setStore (fun row => if row.workspaceId = workspaceId && row.status = .REPORTED &&
        row.stripeInvoiceId = none
      then { row with status := .INVOICED, stripeInvoiceId := stripeInvoiceId } else row)
      (fun k => by simp [invoiceUsage]) fun k found hfound => ?_
    have hstanding := h.standing k found hfound
    split
    · next htest =>
      have hreported : found.status = .REPORTED := by
        simp only [Bool.and_eq_true, decide_eq_true_eq] at htest
        exact htest.1.2
      exact ⟨rfl, hstanding.row rfl rfl (iff_of_true (.inr rfl) (.inl hreported))⟩
    · exact ⟨rfl, hstanding⟩
  | change profile =>
    exact h.setStore id (fun k => by simp) fun k found hfound => ⟨rfl, h.standing k found hfound⟩
  | create entry =>
    rw [ReportStep.apply]
    split
    · exact h
    · next hnew => exact h.create (not_isSome_iff_eq_none.1 hnew)

/-- Settled entries stay settled. -/
def KeepsSettled (store store' : BillingStore) : Prop :=
  ∀ k stored, store.ledger.find? k = some stored → stored.Settled →
    ∃ stored', store'.ledger.find? k = some stored' ∧ stored'.Settled

theorem KeepsSettled.of_eq {store' : BillingStore} (h : store'.ledger = store.ledger) :
    KeepsSettled store store' :=
  fun _ stored hstored hsettled => ⟨stored, h ▸ hstored, hsettled⟩

theorem KeepsSettled.of_map {store' : BillingStore}
    (data : AiUsageLedgerEntry → AiUsageLedgerEntry)
    (hfind : ∀ k, store'.ledger.find? k = (store.ledger.find? k).map data)
    (hdata : ∀ k stored, store.ledger.find? k = some stored → stored.Settled →
      (data stored).Settled) : KeepsSettled store store' := by
  intro k stored hstored hsettled
  exact ⟨data stored, by rw [hfind, hstored, map_some], hdata k stored hstored hsettled⟩

theorem keepsSettled_setReported : KeepsSettled store (setReported store entryId now) := by
  refine .of_map (fun row => if row.id = entryId then
    { row with status := .REPORTED, stripeReportedAt := some now } else row)
    (fun k => by simp [setReported, update]) fun k stored _ hsettled => ?_
  split
  · exact .inl rfl
  · exact hsettled

theorem keepsSettled_setRecorded {usageRecordId : Option JsString} :
    KeepsSettled store (setRecorded store entryId usageRecordId now) := by
  refine .of_map (fun row => if row.id = entryId then
    { row with status := .REPORTED, stripeUsageRecordId := usageRecordId
               stripeReportedAt := some now, lastReportError := none } else row)
    (fun k => by simp [setRecorded, update]) fun k stored _ hsettled => ?_
  split
  · exact .inl rfl
  · exact hsettled

/-- An update after an error takes back an entry that is not settled only. -/
theorem keepsSettled_setFailed {message : String} (hrow : store.ledger.find? entryId = some entry)
    (hopen : ¬ entry.Settled) : KeepsSettled store (setFailed store entryId message) := by
  refine .of_map (fun row => if row.id = entryId then
    { row with status := .FAILED, lastReportError := some message } else row)
    (fun k => by simp [setFailed, update]) fun k stored hstored hsettled => ?_
  split
  · next hsame =>
    obtain rfl : stored.id = k := (find?_eq_some.1 hstored).2
    rw [hsame, hrow] at hstored
    cases hstored
    exact absurd hsettled hopen
  · exact hsettled

/-- **A settled entry stays settled** in a step of the exact kind. -/
theorem ReportStep.apply_keepsSettled {step : ReportStep} (h : Billed state) :
    KeepsSettled state.store (step.apply state).store := by
  cases step with
  | start id limit tie =>
    rw [ReportStep.apply]
    split <;> exact .of_eq rfl
  | retry id tie =>
    rw [ReportStep.apply]
    split
    · split <;> exact .of_eq rfl
    · exact .of_eq rfl
  | send id call stored now =>
    rw [ReportStep.apply]
    split
    · split
      · rw [ReportState.send]
        split
        · exact .of_eq rfl
        · split
          · split
            · exact keepsSettled_setReported
            · exact .of_eq rfl
          · exact .of_eq rfl
      · exact .of_eq rfl
      · exact .of_eq rfl
    · exact .of_eq rfl
  | settle id stored error now =>
    rw [ReportStep.apply]
    split
    · next run hrun =>
      rw [ReportState.settle]
      split
      · split
        · exact keepsSettled_setRecorded
        · exact .of_eq rfl
      · next entry message hfailing =>
        split
        · have hin : state.Settles id entry.id :=
            ⟨entry, by simp [ReportState.phase, hrun, hfailing, ReportPhase.entry?], rfl⟩
          obtain ⟨row, hrow, _, hopen⟩ := h.open_of_settles hin
          exact keepsSettled_setFailed hrow hopen
        · exact .of_eq rfl
      · exact .of_eq rfl
      · exact .of_eq rfl
    · exact .of_eq rfl
  | crash id => exact .of_eq rfl
  | invoice workspaceId stripeInvoiceId =>
    refine .of_map (fun row => if row.workspaceId = workspaceId && row.status = .REPORTED &&
        row.stripeInvoiceId = none
      then { row with status := .INVOICED, stripeInvoiceId := stripeInvoiceId } else row)
      (fun k => by simp [ReportStep.apply, invoiceUsage]) fun k stored _ hsettled => ?_
    split
    · exact .inr rfl
    · exact hsettled
  | change profile => exact .of_eq rfl
  | create entry =>
    rw [ReportStep.apply]
    split
    · exact .of_eq rfl
    · next hnew =>
      intro k stored hstored hsettled
      refine ⟨stored, ?_, hsettled⟩
      show (state.store.ledger.set _).find? k = some stored
      rw [find?_set, if_neg]
      · exact hstored
      · intro hk
        have hk : k = entry.id := hk
        rw [hk] at hstored
        exact hnew (by rw [hstored]; rfl)

/-- A ledger with which no run is under way: nothing has been added for the entries that are not
settled, and their cents for those that are. -/
structure Fresh (state : ReportState) : Prop where
  idle : ∀ id, state.runs id = none
  added : ∀ entryId, state.added entryId =
    match state.store.ledger.find? entryId with
    | some stored => if stored.Settled then stored.cents else 0
    | none => 0

theorem Fresh.billed (h : Fresh state) : Billed state := by
  have hphase : ∀ id, state.phase id = none := fun id => by rw [ReportState.phase, h.idle]; rfl
  have hidle : ∀ id k, ¬ state.Settles id k := by
    rintro id k ⟨entry, hentry, _⟩
    rw [hphase] at hentry
    cases hentry
  constructor
  · intro k stored hstored
    have hadded := h.added k
    have hid : stored.id = k := (find?_eq_some.1 hstored).2
    rw [hstored, ← hid] at hadded
    by_cases hsettled : stored.Settled
    · exact .settled hsettled (hadded.trans (if_pos hsettled)) fun id => hidle id _
    · exact .pending hsettled (hadded.trans (if_neg hsettled)) fun id hin => hidle id _ hin.settles
  · intro k hnone
    have hadded := h.added k
    rwa [hnone] at hadded
  · exact fun id other k hin => absurd hin (hidle id k)
  · intro id run hrun
    rw [h.idle] at hrun
    cases hrun
  · intro id entry hentry
    rw [hphase] at hentry
    cases hentry

/-- **AI usage is billed once** in every run of exact steps: what Stripe has added for an entry is
never more than its cents, and it is its cents once the entry is settled, which it stays. -/
theorem ai_usage_billed_once (state : ReportState) (hfresh : Fresh state) (steps : List ReportStep)
    (hexact : ∀ done step, done ++ [step] <+: steps → Exact (runReports state done) step) :
    (∀ done, done <+: steps → ∀ entry ∈ (runReports state done).store.ledger.rows,
      (runReports state done).added entry.id ≤ entry.cents ∧
      (entry.Settled → (runReports state done).added entry.id = entry.cents)) ∧
    ∀ done step, done ++ [step] <+: steps →
      KeepsSettled (runReports state done).store (step.apply (runReports state done)).store := by
  have hbilled := forall_prefix_foldl hfresh.billed
    (fun _ _ hbefore hstep => ReportStep.apply_billed hbefore hstep) hexact
  constructor
  · intro done hpre entry hentry
    exact ((hbilled done hpre).standing _ entry (find?_key hentry)).added
  · intro done step hpre
    exact ReportStep.apply_keepsSettled (hbilled done ((prefix_append ..).trans hpre))

end

/-! ## A cent too much, a lost reply and two runs -/

/-- An entry of that many millionths. -/
def sampleEntry (micros : Fin (10 ^ 12)) : AiUsageLedgerEntry where
  id := lit "e"
  workspaceId := lit "w"
  billableMicros := micros
  status := .PENDING
  stripeUsageRecordId := none
  stripeInvoiceId := none
  stripeReportedAt := none
  lastReportError := none
  createdAt := 0

/-- A ledger with the entry, in an active workspace. -/
def sampleLedger (micros : Fin (10 ^ 12)) : ReportState where
  store := {
    workspaces := .empty
    budgets := .empty
    profiles := ⟨[{ WorkspaceBillingProfile.new (lit "w") with
      billingStatus := .ACTIVE, stripeSubscriptionItemId := some (lit "si") }], by decide +kernel⟩
    flags := .empty
    accounts := .empty
    ledger := ⟨[sampleEntry micros], by simp⟩
    events := .empty }
  runs := fun _ => none
  added := fun _ => 0

/-- The two queries of a run. -/
def readEntries (run : Nat) : List ReportStep :=
  [.start run none fun _ => 0, .retry run fun _ => 0]

/-- The next entry of a run is sent, and what becomes of it is stored. -/
def sendEntry (run : Nat) (call : UsageCall) : List ReportStep :=
  [.send run call true 5, .settle run true "" 5]

theorem fresh_sampleLedger {micros : Fin (10 ^ 12)} : Fresh (sampleLedger micros) where
  idle _ := rfl
  added entryId := by
    cases hfound : (sampleLedger micros).store.ledger.find? entryId with
    | none => rfl
    | some stored =>
      obtain rfl := mem_singleton.1 (find?_eq_some.1 hfound).1
      rfl

/-- **A run without a fault**: two cents are billed once. -/
theorem ai_usage_billed_once_sample :
    (∀ done, done <+: readEntries 0 ++ sendEntry 0 (.answered (some (lit "ur"))) →
      ∀ entry ∈ (runReports (sampleLedger 20000) done).store.ledger.rows,
        (runReports (sampleLedger 20000) done).added entry.id ≤ entry.cents ∧
        (entry.Settled → (runReports (sampleLedger 20000) done).added entry.id = entry.cents)) ∧
    ∀ done step, done ++ [step] <+: readEntries 0 ++ sendEntry 0 (.answered (some (lit "ur"))) →
      KeepsSettled (runReports (sampleLedger 20000) done).store
        (step.apply (runReports (sampleLedger 20000) done)).store := by
  refine ai_usage_billed_once (sampleLedger 20000) fresh_sampleLedger _
    (forall_steps_cons.2 ⟨trivial, forall_steps_cons.2 ⟨trivial,
      forall_steps_cons.2 ⟨?_, forall_steps_cons.2 ⟨fun _ _ => rfl, forall_steps_nil⟩⟩⟩⟩)
  · have hread : (runReports (sampleLedger 20000) (readEntries 0)).runs 0 =
        some ⟨100, [⟨sampleEntry 20000, some (lit "si")⟩], 1, 0, .sending⟩ := by decide +kernel
    have hrow : (runReports (sampleLedger 20000) (readEntries 0)).store.ledger.find? (lit "e") =
        some (sampleEntry 20000) := by decide +kernel
    have hidle : ∀ other,
        ((runReports (sampleLedger 20000) (readEntries 0)).phase other).bind
          ReportPhase.entry? = none := by
      intro other
      by_cases hother : other = 0
      · subst hother
        rw [ReportState.phase, hread]
        rfl
      · simp [runReports, readEntries, ReportStep.apply, ReportState.phase, sampleLedger, hother,
          startReport]
    intro run item rest hrun _ hentries _ _
    cases hread.symm.trans hrun
    cases hentries
    refine ⟨?_, by simp, ?_, ?_⟩
    · rw [AiUsageLedgerEntry.RoundsUp]
      decide +kernel
    · intro stored hstored
      cases hrow.symm.trans hstored
      simp [AiUsageLedgerEntry.Settled, sampleEntry]
    · rintro other ⟨entry, hentry, _⟩
      cases (hidle other).symm.trans hentry

/-- **Entries are billed too much**: seven cents as eight where no call fails, two cents twice after
a lost reply, and a reported entry fails again in a second run. -/
theorem not_ai_usage_billed_once :
    ((sampleEntry 70000).cents = 7 ∧
      (runReports (sampleLedger 70000)
        (readEntries 0 ++ sendEntry 0 (.answered (some (lit "ur"))))).added (lit "e") = 8) ∧
    ((sampleEntry 20000).cents = 2 ∧
      (runReports (sampleLedger 20000)
        (readEntries 0 ++ sendEntry 0 (.lost "socket hang up") ++ readEntries 1 ++
          sendEntry 1 (.answered (some (lit "ur"))))).added (lit "e") = 4) ∧
    (((runReports (sampleLedger 20000) (readEntries 0 ++ readEntries 1 ++
        sendEntry 0 (.answered (some (lit "ur"))))).store.ledger.find? (lit "e")).map
          AiUsageLedgerEntry.status = some .REPORTED ∧
      ((runReports (sampleLedger 20000) (readEntries 0 ++ readEntries 1 ++
        sendEntry 0 (.answered (some (lit "ur"))) ++
        sendEntry 1 (.refused "429"))).store.ledger.find? (lit "e")).map
          AiUsageLedgerEntry.status = some .FAILED) := by
  refine ⟨⟨?_, ?_⟩, ⟨?_, ?_⟩, ?_, ?_⟩ <;> decide +kernel

end Corgtex.Domain.Billing
