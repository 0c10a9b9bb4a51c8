import Corgtex.Domain.Billing
import Corgtex.Library.Double
import Corgtex.Library.JsArray
import Corgtex.Library.Runs

/-!
# Usage reports

`reportPendingAiUsageToStripe` (`billing.ts`) reads the entries of the ledger
that are not reported, sends the cost of each to a counter of Stripe's and then updates the row by
its id. Nothing joins the call to the update: neither a key that would make the call idempotent nor
a lock or a condition on the row. So the ledger is billed exactly once as long as each call that
Stripe accepts is answered and marked, and no entry is sent after it has been, or while another run
is at it (`Billed`); and as long as the cost, a double, times 100 does not exceed a whole number of
cents.
-/

namespace Corgtex.Domain.Billing

open JsArray JsString

/-! ## Cents -/

section
variable (entry : AiUsageLedgerEntry)

/-- The billable cost in cents, rounded up. -/
def AiUsageLedgerEntry.cents : Nat :=
  (entry.billableMicros + 9999) / 10 ^ 4

/-- `Number(entry.billableCostUsd) * 100` (line 621). -/
def AiUsageLedgerEntry.doubleCents : ℚ :=
  Double.round (Double.round (entry.billableMicros.val / 10 ^ 6) * 100)

/-- `quantityCents` (line 621). -/
def AiUsageLedgerEntry.quantityCents : ℤ :=
  ⌈entry.doubleCents⌉

/-- The cost is a whole number of cents, and the double is above it. -/
def AiUsageLedgerEntry.RoundsUp : Prop :=
  10 ^ 4 ∣ entry.billableMicros.val ∧ (entry.cents : ℚ) < entry.doubleCents

/-- The double is off by less than a millionth of a cent. -/
theorem abs_doubleCents_sub_le :
    |entry.doubleCents - (entry.billableMicros.val : ℚ) / 10 ^ 4| ≤ 1 / 10 ^ 6 := by
  have hbound : (entry.billableMicros.val : ℚ) ≤ 10 ^ 12 := by
    exact_mod_cast entry.billableMicros.isLt.le
  have hnonneg : (0 : ℚ) ≤ entry.billableMicros.val := Nat.cast_nonneg _
  have hcost := abs_le.1 (Double.abs_round_sub_le
    (div_nonneg hnonneg (by norm_num : (0 : ℚ) ≤ 10 ^ 6)))
  have hround := Double.round_nonneg (div_nonneg hnonneg (by norm_num : (0 : ℚ) ≤ 10 ^ 6))
  have hcents := abs_le.1 (Double.abs_round_sub_le
    (mul_nonneg hround (by norm_num : (0 : ℚ) ≤ 100)))
  rw [AiUsageLedgerEntry.doubleCents, abs_le]
  constructor <;> linarith [hcost.1, hcost.2, hcents.1, hcents.2]

/-- The quantity is never too small. -/
theorem cents_le_quantityCents : (entry.cents : ℤ) ≤ entry.quantityCents := by
  have hclose := (abs_le.1 (abs_doubleCents_sub_le entry)).1
  rw [AiUsageLedgerEntry.quantityCents, ← Int.sub_one_lt_iff, Int.lt_ceil]
  have hmicros : (entry.cents : ℚ) * 10 ^ 4 ≤ entry.billableMicros.val + 9999 := by
    exact_mod_cast Nat.div_mul_le_self _ _
  push_cast
  linarith

/-- **The quantity is the cost in cents, rounded up,** exactly if the double does not exceed a whole
number of cents. -/
theorem quantityCents_eq_iff : entry.quantityCents = entry.cents ↔ ¬ entry.RoundsUp := by
  have hle := cents_le_quantityCents entry
  have hceil : entry.quantityCents ≤ entry.cents ↔ entry.doubleCents ≤ entry.cents := by
    rw [AiUsageLedgerEntry.quantityCents, Int.ceil_le, Int.cast_natCast]
  constructor
  · intro heq hrounds
    exact absurd (hceil.1 heq.le) (not_le.2 hrounds.2)
  · intro hnot
    refine le_antisymm (hceil.2 ?_) hle
    by_cases hwhole : 10 ^ 4 ∣ entry.billableMicros.val
    · exact not_lt.1 fun hlt => hnot ⟨hwhole, hlt⟩
    · -- a fraction of a cent is left, far more than the double is off
      have hclose := (abs_le.1 (abs_doubleCents_sub_le entry)).2
      have hmicros : entry.billableMicros.val + 1 ≤ entry.cents * 10 ^ 4 := by
        rw [AiUsageLedgerEntry.cents]
        omega
      have hmicros : (entry.billableMicros.val : ℚ) + 1 ≤ entry.cents * 10 ^ 4 := by
        exact_mod_cast hmicros
      linarith

end

/-! ## Runs of the report -/

/-- An entry as a run has read it, with the subscription item of its workspace. -/
structure UsageItem where
  entry : AiUsageLedgerEntry
  subscriptionItemId : Option JsString
deriving DecidableEq

/-- `findMany` (line 602): the oldest entries of a status whose workspace is `ACTIVE` and has a
subscription item. `tie` orders entries of one time, which the query leaves open. -/
def findEntries (store : BillingStore) (status : AiUsageLedgerStatus) (tie : JsString → Nat)
    (take : Nat) : List UsageItem :=
  let found := store.ledger.rows.filter fun entry => entry.status = status &&
    (store.profiles.find? entry.workspaceId).any fun profile =>
      profile.billingStatus = .ACTIVE && profile.stripeSubscriptionItemId.isSome
  let sorted := sortBy (fun a b => orElse (a.createdAt - b.createdAt) (tie a.id - tie b.id)) found
  (sorted.take take).map fun entry => ⟨entry,
    (store.profiles.find? entry.workspaceId).bind WorkspaceBillingProfile.stripeSubscriptionItemId⟩

/-- How far a run is: it still has to read the failed entries, it sends the next entry, Stripe has
answered its call, or an error has been caught. -/
inductive ReportPhase
  | reading
  | sending
  | answered (entry : AiUsageLedgerEntry) (usageRecordId : Option JsString)
  | failing (entry : AiUsageLedgerEntry) (error : String)
deriving DecidableEq

/-- A run of `reportPendingAiUsageToStripe`, with the entries that it has not sent yet. -/
structure ReportRun where
  limit : Nat
  entries : List UsageItem
  scanned : Nat
  reported : Nat
  phase : ReportPhase
deriving DecidableEq

/-- What becomes of a call to Stripe: it is accepted and answered, it is accepted and the reply is
lost, or it is not accepted. -/
inductive UsageCall
  | answered (usageRecordId : Option JsString)
  | lost (error : String)
  | refused (error : String)
deriving DecidableEq

/-- Stripe has accepted the call. -/
def UsageCall.accepted : UsageCall → Bool
  | .refused _ => false
  | _ => true

def UsageCall.phase (entry : AiUsageLedgerEntry) : UsageCall → ReportPhase
  | .answered usageRecordId => .answered entry usageRecordId
  | .lost error | .refused error => .failing entry error

/-- The ledger, the runs that are under way, and what Stripe has added for each entry. -/
structure ReportState where
  store : BillingStore
  runs : Nat → Option ReportRun
  added : JsString → ℤ

/-- `reportPendingAiUsageToStripe` up to its second query (line 574). -/
def startReport (store : BillingStore) (limit : Option Int) (tie : JsString → Nat) : ReportRun :=
  let limit := (min (max (limit.getD 100) 1) 500).toNat
  ⟨limit, findEntries store .PENDING tie limit, 0, 0, .reading⟩

/-- The second query (line 608), which is not made where the limit is reached. -/
def ReportRun.retry (run : ReportRun) (store : BillingStore) (tie : JsString → Nat) : ReportRun :=
  let entries := run.entries ++ findEntries store .FAILED tie (run.limit - run.entries.length)
  { run with entries := entries, scanned := entries.length, phase := .sending }

section
variable (store : BillingStore) (id : JsString)

/-- An entry without a cost is `REPORTED` without a call (line 623). -/
def setReported (now : Int) : BillingStore :=
  { store with
    ledger := store.ledger.update id
      (fun entry => { entry with status := .REPORTED, stripeReportedAt := some now }) fun _ => rfl }

/-- The update after a reply (line 636). -/
def setRecorded (usageRecordId : Option JsString) (now : Int) : BillingStore :=
  { store with
    ledger := store.ledger.update id
      (fun entry => { entry with
        status := .REPORTED, stripeUsageRecordId := usageRecordId, stripeReportedAt := some now
        lastReportError := none }) fun _ => rfl }

/-- The update after an error (line 647). -/
def setFailed (error : String) : BillingStore :=
  { store with
    ledger := store.ledger.update id
      (fun entry => { entry with status := .FAILED, lastReportError := some error }) fun _ => rfl }

end

def ReportState.setRun (state : ReportState) (id : Nat) (run : Option ReportRun) : ReportState :=
  { state with runs := Function.update state.runs id run }

/-- A step of a run, the invoice of a workspace, a change of a profile, or a new entry. What
`stored` denies is an update that throws. -/
inductive ReportStep
  | start (id : Nat) (limit : Option Int) (tie : JsString → Nat)
  | retry (id : Nat) (tie : JsString → Nat)
  | send (id : Nat) (call : UsageCall) (stored : Bool) (now : Int)
  | settle (id : Nat) (stored : Bool) (error : String) (now : Int)
  | crash (id : Nat)
  | invoice (workspaceId : JsString) (stripeInvoiceId : Option JsString)
  | change (profile : WorkspaceBillingProfile)
  | create (entry : AiUsageLedgerEntry)

section
variable (state : ReportState) (id : Nat) (run : ReportRun)

/-- The next entry of a run (line 618): one whose workspace has no subscription item is skipped, one
without a cost is stored, and the others are sent. -/
def ReportState.send (item : UsageItem)
    (rest : List UsageItem) (call : UsageCall) (stored : Bool) (now : Int) : ReportState :=
  if item.subscriptionItemId.getD [] = [] then
    state.setRun id (some { run with entries := rest })
  else if item.entry.quantityCents ≤ 0 then
    if stored then
      { state with store := setReported state.store item.entry.id now }.setRun id
        (some { run with entries := rest, reported := run.reported + 1 })
    else state.setRun id none
  else
    { state with
      added := if call.accepted then
        Function.update state.added item.entry.id
          (state.added item.entry.id + item.entry.quantityCents)
      else state.added }.setRun id
      (some { run with entries := rest, phase := call.phase item.entry })

/-- The update that follows a call (line 636). -/
def ReportState.settle (stored : Bool) (error : String) (now : Int) : ReportState :=
  match run.phase with
  | .answered entry usageRecordId =>
    if stored then
      { state with store := setRecorded state.store entry.id usageRecordId now }.setRun id
        (some { run with phase := .sending, reported := run.reported + 1 })
    else state.setRun id (some { run with phase := .failing entry error })
  | .failing entry error =>
    if stored then
      { state with store := setFailed state.store entry.id error }.setRun id
        (some { run with phase := .sending })
    else state.setRun id none
  | .reading | .sending => state

end

def ReportStep.apply (state : ReportState) : ReportStep → ReportState
  | .start id limit tie =>
    match state.runs id with
    | some _ => state
    | none => state.setRun id (some (startReport state.store limit tie))
  | .retry id tie =>
    match state.runs id with
    | some run =>
      if run.phase = .reading then state.setRun id (some (run.retry state.store tie)) else state
    | none => state
  | .send id call stored now =>
    match state.runs id with
    | some run =>
      match run.phase, run.entries with
      | .sending, item :: rest => state.send id run item rest call stored now
      | .sending, [] => state.setRun id none
      | _, _ => state
    | none => state
  | .settle id stored error now =>
    match state.runs id with
    | some run => state.settle id run stored error now
    | none => state
  | .crash id => state.setRun id none
  | .invoice workspaceId stripeInvoiceId =>
    { state with store := invoiceUsage state.store workspaceId stripeInvoiceId }
  | .change profile =>
    { state with store := { state.store with profiles := state.store.profiles.set profile } }
  | .create entry =>
    if (state.store.ledger.find? entry.id).isSome then state
    else { state with
      store := { state.store with
        ledger := state.store.ledger.set { entry with status := .PENDING } } }

/-! ## What goes wrong -/

/-- The cost of the entry has been taken up. -/
def AiUsageLedgerEntry.Settled (entry : AiUsageLedgerEntry) : Prop :=
  entry.status = .REPORTED ∨ entry.status = .INVOICED

instance (entry : AiUsageLedgerEntry) : Decidable entry.Settled :=
  inferInstanceAs (Decidable (_ ∨ _))

def ReportState.phase (state : ReportState) (id : Nat) : Option ReportPhase :=
  (state.runs id).map ReportRun.phase

/-- The entry that a run has sent and not yet stored. -/
def ReportPhase.entry? : ReportPhase → Option AiUsageLedgerEntry
  | .answered entry _ | .failing entry _ => some entry
  | .reading | .sending => none

section
variable (state : ReportState)

/-- The run has sent the entry and not yet stored what became of it. -/
def ReportState.Settles (id : Nat) (entryId : JsString) : Prop :=
  ∃ entry ∈ (state.phase id).bind ReportPhase.entry?, entry.id = entryId

/-- The run has the answer to its call for the entry. -/
def ReportState.Answered (id : Nat) (entryId : JsString) : Prop :=
  ∃ entry usageRecordId, state.phase id = some (.answered entry usageRecordId) ∧ entry.id = entryId

/-- An entry with a cost is sent while its row is not settled and no run is at it, its double does
not exceed the cents and the reply is not lost. Once the answer is there, the update is stored, and
the run does not end before it. -/
def Exact : ReportStep → Prop
  | .send id call _ _ => ∀ run item rest, state.runs id = some run → run.phase = .sending →
      run.entries = item :: rest → item.subscriptionItemId.getD [] ≠ [] → 0 < item.entry.cents →
        ¬ item.entry.RoundsUp ∧ (∀ error, call ≠ .lost error) ∧
        (∀ stored, state.store.ledger.find? item.entry.id = some stored → ¬ stored.Settled) ∧
        ∀ other, ¬ state.Settles other item.entry.id
  | .settle id stored _ _ => ∀ entryId, state.Answered id entryId → stored = true
  | .crash id => ∀ entryId, ¬ state.Answered id entryId
  | _ => True

def runReports (steps : List ReportStep) : ReportState :=
  steps.foldl ReportStep.apply state

end

end Corgtex.Domain.Billing
