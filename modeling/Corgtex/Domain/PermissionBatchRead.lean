import Corgtex.Domain.PermissionEpochs
import Corgtex.Library.JsNumber

/-!
# Batched permission checks

`withArtifactPermissionBatchRead` (`source-permission-epochs.ts`) reads the
epochs of the given proofs once, answers the checks that its callback makes from them, and compares
the proofs again before it succeeds. The callback is a `PermissionRead`: what it does next depends
on the answers it gets, and between two checks permissions may change, by others or by itself. The
calls are made outside a source commit plan, a collection snapshot and the other read passes, where
the source answers checks elsewhere.

Epochs only increase. So an identity that has the same epoch at both ends of the pass had it all the
time (`PermissionRead.run_mono`), and whatever was answered about it in between still holds.
-/

namespace Corgtex.Domain

open JsArray JsString KeyedUnion List

/-! ## Epochs -/

/-- `SourcePermissionEpoch`, the epochs of the identities of each workspace. -/
abbrev EpochTable := JsString → PermissionEpochIdentity → Option Nat

section
variable (table : EpochTable) (workspaceId : JsString)

/-- The epoch of an identity increases; a missing row is created
(`pun68_bump_permission_epoch`). -/
def EpochTable.increase (identity : PermissionEpochIdentity) (amount : Nat) : EpochTable :=
  fun workspaceId' identity' =>
    if workspaceId' = workspaceId ∧ identity' = identity then
      some ((table workspaceId identity).elim amount (· + amount))
    else table workspaceId' identity'

/-- The rows of the identities of a proof. -/
def selectEpochs (proof : PermissionEpochProof) : List PermissionEpochEntry :=
  proof.entries.filterMap fun entry =>
    (table workspaceId entry.toPermissionEpochIdentity).map fun epoch =>
      ⟨entry.toPermissionEpochIdentity, JsNumber.decimal epoch⟩

/-- The query of a check and the comparison with what it finds (line 362). -/
def compareEpochs (proof : PermissionEpochProof) : Bool :=
  let rows := selectEpochs table workspaceId proof
  rows.length = proof.entries.length && proof.entries.all fun entry =>
    (rows.find? fun row => row.key = entry.key).any fun row => row.epoch = entry.epoch

end

/-! ## Checks -/

/-- `EpochClient`: the database or a transaction. -/
inductive EpochClient
  | prisma
  | transaction (id : Nat)
deriving DecidableEq

/-- `BatchPermissionRead` (line 310). -/
structure BatchPermissionRead where
  db : EpochClient
  workspaceId : JsString
  active : Bool
  epochs : List PermissionEpochEntry

/-- `batch.epochs.has(key)`. -/
def BatchPermissionRead.has (batch : BatchPermissionRead) (key : JsString) : Bool :=
  batch.epochs.any fun entry => entry.key = key

/-- `batch.epochs.get(key) === epoch`. -/
def BatchPermissionRead.agrees (batch : BatchPermissionRead) (key epoch : JsString) : Bool :=
  (batch.epochs.find? fun entry => entry.key = key).any fun entry => entry.epoch = epoch

/-- `isArtifactPermissionEpochProofCurrent` (line 335), in a batch or outside. -/
def isArtifactPermissionEpochProofCurrent (table : EpochTable) (batch : Option BatchPermissionRead)
    (workspaceId : JsString) (value : Json Nat) (db : EpochClient) : Except AppError Bool :=
  match parsePermissionEpochProof value with
  | none => .ok false
  | some proof =>
    match batch with
    | none => .ok (compareEpochs table workspaceId proof)
    | some batch => do
      invariant (batch.active && batch.db = db && batch.workspaceId = workspaceId) 409
        "SOURCE_CHANGED" "Permission batch belongs to another or expired read."
      if proof.entries.all fun entry => batch.has entry.key then
        .ok (proof.entries.all fun entry => batch.agrees entry.key entry.epoch)
      else .ok (compareEpochs table workspaceId proof)

/-! ## The callback -/

/-- A callback that is running, with what happens meanwhile. -/
inductive PermissionRead
  /-- It returns. -/
  | returns (result : Bool)
  /-- It throws. -/
  | throws (error : AppError)
  /-- It checks a proof, and goes on with the answer. -/
  | checks (workspaceId : JsString) (value : Json Nat) (db : EpochClient)
      (next : Except AppError Bool → PermissionRead)
  /-- A permission changes before it goes on. -/
  | meanwhile (workspaceId : JsString) (identity : PermissionEpochIdentity) (amount : Nat)
      (next : PermissionRead)

/-- An answer that a check has given. -/
structure PermissionAnswer where
  workspaceId : JsString
  value : Json Nat
  db : EpochClient
  current : Bool

/-- What a callback leaves: its result, the epochs, and the answers it got. -/
structure PermissionReadOutcome where
  result : Except AppError Bool
  table : EpochTable
  answers : List PermissionAnswer

/-- The answers with one more before them. -/
def PermissionReadOutcome.after (outcome : PermissionReadOutcome) (workspaceId : JsString)
    (value : Json Nat) (db : EpochClient) : Except AppError Bool → PermissionReadOutcome
  | .ok current => { outcome with answers := ⟨workspaceId, value, db, current⟩ :: outcome.answers }
  | .error _ => outcome

/-- The run of a callback. -/
def PermissionRead.run (batch : Option BatchPermissionRead) :
    PermissionRead → EpochTable → PermissionReadOutcome
  | returns result, table => ⟨.ok result, table, []⟩
  | throws error, table => ⟨.error error, table, []⟩
  | checks workspaceId value db next, table =>
    let answer := isArtifactPermissionEpochProofCurrent table batch workspaceId value db
    ((next answer).run batch table).after workspaceId value db answer
  | meanwhile workspaceId identity amount next, table =>
    next.run batch (table.increase workspaceId identity amount)

/-! ## A pass -/

/-- The proof that a pass retains; without one the callback is run alone (line 318). -/
def retainedProof (proofs : List PermissionEpochProof) :
    Except AppError (Option PermissionEpochProof) :=
  if MAX_EPOCH_IDENTITIES <
      (distinct ((proofs.flatMap PermissionEpochProof.entries).map PermissionEpochEntry.key)).length
  then .ok none
  else do
    let proof ← mergePermissionEpochProofs (proofs.map some)
    .ok (proof.filter fun proof => proof.entries.length ≤ MAX_EPOCH_IDENTITIES)

/-- `withArtifactPermissionBatchRead` (line 316). -/
def withArtifactPermissionBatchRead (table : EpochTable) (db : EpochClient) (workspaceId : JsString)
    (proofs : List PermissionEpochProof) (read : PermissionRead) : PermissionReadOutcome :=
  match retainedProof proofs with
  | .error error => ⟨.error error, table, []⟩
  | .ok none => read.run none table
  | .ok (some proof) =>
    match isArtifactPermissionEpochProofCurrent table none workspaceId proof.toJson db with
    | .error error => ⟨.error error, table, []⟩
    | .ok false => ⟨.ok false, table, []⟩
    | .ok true =>
      let outcome := read.run (some ⟨db, workspaceId, true, proof.entries⟩) table
      { outcome with
        result := do
          let result ← outcome.result
          if result then
            isArtifactPermissionEpochProofCurrent outcome.table none workspaceId proof.toJson db
          else .ok false }

/-! ## Current entries -/

def EntryCurrent (table : EpochTable) (workspaceId : JsString) (entry : PermissionEpochEntry) :
    Prop :=
  (table workspaceId entry.toPermissionEpochIdentity).map JsNumber.decimal = some entry.epoch

section
variable {table table' table'' : EpochTable} {workspaceId : JsString}

theorem EntryCurrent.epoch_eq {a b : PermissionEpochEntry} (ha : EntryCurrent table workspaceId a)
    (hb : EntryCurrent table workspaceId b) (hkey : a.key = b.key) : a = b := by
  have hidentity := epochKey_inj.1 hkey
  have hepoch : some a.epoch = some b.epoch := ha.symm.trans (hidentity ▸ hb)
  cases a
  cases b
  cases hidentity
  cases hepoch
  rfl

variable {proof : PermissionEpochProof}

/-- The query finds every entry of a proof exactly when all of them are current. -/
theorem compareEpochs_iff :
    compareEpochs table workspaceId proof = true ↔
      ∀ entry ∈ proof.entries, EntryCurrent table workspaceId entry := by
  simp only [compareEpochs, Bool.and_eq_true, decide_eq_true_eq, all_eq_true, Option.any_eq_true]
  constructor
  · rintro ⟨-, hall⟩ entry hentry
    obtain ⟨row, hfound, hepoch⟩ := hall entry hentry
    have hkey : row.key = entry.key := of_decide_eq_true (find?_some hfound :)
    obtain ⟨other, -, hrow⟩ := mem_filterMap.1 (mem_of_find?_eq_some hfound)
    obtain ⟨epoch, hselected, rfl⟩ := Option.map_eq_some_iff.1 hrow
    rw [epochKey_inj.1 hkey] at hselected
    rw [EntryCurrent, hselected, ← hepoch]
    rfl
  · intro h
    have hrows : selectEpochs table workspaceId proof = proof.entries := by
      have hself : ∀ entry ∈ proof.entries,
          ((table workspaceId entry.toPermissionEpochIdentity).map fun epoch =>
            (⟨entry.toPermissionEpochIdentity, JsNumber.decimal epoch⟩ : PermissionEpochEntry)) =
            some entry := by
        intro entry hentry
        obtain ⟨epoch, hselected, hepoch⟩ := Option.map_eq_some_iff.1 (h entry hentry)
        rw [hselected, Option.map_some, hepoch]
      rw [selectEpochs, filterMap_congr hself]
      exact filterMap_some
    rw [hrows]
    refine ⟨rfl, fun entry hentry => ?_⟩
    cases hfound : proof.entries.find? fun row => row.key = entry.key with
    | none => exact absurd (find?_eq_none.1 hfound entry hentry) (by simp)
    | some row =>
      have hkey : row.key = entry.key := of_decide_eq_true (find?_some hfound :)
      have hrow := h row (mem_of_find?_eq_some hfound)
      exact ⟨row, rfl, by rw [hrow.epoch_eq (h entry hentry) hkey]⟩

/-- No epoch decreases and no row is deleted. -/
def Increases (table table' : EpochTable) : Prop :=
  ∀ workspaceId identity epoch, table workspaceId identity = some epoch →
    ∃ epoch', table' workspaceId identity = some epoch' ∧ epoch ≤ epoch'

theorem Increases.refl (table : EpochTable) : Increases table table :=
  fun _ _ epoch h => ⟨epoch, h, Nat.le_refl _⟩

theorem Increases.trans (h : Increases table table') (h' : Increases table' table'') :
    Increases table table'' := by
  intro workspaceId identity epoch hepoch
  obtain ⟨epoch', hepoch', hle⟩ := h workspaceId identity epoch hepoch
  obtain ⟨epoch'', hepoch'', hle'⟩ := h' workspaceId identity epoch' hepoch'
  exact ⟨epoch'', hepoch'', Nat.le_trans hle hle'⟩

theorem Increases.increase (table : EpochTable) (workspaceId : JsString)
    (identity : PermissionEpochIdentity) (amount : Nat) :
    Increases table (table.increase workspaceId identity amount) := by
  intro workspaceId' identity' epoch hepoch
  unfold EpochTable.increase
  split
  · next h =>
    obtain ⟨rfl, rfl⟩ := h
    exact ⟨epoch + amount, by rw [hepoch]; rfl, Nat.le_add_right ..⟩
  · exact ⟨epoch, hepoch, Nat.le_refl _⟩

variable {entry : PermissionEpochEntry}

/-- **What is current before and after was current in between.** -/
theorem EntryCurrent.between (hbefore : EntryCurrent table workspaceId entry)
    (h : Increases table table') (h' : Increases table' table'')
    (hafter : EntryCurrent table'' workspaceId entry) :
    EntryCurrent table' workspaceId entry := by
  obtain ⟨epoch, hepoch, hdecimal⟩ := Option.map_eq_some_iff.1 hbefore
  obtain ⟨epoch', hepoch', hle⟩ := h workspaceId _ epoch hepoch
  obtain ⟨epoch'', hepoch'', hle'⟩ := h' workspaceId _ epoch' hepoch'
  rw [EntryCurrent, hepoch'', Option.map_some, Option.some_inj, ← hdecimal,
    JsNumber.decimal_inj] at hafter
  have hsame : epoch' = epoch := by omega
  rw [EntryCurrent, hepoch', hsame, Option.map_some, hdecimal]

end

/-! ## Answers -/

section
variable {table : EpochTable} {batch : BatchPermissionRead} {workspaceId : JsString}
  {value : Json Nat} {db : EpochClient} {current : Bool}

theorem BatchPermissionRead.has_iff {key : JsString} :
    batch.has key = true ↔ ∃ entry ∈ batch.epochs, entry.key = key := by
  simp [has]

theorem BatchPermissionRead.mem_of_agrees (h : batch.agrees entry.key entry.epoch = true) :
    entry ∈ batch.epochs := by
  obtain ⟨retained, hfound, hepoch⟩ := (Option.any_eq_true _ _).1 h
  have hkey : retained.key = entry.key := of_decide_eq_true (find?_some hfound :)
  have hepoch : retained.epoch = entry.epoch := of_decide_eq_true hepoch
  have hmem := mem_of_find?_eq_some hfound
  have hsame : retained = entry := by
    have hidentity := epochKey_inj.1 hkey
    cases retained
    cases entry
    cases hidentity
    cases hepoch
    rfl
  exact hsame ▸ hmem

theorem BatchPermissionRead.agrees_of_current
    (hbatch : ∀ entry ∈ batch.epochs, EntryCurrent table workspaceId entry)
    (hhas : batch.has entry.key = true) (h : EntryCurrent table workspaceId entry) :
    batch.agrees entry.key entry.epoch = true := by
  obtain ⟨retained, hretained, hkey⟩ := has_iff.1 hhas
  cases hfound : batch.epochs.find? fun row => row.key = entry.key with
  | none => exact absurd (find?_eq_none.1 hfound retained hretained) (by simp [hkey])
  | some row =>
    have hrow : row.key = entry.key := of_decide_eq_true (find?_some hfound :)
    have hsame := (hbatch row (mem_of_find?_eq_some hfound)).epoch_eq h hrow
    rw [agrees, hfound, hsame]
    exact decide_eq_true rfl

/-- A check in a batch whose entries are current answers as a check outside does. -/
theorem check_batch_eq (hbatch : ∀ entry ∈ batch.epochs, EntryCurrent table batch.workspaceId entry)
    (h : isArtifactPermissionEpochProofCurrent table (some batch) workspaceId value db =
      .ok current) :
    isArtifactPermissionEpochProofCurrent table none workspaceId value db = .ok current := by
  unfold isArtifactPermissionEpochProofCurrent at h ⊢
  split at h
  · next hparse => simpa [hparse] using h
  · next proof hparse =>
    obtain ⟨hscope, h⟩ := invariant_bind_ok.1 h
    simp only [Bool.and_eq_true, decide_eq_true_eq] at hscope
    obtain ⟨-, rfl⟩ := hscope
    split at h
    · next hall =>
      rw [← h, Except.ok.injEq, Bool.eq_iff_iff, compareEpochs_iff, all_eq_true]
      refine forall₂_congr fun entry hentry => ?_
      have hhas := all_eq_true.1 hall entry hentry
      constructor
      · exact fun hcurrent => BatchPermissionRead.agrees_of_current hbatch hhas hcurrent
      · exact fun hagrees => hbatch entry (BatchPermissionRead.mem_of_agrees hagrees)
    · exact h

/-- What a check in a batch answered 'current' for: an entry whose identity the batch retains is the
retained one, unless the epochs were read afresh, and then it is current. -/
theorem entry_of_check
    (h : isArtifactPermissionEpochProofCurrent table (some batch) workspaceId value db = .ok true)
    (hparse : parsePermissionEpochProof value = some proof) (hentry : entry ∈ proof.entries) :
    workspaceId = batch.workspaceId ∧
      (entry ∈ batch.epochs ∨ EntryCurrent table workspaceId entry) := by
  simp only [isArtifactPermissionEpochProofCurrent, hparse] at h
  obtain ⟨hscope, h⟩ := invariant_bind_ok.1 h
  simp only [Bool.and_eq_true, decide_eq_true_eq] at hscope
  refine ⟨hscope.2.symm, ?_⟩
  split at h
  · have hagrees := all_eq_true.1 (Except.ok.inj h) entry hentry
    exact .inl (BatchPermissionRead.mem_of_agrees hagrees)
  · exact .inr (compareEpochs_iff.1 (Except.ok.inj h) entry hentry)

end

/-! ## Runs -/

namespace PermissionRead

variable {batch : Option BatchPermissionRead} {read : PermissionRead} {table : EpochTable}
  {next : Except AppError Bool → PermissionRead}

theorem run_checks {workspaceId : JsString} {value : Json Nat} {db : EpochClient} :
    ((checks workspaceId value db next).run batch table).table =
      ((next (isArtifactPermissionEpochProofCurrent table batch workspaceId value db)).run batch
        table).table := by
  rw [run]
  cases isArtifactPermissionEpochProofCurrent table batch workspaceId value db <;> rfl

theorem run_mono (read : PermissionRead) (table : EpochTable) :
    Increases table (read.run batch table).table := by
  induction read generalizing table with
  | returns result => exact .refl table
  | throws error => exact .refl table
  | checks workspaceId value db next ih => rw [run_checks]; exact ih _ table
  | meanwhile workspaceId identity amount next ih =>
    exact (Increases.increase table workspaceId identity amount).trans (ih _)

variable {answer : PermissionAnswer}

/-- The answers of a run: that of its first check, and those of what follows. -/
theorem mem_answers_checks {workspaceId : JsString} {value : Json Nat} {db : EpochClient}
    (h : answer ∈ ((checks workspaceId value db next).run batch table).answers) :
    (answer.workspaceId = workspaceId ∧ answer.value = value ∧ answer.db = db ∧
      isArtifactPermissionEpochProofCurrent table batch workspaceId value db = .ok answer.current) ∨
    answer ∈ ((next (isArtifactPermissionEpochProofCurrent table batch workspaceId value db)).run
      batch table).answers := by
  rw [run] at h
  cases hcheck : isArtifactPermissionEpochProofCurrent table batch workspaceId value db with
  | error error => exact .inr (by simpa [hcheck, PermissionReadOutcome.after] using h)
  | ok current =>
    simp only [hcheck, PermissionReadOutcome.after, mem_cons] at h
    rcases h with rfl | h
    · exact .inl ⟨rfl, rfl, rfl, rfl⟩
    · exact .inr h

/-- **Retained entries that are current at both ends vouch for every answer in between.** -/
theorem answers_current {batch : BatchPermissionRead}
    (hbefore : ∀ entry ∈ batch.epochs, EntryCurrent table batch.workspaceId entry)
    (hafter : ∀ entry ∈ batch.epochs,
      EntryCurrent (read.run (some batch) table).table batch.workspaceId entry)
    (hanswer : answer ∈ (read.run (some batch) table).answers) (hcurrent : answer.current = true)
    (hparse : parsePermissionEpochProof answer.value = some proof)
    (hentry : entry ∈ proof.entries) (hretained : batch.has entry.key = true) :
    EntryCurrent (read.run (some batch) table).table answer.workspaceId entry := by
  induction read generalizing table with
  | returns result => cases hanswer
  | throws error => cases hanswer
  | checks workspaceId value db next ih =>
    rw [run_checks] at hafter ⊢
    rcases mem_answers_checks hanswer with ⟨rfl, rfl, rfl, hcheck⟩ | hanswer
    · rw [hcurrent] at hcheck
      obtain ⟨hworkspace, hentry⟩ := entry_of_check hcheck hparse hentry
      generalize ((next _).run (some batch) table).table = tableAfter at hafter ⊢
      rw [hworkspace] at hentry ⊢
      rcases hentry with hmem | hfresh
      · exact hafter entry hmem
      · obtain ⟨retained, hmem, hkey⟩ := BatchPermissionRead.has_iff.1 hretained
        exact (hbefore retained hmem).epoch_eq hfresh hkey ▸ hafter retained hmem
    · exact ih _ hbefore hafter hanswer
  | meanwhile workspaceId identity amount next ih =>
    refine ih (fun entry hmem => ?_) hafter hanswer
    exact (hbefore entry hmem).between (.increase table workspaceId identity amount)
      (next.run_mono _) (hafter entry hmem)

/-- No epoch changes during the run. -/
def Steady (batch : Option BatchPermissionRead) : PermissionRead → EpochTable → Prop
  | returns _, _ => True
  | throws _, _ => True
  | checks workspaceId value db next, table =>
    (next (isArtifactPermissionEpochProofCurrent table batch workspaceId value db)).Steady batch
      table
  | meanwhile workspaceId identity amount next, table =>
    table.increase workspaceId identity amount = table ∧ next.Steady batch table

theorem answers_eq {batch : BatchPermissionRead} (hsteady : read.Steady (some batch) table)
    (hbatch : ∀ entry ∈ batch.epochs, EntryCurrent table batch.workspaceId entry)
    (hanswer : answer ∈ (read.run (some batch) table).answers) :
    isArtifactPermissionEpochProofCurrent table none answer.workspaceId answer.value answer.db =
      .ok answer.current := by
  induction read with
  | returns result => cases hanswer
  | throws error => cases hanswer
  | checks workspaceId value db next ih =>
    rcases mem_answers_checks hanswer with ⟨rfl, rfl, rfl, hcheck⟩ | hanswer
    · exact check_batch_eq hbatch hcheck
    · exact ih _ hsteady hanswer
  | meanwhile workspaceId identity amount next ih =>
    rw [run, hsteady.1] at hanswer
    exact ih hsteady.2 hanswer

end PermissionRead

/-! ## The pass -/

section
variable {table : EpochTable} {db : EpochClient} {workspaceId : JsString}
  {proofs : List PermissionEpochProof} {proof : PermissionEpochProof} {read : PermissionRead}

theorem accepted_of_retainedProof (h : retainedProof proofs = .ok (some proof)) :
    proof.Accepted := by
  unfold retainedProof at h
  split at h
  · cases h
  · obtain ⟨merged, hmerged, h⟩ := bind_ok.1 h
    obtain ⟨rfl, -⟩ := Option.filter_eq_some_iff.1 (Except.ok.inj h)
    exact (accepted_of_mergePermissionEpochProofs hmerged).1

theorem check_accepted_iff (h : proof.Accepted) :
    isArtifactPermissionEpochProofCurrent table none workspaceId proof.toJson db = .ok true ↔
      ∀ entry ∈ proof.entries, EntryCurrent table workspaceId entry := by
  have hparse : parsePermissionEpochProof proof.toJson = some proof := h
  simp [isArtifactPermissionEpochProofCurrent, hparse, compareEpochs_iff]

variable (hpass : retainedProof proofs = .ok (some proof))
include hpass

theorem pass_of_answers (hanswer : answer ∈
      (withArtifactPermissionBatchRead table db workspaceId proofs read).answers) :
    (∀ entry ∈ proof.entries, EntryCurrent table workspaceId entry) ∧
      answer ∈ (read.run (some ⟨db, workspaceId, true, proof.entries⟩) table).answers := by
  simp only [withArtifactPermissionBatchRead, hpass] at hanswer
  split at hanswer
  · cases hanswer
  · cases hanswer
  · next hcheck => exact ⟨(check_accepted_iff (accepted_of_retainedProof hpass)).1 hcheck, hanswer⟩

theorem pass_of_success
    (h : (withArtifactPermissionBatchRead table db workspaceId proofs read).result = .ok true) :
    (withArtifactPermissionBatchRead table db workspaceId proofs read).table =
        (read.run (some ⟨db, workspaceId, true, proof.entries⟩) table).table ∧
      ∀ entry ∈ proof.entries, EntryCurrent
        (read.run (some ⟨db, workspaceId, true, proof.entries⟩) table).table workspaceId entry := by
  have haccepted := accepted_of_retainedProof hpass
  simp only [withArtifactPermissionBatchRead, hpass] at h ⊢
  split at h
  · cases h
  · cases h
  · next hcheck =>
    obtain ⟨result, hresult, h⟩ := bind_ok.1 h
    split at h
    · exact ⟨rfl, (check_accepted_iff haccepted).1 h⟩
    · cases h

end

/-- **A pass that succeeds vouches for what it retains.** When it succeeds, every proof it answered
'current' for whose identities are all retained is current at the final check, and of any other
proof the entries whose identities are retained; and while no epoch changes, every answer is the
answer of a check outside the pass. -/
theorem withArtifactPermissionBatchRead_sound {table : EpochTable} {db : EpochClient}
    {workspaceId : JsString} {proofs : List PermissionEpochProof} {retained : PermissionEpochProof}
    {read : PermissionRead} (hpass : retainedProof proofs = .ok (some retained)) :
    ((withArtifactPermissionBatchRead table db workspaceId proofs read).result = .ok true →
      ∀ answer ∈ (withArtifactPermissionBatchRead table db workspaceId proofs read).answers,
        answer.current = true → ∀ proof, parsePermissionEpochProof answer.value = some proof →
          ((∀ entry ∈ proof.entries, entry.toPermissionEpochIdentity ∈ retained.identities) →
            isArtifactPermissionEpochProofCurrent
              (withArtifactPermissionBatchRead table db workspaceId proofs read).table none
              answer.workspaceId answer.value answer.db = .ok true) ∧
          ∀ entry ∈ proof.entries, entry.toPermissionEpochIdentity ∈ retained.identities →
            EntryCurrent (withArtifactPermissionBatchRead table db workspaceId proofs read).table
              answer.workspaceId entry) ∧
    (read.Steady (some ⟨db, workspaceId, true, retained.entries⟩) table →
      ∀ answer ∈ (withArtifactPermissionBatchRead table db workspaceId proofs read).answers,
        isArtifactPermissionEpochProofCurrent table none answer.workspaceId answer.value
          answer.db = .ok answer.current) := by
  refine ⟨fun hsuccess answer hanswer hcurrent proof hparse => ?_, fun hsteady answer hanswer => ?_⟩
  · obtain ⟨hbefore, hanswer⟩ := pass_of_answers hpass hanswer
    obtain ⟨htable, hafter⟩ := pass_of_success hpass hsuccess
    have hentries : ∀ entry ∈ proof.entries,
        entry.toPermissionEpochIdentity ∈ retained.identities →
          EntryCurrent (withArtifactPermissionBatchRead table db workspaceId proofs read).table
            answer.workspaceId entry := by
      intro entry hentry hidentity
      rw [htable]
      refine PermissionRead.answers_current hbefore hafter hanswer hcurrent hparse hentry ?_
      obtain ⟨other, hother, hsame⟩ := mem_map.1 (mem_toFinset.1 hidentity)
      exact BatchPermissionRead.has_iff.2 ⟨other, hother, congrArg epochKey hsame⟩
    refine ⟨fun hall => ?_, hentries⟩
    simp only [isArtifactPermissionEpochProofCurrent, hparse, Except.ok.injEq, compareEpochs_iff]
    exact fun entry hentry => hentries entry hentry (hall entry hentry)
  · obtain ⟨hbefore, hanswer⟩ := pass_of_answers hpass hanswer
    exact PermissionRead.answers_eq hsteady hbefore hanswer

namespace BatchReadExample

/-- The identities of a role and of a circle have epoch 0. -/
def table : EpochTable := fun _ _ => some 0

/-- A proof of one identity. -/
def proof (kind id : String) : PermissionEpochProof :=
  ⟨1, SOURCE_PERMISSION_POLICY_VERSION, [⟨⟨lit kind, lit id⟩, lit "0"⟩]⟩

/-- A check of the retained role, then of a circle that changes before the callback returns. -/
def read : PermissionRead :=
  .checks (lit "w1") (proof "Role" "r1").toJson .prisma fun _ =>
    .checks (lit "w1") (proof "Circle" "c1").toJson .prisma fun _ =>
      .meanwhile (lit "w1") ⟨lit "Circle", lit "c1"⟩ 1 (.returns true)

/-- The pass over the role's proof. -/
def outcome : PermissionReadOutcome :=
  withArtifactPermissionBatchRead table .prisma (lit "w1") [proof "Role" "r1"] read

theorem retained : retainedProof [proof "Role" "r1"] = .ok (some (proof "Role" "r1")) := by
  decide +kernel

theorem succeeds : outcome.result = .ok true := by decide +kernel

theorem answers : outcome.answers = [⟨lit "w1", (proof "Role" "r1").toJson, .prisma, true⟩,
    ⟨lit "w1", (proof "Circle" "c1").toJson, .prisma, true⟩] := by
  have hfirst : isArtifactPermissionEpochProofCurrent table
      (some ⟨.prisma, lit "w1", true, (proof "Role" "r1").entries⟩) (lit "w1")
      (proof "Role" "r1").toJson .prisma = .ok true := by decide +kernel
  have hsecond : isArtifactPermissionEpochProofCurrent table
      (some ⟨.prisma, lit "w1", true, (proof "Role" "r1").entries⟩) (lit "w1")
      (proof "Circle" "c1").toJson .prisma = .ok true := by decide +kernel
  have hbefore : isArtifactPermissionEpochProofCurrent table none (lit "w1")
      (proof "Role" "r1").toJson .prisma = .ok true := by decide +kernel
  simp only [outcome, withArtifactPermissionBatchRead, retained, hbefore, read, PermissionRead.run,
    hfirst, hsecond, PermissionReadOutcome.after]

end BatchReadExample

theorem withArtifactPermissionBatchRead_sound_role :
    isArtifactPermissionEpochProofCurrent BatchReadExample.outcome.table none (lit "w1")
      (BatchReadExample.proof "Role" "r1").toJson .prisma = .ok true := by
  have hanswer : (⟨lit "w1", (BatchReadExample.proof "Role" "r1").toJson, .prisma, true⟩ :
      PermissionAnswer) ∈ BatchReadExample.outcome.answers := by
    rw [BatchReadExample.answers]
    exact .head _
  have hparse : parsePermissionEpochProof (BatchReadExample.proof "Role" "r1").toJson =
      some (BatchReadExample.proof "Role" "r1") := by decide +kernel
  exact ((withArtifactPermissionBatchRead_sound BatchReadExample.retained).1
    BatchReadExample.succeeds _ hanswer rfl _ hparse).1 (by decide +kernel)

/-- A proof with an identity that is not retained may be outdated when the pass succeeds. -/
theorem withArtifactPermissionBatchRead_fresh_answer :
    ¬∀ (table : EpochTable) (db : EpochClient) (workspaceId : JsString)
      (proofs : List PermissionEpochProof) (retained : PermissionEpochProof)
      (read : PermissionRead),
      retainedProof proofs = .ok (some retained) →
      (withArtifactPermissionBatchRead table db workspaceId proofs read).result = .ok true →
      ∀ answer ∈ (withArtifactPermissionBatchRead table db workspaceId proofs read).answers,
        answer.current = true →
        isArtifactPermissionEpochProofCurrent
          (withArtifactPermissionBatchRead table db workspaceId proofs read).table none
          answer.workspaceId answer.value answer.db = .ok true := by
  intro h
  have hanswer : (⟨lit "w1", (BatchReadExample.proof "Circle" "c1").toJson, .prisma, true⟩ :
      PermissionAnswer) ∈ BatchReadExample.outcome.answers := by
    rw [BatchReadExample.answers]
    exact .tail _ (.head _)
  have hcurrent := h _ _ _ _ _ _ BatchReadExample.retained BatchReadExample.succeeds _ hanswer rfl
  have houtdated : isArtifactPermissionEpochProofCurrent BatchReadExample.outcome.table none
      (lit "w1") (BatchReadExample.proof "Circle" "c1").toJson .prisma = .ok false := by
    decide +kernel
  exact absurd (hcurrent.symm.trans houtdated) (by decide)

end Corgtex.Domain
