import Corgtex.Domain.BillingEvents
import Corgtex.Domain.ProcurementTrialRequests

/-!
# Trials are provisioned once

What the requests owe to each other (`Sound`) holds in every state of a run whose steps are
undisturbed (`trials_sound_of_undisturbed`). The invariant has three parts: the trials and the
workspaces agree with the log (`TrialsAgree`), the keys do (`KeysAgree`), and what a request has
read of a key is still true (`Phase.Informed`), since a key that has a workspace keeps it and what
the log says is never taken back.
-/

namespace Corgtex.Domain.ProcurementTrials

open Billing JsString List Option

/-! ## The invariant -/

/-- The trials and the workspaces agree with the log: a provisioned trial has its workspace and no
other trial has it, and a rejected trial has none and is no longer under review. -/
structure TrialsAgree (store : TrialStore) (log : TrialLog) : Prop where
  provisioned : ∀ provisioned ∈ log.provisioned, ∃ trial,
    store.trials.find? provisioned.trialId = some trial ∧
      trial.workspaceId = some provisioned.workspaceId
  owned : ∀ id trial workspaceId, store.trials.find? id = some trial →
    trial.workspaceId = some workspaceId → ⟨id, workspaceId⟩ ∈ log.provisioned
  trialIds : (log.provisioned.map ProvisionedTrial.trialId).Nodup
  workspaceIds : (log.provisioned.map ProvisionedTrial.workspaceId).Nodup
  workspaces : ∀ provisioned ∈ log.provisioned,
    (store.billing.workspaces.find? provisioned.workspaceId).isSome
  rejected : ∀ trialId ∈ log.rejected, ∃ trial, store.trials.find? trialId = some trial ∧
    trial.workspaceId = none ∧ trial.status ≠ .REVIEW_REQUIRED

/-- The keys agree with the log: a key remembers the trial that it has created, and if it has a
workspace, it is the one of that trial. -/
structure KeysAgree (store : TrialStore) (log : TrialLog) : Prop where
  keyHashes : (log.created.map KeyedTrial.idemKeyHash).Nodup
  stored : ∀ created ∈ log.created, (store.keys.find? created.idemKeyHash).isSome
  known : ∀ idemKeyHash key, store.keys.find? idemKeyHash = some key →
    ⟨idemKeyHash, key.requestHash, key.responseJson.trialId⟩ ∈ log.created
  pointed : ∀ idemKeyHash key workspaceId, store.keys.find? idemKeyHash = some key →
    key.workspaceId = some workspaceId → ⟨key.responseJson.trialId, workspaceId⟩ ∈ log.provisioned
  replayed : ∀ replayed ∈ log.replayed, replayed ∈ log.created

/-- What a request has read of a key, or is about to answer, is what the log says. -/
def Phase.Informed (log : TrialLog) : Phase → Prop
  | readTrialOfKey request key =>
    ⟨request.idemKeyHash, request.idemRequestHash, key.responseJson.trialId⟩ ∈ log.created ∧
      ∀ workspaceId, key.workspaceId = some workspaceId →
        ⟨key.responseJson.trialId, workspaceId⟩ ∈ log.provisioned
  | expireTrialConnector request trial =>
    ⟨request.idemKeyHash, request.idemRequestHash, trial.id⟩ ∈ log.created
  | mailed idemKeyHash response =>
    ∃ idemRequestHash, ⟨idemKeyHash, idemRequestHash, response.trialId⟩ ∈ log.created
  | approvalMailed _ workspaceId response => ⟨response.trialId, workspaceId⟩ ∈ log.provisioned
  | _ => True

/-- **The invariant** of undisturbed runs. -/
structure Agree (state : TrialState) : Prop where
  trials : TrialsAgree state.store state.log
  keys : KeysAgree state.store state.log
  informed : ∀ request phase, state.requests request = some phase → phase.Informed state.log

section
variable {platform : TrialPlatform} {store store' : TrialStore} {log log' : TrialLog}

/-! ## Unique entries -/

theorem TrialsAgree.trialId_eq (h : TrialsAgree store log) {trialId trialId' workspaceId : JsString}
    (hmem : ⟨trialId, workspaceId⟩ ∈ log.provisioned)
    (hmem' : ⟨trialId', workspaceId⟩ ∈ log.provisioned) : trialId = trialId' :=
  congrArg ProvisionedTrial.trialId (inj_on_of_nodup_map h.workspaceIds hmem hmem' rfl)

theorem KeysAgree.created_eq (h : KeysAgree store log) {created other : KeyedTrial}
    (hmem : created ∈ log.created) (hmem' : other ∈ log.created)
    (hkey : created.idemKeyHash = other.idemKeyHash) : created = other :=
  inj_on_of_nodup_map h.keyHashes hmem hmem' hkey

/-! ## Statements on trials -/

section
variable (h : TrialsAgree store log)
include h

theorem TrialsAgree.of_eq (htrials : store'.trials = store.trials)
    (hbilling : store'.billing = store.billing)
    (hprovisioned : log'.provisioned = log.provisioned) (hrejected : log'.rejected = log.rejected) :
    TrialsAgree store' log' := by
  obtain ⟨provisioned, owned, trialIds, workspaceIds, workspaces, rejected⟩ := h
  constructor <;> simp only [htrials, hbilling, hprovisioned, hrejected] <;> assumption

/-- **An expiry** takes no workspace from a trial. -/
theorem TrialsAgree.expire {test : ProcurementTrial → Bool}
    {workspaceIds : List JsString} {now : Int} :
    TrialsAgree (store.expire test workspaceIds now) log := by
  have hfind : ∀ id, (store.expire test workspaceIds now).trials.find? id =
      (store.trials.find? id).map fun trial =>
        if test trial then { trial with status := .EXPIRED } else trial := by
    intro id
    simp only [TrialStore.expire, KeyedTable.find?_updateMany]
  have hworkspace : ∀ trial : ProcurementTrial,
      (if test trial then { trial with status := .EXPIRED } else trial).workspaceId =
        trial.workspaceId := by
    intro trial
    split <;> rfl
  constructor
  · intro provisioned hmem
    obtain ⟨trial, htrial, hw⟩ := h.provisioned provisioned hmem
    exact ⟨_, (hfind _).trans (congrArg (Option.map _) htrial), (hworkspace trial).trans hw⟩
  · intro id trial workspaceId htrial hw
    rw [hfind] at htrial
    obtain ⟨before, hbefore, rfl⟩ := map_eq_some_iff.1 htrial
    exact h.owned id before workspaceId hbefore ((hworkspace before).symm.trans hw)
  · exact h.trialIds
  · exact h.workspaceIds
  · intro provisioned hmem
    simp only [TrialStore.expire, KeyedTable.find?_updateMany, isSome_map]
    exact h.workspaces provisioned hmem
  · intro trialId hmem
    obtain ⟨trial, htrial, hw, hstatus⟩ := h.rejected trialId hmem
    refine ⟨_, (hfind _).trans (congrArg (Option.map _) htrial), (hworkspace trial).trans hw, ?_⟩
    dsimp only
    split
    · simp
    · exact hstatus

variable {trial : ProcurementTrial}

/-- A trial without a workspace is saved that is new, or was without a workspace. -/
theorem TrialsAgree.save (hnone : trial.workspaceId = none)
    (hbefore : ∀ before, store.trials.find? trial.id = some before → before.workspaceId = none)
    (hstatus : store.trials.find? trial.id = none ∨ trial.status ≠ .REVIEW_REQUIRED) :
    TrialsAgree { store with trials := store.trials.set trial } log := by
  constructor
  · intro provisioned hmem
    obtain ⟨row, hrow, hw⟩ := h.provisioned provisioned hmem
    refine ⟨row, ?_, hw⟩
    rw [KeyedTable.find?_set, if_neg]
    · exact hrow
    · intro hid
      have hnot := hbefore row (hid ▸ hrow)
      rw [hw] at hnot
      cases hnot
  · intro id row workspaceId hrow hw
    rw [KeyedTable.find?_set] at hrow
    split at hrow
    · cases hrow
      rw [hnone] at hw
      cases hw
    · exact h.owned id row workspaceId hrow hw
  · exact h.trialIds
  · exact h.workspaceIds
  · exact h.workspaces
  · intro trialId hmem
    obtain ⟨row, hrow, hrest⟩ := h.rejected trialId hmem
    rw [KeyedTable.find?_set]
    split
    · next hid =>
      refine ⟨trial, rfl, hnone, hstatus.resolve_left ?_⟩
      rw [← hid, hrow]
      simp
    · exact ⟨row, hrow, hrest⟩

/-- **A rejection** of a trial without a workspace. -/
theorem TrialsAgree.reject (htrial : store.trials.find? trial.id = some trial)
    (hnone : trial.workspaceId = none) :
    TrialsAgree { store with trials := store.trials.set { trial with status := .SUSPENDED } }
      (log.reject trial.id) := by
  have hsaved : TrialsAgree
      { store with trials := store.trials.set { trial with status := .SUSPENDED } } log := by
    refine h.save hnone (fun before hbefore => ?_) (.inr (by simp))
    rw [htrial] at hbefore
    cases hbefore
    exact hnone
  refine { hsaved with rejected := fun trialId hmem => ?_ }
  rcases mem_cons.1 hmem with rfl | hold
  · exact ⟨{ trial with status := .SUSPENDED }, KeyedTable.find?_set.trans (if_pos rfl), hnone,
      by simp⟩
  · exact hsaved.rejected trialId hold

/-- **A new workspace** for a trial that is new, or still under review without a workspace. -/
theorem TrialsAgree.provision {workspace : BillingWorkspace}
    (hnew : store.billing.workspaces.find? workspace.id = none)
    (hw : trial.workspaceId = some workspace.id)
    (hbefore : ∀ before, store.trials.find? trial.id = some before →
      before.workspaceId = none ∧ before.status = .REVIEW_REQUIRED)
    (htrials : store'.trials = store.trials.set trial)
    (hworkspaces : store'.billing.workspaces = store.billing.workspaces.set workspace) :
    TrialsAgree store' (log.provision trial.id workspace.id) := by
  have hfresh : trial.id ∉ log.provisioned.map ProvisionedTrial.trialId := by
    intro hmem
    obtain ⟨provisioned, hmem, hid⟩ := mem_map.1 hmem
    obtain ⟨row, hrow, hrow'⟩ := h.provisioned provisioned hmem
    have hnone := (hbefore row (hid ▸ hrow)).1
    rw [hrow'] at hnone
    cases hnone
  constructor
  · intro provisioned hmem
    rw [htrials, KeyedTable.find?_set]
    rcases mem_cons.1 hmem with rfl | hold
    · exact ⟨trial, if_pos rfl, hw⟩
    · obtain ⟨row, hrow⟩ := h.provisioned provisioned hold
      rw [if_neg]
      · exact ⟨row, hrow⟩
      · intro hid
        exact hfresh (mem_map.2 ⟨provisioned, hold, hid⟩)
  · intro id row workspaceId hrow hrow'
    rw [htrials, KeyedTable.find?_set] at hrow
    split at hrow
    · next hid =>
      cases hrow
      rw [hw] at hrow'
      cases hrow'
      exact hid ▸ mem_cons_self
    · exact mem_cons_of_mem _ (h.owned id row workspaceId hrow hrow')
  · exact nodup_cons.2 ⟨hfresh, h.trialIds⟩
  · refine nodup_cons.2 ⟨fun hmem => ?_, h.workspaceIds⟩
    obtain ⟨provisioned, hmem, hid⟩ := mem_map.1 hmem
    have hsome := h.workspaces provisioned hmem
    rw [hid, hnew] at hsome
    cases hsome
  · intro provisioned hmem
    rw [hworkspaces, KeyedTable.find?_set]
    rcases mem_cons.1 hmem with rfl | hold
    · rw [if_pos rfl]
      rfl
    · split
      · rfl
      · exact h.workspaces provisioned hold
  · intro trialId hmem
    obtain ⟨row, hrow, hrest⟩ := h.rejected trialId hmem
    refine ⟨row, ?_, hrest⟩
    rw [htrials, KeyedTable.find?_set, if_neg]
    · exact hrow
    · rintro rfl
      exact hrest.2 (hbefore row hrow).2

end

/-! ## Statements on keys -/

section
variable (h : KeysAgree store log)
include h

theorem KeysAgree.of_eq (hkeys : store'.keys = store.keys)
    (hcreated : log'.created = log.created) (hprovisioned : log.provisioned ⊆ log'.provisioned)
    (hreplayed : log'.replayed = log.replayed) : KeysAgree store' log' where
  keyHashes := hcreated ▸ h.keyHashes
  stored created hmem := by
    rw [hkeys]
    exact h.stored created (hcreated ▸ hmem)
  known idemKeyHash key hkey := by
    rw [hcreated]
    exact h.known idemKeyHash key (hkeys ▸ hkey)
  pointed idemKeyHash key workspaceId hkey hw :=
    hprovisioned (h.pointed idemKeyHash key workspaceId (hkeys ▸ hkey) hw)
  replayed replayed hmem := by
    rw [hcreated]
    exact h.replayed replayed (hreplayed ▸ hmem)

/-- **The answer to a replay** is the trial that the key has created. -/
theorem KeysAgree.replay {request : PreparedTrial} {trialId : JsString}
    (hcreated : ⟨request.idemKeyHash, request.idemRequestHash, trialId⟩ ∈ log.created) :
    KeysAgree store (log.replay request trialId) := by
  refine { h with replayed := fun replayed hmem => ?_ }
  rcases mem_cons.1 hmem with rfl | hold
  · exact hcreated
  · exact h.replayed replayed hold

/-- **A new key** for a new trial. -/
theorem KeysAgree.create {request : PreparedTrial}
    {key : ProcurementIdempotencyKey} (hnew : store.keys.find? key.keyHash = none)
    (hkeyHash : key.keyHash = request.idemKeyHash)
    (hrequestHash : key.requestHash = request.idemRequestHash)
    (hpointed : ∀ workspaceId, key.workspaceId = some workspaceId →
      ⟨key.responseJson.trialId, workspaceId⟩ ∈ log.provisioned) :
    KeysAgree { store with keys := store.keys.set key }
      (log.create request key.responseJson.trialId) := by
  constructor
  · refine nodup_cons.2 ⟨fun hmem => ?_, h.keyHashes⟩
    obtain ⟨created, hmem, hkey⟩ := mem_map.1 hmem
    have hsome := h.stored created hmem
    rw [hkey, ← hkeyHash, hnew] at hsome
    cases hsome
  · intro created hmem
    rw [KeyedTable.find?_set]
    rcases mem_cons.1 hmem with rfl | hold
    · rw [if_pos hkeyHash.symm]
      rfl
    · split
      · rfl
      · exact h.stored created hold
  · intro idemKeyHash row hrow
    rw [KeyedTable.find?_set] at hrow
    split at hrow
    · next hkey =>
      cases hrow
      rw [hkey, hkeyHash, hrequestHash]
      exact mem_cons_self
    · exact mem_cons_of_mem _ (h.known idemKeyHash row hrow)
  · intro idemKeyHash row workspaceId hrow hw
    rw [KeyedTable.find?_set] at hrow
    split at hrow
    · cases hrow
      exact hpointed workspaceId hw
    · exact h.pointed idemKeyHash row workspaceId hrow hw
  · exact fun replayed hmem => mem_cons_of_mem _ (h.replayed replayed hmem)

/-- **Keys that are answered anew**, or get the workspace of their trial. -/
theorem KeysAgree.updateMany {test : ProcurementIdempotencyKey → Bool}
    {data : ProcurementIdempotencyKey → ProcurementIdempotencyKey}
    {hkey : ∀ key, (data key).keyHash = key.keyHash}
    (hrequestHash : ∀ key, (data key).requestHash = key.requestHash)
    (hdata : ∀ idemKeyHash key, store.keys.find? idemKeyHash = some key → test key →
      (data key).responseJson.trialId = key.responseJson.trialId ∧
      ∀ workspaceId, (data key).workspaceId = some workspaceId →
        ⟨key.responseJson.trialId, workspaceId⟩ ∈ log.provisioned) :
    KeysAgree { store with keys := store.keys.updateMany test data hkey } log := by
  refine { h with stored := fun created hmem => ?_, known := ?_, pointed := ?_ }
  · rw [KeyedTable.find?_updateMany, isSome_map]
    exact h.stored created hmem
  · intro idemKeyHash row hrow
    rw [KeyedTable.find?_updateMany] at hrow
    obtain ⟨before, hbefore, rfl⟩ := map_eq_some_iff.1 hrow
    split
    · next htest =>
      rw [hrequestHash, (hdata idemKeyHash before hbefore htest).1]
      exact h.known idemKeyHash before hbefore
    · exact h.known idemKeyHash before hbefore
  · intro idemKeyHash row workspaceId hrow hw
    rw [KeyedTable.find?_updateMany] at hrow
    obtain ⟨before, hbefore, rfl⟩ := map_eq_some_iff.1 hrow
    split
    · next htest =>
      rw [if_pos htest] at hw
      obtain ⟨htrialId, hpointed⟩ := hdata idemKeyHash before hbefore htest
      rw [htrialId]
      exact hpointed workspaceId hw
    · next htest =>
      rw [if_neg htest] at hw
      exact h.pointed idemKeyHash before workspaceId hbefore hw

end

/-! ## Transactions -/

theorem provisionWorkspace_ok {normalized : NormalizedTrialInput} {workspaceId : JsString}
    {now : Int} (h : provisionWorkspace platform store normalized workspaceId now = .ok store') :
    store.billing.workspaces.find? workspaceId = none ∧
      store'.billing.workspaces = store.billing.workspaces.set ⟨workspaceId, .TRIAL, now⟩ ∧
      store'.trials = store.trials ∧ store'.keys = store.keys := by
  obtain ⟨slug, -, h⟩ := bind_ok.1 h
  obtain ⟨hnew, h⟩ := require_bind_ok.1 h
  obtain ⟨billing, hbilling, h⟩ := bind_ok.1 h
  cases h
  rw [setProfile_ok (within_ok hbilling)]
  exact ⟨isNone_iff_eq_none.1 hnew, rfl, rfl, rfl⟩

section
variable (htrials : TrialsAgree store log) (hkeys : KeysAgree store log)
include htrials hkeys

theorem agree_createReviewGatedTrial {request : TrialRequest} {ids : NewIds}
    {response : TrialResponse}
    (h : createReviewGatedTrial store request ids = .ok (store', response)) :
    TrialsAgree store' (log.create request.prepared response.trialId) ∧
      KeysAgree store' (log.create request.prepared response.trialId) := by
  obtain ⟨hnew, h⟩ := require_bind_ok.1 h
  obtain ⟨saved, hsaved, h⟩ := bind_ok.1 h
  obtain ⟨keyed, hkeyed, h⟩ := bind_ok.1 h
  cases h
  obtain ⟨hfree, rfl⟩ := createKey_ok hkeyed
  have hsavedKeys : saved.keys = store.keys := by rw [saveTrial_ok hsaved]
  have hnew := isNone_iff_eq_none.1 hnew
  constructor
  · have hafter : TrialsAgree
        { store with trials := store.trials.set (reviewGatedTrial request ids.trialId) } log := by
      refine htrials.save rfl (fun before hbefore => ?_) (.inl hnew)
      rw [show store.trials.find? (reviewGatedTrial ..).id = none from hnew] at hbefore
      cases hbefore
    refine hafter.of_eq ?_ ?_ rfl rfl
    · rw [saveTrial_ok hsaved]
    · rw [saveTrial_ok hsaved]
  · have hgrown : KeysAgree saved log := hkeys.of_eq hsavedKeys rfl (List.Subset.refl _) rfl
    refine @KeysAgree.create _ log hgrown request.prepared _ hfree rfl rfl ?_
    intro workspaceId hw
    cases hw

theorem agree_createActiveTrial {request : TrialRequest} {ids : NewIds} {now : Int}
    {response : TrialResponse}
    (h : createActiveTrial platform store request ids now = .ok (store', response)) :
    TrialsAgree store' ((log.create request.prepared response.trialId).provision response.trialId
        ids.workspaceId) ∧
      KeysAgree store' ((log.create request.prepared response.trialId).provision response.trialId
        ids.workspaceId) := by
  obtain ⟨provisioned, hprovisioned, h⟩ := bind_ok.1 h
  obtain ⟨hnew, h⟩ := require_bind_ok.1 h
  obtain ⟨saved, hsaved, h⟩ := bind_ok.1 h
  obtain ⟨keyed, hkeyed, h⟩ := bind_ok.1 h
  cases h
  obtain ⟨hfresh, hworkspaces, htrialsEq, hkeysEq⟩ := provisionWorkspace_ok hprovisioned
  obtain ⟨hfree, rfl⟩ := createKey_ok hkeyed
  have hsavedTrials : saved.trials = store.trials.set
      (activeTrial request.normalized request.risk request.expiresAt ids.trialId ids) := by
    rw [saveTrial_ok hsaved, ← htrialsEq]
  have hsavedKeys : saved.keys = store.keys := by
    rw [saveTrial_ok hsaved]
    exact hkeysEq
  have hsavedWorkspaces : saved.billing.workspaces =
      store.billing.workspaces.set ⟨ids.workspaceId, .TRIAL, now⟩ := by
    rw [saveTrial_ok hsaved]
    exact hworkspaces
  have hnew := isNone_iff_eq_none.1 hnew
  rw [htrialsEq] at hnew
  constructor
  · refine TrialsAgree.of_eq (htrials.provision hfresh rfl ?_ hsavedTrials hsavedWorkspaces)
      rfl rfl rfl rfl
    intro before hbefore
    rw [show store.trials.find? (activeTrial ..).id = none from hnew] at hbefore
    cases hbefore
  · have hgrown : KeysAgree saved (log.provision ids.trialId ids.workspaceId) :=
      hkeys.of_eq hsavedKeys rfl (subset_cons_self ..) rfl
    have hcreated := @KeysAgree.create _ _ hgrown request.prepared _ hfree rfl rfl ?_
    · exact hcreated.of_eq rfl rfl (List.Subset.refl _) rfl
    · intro workspaceId hw
      cases hw
      exact mem_cons_self

theorem agree_approveTrial {approval : Approval} {expiresAt now : Int} {ids : NewIds}
    {response : TrialResponse} (hundisturbed : approval.undisturbed platform store)
    (h : approveTrial platform store approval expiresAt ids now = .ok (store', response)) :
    TrialsAgree store' (log.provision response.trialId ids.workspaceId) ∧
      KeysAgree store' (log.provision response.trialId ids.workspaceId) := by
  obtain ⟨provisioned, hprovisioned, h⟩ := bind_ok.1 h
  obtain ⟨-, h⟩ := require_bind_ok.1 h
  obtain ⟨saved, hsaved, h⟩ := bind_ok.1 h
  cases h
  obtain ⟨hfresh, hworkspaces, htrialsEq, hkeysEq⟩ := provisionWorkspace_ok hprovisioned
  have hsavedTrials : saved.trials = store.trials.set
      (activeTrial approval.normalized approval.risk expiresAt approval.trialId ids) := by
    rw [saveTrial_ok hsaved, ← htrialsEq]
  have hsavedKeys : saved.keys = store.keys := by
    rw [saveTrial_ok hsaved]
    exact hkeysEq
  have hsavedWorkspaces : saved.billing.workspaces =
      store.billing.workspaces.set ⟨ids.workspaceId, .TRIAL, now⟩ := by
    rw [saveTrial_ok hsaved]
    exact hworkspaces
  obtain ⟨hreview, hwaiting⟩ := Bool.and_eq_true_iff.1 hundisturbed
  constructor
  · refine TrialsAgree.of_eq (htrials.provision hfresh rfl ?_ hsavedTrials hsavedWorkspaces)
      rfl rfl rfl rfl
    intro before hbefore
    rw [show store.trials.find? approval.trialId = some before from hbefore, any_some] at hreview
    simpa [and_comm] using hreview
  · have hgrown : KeysAgree saved (log.provision approval.trialId ids.workspaceId) :=
      hkeys.of_eq hsavedKeys rfl (subset_cons_self ..) rfl
    refine hgrown.updateMany (fun _ => rfl) fun idemKeyHash key hkey htest => ?_
    rw [hsavedKeys] at hkey
    have hown : key.responseJson.trialId = approval.trialId := by
      have hrow := all_eq_true.1 hwaiting key (KeyedTable.find?_eq_some.1 hkey).1
      simp only [Bool.and_eq_true, decide_eq_true_eq] at htest
      simpa [htest.1, htest.2] using hrow
    refine ⟨hown.symm, fun workspaceId hw => ?_⟩
    cases hw
    rw [hown]
    exact mem_cons_self

end

/-! ## Turns -/

/-- What the log says is never taken back. -/
structure Grows (log log' : TrialLog) : Prop where
  created : log.created ⊆ log'.created
  provisioned : log.provisioned ⊆ log'.provisioned

theorem Grows.refl (log : TrialLog) : Grows log log := ⟨List.Subset.refl _, List.Subset.refl _⟩

/-- What a request has read stays true. -/
theorem Phase.Informed.mono {phase : Phase} (h : phase.Informed log) (hgrows : Grows log log') :
    phase.Informed log' := by
  cases phase with
  | readTrialOfKey request key =>
    exact ⟨hgrows.created h.1, fun workspaceId hw => hgrows.provisioned (h.2 workspaceId hw)⟩
  | expireTrialConnector request trial => exact hgrows.created h
  | mailed idemKeyHash response =>
    obtain ⟨idemRequestHash, h⟩ := h
    exact ⟨idemRequestHash, hgrows.created h⟩
  | approvalMailed idemRequestHash workspaceId response => exact hgrows.provisioned h
  | _ => trivial

/-- What an undisturbed statement leaves. -/
structure Turn.Agrees (log : TrialLog) (turn : Turn) : Prop where
  trials : TrialsAgree turn.store turn.log
  keys : KeysAgree turn.store turn.log
  grows : Grows log turn.log
  informed : ∀ next ∈ turn.next, next.Informed turn.log

theorem afterConflict_informed {request : TrialRequest} {error : TransactionError} :
    ∀ phase ∈ afterConflict request error, phase.Informed log := by
  intro phase hphase
  unfold afterConflict at hphase
  split at hphase
  · cases hphase
    trivial
  · cases hphase

section
variable (htrials : TrialsAgree store' log) (hkeys : KeysAgree store' log)
include htrials hkeys

theorem Turn.agrees_of_grown {next : Option Phase} (hnext : ∀ phase ∈ next, phase.Informed log) :
    Turn.Agrees log ⟨store', log, next⟩ :=
  ⟨htrials, hkeys, .refl log, hnext⟩

/-- The last statement of a request. -/
theorem Turn.agrees_of_last : Turn.Agrees log ⟨store', log, none⟩ :=
  Turn.agrees_of_grown htrials hkeys fun _ hnext => by cases hnext

/-- **The answer to a replay.** -/
theorem Turn.agrees_replay {request : PreparedTrial} {trialId : JsString}
    (hcreated : ⟨request.idemKeyHash, request.idemRequestHash, trialId⟩ ∈ log.created) :
    Turn.Agrees log ⟨store', log.replay request trialId, none⟩ where
  trials := htrials.of_eq rfl rfl rfl rfl
  keys := hkeys.replay hcreated
  grows := ⟨List.Subset.refl _, List.Subset.refl _⟩
  informed next hnext := by cases hnext

end

section
variable (htrials : TrialsAgree store log) (hkeys : KeysAgree store log)
include htrials hkeys

/-- **A key is read**: its request hash is the one of the request, or the request is refused. -/
theorem readKey_agrees {request : PreparedTrial} {onNew : OnNewKey} {outside : Outside} :
    ((Phase.readKey request onNew).run platform store log outside).Agrees log := by
  unfold Phase.run
  dsimp only
  cases hkey : store.keys.find? request.idemKeyHash with
  | none =>
    simp only [replayExistingIdempotencyKey, hkey]
    cases onNew with
    | expire | reviewGated =>
      refine Turn.agrees_of_grown htrials hkeys ?_
      rintro _ ⟨⟩
      trivial
    | throw => exact Turn.agrees_of_last htrials hkeys
  | some key =>
    by_cases hsame : key.requestHash = request.idemRequestHash
    · rw [replayExistingIdempotencyKey_eq hkey hsame]
      refine Turn.agrees_of_grown htrials hkeys ?_
      rintro _ ⟨⟩
      refine ⟨?_, fun workspaceId => hkeys.pointed _ key workspaceId hkey⟩
      rw [← hsame]
      exact hkeys.known _ key hkey
    · obtain ⟨error, herror⟩ := replayExistingIdempotencyKey_ne hkey hsame
      rw [herror]
      exact Turn.agrees_of_last htrials hkeys

/-- **The trial of a key's workspace** is the one that the key has created. -/
theorem readTrialOfKey_agrees {request : PreparedTrial} {key : ProcurementIdempotencyKey}
    {outside : Outside} (hinformed : (Phase.readTrialOfKey request key).Informed log) :
    ((Phase.readTrialOfKey request key).run platform store log outside).Agrees log := by
  obtain ⟨hcreated, hpointed⟩ := hinformed
  unfold Phase.run
  dsimp only
  cases hfound : key.workspaceId.bind store.trialOf with
  | none => exact Turn.agrees_replay htrials hkeys hcreated
  | some trial =>
    obtain ⟨workspaceId, hw, htrial⟩ := bind_eq_some_iff.1 hfound
    have hrow : store.trials.find? trial.id = some trial :=
      KeyedTable.find?_key (mem_of_find?_eq_some htrial)
    have howned := htrials.owned trial.id trial workspaceId hrow (trialOf_workspaceId htrial)
    rw [htrials.trialId_eq (hpointed workspaceId hw) howned] at hcreated
    dsimp only
    split
    · refine Turn.agrees_of_grown htrials hkeys ?_
      rintro _ ⟨⟩
      exact hcreated
    · exact Turn.agrees_replay htrials hkeys hcreated

/-- **An undisturbed statement** leaves what agrees. -/
theorem Phase.run_agrees {phase : Phase} {outside : Outside} (hinformed : phase.Informed log)
    (hundisturbed : phase.undisturbed platform store) :
    (phase.run platform store log outside).Agrees log := by
  cases phase with
  | readKey request onNew => exact readKey_agrees htrials hkeys
  | readTrialOfKey request key => exact readTrialOfKey_agrees htrials hkeys hinformed
  | expireTrialConnector request trial =>
    exact Turn.agrees_replay htrials.expire (hkeys.of_eq rfl rfl (List.Subset.refl _) rfl) hinformed
  | readStale reason | readSmoke request =>
    refine Turn.agrees_of_grown htrials hkeys ?_
    rintro _ ⟨⟩
    trivial
  | expireStale reason trials =>
    refine Turn.agrees_of_grown htrials.expire (hkeys.of_eq rfl rfl (List.Subset.refl _) rfl) ?_
    rintro _ ⟨⟩
    cases reason <;> trivial
  | expireSmoke request trials =>
    refine Turn.agrees_of_grown htrials.expire (hkeys.of_eq rfl rfl (List.Subset.refl _) rfl) ?_
    rintro _ ⟨⟩
    trivial
  | assessTrialRisk request =>
    refine Turn.agrees_of_grown htrials hkeys ?_
    rintro _ ⟨⟩
    unfold creationPhase
    dsimp only
    split <;> trivial
  | createReviewGatedTrial request =>
    unfold Phase.run
    dsimp only
    split
    · next created response hok =>
      obtain ⟨htrials', hkeys'⟩ := agree_createReviewGatedTrial htrials hkeys hok
      exact ⟨htrials', hkeys', ⟨subset_cons_self .., List.Subset.refl _⟩, by simp⟩
    · exact Turn.agrees_of_grown htrials hkeys afterConflict_informed
  | createActiveTrial request =>
    unfold Phase.run
    dsimp only
    split
    · next created response hok =>
      obtain ⟨htrials', hkeys'⟩ := agree_createActiveTrial htrials hkeys hok
      refine ⟨htrials', hkeys', ⟨subset_cons_self .., subset_cons_self ..⟩, ?_⟩
      rintro _ ⟨⟩
      exact ⟨request.idemRequestHash, mem_cons_self⟩
    · split
      · refine Turn.agrees_of_grown htrials hkeys ?_
        rintro _ ⟨⟩
        trivial
      · exact Turn.agrees_of_grown htrials hkeys afterConflict_informed
  | mailed idemKeyHash response =>
    refine Turn.agrees_of_last (htrials.of_eq rfl rfl rfl rfl) ?_
    refine hkeys.updateMany (fun _ => rfl) fun keyHash key hkey htest => ?_
    obtain ⟨idemRequestHash, hcreated⟩ := hinformed
    have hsame : keyHash = idemKeyHash :=
      (KeyedTable.find?_eq_some.1 hkey).2.symm.trans (of_decide_eq_true htest)
    have hknown := hkeys.created_eq (hkeys.known keyHash key hkey) hcreated hsame
    exact ⟨(congrArg KeyedTrial.trialId hknown).symm,
      fun workspaceId => hkeys.pointed keyHash key workspaceId hkey⟩
  | readApproved _ | assertNoActiveTrial _ | readRejected _ =>
    unfold Phase.run
    dsimp only
    split
    · refine Turn.agrees_of_grown htrials hkeys ?_
      rintro _ ⟨⟩
      trivial
    · exact Turn.agrees_of_last htrials hkeys
  | approveTrial approval =>
    unfold Phase.run
    dsimp only
    split
    · next approved response hok =>
      obtain ⟨htrials', hkeys'⟩ := agree_approveTrial htrials hkeys hundisturbed hok
      refine ⟨htrials', hkeys', ⟨List.Subset.refl _, subset_cons_self ..⟩, ?_⟩
      rintro _ ⟨⟩
      exact mem_cons_self
    · exact Turn.agrees_of_last htrials hkeys
  | approvalMailed idemRequestHash workspaceId response =>
    refine Turn.agrees_of_last (htrials.of_eq rfl rfl rfl rfl) ?_
    refine hkeys.updateMany (fun _ => rfl) fun keyHash key hkey htest => ?_
    have hw : key.workspaceId = some workspaceId :=
      of_decide_eq_true (Bool.and_eq_true_iff.1 htest).2
    exact ⟨htrials.trialId_eq hinformed (hkeys.pointed keyHash key workspaceId hkey hw),
      fun workspaceId => hkeys.pointed keyHash key workspaceId hkey⟩
  | rejectTrial trialId =>
    unfold Phase.run ProcurementTrials.rejectTrial
    dsimp only
    cases htrial : store.trials.find? trialId with
    | none => exact Turn.agrees_of_last htrials hkeys
    | some trial =>
      obtain rfl : trial.id = trialId := (KeyedTable.find?_eq_some.1 htrial).2
      have hnone : trial.workspaceId = none := by
        have hall : (store.trials.find? trial.id).all (·.workspaceId = none) := hundisturbed
        rw [htrial, all_some] at hall
        exact of_decide_eq_true hall
      exact ⟨htrials.reject htrial hnone, hkeys.of_eq rfl rfl (List.Subset.refl _) rfl,
        ⟨List.Subset.refl _, List.Subset.refl _⟩, by simp⟩

end

/-! ## Runs -/

/-- A request has read nothing before its first statement. -/
theorem TrialCall.start_informed {call : TrialCall} {phase : Phase}
    (h : call.start platform = .ok phase) : phase.Informed log := by
  cases call with
  | createProcurementTrial input idempotencyKey =>
    obtain ⟨prepared, -, h⟩ := bind_ok.1 h
    cases h
    trivial
  | approveReviewGatedProcurementTrial allowed trialId reason
  | rejectReviewGatedProcurementTrial allowed trialId reason =>
    obtain ⟨-, -, h⟩ := bind_ok.1 h
    obtain ⟨-, h⟩ := invariant_bind_ok.1 h
    cases h
    trivial

/-- **A step** whose statement is undisturbed keeps the invariant. -/
theorem Agree.apply {state : TrialState} (h : Agree state) {step : TrialStep}
    (hundisturbed : step.undisturbed platform state) : Agree (step.apply platform state) := by
  cases step with
  | start request call =>
    rw [TrialStep.apply]
    split
    · next phase hfree hstart =>
      refine ⟨h.trials, h.keys, fun other phase' hphase' => ?_⟩
      dsimp only at hphase'
      rw [Function.update_apply] at hphase'
      split at hphase'
      · cases hphase'
        exact call.start_informed hstart
      · exact h.informed other phase' hphase'
    · exact h
  | next request outside =>
    rw [TrialStep.apply]
    cases hphase : state.requests request with
    | none => exact h
    | some phase =>
      have hstatement : phase.undisturbed platform state.store := by
        simpa [TrialStep.undisturbed, hphase] using hundisturbed
      have hturn : Turn.Agrees state.log (if outside.aborts then ⟨state.store, state.log, none⟩
          else phase.run platform state.store state.log outside) := by
        split
        · exact Turn.agrees_of_last h.trials h.keys
        · exact phase.run_agrees h.trials h.keys (h.informed request phase hphase) hstatement
      refine ⟨hturn.trials, hturn.keys, fun other phase' hphase' => ?_⟩
      dsimp only at hphase'
      rw [Function.update_apply] at hphase'
      split at hphase'
      · exact hturn.informed phase' hphase'
      · exact (h.informed other phase' hphase').mono hturn.grows

/-- A list of one key's entries, no two of which are equal, has at most one. -/
theorem length_filter_le_one {α κ : Type} {key : α → κ} {entries : List α} {test : α → Bool}
    (hnodup : (entries.map key).Nodup)
    (hsame : ∀ entry ∈ entries, ∀ other ∈ entries,
      test entry → test other → key entry = key other) :
    (entries.filter test).length ≤ 1 := by
  cases hfilter : entries.filter test with
  | nil => simp
  | cons entry rest =>
    have hmem : ∀ other ∈ entry :: rest, other ∈ entries ∧ test other := by
      intro other hother
      rw [← hfilter] at hother
      exact mem_filter.1 hother
    have hrest : ((entry :: rest).map key).Nodup :=
      hnodup.sublist ((hfilter ▸ filter_sublist).map key)
    cases rest with
    | nil => simp
    | cons other rest =>
      obtain ⟨hentry, htest⟩ := hmem entry mem_cons_self
      obtain ⟨hother, htest'⟩ := hmem other (mem_cons_of_mem _ mem_cons_self)
      have heq := hsame entry hentry other hother htest htest'
      simp [heq] at hrest

/-- **What agrees is sound.** -/
theorem Agree.sound {state : TrialState} (h : Agree state) : Sound state where
  onceByKey idemKeyHash := by
    refine length_filter_le_one h.trials.trialIds fun entry _ other _ htest htest' => ?_
    obtain ⟨created, hcreated, htest⟩ := any_eq_true.1 htest
    obtain ⟨created', hcreated', htest'⟩ := any_eq_true.1 htest'
    simp only [Bool.and_eq_true, decide_eq_true_eq] at htest htest'
    have hsame := h.keys.created_eq hcreated hcreated' (htest.1.trans htest'.1.symm)
    rw [← htest.2, ← htest'.2, hsame]
  onceByTrial trialId := by
    refine length_filter_le_one h.trials.trialIds fun entry _ other _ htest htest' => ?_
    exact (of_decide_eq_true htest).trans (of_decide_eq_true htest').symm
  exactlyOne provisioned hmem := by
    obtain ⟨trial, htrial, hw⟩ := h.trials.provisioned provisioned hmem
    obtain ⟨hrow, hid⟩ := KeyedTable.find?_eq_some.1 htrial
    refine ⟨trial, ?_, hid⟩
    have hlength : (state.store.trials.rows.filter
        (·.workspaceId = some provisioned.workspaceId)).length ≤ 1 := by
      refine length_filter_le_one state.store.trials.nodup fun row hrow other hother ht ht' => ?_
      have howned := h.trials.owned row.id row _ (KeyedTable.find?_key hrow) (of_decide_eq_true ht)
      have howned' := h.trials.owned other.id other _ (KeyedTable.find?_key hother)
        (of_decide_eq_true ht')
      exact h.trials.trialId_eq howned howned'
    have hmem' : trial ∈ state.store.trials.rows.filter
        (·.workspaceId = some provisioned.workspaceId) :=
      mem_filter.2 ⟨hrow, decide_eq_true hw⟩
    cases hrows : state.store.trials.rows.filter (·.workspaceId = some provisioned.workspaceId) with
    | nil =>
      rw [hrows] at hmem'
      cases hmem'
    | cons first rest =>
      rw [hrows] at hlength hmem'
      obtain rfl : rest = [] := length_eq_zero_iff.1 (by simpa using hlength)
      rw [mem_singleton.1 hmem']
  rejected trialId hmem := by
    obtain ⟨trial, htrial, hnone, -⟩ := h.trials.rejected trialId hmem
    refine ⟨⟨trial, htrial, hnone⟩, fun provisioned hmem' hid => ?_⟩
    obtain ⟨row, hrow, hw⟩ := h.trials.provisioned provisioned hmem'
    rw [hid, htrial] at hrow
    cases hrow
    rw [hnone] at hw
    cases hw
  oneRequest created hcreated other hother hkey := by
    have hmem : other ∈ state.log.created := by
      rcases mem_append.1 hother with hother | hother
      · exact hother
      · exact h.keys.replayed other hother
    rw [h.keys.created_eq hmem hcreated hkey]
  replayed replayed hmem :=
    ⟨h.keys.replayed replayed hmem, fun _ hcreated hkey =>
      h.keys.created_eq hcreated (h.keys.replayed replayed hmem) hkey⟩

/-- Nothing has happened. -/
theorem agree_empty {billing : BillingStore} {slugs : KeyedTable WorkspaceSlug WorkspaceSlug.slug} :
    Agree ⟨⟨billing, slugs, .empty, .empty⟩, fun _ => none, ⟨[], [], [], []⟩⟩ := by
  refine ⟨?_, ?_, fun _ _ h => by cases h⟩
  · constructor <;> simp
  · constructor <;> simp

/-- **Trials are provisioned at most once** in every state of a run, and everything else that the
requests owe to each other holds, if every transaction that provisions a trial and every update that
rejects one is undisturbed. -/
theorem trials_sound_of_undisturbed (platform : TrialPlatform) (billing : BillingStore)
    (slugs : KeyedTable WorkspaceSlug WorkspaceSlug.slug) (steps : List TrialStep)
    (hsteps : ∀ done step, done ++ [step] <+: steps →
      step.undisturbed platform (runTrials platform billing slugs done)) :
    ∀ done, done <+: steps → Sound (runTrials platform billing slugs done) := by
  intro done hdone
  have hagree := @List.forall_prefix_foldl _ _ (TrialStep.apply platform) _ steps Agree
    (fun state step => step.undisturbed platform state = true) agree_empty
    (fun _ _ h hundisturbed => h.apply hundisturbed) hsteps
  exact (hagree done hdone).sound

end

/-! ## Trials that are provisioned twice -/

/-- Nothing has been billed. -/
def emptyBilling : BillingStore := ⟨.empty, .empty, .empty, .empty, .empty, .empty, .empty⟩

/-- A request that goes to review. -/
def reviewInput : ProcurementTrialInput := { sampleInput with adminEmail := lit "ann@gmail.com" }

section
variable (request : Nat)

/-- The next statements of a request, with the ids that they draw. -/
def statements (ids : NewIds) (count : Nat) : List TrialStep :=
  .replicate count (.next request ⟨0, ids, false, false, false⟩)

/-- A trial that is left under review. -/
def requestReview (idempotencyKey trialId : String) : List TrialStep :=
  .start request (.createProcurementTrial reviewInput (lit idempotencyKey)) ::
    statements request ⟨lit trialId, lit "w", lit "c"⟩ 7

/-- An approval up to its transaction. -/
def startApproval (trialId : String) : List TrialStep :=
  .start request (.approveReviewGatedProcurementTrial (.ok ()) (lit trialId) (lit "fine")) ::
    statements request ⟨lit trialId, lit "w", lit "c"⟩ 4

/-- The transaction of an approval, and its mail. -/
def commitApproval (workspaceId : String) : List TrialStep :=
  statements request ⟨lit "t", lit workspaceId, lit workspaceId⟩ 2

end

/-- Two approvals of one trial, both of which have read it under review. -/
def overlappingApprovals : List TrialStep :=
  requestReview 0 "k" "t" ++ startApproval 1 "t" ++ startApproval 2 "t" ++ commitApproval 1 "w1" ++
    commitApproval 2 "w2"

/-- A trial that is rejected while its approval is under way. -/
def overlappingRejection : List TrialStep :=
  requestReview 0 "k" "t" ++ startApproval 1 "t" ++
    .start 2 (.rejectReviewGatedProcurementTrial (.ok ()) (lit "t") (lit "no")) ::
    statements 2 ⟨lit "t", lit "w", lit "c"⟩ 2 ++ commitApproval 1 "w1"

/-- Two keys with the same request; the trial of the first is approved, and the second replayed. -/
def crossedReplay : List TrialStep :=
  requestReview 0 "k" "t" ++ requestReview 1 "k'" "t'" ++ startApproval 2 "t" ++
    commitApproval 2 "w1" ++
    .start 3 (.createProcurementTrial reviewInput (lit "k'")) ::
    statements 3 ⟨lit "t", lit "w", lit "c"⟩ 2

/-- **Trials are not always provisioned once**: two approvals that overlap provision two workspaces
for one trial, a rejected trial gets a workspace, and a key is answered with the trial of another.
-/
theorem not_trials_sound :
    ¬ Sound (runTrials samplePlatform emptyBilling .empty overlappingApprovals) ∧
    ¬ Sound (runTrials samplePlatform emptyBilling .empty overlappingRejection) ∧
    ¬ Sound (runTrials samplePlatform emptyBilling .empty crossedReplay) := by
  refine ⟨fun h => ?_, fun h => ?_, fun h => ?_⟩
  · have honce := h.onceByTrial (lit "t")
    revert honce
    decide +kernel
  · have hrejected := (h.rejected (lit "t") (by decide +kernel)).2 ⟨lit "t", lit "w1"⟩
      (by decide +kernel)
    exact hrejected rfl
  · have hreplayed := fun replayed hmem => (h.replayed replayed hmem).1
    revert hreplayed
    decide +kernel

/-- A trial is approved, and its key is replayed. -/
theorem trials_sound_of_undisturbed_sample :
    Sound (runTrials samplePlatform emptyBilling .empty
      (requestReview 0 "k" "t" ++ startApproval 1 "t" ++ commitApproval 1 "w1" ++
        .start 2 (.createProcurementTrial reviewInput (lit "k")) ::
        statements 2 ⟨lit "t", lit "w", lit "c"⟩ 2)) :=
  trials_sound_of_undisturbed samplePlatform emptyBilling .empty _
    (checkSteps_eq_true.1 (by decide +kernel)) _ prefix_rfl

end Corgtex.Domain.ProcurementTrials
