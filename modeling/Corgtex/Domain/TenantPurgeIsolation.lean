import Corgtex.Domain.TenantPurgeCapture

/-!
# A manifest without blockers

The evidence of a manifest goes from the tables through the checked reads (`captureReads_ok`), the
copy under the schema of the mode (`normalize_ok`) and the comparisons of the manifest
(`sharedBlockers_eq_nil` and its siblings). `unblocked_isolated` puts them together.
-/

namespace Corgtex.Domain.TenantPurge

open JsNumber JsString List

/-! ## Isolated targets -/

/-- Nothing but the run refers to its deployment and its workspace. -/
structure Isolated (db : PurgeDatabase) (run : TenantPurgeRun) (deployment : CustomerDeployment) :
    Prop where
  workspace_exists : run.targetWorkspaceId ∈ db.workspaces
  deployment_exists : db.deployments.find? run.targetDeploymentId = some deployment
  managed : deployment.managedWorkspaceId = some run.targetWorkspaceId
  only_manager : ∀ row ∈ db.deployments.rows,
    row.managedWorkspaceId = some run.targetWorkspaceId → row = deployment
  no_primary : ∀ account ∈ db.accounts.rows,
    account.primaryDeploymentId ≠ some run.targetDeploymentId
  no_lease : deployment.releaseLease = .none
  no_transition : ∀ row ∈ db.cutovers.rows ++ db.migrations.rows,
    row.sourceDeploymentId ≠ run.targetDeploymentId ∧
      row.destinationDeploymentId ≠ some run.targetDeploymentId

/-- An account target has this deployment only, and routes nothing to it. -/
structure AccountIsolated (db : PurgeDatabase) (run : TenantPurgeRun)
    (deployment : CustomerDeployment) (accountId : JsString) : Prop where
  target : run.targetAccountId = some accountId
  belongs : deployment.customerAccountId = some accountId
  account : ∃ account, db.accounts.find? accountId = some account ∧
    account.primaryDeploymentId = none
  only_deployment : ∀ row ∈ db.deployments.rows,
    row.customerAccountId = some accountId → row = deployment
  no_transition : ∀ row ∈ db.cutovers.rows ++ db.migrations.rows, row.customerAccountId ≠ accountId
  no_trial : ∀ trial ∈ db.trials.rows, trial.workspaceId ≠ some run.targetWorkspaceId

/-- A trial target has expired and is the only trial of the workspace; no account has the
deployment. -/
structure TrialIsolated (db : PurgeDatabase) (run : TenantPurgeRun)
    (deployment : CustomerDeployment) (trialId : JsString) (capturedAt : Int) : Prop where
  target : run.targetTrialId = some trialId
  no_account : deployment.customerAccountId = none
  trial : ∃ trial, db.trials.find? trialId = some trial ∧
    trial.workspaceId = some run.targetWorkspaceId ∧ trial.trialExpiresAt ≤ capturedAt
  only_trial : ∀ trial ∈ db.trials.rows,
    trial.workspaceId = some run.targetWorkspaceId → trial.id = trialId

/-! ## Reads -/

theorem uuid_ok {value id : JsString} (h : uuid value = .ok id) : id = value := by
  obtain ⟨_, h⟩ := valid_bind_ok.1 h
  cases h
  rfl

theorem nullableUuid_ok {value id : Option JsString} (h : nullableUuid value = .ok id) :
    id = value := by
  cases value with
  | none =>
    cases h
    rfl
  | some value =>
    obtain ⟨_, hid, h⟩ := bind_ok.1 h
    cases h
    rw [uuid_ok hid]

theorem captureMilliseconds_ok {milliseconds result : Int}
    (h : captureMilliseconds milliseconds = .ok result) : result = milliseconds := by
  obtain ⟨_, h⟩ := valid_bind_ok.1 h
  cases h
  rfl

theorem optionalRow_ok {α β : Type} {values : α → Except AppError β} {f : α → β}
    (hvalues : ∀ row result, values row = .ok result → result = f row) {row : Option α}
    {result : Option β} (h : optionalRow values row = .ok result) : result = row.map f := by
  cases row with
  | none =>
    cases h
    rfl
  | some row =>
    obtain ⟨_, hrow, h⟩ := bind_ok.1 h
    cases h
    rw [hvalues _ _ hrow]
    rfl

theorem runValues_ok (run result : TenantPurgeRun) (h : runValues run = .ok result) :
    result = run := by
  obtain ⟨_, hid, h⟩ := bind_ok.1 h
  obtain ⟨_, haccount, h⟩ := bind_ok.1 h
  obtain ⟨_, hdeployment, h⟩ := bind_ok.1 h
  obtain ⟨_, hworkspace, h⟩ := bind_ok.1 h
  obtain ⟨_, htrial, h⟩ := bind_ok.1 h
  obtain ⟨_, h⟩ := valid_bind_ok.1 h
  obtain ⟨_, h⟩ := valid_bind_ok.1 h
  obtain ⟨_, h⟩ := valid_bind_ok.1 h
  obtain ⟨_, h⟩ := valid_bind_ok.1 h
  cases h
  rw [uuid_ok hid, nullableUuid_ok haccount, uuid_ok hdeployment, uuid_ok hworkspace,
    nullableUuid_ok htrial]

def CustomerDeployment.values (row : CustomerDeployment) : DeploymentValues :=
  ⟨row.id, row.managedWorkspaceId, row.customerAccountId, row.releaseLease.isSet⟩

theorem deploymentValues_ok (row : CustomerDeployment) (result : DeploymentValues)
    (h : deploymentValues row = .ok result) : result = row.values := by
  obtain ⟨_, hid, h⟩ := bind_ok.1 h
  obtain ⟨_, hworkspace, h⟩ := bind_ok.1 h
  obtain ⟨_, haccount, h⟩ := bind_ok.1 h
  cases h
  rw [uuid_ok hid, nullableUuid_ok hworkspace, nullableUuid_ok haccount]
  rfl

theorem accountValues_ok (row result : CustomerAccount) (h : accountValues row = .ok result) :
    result = row := by
  obtain ⟨_, hid, h⟩ := bind_ok.1 h
  obtain ⟨_, hprimary, h⟩ := bind_ok.1 h
  cases h
  rw [uuid_ok hid, nullableUuid_ok hprimary]

theorem trialValues_ok (row result : ProcurementTrial) (h : trialValues row = .ok result) :
    result = row := by
  obtain ⟨_, hid, h⟩ := bind_ok.1 h
  obtain ⟨_, hworkspace, h⟩ := bind_ok.1 h
  obtain ⟨_, hexpires, h⟩ := bind_ok.1 h
  cases h
  rw [uuid_ok hid, nullableUuid_ok hworkspace, captureMilliseconds_ok hexpires]

theorem orderedUuids_ok {previous : Option JsString} {values ids : List JsString}
    (h : orderedUuids previous values = .ok ids) : ids = values := by
  induction values generalizing previous ids with
  | nil =>
    cases h
    rfl
  | cons value values ih =>
    obtain ⟨_, hid, h⟩ := bind_ok.1 h
    obtain ⟨_, h⟩ := valid_bind_ok.1 h
    obtain ⟨_, hrest, h⟩ := bind_ok.1 h
    cases h
    rw [uuid_ok hid, ih hrest]

/-- **A bounded read misses nothing**: a vector that is accepted has at most 1 000 of the 1 001 ids
that were asked for, so it has every id there is. -/
theorem mem_of_captured {collation : JsString → JsString → Bool} {α : Type} {rows : List α}
    {id : α → JsString} {test : α → Bool} {ids : List JsString}
    (h : captureTenantPurgePrismaOrderedUuidVector (findManyIds collation rows id test) = .ok ids)
    {row : α} (hrow : row ∈ rows) (htest : test row) : id row ∈ ids := by
  obtain ⟨hlength, h⟩ := valid_bind_ok.1 h
  rw [orderedUuids_ok h]
  rw [findManyIds, decide_eq_true_iff, length_take] at hlength
  rw [findManyIds, take_of_length_le (by omega), mem_mergeSort]
  exact mem_map_of_mem (mem_filter.2 ⟨hrow, htest⟩)

theorem existsTransition_ok {rows : List DeploymentTransition} {test : DeploymentTransition → Bool}
    (h : existsTransition rows test = .ok false) : ∀ row ∈ rows, test row = false := by
  unfold existsTransition at h
  split at h
  · next hnone =>
    intro row hrow
    simpa using find?_eq_none.1 hnone row hrow
  · obtain ⟨_, _, h⟩ := bind_ok.1 h
    cases h

def lookedUpAccount (db : PurgeDatabase) (authority : TenantPurgeRun) : Option JsString :=
  if authority.mode = .ACCOUNT_WORKSPACE then authority.targetAccountId
  else (db.deployments.find? authority.targetDeploymentId).bind (·.customerAccountId)

/-- What the reads say about the tables. -/
structure ReadsOf (db : PurgeDatabase) (authority : TenantPurgeRun) (now : Int)
    (reads : CapturedReads) : Prop where
  capturedAt : reads.capturedAt = now
  workspaceId : reads.workspaceId = db.workspaces.find? (· = authority.targetWorkspaceId)
  deployment : reads.deployment =
    (db.deployments.find? authority.targetDeploymentId).map CustomerDeployment.values
  account : reads.account = (lookedUpAccount db authority).bind db.accounts.find?
  trial : authority.mode = .SELF_SERVE_TRIAL_WORKSPACE →
    reads.trial = authority.targetTrialId.bind db.trials.find?
  workspaceDeployments : ∀ row ∈ db.deployments.rows,
    row.managedWorkspaceId = some authority.targetWorkspaceId → row.id ∈ reads.workspaceDeployments
  workspaceTrials : ∀ row ∈ db.trials.rows,
    row.workspaceId = some authority.targetWorkspaceId → row.id ∈ reads.workspaceTrials
  accountDeployments : ∀ accountId, lookedUpAccount db authority = some accountId →
    ∀ row ∈ db.deployments.rows, row.customerAccountId = some accountId →
      row.id ∈ reads.accountDeployments
  primaryAccounts : ∀ row ∈ db.accounts.rows,
    row.primaryDeploymentId = some authority.targetDeploymentId → row.id ∈ reads.primaryAccounts
  cutover : reads.cutover = false → ∀ row ∈ db.cutovers.rows, relation authority row = false
  migration : reads.migration = false → ∀ row ∈ db.migrations.rows, relation authority row = false

variable {reads : CapturedReads} {authority : TenantPurgeRun}

theorem captureReads_ok {collation : JsString → JsString → Bool} {db : PurgeDatabase} {now : Int}
    (h : captureReads collation db authority now = .ok reads) : ReadsOf db authority now reads := by
  obtain ⟨_, hnow, h⟩ := bind_ok.1 h
  obtain ⟨_, hworkspace, h⟩ := bind_ok.1 h
  obtain ⟨_, hdeployment, h⟩ := bind_ok.1 h
  obtain ⟨_, haccount, h⟩ := bind_ok.1 h
  obtain ⟨_, htrial, h⟩ := bind_ok.1 h
  obtain ⟨_, hmanaged, h⟩ := bind_ok.1 h
  obtain ⟨_, htrials, h⟩ := bind_ok.1 h
  obtain ⟨_, hsiblings, h⟩ := bind_ok.1 h
  obtain ⟨_, hprimary, h⟩ := bind_ok.1 h
  obtain ⟨_, hcutover, h⟩ := bind_ok.1 h
  obtain ⟨_, hmigration, h⟩ := bind_ok.1 h
  cases h
  rw [optionalRow_ok deploymentValues_ok hdeployment] at haccount hsiblings
  have hlooked : (if authority.mode = .ACCOUNT_WORKSPACE then authority.targetAccountId
      else ((db.deployments.find? authority.targetDeploymentId).map
        CustomerDeployment.values).bind DeploymentValues.accountId) =
        lookedUpAccount db authority := by
    rw [lookedUpAccount, Option.bind_map]
    rfl
  rw [hlooked] at haccount hsiblings
  refine ⟨captureMilliseconds_ok hnow, nullableUuid_ok hworkspace,
    optionalRow_ok deploymentValues_ok hdeployment, ?_, ?_, ?_, ?_, ?_, ?_, ?_, ?_⟩
  · rw [optionalRow_ok (f := id) accountValues_ok haccount, Option.map_id]
    rfl
  · intro hmode
    rw [optionalRow_ok (f := id) trialValues_ok htrial, if_pos hmode, Option.map_id]
    rfl
  · intro row hrow htest
    exact mem_of_captured hmanaged hrow (decide_eq_true htest)
  · intro row hrow htest
    exact mem_of_captured htrials hrow (decide_eq_true htest)
  · intro accountId haccountId row hrow htest
    rw [haccountId] at hsiblings
    exact mem_of_captured hsiblings hrow (decide_eq_true htest)
  · intro row hrow htest
    exact mem_of_captured hprimary hrow (decide_eq_true htest)
  · rintro rfl
    exact existsTransition_ok hcutover
  · rintro rfl
    exact existsTransition_ok hmigration

/-! ## The copy -/

variable {depth usedSlots usedSlots' : Nat} {copied : OwnedValue}

theorem copyRecord_ok {fields : SchemaFields}
    {input : List (String × OwnedValue)}
    (h : copyValue (.record fields) depth (.record input) usedSlots = .ok (copied, usedSlots')) :
    ∃ output usedSlots₁, copied = .record output ∧
      copyFields fields depth input usedSlots₁ = .ok (output, usedSlots') := by
  unfold copyValue at h
  obtain ⟨_, h⟩ := valid_bind_ok.1 h
  obtain ⟨usedSlots₁, _, h⟩ := bind_ok.1 h
  obtain ⟨_, h⟩ := valid_bind_ok.1 h
  obtain ⟨⟨output, _⟩, hfields, h⟩ := bind_ok.1 h
  cases h
  exact ⟨output, usedSlots₁, rfl, hfields⟩

theorem copyFields_cons_ok {name : String} {child : Schema} {fields : List (String × Schema)}
    {entry : String × OwnedValue}
    {entries output : List (String × OwnedValue)}
    (h : copyFields (.ofList ((name, child) :: fields)) depth (entry :: entries) usedSlots =
      .ok (output, usedSlots')) :
    ∃ copied usedSlots₁ rest, output = (name, copied) :: rest ∧
      copyValue child (depth + 1) entry.2 usedSlots = .ok (copied, usedSlots₁) ∧
      copyFields (.ofList fields) depth entries usedSlots₁ = .ok (rest, usedSlots') := by
  rw [SchemaFields.ofList, copyFields] at h
  obtain ⟨⟨copied, usedSlots₁⟩, hcopied, h⟩ := bind_ok.1 h
  obtain ⟨⟨rest, usedSlots₂⟩, hrest, h⟩ := bind_ok.1 h
  cases h
  exact ⟨copied, usedSlots₁, rest, rfl, hcopied, hrest⟩

theorem copyTopology_ok
    (h : copyValue .topology depth (topologyRecord authority reads) usedSlots =
      .ok (copied, usedSlots')) :
    ∀ name ∈ ["workspace", "deployment", "account", "trial"],
      copied.get name = (topologyRecord authority reads).get name := by
  obtain ⟨_, _, rfl, hfields⟩ := copyRecord_ok h
  obtain ⟨_, _, _, rfl, _, hfields⟩ := copyFields_cons_ok hfields
  obtain ⟨_, _, _, rfl, hworkspace, hfields⟩ := copyFields_cons_ok hfields
  obtain ⟨_, _, _, rfl, hdeployment, hfields⟩ := copyFields_cons_ok hfields
  obtain ⟨_, _, _, rfl, haccount, hfields⟩ := copyFields_cons_ok hfields
  obtain ⟨_, _, _, rfl, htrial, _⟩ := copyFields_cons_ok hfields
  cases copyValue_eq _ (by decide) hworkspace
  cases copyValue_eq _ (by decide) hdeployment
  cases copyValue_eq _ (by decide) haccount
  cases copyValue_eq _ (by decide) htrial
  simp only [forall_mem_cons]
  exact ⟨rfl, rfl, rfl, rfl, by simp⟩

def TenantPurgeRun.target (run : TenantPurgeRun) : TenantPurgeTarget :=
  materializeTarget run.mode (targetRecord run)

/-- The topology that the reads say, whatever the text of its date. -/
structure TopologyOf (authority : TenantPurgeRun) (reads : CapturedReads)
    (topology : TenantPurgeTopology) : Prop where
  workspace : topology.workspace = reads.workspaceId.map fun id =>
    ⟨id, reads.workspaceDeployments, reads.workspaceTrials⟩
  deployment : topology.deployment = reads.deployment.map fun deployment =>
    ⟨deployment.id, deployment.workspaceId, deployment.accountId, reads.primaryAccounts,
      sharedResource authority reads.deployment, deployment.lease, reads.cutover, reads.migration⟩
  account : topology.account = reads.account.map fun account =>
    ⟨account.id, reads.accountDeployments, account.primaryDeploymentId⟩
  trial : topology.trial = reads.trial.map fun trial =>
    ⟨trial.id, trial.workspaceId, trial.trialExpiresAt ≤ reads.capturedAt⟩

@[simp] theorem text_ownedIds (ids : List JsString) :
    (ownedIds ids).items.map OwnedValue.text = ids := by
  simp [ownedIds, OwnedValue.items, Function.comp_def, OwnedValue.text]

@[simp] theorem nullable_ownedId (id : Option JsString) :
    (ownedId id).nullable OwnedValue.text = id := by
  cases id <;> rfl

@[simp] theorem nullable_ownedRecord {α β : Type} {value : Option α}
    {entries : α → List (String × OwnedValue)} {read : OwnedValue → β} :
    (ownedRecord value entries).nullable read =
      value.map fun value => read (.record (entries value)) := by
  cases value <;> rfl

@[simp] theorem get_record {entries : List (String × OwnedValue)} {name : String} :
    (OwnedValue.record entries).get name = (entries.lookup name).getD .null := rfl

@[simp] theorem text_string {s : JsString} : (OwnedValue.string s).text = s := rfl

@[simp] theorem flag_boolean {b : Bool} : (OwnedValue.boolean b).flag = b := rfl

theorem topologyOf_materialize (h : ∀ name ∈ ["workspace", "deployment", "account", "trial"],
      copied.get name = (topologyRecord authority reads).get name) :
    TopologyOf authority reads (materializeTopology copied) := by
  simp only [forall_mem_cons] at h
  obtain ⟨hworkspace, hdeployment, haccount, htrial, _⟩ := h
  refine ⟨?_, ?_, ?_, ?_⟩
  · simp [materializeTopology, hworkspace, topologyRecord, lookup_cons]
  · simp [materializeTopology, hdeployment, topologyRecord, lookup_cons]
  · simp [materializeTopology, haccount, topologyRecord, lookup_cons]
  · simp [materializeTopology, htrial, topologyRecord, lookup_cons]

theorem text_injective : Function.Injective TenantPurgeTargetMode.text := by
  intro a b h
  cases a <;> cases b <;> first | rfl | exact absurd h (by decide)

theorem get_mode_targetRecord (authority : TenantPurgeRun) :
    (targetRecord authority).get "mode" = .string authority.mode.text := by
  unfold targetRecord
  split <;> rfl

/-- **The copy keeps the evidence**: the snapshot has the target of the run, whose mode is the one
asked for, and the topology that was read. -/
theorem normalize_ok {mode : TenantPurgeTargetMode} {arguments : CaptureArguments}
    {snapshot : TenantPurgeNormalizedManifestValues}
    (h : normalizeTenantPurgeManifestValues true (.string mode.text)
      (rootRecord arguments authority reads) = .ok snapshot) :
    authority.mode = mode ∧ snapshot.target = authority.target ∧
      TopologyOf authority reads snapshot.topology := by
  have hmode : targetModeOf (.string mode.text) = .ok mode := by
    cases mode <;> rfl
  unfold normalizeTenantPurgeManifestValues at h
  obtain ⟨_, hmode', h⟩ := bind_ok.1 h
  cases hmode.symm.trans hmode'
  obtain ⟨copied, hcopied, h⟩ := bind_ok.1 h
  obtain ⟨hsame, h⟩ := valid_bind_ok.1 h
  obtain ⟨supplied, _, h⟩ := bind_ok.1 h
  cases h
  obtain ⟨⟨_, _⟩, hcopy, hcopied⟩ := bind_ok.1 hcopied
  cases hcopied
  obtain ⟨_, _, rfl, hfields⟩ := copyRecord_ok hcopy
  obtain ⟨_, _, _, rfl, htarget, hfields⟩ := copyFields_cons_ok hfields
  obtain ⟨_, _, _, rfl, _, hfields⟩ := copyFields_cons_ok hfields
  obtain ⟨_, _, _, rfl, _, hfields⟩ := copyFields_cons_ok hfields
  obtain ⟨_, _, _, rfl, _, hfields⟩ := copyFields_cons_ok hfields
  obtain ⟨_, _, _, rfl, htopology, _⟩ := copyFields_cons_ok hfields
  cases copyValue_eq _ (by cases mode <;> decide) htarget
  have hauthority : authority.mode = mode := by
    have hsame : ((targetRecord authority).get "mode").strictEq (.string mode.text) = true := hsame
    rw [get_mode_targetRecord] at hsame
    exact text_injective (of_decide_eq_true hsame)
  refine ⟨hauthority, ?_, topologyOf_materialize (copyTopology_ok htopology)⟩
  subst hauthority
  rfl

/-! ## From the manifest to the tables -/

section
variable {db : PurgeDatabase} {run : TenantPurgeRun} {now : Int} {reads : CapturedReads}
  {topology : TenantPurgeTopology} {workspace : TopologyWorkspace} {deployment : TopologyDeployment}

theorem isSet_eq_false {columns : ReleaseLeaseColumns} (h : columns.isSet = false) :
    columns = .none := by
  cases columns
  simpa [ReleaseLeaseColumns.isSet, ReleaseLeaseColumns.none, and_assoc] using h

/-- The columns of a transition that `relation` compares in either mode. -/
theorem relation_eq_false {row : DeploymentTransition} (h : relation run row = false) :
    row.sourceDeploymentId ≠ run.targetDeploymentId ∧
      row.destinationDeploymentId ≠ some run.targetDeploymentId := by
  simp only [relation, Bool.or_eq_false_iff, decide_eq_false_iff_not] at h
  exact ⟨h.1.2, h.2⟩

theorem deployment_of_reads (hreads : ReadsOf db run now reads)
    (htopology : TopologyOf run reads topology)
    (hdeployment : topology.deployment = some deployment) :
    ∃ row, db.deployments.find? run.targetDeploymentId = some row ∧
      deployment.managedWorkspaceId = row.managedWorkspaceId ∧
      deployment.accountId = row.customerAccountId ∧
      deployment.primaryAccountIds = reads.primaryAccounts ∧
      deployment.hasManagedReleaseLease = row.releaseLease.isSet ∧
      deployment.hasProviderCutover = reads.cutover ∧
      deployment.hasClientMigration = reads.migration := by
  rw [htopology.deployment, hreads.deployment, Option.map_map] at hdeployment
  obtain ⟨row, hrow, rfl⟩ := Option.map_eq_some_iff.1 hdeployment
  exact ⟨row, hrow, rfl, rfl, rfl, rfl, rfl, rfl⟩

variable {row : CustomerDeployment}

theorem eq_of_target {other : CustomerDeployment}
    (hrow : db.deployments.find? run.targetDeploymentId = some row)
    (hother : other ∈ db.deployments.rows) (hid : other.id = run.targetDeploymentId) :
    other = row := by
  have hfind := db.deployments.find?_key hother
  rw [hid, hrow] at hfind
  exact (Option.some.inj hfind).symm

section
variable (hreads : ReadsOf db run now reads) (htopology : TopologyOf run reads topology)
include hreads htopology

theorem isolated_of_reads
    (h : SharedUnblocked topology run.targetDeploymentId run.targetWorkspaceId workspace
      deployment) :
    ∃ row, Isolated db run row ∧ deployment.accountId = row.customerAccountId ∧
      (∀ other ∈ db.cutovers.rows ++ db.migrations.rows, relation run other = false) := by
  obtain ⟨row, hrow, hmanaged, haccount, hprimary, hlease, hcutover, hmigration⟩ :=
    deployment_of_reads hreads htopology h.deployment_eq
  have hworkspace := h.workspace_eq
  rw [htopology.workspace] at hworkspace
  obtain ⟨id, hid, rfl⟩ := Option.map_eq_some_iff.1 hworkspace
  have htransitions : ∀ other ∈ db.cutovers.rows ++ db.migrations.rows,
      relation run other = false := by
    intro other hother
    rcases mem_append.1 hother with hmem | hmem
    · exact hreads.cutover (hcutover ▸ h.no_cutover) other hmem
    · exact hreads.migration (hmigration ▸ h.no_migration) other hmem
  refine ⟨row, ⟨?_, hrow, hmanaged.symm.trans h.managed, ?_, ?_, ?_, ?_⟩, haccount, htransitions⟩
  · rw [hreads.workspaceId] at hid
    have hfound := find?_some hid
    rw [← of_decide_eq_true (hfound :)]
    exact mem_of_find?_eq_some hid
  · intro other hother htest
    exact eq_of_target hrow hother
      (h.only_deployment _ (hreads.workspaceDeployments other hother htest))
  · intro account haccount htest
    have hmem := hreads.primaryAccounts account haccount htest
    rw [← hprimary, h.no_primary] at hmem
    cases hmem
  · exact isSet_eq_false (hlease ▸ h.no_lease)
  · intro other hother
    exact relation_eq_false (htransitions other hother)

theorem accountIsolated_of_reads (hrow : db.deployments.find? run.targetDeploymentId = some row)
    (hmode : run.mode = .ACCOUNT_WORKSPACE) {accountId : JsString}
    (htarget : run.targetAccountId = some accountId)
    (hbelongs : row.customerAccountId = some accountId)
    (htransitions : ∀ other ∈ db.cutovers.rows ++ db.migrations.rows, relation run other = false)
    (haccount : ∃ account, topology.account = some account ∧ account.id = accountId ∧
      (∀ id ∈ account.deploymentIds, id = run.targetDeploymentId) ∧
      account.primaryDeploymentId = none)
    (htrials : reads.workspaceTrials = []) : AccountIsolated db run row accountId := by
  have hlooked : lookedUpAccount db run = some accountId := by
    rw [lookedUpAccount, if_pos hmode, htarget]
  obtain ⟨account, hread, hid, honly, hprimary⟩ := haccount
  rw [htopology.account, hreads.account, hlooked, Option.bind_some] at hread
  obtain ⟨stored, hstored, rfl⟩ := Option.map_eq_some_iff.1 hread
  refine ⟨htarget, hbelongs, ⟨stored, hstored, hprimary⟩, ?_, ?_, ?_⟩
  · intro other hother htest
    exact eq_of_target hrow hother
      (honly _ (hreads.accountDeployments accountId hlooked other hother htest))
  · intro other hother heq
    have hrelation := htransitions other hother
    simp [relation, hmode, htarget, heq] at hrelation
  · intro trial htrial htest
    have hmem := hreads.workspaceTrials trial htrial htest
    rw [htrials] at hmem
    cases hmem

theorem trialIsolated_of_reads (hmode : run.mode = .SELF_SERVE_TRIAL_WORKSPACE) {trialId : JsString}
    (htarget : run.targetTrialId = some trialId) (hnone : row.customerAccountId = none)
    (htrial : ∃ trial, topology.trial = some trial ∧ trial.id = trialId ∧
      trial.workspaceId = some run.targetWorkspaceId ∧ trial.expired = true)
    (honly : ∀ id ∈ reads.workspaceTrials, id = trialId) :
    TrialIsolated db run row trialId now := by
  obtain ⟨trial, hread, hid, hworkspace, hexpired⟩ := htrial
  rw [htopology.trial, hreads.trial hmode, htarget, Option.bind_some] at hread
  obtain ⟨stored, hstored, rfl⟩ := Option.map_eq_some_iff.1 hread
  refine ⟨htarget, hnone, ⟨stored, hstored, hworkspace, ?_⟩, ?_⟩
  · rw [← hreads.capturedAt]
    exact of_decide_eq_true hexpired
  · intro other hother htest
    exact honly _ (hreads.workspaceTrials other hother htest)

end

theorem isolated_of_snapshot {snapshot : TenantPurgeNormalizedManifestValues}
    (hshape : hasShape run) (hreads : ReadsOf db run now reads)
    (htarget : snapshot.target = run.target) (htopology : TopologyOf run reads snapshot.topology)
    (hfound : found snapshot = []) :
    ∃ deployment, Isolated db run deployment ∧
      (run.mode = .ACCOUNT_WORKSPACE → ∃ accountId, AccountIsolated db run deployment accountId) ∧
      (run.mode = .SELF_SERVE_TRIAL_WORKSPACE →
        ∃ trialId, TrialIsolated db run deployment trialId now) := by
  obtain ⟨⟨_, hshared⟩, hmode⟩ : (_ ∧ sharedBlockers snapshot = []) ∧ _ := by
    simpa only [found, append_eq_nil_iff] using hfound
  obtain ⟨⟨workspace, values, hshared⟩, hrouting⟩ := sharedBlockers_eq_nil hshared
  have hids : snapshot.target.deploymentId = run.targetDeploymentId ∧
      snapshot.target.workspaceId = run.targetWorkspaceId := by
    rw [htarget, TenantPurgeRun.target, targetRecord]
    cases run.mode <;> exact ⟨rfl, rfl⟩
  rw [hids.1, hids.2] at hshared
  obtain ⟨row, hisolated, haccountId, htransitions⟩ := isolated_of_reads hreads htopology hshared
  have htrialIds : workspace.trialIds = reads.workspaceTrials := by
    have hworkspace := hshared.workspace_eq
    rw [htopology.workspace] at hworkspace
    obtain ⟨_, _, rfl⟩ := Option.map_eq_some_iff.1 hworkspace
    rfl
  refine ⟨row, hisolated, ?_, ?_⟩
  · intro haccountMode
    rw [hasShape, haccountMode, Bool.and_eq_true] at hshape
    obtain ⟨accountId, haccount⟩ := Option.isSome_iff_exists.1 hshape.1
    have hsnapshot : snapshot.target =
        .account accountId run.targetDeploymentId run.targetWorkspaceId := by
      rw [htarget, TenantPurgeRun.target, targetRecord, haccountMode]
      simp [materializeTarget, lookup_cons, haccount, ownedId]
    rw [hsnapshot] at hmode
    obtain ⟨⟨account, hread, hid, honly⟩, hbelongs, hnone⟩ := accountBlockers_eq_nil hmode
    rw [hids.1] at honly
    exact ⟨accountId, accountIsolated_of_reads hreads htopology hisolated.deployment_exists
      haccountMode haccount (haccountId ▸ hbelongs values hshared.deployment_eq) htransitions
      ⟨account, hread, hid, honly, hrouting account hread⟩
      (htrialIds ▸ hnone workspace hshared.workspace_eq)⟩
  · intro htrialMode
    rw [hasShape, htrialMode, Bool.and_eq_true] at hshape
    obtain ⟨trialId, htrial⟩ := Option.isSome_iff_exists.1 hshape.1
    have hsnapshot : snapshot.target =
        .trial trialId run.targetDeploymentId run.targetWorkspaceId := by
      rw [htarget, TenantPurgeRun.target, targetRecord, htrialMode]
      simp [materializeTarget, lookup_cons, htrial, ownedId]
    rw [hsnapshot] at hmode
    obtain ⟨hread, honly, hnone⟩ := trialBlockers_eq_nil hmode
    rw [hids.2] at hread
    exact ⟨trialId, trialIsolated_of_reads hreads htopology htrialMode htrial
      (haccountId ▸ hnone values hshared.deployment_eq) hread
      (htrialIds ▸ honly workspace hshared.workspace_eq)⟩

end

theorem copyTenantPurgeScalar_uuid {value id : OwnedValue}
    (h : copyTenantPurgeScalar value .uuid = .ok id) : value = .string id.text ∧ id = value := by
  unfold copyTenantPurgeScalar at h
  split at h
  · next haccepts =>
    cases h
    cases value with
    | string s => exact ⟨rfl, rfl⟩
    | null | boolean | number | vector | record => cases haccepts
  · cases h

section
variable {collation : JsString → JsString → Bool} {db : PurgeDatabase} {now : Int}
  {captured : OwnedValue}

theorem captureTransaction_ok {mode : TenantPurgeTargetMode} {runId : JsString}
    {arguments : CaptureArguments}
    (h : captureTransaction collation db mode runId arguments now = .ok (some captured)) :
    ∃ run reads, db.runs.find? runId = some run ∧ isAuthorized mode runId run ∧
      ReadsOf db run now reads ∧ captured = rootRecord arguments run reads := by
  obtain ⟨authority, hauthority, h⟩ := bind_ok.1 h
  rw [optionalRow_ok (f := id) runValues_ok hauthority, Option.map_id, id_eq] at h
  split at h
  · cases h
  · next run hrun =>
    split at h
    · next hauthorized =>
      obtain ⟨reads, hreads, h⟩ := bind_ok.1 h
      cases h
      exact ⟨run, reads, hrun, hauthorized, captureReads_ok hreads, rfl⟩
    · cases h

theorem createTenantPurgePrismaAuthorizeAndCapture_ok {privateAuthority : Bool}
    {targetMode runId redactionKeyBytes pageSize maxPagesPerModel maxEvidenceItems
      cacheMaxTtlSeconds : OwnedValue} {callback : AuthorizeAndCapture}
    (h : createTenantPurgePrismaAuthorizeAndCapture collation db now privateAuthority targetMode
      runId redactionKeyBytes pageSize maxPagesPerModel maxEvidenceItems cacheMaxTtlSeconds =
        .ok callback) {used : Bool}
    (hcall : callback used = .ok (some captured)) :
    ∃ mode id arguments, runId = .string id ∧
      captureTransaction collation db mode id arguments now = .ok (some captured) := by
  unfold createTenantPurgePrismaAuthorizeAndCapture at h
  split at h
  · cases h
    cases hcall
  · obtain ⟨mode, _, h⟩ := bind_ok.1 h
    obtain ⟨id, hid, h⟩ := bind_ok.1 h
    obtain ⟨inputBytes, _, h⟩ := bind_ok.1 h
    obtain ⟨_, h⟩ := valid_bind_ok.1 h
    obtain ⟨_, h⟩ := valid_bind_ok.1 h
    obtain ⟨_, _, h⟩ := bind_ok.1 h
    obtain ⟨_, _, h⟩ := bind_ok.1 h
    obtain ⟨_, _, h⟩ := bind_ok.1 h
    obtain ⟨_, _, h⟩ := bind_ok.1 h
    cases h
    dsimp only at hcall
    split at hcall
    · cases hcall
    · exact ⟨mode, _, _, (copyTenantPurgeScalar_uuid hid).1, hcall⟩

end

/-- **An unblocked manifest has an isolated target.** If the capture of a run and the preparation of
its manifest succeed and list no blocker, then the run is planned, and in the snapshot that was read
nothing outside the target refers to the deployment and the workspace of the run. -/
theorem unblocked_isolated (collation : JsString → JsString → Bool) (db : PurgeDatabase) (now : Int)
    {privateAuthority privateAuthority' used : Bool}
    {targetMode targetMode' runId redactionKeyBytes pageSize maxPagesPerModel maxEvidenceItems
      cacheMaxTtlSeconds : OwnedValue} {callback : AuthorizeAndCapture}
    {manifest : TenantPurgePreparedManifestValues}
    (hcreate : createTenantPurgePrismaAuthorizeAndCapture collation db now privateAuthority
      targetMode runId redactionKeyBytes pageSize maxPagesPerModel maxEvidenceItems
      cacheMaxTtlSeconds = .ok callback)
    (hcapture : captureAuthorizedTenantPurgeManifestValues privateAuthority' targetMode' callback
      used = .ok manifest) (hblockers : manifest.blockers = []) :
    ∃ run ∈ db.runs.rows, runId = .string run.id ∧ run.status = .PLANNED ∧
      ∃ deployment, Isolated db run deployment ∧
        (run.mode = .ACCOUNT_WORKSPACE → ∃ accountId, AccountIsolated db run deployment accountId) ∧
        (run.mode = .SELF_SERVE_TRIAL_WORKSPACE →
          ∃ trialId, TrialIsolated db run deployment trialId now) := by
  unfold captureAuthorizedTenantPurgeManifestValues at hcapture
  split at hcapture
  · cases hcapture
  · obtain ⟨mode, _, hcapture⟩ := bind_ok.1 hcapture
    split at hcapture
    · cases hcapture
    · cases hcapture
    · next captured hcall =>
      obtain ⟨_, id, arguments, rfl, htransaction⟩ :=
        createTenantPurgePrismaAuthorizeAndCapture_ok hcreate hcall
      obtain ⟨run, reads, hrun, hauthorized, hreads, rfl⟩ := captureTransaction_ok htransaction
      obtain ⟨snapshot, hsnapshot, hcapture⟩ := bind_ok.1 hcapture
      cases hcapture
      obtain ⟨_, htarget, htopology⟩ := normalize_ok hsnapshot
      obtain ⟨hmem, rfl⟩ := KeyedTable.find?_eq_some.1 hrun
      simp only [isAuthorized, Bool.and_eq_true, decide_eq_true_eq] at hauthorized
      obtain ⟨⟨⟨⟨⟨_, hshape⟩, hplanned⟩, _⟩, _⟩, _⟩ := hauthorized
      exact ⟨run, hmem, rfl, hplanned, isolated_of_snapshot hshape hreads htarget htopology
        (blockersOf_eq_nil.1 hblockers)⟩

/-! ## Two targets that may be purged -/

/-- A UUID, by its last digit. -/
def sampleId (digit : String) : JsString := lit ("00000000-0000-4000-8000-00000000000" ++ digit)

/-- A planned run on a deployment and its workspace. -/
def sampleRun (mode : TenantPurgeTargetMode) (accountId trialId : Option JsString)
    (key : JsString) : TenantPurgeRun where
  id := sampleId "1"
  mode := mode
  status := .PLANNED
  targetAccountId := accountId
  targetDeploymentId := sampleId "2"
  targetWorkspaceId := sampleId "3"
  targetTrialId := trialId
  canonicalTargetKey := key
  activeTargetKey := some key
  capabilitySha := lit "0123456789abcdef0123456789abcdef01234567"
  terminalAt := none

/-- A run on an account and one on a trial. -/
def accountRun : TenantPurgeRun :=
  sampleRun .ACCOUNT_WORKSPACE (some (sampleId "5")) none
    (lit "ACCOUNT_WORKSPACE:" ++ sampleId "5" ++ lit ":" ++ sampleId "2" ++ lit ":" ++ sampleId "3")

def trialRun : TenantPurgeRun :=
  sampleRun .SELF_SERVE_TRIAL_WORKSPACE none (some (sampleId "4"))
    (lit "SELF_SERVE_TRIAL_WORKSPACE:" ++ sampleId "4" ++ lit ":" ++ sampleId "2" ++ lit ":" ++
      sampleId "3")

/-- An account with one deployment. -/
def accountDatabase : PurgeDatabase where
  runs := ⟨[accountRun], List.nodup_singleton _⟩
  workspaces := [sampleId "3"]
  deployments := ⟨[⟨sampleId "2", some (sampleId "3"), some (sampleId "5"), .none⟩],
    List.nodup_singleton _⟩
  accounts := ⟨[⟨sampleId "5", none⟩], List.nodup_singleton _⟩
  trials := .empty
  cutovers := .empty
  migrations := .empty

/-- An expired trial. -/
def trialDatabase : PurgeDatabase where
  runs := ⟨[trialRun], List.nodup_singleton _⟩
  workspaces := [sampleId "3"]
  deployments := ⟨[⟨sampleId "2", some (sampleId "3"), none, .none⟩], List.nodup_singleton _⟩
  accounts := .empty
  trials := ⟨[⟨sampleId "4", some (sampleId "3"), 5⟩], List.nodup_singleton _⟩
  cutovers := .empty
  migrations := .empty

/-- The manifest of the run, at the time 10. -/
def sampleManifest (db : PurgeDatabase) (mode : TenantPurgeTargetMode) :
    Except AppError TenantPurgePreparedManifestValues := do
  let callback ← createTenantPurgePrismaAuthorizeAndCapture (fun _ _ => true) db 10 true
    (.string mode.text) (.string (sampleId "1")) (.vector (List.replicate 32 (.number 0)))
    (.number 1) (.number 1) (.number 1) (.number 0)
  captureAuthorizedTenantPurgeManifestValues true (.string mode.text) callback false

/-- The manifest is there, without blockers. -/
def isUnblocked : Except AppError TenantPurgePreparedManifestValues → Bool
  | .ok manifest => manifest.blockers = []
  | .error _ => false

theorem isUnblocked_iff {result : Except AppError TenantPurgePreparedManifestValues} :
    isUnblocked result ↔ ∃ manifest, result = .ok manifest ∧ manifest.blockers = [] := by
  cases result <;> simp [isUnblocked]

/-- Both targets are isolated. -/
theorem unblocked_isolated_samples :
    (∃ deployment accountId, Isolated accountDatabase accountRun deployment ∧
      AccountIsolated accountDatabase accountRun deployment accountId) ∧
    ∃ deployment trialId, Isolated trialDatabase trialRun deployment ∧
      TrialIsolated trialDatabase trialRun deployment trialId 10 := by
  constructor
  · have hunblocked : isUnblocked (sampleManifest accountDatabase .ACCOUNT_WORKSPACE) := by
      decide +kernel
    obtain ⟨manifest, hmanifest, hblockers⟩ := isUnblocked_iff.1 hunblocked
    obtain ⟨callback, hcreate, hcapture⟩ := bind_ok.1 hmanifest
    obtain ⟨run, hrun, _, _, deployment, hisolated, haccount, _⟩ :=
      unblocked_isolated _ _ _ hcreate hcapture hblockers
    obtain rfl := mem_singleton.1 hrun
    obtain ⟨accountId, haccount⟩ := haccount rfl
    exact ⟨deployment, accountId, hisolated, haccount⟩
  · have hunblocked : isUnblocked (sampleManifest trialDatabase .SELF_SERVE_TRIAL_WORKSPACE) := by
      decide +kernel
    obtain ⟨manifest, hmanifest, hblockers⟩ := isUnblocked_iff.1 hunblocked
    obtain ⟨callback, hcreate, hcapture⟩ := bind_ok.1 hmanifest
    obtain ⟨run, hrun, _, _, deployment, hisolated, _, htrial⟩ :=
      unblocked_isolated _ _ _ hcreate hcapture hblockers
    obtain rfl := mem_singleton.1 hrun
    obtain ⟨trialId, htrial⟩ := htrial rfl
    exact ⟨deployment, trialId, hisolated, htrial⟩

end Corgtex.Domain.TenantPurge
