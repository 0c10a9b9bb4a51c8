import Corgtex.Domain.Actions
import Corgtex.Domain.Tensions
import Corgtex.Library.Runs

/-!
# The privacy of work items

A tension or an action is private only as a draft, and has a date of publication unless it is a
draft; a tension has a date of resolution if it is resolved. `updateTension` and
`updateActionRecord` write the privacy that goes with a requested status first, and the requested
privacy over it, so a request that publishes a draft and asks for it to be private leaves an item
that is neither. That is the only way (`work_items_private_iff`).
-/

namespace Corgtex.Domain

/-- What holds of the privacy of an item: private items are drafts, items that are not drafts have
been published, and the author sees the item. -/
structure PrivacySound (authorUserId : JsString) (isPrivate isDraft : Bool)
    (publishedAt : Option Int) : Prop where
  draftOnly : isPrivate → isDraft
  dated : publishedAt.isSome ↔ ¬ isDraft
  shown : ∀ email displayName membership, privacyFilter (.user authorUserId email displayName)
    membership isPrivate isDraft (some authorUserId)

/-- What holds of the privacy and the dates of a tension. -/
structure Tension.PrivacySound (tension : Tension) : Prop where
  privacy : Domain.PrivacySound tension.authorUserId tension.isPrivate (tension.status = .draft)
    tension.publishedAt
  resolvedAt : tension.resolvedAt.isSome ↔ tension.status = .resolved

/-- What holds of the privacy and the date of an action. -/
def Action.PrivacySound (action : Action) : Prop :=
  Domain.PrivacySound action.authorUserId action.isPrivate (action.status = .draft)
    action.publishedAt

def TensionsPrivate (store : TensionStore) : Prop :=
  ∀ tension ∈ store.items.rows, tension.PrivacySound

def ActionsPrivate (store : ActionStore) : Prop :=
  ∀ action ∈ store.items.rows, action.PrivacySound

/-- The step succeeds on the rows, and publishes a tension that it makes private. -/
def TensionStep.Hides (store : TensionStore) (step : TensionStep) : Prop :=
  step.Succeeds store ∧ step.transaction.hides

/-- The step succeeds on the rows, and publishes an action that it makes private. -/
def ActionStep.Hides (store : ActionStore) (step : ActionStep) : Prop :=
  step.Succeeds store ∧ step.transaction.hides

/-! ## One item -/

section
variable {authorUserId : JsString} {isPrivate isDraft : Bool} {publishedAt : Option Int}

/-- The author sees an item with the first two properties. -/
theorem PrivacySound.of (hprivate : isPrivate → isDraft)
    (hpublished : publishedAt.isSome ↔ ¬ isDraft) :
    PrivacySound authorUserId isPrivate isDraft publishedAt := by
  refine ⟨hprivate, hpublished, fun email displayName membership => ?_⟩
  cases isPrivate with
  | false => simp [privacyFilter]
  | true => simp [privacyFilter, hprivate rfl]

theorem PrivacySound.draft : PrivacySound authorUserId isPrivate true none :=
  .of (fun _ => rfl) (by simp)

theorem PrivacySound.published {now : Int} :
    PrivacySound authorUserId false false (some now) := .of nofun (by simp)

/-- What an update makes of the privacy of an item, where `requestedDraft` says of a requested
status whether it is the one of a draft. -/
theorem PrivacySound.update_iff (hold : PrivacySound authorUserId isPrivate isDraft publishedAt)
    (requestedPrivate requestedDraft : Option Bool) (now : Int)
    (hisDraft : requestedPrivate.isSome → isDraft) :
    PrivacySound authorUserId ((requestedPrivate.or requestedDraft).getD isPrivate)
        (requestedDraft.getD isDraft)
        ((requestedDraft.map fun draft => if draft then none else some now).getD publishedAt) ↔
      ¬ (requestedDraft = some false ∧ requestedPrivate = some true) := by
  cases requestedDraft with
  | none =>
    refine iff_of_true (.of (fun hprivate => ?_) hold.dated) nofun
    cases requestedPrivate with
    | none => exact hold.draftOnly hprivate
    | some _ => exact hisDraft rfl
  | some draft =>
    cases draft with
    | true => exact iff_of_true .draft nofun
    | false =>
      rcases requestedPrivate with _ | _ | _
      · exact iff_of_true .published nofun
      · exact iff_of_true .published nofun
      · exact iff_of_false (fun h => nomatch h.draftOnly rfl) fun h => h ⟨rfl, rfl⟩

end

section
variable {α σ : Type} {key : α → JsString} {store store' : ItemStore σ key}
  {versions : WorkItemVersionTable σ} {old new : α}

theorem ItemWrite.forall_iff {P : α → Prop}
    (h : ItemWrite store versions old new store') (hrows : ∀ item ∈ store.items.rows, P item) :
    (∀ item ∈ store'.items.rows, P item) ↔ P new := by
  constructor
  · intro hrows'
    have hfound := (h.find (key old)).trans (if_pos rfl)
    exact hrows' new (KeyedTable.find?_eq_some.1 hfound).1
  · intro hnew item hitem
    have hfound := (h.find (key item)).symm.trans (KeyedTable.find?_key hitem)
    split at hfound
    · exact Option.some.inj hfound ▸ hnew
    · exact hrows item (KeyedTable.find?_eq_some.1 hfound).1

theorem ItemWrite.mem (h : ItemWrite store versions old new store') : old ∈ store.items.rows :=
  (KeyedTable.find?_eq_some.1 h.found).1

end

section
variable {context : WorkItemContext}

/-! ## Tensions -/

/-- The fields that go with a requested status. -/
theorem TensionData.ofStatus_eq (status : Option TensionStatus) (resolvedVia : Option JsString)
    (tension : Tension) (now : Int) : let draft := status.map fun status => decide (status = .draft)
    let data := TensionData.ofStatus status resolvedVia tension now
    data.status = status ∧ data.isPrivate = draft ∧
      data.publishedAt = draft.map (fun draft =>
        if draft then none else some (tension.publishedAt.getD now)) ∧
      data.resolvedAt = status.map fun status => if status = .resolved then some now else none := by
  rcases status with _ | _ | _ | _ <;> exact ⟨rfl, rfl, rfl, rfl⟩

variable {params : UpdateTensionParams}

/-- The fields that `updateTension` assigns for a requested status and privacy. -/
theorem UpdateTensionParams.data_ok {tension : Tension}
    {data : TensionData} (h : params.data context tension = .ok data) :
    let draft := params.status.map fun status => decide (status = .draft)
    data.status = params.status ∧ data.isPrivate = params.isPrivate.or draft ∧
      data.publishedAt = draft.map (fun draft =>
        if draft then none else some (tension.publishedAt.getD context.now)) ∧
      data.resolvedAt = params.status.map fun status =>
        if status = .resolved then some context.now else none := by
  obtain ⟨_, h⟩ := invariant_bind_ok.1 h
  obtain ⟨_, _, h⟩ := bind_ok.1 h
  obtain ⟨_, h⟩ := invariant_bind_ok.1 h
  obtain ⟨_, _, h⟩ := bind_ok.1 h
  obtain ⟨_, _, h⟩ := bind_ok.1 h
  obtain ⟨_, _, h⟩ := bind_ok.1 h
  obtain rfl := Except.ok.inj h
  obtain ⟨hstatus, hprivate, hdates⟩ :=
    TensionData.ofStatus_eq params.status params.resolvedVia.join tension context.now
  exact ⟨hstatus, congrArg params.isPrivate.or hprivate, hdates⟩

theorem UpdateTensionParams.hides_eq_false :
    params.hides = false ↔ ¬ (params.status.map (fun status => decide (status = .draft)) =
      some false ∧ params.isPrivate = some true) := by
  unfold hides
  cases params.status <;> simp

variable {version : Option Nat}

/-- When an update keeps a tension sound. -/
theorem TensionEdit.privacySound_iff {store store' : TensionStore}
    {old : Tension} {data : TensionData} {versions : WorkItemVersionTable TensionSnapshot}
    (h : TensionEdit context store params old data versions version store')
    (hold : old.PrivacySound) :
    ({ data with version }.apply old).PrivacySound ↔ params.hides = false := by
  obtain ⟨hstatus, hprivate, hpublished, hresolved⟩ := UpdateTensionParams.data_ok h.data_ok
  have hdraft : decide (data.status.getD old.status = .draft) =
      (params.status.map fun status => decide (status = .draft)).getD
        (decide (old.status = .draft)) := by
    rw [hstatus]
    cases params.status <;> rfl
  have hresolution : (data.resolvedAt.getD old.resolvedAt).isSome ↔
      data.status.getD old.status = .resolved := by
    rw [hstatus, hresolved]
    rcases params.status with _ | _ | _ | _
    · exact hold.resolvedAt
    all_goals simp
  have hnew : ({ data with version }.apply old).PrivacySound ↔
      PrivacySound old.authorUserId (data.isPrivate.getD old.isPrivate)
        (data.status.getD old.status = .draft) (data.publishedAt.getD old.publishedAt) :=
    ⟨fun h => h.privacy, fun h => ⟨h, hresolution⟩⟩
  rw [hnew, hdraft, hprivate, hpublished, hold.privacy.update_iff _ _ _ fun hsome =>
    decide_eq_true (h.isDraft hsome), params.hides_eq_false]

section
variable {store store' : TensionStore}

theorem TensionEffect.private (h : TensionEffect context store false store')
    (hprivate : TensionsPrivate store) : TensionsPrivate store' := by
  cases h with
  | keep hsame => exact hsame ▸ hprivate
  | read tension hfound hread => exact hread ▸ hprivate
  | create row isPrivate hnew hversion hrowPrivate hstatus hpublished hresolved hrows =>
    intro tension htension
    rw [hrows, List.mem_append, List.mem_singleton] at htension
    rcases htension with htension | rfl
    · exact hprivate tension htension
    refine ⟨?_, ?_⟩
    · rw [hrowPrivate, hstatus, hpublished]
      cases isPrivate with
      | false => exact .published
      | true => exact .draft
    · rw [hresolved, hstatus]
      cases isPrivate <;> simp
  | change old new hwrite hchange =>
    refine (hwrite.forall_iff hprivate).2 ?_
    have hold := hprivate old hwrite.mem
    cases hchange with
    | publish => exact ⟨.published, by simp⟩
    | returnToDraft => exact ⟨.draft, by simp⟩
    | archive => exact ⟨hold.privacy, hold.resolvedAt⟩
  | edit params old data versions version hhides hedit =>
    have hold := hprivate old hedit.write.mem
    exact (hedit.write.forall_iff hprivate).2 ((hedit.privacySound_iff hold).2 hhides)
  | link source old new workspaceId proposalId versions newVersion _ _ _ _ hwrite hnew =>
    have hold := hprivate old hwrite.mem
    refine (hwrite.forall_iff hprivate).2 ?_
    rw [hnew]
    exact ⟨hold.privacy, hold.resolvedAt⟩

/-- **When a step keeps the tensions private.** It does exactly when it does not publish a tension
that it makes private. -/
theorem TensionStep.apply_private_iff (step : TensionStep) (hprivate : TensionsPrivate store) :
    TensionsPrivate (step.apply store) ↔ ¬ step.Hides store := by
  rcases step.apply_cases store with ⟨hsame, hfails⟩ | ⟨hok, hsucceeds⟩
  · rw [hsame]
    exact iff_of_true hprivate fun h => hfails h.1
  cases hhides : step.transaction.hides with
  | false =>
    have heffect := (TensionTransaction.perform_effect hok).1
    rw [hhides] at heffect
    exact iff_of_true (heffect.private hprivate) fun h => nomatch hhides.symm.trans h.2
  | true =>
    refine iff_of_false (fun hprivate' => ?_) fun h => h ⟨hsucceeds, hhides⟩
    cases htransaction : step.transaction with
    | update params =>
      rw [htransaction] at hok hhides
      obtain ⟨⟨old, data, versions, version, hedit⟩, _⟩ := updateTension_edit hok
      have hold := hprivate old hedit.write.mem
      have hnew := (hedit.write.forall_iff hprivate).1 hprivate'
      cases ((hedit.privacySound_iff hold).1 hnew).symm.trans hhides
    | _ => simp [htransaction, TensionTransaction.hides] at hhides

end

/-! ## Actions -/

/-- The fields that go with a requested status. -/
theorem ActionData.ofStatus_eq (status : Option ActionStatus) (completedVia : Option JsString)
    (action : Action) (now : Int) : let draft := status.map fun status => decide (status = .draft)
    let data := ActionData.ofStatus status completedVia action now
    data.status = status ∧ data.isPrivate = draft ∧
      data.publishedAt = draft.map fun draft =>
        if draft then none else some (action.publishedAt.getD now) := by
  rcases status with _ | _ | _ | _ | _ <;> exact ⟨rfl, rfl, rfl⟩

/-- The fields that `updateActionRecord` assigns for a requested status and privacy. -/
theorem UpdateActionParams.data_ok {params : UpdateActionParams} {action : Action}
    {data : ActionData} (h : params.data context action = .ok data) :
    let draft := params.status.map fun status => decide (status = .draft)
    data.status = params.status ∧ data.isPrivate = params.isPrivate.or draft ∧
      data.publishedAt = draft.map fun draft =>
        if draft then none else some (action.publishedAt.getD context.now) := by
  obtain ⟨_, h⟩ := invariant_bind_ok.1 h
  obtain ⟨_, _, h⟩ := bind_ok.1 h
  obtain ⟨_, h⟩ := invariant_bind_ok.1 h
  obtain ⟨_, _, h⟩ := bind_ok.1 h
  obtain ⟨_, _, h⟩ := bind_ok.1 h
  obtain ⟨_, _, h⟩ := bind_ok.1 h
  obtain rfl := Except.ok.inj h
  obtain ⟨hstatus, hprivate, hpublished⟩ :=
    ActionData.ofStatus_eq params.status params.completedVia.join action context.now
  exact ⟨hstatus, congrArg params.isPrivate.or hprivate, hpublished⟩

theorem UpdateActionParams.hides_eq_false {params : UpdateActionParams} :
    params.hides = false ↔ ¬ (params.status.map (fun status => decide (status = .draft)) =
      some false ∧ params.isPrivate = some true) := by
  unfold hides
  cases params.status <;> simp

theorem ActionEdit.privacySound_iff {store store' : ActionStore} {params : UpdateActionParams}
    {old : Action} {data : ActionData} {versions : WorkItemVersionTable ActionSnapshot}
    (h : ActionEdit context store params old data versions version store')
    (hold : old.PrivacySound) :
    ({ data with version }.apply old).PrivacySound ↔ params.hides = false := by
  obtain ⟨hstatus, hprivate, hpublished⟩ := UpdateActionParams.data_ok h.data_ok
  have hdraft : decide (data.status.getD old.status = .draft) =
      (params.status.map fun status => decide (status = .draft)).getD
        (decide (old.status = .draft)) := by
    rw [hstatus]
    cases params.status <;> rfl
  have hnew : ({ data with version }.apply old).PrivacySound ↔
      PrivacySound old.authorUserId (data.isPrivate.getD old.isPrivate)
        (data.status.getD old.status = .draft) (data.publishedAt.getD old.publishedAt) := Iff.rfl
  rw [hnew, hdraft, hprivate, hpublished, hold.update_iff _ _ _ fun hsome =>
    decide_eq_true (h.isDraft hsome), params.hides_eq_false]

section
variable {store store' : ActionStore}

theorem ActionKeep.private (h : ActionKeep context store store')
    (hprivate : ActionsPrivate store) : ActionsPrivate store' := by
  cases h with
  | same hsame => exact hsame ▸ hprivate
  | change old new hwrite hchange =>
    refine (hwrite.forall_iff hprivate).2 ?_
    have hold := hprivate old hwrite.mem
    cases hchange with
    | publish => exact .published
    | returnToDraft => exact .draft
    | complete completedVia hpublic hstatus =>
      refine .of (fun hprivate => ?_) ?_
      · cases hpublic.symm.trans hprivate
      · simpa [hstatus] using hold.dated
    | duplicate => exact hold
    | archive => exact hold

theorem ActionEffect.private (h : ActionEffect context false store store')
    (hprivate : ActionsPrivate store) : ActionsPrivate store' := by
  cases h with
  | keep hkeep => exact hkeep.private hprivate
  | read action hfound hread => exact hread ▸ hprivate
  | create row isPrivate hnew hversion hrowPrivate hstatus hpublished hrows =>
    intro action haction
    rw [hrows, List.mem_append, List.mem_singleton] at haction
    rcases haction with haction | rfl
    · exact hprivate action haction
    rw [Action.PrivacySound, hrowPrivate, hstatus, hpublished]
    cases isPrivate with
    | false => exact .published
    | true => exact .draft
  | edit params old data versions version hhides hedit =>
    have hold := hprivate old hedit.write.mem
    exact (hedit.write.forall_iff hprivate).2 ((hedit.privacySound_iff hold).2 hhides)

theorem ActionLink.private (h : ActionLink context store store')
    (hprivate : ActionsPrivate store) : ActionsPrivate store' := by
  obtain ⟨related, old, new, _, _, _, _, _, _, _, _, hwrite, hnew⟩ := h
  have hold := hprivate old hwrite.mem
  exact (hwrite.forall_iff hprivate).2 (hnew ▸ hold)

theorem ActionMerge.private (h : ActionMerge context store store')
    (hprivate : ActionsPrivate store) : ActionsPrivate store' := by
  obtain ⟨old, new, _, _, _, _, _, hwrite, hnew⟩ := h
  have hold := hprivate old hwrite.mem
  exact (hwrite.forall_iff hprivate).2 (hnew ▸ hold)

theorem ActionEffects.private (h : ActionEffects context false store store')
    (hprivate : ActionsPrivate store) : ActionsPrivate store' := by
  cases h with
  | one heffect => exact heffect.private hprivate
  | links hlinks =>
    induction hlinks with
    | refl => exact hprivate
    | tail _ hlink ih => exact hlink.private ih
  | merge store₁ store₂ hmerge hduplicate harchive =>
    exact harchive.private (hduplicate.private (hmerge.private hprivate))

/-- **When a step keeps the actions private.** It does exactly when it does not publish an action
that it makes private. -/
theorem ActionStep.apply_private_iff (step : ActionStep) (hprivate : ActionsPrivate store) :
    ActionsPrivate (step.apply store) ↔ ¬ step.Hides store := by
  rcases step.apply_cases store with ⟨hsame, hfails⟩ | ⟨hok, hsucceeds⟩
  · rw [hsame]
    exact iff_of_true hprivate fun h => hfails h.1
  cases hhides : step.transaction.hides with
  | false =>
    have heffects := (ActionTransaction.perform_effects hok).1
    rw [hhides] at heffects
    exact iff_of_true (heffects.private hprivate) fun h => nomatch hhides.symm.trans h.2
  | true =>
    refine iff_of_false (fun hprivate' => ?_) fun h => h ⟨hsucceeds, hhides⟩
    cases htransaction : step.transaction with
    | update params =>
      rw [htransaction] at hok hhides
      obtain ⟨⟨old, data, versions, version, hedit⟩, _⟩ := updateActionRecord_edit hok
      have hold := hprivate old hedit.write.mem
      have hnew := (hedit.write.forall_iff hprivate).1 hprivate'
      cases ((hedit.privacySound_iff hold).1 hnew).symm.trans hhides
    | _ => simp [htransaction, ActionTransaction.hides] at hhides

end

end

/-! ## Runs -/

/-- **The privacy of work items.** Over a run of transactions all tensions and all actions stay
sound, exactly as long as no update succeeds that publishes a draft and makes it private. -/
theorem work_items_private_iff (tensionSteps : List TensionStep) (actionSteps : List ActionStep) :
    ((∀ done, done <+: tensionSteps → TensionsPrivate (runTensionSteps done)) ↔
      ∀ done step, done ++ [step] <+: tensionSteps → ¬ step.Hides (runTensionSteps done)) ∧
    ((∀ done, done <+: actionSteps → ActionsPrivate (runActionSteps done)) ↔
      ∀ done step, done ++ [step] <+: actionSteps → ¬ step.Hides (runActionSteps done)) := by
  constructor
  · refine List.forall_prefix_foldl_iff ?_ (fun store step => step.apply_private_iff) tensionSteps
    exact fun _ h => absurd h List.not_mem_nil
  · refine List.forall_prefix_foldl_iff ?_ (fun store step => step.apply_private_iff) actionSteps
    exact fun _ h => absurd h List.not_mem_nil

/-- A member of a workspace, its own only human. -/
def memberContext : WorkItemContext where
  actor := .user (.lit "user") (.lit "user@example.com") none
  membership := some ⟨.lit "member", .lit "workspace", .lit "user", .contributor, true⟩
  now := 1000
  readable := fun _ => true
  activeMember := fun id => id = .lit "member"
  activeHuman := fun id => id = .lit "member"
  visibleProposal := fun _ => false
  authorUserId := .lit "user"
  uuid := .lit "item"
  normalizeDuplicateGuardText := fun text => text

/-- A draft that its author publishes and asks to be private. -/
def exampleTensionSteps : List TensionStep :=
  [⟨memberContext, .create { workspaceId := .lit "workspace", title := .lit "Tension" }⟩,
    ⟨memberContext, .update {
      workspaceId := .lit "workspace", tensionId := .lit "item"
      status := some .opened, isPrivate := some true }⟩]

/-- The same on an action, which somebody has to be responsible for. -/
def exampleActionSteps : List ActionStep :=
  [⟨memberContext, .create {
      workspaceId := .lit "workspace", title := .lit "Action"
      assigneeMemberId := some (.lit "member") }⟩,
    ⟨memberContext, .update {
      workspaceId := .lit "workspace", actionId := .lit "item"
      status := some .opened, isPrivate := some true }⟩]

/-- A published draft can be private: then its author does not see it any more. -/
theorem not_work_items_private :
    (∃ tension ∈ (runTensionSteps exampleTensionSteps).items.rows,
      tension.isPrivate ∧ tension.status = .opened ∧
        ¬ privacyFilter memberContext.actor memberContext.membership tension.isPrivate
          (tension.status = .draft) (some tension.authorUserId)) ∧
    ∃ action ∈ (runActionSteps exampleActionSteps).items.rows,
      action.isPrivate ∧ action.status = .opened ∧
        ¬ privacyFilter memberContext.actor memberContext.membership action.isPrivate
          (action.status = .draft) (some action.authorUserId) := by
  decide +kernel

end Corgtex.Domain
