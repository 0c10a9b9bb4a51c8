import Corgtex.Library.JsString
import Corgtex.Library.KeyedTable
import Corgtex.Library.Runs

/-!
# Purging CRM records

`purgeWorkspaceArtifact` (`archive.ts:1063`) deletes an account, a contact or a
deal only if no activity is linked through it alone (`requireNoActivityOrphan`). The deletion sets
the links to it to null and takes the deals of a contact with it. The check locks the row of the
record and no activity, so another purge may take an activity's other link before the deletion. An
activity keeps a link as long as that does not happen (`Undisturbed`).
-/

namespace Corgtex.Domain.CrmPurge

open JsString KeyedTable

/-! ## Records -/

structure CrmAccount where
  id : JsString
  workspaceId : JsString
  archived : Bool
deriving DecidableEq

structure CrmContact where
  id : JsString
  workspaceId : JsString
  accountId : Option JsString
  archived : Bool
deriving DecidableEq

structure CrmDeal where
  id : JsString
  workspaceId : JsString
  accountId : Option JsString
  contactId : JsString
  archived : Bool
deriving DecidableEq

structure CrmActivity where
  id : JsString
  workspaceId : JsString
  accountId : Option JsString
  contactId : Option JsString
  dealId : Option JsString
  archived : Bool
deriving DecidableEq

/-- The CRM tables; what is archived has its active archive record. -/
structure CrmStore where
  accounts : KeyedTable CrmAccount CrmAccount.id
  contacts : KeyedTable CrmContact CrmContact.id
  deals : KeyedTable CrmDeal CrmDeal.id
  activities : KeyedTable CrmActivity CrmActivity.id

/-- `CRM_ARCHIVE_ENTITY_TYPES` (line 164). -/
inductive CrmEntityType
  | CrmAccount | CrmContact | CrmDeal | CrmActivity
deriving DecidableEq, Repr

/-- A record by its type and id. -/
structure CrmKey where
  entityType : CrmEntityType
  id : JsString
deriving DecidableEq

def CrmActivity.Linked (activity : CrmActivity) : Prop :=
  activity.accountId.isSome ∨ activity.contactId.isSome ∨ activity.dealId.isSome

namespace CrmStore

variable (store : CrmStore) (key : CrmKey) (workspaceId : JsString) (activity : CrmActivity)

/-- `findRecord` and the check of the mark (line 1077). -/
def isPurgeable : Bool :=
  match key.entityType with
  | .CrmAccount => (store.accounts.find? key.id).any fun record =>
      record.workspaceId = workspaceId && record.archived
  | .CrmContact => (store.contacts.find? key.id).any fun record =>
      record.workspaceId = workspaceId && record.archived
  | .CrmDeal => (store.deals.find? key.id).any fun record =>
      record.workspaceId = workspaceId && record.archived
  | .CrmActivity => (store.activities.find? key.id).any fun record =>
      record.workspaceId = workspaceId && record.archived

def has : Bool :=
  match key.entityType with
  | .CrmAccount => (store.accounts.find? key.id).isSome
  | .CrmContact => (store.contacts.find? key.id).isSome
  | .CrmDeal => (store.deals.find? key.id).isSome
  | .CrmActivity => (store.activities.find? key.id).isSome

/-- `deal: { contactId }`. -/
def dealOf (contactId : JsString) : Bool :=
  activity.dealId.any fun dealId => (store.deals.find? dealId).any (·.contactId = contactId)

/-- The `where` of `requireNoActivityOrphan` but for the workspace (line 201). -/
def solelyLinked : Bool :=
  match key.entityType with
  | .CrmDeal => activity.accountId = none && activity.contactId = none &&
      activity.dealId = some key.id
  | .CrmContact => activity.accountId = none &&
      ((activity.contactId = some key.id &&
          (activity.dealId = none || store.dealOf activity key.id)) ||
        (activity.contactId = none && store.dealOf activity key.id))
  | .CrmAccount => activity.accountId = some key.id && activity.contactId = none &&
      activity.dealId = none
  | .CrmActivity => false

/-- `requireNoActivityOrphan` (line 197). -/
def requireNoActivityOrphan : Bool :=
  store.activities.rows.all fun activity =>
    !(activity.workspaceId = workspaceId && store.solelyLinked key activity)

/-- The links of an activity after the deletion (`onDelete: SetNull`). -/
def unlink : CrmActivity :=
  match key.entityType with
  | .CrmAccount =>
    { activity with
      accountId := if activity.accountId = some key.id then none else activity.accountId }
  | .CrmContact =>
    { activity with
      contactId := if activity.contactId = some key.id then none else activity.contactId
      dealId := if store.dealOf activity key.id then none else activity.dealId }
  | .CrmDeal =>
    { activity with dealId := if activity.dealId = some key.id then none else activity.dealId }
  | .CrmActivity => activity

theorem unlink_id : (store.unlink key activity).id = activity.id := by
  rw [unlink]
  split <;> rfl

/-- `delete` with what the schema makes of it: links to the record become null, and the deals of a
contact go with it (`onDelete: Cascade`). -/
def delete : CrmStore :=
  let unlinked := store.activities.updateMany (fun _ => true) (store.unlink key)
    (store.unlink_id key)
  match key.entityType with
  | .CrmAccount =>
    { accounts := store.accounts.filter fun record => record.id ≠ key.id
      contacts := store.contacts.updateMany (·.accountId = some key.id)
        (fun record => { record with accountId := none }) fun _ => rfl
      deals := store.deals.updateMany (·.accountId = some key.id)
        (fun record => { record with accountId := none }) fun _ => rfl
      activities := unlinked }
  | .CrmContact =>
    { store with
      contacts := store.contacts.filter fun record => record.id ≠ key.id
      deals := store.deals.filter fun record => record.contactId ≠ key.id
      activities := unlinked }
  | .CrmDeal =>
    { store with
      deals := store.deals.filter fun record => record.id ≠ key.id
      activities := unlinked }
  | .CrmActivity =>
    { store with activities := store.activities.filter fun record => record.id ≠ key.id }

/-- The other rows that the deletion writes, apart from activities. -/
def cascades : List CrmKey :=
  match key.entityType with
  | .CrmAccount =>
    ((store.contacts.rows.filter (·.accountId = some key.id)).map fun record =>
        ⟨.CrmContact, record.id⟩) ++
      (store.deals.rows.filter (·.accountId = some key.id)).map fun record =>
        ⟨.CrmDeal, record.id⟩
  | .CrmContact => (store.deals.rows.filter (·.contactId = key.id)).map fun record =>
      ⟨.CrmDeal, record.id⟩
  | .CrmDeal | .CrmActivity => []

end CrmStore

/-! ## Calls -/

/-- A call of `purgeWorkspaceArtifact` under way, and the state of the tables when it has checked
the activities. -/
structure PurgeCall where
  call : Nat
  key : CrmKey
  workspaceId : JsString
  checked : Option CrmStore

structure PurgeState where
  store : CrmStore
  calls : KeyedTable PurgeCall PurgeCall.call

/-- A step of a call: its lock and its reads, the check of the activities with the lock of the row,
the deletion with the commit, or an end without it, because something throws. -/
inductive PurgeStep
  | read (call : Nat) (key : CrmKey) (workspaceId : JsString)
  | check (call : Nat)
  | commit (call : Nat)
  | abort (call : Nat)

/-- The activity is linked to the record, or to a deal of it. -/
def CrmStore.linkedTo (store : CrmStore) (key : CrmKey) (activity : CrmActivity) : Bool :=
  match key.entityType with
  | .CrmAccount => activity.accountId = some key.id
  | .CrmContact => activity.contactId = some key.id || store.dealOf activity key.id
  | .CrmDeal => activity.dealId = some key.id
  | .CrmActivity => false

namespace PurgeState

variable (state : PurgeState)

/-- No activity that the record takes a link from has lost another one since the check, or is of
another workspace. -/
def Undisturbed : PurgeStep → Prop
  | .commit call => ∀ c checked, state.calls.find? call = some c → c.checked = some checked →
      ∀ activity ∈ state.store.activities.rows, state.store.linkedTo c.key activity = true →
        activity.workspaceId = c.workspaceId ∧ checked.activities.find? activity.id = some activity
  | _ => True

def endCall (call : Nat) : PurgeState :=
  { state with calls := state.calls.filter fun c => c.call ≠ call }

/-- The deletion waits for a row that the check of another call has locked (`FOR UPDATE`). -/
def waits (c : PurgeCall) : Bool :=
  state.calls.rows.any fun other => other.call ≠ c.call && other.checked.isSome &&
    other.key ∈ state.store.cascades c.key

def apply : PurgeStep → PurgeState
  | .read call key workspaceId =>
    -- the advisory lock of the record
    if (state.calls.find? call).isSome || state.calls.rows.any (·.key = key) then state
    else if state.store.isPurgeable key workspaceId then
      { state with calls := state.calls.set ⟨call, key, workspaceId, none⟩ }
    else state
  | .check call =>
    match state.calls.find? call with
    | some c =>
      if c.checked.isSome then state
      else if c.key.entityType = .CrmActivity ||
        state.store.requireNoActivityOrphan c.key c.workspaceId then
        { state with calls := state.calls.set { c with checked := some state.store } }
      else state.endCall call
    | none => state
  | .commit call =>
    match state.calls.find? call with
    | some c =>
      if c.checked.isNone || state.waits c then state
      else if state.store.has c.key then
        { state with store := state.store.delete c.key }.endCall call
      else state.endCall call
    | none => state
  | .abort call => state.endCall call

def run (steps : List PurgeStep) : PurgeState := steps.foldl apply state

end PurgeState

/-! ## Links -/

section
variable {store store' : CrmStore} {key : CrmKey} {activity : CrmActivity}

/-- A link that is set to null was null or to the record. -/
theorem unlinked_eq_none_iff {link : Option JsString} {id : JsString} :
    (if link = some id then none else link) = none ↔ link = none ∨ link = some id := by
  by_cases h : link = some id <;> simp [h]

/-- **An activity that is not linked through the record alone** keeps a link. -/
theorem linked_unlink (hlinked : activity.Linked)
    (hsole : store.solelyLinked key activity = false) : (store.unlink key activity).Linked := by
  obtain ⟨entityType, id⟩ := key
  by_contra hnot
  rw [CrmActivity.Linked] at hnot hlinked
  simp only [not_or, Option.not_isSome_iff_eq_none] at hnot
  obtain ⟨haccount, hcontact, hdeal⟩ := hnot
  cases entityType with
  | CrmAccount =>
    simp only [CrmStore.unlink, unlinked_eq_none_iff] at haccount hcontact hdeal
    rcases haccount with haccount | haccount <;>
      simp [CrmStore.solelyLinked, haccount, hcontact, hdeal] at hsole hlinked
  | CrmContact =>
    simp only [CrmStore.unlink, unlinked_eq_none_iff] at haccount hcontact hdeal
    by_cases hof : store.dealOf activity id = true
    · rcases hcontact with hcontact | hcontact <;>
        simp [CrmStore.solelyLinked, haccount, hcontact, hof] at hsole
    · rw [if_neg hof] at hdeal
      rcases hcontact with hcontact | hcontact <;>
        simp [CrmStore.solelyLinked, haccount, hcontact, hdeal] at hsole hlinked
  | CrmDeal =>
    simp only [CrmStore.unlink, unlinked_eq_none_iff] at haccount hcontact hdeal
    rcases hdeal with hdeal | hdeal <;>
      simp [CrmStore.solelyLinked, haccount, hcontact, hdeal] at hsole hlinked
  | CrmActivity =>
    simp only [CrmStore.unlink] at haccount hcontact hdeal
    simp [haccount, hcontact, hdeal] at hlinked

theorem linked_delete (hlinked : ∀ activity ∈ store.activities.rows, activity.Linked)
    (hsole : ∀ activity ∈ store.activities.rows, store.solelyLinked key activity = false) :
    ∀ activity ∈ (store.delete key).activities.rows, activity.Linked := by
  have hunlinked : ∀ activity ∈ (store.activities.updateMany (fun _ => true) (store.unlink key)
      (store.unlink_id key)).rows, activity.Linked := by
    intro activity hactivity
    obtain ⟨before, hbefore, rfl⟩ := List.mem_map.1 hactivity
    rw [if_pos rfl]
    exact linked_unlink (hlinked before hbefore) (hsole before hbefore)
  intro activity hactivity
  rw [CrmStore.delete] at hactivity
  split at hactivity
  · exact hunlinked activity hactivity
  · exact hunlinked activity hactivity
  · exact hunlinked activity hactivity
  · exact hlinked activity (mem_filter.1 hactivity).1

/-- The deals of the later state were there before, with their contacts. -/
def CrmStore.Shrinks (store store' : CrmStore) : Prop :=
  ∀ id deal, store'.deals.find? id = some deal →
    ∃ before, store.deals.find? id = some before ∧ before.contactId = deal.contactId

theorem CrmStore.Shrinks.refl : store.Shrinks store := fun _ deal hdeal => ⟨deal, hdeal, rfl⟩

theorem CrmStore.Shrinks.trans {store'' : CrmStore} (h : store.Shrinks store')
    (h' : store'.Shrinks store'') : store.Shrinks store'' := by
  intro id deal hdeal
  obtain ⟨middle, hmiddle, hsame⟩ := h' id deal hdeal
  obtain ⟨before, hbefore, hcontact⟩ := h id middle hmiddle
  exact ⟨before, hbefore, hcontact.trans hsame⟩

theorem shrinks_delete : store.Shrinks (store.delete key) := by
  intro id deal hdeal
  rw [CrmStore.delete] at hdeal
  split at hdeal
  · rw [find?_updateMany] at hdeal
    obtain ⟨before, hbefore, rfl⟩ := Option.map_eq_some_iff.1 hdeal
    refine ⟨before, hbefore, ?_⟩
    split <;> rfl
  · rw [find?_filter, Option.filter_eq_some_iff] at hdeal
    exact ⟨deal, hdeal.1, rfl⟩
  · rw [find?_filter, Option.filter_eq_some_iff] at hdeal
    exact ⟨deal, hdeal.1, rfl⟩
  · exact ⟨deal, hdeal, rfl⟩

/-- What is linked through the record alone now was so before, if its links are still the same. -/
theorem solelyLinked_of_shrinks {before : CrmActivity} (hshrinks : store.Shrinks store')
    (haccount : before.accountId = activity.accountId)
    (hcontact : before.contactId = activity.contactId) (hdeal : before.dealId = activity.dealId)
    (h : store'.solelyLinked key activity = true) : store.solelyLinked key before = true := by
  obtain ⟨entityType, id⟩ := key
  cases entityType with
  | CrmContact =>
    have hof : store'.dealOf activity id = true → store.dealOf before id = true := by
      simp only [CrmStore.dealOf, hdeal, Option.any_eq_true, decide_eq_true_eq]
      rintro ⟨dealId, hdealId, deal, hfound, rfl⟩
      obtain ⟨earlier, hearlier, hsame⟩ := hshrinks dealId deal hfound
      exact ⟨dealId, hdealId, earlier, hearlier, hsame⟩
    simp only [CrmStore.solelyLinked, haccount, hcontact, hdeal, Bool.and_eq_true, Bool.or_eq_true,
      decide_eq_true_eq] at h ⊢
    exact ⟨h.1, h.2.imp (And.imp_right (Or.imp_right hof)) (And.imp_right hof)⟩
  | _ =>
    simp only [CrmStore.solelyLinked, haccount, hcontact, hdeal] at h ⊢
    exact h

theorem linkedTo_of_solelyLinked (h : store.solelyLinked key activity = true) :
    store.linkedTo key activity = true := by
  obtain ⟨entityType, id⟩ := key
  cases entityType with
  | CrmAccount =>
    simp only [CrmStore.solelyLinked, Bool.and_eq_true] at h
    exact h.1.1
  | CrmContact =>
    simp only [CrmStore.solelyLinked, Bool.and_eq_true, Bool.or_eq_true] at h
    exact Bool.or_eq_true_iff.2 (h.2.imp And.left And.right)
  | CrmDeal =>
    simp only [CrmStore.solelyLinked, Bool.and_eq_true] at h
    exact h.2
  | CrmActivity => cases h

/-! ## Runs -/

namespace PurgeState

variable {state : PurgeState} {step : PurgeStep} {call : Nat}

/-- What a call that has checked knows: no activity was linked through its record alone, and deals
have only gone since. -/
def Checked (state : PurgeState) : Prop :=
  ∀ c ∈ state.calls.rows, ∀ checked, c.checked = some checked →
    checked.Shrinks state.store ∧ (c.key.entityType = .CrmActivity ∨
      checked.requireNoActivityOrphan c.key c.workspaceId = true)

theorem Checked.endCall (h : state.Checked) : (state.endCall call).Checked :=
  fun c hc => h c (mem_filter.1 hc).1

theorem Checked.set (h : state.Checked) {c : PurgeCall}
    (hc : ∀ checked, c.checked = some checked → checked.Shrinks state.store ∧
      (c.key.entityType = .CrmActivity ∨
        checked.requireNoActivityOrphan c.key c.workspaceId = true)) :
    Checked { state with calls := state.calls.set c } := by
  intro other hother
  have hfind := find?_key hother
  have hfind : (state.calls.set c).find? other.call = some other := hfind
  rw [find?_set] at hfind
  split at hfind
  · cases hfind
    exact hc
  · exact h other (find?_eq_some.1 hfind).1

/-- **What a check has found** stays known in every step. -/
theorem Checked.apply (h : state.Checked) : (state.apply step).Checked := by
  cases step with
  | read call key workspaceId =>
    rw [PurgeState.apply]
    split
    · exact h
    · split
      · exact h.set (by simp)
      · exact h
  | check call =>
    rw [PurgeState.apply]
    split
    · split
      · exact h
      · split
        · next hcheck =>
          refine h.set ?_
          rintro checked ⟨⟩
          rw [Bool.or_eq_true, decide_eq_true_eq] at hcheck
          exact ⟨.refl, hcheck⟩
        · exact h.endCall
    · exact h
  | commit call =>
    rw [PurgeState.apply]
    split
    · split
      · exact h
      · split
        · refine Checked.endCall fun c hc checked hchecked => ?_
          exact (h c hc checked hchecked).imp_left fun hshrinks => hshrinks.trans shrinks_delete
        · exact h.endCall
    · exact h
  | abort call => exact h.endCall

/-- **An undisturbed step** leaves every activity a link. -/
theorem linked_apply (hchecked : state.Checked)
    (hlinked : ∀ activity ∈ state.store.activities.rows, activity.Linked)
    (hundisturbed : state.Undisturbed step) :
    ∀ activity ∈ (state.apply step).store.activities.rows, activity.Linked := by
  cases step with
  | read call key workspaceId =>
    rw [PurgeState.apply]
    split
    · exact hlinked
    · split <;> exact hlinked
  | check call =>
    rw [PurgeState.apply]
    split
    · split
      · exact hlinked
      · split <;> exact hlinked
    · exact hlinked
  | abort call => exact hlinked
  | commit call =>
    rw [PurgeState.apply]
    split
    · next c hc =>
      split
      · exact hlinked
      · next hready =>
        split
        · obtain ⟨checked, hsome⟩ : ∃ checked, c.checked = some checked := by
            rw [Bool.or_eq_true, not_or, Option.isNone_iff_eq_none] at hready
            exact Option.ne_none_iff_exists'.1 hready.1
          refine linked_delete hlinked fun activity hactivity => ?_
          by_contra hsole
          rw [Bool.not_eq_false] at hsole
          obtain ⟨hshrinks, hpassed⟩ := hchecked c (find?_eq_some.1 hc).1 checked hsome
          obtain ⟨hworkspace, hsame⟩ := hundisturbed c checked hc hsome activity hactivity
            (linkedTo_of_solelyLinked hsole)
          rcases hpassed with hactivityKey | hpassed
          · rw [CrmStore.solelyLinked, hactivityKey] at hsole
            cases hsole
          · -- the check would have found the activity
            have hbefore := solelyLinked_of_shrinks hshrinks rfl rfl rfl hsole
            have hnot := List.all_eq_true.1 hpassed activity (find?_eq_some.1 hsame).1
            simp [hworkspace, hbefore] at hnot
        · exact hlinked
    · exact hlinked

end PurgeState

end

/-- **No CRM activity is orphaned** in a run in which no activity loses a link between the check and
the commit of a purge that takes another. -/
theorem no_activity_orphaned (store : CrmStore)
    (hlinked : ∀ activity ∈ store.activities.rows, activity.Linked) (steps : List PurgeStep)
    (hundisturbed : ∀ done step, done ++ [step] <+: steps →
      (PurgeState.run ⟨store, .empty⟩ done).Undisturbed step) :
    ∀ done, done <+: steps →
      ∀ activity ∈ (PurgeState.run ⟨store, .empty⟩ done).store.activities.rows,
        activity.Linked := by
  have hrun := List.forall_prefix_foldl
    (I := fun state : PurgeState => state.Checked ∧
      ∀ activity ∈ state.store.activities.rows, activity.Linked)
    ⟨fun c hc => absurd hc List.not_mem_nil, hlinked⟩
    (fun _ _ h hfine => ⟨h.1.apply, PurgeState.linked_apply h.1 h.2 hfine⟩) hundisturbed
  exact fun done hpre => (hrun done hpre).2

/-! ## Two purges at a time -/

/-- An account, a contact and an activity that is linked to both. -/
def sampleCrm : CrmStore where
  accounts := ⟨[⟨lit "a", lit "w", true⟩], by simp⟩
  contacts := ⟨[⟨lit "c", lit "w", none, true⟩], by simp⟩
  deals := .empty
  activities := ⟨[⟨lit "x", lit "w", some (lit "a"), some (lit "c"), none, false⟩], by simp⟩

theorem linked_sampleCrm : ∀ activity ∈ sampleCrm.activities.rows, activity.Linked := by
  intro activity hactivity
  obtain rfl := List.mem_singleton.1 hactivity
  exact .inl rfl

/-- The purge of the account, which leaves the activity the contact. -/
def purgeAccount : List PurgeStep := [.read 0 ⟨.CrmAccount, lit "a"⟩ (lit "w"), .check 0, .commit 0]

/-- The contact cannot be purged after the account. -/
theorem no_activity_orphaned_account :
    (PurgeState.run ⟨sampleCrm, .empty⟩ purgeAccount).store.activities.rows.Forall
      CrmActivity.Linked := by
  refine List.forall_iff_forall_mem.2 (no_activity_orphaned sampleCrm linked_sampleCrm purgeAccount
    (List.forall_steps_cons.2 ⟨trivial, List.forall_steps_cons.2 ⟨trivial,
      List.forall_steps_cons.2 ⟨?_, List.forall_steps_nil⟩⟩⟩) purgeAccount List.prefix_rfl)
  · have hread : (PurgeState.run ⟨sampleCrm, .empty⟩ [.read 0 ⟨.CrmAccount, lit "a"⟩ (lit "w"),
        .check 0]).calls.find? 0 =
          some ⟨0, ⟨.CrmAccount, lit "a"⟩, lit "w", some sampleCrm⟩ := by rfl
    intro c checked hc hchecked activity hactivity _
    cases hread.symm.trans hc
    cases hchecked
    obtain rfl := List.mem_singleton.1 hactivity
    exact ⟨rfl, by decide +kernel⟩

/-- **Two purges that check before either deletes** leave an activity without a link. -/
theorem not_no_activity_orphaned :
    (PurgeState.run ⟨sampleCrm, .empty⟩
      [.read 0 ⟨.CrmAccount, lit "a"⟩ (lit "w"), .read 1 ⟨.CrmContact, lit "c"⟩ (lit "w"),
        .check 0, .check 1, .commit 0, .commit 1]).store.activities.rows =
      [⟨lit "x", lit "w", none, none, none, false⟩] ∧
    ¬ CrmActivity.Linked ⟨lit "x", lit "w", none, none, none, false⟩ := by
  refine ⟨by decide +kernel, by simp [CrmActivity.Linked]⟩

end Corgtex.Domain.CrmPurge
