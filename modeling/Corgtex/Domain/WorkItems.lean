import Corgtex.Domain.DuplicateGuard
import Corgtex.Domain.WorkItemVersions
import Corgtex.Library.JsNumber

/-!
# What the work items share

The parts of `tensions.ts`, `actions.ts` and `archive.ts` that do not depend on
the type of the item: what a request reads of other tables, the members and proposals that it may
name, and the numbers that it may pass as an expected version.
-/

namespace Corgtex.Domain

/-- What a request on tensions or actions brings along or reads of other tables. -/
structure WorkItemContext where
  actor : AppActor
  membership : Option MembershipSummary
  now : Int
  /-- The items that `readableArtifactIds` admits. -/
  readable : JsString → Bool
  /-- The active members, and the active human members, of the workspace. -/
  activeMember : JsString → Bool
  activeHuman : JsString → Bool
  /-- The proposals of the workspace that are not archived and pass `privacyFilter`. -/
  visibleProposal : JsString → Bool
  /-- The user that an agent's item is attributed to. -/
  authorUserId : JsString
  /-- The id that a new row gets. -/
  uuid : JsString
  normalizeDuplicateGuardText : JsString → JsString

/-- The rows of one type of item, their version history, and the rows that requests for a proposal
have read to link them. -/
structure ItemStore {α : Type} (σ : Type) (key : α → JsString) where
  items : KeyedTable α key
  versions : WorkItemVersionTable σ
  reads : List α

namespace ItemStore

variable {α σ : Type} {key : α → JsString}

def empty : ItemStore σ key := ⟨.empty, .empty, []⟩

/-- `update({ where: { id }, data })`. -/
def updateRow (store : ItemStore σ key) (id : JsString) (data : α → α)
    (hkey : ∀ row, key (data row) = key row) : ItemStore σ key :=
  { store with items := store.items.update id data hkey }

def findItem (store : ItemStore σ key) (workspaceOf : α → JsString) (workspaceId id : JsString)
    (missing : AppError) : Except AppError α :=
  match (store.items.find? id).filter fun item => workspaceOf item = workspaceId with
  | none => throw missing
  | some item => return item

end ItemStore

/-- `requireCreationInputRoots` (`draft-permissions.ts:55`), past the roots of the inputs. -/
def requireCreationInputRoots (actor : AppActor) (isPrivate : Bool) : Except AppError Unit :=
  invariant (actor.userId?.isSome || !isPrivate) 403 "PRIVATE_AGENT_ARTIFACT_UNSUPPORTED"
    "Private drafts require a current human owner; credentials cannot own private drafts."

/-- What `resolveRaisedByMemberId`, `resolveResponsibleMemberId` (`tensions.ts:88`) and
`resolveAssigneeMemberId` (`actions.ts:167`) have in common. -/
def resolveMemberId (active : JsString → Bool) (message : String) (memberId : Option JsString) :
    Except AppError (Option JsString) :=
  match memberId.bind JsString.orNull with
  | none => return none
  | some memberId => do
    invariant (active memberId) 400 "INVALID_INPUT" message
    return some memberId

/-- `resolveWorkspaceProposalLink` (`proposal-links.ts:6`). -/
def resolveWorkspaceProposalLink (context : WorkItemContext) (proposalId : Option JsString) :
    Except AppError (Option JsString) :=
  match JsString.trimOrNull proposalId with
  | none => return none
  | some proposalId => do
    invariant (context.visibleProposal proposalId) 404 "NOT_FOUND" "Linked proposal not found."
    return some proposalId

/-- Stores an item under its version if content changes, and returns the next version. -/
def recordContentVersion {σ : Type} (versions : WorkItemVersionTable σ) (actor : AppActor)
    (params : RecordVersionParams σ) : Except AppError (WorkItemVersionTable σ × Option Nat) :=
  if params.changedFields = [] then
    return (versions, none)
  else do
    let (versions, newVersion) ← recordWorkItemVersion versions actor params
    return (versions, some newVersion)

/-- Whether the archive requests take a number for an `expectedVersion` (`archive.ts:757`). -/
def isArchiveVersion (expectedVersion : ℚ) : Bool :=
  expectedVersion.den = 1 && JsNumber.isSafeInteger expectedVersion.num && 0 < expectedVersion

/-- The answer to an archive request that has met another version than the one it was made for. -/
def recordReload : String := "The record changed. Reload and try again."

/-- One row has become another one, and the version history is now `versions`. -/
structure ItemWrite {α σ : Type} {key : α → JsString} (store : ItemStore σ key)
    (versions : WorkItemVersionTable σ) (old new : α) (store' : ItemStore σ key) : Prop where
  found : store.items.find? (key old) = some old
  find : ∀ a, store'.items.find? a = if a = key old then some new else store.items.find? a
  key_eq : key new = key old
  versions_eq : store'.versions = versions
  reads_eq : store'.reads = store.reads

section
variable {α σ : Type} {key : α → JsString} {store : ItemStore σ key} {old item : α}
  {versions : WorkItemVersionTable σ}

theorem ItemWrite.refl (hfound : store.items.find? (key old) = some old) :
    ItemWrite store store.versions old old store := by
  refine ⟨hfound, fun a => ?_, rfl, rfl, rfl⟩
  split
  · next ha => rw [ha, hfound]
  · rfl

section
variable {data : α → α} {hkey : ∀ row, key (data row) = key row}
  (hfound : store.items.find? (key old) = some old)
include hfound

theorem ItemWrite.updateRow : ItemWrite store versions old (data old)
      ({ store with versions }.updateRow (key old) data hkey) := by
  refine ⟨hfound, fun a => ?_, hkey old, rfl, rfl⟩
  split
  · next ha =>
    rw [ha]
    exact (KeyedTable.find?_update_self hkey).trans (congrArg (Option.map data) hfound)
  · next ha => exact KeyedTable.find?_update_of_ne hkey ha

theorem ItemWrite.of_updateRow :
    ItemWrite store store.versions old (data old) (store.updateRow (key old) data hkey) :=
  .updateRow hfound

end

/-- What a request expects of the version of an item, as a fact about the rows. -/
theorem ItemStore.expects_map {expectedVersion : Option ℚ} {id : JsString}
    {version : α → Nat} (h : ∀ e, expectedVersion = some e →
      ∃ item, store.items.find? id = some item ∧ e = version item) :
    ∀ a e, (expectedVersion.map fun e => (id, e)) = some (a, e) →
      ∃ item, store.items.find? a = some item ∧ e = version item := by
  intro a e hexpects
  obtain ⟨expected, hexpected, heq⟩ := Option.map_eq_some_iff.1 hexpects
  obtain ⟨rfl, rfl⟩ := Prod.mk.inj heq
  exact h expected hexpected

theorem ItemStore.findItem_ok {workspaceOf : α → JsString} {workspaceId id : JsString}
    {missing : AppError} (h : store.findItem workspaceOf workspaceId id missing = .ok item) :
    store.items.find? (key item) = some item ∧ key item = id := by
  unfold findItem at h
  split at h
  · cases h
  · next found hfound =>
    obtain rfl := Except.ok.inj h
    have hrow := (Option.filter_eq_some_iff.1 hfound).1
    have hkey := (KeyedTable.find?_eq_some.1 hrow).2
    exact ⟨hkey ▸ hrow, hkey⟩

end

theorem recordContentVersion_ok {σ : Type} {versions versions' : WorkItemVersionTable σ}
    {actor : AppActor} {params : RecordVersionParams σ} {next : Option Nat}
    (h : recordContentVersion versions actor params = .ok (versions', next)) :
    (params.changedFields = [] ∧ versions' = versions ∧ next = none) ∨
      (params.changedFields ≠ [] ∧ ∃ newVersion, next = some newVersion ∧
        recordWorkItemVersion versions actor params = .ok (versions', newVersion)) := by
  unfold recordContentVersion at h
  split at h
  · next hnil =>
    obtain ⟨rfl, rfl⟩ := Prod.mk.inj (Except.ok.inj h)
    exact .inl ⟨hnil, rfl, rfl⟩
  · next hchanged =>
    obtain ⟨⟨versions₁, newVersion⟩, hrecord, h⟩ := bind_ok.1 h
    obtain ⟨rfl, rfl⟩ := Prod.mk.inj (Except.ok.inj h)
    exact .inr ⟨hchanged, newVersion, rfl, hrecord⟩

end Corgtex.Domain
