import Corgtex.Domain.MemberMerge
import Corgtex.Library.MergingRegistry

/-!
# Whose an address is

Requests write aliases and merge members. For one workspace they are steps of a registry
(`Library.MergingRegistry`): the members that have not been merged have their own addresses and the
aliases that name them, and a merge hands the addresses of the source to the target.
`resolveWorkspaceMemberByEmail` finds in it who has an address (`resolve_ok`, `resolve_of_owns`), so
`identities_resolve` follows from what holds of registries.
-/

namespace Corgtex.Domain

open JsString Option ParentForest Relation

variable {platform : EmailPlatform}

/-! ## Members and addresses of a workspace -/

namespace MemberStore

variable (store : MemberStore platform) (workspaceId : JsString)

def findIn (id : JsString) : Option Member :=
  (store.members.find? id).filter fun member => member.workspaceId = workspaceId

/-- Whom a member of the workspace has been merged into. -/
def mergedInto (id : JsString) : Option JsString :=
  (store.findIn workspaceId id).bind Member.mergedIntoMemberId

/-- An alias of the workspace names the member. -/
def HasAlias (id email : JsString) : Prop :=
  ∃ normalized : NormalizedEmail platform, normalized.1 = email ∧
    store.aliasOwner (workspaceId, normalized) = some id

/-- The address is the member's own or its alias. -/
def Owns (member : Member) (email : JsString) : Prop :=
  store.findIn workspaceId member.id = some member ∧
    (member.user.email = email ∨ store.HasAlias workspaceId member.id email)

/-- The members that have not been merged, with their addresses. -/
def registry : Registry JsString JsString where
  has id email := ∃ member, member.id = id ∧ store.Owns workspaceId member email ∧
    member.mergedIntoMemberId = none
  into := store.mergedInto workspaceId
  active id := ∃ member, store.findIn workspaceId id = some member ∧ member.isActive = true

variable {store workspaceId} {id : JsString} {member : Member}

theorem findIn_eq_some : store.findIn workspaceId id = some member ↔
    store.members.find? id = some member ∧ member.workspaceId = workspaceId := by
  simp [findIn, filter_eq_some_iff]

theorem id_of_findIn (h : store.findIn workspaceId id = some member) : member.id = id :=
  (KeyedTable.find?_eq_some.1 (findIn_eq_some.1 h).1).2

variable {email : JsString}

theorem findIn_of_findByEmail {test : Member → Bool}
    (h : store.findByEmail workspaceId email test = some member) :
    store.findIn workspaceId member.id = some member ∧ test member = true ∧
      member.user.email = email := by
  have hpass := List.find?_some h
  simp only [Bool.and_eq_true, decide_eq_true_eq] at hpass
  obtain ⟨⟨hworkspace, htest⟩, hemail⟩ := hpass
  have hmem : member ∈ store.members.rows := List.mem_of_find?_eq_some h
  exact ⟨findIn_eq_some.2 ⟨KeyedTable.find?_key hmem, hworkspace⟩, htest, hemail⟩

theorem exists_findByEmail {test : Member → Bool} (h : store.findIn workspaceId id = some member)
    (htest : test member = true) (hemail : member.user.email = email) :
    ∃ found, store.findByEmail workspaceId email test = some found := by
  obtain ⟨hfound, hworkspace⟩ := findIn_eq_some.1 h
  have hmem := (KeyedTable.find?_eq_some.1 hfound).1
  refine isSome_iff_exists.1 (List.find?_isSome.2 ⟨member, hmem, ?_⟩)
  simp [hworkspace, htest, hemail]

end MemberStore

/-- What the tables of a workspace keep: addresses are normalized and distinct, a member that has
been merged is inactive, and an alias names a member of the workspace and is the own address of
nobody but members that have been merged. -/
structure Consistent (store : MemberStore platform) (workspaceId : JsString) : Prop where
  ids : ∀ id member, store.findIn workspaceId id = some member → id ≠ []
  normalized : ∀ id member, store.findIn workspaceId id = some member →
    member.user.email ≠ [] ∧ platform.normalizeEmail member.user.email = member.user.email
  distinct : ∀ id id' member member', store.findIn workspaceId id = some member →
    store.findIn workspaceId id' = some member' → member.user.email = member'.user.email → id = id'
  inactive : ∀ id member, store.findIn workspaceId id = some member →
    member.mergedIntoMemberId.isSome → member.isActive = false
  targets : ∀ id member, store.findIn workspaceId id = some member →
    member.mergedIntoMemberId ≠ some []
  owners : ∀ email id, store.aliasOwner (workspaceId, email) = some id →
    ∃ member, store.findIn workspaceId id = some member
  primaries : ∀ email id, store.aliasOwner (workspaceId, email) = some id →
    ∀ id' member, store.findIn workspaceId id' = some member → member.user.email = email.1 →
      member.mergedIntoMemberId.isSome

section
variable {store store' : MemberStore platform} {workspaceId : JsString} {id : JsString}
  {member : Member}

theorem Consistent.unmerged (h : Consistent store workspaceId)
    (hfound : store.findIn workspaceId id = some member) (hmerged : member.isMerged = false) :
    member.mergedIntoMemberId = none := by
  cases hinto : member.mergedIntoMemberId with
  | none => rfl
  | some target =>
    have htarget : target ≠ [] := fun he => h.targets id member hfound (he ▸ hinto)
    simp [Member.isMerged, hinto, orNull, htarget] at hmerged

/-- No address has two owners that have not been merged. -/
theorem Consistent.owns_unique (h : Consistent store workspaceId) {member' : Member}
    (howns : store.Owns workspaceId member email) (howns' : store.Owns workspaceId member' email)
    (hroot : member.mergedIntoMemberId = none) (hroot' : member'.mergedIntoMemberId = none) :
    member = member' := by
  have hsame : member.id = member'.id → member = member' := fun he =>
    some.inj (howns.1.symm.trans (he ▸ howns'.1))
  obtain ⟨hfound, hown | ⟨key, hkey, howner⟩⟩ := howns
  · obtain ⟨hfound', hown' | ⟨key, hkey, howner⟩⟩ := howns'
    · exact hsame (h.distinct _ _ _ _ hfound hfound' (hown.trans hown'.symm))
    · have hmerged := h.primaries key _ howner _ _ hfound (hown.trans hkey.symm)
      rw [hroot] at hmerged
      cases hmerged
  · obtain ⟨hfound', hown' | ⟨key', hkey', howner'⟩⟩ := howns'
    · have hmerged := h.primaries key _ howner _ _ hfound' (hown'.trans hkey.symm)
      rw [hroot'] at hmerged
      cases hmerged
    · rw [Subtype.ext (hkey.trans hkey'.symm), howner'] at howner
      exact hsame (some.inj howner).symm

/-! ## Resolution finds the owner -/

variable (h : Consistent store workspaceId) {includeInactive : Bool}
include h

theorem resolve_ok
    (hresolve : resolveWorkspaceMemberByEmail store workspaceId email includeInactive =
      .ok (some member)) :
    ∃ parsed, parseEmail platform email = .ok parsed ∧ store.Owns workspaceId member parsed.1 ∧
      (includeInactive || member.isActive) = true := by
  unfold resolveWorkspaceMemberByEmail at hresolve
  obtain ⟨parsed, hparsed, hresolve⟩ := bind_ok.1 hresolve
  refine ⟨parsed, hparsed, ?_⟩
  dsimp only at hresolve
  split at hresolve
  · next found hfound =>
    cases hresolve
    obtain ⟨hfound, hactive⟩ := filter_eq_some_iff.1 hfound
    obtain ⟨row, hrow, hmember⟩ := bind_eq_some_iff.1 hfound
    have howner : store.aliasOwner (workspaceId, parsed) = some row.memberId :=
      congrArg (Option.map MemberEmailAlias.memberId) hrow
    obtain ⟨other, hother⟩ := h.owners parsed _ howner
    cases (MemberStore.findIn_eq_some.1 hother).1.symm.trans hmember
    have hid := MemberStore.id_of_findIn hother
    exact ⟨⟨hid ▸ hother, .inr ⟨parsed, rfl, hid ▸ howner⟩⟩, hactive⟩
  · have hfound := Except.ok.inj hresolve
    obtain ⟨hfound, hactive, hemail⟩ := MemberStore.findIn_of_findByEmail hfound
    exact ⟨⟨hfound, .inl hemail⟩, hactive⟩

theorem resolve_of_owns {parsed : NormalizedEmail platform}
    (hparsed : parseEmail platform email = .ok parsed)
    (howns : store.Owns workspaceId member parsed.1) (hroot : member.mergedIntoMemberId = none)
    (hactive : (includeInactive || member.isActive) = true) :
    resolveWorkspaceMemberByEmail store workspaceId email includeInactive = .ok (some member) := by
  unfold resolveWorkspaceMemberByEmail
  refine bind_ok.2 ⟨parsed, hparsed, ?_⟩
  dsimp only
  obtain ⟨hfound, hown | ⟨key, hkey, howner⟩⟩ := howns
  · -- no alias holds the address of a member that has not been merged
    have hnone : store.aliases.find? (workspaceId, parsed) = none := by
      cases hrow : store.aliases.find? (workspaceId, parsed) with
      | none => rfl
      | some row =>
        have howner : store.aliasOwner (workspaceId, parsed) = some row.memberId :=
          congrArg (Option.map MemberEmailAlias.memberId) hrow
        have hmerged := h.primaries parsed _ howner _ _ hfound hown
        rw [hroot] at hmerged
        cases hmerged
    obtain ⟨found, hfind⟩ : ∃ found, store.findByEmail workspaceId parsed.1
        (fun member => includeInactive || member.isActive) = some found :=
      MemberStore.exists_findByEmail hfound hactive hown
    obtain ⟨hother, _, hemail⟩ := MemberStore.findIn_of_findByEmail hfind
    have hid := h.distinct _ _ _ _ hfound hother (hown.trans hemail.symm)
    rw [← hid, hfound] at hother
    cases hother
    simp only [hnone, bind_none, filter_none, hfind]
    rfl
  · cases Subtype.ext hkey
    obtain ⟨row, hrow, hmember⟩ := map_eq_some_iff.1 howner
    have hfind := (MemberStore.findIn_eq_some.1 hfound).1
    simp only [hrow, bind_some, hmember, hfind, filter_some, hactive, if_true]
    rfl

end

/-! ## Requests -/

/-- A request that writes an alias or merges two members. -/
inductive IdentityRequest
  | writeMemberEmailAlias (workspaceId memberId email source : JsString)
      (createdByUserId : Option JsString)
  | mergeWorkspaceMembers (context : MemberContext) (params : MergeWorkspaceMembersParams)

section
variable (store : MemberStore platform)

/-- The request, with the store that it leaves. -/
def IdentityRequest.perform : IdentityRequest → Except AppError (MemberStore platform)
  | .writeMemberEmailAlias workspaceId memberId email source createdByUserId => do
    let (_, store) ← Domain.writeMemberEmailAlias store
      { workspaceId, memberId, email, source, createdByUserId }
    return store
  | .mergeWorkspaceMembers context params => do
    let (_, store) ← Domain.mergeWorkspaceMembers store context params
    return store

/-- A request that fails leaves the store as it was. -/
def IdentityRequest.apply (request : IdentityRequest) : MemberStore platform :=
  match request.perform store with
  | .ok store' => store'
  | .error _ => store

/-- The store after a sequence of requests. -/
def runIdentityRequests (requests : List IdentityRequest) :
    MemberStore platform := requests.foldl IdentityRequest.apply store

end

section
variable {store store' : MemberStore platform} {workspaceId : JsString}

/-- A workspace whose members and aliases are the same is as consistent, with the same registry. -/
theorem Consistent.step_of_same (h : Consistent store workspaceId)
    (hmembers : ∀ id, store'.findIn workspaceId id = store.findIn workspaceId id)
    (haliases : ∀ email, store'.aliasOwner (workspaceId, email) =
      store.aliasOwner (workspaceId, email)) :
    Consistent store' workspaceId ∧
      (store.registry workspaceId).Step (store'.registry workspaceId) := by
  obtain ⟨ids, normalized, distinct, inactive, targets, owners, primaries⟩ := h
  refine ⟨⟨?_, ?_, ?_, ?_, ?_, ?_, ?_⟩, .keep ?_ ?_ ?_⟩
  · simpa only [hmembers] using ids
  · simpa only [hmembers] using normalized
  · simpa only [hmembers] using distinct
  · simpa only [hmembers] using inactive
  · simpa only [hmembers] using targets
  · simpa only [hmembers, haliases] using owners
  · simpa only [hmembers, haliases] using primaries
  · intro id email
    simp only [MemberStore.registry, MemberStore.Owns, MemberStore.HasAlias, hmembers, haliases]
  · funext id
    simp only [MemberStore.registry, MemberStore.mergedInto, hmembers]
  · intro id hactive
    simpa only [MemberStore.registry, hmembers] using hactive

theorem Consistent.step_of_alias (h : Consistent store workspaceId) {memberId : JsString}
    {member : Member} {email : NormalizedEmail platform}
    (hmember : store.findIn workspaceId memberId = some member)
    (hother : platform.normalizeEmail member.user.email ≠ email.1)
    (hprimary : ∀ primary ∈ store.findByEmail workspaceId email.1 fun _ => true,
      primary.id = memberId)
    (hexisting : ∀ owner ∈ store.aliasOwner (workspaceId, email), owner = memberId)
    (hmembers : ∀ id, store'.findIn workspaceId id = store.findIn workspaceId id)
    (haliases : ∀ address, store'.aliasOwner (workspaceId, address) =
      if address = email then some memberId else store.aliasOwner (workspaceId, address)) :
    Consistent store' workspaceId ∧
      (store.registry workspaceId).Step (store'.registry workspaceId) := by
  -- the address is nobody's own
  have hfree : ∀ id other, store.findIn workspaceId id = some other →
      other.user.email ≠ email.1 := by
    intro id other hfound hown
    obtain ⟨primary, hfind⟩ : ∃ primary, store.findByEmail workspaceId email.1
        (fun _ => true) = some primary := MemberStore.exists_findByEmail hfound rfl hown
    obtain ⟨hfoundPrimary, _, hprimaryOwn⟩ := MemberStore.findIn_of_findByEmail hfind
    rw [hprimary primary hfind, hmember] at hfoundPrimary
    cases hfoundPrimary
    exact hother (by rw [hprimaryOwn]; exact email.2.2)
  have halias : ∀ id address, store'.HasAlias workspaceId id address ↔
      store.HasAlias workspaceId id address ∨ id = memberId ∧ address = email.1 := by
    intro id address
    constructor
    · rintro ⟨key, rfl, howner⟩
      rw [haliases] at howner
      split at howner
      · next hkey => exact .inr ⟨(some.inj howner).symm, congrArg Subtype.val hkey⟩
      · exact .inl ⟨key, rfl, howner⟩
    · rintro (⟨key, rfl, howner⟩ | ⟨rfl, rfl⟩)
      · refine ⟨key, rfl, ?_⟩
        rw [haliases]
        split
        · next hkey => rw [hexisting id (hkey ▸ howner)]
        · exact howner
      · exact ⟨email, rfl, (haliases email).trans (if_pos rfl)⟩
  have hown : ∀ other address, store'.Owns workspaceId other address ↔
      store.Owns workspaceId other address ∨ other = member ∧ address = email.1 := by
    intro other address
    simp only [MemberStore.Owns, hmembers, halias]
    constructor
    · rintro ⟨hfound, hmail | hold | ⟨hid, hnew⟩⟩
      · exact .inl ⟨hfound, .inl hmail⟩
      · exact .inl ⟨hfound, .inr hold⟩
      · rw [hid, hmember] at hfound
        exact .inr ⟨(some.inj hfound).symm, hnew⟩
    · rintro (⟨hfound, hmail | hold⟩ | ⟨rfl, rfl⟩)
      · exact ⟨hfound, .inl hmail⟩
      · exact ⟨hfound, .inr (.inl hold)⟩
      · have hid := MemberStore.id_of_findIn hmember
        exact ⟨hid ▸ hmember, .inr (.inr ⟨hid, rfl⟩)⟩
  have hinto : (store'.registry workspaceId).into = (store.registry workspaceId).into := by
    funext id
    simp only [MemberStore.registry, MemberStore.mergedInto, hmembers]
  have hactive : ∀ id, (store.registry workspaceId).active id →
      (store'.registry workspaceId).active id := by
    intro id hactive
    simpa only [MemberStore.registry, hmembers] using hactive
  obtain ⟨ids, normalized, distinct, inactive, targets, owners, primaries⟩ := h
  refine ⟨⟨?_, ?_, ?_, ?_, ?_, ?_, ?_⟩, ?_⟩
  · simpa only [hmembers] using ids
  · simpa only [hmembers] using normalized
  · simpa only [hmembers] using distinct
  · simpa only [hmembers] using inactive
  · simpa only [hmembers] using targets
  · intro address id howner
    rw [haliases] at howner
    rw [hmembers]
    split at howner
    · cases howner
      exact ⟨member, hmember⟩
    · exact owners address id howner
  · intro address id howner id' other hfound hmail
    rw [haliases] at howner
    rw [hmembers] at hfound
    split at howner
    · next hkey => exact absurd hmail (hkey ▸ hfree id' other hfound)
    · exact primaries address id howner id' other hfound hmail
  · by_cases hroot : member.mergedIntoMemberId = none
    · refine .take memberId email.1 ?_ ?_ ?_ hinto hactive
      · show (store.findIn workspaceId memberId).bind _ = none
        rw [hmember]
        exact hroot
      · rintro _ ⟨other, rfl, ⟨hfound, hmail | ⟨key, hkey, howner⟩⟩, _⟩
        · exact absurd hmail (hfree _ _ hfound)
        · exact hexisting _ (Subtype.ext hkey ▸ howner)
      · intro id address
        constructor
        · rintro ⟨other, rfl, howns, hroot'⟩
          rcases (hown other address).1 howns with hold | ⟨rfl, rfl⟩
          · exact .inl ⟨other, rfl, hold, hroot'⟩
          · exact .inr ⟨MemberStore.id_of_findIn hmember, rfl⟩
        · rintro (⟨other, rfl, hold, hroot'⟩ | ⟨rfl, rfl⟩)
          · exact ⟨other, rfl, (hown other address).2 (.inl hold), hroot'⟩
          · exact ⟨member, MemberStore.id_of_findIn hmember, (hown member _).2 (.inr ⟨rfl, rfl⟩),
              hroot⟩
    · -- an alias of a member that has been merged gives nobody an address
      refine .keep (fun id address => ?_) hinto hactive
      constructor
      · rintro ⟨other, rfl, howns, hroot'⟩
        rcases (hown other address).1 howns with hold | ⟨rfl, rfl⟩
        · exact ⟨other, rfl, hold, hroot'⟩
        · exact absurd hroot' hroot
      · rintro ⟨other, rfl, hold, hroot'⟩
        exact ⟨other, rfl, (hown other address).2 (.inl hold), hroot'⟩

end

/-! ## Merges -/

section
variable {store store' : MemberStore platform} {context : MemberContext}
  {params : MergeWorkspaceMembersParams} {source target member member' : Member} {id : JsString}

variable (h : Merged store context params source target store')
include h

theorem Merged.findIn_source : store.findIn params.workspaceId source.id = some source :=
  MemberStore.findIn_eq_some.2 ⟨h.found_source, h.workspace_source⟩

theorem Merged.findIn_target : store.findIn params.workspaceId target.id = some target :=
  MemberStore.findIn_eq_some.2 ⟨h.found_target, h.workspace_target⟩

theorem Merged.findIn_eq (id : JsString) : store'.findIn params.workspaceId id =
      if id = source.id then some (mergedSource context params target.id source)
      else if id = target.id then some (mergedTarget source target target)
      else store.findIn params.workspaceId id := by
  unfold MemberStore.findIn
  rw [h.members]
  split
  · simp [mergedSource, h.workspace_source]
  split
  · simp [mergedTarget, h.workspace_target]
  · rfl

theorem Merged.findIn_other {workspaceId : JsString} (hne : params.workspaceId ≠ workspaceId)
    (id : JsString) : store'.findIn workspaceId id = store.findIn workspaceId id := by
  unfold MemberStore.findIn
  rw [h.members]
  split
  · next hid =>
    rw [hid, h.found_source]
    simp [filter_some, mergedSource, h.workspace_source, hne]
  split
  · next hid =>
    rw [hid, h.found_target]
    simp [filter_some, mergedTarget, h.workspace_target, hne]
  · rfl

theorem Merged.findIn_cases (hfound : store'.findIn params.workspaceId id = some member') :
    (id = source.id ∧ member' = mergedSource context params target.id source) ∨
      (id = target.id ∧ member' = mergedTarget source target target) ∨
      (id ≠ source.id ∧ id ≠ target.id ∧ store.findIn params.workspaceId id = some member') := by
  rw [h.findIn_eq] at hfound
  split at hfound
  · next hid => exact .inl ⟨hid, (some.inj hfound).symm⟩
  split at hfound
  · next hid => exact .inr (.inl ⟨hid, (some.inj hfound).symm⟩)
  · next hs ht => exact .inr (.inr ⟨hs, ht, hfound⟩)

/-- A merge changes no address. -/
theorem Merged.findIn_user (hfound : store'.findIn params.workspaceId id = some member') :
    ∃ member, store.findIn params.workspaceId id = some member ∧ member'.user = member.user := by
  rcases h.findIn_cases hfound with ⟨rfl, rfl⟩ | ⟨rfl, rfl⟩ | ⟨_, _, hold⟩
  · exact ⟨source, h.findIn_source, rfl⟩
  · exact ⟨target, h.findIn_target, rfl⟩
  · exact ⟨member', hold, rfl⟩

theorem Merged.exists_findIn (hfound : store.findIn params.workspaceId id = some member) :
    ∃ member', store'.findIn params.workspaceId id = some member' := by
  rw [h.findIn_eq]
  split
  · exact ⟨_, rfl⟩
  split
  · exact ⟨_, rfl⟩
  · exact ⟨member, hfound⟩

theorem Merged.eq_source (hconsistent : Consistent store params.workspaceId)
    (hfound : store.findIn params.workspaceId id = some member)
    (hmail : member.user.email ∈ mergeAliasEmails store source target params.aliasEmails) :
    id = source.id := by
  obtain ⟨primary, hprimary⟩ : ∃ primary, store.findByEmail params.workspaceId
      member.user.email (fun _ => true) = some primary :=
    MemberStore.exists_findByEmail hfound rfl rfl
  obtain ⟨hfoundPrimary, _, hsame⟩ := MemberStore.findIn_of_findByEmail hprimary
  rw [hconsistent.distinct _ _ _ _ hfound hfoundPrimary hsame.symm]
  refine (h.primaries _ hmail primary hprimary).resolve_right fun hid => ?_
  rw [hid, h.findIn_target] at hfoundPrimary
  cases hfoundPrimary
  have hnot := (normal_of_mem_mergeAliasEmails hmail).2
  rw [(hconsistent.normalized _ _ h.findIn_target).2] at hnot
  exact hnot hsame.symm

theorem Merged.consistent (hconsistent : Consistent store params.workspaceId) :
    Consistent store' params.workspaceId := by
  have htarget := h.findIn_target
  refine ⟨?_, ?_, ?_, ?_, ?_, ?_, ?_⟩
  · intro id member' hfound
    obtain ⟨member, hold, _⟩ := h.findIn_user hfound
    exact hconsistent.ids id member hold
  · intro id member' hfound
    obtain ⟨member, hold, huser⟩ := h.findIn_user hfound
    exact huser ▸ hconsistent.normalized id member hold
  · intro id id' member' other' hfound hfound' hsame
    obtain ⟨member, hold, huser⟩ := h.findIn_user hfound
    obtain ⟨other, hold', huser'⟩ := h.findIn_user hfound'
    rw [huser, huser'] at hsame
    exact hconsistent.distinct id id' member other hold hold' hsame
  · intro id member' hfound hinto
    rcases h.findIn_cases hfound with ⟨_, rfl⟩ | ⟨_, rfl⟩ | ⟨_, _, hold⟩
    · rfl
    · have hactive := hconsistent.inactive _ _ htarget
      exact hactive hinto
    · exact hconsistent.inactive id member' hold hinto
  · intro id member' hfound
    rcases h.findIn_cases hfound with ⟨_, rfl⟩ | ⟨_, rfl⟩ | ⟨_, _, hold⟩
    · exact fun hinto => hconsistent.ids _ _ htarget (some.inj hinto)
    · have hnot := hconsistent.targets _ _ htarget
      exact hnot
    · exact hconsistent.targets id member' hold
  · intro address id howner
    rw [h.owner_eq] at howner
    split at howner
    · cases howner
      exact h.exists_findIn htarget
    · obtain ⟨member, hold⟩ := hconsistent.owners address id howner
      exact h.exists_findIn hold
  · intro address id howner id' member' hfound hmail
    rw [h.owner_eq] at howner
    obtain ⟨member, hold, huser⟩ := h.findIn_user hfound
    rw [huser] at hmail
    split at howner
    · -- a new alias is the own address of nobody but the source
      next hwritten =>
      have hid := h.eq_source hconsistent hold (hmail ▸ hwritten.2)
      rw [h.findIn_eq, if_pos hid] at hfound
      cases hfound
      rfl
    · have hinto := hconsistent.primaries address id howner id' member hold hmail
      rcases h.findIn_cases hfound with ⟨_, rfl⟩ | ⟨hid, rfl⟩ | ⟨_, _, hsame⟩
      · rfl
      · rw [hid, htarget] at hold
        cases hold
        exact hinto
      · cases hsame.symm.trans hold
        exact hinto

theorem Merged.hasAlias_iff : store'.HasAlias params.workspaceId id email ↔
      (email ∈ mergeAliasEmails store source target params.aliasEmails ∧ id = target.id) ∨
      (email ∉ mergeAliasEmails store source target params.aliasEmails ∧
        store.HasAlias params.workspaceId id email) := by
  constructor
  · rintro ⟨key, rfl, howner⟩
    rw [h.owner_eq] at howner
    split at howner
    · next hwritten => exact .inl ⟨hwritten.2, (some.inj howner).symm⟩
    · next hkept => exact .inr ⟨fun hmem => hkept ⟨rfl, hmem⟩, key, rfl, howner⟩
  · rintro (⟨hmem, rfl⟩ | ⟨hmem, key, rfl, howner⟩)
    · obtain ⟨hlisted, _⟩ := mem_mergeAliasEmails.1 hmem
      have hnormal := (normal_of_mem_mergeAliasEmails hmem).1
      refine ⟨⟨email, (mem_uniqueNormalizedEmails.1 hlisted).2, hnormal⟩, rfl, ?_⟩
      rw [h.owner_eq, if_pos ⟨rfl, hmem⟩]
    · refine ⟨key, rfl, ?_⟩
      rw [h.owner_eq, if_neg fun hboth => hmem hboth.2]
      exact howner

theorem Merged.mem_of_owns (hconsistent : Consistent store params.workspaceId)
    (howns : store.Owns params.workspaceId source email) :
    email ∈ mergeAliasEmails store source target params.aliasEmails ∨
      target.user.email = email := by
  have hnormal := (hconsistent.normalized _ _ h.findIn_target).2
  by_cases hsame : target.user.email = email
  · exact .inr hsame
  · refine .inl ?_
    have hne : email ≠ platform.normalizeEmail target.user.email := by
      rw [hnormal]
      exact Ne.symm hsame
    obtain ⟨hfound, rfl | ⟨key, rfl, howner⟩⟩ := howns
    · obtain ⟨hnonempty, hown⟩ := hconsistent.normalized _ _ hfound
      exact mem_mergeAliasEmails.2
        ⟨mem_uniqueNormalizedEmails.2 ⟨⟨_, List.mem_cons_self, hown⟩, hnonempty⟩, hne⟩
    · obtain ⟨row, hrow, hkey, hmember⟩ := MemberStore.exists_of_aliasOwner howner
      have hemail : row.email = key := congrArg Prod.snd hkey
      rw [← hemail] at hne ⊢
      exact mem_mergeAliasEmails_of_alias hrow hmember hne

theorem Merged.registry_step (hconsistent : Consistent store params.workspaceId) :
    (store.registry params.workspaceId).Step (store'.registry params.workspaceId) := by
  have hsource := h.findIn_source
  have htarget := h.findIn_target
  have hrootSource := hconsistent.unmerged hsource h.unmerged_source
  have hrootTarget := hconsistent.unmerged htarget h.unmerged_target
  have hnewTarget : store'.findIn params.workspaceId target.id =
      some (mergedTarget source target target) := by
    rw [h.findIn_eq, if_neg h.ne.symm, if_pos rfl]
  refine .merge source.id target.id
    (· ∈ mergeAliasEmails store source target params.aliasEmails) h.ne ?_ ?_ ?_ ?_ ?_ ?_ ?_
  · show (store.findIn _ source.id).bind _ = none
    rw [hsource]
    exact hrootSource
  · show (store.findIn _ target.id).bind _ = none
    rw [htarget]
    exact hrootTarget
  · rintro email hmem _ ⟨member, rfl, ⟨hfound, rfl | ⟨key, rfl, howner⟩⟩, _⟩
    · exact .inl (h.eq_source hconsistent hfound hmem)
    · exact h.owners key hmem _ howner
  · intro id email
    constructor
    · rintro ⟨member', rfl, ⟨hfound, howns⟩, hroot⟩
      rw [h.hasAlias_iff] at howns
      rcases h.findIn_cases hfound with ⟨_, hmember⟩ | ⟨hid, hmember⟩ | ⟨hs, ht, hold⟩
      · rw [hmember] at hroot
        cases hroot
      · refine .inl ⟨hid, ?_⟩
        rcases howns with hmail | ⟨hmem, _⟩ | ⟨_, halias⟩
        · rw [hmember] at hmail
          exact .inr (.inr ⟨target, rfl, ⟨htarget, .inl hmail⟩, hrootTarget⟩)
        · exact .inl hmem
        · exact .inr (.inr ⟨target, rfl, ⟨htarget, .inr (hid ▸ halias)⟩, hrootTarget⟩)
      · refine .inr ⟨hs, ht, member', rfl, ⟨hold, ?_⟩, hroot⟩
        rcases howns with hmail | ⟨_, hid⟩ | ⟨_, halias⟩
        · exact .inl hmail
        · exact absurd hid ht
        · exact .inr halias
    · have hkept : ∀ {member : Member}, store.Owns params.workspaceId member email →
          email ∈ mergeAliasEmails store source target params.aliasEmails ∨
            member.user.email = email ∨
              (email ∉ mergeAliasEmails store source target params.aliasEmails ∧
                store.HasAlias params.workspaceId member.id email) := by
        rintro member ⟨_, hmail | halias⟩
        · exact .inr (.inl hmail)
        · by_cases hmem : email ∈ mergeAliasEmails store source target params.aliasEmails
          · exact .inl hmem
          · exact .inr (.inr ⟨hmem, halias⟩)
      rintro (⟨rfl, hgets⟩ | ⟨hs, ht, member, rfl, howns, hroot⟩)
      · refine ⟨mergedTarget source target target, rfl, ⟨hnewTarget, ?_⟩, hrootTarget⟩
        rw [h.hasAlias_iff]
        rcases hgets with hmem | ⟨member, hid, howns, _⟩ | ⟨member, hid, howns, _⟩
        · exact .inr (.inl ⟨hmem, rfl⟩)
        · have hmember : member = source :=
            some.inj (howns.1.symm.trans (hid ▸ hsource))
          rw [hmember] at howns
          rcases h.mem_of_owns hconsistent howns with hmem | hmail
          · exact .inr (.inl ⟨hmem, rfl⟩)
          · exact .inl hmail
        · have hmember : member = target :=
            some.inj (howns.1.symm.trans (hid ▸ htarget))
          rw [hmember] at howns
          rcases hkept howns with hmem | hmail | halias
          · exact .inr (.inl ⟨hmem, rfl⟩)
          · exact .inl hmail
          · exact .inr (.inr halias)
      · refine ⟨member, rfl, ⟨?_, ?_⟩, hroot⟩
        · rw [h.findIn_eq, if_neg hs, if_neg ht]
          exact howns.1
        · rw [h.hasAlias_iff]
          rcases hkept howns with hmem | hmail | halias
          · -- an alias email is the source's or the target's
            obtain ⟨hfound, rfl | ⟨key, rfl, howner⟩⟩ := howns
            · exact absurd (h.eq_source hconsistent hfound hmem) hs
            · exact absurd (h.owners key hmem _ howner) (not_or.2 ⟨hs, ht⟩)
          · exact .inl hmail
          · exact .inr (.inr halias)
  · funext id
    show (store'.findIn _ id).bind _ = Function.update (store.mergedInto _) _ _ id
    rw [h.findIn_eq, Function.update_apply]
    split
    · rfl
    split
    · next hid =>
      rw [MemberStore.mergedInto, hid, htarget]
      rfl
    · rfl
  · exact ⟨_, hnewTarget, h.active_target⟩
  · rintro id hid ⟨member, hfound, hactive⟩
    refine ⟨if id = target.id then mergedTarget source target target else member, ?_, ?_⟩
    · rw [h.findIn_eq, if_neg hid]
      split
      · rfl
      · exact hfound
    · split
      · exact h.active_target
      · exact hactive

end

/-! ## Runs -/

section
variable {store : MemberStore platform} {workspaceId : JsString}

theorem IdentityRequest.step (request : IdentityRequest)
    (h : Consistent store workspaceId) :
    Consistent (request.apply store) workspaceId ∧
      (store.registry workspaceId).Step ((request.apply store).registry workspaceId) := by
  unfold apply
  cases hrun : request.perform store with
  | error e => exact h.step_of_same (fun _ => rfl) fun _ => rfl
  | ok store' =>
    cases request with
    | writeMemberEmailAlias otherId memberId email source createdByUserId =>
      obtain ⟨⟨row, store₁⟩, hwrite, hrun⟩ := bind_ok.1 hrun
      cases hrun
      obtain ⟨parsed, member, _, hmember, hworkspace, heffect⟩ := writeMemberEmailAlias_ok hwrite
      rcases heffect with ⟨_, rfl⟩ | ⟨hother, hprimary, hexisting, hframe, howner⟩
      · exact h.step_of_same (fun _ => rfl) fun _ => rfl
      · have hmembers : ∀ id, store'.findIn workspaceId id = store.findIn workspaceId id := by
          intro id
          rw [hframe]
          rfl
        by_cases hsame : otherId = workspaceId
        · subst hsame
          refine h.step_of_alias (MemberStore.findIn_eq_some.2 ⟨hmember, hworkspace⟩) hother
            (by simpa using hprimary) (by simpa using hexisting) hmembers fun address => ?_
          simpa using howner (otherId, address)
        · refine h.step_of_same hmembers fun address => ?_
          rw [howner, if_neg fun hkey => hsame (congrArg Prod.fst hkey).symm]
    | mergeWorkspaceMembers context params =>
      obtain ⟨⟨result, store₁⟩, hmerge, hrun⟩ := bind_ok.1 hrun
      cases hrun
      obtain ⟨source, target, hmerged⟩ := mergeWorkspaceMembers_ok hmerge
      by_cases hsame : params.workspaceId = workspaceId
      · subst hsame
        exact ⟨hmerged.consistent h, hmerged.registry_step h⟩
      · refine h.step_of_same (hmerged.findIn_other hsame) fun address => ?_
        rw [hmerged.owner_eq, if_neg fun hkey => hsame hkey.1.symm]

/-- A workspace in which nothing has been merged and no alias been written. -/
structure Fresh (store : MemberStore platform) (workspaceId : JsString) : Prop where
  ids : ∀ id member, store.findIn workspaceId id = some member → id ≠ []
  normalized : ∀ id member, store.findIn workspaceId id = some member →
    member.user.email ≠ [] ∧ platform.normalizeEmail member.user.email = member.user.email
  distinct : ∀ id id' member member', store.findIn workspaceId id = some member →
    store.findIn workspaceId id' = some member' → member.user.email = member'.user.email → id = id'
  unmerged : ∀ id member, store.findIn workspaceId id = some member →
    member.mergedIntoMemberId = none
  aliases : ∀ email, store.aliasOwner (workspaceId, email) = none

theorem Fresh.consistent (h : Fresh store workspaceId) : Consistent store workspaceId := by
  refine ⟨h.ids, h.normalized, h.distinct, ?_, ?_, ?_, ?_⟩
  · intro id member hfound hinto
    rw [h.unmerged id member hfound] at hinto
    cases hinto
  · intro id member hfound hinto
    rw [h.unmerged id member hfound] at hinto
    cases hinto
  · intro email id howner
    rw [h.aliases] at howner
    cases howner
  · intro email id howner
    rw [h.aliases] at howner
    cases howner

theorem Fresh.acyclic (h : Fresh store workspaceId) : Acyclic (store.mergedInto workspaceId) := by
  have hnone : store.mergedInto workspaceId = fun _ => none := by
    funext id
    unfold MemberStore.mergedInto
    cases hfound : store.findIn workspaceId id with
    | none => rfl
    | some member => exact h.unmerged id member hfound
  rw [hnone]
  exact acyclic_none

theorem Consistent.registry_sound (h : Consistent store workspaceId)
    (hacyclic : Acyclic (store.mergedInto workspaceId)) : (store.registry workspaceId).Sound := by
  refine ⟨hacyclic, ?_, ?_⟩
  · rintro _ email ⟨member, rfl, howns, hroot⟩
    show (store.findIn _ member.id).bind _ = none
    rw [howns.1]
    exact hroot
  · rintro _ _ email ⟨member, rfl, howns, hroot⟩ ⟨member', rfl, howns', hroot'⟩
    rw [h.owns_unique howns howns' hroot hroot']

theorem runIdentityRequests_step (requests : List IdentityRequest)
    (h : Consistent store workspaceId) (hsound : (store.registry workspaceId).Sound) :
    Consistent (runIdentityRequests store requests) workspaceId ∧
      ((runIdentityRequests store requests).registry workspaceId).Sound ∧
      (store.registry workspaceId).Follows
        ((runIdentityRequests store requests).registry workspaceId) := by
  induction requests generalizing store with
  | nil => exact ⟨h, hsound, .refl _⟩
  | cons request requests ih =>
    obtain ⟨hnext, hstep⟩ := request.step h
    obtain ⟨hlast, hlastSound, hfollows⟩ := ih hnext (hstep.sound hsound)
    exact ⟨hlast, hlastSound, hstep.follows.trans hfollows⟩

/-- Merges are a forest, and no address has two owners that have not been merged. -/
structure IdentitiesSound (store : MemberStore platform) (workspaceId : JsString) : Prop where
  acyclic : Acyclic (store.mergedInto workspaceId)
  unique : ∀ email member member', store.Owns workspaceId member email →
    store.Owns workspaceId member' email → member.mergedIntoMemberId = none →
      member'.mergedIntoMemberId = none → member = member'

/-- An address of a member that has not been merged resolves to the member at the end of its
merges. -/
def ResolutionKept (before after : MemberStore platform) (workspaceId : JsString) : Prop :=
  ∀ email includeInactive member,
    resolveWorkspaceMemberByEmail before workspaceId email includeInactive = .ok (some member) →
    includeInactive = false ∨ member.mergedIntoMemberId = none →
      ∃ member', resolveWorkspaceMemberByEmail after workspaceId email includeInactive =
          .ok (some member') ∧
        member'.mergedIntoMemberId = none ∧
        ReflTransGen (Up (after.mergedInto workspaceId)) member.id member'.id

theorem Consistent.resolution_kept {after : MemberStore platform}
    (h : Consistent store workspaceId) (hafter : Consistent after workspaceId)
    (hfollows : (store.registry workspaceId).Follows (after.registry workspaceId)) :
    ResolutionKept store after workspaceId := by
  intro email includeInactive member hresolve hmode
  obtain ⟨parsed, hparsed, howns, hactive⟩ := resolve_ok h hresolve
  -- an active member has not been merged
  have hroot : member.mergedIntoMemberId = none := by
    rcases hmode with rfl | hroot
    · cases hinto : member.mergedIntoMemberId with
      | none => rfl
      | some target =>
        have hinactive := h.inactive _ _ howns.1 (by rw [hinto]; rfl)
        rw [hinactive] at hactive
        cases hactive
    · exact hroot
  obtain ⟨_, ⟨member', rfl, howns', hroot'⟩, hpath, hkept⟩ :=
    hfollows.has member.id parsed.1 ⟨member, rfl, howns, hroot⟩
  refine ⟨member', resolve_of_owns hafter hparsed howns' hroot' ?_, hroot', hpath⟩
  rw [Bool.or_eq_true] at hactive ⊢
  refine hactive.imp_right fun hmember => ?_
  obtain ⟨found, hfound, hfoundActive⟩ := hkept ⟨member, howns.1, hmember⟩
  cases howns'.1.symm.trans hfound
  exact hfoundActive

/-- **Addresses keep their owners.** After any requests the merges are acyclic and an address has at
most one owner that has not been merged, and after any further requests an address of such a member
resolves to the member that it has been merged into. -/
theorem identities_resolve (hfresh : Fresh store workspaceId)
    (requests later : List IdentityRequest) :
    IdentitiesSound (runIdentityRequests store requests) workspaceId ∧
      ResolutionKept (runIdentityRequests store requests)
        (runIdentityRequests store (requests ++ later)) workspaceId := by
  have hconsistent := hfresh.consistent
  obtain ⟨hbefore, hsound, _⟩ := runIdentityRequests_step requests hconsistent
    (hconsistent.registry_sound hfresh.acyclic)
  obtain ⟨hafter, _, hfollows⟩ := runIdentityRequests_step later hbefore hsound
  have hrun : runIdentityRequests store (requests ++ later) =
      runIdentityRequests (runIdentityRequests store requests) later := List.foldl_append
  rw [hrun]
  exact ⟨⟨hsound.acyclic, fun _ _ _ => hbefore.owns_unique⟩,
    hbefore.resolution_kept hafter hfollows⟩

end

/-! ## Merged members as owners -/

/-- Four members of the workspace `w`. -/
def fourMembers : MemberStore lowerCasePlatform :=
  exampleMembers ⟨["source", "target", "a", "b"].map exampleMember, by decide +kernel⟩ .empty

theorem fresh_fourMembers : Fresh fourMembers (lit "w") := by
  have hrow : ∀ {id member}, fourMembers.findIn (lit "w") id = some member →
      member ∈ fourMembers.members.rows ∧ member.id = id := fun hfound =>
    ⟨(KeyedTable.find?_eq_some.1 (MemberStore.findIn_eq_some.1 hfound).1).1,
      MemberStore.id_of_findIn hfound⟩
  have hrows : ∀ member ∈ fourMembers.members.rows, member.id ≠ [] ∧ member.user.email ≠ [] ∧
      lowerCasePlatform.normalizeEmail member.user.email = member.user.email ∧
        member.mergedIntoMemberId = none := by decide +kernel
  have hdistinct : ∀ member ∈ fourMembers.members.rows, ∀ member' ∈ fourMembers.members.rows,
      member.user.email = member'.user.email → member.id = member'.id := by decide +kernel
  refine ⟨?_, ?_, ?_, ?_, fun _ => rfl⟩
  · intro id member hfound
    obtain ⟨hmem, rfl⟩ := hrow hfound
    exact (hrows member hmem).1
  · intro id member hfound
    obtain ⟨hmem, rfl⟩ := hrow hfound
    exact ⟨(hrows member hmem).2.1, (hrows member hmem).2.2.1⟩
  · intro id id' member member' hfound hfound' hsame
    obtain ⟨hmem, rfl⟩ := hrow hfound
    obtain ⟨hmem', rfl⟩ := hrow hfound'
    exact hdistinct member hmem member' hmem' hsame
  · intro id member hfound
    obtain ⟨hmem, rfl⟩ := hrow hfound
    exact (hrows member hmem).2.2.2

/-- The source is merged into the target, and then an alias is written for it. -/
def aliasAfterMerge : List IdentityRequest :=
  [.mergeWorkspaceMembers exampleMergeContext ⟨lit "w", lit "source", lit "target", none, none⟩,
    .writeMemberEmailAlias (lit "w") (lit "source") (lit "x@corp") (lit "MANUAL") none]

/-- A merge of two other members. -/
def laterMerge : List IdentityRequest :=
  [.mergeWorkspaceMembers exampleMergeContext ⟨lit "w", lit "a", lit "b", none, none⟩]

theorem identities_resolve_fourMembers :
    IdentitiesSound (runIdentityRequests fourMembers aliasAfterMerge) (lit "w") ∧
      ResolutionKept (runIdentityRequests fourMembers aliasAfterMerge)
        (runIdentityRequests fourMembers (aliasAfterMerge ++ laterMerge)) (lit "w") :=
  identities_resolve fresh_fourMembers aliasAfterMerge laterMerge

def theMergedSource : Member :=
  mergedSource exampleMergeContext ⟨lit "w", lit "source", lit "target", none, none⟩ (lit "target")
    (exampleMember "source")

/-- The address of a member that has been merged is its own and an alias of the target, and an alias
that is written for it afterwards resolves to it, also after further merges. -/
theorem not_identities_resolve_merged :
    (∃ email member member',
      (runIdentityRequests fourMembers aliasAfterMerge).Owns (lit "w") member email ∧
      (runIdentityRequests fourMembers aliasAfterMerge).Owns (lit "w") member' email ∧
      member ≠ member') ∧
    ∃ email member,
      resolveWorkspaceMemberByEmail (runIdentityRequests fourMembers aliasAfterMerge) (lit "w")
        email true = .ok (some member) ∧
      resolveWorkspaceMemberByEmail (runIdentityRequests fourMembers
        (aliasAfterMerge ++ laterMerge)) (lit "w") email true = .ok (some member) ∧
      (runIdentityRequests fourMembers (aliasAfterMerge ++ laterMerge)).mergedInto (lit "w")
        member.id = some (lit "target") := by
  refine ⟨⟨lit "source@corp", theMergedSource, exampleMember "target", ⟨?_, .inl ?_⟩,
    ⟨?_, .inr ⟨⟨lit "source@corp", ?_, ?_⟩, rfl, ?_⟩⟩, ?_⟩,
    lit "x@corp", theMergedSource, ?_, ?_, ?_⟩
  all_goals decide +kernel

end Corgtex.Domain
