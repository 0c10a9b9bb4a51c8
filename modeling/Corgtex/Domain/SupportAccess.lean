import Corgtex.Domain.Members
import Corgtex.Library.JsNumber
import Corgtex.Library.Runs

/-!
# Workspace support access

`workspace-support-access.ts`: the owner of a workspace grants a named account
access to it, takes it back and grants it again. Every change counts the version of the grant up,
and what is issued under a grant stores the version of that moment. A use compares the two
(`supportCapabilityVersion`, `withWorkspaceSupportExecution`), so the stored version is a stamp: if
it is the current one, the grant has not been changed since (`List.eq_of_stamp_eq`).

The transaction of a change holds the lock of its workspace from its first read on
(`lockWorkspaceMembership`), so it is one step.
-/

namespace Corgtex.Domain.Support

open JsNumber JsString List

/-! ## Tables -/

/-- `WorkspaceSupportRole` (`schema.prisma`). -/
inductive SupportRole
  | SETUP | FULL
deriving DecidableEq, Repr

/-- The columns of `User` that a change reads. -/
structure SupportUser where
  id : JsString
  email : JsString
  isSupportAccount : Bool

/-- The columns of `Workspace`. -/
structure SupportWorkspace where
  id : JsString
  slug : JsString
  supportOwnerUserId : Option JsString

/-- The columns of `Member`. -/
structure SupportMember where
  id : JsString
  workspaceId : JsString
  userId : JsString
  role : MemberRole
  kind : MemberKind
  isActive : Bool

/-- `@@unique([workspaceId, userId])` of members. -/
def SupportMember.key (member : SupportMember) : JsString × JsString :=
  (member.workspaceId, member.userId)

/-- `WorkspaceSupportGrant`, with `WorkspaceSupportGrant_version_positive`. -/
structure WorkspaceSupportGrant where
  id : JsString
  workspaceId : JsString
  userId : JsString
  role : SupportRole
  isActive : Bool
  version : Nat
  grantedByUserId : JsString
  revokedAt : Option Int
  version_positive : 0 < version
deriving DecidableEq

/-- `@@unique([workspaceId, userId])` of grants. -/
def WorkspaceSupportGrant.key (grant : WorkspaceSupportGrant) : JsString × JsString :=
  (grant.workspaceId, grant.userId)

/-- The tables whose rows store the version of a grant. -/
inductive CapabilityKind
  | agentCredential | appSession | mcpOAuthAccessToken | mcpOAuthAuthorizationCode
  | oAuthAuthorizationCode | oAuthAccessToken
deriving DecidableEq

/-- A row of one of these tables, which is `revoked` where it is inactive or deleted. -/
structure Capability where
  kind : CapabilityKind
  workspaceId : JsString
  userId : Option JsString
  supportGrantVersion : Option Nat
  revoked : Bool
deriving DecidableEq

/-- The columns of an `Event` or a `WorkflowJob` that its execution checks. -/
structure SupportJob where
  workspaceId : Option JsString
  supportOriginUserId : Option JsString
  supportGrantVersion : Option Nat

/-- An event of `appendEvents`: the `fields` of its payload, none where the member is new. -/
structure MemberEvent where
  workspaceId : JsString
  type : String
  aggregateId : JsString
  fields : List String

/-- A row of `AuditLog`, with its `meta`. -/
structure SupportAudit where
  workspaceId : JsString
  actorUserId : JsString
  action : String
  entityId : JsString
  recipientUserId : JsString
  role : SupportRole
  version : Nat
  previousRole : Option SupportRole

/-- The tables of others, which other transactions change as well. -/
structure SupportTables where
  workspaces : KeyedTable SupportWorkspace SupportWorkspace.id
  users : KeyedTable SupportUser SupportUser.id
  members : KeyedTable SupportMember SupportMember.key

structure SupportStore where
  tables : SupportTables
  grants : KeyedTable WorkspaceSupportGrant WorkspaceSupportGrant.key
  capabilities : List Capability
  jobs : List SupportJob
  events : List MemberEvent
  auditLogs : List SupportAudit

/-! ## Changes -/

/-- The parameters of `changeWorkspaceSupportGrant`. -/
structure ChangeParams where
  workspaceId : JsString
  email : JsString
  role : SupportRole
  isActive : Bool
  expectedVersion : Int

/-- The ids and the time that a change is given. -/
structure ChangeInputs where
  grantId : JsString
  memberId : JsString
  now : Int

variable (platform : EmailPlatform) (scopeSlug : Option JsString)

/-- `requireDeploymentWorkspaceScope` (`auth.ts:41`), with `DEPLOYMENT_WORKSPACE_SCOPE_SLUG`. -/
def requireDeploymentWorkspaceScope (tables : SupportTables) (workspaceId : JsString) :
    Except AppError Unit :=
  match scopeSlug.bind orNull with
  | none => .ok ()
  | some slug =>
    invariant ((tables.workspaces.find? workspaceId).any (·.slug = slug)) 403
      "WORKSPACE_SCOPE_MISMATCH" "This deployment is restricted to its configured workspace."

/-- `requireUnreservedPublicDemoEmail` (`public-demo-identity.ts:7`). -/
def requireUnreservedPublicDemoEmail (email : JsString) : Except AppError Unit :=
  invariant (platform.normalizeEmail email ≠ lit "demo@jnj-demo.corgtex.app") 400
    "RESERVED_IDENTITY" "The public demo account is reserved for its dedicated workspace."

/-- `requireSupportOwner` (line 73). -/
def requireSupportOwner (tables : SupportTables) (actor : AppActor) (workspaceId : JsString) :
    Except AppError JsString := do
  requireDeploymentWorkspaceScope scopeSlug tables workspaceId
  match actor.userId? with
  | none => throw ⟨403, "FORBIDDEN", "A workspace owner is required."⟩
  | some userId =>
    invariant ((tables.workspaces.find? workspaceId).any (·.supportOwnerUserId = some userId)) 403
      "SUPPORT_OWNER_REQUIRED" "A verified workspace owner is required."
    invariant ((tables.members.find? (workspaceId, userId)).any fun member =>
        member.isActive && member.role = .admin && member.kind = .HUMAN) 403
      "SUPPORT_OWNER_REQUIRED" "An active workspace owner is required."
    .ok userId

/-- The account that a change is about (line 141). -/
def supportRecipient (tables : SupportTables) (email ownerId : JsString) :
    Except AppError SupportUser :=
  match (tables.users.rows.find? fun user => user.email = email).filter (·.id ≠ ownerId) with
  | none => .error ⟨400, "INVALID_SUPPORT_ACCOUNT", "Choose another existing named account."⟩
  | some user => .ok user

/-- `current?.version ?? 0`. -/
def grantVersion (grant : Option WorkspaceSupportGrant) : Nat :=
  grant.elim 0 WorkspaceSupportGrant.version

/-- The row that `workspaceSupportGrant.upsert` writes (line 151). The column is a 32-bit integer:
an update that counts past it fails. -/
def upsertGrant (current : Option WorkspaceSupportGrant) (params : ChangeParams)
    (userId ownerId : JsString) (inputs : ChangeInputs) : Except AppError WorkspaceSupportGrant :=
  match current with
  | none => .ok {
      id := inputs.grantId, workspaceId := params.workspaceId, userId := userId
      role := params.role, isActive := params.isActive, version := 1, grantedByUserId := ownerId
      revokedAt := none, version_positive := Nat.one_pos }
  | some grant =>
    if grant.version < 2147483647 then .ok {
      grant with
      role := params.role, isActive := params.isActive, version := grant.version + 1
      grantedByUserId := ownerId, revokedAt := if params.isActive then none else some inputs.now
      version_positive := Nat.succ_pos _ }
    else .error ⟨500, "INTERNAL_ERROR", "integer out of range"⟩

/-- The event of a member that becomes an active administrator (line 168). -/
def managedMemberEvent (params : ChangeParams) (memberId : JsString) :
    Option SupportMember → List MemberEvent
  | none => [⟨params.workspaceId, "member.created", memberId, []⟩]
  | some member =>
    let fields := ["role", "kind", "isActive"]
    if !member.isActive then [⟨params.workspaceId, "member.reactivated", memberId, fields⟩]
    else if member.role ≠ .admin ∨ member.kind ≠ .HUMAN then
      [⟨params.workspaceId, "member.updated", memberId, fields⟩]
    else []

/-- The membership follows the grant (line 162): with full access the account is an administrator,
otherwise it is no active member. What `closeRoleLifecycleForMember` closes is in no table here. -/
def applyMembership (store : SupportStore) (params : ChangeParams) (userId : JsString)
    (inputs : ChangeInputs) : SupportStore :=
  let member := store.tables.members.find? (params.workspaceId, userId)
  if params.isActive && params.role = .FULL then
    let managed : SupportMember := {
      id := member.elim inputs.memberId SupportMember.id, workspaceId := params.workspaceId
      userId := userId, role := .admin, kind := .HUMAN, isActive := true }
    { store with
      tables := { store.tables with members := store.tables.members.set managed }
      events := store.events ++ managedMemberEvent params managed.id member }
  else match member with
    | none => store
    | some member =>
      { store with
        tables := { store.tables with
          members := store.tables.members.set { member with isActive := false } }
        events := store.events ++ if member.isActive then
          [⟨params.workspaceId, "member.deactivated", member.id, ["isActive"]⟩] else [] }

/-- What was issued to the account in the workspace is revoked (line 182). -/
def revokeCapabilities (capabilities : List Capability) (workspaceId userId : JsString) :
    List Capability :=
  capabilities.map fun capability =>
    if capability.workspaceId = workspaceId ∧ capability.userId = some userId then
      { capability with revoked := true }
    else capability

/-- `changeWorkspaceSupportGrant` (line 125): the store and the grant. -/
def changeWorkspaceSupportGrant (store : SupportStore) (actor : AppActor) (params : ChangeParams)
    (inputs : ChangeInputs) : Except AppError (SupportStore × WorkspaceSupportGrant) := do
  invariant (isSafeInteger params.expectedVersion && 0 ≤ params.expectedVersion) 400
    "INVALID_INPUT" "A grant version is required."
  let email := platform.normalizeEmail params.email
  checkIf params.isActive (requireUnreservedPublicDemoEmail platform email)
  invariant (email ≠ []) 400 "INVALID_INPUT" "A named account is required."
  let ownerId ← requireSupportOwner scopeSlug store.tables actor params.workspaceId
  let user ← supportRecipient store.tables email ownerId
  invariant (!params.isActive || !user.isSupportAccount) 400 "INVALID_SUPPORT_ACCOUNT"
    "Retired support identities cannot receive access."
  let current := store.grants.find? (params.workspaceId, user.id)
  invariant ((grantVersion current : Int) = params.expectedVersion) 409 "VERSION_CONFLICT"
    "Support access changed. Refresh and try again."
  let member := store.tables.members.find? (params.workspaceId, user.id)
  invariant (current.isSome || !member.any (·.isActive)) 409 "EXISTING_MEMBERSHIP"
    "Remove existing workspace membership before granting support access."
  invariant (current.isSome || params.isActive) 400 "INVALID_INPUT"
    "There is no support grant to revoke."
  let grant ← upsertGrant current params user.id ownerId inputs
  let changed := applyMembership { store with grants := store.grants.set grant } params user.id
    inputs
  let audit : SupportAudit := {
    workspaceId := params.workspaceId, actorUserId := ownerId
    action := if params.isActive then "support.access.granted" else "support.access.revoked"
    entityId := grant.id, recipientUserId := user.id, role := grant.role, version := grant.version
    previousRole := current.map WorkspaceSupportGrant.role }
  .ok ({ changed with
    capabilities := revokeCapabilities changed.capabilities params.workspaceId user.id
    auditLogs := changed.auditLogs ++ [audit] }, grant)

/-! ## Issuing and using -/

/-- `SupportOrigin` (`support-context.ts:4`). -/
structure SupportOrigin where
  userId : JsString
  workspaceId : JsString
  version : Nat
deriving DecidableEq

/-- The error of every check of a stored version. -/
def supportRevoked (condition : Bool) : Except AppError Unit :=
  invariant condition 403 "SUPPORT_AUTHORIZATION_REVOKED" "Support authorization is unavailable."

/-- The version that a caller is held to: the one it names, or that of the grant by which this
request was authorized (line 48). -/
def expectedSupportVersion (origin : Option SupportOrigin) (userId : Option JsString)
    (workspaceId : JsString) : Option (Option Nat) → Except AppError (Option Nat)
  | some expectedVersion => .ok expectedVersion
  | none => do
    supportRevoked (origin.all fun origin =>
      some origin.userId = userId && origin.workspaceId = workspaceId)
    .ok (origin.map SupportOrigin.version)

/-- `supportCapabilityVersion` (line 47), where `expectedVersion` is `none` if the caller leaves it
out. -/
def supportCapabilityVersion (grants : KeyedTable WorkspaceSupportGrant WorkspaceSupportGrant.key)
    (origin : Option SupportOrigin) (userId : Option JsString) (workspaceId : JsString)
    (expectedVersion : Option (Option Nat)) : Except AppError (Option Nat) := do
  let expected ← expectedSupportVersion origin userId workspaceId expectedVersion
  match (userId.bind orNull).bind fun userId => grants.find? (workspaceId, userId) with
  | none => do
    supportRevoked expected.isNone
    .ok none
  | some grant => do
    supportRevoked (grant.isActive && grant.role = .FULL && expected = some grant.version)
    .ok (some grant.version)

/-- What the use of a capability checks of the grant (`enterprise-apps.ts:1905`,
`mcp-connector.ts:1134`, `agent-auth.ts:213`); its own checks can only refuse more. -/
def redeemCapability (store : SupportStore) (capability : Capability) :
    Except AppError (Option Nat) :=
  supportCapabilityVersion store.grants none capability.userId capability.workspaceId
    (some capability.supportGrantVersion)

section
variable (grants : KeyedTable WorkspaceSupportGrant WorkspaceSupportGrant.key)

/-- `withWorkspaceSupportExecution` (line 97): the origin that the job runs with. -/
def withWorkspaceSupportExecution (record : SupportJob) : Except AppError (Option SupportOrigin) :=
  match record.supportOriginUserId.bind orNull with
  | none => .ok none
  | some userId =>
    match record.workspaceId.bind orNull, record.supportGrantVersion.filter (· ≠ 0) with
    | some workspaceId, some version => do
      supportRevoked ((grants.find? (workspaceId, userId)).any fun grant =>
        grant.isActive && grant.role = .FULL && grant.version = version)
      .ok (some ⟨userId, workspaceId, version⟩)
    | _, _ => .error ⟨403, "SUPPORT_AUTHORIZATION_REVOKED", "Support authorization is unavailable."⟩

/-- What `createClient` (`db.ts:51`) adds to a job or an event that a supporter writes; it throws
where the grant does not allow it. -/
def supportJob (supportUserId : Option JsString) (origin : Option SupportOrigin)
    (workspaceId : JsString) : Option SupportJob :=
  match supportUserId.bind orNull with
  | none => some ⟨some workspaceId, none, none⟩
  | some userId =>
    ((grants.find? (workspaceId, userId)).filter fun grant =>
      grant.isActive && grant.role = .FULL && origin.all fun origin =>
        origin.workspaceId = workspaceId && origin.version = grant.version).map fun grant =>
          ⟨some workspaceId, some userId, some grant.version⟩

end

/-- A transaction: a change, the issue of a capability, the writing of a job, or what others do to
their tables. A use only reads. -/
inductive SupportStep
  | change (actor : AppActor) (params : ChangeParams) (inputs : ChangeInputs)
  | issue (kind : CapabilityKind) (origin : Option SupportOrigin) (userId : Option JsString)
    (workspaceId : JsString) (expectedVersion : Option (Option Nat))
  | enqueue (supportUserId : Option JsString) (origin : Option SupportOrigin)
    (workspaceId : JsString)
  | others (tables : SupportTables)

/-- What a transaction does to the store; one that throws does nothing. -/
def SupportStep.apply (store : SupportStore) : SupportStep → SupportStore
  | change actor params inputs =>
    match changeWorkspaceSupportGrant platform scopeSlug store actor params inputs with
    | .ok (changed, _) => changed
    | .error _ => store
  | issue kind origin userId workspaceId expectedVersion =>
    match supportCapabilityVersion store.grants origin userId workspaceId expectedVersion with
    | .ok version =>
      { store with
        capabilities := store.capabilities ++ [⟨kind, workspaceId, userId, version, false⟩] }
    | .error _ => store
  | enqueue supportUserId origin workspaceId =>
    { store with
      jobs := store.jobs ++ (supportJob store.grants supportUserId origin workspaceId).toList }
  | others tables => { store with tables := tables }

def runSupport (store : SupportStore) (steps : List SupportStep) : SupportStore :=
  steps.foldl (SupportStep.apply platform scopeSlug) store

/-! ## Stamps -/

/-- The account, the workspace and the version that a capability or a job stores. -/
structure SupportStamp where
  workspaceId : JsString
  userId : Option JsString
  version : Option Nat
deriving DecidableEq

def Capability.stamp (capability : Capability) : SupportStamp :=
  ⟨capability.workspaceId, capability.userId, capability.supportGrantVersion⟩

def SupportJob.stamp (job : SupportJob) : SupportStamp :=
  ⟨job.workspaceId.getD [], job.supportOriginUserId, job.supportGrantVersion⟩

/-- The stamp that a transaction writes. -/
def SupportStep.issued? (store : SupportStore) : SupportStep → Option SupportStamp
  | issue _ origin userId workspaceId expectedVersion =>
    (supportCapabilityVersion store.grants origin userId workspaceId expectedVersion).toOption.map
      fun version => ⟨workspaceId, userId, version⟩
  | enqueue supportUserId origin workspaceId =>
    (supportJob store.grants supportUserId origin workspaceId).map SupportJob.stamp
  | change _ _ _ | others _ => none

/-- The grant that a stamp is about. -/
def SupportStamp.grant? (stamp : SupportStamp) (store : SupportStore) :
    Option WorkspaceSupportGrant :=
  (stamp.userId.bind orNull).bind fun userId => store.grants.find? (stamp.workspaceId, userId)

/-- The stamp is the current one: the grant is active, with full access and at the stored version,
or there is none and none was stored. -/
structure SupportStamp.Current (stamp : SupportStamp) (store : SupportStore) : Prop where
  version : (stamp.grant? store).map WorkspaceSupportGrant.version = stamp.version
  active : ∀ grant ∈ stamp.grant? store, grant.isActive = true ∧ grant.role = .FULL

variable {platform scopeSlug} {store store' : SupportStore} {stamp : SupportStamp}

/-- A stored version is checked against the grant. -/
theorem supportRevoked_ok {condition : Bool} {result : Unit} :
    supportRevoked condition = .ok result ↔ condition = true := by
  cases condition <;> simp [supportRevoked, invariant]

variable {workspaceId : JsString} {origin : Option SupportOrigin} {version : Option Nat}

/-- **What is issued is current**, and only what is current can be used. -/
theorem current_of_supportCapabilityVersion
    {expectedVersion : Option (Option Nat)} {userId : Option JsString}
    (h : supportCapabilityVersion store.grants origin userId workspaceId expectedVersion =
      .ok version) :
    SupportStamp.Current ⟨workspaceId, userId, version⟩ store ∧
      ∀ expected ∈ expectedVersion, expected = version := by
  obtain ⟨expected, hexpected, h⟩ := bind_ok.1 h
  have hgiven : ∀ given ∈ expectedVersion, given = expected := by
    rintro given rfl
    exact Except.ok.inj hexpected
  split at h
  · next hnone =>
    obtain ⟨_, hcheck, h⟩ := bind_ok.1 h
    have hcheck := Option.isNone_iff_eq_none.1 (supportRevoked_ok.1 hcheck)
    obtain rfl := Except.ok.inj h
    refine ⟨⟨?_, ?_⟩, hcheck ▸ hgiven⟩
    · rw [SupportStamp.grant?, hnone]
      rfl
    · rw [SupportStamp.grant?, hnone]
      simp
  · next grant hsome =>
    obtain ⟨_, hcheck, h⟩ := bind_ok.1 h
    have hcheck := supportRevoked_ok.1 hcheck
    simp only [Bool.and_eq_true, decide_eq_true_eq] at hcheck
    obtain rfl := Except.ok.inj h
    refine ⟨⟨?_, ?_⟩, hcheck.2 ▸ hgiven⟩
    · rw [SupportStamp.grant?, hsome]
      rfl
    · rw [SupportStamp.grant?, hsome]
      rintro _ ⟨⟩
      exact hcheck.1

theorem current_of_redeemCapability {capability : Capability}
    (h : redeemCapability store capability = .ok version) : capability.stamp.Current store := by
  obtain ⟨hcurrent, hsame⟩ := current_of_supportCapabilityVersion h
  have hversion := hsame _ rfl
  rw [Capability.stamp, hversion]
  exact hcurrent

theorem current_of_withWorkspaceSupportExecution {job : SupportJob} {origin : SupportOrigin}
    (h : withWorkspaceSupportExecution store.grants job = .ok (some origin)) :
    job.stamp.Current store := by
  obtain ⟨workspaceId, userId, version⟩ := job
  rw [withWorkspaceSupportExecution] at h
  split at h
  · cases h
  · next user huser =>
    split at h
    · next workspace current hworkspace hversion =>
      obtain ⟨_, hcheck, h⟩ := bind_ok.1 h
      have hcheck := supportRevoked_ok.1 hcheck
      obtain ⟨grant, hgrant, hgood⟩ := (Option.any_eq_true _ _).1 hcheck
      simp only [Bool.and_eq_true, decide_eq_true_eq] at hgood
      obtain ⟨workspaceId', rfl, hworkspace⟩ := Option.bind_eq_some_iff.1 hworkspace
      obtain ⟨rfl, _⟩ := orNull_eq_some.1 hworkspace
      obtain ⟨rfl, _⟩ := Option.filter_eq_some_iff.1 hversion
      have hfound :
          SupportStamp.grant? ⟨workspaceId', userId, some current⟩ store = some grant := by
        rw [SupportStamp.grant?]
        simp only [huser]
        exact hgrant
      refine ⟨?_, ?_⟩
      · show (SupportStamp.grant? ⟨workspaceId', userId, some current⟩ store).map _ = _
        rw [hfound, Option.map_some, hgood.2]
        rfl
      · show ∀ grant ∈ SupportStamp.grant? ⟨workspaceId', userId, some current⟩ store, _
        rw [hfound]
        rintro _ ⟨⟩
        exact hgood.1
    · cases h

theorem current_of_supportJob {supportUserId : Option JsString}
    {job : SupportJob} (h : supportJob store.grants supportUserId origin workspaceId = some job) :
    job.stamp.Current store := by
  rw [supportJob] at h
  split at h
  · cases h
    exact ⟨rfl, by simp [SupportStamp.grant?, SupportJob.stamp]⟩
  · next userId huser =>
    obtain ⟨grant, hgrant, rfl⟩ := Option.map_eq_some_iff.1 h
    obtain ⟨hgrant, hcheck⟩ := Option.filter_eq_some_iff.1 hgrant
    simp only [Bool.and_eq_true, decide_eq_true_eq] at hcheck
    have hself : orNull userId = some userId := by
      obtain ⟨_, _, horNull⟩ := Option.bind_eq_some_iff.1 huser
      exact orNull_eq_some.2 ⟨rfl, (orNull_eq_some.1 horNull).2⟩
    have hfound : SupportStamp.grant? ⟨workspaceId, some userId, some grant.version⟩ store =
        some grant := by
      simp only [SupportStamp.grant?, Option.bind_some, hself]
      exact hgrant
    refine ⟨?_, ?_⟩
    · show (SupportStamp.grant? ⟨workspaceId, some userId, some grant.version⟩ store).map _ = _
      rw [hfound]
      rfl
    · show ∀ other ∈ SupportStamp.grant? ⟨workspaceId, some userId, some grant.version⟩ store, _
      rw [hfound]
      rintro _ ⟨⟩
      exact ⟨hcheck.1.1, hcheck.1.2⟩

/-- **What a transaction issues is current.** -/
theorem SupportStep.current_of_issued? {step : SupportStep} (h : step.issued? store = some stamp) :
    stamp.Current store := by
  cases step with
  | issue kind origin userId workspaceId expectedVersion =>
    obtain ⟨version, hversion, rfl⟩ := Option.map_eq_some_iff.1 h
    cases hok : supportCapabilityVersion store.grants origin userId workspaceId expectedVersion with
    | error error =>
      rw [hok] at hversion
      cases hversion
    | ok version' =>
      rw [hok] at hversion
      obtain rfl := Option.some.inj hversion
      exact (current_of_supportCapabilityVersion hok).1
  | enqueue supportUserId origin workspaceId =>
    obtain ⟨job, hjob, rfl⟩ := Option.map_eq_some_iff.1 h
    exact current_of_supportJob hjob
  | change actor params inputs => cases h
  | others tables => cases h

/-! ## Versions -/

variable {grant : WorkspaceSupportGrant}

@[simp] theorem grantVersion_some : grantVersion (some grant) = grant.version := rfl

variable {inputs : ChangeInputs} {userId : JsString} {params : ChangeParams}

theorem upsertGrant_ok {current : Option WorkspaceSupportGrant} {ownerId : JsString}
    (hcurrent : ∀ before ∈ current, before.key = (params.workspaceId, userId))
    (h : upsertGrant current params userId ownerId inputs = .ok grant) :
    grant.key = (params.workspaceId, userId) ∧ grant.version = grantVersion current + 1 := by
  cases current with
  | none =>
    obtain rfl := Except.ok.inj h
    exact ⟨rfl, rfl⟩
  | some before =>
    rw [upsertGrant] at h
    split at h
    · obtain rfl := Except.ok.inj h
      exact ⟨hcurrent before rfl, rfl⟩
    · cases h

theorem applyMembership_grants :
    (applyMembership store params userId inputs).grants = store.grants := by
  unfold applyMembership
  dsimp only
  split
  · rfl
  · split <;> rfl

def SupportStore.stamps (store : SupportStore) : List SupportStamp :=
  store.capabilities.map Capability.stamp ++ store.jobs.map SupportJob.stamp

theorem map_stamp_revokeCapabilities {capabilities : List Capability} :
    (revokeCapabilities capabilities workspaceId userId).map Capability.stamp =
      capabilities.map Capability.stamp := by
  rw [revokeCapabilities, map_map]
  refine map_congr_left fun capability _ => ?_
  rw [Function.comp_apply]
  split <;> rfl

theorem applyMembership_stored :
    (applyMembership store params userId inputs).capabilities = store.capabilities ∧
      (applyMembership store params userId inputs).jobs = store.jobs := by
  unfold applyMembership
  dsimp only
  split
  · exact ⟨rfl, rfl⟩
  · split <;> exact ⟨rfl, rfl⟩

/-- **What a change does**: it finds the expected version and counts it up, and keeps all stamps. -/
theorem changeWorkspaceSupportGrant_ok {actor : AppActor}
    (h : changeWorkspaceSupportGrant platform scopeSlug store actor params inputs =
      .ok (store', grant)) :
    (grantVersion (store.grants.find? grant.key) : Int) = params.expectedVersion ∧
      grant.version = grantVersion (store.grants.find? grant.key) + 1 ∧
      store'.grants = store.grants.set grant ∧ store'.stamps = store.stamps := by
  obtain ⟨_, h⟩ := invariant_bind_ok.1 h
  obtain ⟨_, _, h⟩ := bind_ok.1 h
  obtain ⟨_, h⟩ := invariant_bind_ok.1 h
  obtain ⟨ownerId, _, h⟩ := bind_ok.1 h
  obtain ⟨user, _, h⟩ := bind_ok.1 h
  obtain ⟨_, h⟩ := invariant_bind_ok.1 h
  obtain ⟨hversion, h⟩ := invariant_bind_ok.1 h
  obtain ⟨_, h⟩ := invariant_bind_ok.1 h
  obtain ⟨_, h⟩ := invariant_bind_ok.1 h
  obtain ⟨written, hwritten, h⟩ := bind_ok.1 h
  obtain ⟨hstore, rfl⟩ := Prod.mk.inj (Except.ok.inj h)
  have hkey := upsertGrant_ok (fun before hbefore => (KeyedTable.find?_eq_some.1 hbefore).2)
    hwritten
  rw [hkey.1]
  refine ⟨of_decide_eq_true hversion, hkey.2, ?_, ?_⟩
  · rw [← hstore]
    exact applyMembership_grants
  · rw [← hstore]
    show (revokeCapabilities _ _ _).map Capability.stamp ++ _ = _
    rw [map_stamp_revokeCapabilities, applyMembership_stored.1, applyMembership_stored.2]
    rfl

/-- **A step** leaves a grant alone or counts its version up. -/
theorem SupportStep.stamp_apply (key : JsString × JsString) (store : SupportStore)
    (step : SupportStep) :
    (step.apply platform scopeSlug store).grants.find? key = store.grants.find? key ∨
      grantVersion (store.grants.find? key) <
        grantVersion ((step.apply platform scopeSlug store).grants.find? key) := by
  cases step with
  | change actor params inputs =>
    rw [SupportStep.apply]
    split
    · next changed grant hok =>
      obtain ⟨_, hnext, hgrants, _⟩ := changeWorkspaceSupportGrant_ok hok
      rw [hgrants, KeyedTable.find?_set]
      by_cases hkey : key = grant.key
      · subst hkey
        refine .inr ?_
        rw [if_pos rfl, grantVersion_some, hnext]
        exact Nat.lt_succ_self _
      · exact .inl (if_neg hkey)
    · exact .inl rfl
  | issue kind origin userId workspaceId expectedVersion =>
    rw [SupportStep.apply]
    split <;> exact .inl rfl
  | enqueue supportUserId origin workspaceId => exact .inl rfl
  | others tables => exact .inl rfl

/-- **A run** leaves a grant alone or counts its version up. -/
theorem stamp_runSupport (key : JsString × JsString) (steps : List SupportStep)
    (store : SupportStore) :
    (runSupport platform scopeSlug store steps).grants.find? key = store.grants.find? key ∨
      grantVersion (store.grants.find? key) <
        grantVersion ((runSupport platform scopeSlug store steps).grants.find? key) :=
  @List.stamp_le_foldl _ _ _ _ (fun store => store.grants.find? key) grantVersion
    (SupportStep.stamp_apply key) steps store

variable {steps : List SupportStep}

/-- **A stamp that is still current has been current all the time.** -/
theorem grant?_eq_of_current {done : List SupportStep} (hpre : done <+: steps)
    (hissued : stamp.Current store)
    (hused : stamp.Current (runSupport platform scopeSlug store steps)) :
    stamp.grant? (runSupport platform scopeSlug store done) = stamp.grant? store := by
  have hversions := hused.version.trans hissued.version.symm
  unfold SupportStamp.grant? at hversions ⊢
  cases huser : stamp.userId.bind orNull with
  | none => rfl
  | some userId =>
    rw [huser] at hversions
    refine @List.eq_of_stamp_eq _ _ _ _
      (fun store => store.grants.find? (stamp.workspaceId, userId)) grantVersion
      (SupportStep.stamp_apply (stamp.workspaceId, userId)) steps done store hpre ?_
    have hsame : ∀ found before : Option WorkspaceSupportGrant,
        found.map WorkspaceSupportGrant.version = before.map WorkspaceSupportGrant.version →
        grantVersion found ≤ grantVersion before := by
      intro found before h
      cases found with
      | none => exact Nat.zero_le _
      | some found =>
        cases before with
        | none => cases h
        | some before => exact (Option.some.inj h).le
    exact hsame _ _ hversions

/-! ## What is stored -/

/-- The stamp was written by a step of the run. -/
def IssuedIn (platform : EmailPlatform) (scopeSlug : Option JsString) (store : SupportStore)
    (steps : List SupportStep) (stamp : SupportStamp) : Prop :=
  ∃ before step after, steps = before ++ step :: after ∧
    step.issued? (runSupport platform scopeSlug store before) = some stamp

theorem IssuedIn.append (h : IssuedIn platform scopeSlug store steps stamp)
    (more : List SupportStep) : IssuedIn platform scopeSlug store (steps ++ more) stamp := by
  obtain ⟨before, step, after, rfl, hissued⟩ := h
  exact ⟨before, step, after ++ more, by simp, hissued⟩

/-- A step keeps the stamps that there are and adds the one that it writes. -/
theorem SupportStep.stamps_apply {step : SupportStep}
    (h : stamp ∈ (step.apply platform scopeSlug store).stamps) :
    stamp ∈ store.stamps ∨ step.issued? store = some stamp := by
  cases step with
  | change actor params inputs =>
    rw [SupportStep.apply] at h
    split at h
    · next changed grant hok => exact .inl ((changeWorkspaceSupportGrant_ok hok).2.2.2 ▸ h)
    · exact .inl h
  | issue kind origin userId workspaceId expectedVersion =>
    rw [SupportStep.apply] at h
    split at h
    · next version hok =>
      simp only [SupportStore.stamps, map_append, mem_append] at h ⊢
      rcases h with (h | h) | h
      · exact .inl (.inl h)
      · refine .inr ?_
        rw [SupportStep.issued?, hok]
        exact congrArg some (mem_singleton.1 h).symm
      · exact .inl (.inr h)
    · exact .inl h
  | enqueue supportUserId origin workspaceId =>
    simp only [SupportStep.apply, SupportStore.stamps, map_append, mem_append] at h ⊢
    rcases h with h | h | h
    · exact .inl (.inl h)
    · exact .inl (.inr h)
    · obtain ⟨job, hjob, rfl⟩ := mem_map.1 h
      refine .inr ?_
      rw [SupportStep.issued?, Option.mem_toList.1 hjob]
      rfl
  | others tables => exact .inl h

/-- **Every stamp in a store was written by a step of the run**, where there was none at first. -/
theorem issuedIn_of_mem_stamps (hempty : store.stamps = [])
    (h : stamp ∈ (runSupport platform scopeSlug store steps).stamps) :
    IssuedIn platform scopeSlug store steps stamp := by
  induction steps using reverseRecOn with
  | nil =>
    rw [runSupport, foldl_nil, hempty] at h
    simp at h
  | append_singleton steps step ih =>
    rw [runSupport, foldl_append] at h
    rcases SupportStep.stamps_apply h with hold | hnew
    · exact (ih hold).append [step]
    · exact ⟨steps, step, [], rfl, hnew⟩

/-! ## The guarantee -/

/-- The stamp is current after the run, and the grant is the one under which it was issued: nobody
changed it since. -/
def CurrentSince (platform : EmailPlatform) (scopeSlug : Option JsString) (store : SupportStore)
    (steps : List SupportStep) (stamp : SupportStamp) : Prop :=
  stamp.Current (runSupport platform scopeSlug store steps) ∧
    ∃ before step after, steps = before ++ step :: after ∧
      step.issued? (runSupport platform scopeSlug store before) = some stamp ∧
      ∀ done, done <+: step :: after →
        stamp.grant? (runSupport platform scopeSlug store (before ++ done)) =
          stamp.grant? (runSupport platform scopeSlug store before)

theorem runSupport_append {more : List SupportStep} :
    runSupport platform scopeSlug store (steps ++ more) =
      runSupport platform scopeSlug (runSupport platform scopeSlug store steps) more :=
  foldl_append

theorem currentSince_of_current (hempty : store.stamps = [])
    (hmem : stamp ∈ (runSupport platform scopeSlug store steps).stamps)
    (hused : stamp.Current (runSupport platform scopeSlug store steps)) :
    CurrentSince platform scopeSlug store steps stamp := by
  refine ⟨hused, ?_⟩
  obtain ⟨before, step, after, rfl, hissued⟩ := issuedIn_of_mem_stamps hempty hmem
  refine ⟨before, step, after, rfl, hissued, fun done hpre => ?_⟩
  rw [runSupport_append] at hused ⊢
  exact grant?_eq_of_current hpre (SupportStep.current_of_issued? hissued) hused

/-- **Support access never revives.** In every run from a store in which nothing has been issued: a
change counts the version of its grant up and touches no other, a grant whose version has not grown
has not changed, and of two changes of a grant the later one expects a greater version. Where a
capability is redeemed, or a job runs as a supporter, the grant is active with full access at the
stored version (or there is none and none was stored), and it has been the same since the capability
or the job was issued. -/
theorem support_access_never_revives (platform : EmailPlatform) (scopeSlug : Option JsString)
    (store : SupportStore) (hempty : store.stamps = []) :
    (∀ (steps : List SupportStep) (actor : AppActor) (params : ChangeParams)
        (inputs : ChangeInputs) (changed : SupportStore) (grant : WorkspaceSupportGrant),
      changeWorkspaceSupportGrant platform scopeSlug (runSupport platform scopeSlug store steps)
        actor params inputs = .ok (changed, grant) →
      grantVersion ((runSupport platform scopeSlug store steps).grants.find? grant.key) <
          grant.version ∧
        changed.grants.find? grant.key = some grant ∧
        ∀ key, key ≠ grant.key → changed.grants.find? key =
          (runSupport platform scopeSlug store steps).grants.find? key) ∧
    (∀ (steps more : List SupportStep) (key : JsString × JsString),
      (runSupport platform scopeSlug store (steps ++ more)).grants.find? key =
          (runSupport platform scopeSlug store steps).grants.find? key ∨
        grantVersion ((runSupport platform scopeSlug store steps).grants.find? key) <
          grantVersion ((runSupport platform scopeSlug store (steps ++ more)).grants.find? key)) ∧
    (∀ (steps between : List SupportStep) (actor actor' : AppActor) (params params' : ChangeParams)
        (inputs inputs' : ChangeInputs) (changed changed' : SupportStore)
        (grant grant' : WorkspaceSupportGrant),
      changeWorkspaceSupportGrant platform scopeSlug (runSupport platform scopeSlug store steps)
        actor params inputs = .ok (changed, grant) →
      changeWorkspaceSupportGrant platform scopeSlug (runSupport platform scopeSlug changed between)
        actor' params' inputs' = .ok (changed', grant') →
      grant'.key = grant.key → params.expectedVersion < params'.expectedVersion) ∧
    (∀ (steps : List SupportStep),
      ∀ capability ∈ (runSupport platform scopeSlug store steps).capabilities,
      ∀ version, redeemCapability (runSupport platform scopeSlug store steps) capability =
        .ok version → CurrentSince platform scopeSlug store steps capability.stamp) ∧
    ∀ (steps : List SupportStep), ∀ job ∈ (runSupport platform scopeSlug store steps).jobs,
      ∀ origin, withWorkspaceSupportExecution
          (runSupport platform scopeSlug store steps).grants job = .ok (some origin) →
        CurrentSince platform scopeSlug store steps job.stamp := by
  refine ⟨?_, ?_, ?_, ?_, ?_⟩
  · intro steps actor params inputs changed grant h
    obtain ⟨_, hversion, hgrants, _⟩ := changeWorkspaceSupportGrant_ok h
    refine ⟨by omega, ?_, fun key hne => ?_⟩
    · rw [hgrants, KeyedTable.find?_set, if_pos rfl]
    · rw [hgrants, KeyedTable.find?_set, if_neg hne]
  · intro steps more key
    rw [runSupport_append]
    exact stamp_runSupport key more _
  · intro steps between actor actor' params params' inputs inputs' changed changed' grant grant'
      h h' hkey
    obtain ⟨hexpected, hversion, hgrants, _⟩ := changeWorkspaceSupportGrant_ok h
    obtain ⟨hexpected', _, _, _⟩ := changeWorkspaceSupportGrant_ok h'
    have hfound : changed.grants.find? grant.key = some grant := by
      rw [hgrants, KeyedTable.find?_set, if_pos rfl]
    have hle : grant.version ≤
        grantVersion ((runSupport platform scopeSlug changed between).grants.find? grant.key) := by
      rcases stamp_runSupport grant.key between changed with hsame | hgrows
      · rw [hsame, hfound, grantVersion_some]
      · rw [hfound] at hgrows
        exact hgrows.le
    rw [hkey] at hexpected'
    omega
  · intro steps capability hmem version h
    refine currentSince_of_current hempty (mem_append_left _ ?_) (current_of_redeemCapability h)
    exact mem_map_of_mem hmem
  · intro steps job hmem origin h
    refine currentSince_of_current hempty (mem_append_right _ ?_)
      (current_of_withWorkspaceSupportExecution h)
    exact mem_map_of_mem hmem

/-- Case folding that changes nothing. -/
def caselessPlatform : EmailPlatform := ⟨id, trim_trim⟩

/-- A workspace with its owner, and an account that supports it. -/
def supportedStore : SupportStore where
  tables := {
    workspaces := ⟨[⟨lit "w", lit "w", some (lit "owner")⟩], by decide +kernel⟩
    users := ⟨[⟨lit "owner", lit "o@x", false⟩, ⟨lit "helper", lit "h@x", false⟩],
      by decide +kernel⟩
    members := ⟨[⟨lit "m", lit "w", lit "owner", .admin, .HUMAN, true⟩], by decide +kernel⟩ }
  grants := .empty
  capabilities := []
  jobs := []
  events := []
  auditLogs := []

/-- The owner grants full access, takes it back and grants it again; the account is issued a
credential under the first grant and another one under the last. -/
def grantTwice : List SupportStep :=
  let owner : AppActor := .user (lit "owner") (lit "o@x") none
  let inputs : ChangeInputs := ⟨lit "g", lit "m2", 0⟩
  let helper : Option JsString := some (lit "helper")
  [.change owner ⟨lit "w", lit "h@x", .FULL, true, 0⟩ inputs,
    .issue .agentCredential (some ⟨lit "helper", lit "w", 1⟩) helper (lit "w") none,
    .change owner ⟨lit "w", lit "h@x", .FULL, false, 1⟩ inputs,
    .change owner ⟨lit "w", lit "h@x", .FULL, true, 2⟩ inputs,
    .issue .agentCredential (some ⟨lit "helper", lit "w", 3⟩) helper (lit "w") none]

/-- The second credential is accepted, and its grant is the one that it was issued under. -/
theorem support_access_never_revives_granted :
    CurrentSince caselessPlatform none supportedStore grantTwice
      ⟨lit "w", some (lit "helper"), some 3⟩ :=
  (support_access_never_revives caselessPlatform none supportedStore rfl).2.2.2.1 grantTwice
    ⟨.agentCredential, lit "w", some (lit "helper"), some 3, false⟩ (by decide +kernel) (some 3)
    (by decide +kernel)

/-- The first one is not. -/
example : redeemCapability (runSupport caselessPlatform none supportedStore grantTwice)
    ⟨.agentCredential, lit "w", some (lit "helper"), some 1, true⟩ =
      .error ⟨403, "SUPPORT_AUTHORIZATION_REVOKED", "Support authorization is unavailable."⟩ := by
  decide +kernel

end Corgtex.Domain.Support
