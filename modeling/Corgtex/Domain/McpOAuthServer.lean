import Corgtex.Domain.OAuthServer

/-!
# Connections of MCP clients

`mcp-connector.ts`: a user consents to an authorization code for a client, the
client exchanges the code for a connection, which is a row of `McpOAuthAccessToken` with an access
and a refresh token, and rotates the two. The client revokes the connection with one of its tokens
(`revokeMcpToken`), the user by its id (`revokeMcpWorkspaceConnection`); either takes back the codes
of the same user, workspace and client that are not exchanged yet.

As in `Corgtex.Domain.OAuthServer` the transaction under the lock of the workspace is one step, and
every read before it is a step of its own. `resolveMcpOAuthAccessToken` takes no lock: it reads its
row twice, and admits what the second read has found.
-/

namespace Corgtex.Domain.Mcp

open JsString Support
open OAuth (TokenResponse fullGrant normalizeScopes)

/-! ## Tables -/

/-- The columns of `McpOAuthClient` that are read here. -/
structure McpOAuthClient where
  id : JsString
  clientId : JsString
  redirectUris : List JsString
  scopes : List JsString
  isActive : Bool

/-- The client, the user and the workspace that a code or a connection is for. -/
structure Holder where
  clientId : JsString
  userId : JsString
  workspaceId : JsString
deriving DecidableEq

/-- `McpOAuthAuthorizationCode`, with the hash of the code in `code`. -/
structure McpOAuthAuthorizationCode where
  id : JsString
  supportGrantVersion : Option Nat
  clientId : JsString
  userId : JsString
  workspaceId : JsString
  instanceSlug : JsString
  code : JsString
  scopes : List JsString
  redirectUri : JsString
  resource : Option JsString
  codeChallenge : JsString
  codeChallengeMethod : JsString
  expiresAt : Int
  usedAt : Option Int

/-- `McpOAuthAccessToken`, a connection. -/
structure McpOAuthAccessToken where
  id : JsString
  supportGrantVersion : Option Nat
  clientId : JsString
  userId : JsString
  workspaceId : JsString
  instanceSlug : JsString
  tokenHash : JsString
  refreshHash : Option JsString
  scopes : List JsString
  resource : Option JsString
  expiresAt : Int
  refreshExpiresAt : Option Int
  revokedAt : Option Int

def McpOAuthAuthorizationCode.holder (row : McpOAuthAuthorizationCode) : Holder :=
  ⟨row.clientId, row.userId, row.workspaceId⟩

def McpOAuthAccessToken.holder (row : McpOAuthAccessToken) : Holder :=
  ⟨row.clientId, row.userId, row.workspaceId⟩

/-- The rows of `McpOAuthAccessToken`, with its primary key and its two `@unique` columns. -/
structure ConnectionTable where
  rows : List McpOAuthAccessToken
  nodup_id : (rows.map McpOAuthAccessToken.id).Nodup
  nodup_tokenHash : (rows.map McpOAuthAccessToken.tokenHash).Nodup
  nodup_refreshHash : (rows.filterMap McpOAuthAccessToken.refreshHash).Nodup

namespace ConnectionTable

/-- A write of the table, which fails where it breaks one of its keys. -/
def write (rows : List McpOAuthAccessToken) : Except AppError ConnectionTable :=
  if h : (rows.map McpOAuthAccessToken.id).Nodup ∧
      (rows.map McpOAuthAccessToken.tokenHash).Nodup ∧
      (rows.filterMap McpOAuthAccessToken.refreshHash).Nodup then
    .ok ⟨rows, h.1, h.2.1, h.2.2⟩
  else .error ⟨500, "P2002", "Unique constraint failed"⟩

theorem rows_of_write {rows : List McpOAuthAccessToken} {table : ConnectionTable}
    (h : write rows = .ok table) : table.rows = rows := by
  unfold write at h
  split at h
  · cases h
    rfl
  · cases h

/-- The rows that `test` matches are revoked. -/
def revoke (table : ConnectionTable) (test : McpOAuthAccessToken → Bool) (now : Int) :
    ConnectionTable where
  rows := table.rows.map fun row => if test row then { row with revokedAt := some now } else row
  nodup_id := by
    rw [List.map_map, List.map_congr_left (g := McpOAuthAccessToken.id)]
    · exact table.nodup_id
    · intro row _
      simp only [Function.comp_apply]
      split <;> rfl
  nodup_tokenHash := by
    rw [List.map_map, List.map_congr_left (g := McpOAuthAccessToken.tokenHash)]
    · exact table.nodup_tokenHash
    · intro row _
      simp only [Function.comp_apply]
      split <;> rfl
  nodup_refreshHash := by
    rw [List.filterMap_map, List.filterMap_congr (g := McpOAuthAccessToken.refreshHash)]
    · exact table.nodup_refreshHash
    · intro row _
      simp only [Function.comp_apply]
      split <;> rfl

/-- The rows that `keeps` holds of. -/
def filter (table : ConnectionTable) (keeps : McpOAuthAccessToken → Bool) : ConnectionTable where
  rows := table.rows.filter keeps
  nodup_id := (List.filter_sublist.map _).nodup table.nodup_id
  nodup_tokenHash := (List.filter_sublist.map _).nodup table.nodup_tokenHash
  nodup_refreshHash := (List.filter_sublist.filterMap _).nodup table.nodup_refreshHash

end ConnectionTable

/-- The store, with the tables and the support grants that other code changes. -/
structure McpStore where
  tables : SupportTables
  grants : KeyedTable WorkspaceSupportGrant WorkspaceSupportGrant.key
  clients : KeyedTable McpOAuthClient McpOAuthClient.id
  codes : KeyedTable McpOAuthAuthorizationCode McpOAuthAuthorizationCode.code
  connections : ConnectionTable

/-! ## The deployment -/

/-- The fields of `McpConnectorInstance` that are read here. -/
structure McpConnectorInstance where
  slug : JsString
  workspaceIds : List JsString
  workspaceSlugs : List JsString
  active : Bool

/-- What a deployment fixes: the settings that are read here (`DEPLOYMENT_WORKSPACE_SCOPE_SLUG`,
`MCP_WORKSPACE_CONNECTIONS_ENABLED`), the instances that `listMcpConnectorInstances` reads from
them, and what the functions over `URL` and SHA-256 compute. `normalizeMcpResource` is `none` where
the text is no URL, and `allowsLoopback` is the second half of `isAllowedMcpRedirectUri`. -/
structure McpDeployment where
  scopeSlug : Option JsString
  workspaceConnectionsEnabled : Bool
  instances : List McpConnectorInstance
  publicUrl : JsString
  canonicalOrigin : JsString
  workspaceFromMcpResource : JsString → Option JsString
  normalizeMcpResource : JsString → Option JsString
  areEquivalentMcpResources : JsString → JsString → Except AppError Bool
  allowsLoopback : List JsString → JsString → Bool
  sha256 : JsString → JsString
  pkceS256 : JsString → JsString

namespace McpDeployment

variable (deployment : McpDeployment)

/-- `getMcpConnectorInstance(slug) !== null` (line 270). -/
def hasInstance (slug : JsString) : Bool :=
  deployment.instances.any fun candidate => candidate.slug = slug && candidate.active

/-- `resolveMcpConnectorInstanceForWorkspace` (line 365). -/
def instanceForWorkspace (tables : SupportTables) (workspaceId : JsString) :
    Except AppError McpConnectorInstance :=
  match tables.workspaces.find? workspaceId with
  | none => .error ⟨404, "NOT_FOUND", "Workspace not found."⟩
  | some workspace =>
    let instances := deployment.instances.filter (·.active)
    let explicit := instances.find? fun candidate =>
      candidate.workspaceIds.contains workspace.id ||
        candidate.workspaceSlugs.contains workspace.slug
    let unrestrictedDefault := instances.find? fun candidate =>
      candidate.workspaceIds.length = 0 && candidate.workspaceSlugs.length = 0
    match explicit <|> unrestrictedDefault with
    | some found => .ok found
    | none =>
      .error ⟨403, "FORBIDDEN", "This workspace is not registered for the Corgtex connector."⟩

/-- `requireWorkspaceMcpActivation` (`mcp-resource.ts:4`). -/
def requireWorkspaceMcpActivation : Except AppError Unit :=
  invariant deployment.workspaceConnectionsEnabled 503 "MCP_WORKSPACE_CONNECTIONS_DISABLED"
    "Workspace MCP connections are not active on this deployment."

/-- `validateMcpConsentResource` (`mcp-resource.ts:29`). -/
def validateMcpConsentResource (resource workspaceId : JsString) : Except AppError Unit := do
  let bound := (deployment.workspaceFromMcpResource resource).bind orNull
  invariant (bound.elim
      (resource = deployment.canonicalOrigin ++ lit "/mcp" ||
        resource = deployment.canonicalOrigin ++ lit "/api/mcp")
      fun bound => workspaceId = [] || bound = workspaceId)
    400 "INVALID_MCP_RESOURCE"
    "The MCP resource must identify exactly the requested workspace on this deployment."
  checkIf bound.isSome deployment.requireWorkspaceMcpActivation

/-- `isAllowedMcpRedirectUri` (line 724). -/
def isAllowedMcpRedirectUri (registeredRedirectUris : List JsString) (redirectUri : JsString) :
    Bool :=
  registeredRedirectUris.contains redirectUri ||
    deployment.allowsLoopback registeredRedirectUris redirectUri

/-- `verifyPkce` (line 711). -/
def verifyPkce (verifier challenge method : JsString) : Except AppError Unit := do
  invariant (method = lit "S256") 400 "INVALID_INPUT"
    "Only S256 PKCE is supported for MCP connector clients."
  invariant (deployment.pkceS256 verifier = challenge) 400 "INVALID_INPUT"
    "Invalid PKCE code verifier."

end McpDeployment

/-! ## Scopes -/

/-- `ALL_SCOPES` (`agent-auth.ts:109`). -/
def ALL_SCOPES : List JsString := [
  "workspace:read", "workspace:write", "support:write", "archive:read", "archive:write",
  "brain:read", "context-graph:read", "context-graph:propose", "context-graph:approve",
  "conversations:write", "proposals:read", "proposals:write", "actions:read", "actions:write",
  "execution:read", "execution:write", "relationships:read", "relationships:write",
  "tensions:read", "tensions:write", "goals:read", "goals:write", "members:read", "members:write",
  "tools:read", "tools:write", "tools:credentials:read", "external-tools:read",
  "external-tools:write", "meetings:read", "meetings:write", "documents:write", "brain:write",
  "circles:read", "governance:read", "finance:read", "finance:write", "integrations:read",
  "data-sources:read", "data-sources:write", "webhooks:write", "agents:read", "runtime:read",
  "runtime:write"].map lit

/-- `MCP_CONNECTOR_LEGACY_DEFAULT_SCOPES` (line 49). -/
def MCP_CONNECTOR_LEGACY_DEFAULT_SCOPES : List JsString := [
  "workspace:read", "brain:read", "governance:read", "meetings:read", "proposals:read",
  "actions:read", "tensions:read", "members:read", "circles:read", "finance:read",
  "conversations:write"].map lit

/-- `MCP_CONNECTOR_PRE_ACTION_PROPOSAL_WRITE_DEFAULT_SCOPES` (line 63). -/
def MCP_CONNECTOR_PRE_ACTION_PROPOSAL_WRITE_DEFAULT_SCOPES : List JsString := [
  "workspace:read", "brain:read", "governance:read", "context-graph:read", "proposals:read",
  "actions:read", "tensions:read", "goals:read", "members:read", "meetings:read", "circles:read",
  "tools:read", "conversations:write"].map lit

/-- `MCP_CONNECTOR_DEFAULT_SCOPES` (line 79). -/
def MCP_CONNECTOR_DEFAULT_SCOPES : List JsString := [
  "workspace:read", "brain:read", "governance:read", "context-graph:read", "proposals:read",
  "proposals:write", "actions:read", "actions:write", "tensions:read", "goals:read",
  "members:read", "meetings:read", "circles:read", "tools:read", "conversations:write"].map lit

/-- `MCP_OAUTH_PROTOCOL_SCOPES` (line 101). -/
def MCP_OAUTH_PROTOCOL_SCOPES : List JsString :=
  ["openid", "profile", "email", "offline_access"].map lit

/-- `MCP_USER_DELEGATION_FORBIDDEN_SCOPES` (line 105). -/
def MCP_USER_DELEGATION_FORBIDDEN_SCOPES : List JsString :=
  ["context-graph:approve", "support:write", "tools:credentials:read", "webhooks:write"].map lit

/-- The invariant that no scope is refused, whose message names those that are. -/
def refuseScopes (message : String) (scopes : List JsString) : Except AppError Unit :=
  invariant (scopes.length = 0) 400 "INVALID_INPUT"
    (message ++ String.ofList ((Utf8.scalars (join (lit ", ") scopes)).map Char.ofNat) ++ ".")

/-- `normalizeMcpPermissionScopes` (line 392). -/
def normalizeMcpPermissionScopes (scopes fallbackScopes : List JsString) :
    Except AppError (List JsString) := do
  let permissionScopes := (normalizeScopes scopes).filter (· ∉ MCP_OAUTH_PROTOCOL_SCOPES)
  let effective := if permissionScopes.length > 0 then permissionScopes else fallbackScopes
  refuseScopes "Unknown MCP scope(s): " (effective.filter (· ∉ ALL_SCOPES))
  refuseScopes "MCP OAuth user delegation cannot request sensitive/support-only scope(s): "
    (effective.filter (· ∈ MCP_USER_DELEGATION_FORBIDDEN_SCOPES))
  .ok effective

/-- `hasSameScopeSet` (line 420). -/
def hasSameScopeSet (left right : List JsString) : Bool :=
  left.length = right.length && left.all (· ∈ right)

/-- `resolveMcpClientAllowedScopes` (line 426). -/
def resolveMcpClientAllowedScopes (scopes : List JsString) : Except AppError (List JsString) := do
  let normalized ← normalizeMcpPermissionScopes scopes MCP_CONNECTOR_DEFAULT_SCOPES
  let matchesHistoricalDefault := [MCP_CONNECTOR_LEGACY_DEFAULT_SCOPES,
    MCP_CONNECTOR_PRE_ACTION_PROPOSAL_WRITE_DEFAULT_SCOPES].any (hasSameScopeSet normalized)
  let allowed := if matchesHistoricalDefault then MCP_CONNECTOR_DEFAULT_SCOPES else normalized
  .ok (allowed.filter (· ∉ MCP_USER_DELEGATION_FORBIDDEN_SCOPES))

/-- `requestedScopes` (line 437). -/
def requestedScopes (scopes : Option (List JsString)) (allowedScopes : List JsString) :
    Except AppError (List JsString) := do
  let effectiveAllowedScopes ← resolveMcpClientAllowedScopes allowedScopes
  let effective ← normalizeMcpPermissionScopes (scopes.getD []) effectiveAllowedScopes
  let canStepUpFromBaseline := hasSameScopeSet effectiveAllowedScopes MCP_CONNECTOR_DEFAULT_SCOPES
  refuseScopes "Requested MCP scope(s) are not allowed for this client: "
    (if canStepUpFromBaseline then [] else effective.filter (· ∉ effectiveAllowedScopes))
  .ok effective

/-! ## Requests up to the lock -/

/-- The parameters of `issueMcpAuthorizationCode`; `expectedSupportGrantVersion` is `none` where the
caller leaves it out. -/
structure IssueParams where
  clientId : JsString
  workspaceId : JsString
  redirectUri : JsString
  scopes : Option (List JsString)
  codeChallenge : JsString
  codeChallengeMethod : JsString
  resource : Option JsString
  expectedSupportGrantVersion : Option (Option Nat)

/-- The parameters of `exchangeMcpAuthorizationCode`. -/
structure ExchangeParams where
  code : JsString
  clientId : JsString
  redirectUri : JsString
  codeVerifier : JsString
  resource : Option JsString

/-- The parameters of `refreshMcpAccessToken`. -/
structure RefreshParams where
  refreshToken : JsString
  clientId : JsString
  resource : Option JsString
  scopes : Option (List JsString)

/-- A request that has passed its checks outside the lock, or the first of its reads. -/
inductive McpRequest
  | issue (params : IssueParams) (userId : JsString) (client : McpOAuthClient)
      (instanceSlug resource : JsString) (scopes : List JsString)
  | exchange (params : ExchangeParams) (client : McpOAuthClient)
  | refresh (params : RefreshParams) (client : McpOAuthClient)

variable (deployment : McpDeployment)

/-- `getMcpOAuthClientByClientId` (line 842). The metadata document of a client that is not
registered is fetched and stored first, which is a change of the clients. -/
def getMcpOAuthClientByClientId (store : McpStore) (clientId : JsString) :
    Except AppError McpOAuthClient :=
  match (store.clients.rows.find? fun client => client.clientId = clientId).filter (·.isActive) with
  | some client => .ok client
  | none => .error ⟨404, "NOT_FOUND", "MCP OAuth client not found or inactive."⟩

/-- `issueMcpAuthorizationCode` (line 862) up to the drawing of the code, with what
`requireWorkspaceMembership` comes to. -/
def checkIssue (store : McpStore) (actor : AppActor) (params : IssueParams)
    (membership : Except AppError Unit) : Except AppError McpRequest :=
  match actor.userId? with
  | none => .error ⟨403, "FORBIDDEN", "Only users can complete MCP connector OAuth flows."⟩
  | some userId => do
    membership
    let client ← getMcpOAuthClientByClientId store params.clientId
    invariant (deployment.isAllowedMcpRedirectUri client.redirectUris params.redirectUri) 400
      "INVALID_INPUT" "Redirect URI is not registered for this MCP client."
    invariant (params.codeChallenge.length > 0) 400 "INVALID_INPUT"
      "PKCE code_challenge is required."
    invariant (params.codeChallengeMethod = lit "S256") 400 "INVALID_INPUT"
      "PKCE code_challenge_method must be S256."
    let found ← deployment.instanceForWorkspace store.tables params.workspaceId
    let resource ← match params.resource.bind orNull with
      | none => .ok deployment.publicUrl
      | some resource =>
        match deployment.normalizeMcpResource resource with
        | none => .error ⟨400, "INVALID_INPUT", "MCP OAuth resource must be a valid URL."⟩
        | some normalized => .ok normalized
    deployment.validateMcpConsentResource (params.resource.getD resource) params.workspaceId
    let scopes ← requestedScopes params.scopes client.scopes
    .ok (.issue params userId client found.slug resource scopes)

/-- The user, the workspace and the version of the support grant that a request is authorized with:
its own for a new code, and those of the candidate row otherwise (`mcp-connector.ts:922`,
`:1013`). -/
def McpRequest.candidate (request : McpRequest) (store : McpStore) :
    Except AppError (JsString × JsString × Option (Option Nat)) :=
  match request with
  | .issue params userId _ _ _ _ =>
    .ok (userId, params.workspaceId, params.expectedSupportGrantVersion)
  | .exchange params _ =>
    match store.codes.find? (deployment.sha256 params.code) with
    | none => .error ⟨400, "INVALID_INPUT", "Invalid authorization code."⟩
    | some candidate =>
      .ok (candidate.userId, candidate.workspaceId, some candidate.supportGrantVersion)
  | .refresh params _ =>
    match (store.connections.rows.find? fun row =>
        row.refreshHash = some (deployment.sha256 params.refreshToken)).filter
          (·.revokedAt.isNone) with
    | none => .error ⟨401, "UNAUTHENTICATED", "Invalid or revoked refresh token."⟩
    | some candidate =>
      .ok (candidate.userId, candidate.workspaceId, some candidate.supportGrantVersion)

/-- `withOAuthWorkspaceAuthorization` (`oauth-workspace-authorization.ts:9`) up to the lock. -/
def captureAuthorization (store : McpStore) (origin : Option SupportOrigin)
    (userId workspaceId : JsString) (expectedVersion : Option (Option Nat)) :
    Except AppError (Option WorkspaceSupportGrant) := do
  let captured := store.grants.find? (workspaceId, userId)
  supportRevoked (expectedVersion.all (· = captured.map (·.version)))
  supportRevoked (origin.all fun origin => origin.userId = userId &&
    origin.workspaceId = workspaceId && some origin.version = captured.map (·.version))
  invariant (fullGrant captured) 403 "SUPPORT_CONTENT_RESTRICTED" "Content access is restricted."
  .ok captured

/-- Its checks under the lock, and the version that it hands on. -/
def authorizeUnderLock (store : McpStore) (captured : Option WorkspaceSupportGrant)
    (userId workspaceId : JsString) : Except AppError (Option Nat) := do
  requireDeploymentWorkspaceScope deployment.scopeSlug store.tables workspaceId
  let current := store.grants.find? (workspaceId, userId)
  supportRevoked (current.map (·.version) = captured.map (·.version) && fullGrant current)
  invariant ((store.tables.members.find? (workspaceId, userId)).any (·.isActive)) 403
    "NOT_A_MEMBER" "You are not an active member of this workspace."
  .ok (current.map (·.version))

/-! ## Under the lock -/

/-- The time, the id of a new row and the opaque tokens that a transaction is given. -/
structure McpInputs where
  now : Int
  id : JsString
  token : JsString
  refreshToken : JsString

/-- The tokens of a transaction. -/
def McpInputs.response (inputs : McpInputs) (scopes : List JsString) : TokenResponse where
  access_token := lit "mcp_at_" ++ inputs.token
  token_type := "bearer"
  expires_in := 3600
  refresh_token := lit "mcp_rt_" ++ inputs.refreshToken
  scope := join (lit " ") scopes

/-- The transaction of `issueMcpAuthorizationCode` (line 892), with the code that it has drawn
before the lock and uses here first. -/
def issueUnderLock (store : McpStore) (params : IssueParams) (userId : JsString)
    (client : McpOAuthClient) (instanceSlug resource : JsString) (scopes : List JsString)
    (supportGrantVersion : Option Nat) (inputs : McpInputs) :
    Except AppError (McpStore × JsString) := do
  let code := lit "mcp_code_" ++ inputs.token
  let row : McpOAuthAuthorizationCode := {
    id := inputs.id, supportGrantVersion := supportGrantVersion, clientId := client.id
    userId := userId, workspaceId := params.workspaceId, instanceSlug := instanceSlug
    code := deployment.sha256 code, scopes := scopes, redirectUri := params.redirectUri
    resource := some resource, codeChallenge := params.codeChallenge
    codeChallengeMethod := params.codeChallengeMethod
    expiresAt := inputs.now + 10 * 60 * 1000, usedAt := none }
  invariant (store.clients.find? client.id).isSome 500 "P2003" "Foreign key constraint failed"
  if h : row.code ∈ store.codes.rows.map McpOAuthAuthorizationCode.code then
    .error ⟨500, "P2002", "Unique constraint failed"⟩
  else .ok ({ store with codes := store.codes.insert row h }, code)

/-- The checks of the resources of an exchange (line 944). -/
def checkExchangeResource (resource : Option JsString) (authCode : McpOAuthAuthorizationCode) :
    Except AppError Unit := do
  let bound := (authCode.resource.bind orNull).bind fun resource =>
    (deployment.workspaceFromMcpResource resource).bind orNull
  checkIf bound.isSome do
    deployment.requireWorkspaceMcpActivation
    invariant (resource = authCode.resource && bound = some authCode.workspaceId) 400
      "INVALID_MCP_RESOURCE" "The canonical workspace resource is required."
  match resource.bind orNull, authCode.resource.bind orNull with
  | some requested, some stored =>
    invariant (← deployment.areEquivalentMcpResources stored requested) 400 "INVALID_INPUT"
      "Resource parameter mismatch."
  | _, _ => .ok ()

/-- The connection that an exchange creates (line 977). -/
def exchangedRow (client : McpOAuthClient) (authCode : McpOAuthAuthorizationCode)
    (inputs : McpInputs) : McpOAuthAccessToken where
  id := inputs.id
  supportGrantVersion := authCode.supportGrantVersion
  clientId := client.id
  userId := authCode.userId
  workspaceId := authCode.workspaceId
  instanceSlug := authCode.instanceSlug
  tokenHash := deployment.sha256 (inputs.response authCode.scopes).access_token
  refreshHash := some (deployment.sha256 (inputs.response authCode.scopes).refresh_token)
  scopes := authCode.scopes
  resource := authCode.resource
  expiresAt := inputs.now + 3600 * 1000
  refreshExpiresAt := some (inputs.now + 30 * 24 * 60 * 60 * 1000)
  revokedAt := none

/-- The transaction of `exchangeMcpAuthorizationCode` (line 914), with the connection that it has
created. -/
def exchangeUnderLock (store : McpStore) (params : ExchangeParams) (client : McpOAuthClient)
    (inputs : McpInputs) : Except AppError (McpStore × McpOAuthAccessToken × TokenResponse) :=
  match store.codes.find? (deployment.sha256 params.code) with
  | none => .error ⟨400, "INVALID_INPUT", "Invalid authorization code."⟩
  | some authCode => do
    invariant authCode.usedAt.isNone 400 "INVALID_INPUT" "Authorization code already used."
    invariant (inputs.now ≤ authCode.expiresAt) 400 "INVALID_INPUT" "Authorization code expired."
    invariant (authCode.clientId = client.id) 400 "INVALID_INPUT"
      "Authorization code not issued for this client."
    invariant (authCode.redirectUri = params.redirectUri) 400 "INVALID_INPUT"
      "Redirect URI mismatch."
    checkExchangeResource deployment params.resource authCode
    deployment.verifyPkce params.codeVerifier authCode.codeChallenge authCode.codeChallengeMethod
    invariant (deployment.hasInstance authCode.instanceSlug) 403 "FORBIDDEN"
      "The target Corgtex instance is no longer registered."
    let codes := store.codes.updateMany (fun row => row.id = authCode.id)
      (fun row => { row with usedAt := some inputs.now }) (fun _ => rfl)
    let row := exchangedRow deployment client authCode inputs
    let connections ← ConnectionTable.write (store.connections.rows ++ [row])
    .ok ({ store with codes := codes, connections := connections }, row,
      inputs.response authCode.scopes)

/-- The condition of the update of a refresh (line 1047). -/
def rotates (token : McpOAuthAccessToken) (refreshToken : JsString) (row : McpOAuthAccessToken) :
    Bool :=
  row.id = token.id && row.refreshHash = some (deployment.sha256 refreshToken) &&
    row.revokedAt.isNone

/-- Its data. -/
def rotatedRow (inputs : McpInputs) (row : McpOAuthAccessToken) : McpOAuthAccessToken :=
  { row with
    tokenHash := deployment.sha256 (inputs.response row.scopes).access_token
    refreshHash := some (deployment.sha256 (inputs.response row.scopes).refresh_token)
    expiresAt := inputs.now + 3600 * 1000
    refreshExpiresAt := some (inputs.now + 30 * 24 * 60 * 60 * 1000) }

/-- The transaction of `refreshMcpAccessToken` (line 1006), with the connection that it has read. -/
def refreshUnderLock (store : McpStore) (params : RefreshParams) (client : McpOAuthClient)
    (inputs : McpInputs) : Except AppError (McpStore × McpOAuthAccessToken × TokenResponse) :=
  match (store.connections.rows.find? fun row =>
      row.refreshHash = some (deployment.sha256 params.refreshToken)).filter
        (·.revokedAt.isNone) with
  | none => .error ⟨401, "UNAUTHENTICATED", "Invalid or revoked refresh token."⟩
  | some token => do
    checkIf ((deployment.workspaceFromMcpResource (token.resource.getD [])).bind orNull).isSome
      deployment.requireWorkspaceMcpActivation
    invariant ((params.resource.bind orNull).all fun resource => token.resource = some resource)
      400 "INVALID_MCP_RESOURCE" "Resource parameter mismatch."
    invariant (params.scopes.all fun scopes =>
        scopes.all (· ∈ token.scopes) && token.scopes.all (· ∈ scopes)) 400 "INVALID_SCOPE"
      "Refresh preserves connection permissions. Authorize a new connection to change scopes."
    invariant (token.clientId = client.id) 400 "INVALID_INPUT" "Token not issued for this client."
    invariant (token.refreshExpiresAt.all (inputs.now ≤ ·)) 401 "UNAUTHENTICATED"
      "Refresh token expired."
    invariant (deployment.hasInstance token.instanceSlug) 403 "FORBIDDEN"
      "The target Corgtex instance is no longer registered."
    let test := rotates deployment token params.refreshToken
    let connections ← ConnectionTable.write (store.connections.rows.map fun row =>
      if test row then rotatedRow deployment inputs row else row)
    invariant ((store.connections.rows.filter test).length = 1) 401 "UNAUTHENTICATED"
      "Invalid or revoked refresh token."
    .ok ({ store with connections := connections }, token, inputs.response token.scopes)

/-! ## Revocations -/

section
variable (store : McpStore)

/-- The codes of a holder that are not used yet become used. -/
def McpStore.takeBackCodes (holder : Holder) (now : Int) : McpStore :=
  { store with
    codes := store.codes.updateMany (fun row => row.holder = holder && row.usedAt.isNone)
      (fun row => { row with usedAt := some now }) (fun _ => rfl) }

/-- `mcpOAuthAccessToken.update` of the revocation of a connection. -/
def McpStore.revokeConnection (id : JsString) (now : Int) : Except AppError McpStore :=
  if store.connections.rows.any (·.id = id) then
    .ok { store with connections := store.connections.revoke (·.id = id) now }
  else .error ⟨500, "P2025", "No record was found for an update."⟩

/-- The transaction of `revokeMcpToken` (line 1068), for the row that it has read. -/
def revokeTokenUnderLock (token : McpOAuthAccessToken) (now : Int) : Except AppError McpStore :=
  (store.takeBackCodes token.holder now).revokeConnection token.id now

/-- The transaction of `revokeMcpWorkspaceConnection` (line 1171), with the connection that it has
read. -/
def revokeConnectionUnderLock (userId workspaceId connectionId : JsString)
    (now : Int) : Except AppError (McpStore × McpOAuthAccessToken) :=
  match store.connections.rows.find? fun row => row.id = connectionId &&
      row.workspaceId = workspaceId && row.userId = userId with
  | none => .error ⟨404, "NOT_FOUND", "Connection not found."⟩
  | some token => do
    let revoked ← store.revokeConnection token.id now
    .ok (revoked.takeBackCodes ⟨token.clientId, token.userId, workspaceId⟩ now, token)

/-- The row of `revokeMcpToken` (line 1068). -/
def findPresented (token : JsString) : Option McpOAuthAccessToken :=
  store.connections.rows.find? fun row => row.tokenHash = deployment.sha256 token ||
    row.refreshHash = some (deployment.sha256 token)

/-- Whether `revokeMcpToken` goes on with that row (line 1080). -/
def mayRevoke (token : McpOAuthAccessToken) (clientId : Option JsString) : Except AppError Bool :=
  match clientId.bind orNull with
  | none => .ok true
  | some clientId => do
    let client ← getMcpOAuthClientByClientId store clientId
    .ok (token.clientId = client.id)

end

/-! ## Presented tokens -/

/-- `admitted` (line 1099). -/
def admitted (expectedResource : Option JsString) (client : McpOAuthClient) (now : Int)
    (row : McpOAuthAccessToken) : Except AppError Bool :=
  let scopedResource :=
    (deployment.workspaceFromMcpResource (expectedResource.getD [])).bind orNull
  let bound := (deployment.workspaceFromMcpResource (row.resource.getD [])).bind orNull
  if row.revokedAt.isNone && client.isActive && decide (now ≤ row.expiresAt) &&
      row.refreshExpiresAt.all (now < ·) &&
      (!(scopedResource.isSome || bound.isSome) || deployment.workspaceConnectionsEnabled) &&
      scopedResource.all fun workspaceId =>
        row.workspaceId = workspaceId && row.resource = expectedResource then do
    let equivalent ← match expectedResource.bind orNull, row.resource.bind orNull with
      | some expected, some stored => deployment.areEquivalentMcpResources stored expected
      | _, _ => .ok true
    .ok (equivalent && deployment.hasInstance row.instanceSlug)
  else .ok false

section
variable (store : McpStore) (tokenString : JsString) (expectedResource : Option JsString)

/-- The first read of `resolveMcpOAuthAccessToken` (line 1096). -/
def readCandidate (now : Int) : Option McpOAuthAccessToken := do
  let candidate ← store.connections.rows.find? fun row =>
    row.tokenHash = deployment.sha256 tokenString
  let client ← store.clients.find? candidate.clientId
  if admitted deployment expectedResource client now candidate = .ok true then some candidate
  else none

/-- The second, behind the lock of the grant epoch (line 1118). -/
def authenticate (candidate : McpOAuthAccessToken) (now : Int) : Option McpOAuthAccessToken := do
  let token ← store.connections.rows.find? fun row => row.id = candidate.id
  let client ← store.clients.find? token.clientId
  if token.tokenHash = deployment.sha256 tokenString ∧ token.workspaceId = candidate.workspaceId ∧
      token.userId = candidate.userId ∧ token.clientId = candidate.clientId ∧
      admitted deployment expectedResource client now token = .ok true then some token
  else none

end

/-- Whether the row is returned (line 1133), with what `requireWorkspaceMembership` comes to. -/
def mayUse (store : McpStore) (token : McpOAuthAccessToken) (membership : Except AppError Unit) :
    Bool :=
  (supportCapabilityVersion store.grants none (some token.userId) token.workspaceId
      (some token.supportGrantVersion)).isOk && membership.isOk

/-- `resolveMcpOAuthAccessToken`, where nothing happens between its reads. -/
def resolveMcpOAuthAccessToken (store : McpStore) (tokenString : JsString)
    (expectedResource : Option JsString) (now : Int) (membership : Except AppError Unit) :
    Option McpOAuthAccessToken := do
  let candidate ← readCandidate deployment store tokenString expectedResource now
  let token ← authenticate deployment store tokenString expectedResource candidate now
  if mayUse store token membership then some token else none

/-! ## Requests in flight -/

/-- A connection, by the columns that never change. -/
structure Connection where
  id : JsString
  holder : Holder
  scopes : List JsString
deriving DecidableEq

def McpOAuthAccessToken.connection (row : McpOAuthAccessToken) : Connection :=
  ⟨row.id, row.holder, row.scopes⟩

/-- What requests have come to, in the order of their last steps; `readAt` is the length of the log
when an admitted token was read behind the lock of the grant epoch. -/
inductive McpEvent
  | issued (code : JsString) (holder : Holder) (scopes : List JsString)
  | exchanged (code : JsString) (connection : Connection) (response : TokenResponse)
  | refreshed (refreshToken : JsString) (connection : Connection) (response : TokenResponse)
  | revoked (connection : Connection)
  | admitted (token : JsString) (connection : Connection) (readAt : Nat)
deriving DecidableEq

/-- A request in flight, by what it has done. -/
inductive McpCall
  | checked (request : McpRequest) (origin : Option SupportOrigin)
  | found (request : McpRequest) (origin : Option SupportOrigin) (userId workspaceId : JsString)
      (expectedVersion : Option (Option Nat))
  | captured (request : McpRequest) (grant : Option WorkspaceSupportGrant)
      (userId workspaceId : JsString)
  | presented (row : McpOAuthAccessToken) (clientId : Option JsString)
  | revoking (row : McpOAuthAccessToken)
  | disconnecting (userId workspaceId connectionId : JsString)
  | candidateRead (token : JsString) (expectedResource : Option JsString)
      (candidate : McpOAuthAccessToken)
  | authenticated (token : JsString) (row : McpOAuthAccessToken) (readAt : Nat)

structure McpState where
  store : McpStore
  calls : Nat → Option McpCall
  log : List McpEvent

/-- A step: the reads and the transaction of the requests, and the changes of others. -/
inductive McpStep
  | issue (i : Nat) (actor : AppActor) (params : IssueParams) (membership : Except AppError Unit)
      (origin : Option SupportOrigin)
  | exchange (i : Nat) (params : ExchangeParams) (origin : Option SupportOrigin)
  | refresh (i : Nat) (params : RefreshParams) (origin : Option SupportOrigin)
  | candidate (i : Nat)
  | capture (i : Nat)
  | revokeToken (i : Nat) (token : JsString) (clientId : Option JsString)
  | checkRevocation (i : Nat)
  | revokeConnection (i : Nat) (actor : AppActor) (workspaceId connectionId : JsString)
      (membership : Except AppError Unit)
  | transact (i : Nat) (inputs : McpInputs)
  | resolve (i : Nat) (tokenString : JsString) (expectedResource : Option JsString) (now : Int)
  | resolveAgain (i : Nat) (now : Int)
  | resolveUser (i : Nat) (membership : Except AppError Unit)
  | changeClients (clients : KeyedTable McpOAuthClient McpOAuthClient.id)
  | changeGrant (tables : SupportTables)
      (grants : KeyedTable WorkspaceSupportGrant WorkspaceSupportGrant.key)
      (revoked : Option (JsString × JsString)) (now : Int)

/-- The opaque tokens and the id that a step draws. -/
def McpStep.draws : McpStep → List JsString
  | .transact _ inputs => [inputs.token, inputs.refreshToken, inputs.id]
  | _ => []

/-- The transaction of a request that is authorized for `supportGrantVersion`, and what it has come
to. -/
def McpRequest.transact (request : McpRequest) (store : McpStore)
    (supportGrantVersion : Option Nat) (inputs : McpInputs) :
    Except AppError (McpStore × McpEvent) :=
  match request with
  | .issue params userId client instanceSlug resource scopes => do
    let (store', code) ← issueUnderLock deployment store params userId client instanceSlug resource
      scopes supportGrantVersion inputs
    .ok (store', .issued code ⟨client.id, userId, params.workspaceId⟩ scopes)
  | .exchange params client => do
    let (store', row, response) ← exchangeUnderLock deployment store params client inputs
    .ok (store', .exchanged params.code row.connection response)
  | .refresh params client => do
    let (store', row, response) ← refreshUnderLock deployment store params client inputs
    .ok (store', .refreshed params.refreshToken row.connection response)

/-- The transaction that a call waits for. -/
def McpCall.transact (call : McpCall) (store : McpStore) (inputs : McpInputs) :
    Option (Except AppError (McpStore × McpEvent)) :=
  match call with
  | .captured request grant userId workspaceId => some do
    let supportGrantVersion ← authorizeUnderLock deployment store grant userId workspaceId
    request.transact deployment store supportGrantVersion inputs
  | .revoking row => some do
    let store' ← revokeTokenUnderLock store row inputs.now
    .ok (store', .revoked row.connection)
  | .disconnecting userId workspaceId connectionId => some do
    let (store', row) ← revokeConnectionUnderLock store userId workspaceId connectionId inputs.now
    .ok (store', .revoked row.connection)
  | _ => none

/-- The cascade of a deleted client. -/
def McpStore.changeClients (store : McpStore)
    (clients : KeyedTable McpOAuthClient McpOAuthClient.id) : McpStore :=
  { store with
    clients := clients
    codes := store.codes.filter fun row => (clients.find? row.clientId).isSome
    connections := store.connections.filter fun row => (clients.find? row.clientId).isSome }

/-- What a change of a support grant takes back (`workspace-support-access.ts:193`). -/
def McpStore.withdraw (store : McpStore) (workspaceId userId : JsString) (now : Int) : McpStore :=
  { store with
    codes := store.codes.filter fun row => ¬(row.workspaceId = workspaceId ∧ row.userId = userId)
    connections := store.connections.revoke
      (fun row => row.workspaceId = workspaceId && row.userId = userId && row.revokedAt.isNone)
      now }

namespace McpState

variable (state : McpState)

/-- The call `i` becomes `call`. -/
def setCall (i : Nat) (call : Option McpCall) : McpState :=
  { state with calls := Function.update state.calls i call }

/-- The call `i` goes on, or ends with an error. -/
def proceed (i : Nat) : Except AppError McpCall → McpState
  | .ok call => state.setCall i (some call)
  | .error _ => state.setCall i none

/-- The call `i` ends; a transaction that commits changes the store. -/
def commit (i : Nat) : Except AppError (McpStore × McpEvent) → McpState
  | .ok (store, event) => { state.setCall i none with store := store, log := state.log ++ [event] }
  | .error _ => state.setCall i none

/-- One step. A step of a call that is not at that point changes nothing. -/
def apply : McpStep → McpState
  | .issue i actor params membership origin =>
    state.proceed i ((checkIssue deployment state.store actor params membership).map
      (.checked · origin))
  | .exchange i params origin =>
    state.proceed i ((getMcpOAuthClientByClientId state.store params.clientId).map fun client =>
      .checked (.exchange params client) origin)
  | .refresh i params origin =>
    state.proceed i ((getMcpOAuthClientByClientId state.store params.clientId).map fun client =>
      .checked (.refresh params client) origin)
  | .candidate i =>
    match state.calls i with
    | some (.checked request origin) =>
      state.proceed i ((request.candidate deployment state.store).map
        fun (userId, workspaceId, expectedVersion) =>
          .found request origin userId workspaceId expectedVersion)
    | _ => state
  | .capture i =>
    match state.calls i with
    | some (.found request origin userId workspaceId expectedVersion) =>
      state.proceed i
        ((captureAuthorization state.store origin userId workspaceId expectedVersion).map
          (.captured request · userId workspaceId))
    | _ => state
  | .revokeToken i token clientId =>
    state.setCall i ((findPresented deployment state.store token).map (.presented · clientId))
  | .checkRevocation i =>
    match state.calls i with
    | some (.presented row clientId) =>
      state.setCall i (if mayRevoke state.store row clientId = .ok true then some (.revoking row)
        else none)
    | _ => state
  | .revokeConnection i actor workspaceId connectionId membership =>
    state.proceed i do
      membership
      match actor.userId? with
      | none => .error ⟨403, "FORBIDDEN", "A named user is required."⟩
      | some userId => .ok (.disconnecting userId workspaceId connectionId)
  | .transact i inputs =>
    match (state.calls i).bind fun call => call.transact deployment state.store inputs with
    | some result => state.commit i result
    | none => state
  | .resolve i tokenString expectedResource now =>
    state.setCall i ((readCandidate deployment state.store tokenString expectedResource now).map
      (.candidateRead tokenString expectedResource ·))
  | .resolveAgain i now =>
    match state.calls i with
    | some (.candidateRead token expectedResource candidate) =>
      state.setCall i
        ((authenticate deployment state.store token expectedResource candidate now).map
          (.authenticated token · state.log.length))
    | _ => state
  | .resolveUser i membership =>
    match state.calls i with
    | some (.authenticated token row readAt) =>
      { state.setCall i none with
        log := state.log ++ if mayUse state.store row membership then
          [.admitted token row.connection readAt] else [] }
    | _ => state
  | .changeClients clients => { state with store := state.store.changeClients clients }
  | .changeGrant tables grants revoked now =>
    let store := { state.store with tables := tables, grants := grants }
    { state with store := revoked.elim store fun (workspaceId, userId) =>
        store.withdraw workspaceId userId now }

def run (start : McpState) (steps : List McpStep) : McpState :=
  steps.foldl (fun state step => state.apply deployment step) start

/-- A server with the given clients and the tables of others, before the first request. -/
def initial (tables : SupportTables)
    (grants : KeyedTable WorkspaceSupportGrant WorkspaceSupportGrant.key)
    (clients : KeyedTable McpOAuthClient McpOAuthClient.id) : McpState where
  store := ⟨tables, grants, clients, .empty, ⟨[], List.nodup_nil, List.nodup_nil, List.nodup_nil⟩⟩
  calls _ := none
  log := []

end McpState

end Corgtex.Domain.Mcp
