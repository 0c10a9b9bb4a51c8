import Corgtex.Domain.SupportAccess
import Corgtex.Library.JsArray
import Corgtex.Library.Utf8

/-!
# The OAuth server of custom GPTs

`oauth-server.ts`: a user consents to an authorization code for an app, the app exchanges the code
for an access and a refresh token, rotates both with the refresh token, and presents the access
token with every call (`resolveOAuthAccessToken`). The tables hold hashes only.

A write reads its app and its candidate row, captures the support grant of the user and then waits
for the lock of the workspace (`withOAuthWorkspaceAuthorization`). The transaction under the lock is
one step; the reads before it, and the three unlocked reads of a presented token, are steps of their
own, so that anything may happen in between.
-/

namespace Corgtex.Domain.OAuth

open JsString Support

/-! ## Tables -/

/-- The columns of `OAuthApp` that are read here. -/
structure OAuthApp where
  id : JsString
  workspaceId : JsString
  clientId : JsString
  clientSecret : JsString
  redirectUris : List JsString
  scopes : List JsString
  isActive : Bool
  archivedAt : Option Int

/-- The app, the user and the workspace that a code or a token is for. -/
structure Holder where
  appId : JsString
  userId : JsString
  workspaceId : JsString
deriving DecidableEq

/-- `OAuthAuthorizationCode`, with the hash of the code in `code`. -/
structure OAuthAuthorizationCode where
  id : JsString
  appId : JsString
  userId : JsString
  workspaceId : JsString
  code : JsString
  scopes : List JsString
  redirectUri : JsString
  expiresAt : Int
  usedAt : Option Int

structure OAuthAccessToken where
  id : JsString
  appId : JsString
  userId : JsString
  workspaceId : JsString
  tokenHash : JsString
  refreshHash : Option JsString
  scopes : List JsString
  expiresAt : Int
  refreshExpiresAt : Option Int
  revokedAt : Option Int

def OAuthAuthorizationCode.holder (row : OAuthAuthorizationCode) : Holder :=
  ⟨row.appId, row.userId, row.workspaceId⟩

def OAuthAccessToken.holder (row : OAuthAccessToken) : Holder :=
  ⟨row.appId, row.userId, row.workspaceId⟩

/-- The rows of `OAuthAccessToken`, with its primary key and its two `@unique` columns. -/
structure TokenTable where
  rows : List OAuthAccessToken
  nodup_id : (rows.map OAuthAccessToken.id).Nodup
  nodup_tokenHash : (rows.map OAuthAccessToken.tokenHash).Nodup
  nodup_refreshHash : (rows.filterMap OAuthAccessToken.refreshHash).Nodup

/-- A write of the table, which fails where it breaks one of its keys. -/
def TokenTable.write (rows : List OAuthAccessToken) : Except AppError TokenTable :=
  if h : (rows.map OAuthAccessToken.id).Nodup ∧ (rows.map OAuthAccessToken.tokenHash).Nodup ∧
      (rows.filterMap OAuthAccessToken.refreshHash).Nodup then
    .ok ⟨rows, h.1, h.2.1, h.2.2⟩
  else .error ⟨500, "P2002", "Unique constraint failed"⟩

theorem TokenTable.rows_of_write {rows : List OAuthAccessToken} {table : TokenTable}
    (h : TokenTable.write rows = .ok table) : table.rows = rows := by
  unfold TokenTable.write at h
  split at h
  · cases h
    rfl
  · cases h

/-- The store, with the tables and the support grants that other code changes. -/
structure OAuthStore where
  tables : SupportTables
  grants : KeyedTable WorkspaceSupportGrant WorkspaceSupportGrant.key
  apps : KeyedTable OAuthApp OAuthApp.id
  codes : KeyedTable OAuthAuthorizationCode OAuthAuthorizationCode.code
  tokens : TokenTable

/-! ## Scopes and redirect URIs -/

/-- `normalizeScopes` (line 13). -/
def normalizeScopes (scopes : List JsString) : List JsString :=
  JsArray.distinct ((scopes.map trim).filter (· ≠ []))

/-- `normalizeRequestedScopes` (line 32). -/
def normalizeRequestedScopes (scopes allowedScopes : List JsString) :
    Except AppError (List JsString) := do
  let normalized := normalizeScopes scopes
  let effectiveScopes := if normalized.length > 0 then normalized else allowedScopes
  let forbiddenScopes := effectiveScopes.filter (· ∉ allowedScopes)
  invariant (forbiddenScopes.length = 0) 400 "INVALID_INPUT"
    ("Requested scope(s) are not allowed for this OAuth app: " ++
      String.ofList ((Utf8.scalars (join (lit ", ") forbiddenScopes)).map Char.ofNat) ++ ".")
  .ok effectiveScopes

/-- `[A-Za-z0-9_-]`. -/
def isSlugUnit (u : UInt16) : Bool :=
  (0x41 ≤ u && u ≤ 0x5A) || (0x61 ≤ u && u ≤ 0x7A) || (0x30 ≤ u && u ≤ 0x39) || u = 0x5F || u = 0x2D

/-- `CHATGPT_CALLBACK_PATTERN.test` (line 11): a nonempty slug between two texts. -/
def chatgptCallbackPattern (uri : JsString) : Bool :=
  let slug := (uri.drop (lit "https://chatgpt.com/aip/g-").length).takeWhile isSlugUnit
  slug ≠ [] && uri = lit "https://chatgpt.com/aip/g-" ++ slug ++ lit "/oauth/callback"

/-- `isAllowedOAuthRedirectUri` (line 47). -/
def isAllowedOAuthRedirectUri (registeredRedirectUris : List JsString) (redirectUri : JsString) :
    Bool :=
  registeredRedirectUris.contains redirectUri ||
    (registeredRedirectUris.contains (lit "https://chatgpt.com/aip/g-PLACEHOLDER/oauth/callback") &&
      chatgptCallbackPattern redirectUri)

/-! ## Requests up to the lock -/

/-- The parameters of `issueAuthorizationCode`. -/
structure IssueParams where
  clientId : JsString
  workspaceId : JsString
  redirectUri : JsString
  scopes : List JsString

/-- The parameters of `exchangeAuthorizationCode`. -/
structure ExchangeParams where
  code : JsString
  clientId : JsString
  clientSecret : JsString
  redirectUri : JsString

/-- The parameters of `refreshAccessToken`. -/
structure RefreshParams where
  refreshToken : JsString
  clientId : JsString
  clientSecret : Option JsString

/-- A request that has read its app and passed the checks on it. -/
inductive OAuthRequest
  | issue (params : IssueParams) (userId : JsString) (app : OAuthApp) (scopes : List JsString)
  | exchange (params : ExchangeParams) (app : OAuthApp)
  | refresh (params : RefreshParams) (app : OAuthApp)

variable (sha256 : JsString → JsString) (scopeSlug : Option JsString)

section
variable (store : OAuthStore)

/-- `getOAuthAppByClientId` (line 124). -/
def getOAuthAppByClientId (clientId : JsString) : Except AppError OAuthApp :=
  match (store.apps.rows.find? fun app => app.clientId = clientId).filter fun app =>
      app.isActive && app.archivedAt.isNone with
  | none => .error ⟨404, "NOT_FOUND", "OAuth app not found or inactive."⟩
  | some app => .ok app

/-- `issueAuthorizationCode` (line 136) up to the drawing of the code, with what
`requireWorkspaceMembership` comes to. -/
def checkIssue (actor : AppActor) (params : IssueParams)
    (membership : Except AppError Unit) : Except AppError OAuthRequest := do
  match actor.userId? with
  | none => throw ⟨403, "FORBIDDEN", "Only users can complete OAuth flows"⟩
  | some userId =>
    let app ← getOAuthAppByClientId store params.clientId
    invariant (app.workspaceId = params.workspaceId) 400 "INVALID_INPUT"
      "Client ID is not associated with this workspace."
    membership
    invariant (isAllowedOAuthRedirectUri app.redirectUris params.redirectUri) 400 "INVALID_INPUT"
      "Redirect URI is not registered for this app."
    let scopes ← normalizeRequestedScopes params.scopes app.scopes
    .ok (.issue params userId app scopes)

/-- The first read of `exchangeAuthorizationCode` (line 185). -/
def checkExchange (params : ExchangeParams) : Except AppError OAuthRequest := do
  let app ← getOAuthAppByClientId store params.clientId
  invariant (app.clientSecret = sha256 params.clientSecret) 401 "UNAUTHENTICATED"
    "Invalid client secret."
  .ok (.exchange params app)

/-- The first read of `refreshAccessToken` (line 283). -/
def checkRefresh (params : RefreshParams) : Except AppError OAuthRequest := do
  let app ← getOAuthAppByClientId store params.clientId
  invariant ((params.clientSecret.bind orNull).all fun secret => app.clientSecret = sha256 secret)
    401 "UNAUTHENTICATED" "Invalid client secret."
  .ok (.refresh params app)

end

/-- The user and the workspace whose lock a request waits for: its own for a new code, and those of
the candidate row otherwise (lines 197, 299). -/
def OAuthRequest.candidate (request : OAuthRequest) (store : OAuthStore) :
    Except AppError (JsString × JsString) :=
  match request with
  | .issue params userId _ _ => .ok (userId, params.workspaceId)
  | .exchange params _ =>
    match store.codes.find? (sha256 params.code) with
    | none => .error ⟨400, "INVALID_INPUT", "Invalid authorization code."⟩
    | some candidate => .ok (candidate.userId, candidate.workspaceId)
  | .refresh params _ =>
    match (store.tokens.rows.find? fun row =>
        row.refreshHash = some (sha256 params.refreshToken)).filter (·.revokedAt.isNone) with
    | none => .error ⟨401, "UNAUTHENTICATED", "Invalid or revoked refresh token."⟩
    | some candidate => .ok (candidate.userId, candidate.workspaceId)

/-- The grant of a user that may see content. -/
def fullGrant (grant : Option WorkspaceSupportGrant) : Bool :=
  grant.all fun grant => grant.isActive && grant.role = .FULL

/-- `withOAuthWorkspaceAuthorization` (`oauth-workspace-authorization.ts:9`) up to the lock. -/
def captureAuthorization (store : OAuthStore) (origin : Option SupportOrigin)
    (userId workspaceId : JsString) : Except AppError (Option WorkspaceSupportGrant) := do
  let captured := store.grants.find? (workspaceId, userId)
  supportRevoked (origin.all fun origin => origin.userId = userId &&
    origin.workspaceId = workspaceId && some origin.version = captured.map (·.version))
  invariant (fullGrant captured) 403 "SUPPORT_CONTENT_RESTRICTED" "Content access is restricted."
  .ok captured

/-- Its checks under the lock. -/
def authorizeUnderLock (store : OAuthStore) (captured : Option WorkspaceSupportGrant)
    (userId workspaceId : JsString) : Except AppError Unit := do
  requireDeploymentWorkspaceScope scopeSlug store.tables workspaceId
  let current := store.grants.find? (workspaceId, userId)
  supportRevoked (current.map (·.version) = captured.map (·.version) && fullGrant current)
  invariant ((store.tables.members.find? (workspaceId, userId)).any (·.isActive)) 403
    "NOT_A_MEMBER" "You are not an active member of this workspace."

/-! ## Under the lock -/

/-- The time, the id of a new row and the opaque tokens that a transaction is given. -/
structure OAuthInputs where
  now : Int
  id : JsString
  token : JsString
  refreshToken : JsString

/-- What an exchange and a refresh return. -/
structure TokenResponse where
  access_token : JsString
  token_type : String
  expires_in : Int
  refresh_token : JsString
  scope : JsString
deriving DecidableEq

/-- The tokens of a transaction. -/
def OAuthInputs.response (inputs : OAuthInputs) (scopes : List JsString) : TokenResponse where
  access_token := lit "at_" ++ inputs.token
  token_type := "bearer"
  expires_in := 3600
  refresh_token := lit "rt_" ++ inputs.refreshToken
  scope := join (lit " ") scopes

/-- The transaction of `issueAuthorizationCode` (line 169), with the code that it has drawn before
the lock and uses here first. -/
def issueUnderLock (store : OAuthStore) (params : IssueParams) (userId : JsString) (app : OAuthApp)
    (scopes : List JsString) (inputs : OAuthInputs) : Except AppError (OAuthStore × JsString) := do
  let code := lit "code_" ++ inputs.token
  let row : OAuthAuthorizationCode := {
    id := inputs.id, appId := app.id, userId := userId, workspaceId := params.workspaceId
    code := sha256 code, scopes := scopes, redirectUri := params.redirectUri
    expiresAt := inputs.now + 10 * 60 * 1000, usedAt := none }
  invariant (store.apps.find? app.id).isSome 500 "P2003" "Foreign key constraint failed"
  if h : row.code ∈ store.codes.rows.map OAuthAuthorizationCode.code then
    .error ⟨500, "P2002", "Unique constraint failed"⟩
  else .ok ({ store with codes := store.codes.insert row h }, code)

/-- The row of the tokens that an exchange writes (line 241). -/
def exchangedRow (app : OAuthApp) (authCode : OAuthAuthorizationCode) (inputs : OAuthInputs)
    (id : JsString) : OAuthAccessToken where
  id := id
  appId := app.id
  userId := authCode.userId
  workspaceId := authCode.workspaceId
  tokenHash := sha256 (inputs.response authCode.scopes).access_token
  refreshHash := some (sha256 (inputs.response authCode.scopes).refresh_token)
  scopes := authCode.scopes
  expiresAt := inputs.now + 3600 * 1000
  refreshExpiresAt := some (inputs.now + 30 * 24 * 60 * 60 * 1000)
  revokedAt := none

/-- The rows after `update` of the first row of the app, user and workspace, or after `create` (line
254). -/
def exchangedRows (rows : List OAuthAccessToken) (app : OAuthApp)
    (authCode : OAuthAuthorizationCode) (inputs : OAuthInputs) : List OAuthAccessToken :=
  match rows.find? fun row => row.holder = ⟨app.id, authCode.userId, authCode.workspaceId⟩ with
  | some existingToken => rows.map fun row =>
    if row.id = existingToken.id then exchangedRow sha256 app authCode inputs row.id else row
  | none => rows ++ [exchangedRow sha256 app authCode inputs inputs.id]

/-- The transaction of `exchangeAuthorizationCode` (line 185), with the row of the code that it has
used. -/
def exchangeUnderLock (store : OAuthStore) (params : ExchangeParams) (app : OAuthApp)
    (inputs : OAuthInputs) :
    Except AppError (OAuthStore × OAuthAuthorizationCode × TokenResponse) :=
  match store.codes.find? (sha256 params.code) with
  | none => .error ⟨400, "INVALID_INPUT", "Invalid authorization code."⟩
  | some authCode => do
    invariant authCode.usedAt.isNone 400 "INVALID_INPUT" "Authorization code already used."
    invariant (inputs.now ≤ authCode.expiresAt) 400 "INVALID_INPUT" "Authorization code expired."
    invariant (authCode.appId = app.id) 400 "INVALID_INPUT"
      "Authorization code not issued for this client."
    invariant (authCode.redirectUri = params.redirectUri) 400 "INVALID_INPUT"
      "Redirect URI mismatch."
    let codes := store.codes.updateMany (fun row => row.id = authCode.id)
      (fun row => { row with usedAt := some inputs.now }) (fun _ => rfl)
    let tokens ← TokenTable.write (exchangedRows sha256 store.tokens.rows app authCode inputs)
    .ok ({ store with codes := codes, tokens := tokens }, authCode, inputs.response authCode.scopes)

/-- The condition of the update of a refresh (line 328). -/
def rotates (token : OAuthAccessToken) (refreshToken : JsString) (row : OAuthAccessToken) : Bool :=
  row.id = token.id && row.refreshHash = some (sha256 refreshToken) && row.revokedAt.isNone

/-- Its data. -/
def rotatedRow (inputs : OAuthInputs) (row : OAuthAccessToken) : OAuthAccessToken :=
  { row with
    tokenHash := sha256 (inputs.response row.scopes).access_token
    refreshHash := some (sha256 (inputs.response row.scopes).refresh_token)
    expiresAt := inputs.now + 3600 * 1000
    refreshExpiresAt := some (inputs.now + 30 * 24 * 60 * 60 * 1000) }

/-- The transaction of `refreshAccessToken` (line 283), with the row that it has read. -/
def refreshUnderLock (store : OAuthStore) (params : RefreshParams) (app : OAuthApp)
    (inputs : OAuthInputs) : Except AppError (OAuthStore × OAuthAccessToken × TokenResponse) :=
  match (store.tokens.rows.find? fun row =>
      row.refreshHash = some (sha256 params.refreshToken)).filter (·.revokedAt.isNone) with
  | none => .error ⟨401, "UNAUTHENTICATED", "Invalid or revoked refresh token."⟩
  | some token => do
    invariant (token.refreshExpiresAt.all (inputs.now ≤ ·)) 401 "UNAUTHENTICATED"
      "Refresh token expired."
    invariant (token.appId = app.id) 400 "INVALID_INPUT" "Token not issued for this client."
    let test := rotates sha256 token params.refreshToken
    let tokens ← TokenTable.write (store.tokens.rows.map fun row =>
      if test row then rotatedRow sha256 inputs row else row)
    invariant ((store.tokens.rows.filter test).length = 1) 401 "UNAUTHENTICATED"
      "Invalid or revoked refresh token."
    .ok ({ store with tokens := tokens }, token, inputs.response token.scopes)

/-! ## Presented tokens -/

/-- What `resolveOAuthAccessToken` returns. -/
structure ResolvedToken where
  user : SupportUser
  workspaceId : JsString
  scopes : List JsString

section
variable (store : OAuthStore)

/-- The first read of `resolveOAuthAccessToken` (line 345). -/
def readToken (tokenString : JsString) : Option OAuthAccessToken :=
  (store.tokens.rows.find? fun row => row.tokenHash = sha256 tokenString).filter
    (·.revokedAt.isNone)

/-- Its second read, and the checks up to the third. -/
def readApp (baseToken : OAuthAccessToken) (now : Int) : Option OAuthApp :=
  (store.apps.find? baseToken.appId).filter fun app => now ≤ baseToken.expiresAt && app.isActive

/-- Its third read, and what it returns. -/
def readUser (baseToken : OAuthAccessToken) : Option ResolvedToken :=
  (store.tables.users.find? baseToken.userId).map fun user =>
    ⟨user, baseToken.workspaceId, baseToken.scopes⟩

/-- `resolveOAuthAccessToken`, where nothing happens between its reads. -/
def resolveOAuthAccessToken (tokenString : JsString) (now : Int) : Option ResolvedToken := do
  let baseToken ← readToken sha256 store tokenString
  let _ ← readApp store baseToken now
  readUser store baseToken

end

/-! ## Requests in flight -/

/-- A code that a user has consented to. -/
structure IssuedCode where
  code : JsString
  holder : Holder
  redirectUri : JsString
  scopes : List JsString
deriving DecidableEq

/-- What requests have come to, in the order of their last steps. An exchange carries the code, the
app and the redirect URI that it was asked with; `readAt` is the length of the log when an admitted
token was read. -/
inductive OAuthEvent
  | issued (issued : IssuedCode)
  | exchanged (code : JsString) (appId redirectUri : JsString) (holder : Holder)
      (response : TokenResponse)
  | refreshed (refreshToken : JsString) (holder : Holder) (response : TokenResponse)
  | admitted (token : JsString) (holder : Holder) (scopes : List JsString) (readAt : Nat)
deriving DecidableEq

/-- A request in flight, by what it has done. -/
inductive OAuthCall
  | checked (request : OAuthRequest) (origin : Option SupportOrigin)
  | found (request : OAuthRequest) (origin : Option SupportOrigin) (userId workspaceId : JsString)
  | captured (request : OAuthRequest) (grant : Option WorkspaceSupportGrant)
      (userId workspaceId : JsString)
  | tokenRead (token : JsString) (baseToken : OAuthAccessToken) (readAt : Nat)
  | appRead (token : JsString) (baseToken : OAuthAccessToken) (readAt : Nat)

structure OAuthState where
  store : OAuthStore
  calls : Nat → Option OAuthCall
  log : List OAuthEvent

/-- A step: the reads and the transaction of the requests, and the changes of others. -/
inductive OAuthStep
  | issue (i : Nat) (actor : AppActor) (params : IssueParams) (membership : Except AppError Unit)
      (origin : Option SupportOrigin)
  | exchange (i : Nat) (params : ExchangeParams) (origin : Option SupportOrigin)
  | refresh (i : Nat) (params : RefreshParams) (origin : Option SupportOrigin)
  | candidate (i : Nat)
  | capture (i : Nat)
  | transact (i : Nat) (inputs : OAuthInputs)
  | resolve (i : Nat) (tokenString : JsString)
  | resolveApp (i : Nat) (now : Int)
  | resolveUser (i : Nat)
  | changeApps (apps : KeyedTable OAuthApp OAuthApp.id)
  | changeGrant (tables : SupportTables)
      (grants : KeyedTable WorkspaceSupportGrant WorkspaceSupportGrant.key)
      (revoked : Option (JsString × JsString)) (now : Int)

def OAuthStep.draws : OAuthStep → List JsString
  | .transact _ inputs => [inputs.token, inputs.refreshToken]
  | _ => []

/-- The transaction of a request, and what it has come to. -/
def OAuthRequest.transact (request : OAuthRequest) (store : OAuthStore) (inputs : OAuthInputs) :
    Except AppError (OAuthStore × OAuthEvent) :=
  match request with
  | .issue params userId app scopes => do
    let (store', code) ← issueUnderLock sha256 store params userId app scopes inputs
    .ok (store', .issued ⟨code, ⟨app.id, userId, params.workspaceId⟩, params.redirectUri, scopes⟩)
  | .exchange params app => do
    let (store', authCode, response) ← exchangeUnderLock sha256 store params app inputs
    .ok (store', .exchanged params.code app.id params.redirectUri authCode.holder response)
  | .refresh params app => do
    let (store', token, response) ← refreshUnderLock sha256 store params app inputs
    .ok (store', .refreshed params.refreshToken token.holder response)

/-- The cascade of a deleted app. -/
def OAuthStore.changeApps (store : OAuthStore) (apps : KeyedTable OAuthApp OAuthApp.id) :
    OAuthStore :=
  { store with
    apps := apps
    codes := store.codes.filter fun row => (apps.find? row.appId).isSome }

/-- What a change of a support grant takes back (`workspace-support-access.ts:199`). -/
def OAuthStore.revoke (store : OAuthStore) (workspaceId userId : JsString) (now : Int) :
    OAuthStore :=
  { store with
    codes := store.codes.filter fun row => ¬(row.workspaceId = workspaceId ∧ row.userId = userId)
    tokens := {
      rows := store.tokens.rows.map fun row =>
        if row.workspaceId = workspaceId ∧ row.userId = userId ∧ row.revokedAt = none then
          { row with revokedAt := some now }
        else row
      nodup_id := by
        rw [List.map_map, List.map_congr_left (g := OAuthAccessToken.id)]
        · exact store.tokens.nodup_id
        · intro row _
          simp only [Function.comp_apply]
          split <;> rfl
      nodup_tokenHash := by
        rw [List.map_map, List.map_congr_left (g := OAuthAccessToken.tokenHash)]
        · exact store.tokens.nodup_tokenHash
        · intro row _
          simp only [Function.comp_apply]
          split <;> rfl
      nodup_refreshHash := by
        rw [List.filterMap_map, List.filterMap_congr (g := OAuthAccessToken.refreshHash)]
        · exact store.tokens.nodup_refreshHash
        · intro row _
          simp only [Function.comp_apply]
          split <;> rfl } }

namespace OAuthState

variable (state : OAuthState)

/-- The call `i` becomes `call`. -/
def setCall (i : Nat) (call : Option OAuthCall) : OAuthState :=
  { state with calls := Function.update state.calls i call }

/-- The call `i` goes on, or ends with an error. -/
def proceed (i : Nat) : Except AppError OAuthCall → OAuthState
  | .ok call => state.setCall i (some call)
  | .error _ => state.setCall i none

/-- The call `i` ends; a transaction that commits changes the store. -/
def commit (i : Nat) : Except AppError (OAuthStore × OAuthEvent) → OAuthState
  | .ok (store, event) => { state.setCall i none with store := store, log := state.log ++ [event] }
  | .error _ => state.setCall i none

/-- One step. A step of a call that is not at that point changes nothing. -/
def apply : OAuthStep → OAuthState
  | .issue i actor params membership origin =>
    state.proceed i ((checkIssue state.store actor params membership).map (.checked · origin))
  | .exchange i params origin =>
    state.proceed i ((checkExchange sha256 state.store params).map (.checked · origin))
  | .refresh i params origin =>
    state.proceed i ((checkRefresh sha256 state.store params).map (.checked · origin))
  | .candidate i =>
    match state.calls i with
    | some (.checked request origin) =>
      state.proceed i ((request.candidate sha256 state.store).map fun (userId, workspaceId) =>
        .found request origin userId workspaceId)
    | _ => state
  | .capture i =>
    match state.calls i with
    | some (.found request origin userId workspaceId) =>
      state.proceed i ((captureAuthorization state.store origin userId workspaceId).map
        (.captured request · userId workspaceId))
    | _ => state
  | .transact i inputs =>
    match state.calls i with
    | some (.captured request grant userId workspaceId) =>
      state.commit i do
        authorizeUnderLock scopeSlug state.store grant userId workspaceId
        request.transact sha256 state.store inputs
    | _ => state
  | .resolve i tokenString =>
    state.setCall i ((readToken sha256 state.store tokenString).map
      (.tokenRead tokenString · state.log.length))
  | .resolveApp i now =>
    match state.calls i with
    | some (.tokenRead token baseToken readAt) =>
      state.setCall i ((readApp state.store baseToken now).map fun _ =>
        .appRead token baseToken readAt)
    | _ => state
  | .resolveUser i =>
    match state.calls i with
    | some (.appRead token baseToken readAt) =>
      { state.setCall i none with
        log := state.log ++ ((readUser state.store baseToken).map fun resolved =>
          OAuthEvent.admitted token ⟨baseToken.appId, baseToken.userId, resolved.workspaceId⟩
            resolved.scopes readAt).toList }
    | _ => state
  | .changeApps apps => { state with store := state.store.changeApps apps }
  | .changeGrant tables grants revoked now =>
    let store := { state.store with tables := tables, grants := grants }
    { state with store := revoked.elim store fun (workspaceId, userId) =>
        store.revoke workspaceId userId now }

/-- A server with the given apps and the tables of others, before the first request. -/
def initial (tables : SupportTables)
    (grants : KeyedTable WorkspaceSupportGrant WorkspaceSupportGrant.key)
    (apps : KeyedTable OAuthApp OAuthApp.id) : OAuthState where
  store := ⟨tables, grants, apps, .empty, ⟨[], List.nodup_nil, List.nodup_nil, List.nodup_nil⟩⟩
  calls _ := none
  log := []

end OAuthState

end Corgtex.Domain.OAuth
