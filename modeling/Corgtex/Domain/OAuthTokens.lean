import Corgtex.Domain.OAuthServer
import Mathlib.Data.List.Pairwise

/-!
# What the tokens of a custom GPT admit

The log of the OAuth server says for every app, user and workspace which code was exchanged last
(`lastExchanged`) and which tokens were handed out last (`lastGranted`). The table of tokens holds
one row of these three at most, and the row agrees with the log (`TokensSound`): its hashes are
those of the last tokens, its scopes those of the last code. As tokens are fresh, what was replaced
never comes back. `oauth_safe` is what this comes to.
-/

namespace Corgtex.Domain.OAuth

open Option hiding map map_map

open JsString List Support

variable {sha256 : JsString → JsString} {scopeSlug : Option JsString}

/-! ## Reading the log -/

namespace OAuthEvent

def issuedCode? : OAuthEvent → Option JsString
  | .issued record => some record.code
  | _ => none

def exchangedCode? : OAuthEvent → Option JsString
  | .exchanged code _ _ _ _ => some code
  | _ => none

def usedRefreshToken? : OAuthEvent → Option JsString
  | .refreshed refreshToken _ _ => some refreshToken
  | _ => none

/-- The code of an exchange for `holder`. -/
def exchangedFor? (holder : Holder) : OAuthEvent → Option JsString
  | .exchanged code _ _ holder' _ => if holder' = holder then some code else none
  | _ => none

/-- The tokens handed out for `holder`. -/
def grantedTo? (holder : Holder) : OAuthEvent → Option TokenResponse
  | .exchanged _ _ _ holder' response => if holder' = holder then some response else none
  | .refreshed _ holder' response => if holder' = holder then some response else none
  | _ => none

end OAuthEvent

section
variable (log : List OAuthEvent) (holder : Holder)
include holder

/-- The code last exchanged for an app, user and workspace. -/
def lastExchanged : Option JsString :=
  log.reverse.findSome? (·.exchangedFor? holder)

/-- The tokens last handed out for an app, user and workspace. -/
def lastGranted : Option TokenResponse :=
  log.reverse.findSome? (·.grantedTo? holder)

/-- The scopes that the user has consented to in the code last exchanged. -/
def Consented (scopes : List JsString) : Prop :=
  ∃ code redirectUri, lastExchanged log holder = some code ∧
    .issued ⟨code, holder, redirectUri, scopes⟩ ∈ log

end

/-! ## What is claimed of a state -/

section
variable (sha256 : JsString → JsString) (store : OAuthStore)

/-- The access token is accepted: `resolveOAuthAccessToken` admits it, at some time. -/
def AcceptsAccess (tokenString : JsString) (holder : Holder) : Prop :=
  ∃ baseToken now, readToken sha256 store tokenString = some baseToken ∧
    baseToken.holder = holder ∧ (resolveOAuthAccessToken sha256 store tokenString now).isSome

/-- The refresh token is accepted: the transaction of a refresh with it succeeds, for some app and
at some time. -/
def AcceptsRefresh (refreshToken : JsString) (holder : Holder) : Prop :=
  ∃ params app inputs result, params.refreshToken = refreshToken ∧
    refreshUnderLock sha256 store params app inputs = .ok result ∧ result.2.1.holder = holder

end

/-- The guarantees of the server, of its store and its log. -/
structure OAuthSafe (sha256 : JsString → JsString) (state : OAuthState) : Prop where
  /-- No code is issued twice. -/
  issued_once : (state.log.filterMap OAuthEvent.issuedCode?).Nodup
  /-- A code yields tokens at most once. -/
  exchanged_once : (state.log.filterMap OAuthEvent.exchangedCode?).Nodup
  /-- It yields them to the app and the redirect URI that it was issued for. -/
  exchanged_issued : ∀ code appId redirectUri holder response,
    .exchanged code appId redirectUri holder response ∈ state.log →
      holder.appId = appId ∧ ∃ scopes, .issued ⟨code, holder, redirectUri, scopes⟩ ∈ state.log
  /-- At most one access token of an app, user and workspace is accepted. -/
  access_unique : ∀ holder, {token | AcceptsAccess sha256 state.store token holder}.Subsingleton
  /-- At most one refresh token is. -/
  refresh_unique : ∀ holder, {token | AcceptsRefresh sha256 state.store token holder}.Subsingleton
  /-- No refresh token is used twice. -/
  refreshed_once : (state.log.filterMap OAuthEvent.usedRefreshToken?).Nodup
  /-- A used one is not accepted. -/
  refreshed_gone : ∀ token ∈ state.log.filterMap OAuthEvent.usedRefreshToken?, ∀ holder,
    ¬ AcceptsRefresh sha256 state.store token holder
  /-- An admitted token was, when it was read, the last one handed out, and its scopes those of the
  code last exchanged. -/
  admitted : ∀ token holder scopes readAt, .admitted token holder scopes readAt ∈ state.log →
    (lastGranted (state.log.take readAt) holder).map TokenResponse.access_token = some token ∧
      Consented (state.log.take readAt) holder scopes

/-! ## Invariants -/

/-- The codes: every row agrees with its issue, and the row of an exchanged code is used. -/
structure CodesSound (sha256 : JsString → JsString) (drawn : List JsString) (log : List OAuthEvent)
    (rows : List OAuthAuthorizationCode) : Prop where
  issued_drawn : ∀ issued, .issued issued ∈ log →
    ∃ token ∈ drawn, issued.code = lit "code_" ++ token
  issued_once : (log.filterMap OAuthEvent.issuedCode?).Nodup
  row_issued : ∀ row ∈ rows, ∃ code, row.code = sha256 code ∧
    .issued ⟨code, row.holder, row.redirectUri, row.scopes⟩ ∈ log
  exchanged_issued : ∀ code appId redirectUri holder response,
    .exchanged code appId redirectUri holder response ∈ log →
      holder.appId = appId ∧ ∃ scopes, .issued ⟨code, holder, redirectUri, scopes⟩ ∈ log
  exchanged_used : ∀ code ∈ log.filterMap OAuthEvent.exchangedCode?, ∀ row ∈ rows,
    row.code = sha256 code → row.usedAt.isSome
  exchanged_once : (log.filterMap OAuthEvent.exchangedCode?).Nodup

structure RowGranted (sha256 : JsString → JsString) (log : List OAuthEvent)
    (row : OAuthAccessToken) : Prop where
  granted : ∃ response, lastGranted log row.holder = some response ∧
    row.tokenHash = sha256 response.access_token ∧
    row.refreshHash = some (sha256 response.refresh_token)
  consented : Consented log row.holder row.scopes

/-- The tokens: one row of an app, user and workspace, which agrees with the log, and none with the
hash of a used refresh token. -/
structure TokensSound (sha256 : JsString → JsString) (drawn : List JsString) (log : List OAuthEvent)
    (rows : List OAuthAccessToken) : Prop where
  nodup_holder : (rows.map OAuthAccessToken.holder).Nodup
  row_granted : ∀ row ∈ rows, RowGranted sha256 log row
  refresh_drawn : ∀ row ∈ rows,
    ∃ token ∈ drawn, row.refreshHash = some (sha256 (lit "rt_" ++ token))
  refreshed_drawn : ∀ token ∈ log.filterMap OAuthEvent.usedRefreshToken?,
    ∃ drawnToken ∈ drawn, token = lit "rt_" ++ drawnToken
  refreshed_gone : ∀ token ∈ log.filterMap OAuthEvent.usedRefreshToken?, ∀ row ∈ rows,
    row.refreshHash ≠ some (sha256 token)
  refreshed_once : (log.filterMap OAuthEvent.usedRefreshToken?).Nodup

/-- What was true of a token when the log was `readAt` long. -/
def ReadSound (log : List OAuthEvent) (token : JsString) (holder : Holder) (scopes : List JsString)
    (readAt : Nat) : Prop :=
  readAt ≤ log.length ∧
    (lastGranted (log.take readAt) holder).map TokenResponse.access_token = some token ∧
    Consented (log.take readAt) holder scopes

/-- What is true of a request in flight. Only the row of a presented token is used later on. -/
def OAuthCall.Sound (log : List OAuthEvent) : OAuthCall → Prop
  | .tokenRead token baseToken readAt | .appRead token baseToken readAt =>
    ReadSound log token baseToken.holder baseToken.scopes readAt
  | _ => True

/-- The tokens that are being resolved, and those that were admitted. -/
structure ReadsSound (log : List OAuthEvent) (calls : Nat → Option OAuthCall) : Prop where
  calls : ∀ i call, calls i = some call → call.Sound log
  admitted : ∀ token holder scopes readAt, .admitted token holder scopes readAt ∈ log →
    ReadSound log token holder scopes readAt

structure OAuthState.Sound (sha256 : JsString → JsString) (drawn : List JsString)
    (state : OAuthState) : Prop where
  codes : CodesSound sha256 drawn state.log state.store.codes.rows
  tokens : TokensSound sha256 drawn state.log state.store.tokens.rows
  reads : ReadsSound state.log state.calls

/-! ## The log grows -/

variable {log : List OAuthEvent}

/-- An entry that a reading passes over. -/
theorem filterMap_append_of_eq_none {α : Type} {read : OAuthEvent → Option α} {event : OAuthEvent}
    (h : read event = none) : (log ++ [event]).filterMap read = log.filterMap read := by
  simp [h]

section
variable {log : List OAuthEvent} {event : OAuthEvent} {holder : Holder}

theorem lastExchanged_append : lastExchanged (log ++ [event]) holder =
    (event.exchangedFor? holder).or (lastExchanged log holder) := by
  rw [lastExchanged, reverse_append, reverse_singleton, singleton_append, findSome?_cons]
  cases event.exchangedFor? holder <;> rfl

theorem lastGranted_append : lastGranted (log ++ [event]) holder =
    (event.grantedTo? holder).or (lastGranted log holder) := by
  rw [lastGranted, reverse_append, reverse_singleton, singleton_append, findSome?_cons]
  cases event.grantedTo? holder <;> rfl

variable {scopes : List JsString}

theorem Consented.append (h : Consented log holder scopes)
    (hevent : event.exchangedFor? holder = none) : Consented (log ++ [event]) holder scopes := by
  obtain ⟨code, redirectUri, hlast, hissued⟩ := h
  refine ⟨code, redirectUri, ?_, mem_append_left _ hissued⟩
  rw [lastExchanged_append, hevent]
  exact hlast

variable {row : OAuthAccessToken}

theorem RowGranted.append (h : RowGranted sha256 log row)
    (hexchanged : event.exchangedFor? row.holder = none)
    (hgranted : event.grantedTo? row.holder = none) : RowGranted sha256 (log ++ [event]) row := by
  obtain ⟨response, hlast, hhashes⟩ := h.granted
  refine ⟨⟨response, ?_, hhashes⟩, h.consented.append hexchanged⟩
  rw [lastGranted_append, hgranted]
  exact hlast

variable {token : JsString}

theorem ReadSound.append {readAt : Nat} (h : ReadSound log token holder scopes readAt)
    (more : List OAuthEvent) : ReadSound (log ++ more) token holder scopes readAt := by
  obtain ⟨hle, hread⟩ := h
  refine ⟨?_, ?_⟩
  · rw [length_append]
    omega
  · rwa [take_append_of_le_length hle]

/-- A row that agrees with the log was handed out and consented to by now. -/
theorem RowGranted.readSound (hsha : Function.Injective sha256) (h : RowGranted sha256 log row)
    (htoken : row.tokenHash = sha256 token) :
    ReadSound log token row.holder row.scopes log.length := by
  obtain ⟨response, hlast, hhash, _⟩ := h.granted
  have haccess : response.access_token = token := hsha (hhash.symm.trans htoken)
  refine ⟨le_refl _, ?_, ?_⟩
  · rw [take_length, hlast, map_some, haccess]
  · rw [take_length]
    exact h.consented

end

/-! ## Codes -/

section
variable {drawn drawn' : List JsString} {log : List OAuthEvent} {event : OAuthEvent}
  {rows rows' : List OAuthAuthorizationCode}

section
variable (h : CodesSound sha256 drawn log rows)
include h

theorem CodesSound.mono (hsub : drawn ⊆ drawn') : CodesSound sha256 drawn' log rows := by
  refine { h with issued_drawn := ?_ }
  intro issued hmem
  obtain ⟨token, htoken, hcode⟩ := h.issued_drawn issued hmem
  exact ⟨token, hsub htoken, hcode⟩

theorem CodesSound.append (hissued : event.issuedCode? = none)
    (hexchanged : event.exchangedCode? = none) : CodesSound sha256 drawn (log ++ [event]) rows := by
  have hcodes : (log ++ [event]).filterMap _ = _ := filterMap_append_of_eq_none hissued
  have hused : (log ++ [event]).filterMap _ = _ := filterMap_append_of_eq_none hexchanged
  refine ⟨?_, hcodes ▸ h.issued_once, ?_, ?_, hused ▸ h.exchanged_used, hused ▸ h.exchanged_once⟩
  · intro issued hmem
    rcases mem_append.1 hmem with hold | hnew
    · exact h.issued_drawn issued hold
    · rw [← mem_singleton.1 hnew] at hissued
      cases hissued
  · intro row hrow
    obtain ⟨code, hcode, hmem⟩ := h.row_issued row hrow
    exact ⟨code, hcode, mem_append_left _ hmem⟩
  · intro code appId redirectUri holder response hmem
    rcases mem_append.1 hmem with hold | hnew
    · obtain ⟨happ, scopes, hissue⟩ := h.exchanged_issued _ _ _ _ _ hold
      exact ⟨happ, scopes, mem_append_left _ hissue⟩
    · rw [← mem_singleton.1 hnew] at hexchanged
      cases hexchanged

/-- Rows that are deleted leave the others sound. -/
theorem CodesSound.subset (hsub : rows' ⊆ rows) : CodesSound sha256 drawn log rows' := by
  refine ⟨h.issued_drawn, h.issued_once, ?_, h.exchanged_issued, ?_, h.exchanged_once⟩
  · intro row hrow
    exact h.row_issued row (hsub hrow)
  · intro code hcode row hrow
    exact h.exchanged_used code hcode row (hsub hrow)

end

variable {code : JsString}

theorem CodesSound.exchanged_drawn (h : CodesSound sha256 drawn log rows)
    (hcode : code ∈ log.filterMap OAuthEvent.exchangedCode?) :
    ∃ token ∈ drawn, code = lit "code_" ++ token := by
  obtain ⟨event, hevent, hsome⟩ := mem_filterMap.1 hcode
  cases event with
  | exchanged code' appId redirectUri holder response =>
    cases hsome
    obtain ⟨_, scopes, hissue⟩ := h.exchanged_issued _ _ _ _ _ hevent
    exact h.issued_drawn _ hissue
  | issued | refreshed | admitted => cases hsome

theorem CodesSound.issue (h : CodesSound sha256 drawn log rows)
    (hsha : Function.Injective sha256) {row : OAuthAuthorizationCode} {token : JsString}
    (hcode : row.code = sha256 (lit "code_" ++ token)) (hnew : token ∉ drawn)
    (hsub : drawn ⊆ drawn') (hdrawn : token ∈ drawn') :
    CodesSound sha256 drawn'
      (log ++ [.issued ⟨lit "code_" ++ token, row.holder, row.redirectUri, row.scopes⟩])
      (rows ++ [row]) := by
  have hfresh : ∀ token' ∈ drawn, lit "code_" ++ token ≠ lit "code_" ++ token' := by
    intro token' htoken' heq
    rw [append_cancel_left heq] at hnew
    exact hnew htoken'
  refine ⟨?_, ?_, ?_, ?_, ?_, ?_⟩
  · intro issued hmem
    rcases mem_append.1 hmem with hold | hlast
    · obtain ⟨token', htoken', hissued⟩ := h.issued_drawn issued hold
      exact ⟨token', hsub htoken', hissued⟩
    · cases mem_singleton.1 hlast
      exact ⟨token, hdrawn, rfl⟩
  · rw [filterMap_append]
    refine nodup_append.2 ⟨h.issued_once, nodup_singleton _, ?_⟩
    intro code hold code' hlast
    obtain ⟨event, hevent, hsome⟩ := mem_filterMap.1 hold
    cases event with
    | issued record =>
      cases hsome
      obtain ⟨token', htoken', hissued⟩ := h.issued_drawn record hevent
      rw [hissued, mem_singleton.1 hlast]
      exact (hfresh token' htoken').symm
    | exchanged | refreshed | admitted => cases hsome
  · intro row' hrow'
    rcases mem_append.1 hrow' with hold | hlast
    · obtain ⟨code, hcode', hmem⟩ := h.row_issued row' hold
      exact ⟨code, hcode', mem_append_left _ hmem⟩
    · cases mem_singleton.1 hlast
      exact ⟨_, hcode, by simp⟩
  · intro code appId redirectUri holder response hmem
    rcases mem_append.1 hmem with hold | hlast
    · obtain ⟨happ, scopes, hissue⟩ := h.exchanged_issued _ _ _ _ _ hold
      exact ⟨happ, scopes, mem_append_left _ hissue⟩
    · cases mem_singleton.1 hlast
  · intro code hmem row' hrow' hrow
    have hold : code ∈ log.filterMap OAuthEvent.exchangedCode? := by
      rwa [filterMap_append_of_eq_none rfl] at hmem
    rcases mem_append.1 hrow' with hmem' | hlast
    · exact h.exchanged_used code hold row' hmem' hrow
    · cases mem_singleton.1 hlast
      obtain ⟨token', htoken', rfl⟩ := h.exchanged_drawn hold
      exact absurd (hsha (hcode.symm.trans hrow)) (hfresh token' htoken')
  · rw [filterMap_append_of_eq_none rfl]
    exact h.exchanged_once

variable {response : TokenResponse} {authCode : OAuthAuthorizationCode}

/-- An unused code is exchanged, and its row marked. -/
theorem CodesSound.exchange (h : CodesSound sha256 drawn log rows)
    (hsha : Function.Injective sha256) (hkey : (rows.map OAuthAuthorizationCode.code).Nodup)
    (hsub : drawn ⊆ drawn') {now : Int} (hrow : authCode ∈ rows)
    (hcode : authCode.code = sha256 code) (hunused : authCode.usedAt = none) :
    CodesSound sha256 drawn'
      (log ++ [.exchanged code authCode.appId authCode.redirectUri authCode.holder response])
      (rows.map fun row => if row.id = authCode.id then { row with usedAt := some now } else row)
    := by
  have hmarked : ∀ row : OAuthAuthorizationCode,
      ∀ row', row' = (if row.id = authCode.id then { row with usedAt := some now } else row) →
        row'.code = row.code ∧ row'.holder = row.holder ∧ row'.redirectUri = row.redirectUri ∧
          row'.scopes = row.scopes ∧ (row.usedAt.isSome → row'.usedAt.isSome) := by
    intro row row' hrow'
    subst hrow'
    split <;> simp [OAuthAuthorizationCode.holder]
  have hnew : code ∉ log.filterMap OAuthEvent.exchangedCode? := by
    intro hmem
    have hused := h.exchanged_used code hmem authCode hrow hcode
    simp [hunused] at hused
  refine ⟨?_, ?_, ?_, ?_, ?_, ?_⟩
  · intro issued hmem
    rcases mem_append.1 hmem with hold | hlast
    · obtain ⟨token, htoken, hissued⟩ := h.issued_drawn issued hold
      exact ⟨token, hsub htoken, hissued⟩
    · cases mem_singleton.1 hlast
  · rw [filterMap_append_of_eq_none rfl]
    exact h.issued_once
  · intro row' hrow'
    obtain ⟨row, hmem, heq⟩ := mem_map.1 hrow'
    obtain ⟨hsame, hholder, huri, hscopes, _⟩ := hmarked row row' heq.symm
    obtain ⟨code', hcode', hissue⟩ := h.row_issued row hmem
    refine ⟨code', hsame.trans hcode', mem_append_left _ ?_⟩
    rwa [hholder, huri, hscopes]
  · intro code' appId redirectUri holder response' hmem
    rcases mem_append.1 hmem with hold | hlast
    · obtain ⟨happ, scopes, hissue⟩ := h.exchanged_issued _ _ _ _ _ hold
      exact ⟨happ, scopes, mem_append_left _ hissue⟩
    · cases mem_singleton.1 hlast
      obtain ⟨code', hcode', hissue⟩ := h.row_issued authCode hrow
      cases hsha (hcode.symm.trans hcode')
      exact ⟨rfl, authCode.scopes, mem_append_left _ hissue⟩
  · intro code' hmem row' hrow' hhash
    obtain ⟨row, hrowmem, heq⟩ := mem_map.1 hrow'
    obtain ⟨hsame, _, _, _, hused⟩ := hmarked row row' heq.symm
    have hcases : code' ∈ log.filterMap OAuthEvent.exchangedCode? ∨ code' = code := by
      simpa [OAuthEvent.exchangedCode?] using hmem
    rcases hcases with hold | rfl
    · exact hused (h.exchanged_used code' hold row hrowmem (hsame.symm.trans hhash))
    · -- the row with the hash of the code is the one that is marked
      have hauth : row = authCode :=
        inj_on_of_nodup_map hkey hrowmem hrow (by rw [← hsame, hhash, hcode])
      rw [← heq, hauth]
      simp
  · rw [filterMap_append]
    refine nodup_append.2 ⟨h.exchanged_once, nodup_singleton _, ?_⟩
    intro code' hold code'' hlast heq
    subst heq
    exact hnew (mem_singleton.1 hlast ▸ hold)

end

/-! ## Tokens -/

section
variable {drawn drawn' : List JsString} {log : List OAuthEvent} {event : OAuthEvent}
  {rows rows' : List OAuthAccessToken}

variable (h : TokensSound sha256 drawn log rows)
include h

theorem TokensSound.mono (hsub : drawn ⊆ drawn') : TokensSound sha256 drawn' log rows := by
  refine { h with refresh_drawn := ?_, refreshed_drawn := ?_ }
  · intro row hrow
    obtain ⟨token, htoken, hhash⟩ := h.refresh_drawn row hrow
    exact ⟨token, hsub htoken, hhash⟩
  · intro token htoken
    obtain ⟨token', htoken', heq⟩ := h.refreshed_drawn token htoken
    exact ⟨token', hsub htoken', heq⟩

theorem TokensSound.append (hexchanged : ∀ holder, event.exchangedFor? holder = none)
    (hgranted : ∀ holder, event.grantedTo? holder = none)
    (hused : event.usedRefreshToken? = none) :
    TokensSound sha256 drawn (log ++ [event]) rows := by
  have hlog : (log ++ [event]).filterMap _ = _ := filterMap_append_of_eq_none hused
  refine ⟨h.nodup_holder, ?_, h.refresh_drawn, hlog ▸ h.refreshed_drawn, hlog ▸ h.refreshed_gone,
    hlog ▸ h.refreshed_once⟩
  intro row hrow
  exact (h.row_granted row hrow).append (hexchanged _) (hgranted _)

theorem TokensSound.map {change : OAuthAccessToken → OAuthAccessToken}
    (hholder : ∀ row, (change row).holder = row.holder)
    (htoken : ∀ row, (change row).tokenHash = row.tokenHash)
    (hrefresh : ∀ row, (change row).refreshHash = row.refreshHash)
    (hscopes : ∀ row, (change row).scopes = row.scopes) :
    TokensSound sha256 drawn log (rows.map change) := by
  refine ⟨?_, ?_, ?_, h.refreshed_drawn, ?_, h.refreshed_once⟩
  · have hsame : (rows.map change).map OAuthAccessToken.holder =
        rows.map OAuthAccessToken.holder := by
      simp [hholder]
    exact hsame ▸ h.nodup_holder
  · intro row' hrow'
    obtain ⟨row, hrow, rfl⟩ := mem_map.1 hrow'
    obtain ⟨⟨response, hlast, haccess, hhash⟩, hconsented⟩ := h.row_granted row hrow
    refine ⟨⟨response, ?_, ?_, ?_⟩, ?_⟩
    · rwa [hholder]
    · rwa [htoken]
    · rwa [hrefresh]
    · rwa [hholder, hscopes]
  · intro row' hrow'
    obtain ⟨row, hrow, rfl⟩ := mem_map.1 hrow'
    rw [hrefresh]
    exact h.refresh_drawn row hrow
  · intro token hused row' hrow'
    obtain ⟨row, hrow, rfl⟩ := mem_map.1 hrow'
    rw [hrefresh]
    exact h.refreshed_gone token hused row hrow

/-- **Fresh tokens are handed out**: the row of their holder gets their hashes, and every other row
is an old one. A refresh token that is used up is that of no other row. -/
theorem TokensSound.grant (hsha : Function.Injective sha256) (holder : Holder)
    (response : TokenResponse)
    (hsub : drawn ⊆ drawn') (hnew : token ∉ drawn) (hdrawn : token ∈ drawn')
    (hresponse : response.refresh_token = lit "rt_" ++ token)
    (hnodup : (rows'.map OAuthAccessToken.holder).Nodup)
    (hrows : ∀ row ∈ rows', (row.holder = holder ∧
        row.tokenHash = sha256 response.access_token ∧
        row.refreshHash = some (sha256 response.refresh_token) ∧
        Consented (log ++ [event]) holder row.scopes) ∨ (row.holder ≠ holder ∧ row ∈ rows))
    (hexchanged : ∀ other, other ≠ holder → event.exchangedFor? other = none)
    (hgranted : ∀ other, event.grantedTo? other = if other = holder then some response else none)
    (hunique : ∀ row ∈ rows, ∀ row' ∈ rows, ∀ hash, row.refreshHash = some hash →
      row'.refreshHash = some hash → row = row')
    (hused : ∀ used, event.usedRefreshToken? = some used →
      ∃ row ∈ rows, row.holder = holder ∧ row.refreshHash = some (sha256 used)) :
    TokensSound sha256 drawn' (log ++ [event]) rows' := by
  have hfresh : ∀ token' ∈ drawn, sha256 (lit "rt_" ++ token) ≠ sha256 (lit "rt_" ++ token') := by
    intro token' htoken' heq
    rw [append_cancel_left (hsha heq)] at hnew
    exact hnew htoken'
  -- what is used up was drawn, and is the refresh token of a row
  have hcases : ∀ used ∈ (log ++ [event]).filterMap OAuthEvent.usedRefreshToken?,
      used ∈ log.filterMap OAuthEvent.usedRefreshToken? ∨
        ∃ row ∈ rows, row.holder = holder ∧ row.refreshHash = some (sha256 used) := by
    intro used hmem
    rw [filterMap_append, mem_append] at hmem
    rcases hmem with hold | hlast
    · exact .inl hold
    · obtain ⟨event', hevent', hsome⟩ := mem_filterMap.1 hlast
      cases mem_singleton.1 hevent'
      exact .inr (hused used hsome)
  have hdrawnUsed : ∀ used ∈ (log ++ [event]).filterMap OAuthEvent.usedRefreshToken?,
      ∃ token' ∈ drawn, used = lit "rt_" ++ token' := by
    intro used hmem
    rcases hcases used hmem with hold | ⟨row, hrow, _, hhash⟩
    · exact h.refreshed_drawn used hold
    · obtain ⟨token', htoken', hhash'⟩ := h.refresh_drawn row hrow
      exact ⟨token', htoken', hsha (some.inj (hhash.symm.trans hhash'))⟩
  refine ⟨hnodup, ?_, ?_, ?_, ?_, ?_⟩
  · intro row hrow
    rcases hrows row hrow with ⟨hholder, haccess, hhash, hconsented⟩ | ⟨hholder, hold⟩
    · refine ⟨⟨response, ?_, haccess, hhash⟩, hholder ▸ hconsented⟩
      rw [lastGranted_append, hgranted, if_pos hholder]
      rfl
    · refine (h.row_granted row hold).append (hexchanged _ hholder) ?_
      rw [hgranted, if_neg hholder]
  · intro row hrow
    rcases hrows row hrow with ⟨_, _, hhash, _⟩ | ⟨_, hold⟩
    · exact ⟨token, hdrawn, by rw [hhash, hresponse]⟩
    · obtain ⟨token', htoken', hhash⟩ := h.refresh_drawn row hold
      exact ⟨token', hsub htoken', hhash⟩
  · intro used hmem
    obtain ⟨token', htoken', heq⟩ := hdrawnUsed used hmem
    exact ⟨token', hsub htoken', heq⟩
  · intro used hmem row hrow
    rcases hrows row hrow with ⟨_, _, hhash, _⟩ | ⟨hholder, hold⟩
    · obtain ⟨token', htoken', rfl⟩ := hdrawnUsed used hmem
      rw [hhash, hresponse]
      intro heq
      exact hfresh token' htoken' (some.inj heq)
    · rcases hcases used hmem with hbefore | ⟨row', hrow', hholder', hhash'⟩
      · exact h.refreshed_gone used hbefore row hold
      · intro hhash
        exact hholder (hunique row hold row' hrow' _ hhash hhash' ▸ hholder')
  · rw [filterMap_append]
    refine nodup_append.2 ⟨h.refreshed_once, ?_, ?_⟩
    · cases hsome : event.usedRefreshToken? <;> simp [hsome]
    · intro used hold used' hlast heq
      subst heq
      obtain ⟨event', hevent', hsome⟩ := mem_filterMap.1 hlast
      cases mem_singleton.1 hevent'
      obtain ⟨row, hrow, _, hhash⟩ := hused used hsome
      exact h.refreshed_gone used hold row hrow hhash

end

/-! ## Transactions -/

theorem TokenTable.eq_of_refreshHash (table : TokenTable) : ∀ row ∈ table.rows,
    ∀ row' ∈ table.rows, ∀ hash, row.refreshHash = some hash → row'.refreshHash = some hash →
      row = row' := by
  intro row hrow row' hrow' hash hhash hhash'
  by_contra hne
  let Differ (a b : OAuthAccessToken) : Prop :=
    ∀ hash, a.refreshHash = some hash → ∀ hash', b.refreshHash = some hash' → hash ≠ hash'
  have hsymm : Std.Symm Differ :=
    ⟨fun a b hab hash hhash hash' hhash' heq => hab hash' hhash' hash hhash heq.symm⟩
  have hpairwise : table.rows.Pairwise Differ := pairwise_filterMap.1 table.nodup_refreshHash
  exact hpairwise.forall hrow hrow' hne hash hhash hash hhash' rfl

theorem holders_of_update {rows : List OAuthAccessToken} {target : OAuthAccessToken}
    (test : OAuthAccessToken → Bool) (change : OAuthAccessToken → OAuthAccessToken)
    (hnodup : (rows.map OAuthAccessToken.holder).Nodup) (htarget : target ∈ rows)
    (htest : ∀ row ∈ rows, test row = true ↔ row = target)
    (hchange : (change target).holder = target.holder) :
    ((rows.map fun row => if test row then change row else row).map OAuthAccessToken.holder).Nodup ∧
    ∀ row' ∈ rows.map (fun row => if test row then change row else row),
      row' = change target ∨ (row'.holder ≠ target.holder ∧ row' ∈ rows) := by
  constructor
  · have hsame : (rows.map fun row => if test row then change row else row).map
        OAuthAccessToken.holder = rows.map OAuthAccessToken.holder := by
      rw [map_map]
      refine map_congr_left fun row hrow => ?_
      rw [Function.comp_apply]
      split
      · next h => rw [(htest row hrow).1 h, hchange]
      · rfl
    exact hsame ▸ hnodup
  · intro row' hrow'
    obtain ⟨row, hrow, rfl⟩ := mem_map.1 hrow'
    split
    · next h => exact .inl (congrArg change ((htest row hrow).1 h))
    · next h =>
      refine .inr ⟨fun hholder => h ?_, hrow⟩
      exact (htest row hrow).2 (inj_on_of_nodup_map hnodup hrow htarget hholder)

theorem exchangedRows_spec (sha256 : JsString → JsString) (table : TokenTable)
    (hnodup : (table.rows.map OAuthAccessToken.holder).Nodup) (app : OAuthApp)
    (authCode : OAuthAuthorizationCode) (inputs : OAuthInputs) :
    ((exchangedRows sha256 table.rows app authCode inputs).map OAuthAccessToken.holder).Nodup ∧
    ∀ row ∈ exchangedRows sha256 table.rows app authCode inputs,
      (∃ id, row = exchangedRow sha256 app authCode inputs id) ∨
        (row.holder ≠ ⟨app.id, authCode.userId, authCode.workspaceId⟩ ∧ row ∈ table.rows) := by
  unfold exchangedRows
  split
  · next existingToken hfind =>
    have hmem := mem_of_find?_eq_some hfind
    have hholder : existingToken.holder = ⟨app.id, authCode.userId, authCode.workspaceId⟩ :=
      of_decide_eq_true (find?_some hfind :)
    obtain ⟨hholders, hrows⟩ := holders_of_update
      (fun row => decide (row.id = existingToken.id))
      (fun row => exchangedRow sha256 app authCode inputs row.id) hnodup hmem
      (by
        intro row hrow
        rw [decide_eq_true_iff]
        exact ⟨fun h => inj_on_of_nodup_map table.nodup_id hrow hmem h, fun h => h ▸ rfl⟩)
      hholder.symm
    simp only [decide_eq_true_eq] at hholders hrows
    refine ⟨hholders, fun row hrow => ?_⟩
    rcases hrows row hrow with rfl | hold
    · exact .inl ⟨_, rfl⟩
    · exact .inr (hholder ▸ hold)
  · next hfind =>
    have hnone : ∀ row ∈ table.rows,
        row.holder ≠ ⟨app.id, authCode.userId, authCode.workspaceId⟩ := by
      intro row hrow
      simpa using find?_eq_none.1 hfind row hrow
    constructor
    · rw [map_append]
      refine nodup_append.2 ⟨hnodup, nodup_singleton _, ?_⟩
      intro holder hold holder' hlast heq
      obtain ⟨row, hrow, rfl⟩ := mem_map.1 hold
      exact hnone row hrow (heq.trans (mem_singleton.1 hlast))
    · intro row hrow
      rcases mem_append.1 hrow with hold | hlast
      · exact .inr ⟨hnone row hold, hold⟩
      · exact .inl ⟨_, mem_singleton.1 hlast⟩

section
variable {store store' : OAuthStore} {inputs : OAuthInputs} {app : OAuthApp}

theorem issueUnderLock_ok {params : IssueParams} {userId : JsString}
    (h : issueUnderLock sha256 store params userId app scopes inputs = .ok (store', code)) :
    code = lit "code_" ++ inputs.token ∧ store'.tokens = store.tokens ∧
      ∃ row : OAuthAuthorizationCode, store'.codes.rows = store.codes.rows ++ [row] ∧
        row.code = sha256 code ∧ row.holder = ⟨app.id, userId, params.workspaceId⟩ ∧
        row.redirectUri = params.redirectUri ∧ row.scopes = scopes := by
  obtain ⟨_, h⟩ := invariant_bind_ok.1 h
  split at h
  · cases h
  · cases h
    exact ⟨rfl, rfl, _, rfl, rfl, rfl, rfl, rfl⟩

theorem exchangeUnderLock_ok {params : ExchangeParams}
    (h : exchangeUnderLock sha256 store params app inputs = .ok (store', authCode, response)) :
    authCode ∈ store.codes.rows ∧ authCode.code = sha256 params.code ∧ authCode.usedAt = none ∧
      authCode.appId = app.id ∧ authCode.redirectUri = params.redirectUri ∧
      response = inputs.response authCode.scopes ∧
      store'.codes.rows = (store.codes.rows.map fun row =>
        if row.id = authCode.id then { row with usedAt := some inputs.now } else row) ∧
      store'.tokens.rows = exchangedRows sha256 store.tokens.rows app authCode inputs := by
  unfold exchangeUnderLock at h
  split at h
  · cases h
  · next found hfind =>
    obtain ⟨hunused, h⟩ := invariant_bind_ok.1 h
    obtain ⟨_, h⟩ := invariant_bind_ok.1 h
    obtain ⟨happ, h⟩ := invariant_bind_ok.1 h
    obtain ⟨huri, h⟩ := invariant_bind_ok.1 h
    obtain ⟨tokens, htokens, h⟩ := bind_ok.1 h
    cases h
    obtain ⟨hmem, hcode⟩ := KeyedTable.find?_eq_some.1 hfind
    refine ⟨hmem, hcode, isNone_iff_eq_none.1 hunused, of_decide_eq_true happ,
      of_decide_eq_true huri, rfl, ?_, TokenTable.rows_of_write htokens⟩
    simp [KeyedTable.updateMany]

theorem refreshUnderLock_ok {params : RefreshParams} {token : OAuthAccessToken}
    (h : refreshUnderLock sha256 store params app inputs = .ok (store', token, response)) :
    token ∈ store.tokens.rows ∧ token.refreshHash = some (sha256 params.refreshToken) ∧
      token.revokedAt = none ∧ response = inputs.response token.scopes ∧
      store'.codes = store.codes ∧
      store'.tokens.rows = store.tokens.rows.map fun row =>
        if rotates sha256 token params.refreshToken row then rotatedRow sha256 inputs row
        else row := by
  unfold refreshUnderLock at h
  split at h
  · cases h
  · next found hfind =>
    obtain ⟨hfind, hrevoked⟩ := filter_eq_some_iff.1 hfind
    obtain ⟨_, h⟩ := invariant_bind_ok.1 h
    obtain ⟨_, h⟩ := invariant_bind_ok.1 h
    obtain ⟨tokens, htokens, h⟩ := bind_ok.1 h
    obtain ⟨_, h⟩ := invariant_bind_ok.1 h
    cases h
    exact ⟨mem_of_find?_eq_some hfind, of_decide_eq_true (find?_some hfind :),
      isNone_iff_eq_none.1 hrevoked, rfl, rfl, TokenTable.rows_of_write htokens⟩

variable {drawn : List JsString} {log : List OAuthEvent} {event : OAuthEvent}

/-- What a transaction is given is new. -/
structure OAuthInputs.Fresh (inputs : OAuthInputs) (drawn : List JsString) : Prop where
  token : inputs.token ∉ drawn
  refreshToken : inputs.refreshToken ∉ drawn

section
variable (h : CodesSound sha256 drawn log store.codes.rows) (hsha : Function.Injective sha256)
include h hsha

theorem CodesSound.transact (hfresh : inputs.Fresh drawn) {request : OAuthRequest}
    (hok : request.transact sha256 store inputs = .ok (store', event)) :
    CodesSound sha256 (drawn ++ [inputs.token, inputs.refreshToken]) (log ++ [event])
      store'.codes.rows := by
  have hsub : drawn ⊆ drawn ++ [inputs.token, inputs.refreshToken] :=
    subset_append_left _ _
  cases request with
  | issue params userId app scopes =>
    obtain ⟨⟨store'', code⟩, hissue, hok⟩ := bind_ok.1 hok
    cases hok
    obtain ⟨rfl, _, row, hrows, hcode, hholder, huri, hscopes⟩ := issueUnderLock_ok hissue
    rw [hrows, ← hholder, ← huri, ← hscopes]
    exact h.issue hsha hcode hfresh.token hsub (by simp)
  | exchange params app =>
    obtain ⟨⟨store'', authCode, response⟩, hexchange, hok⟩ := bind_ok.1 hok
    cases hok
    obtain ⟨hmem, hcode, hunused, happ, huri, _, hrows, _⟩ := exchangeUnderLock_ok hexchange
    rw [hrows, ← happ, ← huri]
    exact h.exchange hsha store.codes.nodup hsub hmem hcode hunused
  | refresh params app =>
    obtain ⟨⟨store'', token, response⟩, hrefresh, hok⟩ := bind_ok.1 hok
    cases hok
    obtain ⟨_, _, _, _, hcodes, _⟩ := refreshUnderLock_ok hrefresh
    rw [hcodes]
    exact (h.mono hsub).append rfl rfl

theorem CodesSound.consented (hmem : authCode ∈ store.codes.rows)
    (hcode : authCode.code = sha256 code) {appId redirectUri : JsString} :
    Consented (log ++ [.exchanged code appId redirectUri authCode.holder response])
      authCode.holder authCode.scopes := by
  obtain ⟨code', hcode', hissue⟩ := h.row_issued authCode hmem
  cases hsha (hcode.symm.trans hcode')
  refine ⟨code, authCode.redirectUri, ?_, mem_append_left _ hissue⟩
  rw [lastExchanged_append]
  simp [OAuthEvent.exchangedFor?]

end

theorem TokensSound.transact (h : TokensSound sha256 drawn log store.tokens.rows)
    (hcodes : CodesSound sha256 drawn log store.codes.rows) (hsha : Function.Injective sha256)
    (hfresh : inputs.Fresh drawn) {request : OAuthRequest}
    (hok : request.transact sha256 store inputs = .ok (store', event)) :
    TokensSound sha256 (drawn ++ [inputs.token, inputs.refreshToken]) (log ++ [event])
      store'.tokens.rows := by
  have hsub : drawn ⊆ drawn ++ [inputs.token, inputs.refreshToken] :=
    subset_append_left _ _
  cases request with
  | issue params userId app scopes =>
    obtain ⟨⟨store'', code⟩, hissue, hok⟩ := bind_ok.1 hok
    cases hok
    obtain ⟨_, htokens, _⟩ := issueUnderLock_ok hissue
    rw [htokens]
    exact (h.mono hsub).append (fun _ => rfl) (fun _ => rfl) rfl
  | exchange params app =>
    obtain ⟨⟨store'', authCode, response⟩, hexchange, hok⟩ := bind_ok.1 hok
    cases hok
    obtain ⟨hmem, hcode, _, happ, _, rfl, _, hrows⟩ := exchangeUnderLock_ok hexchange
    obtain ⟨hnodup, hcases⟩ := exchangedRows_spec sha256 store.tokens h.nodup_holder app
      authCode inputs
    have hholder :
        (⟨app.id, authCode.userId, authCode.workspaceId⟩ : Holder) = authCode.holder := by
      rw [← happ]
      rfl
    rw [hrows]
    refine h.grant hsha authCode.holder (inputs.response authCode.scopes) hsub
      hfresh.refreshToken (by simp) rfl hnodup ?_ ?_ ?_ store.tokens.eq_of_refreshHash ?_
    · intro row hrow
      rcases hcases row hrow with ⟨id, rfl⟩ | ⟨hother, hold⟩
      · exact .inl ⟨hholder, rfl, rfl, hcodes.consented hsha hmem hcode⟩
      · exact .inr ⟨hholder ▸ hother, hold⟩
    · intro other hother
      exact if_neg (Ne.symm hother)
    · intro other
      simp only [OAuthEvent.grantedTo?, eq_comm]
    · intro used hused
      cases hused
  | refresh params app =>
    obtain ⟨⟨store'', token, response⟩, hrefresh, hok⟩ := bind_ok.1 hok
    cases hok
    obtain ⟨hmem, hhash, hrevoked, rfl, _, hrows⟩ := refreshUnderLock_ok hrefresh
    have htest : ∀ row ∈ store.tokens.rows,
        rotates sha256 token params.refreshToken row = true ↔ row = token := by
      intro row hrow
      simp only [rotates, Bool.and_eq_true, decide_eq_true_eq]
      constructor
      · rintro ⟨⟨hid, _⟩, _⟩
        exact inj_on_of_nodup_map store.tokens.nodup_id hrow hmem hid
      · rintro rfl
        simp [hhash, hrevoked]
    obtain ⟨hnodup, hcases⟩ := holders_of_update _ (rotatedRow sha256 inputs) h.nodup_holder hmem
      htest rfl
    rw [hrows]
    refine h.grant hsha token.holder (inputs.response token.scopes) hsub
      hfresh.refreshToken (by simp) rfl hnodup ?_ ?_ ?_ store.tokens.eq_of_refreshHash ?_
    · intro row hrow
      rcases hcases row hrow with rfl | hold
      · exact .inl ⟨rfl, rfl, rfl, (h.row_granted token hmem).consented.append rfl⟩
      · exact .inr hold
    · intro other _
      rfl
    · intro other
      simp only [OAuthEvent.grantedTo?, eq_comm]
    · intro used hused
      cases hused
      exact ⟨token, hmem, rfl, hhash⟩

end

/-! ## Steps -/

section
variable {drawn : List JsString} {state : OAuthState}

theorem OAuthCall.Sound.append {call : OAuthCall} (h : call.Sound log) (more : List OAuthEvent) :
    call.Sound (log ++ more) := by
  cases call with
  | tokenRead | appRead => exact ReadSound.append h more
  | checked | found | captured => trivial

theorem ReadsSound.append {more : List OAuthEvent} {calls : Nat → Option OAuthCall}
    (h : ReadsSound log calls)
    (hmore : ∀ token holder scopes readAt, .admitted token holder scopes readAt ∈ more →
      ReadSound log token holder scopes readAt) : ReadsSound (log ++ more) calls := by
  refine ⟨fun i call hcall => (h.calls i call hcall).append more, ?_⟩
  intro token holder scopes readAt hmem
  rcases mem_append.1 hmem with hold | hnew
  · exact (h.admitted _ _ _ _ hold).append more
  · exact (hmore _ _ _ _ hnew).append more

theorem OAuthState.Sound.setCall (h : state.Sound sha256 drawn) (i : Nat)
    {call : Option OAuthCall} (hcall : ∀ c, call = some c → c.Sound state.log) :
    (state.setCall i call).Sound sha256 drawn := by
  refine ⟨h.codes, h.tokens, ?_, h.reads.admitted⟩
  intro j c hc
  simp only [OAuthState.setCall, Function.update_apply] at hc
  split at hc
  · exact hcall c hc
  · exact h.reads.calls j c hc

/-- A request goes on with a call that holds no token. -/
theorem OAuthState.Sound.proceed (h : state.Sound sha256 drawn) (i : Nat) {α : Type}
    (result : Except AppError α) {next : α → OAuthCall} (hnext : ∀ a log, (next a).Sound log) :
    (state.proceed i (result.map next)).Sound sha256 drawn := by
  cases result with
  | error e => exact h.setCall i (by simp)
  | ok a =>
    refine h.setCall i ?_
    rintro _ ⟨⟩
    exact hnext a _

theorem OAuthRequest.transact_ne_admitted {request : OAuthRequest} {store store' : OAuthStore}
    {inputs : OAuthInputs} {event : OAuthEvent}
    (hok : request.transact sha256 store inputs = .ok (store', event)) {token : JsString}
    {holder : Holder} {scopes : List JsString} {readAt : Nat} :
    event ≠ .admitted token holder scopes readAt := by
  cases request with
  | issue | exchange | refresh =>
    obtain ⟨result, _, hok⟩ := bind_ok.1 hok
    cases hok
    simp

theorem OAuthState.Sound.mono {drawn' : List JsString} (h : state.Sound sha256 drawn)
    (hsub : drawn ⊆ drawn') : state.Sound sha256 drawn' :=
  ⟨h.codes.mono hsub, h.tokens.mono hsub, h.reads⟩

theorem OAuthState.Sound.commit (h : state.Sound sha256 drawn) (hsha : Function.Injective sha256)
    (i : Nat) {inputs : OAuthInputs} (hfresh : inputs.Fresh drawn) (request : OAuthRequest)
    (authorized : Except AppError Unit) :
    (state.commit i do
      authorized
      request.transact sha256 state.store inputs).Sound sha256
        (drawn ++ [inputs.token, inputs.refreshToken]) := by
  have hcall : (state.setCall i none).Sound sha256 drawn := h.setCall i (by simp)
  cases hresult : (do authorized; request.transact sha256 state.store inputs) with
  | error e => exact hcall.mono (subset_append_left _ _)
  | ok result =>
    obtain ⟨store', event⟩ := result
    obtain ⟨_, _, hok⟩ := bind_ok.1 hresult
    refine ⟨h.codes.transact hsha hfresh hok, h.tokens.transact h.codes hsha hfresh hok, ?_⟩
    refine hcall.reads.append fun token holder scopes readAt hmem => ?_
    exact absurd (mem_singleton.1 hmem).symm (OAuthRequest.transact_ne_admitted hok)

theorem OAuthStore.revoke_sound (store : OAuthStore)
    (hcodes : CodesSound sha256 drawn log store.codes.rows)
    (htokens : TokensSound sha256 drawn log store.tokens.rows) (workspaceId userId : JsString)
    (now : Int) :
    CodesSound sha256 drawn log (store.revoke workspaceId userId now).codes.rows ∧
      TokensSound sha256 drawn log (store.revoke workspaceId userId now).tokens.rows := by
  refine ⟨hcodes.subset (filter_sublist.subset), htokens.map ?_ ?_ ?_ ?_⟩ <;>
    · intro row
      split <;> rfl

/-- **Every step keeps the invariants**, whatever its request has read before. -/
theorem OAuthState.Sound.apply (h : state.Sound sha256 drawn) (hsha : Function.Injective sha256)
    (step : OAuthStep) (hfresh : ∀ i inputs, step = .transact i inputs → inputs.Fresh drawn) :
    (state.apply sha256 scopeSlug step).Sound sha256 (drawn ++ step.draws) := by
  have hsub : drawn ⊆ drawn ++ step.draws := subset_append_left _ _
  cases step with
  | issue i | exchange i | refresh i =>
    refine OAuthState.Sound.mono (h.proceed i _ ?_) hsub
    intro request log
    trivial
  | candidate i | capture i =>
    rw [OAuthState.apply]
    split
    · refine OAuthState.Sound.mono (h.proceed i _ ?_) hsub
      intro read log
      trivial
    · exact h.mono hsub
  | transact i inputs =>
    rw [OAuthState.apply]
    split
    · exact h.commit hsha i (hfresh i inputs rfl) _ _
    · exact h.mono hsub
  | resolve i tokenString =>
    refine (h.setCall i ?_).mono hsub
    intro call hcall
    obtain ⟨baseToken, hread, rfl⟩ := map_eq_some_iff.1 hcall
    obtain ⟨hfind, _⟩ := filter_eq_some_iff.1 hread
    have hgranted := h.tokens.row_granted baseToken (mem_of_find?_eq_some hfind)
    exact hgranted.readSound hsha (of_decide_eq_true (find?_some hfind :))
  | resolveApp i now =>
    rw [OAuthState.apply]
    split
    · next token baseToken readAt hcall =>
      refine (h.setCall i ?_).mono hsub
      intro call hnext
      obtain ⟨_, _, rfl⟩ := map_eq_some_iff.1 hnext
      exact (h.reads.calls i _ hcall :)
    · exact h.mono hsub
  | resolveUser i =>
    rw [OAuthState.apply]
    split
    · next token baseToken readAt hcall =>
      have hbase := h.reads.calls i _ hcall
      cases huser : readUser state.store baseToken with
      | none =>
        have hcalls : (state.setCall i none).Sound sha256 drawn := h.setCall i (by simp)
        simp only [map_none, toList_none, append_nil]
        exact hcalls.mono hsub
      | some resolved =>
        obtain ⟨user, _, rfl⟩ := map_eq_some_iff.1 huser
        have hcalls : (state.setCall i none).Sound sha256 drawn := h.setCall i (by simp)
        refine OAuthState.Sound.mono ?_ hsub
        refine ⟨h.codes.append rfl rfl, h.tokens.append (fun _ => rfl) (fun _ => rfl) rfl, ?_⟩
        refine hcalls.reads.append ?_
        intro token' holder scopes readAt' hmem
        cases mem_singleton.1 hmem
        exact hbase
    · exact h.mono hsub
  | changeApps apps =>
    refine OAuthState.Sound.mono ⟨?_, h.tokens, h.reads⟩ hsub
    exact h.codes.subset filter_sublist.subset
  | changeGrant tables grants revoked now =>
    refine OAuthState.Sound.mono ?_ hsub
    rcases revoked with _ | ⟨workspaceId, userId⟩
    · exact ⟨h.codes, h.tokens, h.reads⟩
    · obtain ⟨hcodes, htokens⟩ := OAuthStore.revoke_sound
        { state.store with tables := tables, grants := grants } h.codes h.tokens workspaceId userId
        now
      exact ⟨hcodes, htokens, h.reads⟩

end

/-! ## Runs -/

def OAuthState.run (sha256 : JsString → JsString) (scopeSlug : Option JsString)
    (start : OAuthState) (steps : List OAuthStep) : OAuthState :=
  steps.foldl (fun state step => state.apply sha256 scopeSlug step) start

section
variable (hsha : Function.Injective sha256) (tables : SupportTables)
  (grants : KeyedTable WorkspaceSupportGrant WorkspaceSupportGrant.key)
  (apps : KeyedTable OAuthApp OAuthApp.id)
include hsha

theorem sound_run (steps : List OAuthStep) (hfresh : (steps.flatMap OAuthStep.draws).Nodup) :
    ((OAuthState.initial tables grants apps).run sha256 scopeSlug steps).Sound sha256
      (steps.flatMap OAuthStep.draws) := by
  induction steps using reverseRecOn with
  | nil =>
    refine ⟨⟨?_, .nil, ?_, ?_, ?_, .nil⟩, ⟨.nil, ?_, ?_, ?_, ?_, .nil⟩, ?_, ?_⟩ <;>
      simp [OAuthState.run, OAuthState.initial, KeyedTable.empty]
  | append_singleton done step ih =>
    rw [flatMap_append, flatMap_singleton] at hfresh ⊢
    obtain ⟨hbefore, _, hdisjoint⟩ := nodup_append.1 hfresh
    rw [OAuthState.run, foldl_append]
    refine (ih hbefore).apply hsha step ?_
    rintro i inputs rfl
    constructor
    · intro hmem
      exact hdisjoint _ hmem _ (by simp [OAuthStep.draws]) rfl
    · intro hmem
      exact hdisjoint _ hmem _ (by simp [OAuthStep.draws]) rfl

end

/-! ## Guarantees -/

section
variable {drawn : List JsString} {state : OAuthState}

theorem TokensSound.eq_of_holder {rows : List OAuthAccessToken}
    (h : TokensSound sha256 drawn log rows) {row' : OAuthAccessToken} (hrow : row ∈ rows)
    (hrow' : row' ∈ rows) (hholder : row.holder = row'.holder) : row = row' :=
  inj_on_of_nodup_map h.nodup_holder hrow hrow' hholder

theorem AcceptsAccess.row {holder : Holder} (h : AcceptsAccess sha256 state.store token holder) :
    ∃ row ∈ state.store.tokens.rows, row.holder = holder ∧ row.tokenHash = sha256 token := by
  obtain ⟨row, now, hread, hholder, _⟩ := h
  obtain ⟨hfind, _⟩ := filter_eq_some_iff.1 hread
  exact ⟨row, mem_of_find?_eq_some hfind, hholder, of_decide_eq_true (find?_some hfind :)⟩

theorem AcceptsRefresh.row {holder : Holder} (h : AcceptsRefresh sha256 state.store token holder) :
    ∃ row ∈ state.store.tokens.rows, row.holder = holder ∧
      row.refreshHash = some (sha256 token) := by
  obtain ⟨params, app, inputs, ⟨store', row, response⟩, rfl, hok, hholder⟩ := h
  obtain ⟨hmem, hhash, _⟩ := refreshUnderLock_ok hok
  exact ⟨row, hmem, hholder, hhash⟩

theorem OAuthState.Sound.safe (h : state.Sound sha256 drawn) (hsha : Function.Injective sha256) :
    OAuthSafe sha256 state where
  issued_once := h.codes.issued_once
  exchanged_once := h.codes.exchanged_once
  exchanged_issued := h.codes.exchanged_issued
  access_unique holder := by
    intro token htoken token' htoken'
    obtain ⟨row, hrow, hholder, hhash⟩ := AcceptsAccess.row htoken
    obtain ⟨row', hrow', hholder', hhash'⟩ := AcceptsAccess.row htoken'
    obtain rfl := h.tokens.eq_of_holder hrow hrow' (hholder.trans hholder'.symm)
    exact hsha (hhash.symm.trans hhash')
  refresh_unique holder := by
    intro token htoken token' htoken'
    obtain ⟨row, hrow, hholder, hhash⟩ := AcceptsRefresh.row htoken
    obtain ⟨row', hrow', hholder', hhash'⟩ := AcceptsRefresh.row htoken'
    obtain rfl := h.tokens.eq_of_holder hrow hrow' (hholder.trans hholder'.symm)
    exact hsha (some.inj (hhash.symm.trans hhash'))
  refreshed_once := h.tokens.refreshed_once
  refreshed_gone token hused holder haccepts := by
    obtain ⟨row, hrow, _, hhash⟩ := AcceptsRefresh.row haccepts
    exact h.tokens.refreshed_gone token hused row hrow hhash
  admitted token holder scopes readAt hmem := (h.reads.admitted _ _ _ _ hmem).2

end

/-- **The tokens of custom GPTs are safe**: however requests and the changes of others are
interleaved, if the hash is injective and the opaque tokens are fresh, then in every state a code
has yielded tokens at most once and to its own app and redirect URI, one access and one refresh
token of an app, user and workspace are accepted at most, a used refresh token never again, and an
admitted access token had the scopes of the code last exchanged when it was read. -/
theorem oauth_safe (hsha : Function.Injective sha256) (tables : SupportTables)
    (grants : KeyedTable WorkspaceSupportGrant WorkspaceSupportGrant.key)
    (apps : KeyedTable OAuthApp OAuthApp.id) (steps : List OAuthStep)
    (hfresh : (steps.flatMap OAuthStep.draws).Nodup) :
    OAuthSafe sha256 ((OAuthState.initial tables grants apps).run sha256 scopeSlug steps) :=
  (sound_run hsha tables grants apps steps hfresh).safe hsha

/-! ## A code, its tokens and their rotation -/

/-- A hash that keeps its text. -/
def transparentHash (text : JsString) : JsString := 0x30 :: text

def gptApp : OAuthApp where
  id := lit "app"
  workspaceId := lit "w"
  clientId := lit "client"
  clientSecret := transparentHash (lit "secret")
  redirectUris := [lit "https://chatgpt.com/aip/g-PLACEHOLDER/oauth/callback"]
  scopes := [lit "chat", lit "read", lit "write"]
  isActive := true
  archivedAt := none

def gptTables : SupportTables where
  workspaces := ⟨[⟨lit "w", lit "w", none⟩], List.nodup_singleton _⟩
  users := ⟨[⟨lit "u", lit "u@example.com", false⟩], List.nodup_singleton _⟩
  members := ⟨[⟨lit "m", lit "w", lit "u", .admin, .HUMAN, true⟩], List.nodup_singleton _⟩

/-- A user consents to reading, the app exchanges the code, rotates the tokens and presents the new
access token. -/
def gptSteps : List OAuthStep := [
  .issue 0 (.user (lit "u") (lit "u@example.com") none)
    ⟨lit "client", lit "w", lit "https://chatgpt.com/aip/g-1/oauth/callback", [lit " read"]⟩
    (.ok ()) none,
  .candidate 0, .capture 0, .transact 0 ⟨0, lit "c1", lit "a", lit "unused"⟩,
  .exchange 1
    ⟨lit "code_a", lit "client", lit "secret", lit "https://chatgpt.com/aip/g-1/oauth/callback"⟩
    none,
  .candidate 1, .capture 1, .transact 1 ⟨1, lit "t1", lit "b", lit "c"⟩,
  .refresh 2 ⟨lit "rt_c", lit "client", none⟩ none,
  .candidate 2, .capture 2, .transact 2 ⟨2, lit "t2", lit "d", lit "e"⟩,
  .resolve 3 (lit "at_d"), .resolveApp 3 3, .resolveUser 3]

/-- What the run comes to, and that it is safe. -/
theorem oauth_safe_gptSteps :
    ((OAuthState.initial gptTables .empty ⟨[gptApp], List.nodup_singleton _⟩).run transparentHash
      none gptSteps).log = [
        .issued ⟨lit "code_a", ⟨lit "app", lit "u", lit "w"⟩,
          lit "https://chatgpt.com/aip/g-1/oauth/callback", [lit "read"]⟩,
        .exchanged (lit "code_a") (lit "app") (lit "https://chatgpt.com/aip/g-1/oauth/callback")
          ⟨lit "app", lit "u", lit "w"⟩ ⟨lit "at_b", "bearer", 3600, lit "rt_c", lit "read"⟩,
        .refreshed (lit "rt_c") ⟨lit "app", lit "u", lit "w"⟩
          ⟨lit "at_d", "bearer", 3600, lit "rt_e", lit "read"⟩,
        .admitted (lit "at_d") ⟨lit "app", lit "u", lit "w"⟩ [lit "read"] 3] ∧
    OAuthSafe transparentHash
      ((OAuthState.initial gptTables .empty ⟨[gptApp], List.nodup_singleton _⟩).run transparentHash
        none gptSteps) :=
  ⟨by decide +kernel,
    oauth_safe (fun _ _ h => (cons.inj h).2) gptTables .empty _ gptSteps (by decide +kernel)⟩

end Corgtex.Domain.OAuth
