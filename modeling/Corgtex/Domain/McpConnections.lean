import Corgtex.Domain.McpOAuthServer
import Mathlib.Data.List.Pairwise

/-!
# What an MCP connection admits

The log of the MCP server holds every code, connection and revocation in the order of their
transactions. The codes agree with it (`CodesSound`): the row of an exchanged code is used, and so
is that of a code that was issued before a revocation for its holder. The connections agree with it
(`ConnectionsSound`): each is the one that its exchange has created, and one that was revoked stays
so. A read of a token is as good as the log was when it was made (`ReadsSound`). `mcp_safe` is what
this comes to.
-/

namespace Corgtex.Domain.Mcp

open JsString List Option Support
open OAuth (TokenResponse)

variable {deployment : McpDeployment}

/-! ## Reading the log -/

namespace McpEvent

def exchangedCode? : McpEvent → Option JsString
  | .exchanged code _ _ => some code
  | _ => none

def created? : McpEvent → Option Connection
  | .exchanged _ connection _ => some connection
  | _ => none

/-- The connection that an event is about. -/
def connection? : McpEvent → Option Connection
  | .issued _ _ _ => none
  | .exchanged _ connection _ | .refreshed _ connection _ | .revoked connection
  | .admitted _ connection _ => some connection

/-- An event after the revocation of a connection, which `before` it came before: it refreshes no
token of the connection, admits none that was read after the revocation, and exchanges no code that
was issued to its holder before it. -/
def Respects (revoked : Connection) (before : List McpEvent) : McpEvent → Prop
  | .exchanged code connection _ => connection.holder = revoked.holder →
    ∀ scopes, .issued code revoked.holder scopes ∉ before
  | .refreshed _ connection _ => connection.id ≠ revoked.id
  | .admitted _ connection readAt => connection.id = revoked.id → readAt ≤ before.length
  | .issued _ _ _ | .revoked _ => True

end McpEvent

def RevocationsRespected (log : List McpEvent) : Prop :=
  ∀ before after revoked, log = before ++ .revoked revoked :: after →
    ∀ event ∈ after, event.Respects revoked before

/-! ## What is claimed of a state -/

section
variable (deployment : McpDeployment) (store : McpStore)

/-- The access token is accepted for a connection, at some time and for some resource. -/
def AcceptsAccess (connectionId token : JsString) : Prop :=
  ∃ expectedResource now membership row,
    resolveMcpOAuthAccessToken deployment store token expectedResource now membership = some row ∧
      row.id = connectionId

/-- The refresh token is accepted: the transaction of a refresh with it succeeds, for some client
and at some time. -/
def AcceptsRefresh (connectionId refreshToken : JsString) : Prop :=
  ∃ params client inputs result, params.refreshToken = refreshToken ∧
    refreshUnderLock deployment store params client inputs = .ok result ∧
      result.2.1.id = connectionId

end

/-- The guarantees of the server, of its store and its log. -/
structure McpSafe (deployment : McpDeployment) (state : McpState) : Prop where
  /-- A code is exchanged at most once. -/
  exchanged_once : (state.log.filterMap McpEvent.exchangedCode?).Nodup
  /-- At most one access token of a connection is accepted. -/
  access_unique : ∀ id, {token | AcceptsAccess deployment state.store id token}.Subsingleton
  /-- At most one refresh token is. -/
  refresh_unique : ∀ id, {token | AcceptsRefresh deployment state.store id token}.Subsingleton
  /-- Every event of a connection, and its row, have the user, workspace, client and scopes of the
  exchange that created it. -/
  created : ∀ event ∈ state.log, ∀ connection, event.connection? = some connection →
    connection ∈ state.log.filterMap McpEvent.created?
  row_created : ∀ row ∈ state.store.connections.rows,
    row.connection ∈ state.log.filterMap McpEvent.created?
  /-- It is created once. -/
  created_once : ((state.log.filterMap McpEvent.created?).map Connection.id).Nodup
  /-- These were consented to in its code. -/
  consented : ∀ code connection response, .exchanged code connection response ∈ state.log →
    .issued code connection.holder connection.scopes ∈ state.log
  /-- After a revocation no token of the connection is refreshed or admitted, and no code of before
  it for the same user, workspace and client is exchanged. -/
  revocations_respected : RevocationsRespected state.log
  /-- A revoked connection accepts no token. -/
  revoked_accepts : ∀ connection, .revoked connection ∈ state.log → ∀ token,
    ¬ AcceptsAccess deployment state.store connection.id token ∧
      ¬ AcceptsRefresh deployment state.store connection.id token

/-! ## Invariants -/

/-- The codes: each row agrees with its issue, and is used once it is exchanged or its holder has a
connection revoked. -/
structure CodesSound (deployment : McpDeployment) (drawn : List JsString) (log : List McpEvent)
    (rows : List McpOAuthAuthorizationCode) : Prop where
  issued_drawn : ∀ code holder scopes, .issued code holder scopes ∈ log →
    ∃ token ∈ drawn, code = lit "mcp_code_" ++ token
  issued_once : ∀ code holder scopes holder' scopes', .issued code holder scopes ∈ log →
    .issued code holder' scopes' ∈ log → holder = holder'
  row_issued : ∀ row ∈ rows, ∃ code, row.code = deployment.sha256 code ∧
    .issued code row.holder row.scopes ∈ log
  consented : ∀ code connection response, .exchanged code connection response ∈ log →
    .issued code connection.holder connection.scopes ∈ log
  exchanged_used : ∀ code ∈ log.filterMap McpEvent.exchangedCode?, ∀ row ∈ rows,
    row.code = deployment.sha256 code → row.usedAt.isSome
  exchanged_once : (log.filterMap McpEvent.exchangedCode?).Nodup
  revoked_used : ∀ before after revoked, log = before ++ .revoked revoked :: after →
    ∀ code scopes, .issued code revoked.holder scopes ∈ before → ∀ row ∈ rows,
      row.code = deployment.sha256 code → row.usedAt.isSome

/-- The connections: each is one that an exchange has created, and a revoked one stays so. -/
structure ConnectionsSound (drawn : List JsString) (log : List McpEvent)
    (rows : List McpOAuthAccessToken) : Prop where
  row_created : ∀ row ∈ rows, row.connection ∈ log.filterMap McpEvent.created?
  created : ∀ event ∈ log, ∀ connection, event.connection? = some connection →
    connection ∈ log.filterMap McpEvent.created?
  created_drawn : ∀ connection ∈ log.filterMap McpEvent.created?, connection.id ∈ drawn
  created_once : ((log.filterMap McpEvent.created?).map Connection.id).Nodup
  revoked : ∀ connection, .revoked connection ∈ log → ∀ row ∈ rows, row.id = connection.id →
    row.revokedAt.isSome

/-- What was true of a connection when the log was `readAt` long. -/
def ReadSound (log : List McpEvent) (connection : Connection) (readAt : Nat) : Prop :=
  readAt ≤ log.length ∧ connection ∈ log.filterMap McpEvent.created? ∧
    ∀ revoked, .revoked revoked ∈ log.take readAt → revoked.id ≠ connection.id

/-- What is true of a request in flight: of the row that it goes on with. -/
def McpCall.Sound (log : List McpEvent) : McpCall → Prop
  | .presented row _ | .revoking row => row.connection ∈ log.filterMap McpEvent.created?
  | .authenticated _ row readAt => ReadSound log row.connection readAt
  | _ => True

structure McpState.Sound (deployment : McpDeployment) (drawn : List JsString) (state : McpState) :
    Prop where
  codes : CodesSound deployment drawn state.log state.store.codes.rows
  connections : ConnectionsSound drawn state.log state.store.connections.rows
  calls : ∀ i call, state.calls i = some call → call.Sound state.log
  respected : RevocationsRespected state.log

/-! ## The log grows -/

section
variable {log : List McpEvent} {event : McpEvent} {connection : Connection} {readAt : Nat}

theorem RevocationsRespected.append (h : RevocationsRespected log)
    (hevent : ∀ before after revoked, log = before ++ .revoked revoked :: after →
      event.Respects revoked before) : RevocationsRespected (log ++ [event]) := by
  intro before after revoked hlog last hlast
  rcases append_singleton_eq_append_cons hlog with ⟨_, _, rfl⟩ | ⟨rest, rfl, hold⟩
  · simp at hlast
  · rcases mem_append.1 hlast with hrest | hnew
    · exact h before rest revoked hold last hrest
    · rw [mem_singleton.1 hnew]
      exact hevent before rest revoked hold

theorem created_append (h : connection ∈ log.filterMap McpEvent.created?) (more : List McpEvent) :
    connection ∈ (log ++ more).filterMap McpEvent.created? := by
  rw [filterMap_append]
  exact mem_append_left _ h

theorem ReadSound.append (h : ReadSound log connection readAt) (more : List McpEvent) :
    ReadSound (log ++ more) connection readAt := by
  obtain ⟨hle, hcreated, hrevoked⟩ := h
  refine ⟨?_, created_append hcreated more, ?_⟩
  · rw [length_append]
    omega
  · rwa [take_append_of_le_length hle]

theorem McpCall.Sound.append {call : McpCall} (h : call.Sound log) (more : List McpEvent) :
    call.Sound (log ++ more) := by
  cases call with
  | presented | revoking => exact created_append h more
  | authenticated => exact ReadSound.append h more
  | checked | found | captured | disconnecting | candidateRead => trivial

theorem ReadSound.respects (h : ReadSound log connection readAt) {token : JsString}
    {before after : List McpEvent} {revoked : Connection}
    (hlog : log = before ++ .revoked revoked :: after) :
    (McpEvent.admitted token connection readAt).Respects revoked before := by
  intro hid
  by_contra hlater
  refine h.2.2 revoked ?_ hid.symm
  rw [hlog, take_append, take_cons (by omega)]
  simp

end

/-! ## Codes -/

section
variable {drawn drawn' : List JsString} {log : List McpEvent} {event : McpEvent}
  {rows rows' : List McpOAuthAuthorizationCode}

section
variable (h : CodesSound deployment drawn log rows)
include h

theorem CodesSound.mono (hsub : drawn ⊆ drawn') : CodesSound deployment drawn' log rows := by
  refine { h with issued_drawn := ?_ }
  intro code holder scopes hmem
  obtain ⟨token, htoken, hcode⟩ := h.issued_drawn code holder scopes hmem
  exact ⟨token, hsub htoken, hcode⟩

theorem CodesSound.replace
    (hrows : ∀ row' ∈ rows', ∃ row ∈ rows, row'.code = row.code ∧ row'.holder = row.holder ∧
      row'.scopes = row.scopes ∧ (row.usedAt.isSome → row'.usedAt.isSome)) :
    CodesSound deployment drawn log rows' := by
  refine { h with row_issued := ?_, exchanged_used := ?_, revoked_used := ?_ }
  · intro row' hrow'
    obtain ⟨row, hrow, hcode, hholder, hscopes, _⟩ := hrows row' hrow'
    rw [hcode, hholder, hscopes]
    exact h.row_issued row hrow
  · intro code hexchanged row' hrow' hhash
    obtain ⟨row, hrow, hcode, _, _, hused⟩ := hrows row' hrow'
    exact hused (h.exchanged_used code hexchanged row hrow (hcode ▸ hhash))
  · intro before after revoked hlog code scopes hissued row' hrow' hhash
    obtain ⟨row, hrow, hcode, _, _, hused⟩ := hrows row' hrow'
    exact hused (h.revoked_used before after revoked hlog code scopes hissued row hrow
      (hcode ▸ hhash))

theorem CodesSound.append (hissued : ∀ code holder scopes, event ≠ .issued code holder scopes)
    (hexchanged : event.exchangedCode? = none)
    (hrevoked : ∀ connection, event ≠ .revoked connection) :
    CodesSound deployment drawn (log ++ [event]) rows := by
  have hmem : ∀ code holder scopes,
      .issued code holder scopes ∈ log ++ [event] ↔ .issued code holder scopes ∈ log := by
    intro code holder scopes
    simp [(hissued code holder scopes).symm]
  have hcodes : (log ++ [event]).filterMap McpEvent.exchangedCode? =
      log.filterMap McpEvent.exchangedCode? := by
    simp [hexchanged]
  refine ⟨?_, ?_, ?_, ?_, hcodes ▸ h.exchanged_used, hcodes ▸ h.exchanged_once, ?_⟩
  · simpa only [hmem] using h.issued_drawn
  · simpa only [hmem] using h.issued_once
  · simpa only [hmem] using h.row_issued
  · intro code connection response hin
    rcases mem_append.1 hin with hold | hnew
    · exact (hmem _ _ _).2 (h.consented code connection response hold)
    · rw [← mem_singleton.1 hnew] at hexchanged
      cases hexchanged
  · intro before after revoked hlog
    rcases append_singleton_eq_append_cons hlog with ⟨_, hlast, _⟩ | ⟨rest, _, hold⟩
    · exact absurd hlast.symm (hrevoked revoked)
    · exact h.revoked_used before rest revoked hold

theorem CodesSound.issue (hsha : Function.Injective deployment.sha256)
    {row : McpOAuthAuthorizationCode}
    {token : JsString} (hcode : row.code = deployment.sha256 (lit "mcp_code_" ++ token))
    (hnew : token ∉ drawn) (hsub : drawn ⊆ drawn') (hdrawn : token ∈ drawn') :
    CodesSound deployment drawn'
      (log ++ [.issued (lit "mcp_code_" ++ token) row.holder row.scopes]) (rows ++ [row]) := by
  have hfresh : ∀ holder scopes, .issued (lit "mcp_code_" ++ token) holder scopes ∉ log := by
    intro holder scopes hmem
    obtain ⟨token', htoken', heq⟩ := h.issued_drawn _ _ _ hmem
    rw [append_cancel_left heq] at hnew
    exact hnew htoken'
  have hexchanged : ∀ code ∈ log.filterMap McpEvent.exchangedCode?,
      code ≠ lit "mcp_code_" ++ token := by
    rintro code hmem rfl
    obtain ⟨event, hevent, hsome⟩ := mem_filterMap.1 hmem
    cases event with
    | exchanged code' connection response =>
      cases hsome
      exact hfresh _ _ (h.consented _ _ _ hevent)
    | issued | refreshed | revoked | admitted => cases hsome
  have hcodes : (log ++ [McpEvent.issued (lit "mcp_code_" ++ token) row.holder
      row.scopes]).filterMap McpEvent.exchangedCode? = log.filterMap McpEvent.exchangedCode? := by
    simp [McpEvent.exchangedCode?]
  refine ⟨?_, ?_, ?_, ?_, ?_, hcodes ▸ h.exchanged_once, ?_⟩
  · intro code holder scopes hmem
    rcases mem_append.1 hmem with hold | hlast
    · obtain ⟨token', htoken', hissued⟩ := h.issued_drawn code holder scopes hold
      exact ⟨token', hsub htoken', hissued⟩
    · cases mem_singleton.1 hlast
      exact ⟨token, hdrawn, rfl⟩
  · intro code holder scopes holder' scopes' hmem hmem'
    rcases mem_append.1 hmem with hold | hlast <;>
      rcases mem_append.1 hmem' with hold' | hlast'
    · exact h.issued_once code holder scopes holder' scopes' hold hold'
    · cases mem_singleton.1 hlast'
      exact absurd hold (hfresh _ _)
    · cases mem_singleton.1 hlast
      exact absurd hold' (hfresh _ _)
    · cases mem_singleton.1 hlast
      cases mem_singleton.1 hlast'
      rfl
  · intro row' hrow'
    rcases mem_append.1 hrow' with hold | hlast
    · obtain ⟨code, hcode', hmem⟩ := h.row_issued row' hold
      exact ⟨code, hcode', mem_append_left _ hmem⟩
    · cases mem_singleton.1 hlast
      exact ⟨_, hcode, by simp⟩
  · intro code connection response hmem
    rcases mem_append.1 hmem with hold | hlast
    · exact mem_append_left _ (h.consented code connection response hold)
    · cases mem_singleton.1 hlast
  · intro code hmem row' hrow' hhash
    rw [hcodes] at hmem
    rcases mem_append.1 hrow' with hold | hlast
    · exact h.exchanged_used code hmem row' hold hhash
    · cases mem_singleton.1 hlast
      exact absurd (hsha (hhash.symm.trans hcode)) (hexchanged code hmem)
  · intro before after revoked hlog code scopes hissued row' hrow' hhash
    rcases append_singleton_eq_append_cons hlog with ⟨_, hlast, _⟩ | ⟨rest, _, rfl⟩
    · cases hlast
    · rcases mem_append.1 hrow' with hold | hlast
      · exact h.revoked_used before rest revoked rfl code scopes hissued row' hold hhash
      · cases mem_singleton.1 hlast
        cases hsha (hhash.symm.trans hcode)
        exact absurd (mem_append_left _ hissued) (hfresh _ _)

end

variable {response : TokenResponse} {connection : Connection} {now : Int}

variable (h : CodesSound deployment drawn log rows) (hsha : Function.Injective deployment.sha256)
include h hsha

/-- An unused code is exchanged, and its row marked. -/
theorem CodesSound.exchange (hkey : (rows.map McpOAuthAuthorizationCode.code).Nodup)
    {authCode : McpOAuthAuthorizationCode} {code : JsString} (hrow : authCode ∈ rows)
    (hcode : authCode.code = deployment.sha256 code) (hunused : authCode.usedAt = none)
    (hholder : connection.holder = authCode.holder)
    (hscopes : connection.scopes = authCode.scopes) :
    CodesSound deployment drawn (log ++ [.exchanged code connection response])
      (rows.map fun row => if row.id = authCode.id then { row with usedAt := some now } else row)
    := by
  have hissued : ∀ code' holder scopes,
      .issued code' holder scopes ∈ log ++ [.exchanged code connection response] ↔
        .issued code' holder scopes ∈ log := by
    simp
  have hnew : code ∉ log.filterMap McpEvent.exchangedCode? := by
    intro hmem
    have hused := h.exchanged_used code hmem authCode hrow hcode
    simp [hunused] at hused
  have hmarked : CodesSound deployment drawn log (rows.map fun row =>
      if row.id = authCode.id then { row with usedAt := some now } else row) := by
    refine h.replace fun row' hrow' => ?_
    obtain ⟨row, hmem, rfl⟩ := mem_map.1 hrow'
    refine ⟨row, hmem, ?_⟩
    split <;> simp [McpOAuthAuthorizationCode.holder]
  refine ⟨?_, ?_, ?_, ?_, ?_, ?_, ?_⟩
  · simpa only [hissued] using hmarked.issued_drawn
  · simpa only [hissued] using hmarked.issued_once
  · simpa only [hissued] using hmarked.row_issued
  · intro code' connection' response' hmem
    rcases mem_append.1 hmem with hold | hlast
    · exact (hissued _ _ _).2 (h.consented code' connection' response' hold)
    · cases mem_singleton.1 hlast
      obtain ⟨code', hcode', hissue⟩ := h.row_issued authCode hrow
      cases hsha (hcode.symm.trans hcode')
      rw [hholder, hscopes]
      exact (hissued _ _ _).2 hissue
  · intro code' hmem row' hrow' hhash
    have hcases : code' ∈ log.filterMap McpEvent.exchangedCode? ∨ code' = code := by
      simpa [McpEvent.exchangedCode?] using hmem
    rcases hcases with hold | rfl
    · exact hmarked.exchanged_used code' hold row' hrow' hhash
    · -- the row with the hash of the code is the one that is marked
      obtain ⟨row, hrowmem, rfl⟩ := mem_map.1 hrow'
      have hauth : row = authCode := by
        refine inj_on_of_nodup_map hkey hrowmem hrow ?_
        rw [hcode, ← hhash]
        split <;> rfl
      simp [hauth]
  · rw [filterMap_append]
    refine nodup_append.2 ⟨h.exchanged_once, nodup_singleton _, ?_⟩
    intro code' hold code'' hlast heq
    subst heq
    exact hnew (mem_singleton.1 hlast ▸ hold)
  · intro before after revoked hlog
    rcases append_singleton_eq_append_cons hlog with ⟨_, hlast, _⟩ | ⟨rest, _, hold⟩
    · cases hlast
    · exact hmarked.revoked_used before rest revoked hold

theorem CodesSound.revoke : CodesSound deployment drawn (log ++ [.revoked connection])
      (rows.map fun row => if row.holder = connection.holder && row.usedAt.isNone then
        { row with usedAt := some now } else row) := by
  have hissued : ∀ code holder scopes,
      .issued code holder scopes ∈ log ++ [.revoked connection] ↔
        .issued code holder scopes ∈ log := by
    simp
  have hcodes : (log ++ [McpEvent.revoked connection]).filterMap McpEvent.exchangedCode? =
      log.filterMap McpEvent.exchangedCode? := by
    simp [McpEvent.exchangedCode?]
  have hmarked : CodesSound deployment drawn log (rows.map fun row =>
      if row.holder = connection.holder && row.usedAt.isNone then
        { row with usedAt := some now } else row) := by
    refine h.replace fun row' hrow' => ?_
    obtain ⟨row, hmem, rfl⟩ := mem_map.1 hrow'
    refine ⟨row, hmem, ?_⟩
    split <;> simp [McpOAuthAuthorizationCode.holder]
  refine ⟨?_, ?_, ?_, ?_, hcodes ▸ hmarked.exchanged_used, hcodes ▸ h.exchanged_once, ?_⟩
  · simpa only [hissued] using hmarked.issued_drawn
  · simpa only [hissued] using hmarked.issued_once
  · simpa only [hissued] using hmarked.row_issued
  · intro code connection' response hmem
    have hold : .exchanged code connection' response ∈ log := by simpa using hmem
    exact (hissued _ _ _).2 (h.consented code connection' response hold)
  · intro before after revoked hlog code scopes hbefore row' hrow' hhash
    rcases append_singleton_eq_append_cons hlog with ⟨rfl, hlast, _⟩ | ⟨rest, _, hold⟩
    · cases hlast
      obtain ⟨row, hrow, rfl⟩ := mem_map.1 hrow'
      have hsame : row.code = deployment.sha256 code := by
        rw [← hhash]
        split <;> rfl
      obtain ⟨code', hcode', hissue⟩ := h.row_issued row hrow
      cases hsha (hsame.symm.trans hcode')
      have hholder := h.issued_once code _ _ _ _ hissue hbefore
      by_cases hunused : row.usedAt = none
      · simp [hholder, hunused]
      · simpa [hunused] using isSome_iff_ne_none.2 hunused
    · exact hmarked.revoked_used before rest revoked hold code scopes hbefore row' hrow' hhash

end

/-! ## Connections -/

section
variable {drawn drawn' : List JsString} {log : List McpEvent} {event : McpEvent}
  {rows rows' : List McpOAuthAccessToken}

section
variable (h : ConnectionsSound drawn log rows)
include h

theorem ConnectionsSound.mono (hsub : drawn ⊆ drawn') : ConnectionsSound drawn' log rows := by
  refine { h with created_drawn := ?_ }
  intro connection hmem
  exact hsub (h.created_drawn connection hmem)

theorem ConnectionsSound.replace
    (hrows : ∀ row' ∈ rows', ∃ row ∈ rows, row'.connection = row.connection ∧
      (row.revokedAt.isSome → row'.revokedAt.isSome)) : ConnectionsSound drawn log rows' := by
  refine { h with row_created := ?_, revoked := ?_ }
  · intro row' hrow'
    obtain ⟨row, hrow, hsame, _⟩ := hrows row' hrow'
    rw [hsame]
    exact h.row_created row hrow
  · intro connection hrevoked row' hrow' hid
    obtain ⟨row, hrow, hsame, hstays⟩ := hrows row' hrow'
    have hsameId : row'.id = row.id := congrArg Connection.id hsame
    exact hstays (h.revoked connection hrevoked row hrow (hsameId.symm.trans hid))

theorem ConnectionsSound.append (hcreated : event.created? = none)
    (hconnection : ∀ connection, event.connection? = some connection →
      connection ∈ log.filterMap McpEvent.created?)
    (hrevoked : ∀ connection, event = .revoked connection → ∀ row ∈ rows,
      row.id = connection.id → row.revokedAt.isSome) :
    ConnectionsSound drawn (log ++ [event]) rows := by
  have hlog : (log ++ [event]).filterMap McpEvent.created? = log.filterMap McpEvent.created? := by
    simp [hcreated]
  refine ⟨hlog ▸ h.row_created, ?_, hlog ▸ h.created_drawn, hlog ▸ h.created_once, ?_⟩
  · intro last hlast connection hsome
    rw [hlog]
    rcases mem_append.1 hlast with hold | hnew
    · exact h.created last hold connection hsome
    · rw [mem_singleton.1 hnew] at hsome
      exact hconnection connection hsome
  · intro connection hmem
    rcases mem_append.1 hmem with hold | hnew
    · exact h.revoked connection hold
    · exact hrevoked connection (mem_singleton.1 hnew).symm

end

variable {row : McpOAuthAccessToken}

theorem ConnectionsSound.create (h : ConnectionsSound drawn log rows) (hsub : drawn ⊆ drawn')
    (hnew : row.id ∉ drawn) (hdrawn : row.id ∈ drawn') {code : JsString} :
    ConnectionsSound drawn' (log ++ [.exchanged code row.connection response]) (rows ++ [row]) := by
  have hlog : (log ++ [McpEvent.exchanged code row.connection response]).filterMap
      McpEvent.created? = log.filterMap McpEvent.created? ++ [row.connection] := by
    simp [McpEvent.created?]
  refine ⟨?_, ?_, ?_, ?_, ?_⟩
  · intro row' hrow'
    rw [hlog]
    rcases mem_append.1 hrow' with hold | hlast
    · exact mem_append_left _ (h.row_created row' hold)
    · rw [mem_singleton.1 hlast]
      exact mem_append_right _ (mem_singleton_self _)
  · intro event hevent connection hsome
    rw [hlog]
    rcases mem_append.1 hevent with hold | hlast
    · exact mem_append_left _ (h.created event hold connection hsome)
    · cases mem_singleton.1 hlast
      cases hsome
      exact mem_append_right _ (mem_singleton_self _)
  · intro connection hmem
    rw [hlog] at hmem
    rcases mem_append.1 hmem with hold | hlast
    · exact hsub (h.created_drawn connection hold)
    · rw [mem_singleton.1 hlast]
      exact hdrawn
  · rw [hlog, map_append]
    refine nodup_append.2 ⟨h.created_once, nodup_singleton _, ?_⟩
    intro id hold id' hlast heq
    obtain ⟨connection, hmem, rfl⟩ := mem_map.1 hold
    have hdrawn := h.created_drawn connection hmem
    rw [heq, mem_singleton.1 hlast] at hdrawn
    exact hnew hdrawn
  · intro connection hmem row' hrow' hid
    have hrevoked : .revoked connection ∈ log := by simpa using hmem
    rcases mem_append.1 hrow' with hold | hlast
    · exact h.revoked connection hrevoked row' hold hid
    · have hcreated := h.created_drawn connection (h.created _ hrevoked connection rfl)
      rw [← hid, mem_singleton.1 hlast] at hcreated
      exact absurd hcreated hnew

end

/-! ## Transactions -/

section
variable {store store' : McpStore} {inputs : McpInputs} {client : McpOAuthClient}

theorem issueUnderLock_ok {params : IssueParams} {userId instanceSlug resource code : JsString}
    {scopes : List JsString} {version : Option Nat}
    (h : issueUnderLock deployment store params userId client instanceSlug resource scopes version
      inputs = .ok (store', code)) :
    code = lit "mcp_code_" ++ inputs.token ∧ store'.connections = store.connections ∧
      ∃ row : McpOAuthAuthorizationCode, store'.codes.rows = store.codes.rows ++ [row] ∧
        row.code = deployment.sha256 code ∧ row.holder = ⟨client.id, userId, params.workspaceId⟩ ∧
        row.scopes = scopes := by
  obtain ⟨_, h⟩ := invariant_bind_ok.1 h
  split at h
  · cases h
  · cases h
    exact ⟨rfl, rfl, _, rfl, rfl, rfl, rfl⟩

theorem exchangeUnderLock_ok {params : ExchangeParams}
    (h : exchangeUnderLock deployment store params client inputs = .ok (store', row, response)) :
    ∃ authCode ∈ store.codes.rows, authCode.code = deployment.sha256 params.code ∧
      authCode.usedAt = none ∧ row.id = inputs.id ∧ row.holder = authCode.holder ∧
      row.scopes = authCode.scopes ∧
      store'.codes.rows = (store.codes.rows.map fun row =>
        if row.id = authCode.id then { row with usedAt := some inputs.now } else row) ∧
      store'.connections.rows = store.connections.rows ++ [row] := by
  unfold exchangeUnderLock at h
  split at h
  · cases h
  · next authCode hfind =>
    obtain ⟨hunused, h⟩ := invariant_bind_ok.1 h
    obtain ⟨_, h⟩ := invariant_bind_ok.1 h
    obtain ⟨hclient, h⟩ := invariant_bind_ok.1 h
    obtain ⟨_, h⟩ := invariant_bind_ok.1 h
    obtain ⟨_, _, h⟩ := bind_ok.1 h
    obtain ⟨_, _, h⟩ := bind_ok.1 h
    obtain ⟨_, h⟩ := invariant_bind_ok.1 h
    obtain ⟨connections, hwrite, h⟩ := bind_ok.1 h
    cases h
    obtain ⟨hmem, hcode⟩ := KeyedTable.find?_eq_some.1 hfind
    have hclient : authCode.clientId = client.id := of_decide_eq_true hclient
    refine ⟨authCode, hmem, hcode, isNone_iff_eq_none.1 hunused, rfl, ?_, rfl, ?_,
      ConnectionTable.rows_of_write hwrite⟩
    · rw [McpOAuthAuthorizationCode.holder, hclient]
      rfl
    · simp [KeyedTable.updateMany]

theorem refreshUnderLock_ok {params : RefreshParams} {token : McpOAuthAccessToken}
    (h : refreshUnderLock deployment store params client inputs = .ok (store', token, response)) :
    token ∈ store.connections.rows ∧
      token.refreshHash = some (deployment.sha256 params.refreshToken) ∧ token.revokedAt = none ∧
      store'.codes = store.codes ∧
      store'.connections.rows = store.connections.rows.map fun row =>
        if rotates deployment token params.refreshToken row then rotatedRow deployment inputs row
        else row := by
  unfold refreshUnderLock at h
  split at h
  · cases h
  · next found hfind =>
    obtain ⟨hfind, hrevoked⟩ := filter_eq_some_iff.1 hfind
    obtain ⟨_, _, h⟩ := bind_ok.1 h
    obtain ⟨_, h⟩ := invariant_bind_ok.1 h
    obtain ⟨_, h⟩ := invariant_bind_ok.1 h
    obtain ⟨_, h⟩ := invariant_bind_ok.1 h
    obtain ⟨_, h⟩ := invariant_bind_ok.1 h
    obtain ⟨_, h⟩ := invariant_bind_ok.1 h
    obtain ⟨connections, hwrite, h⟩ := bind_ok.1 h
    obtain ⟨_, h⟩ := invariant_bind_ok.1 h
    cases h
    exact ⟨mem_of_find?_eq_some hfind, of_decide_eq_true (find?_some hfind :),
      isNone_iff_eq_none.1 hrevoked, rfl, ConnectionTable.rows_of_write hwrite⟩

/-- A revocation marks the unused codes of the holder and the row of the connection. -/
structure Revoked (store store' : McpStore) (connection : Connection) (now : Int) : Prop where
  codes : store'.codes.rows = store.codes.rows.map fun row =>
    if row.holder = connection.holder && row.usedAt.isNone then { row with usedAt := some now }
    else row
  connections : store'.connections = store.connections.revoke (·.id = connection.id) now

theorem McpStore.revokeConnection_ok {id : JsString}
    (h : store.revokeConnection id now = .ok store') :
    store' = { store with connections := store.connections.revoke (·.id = id) now } := by
  unfold McpStore.revokeConnection at h
  split at h
  · cases h
    rfl
  · cases h

theorem revokeTokenUnderLock_ok {token : McpOAuthAccessToken}
    (h : revokeTokenUnderLock store token now = .ok store') :
    Revoked store store' token.connection now := by
  obtain rfl := McpStore.revokeConnection_ok h
  exact ⟨rfl, rfl⟩

theorem revokeConnectionUnderLock_ok {userId workspaceId connectionId : JsString}
    (h : revokeConnectionUnderLock store userId workspaceId connectionId now = .ok (store', row)) :
    row ∈ store.connections.rows ∧ Revoked store store' row.connection now := by
  unfold revokeConnectionUnderLock at h
  split at h
  · cases h
  · next token hfind =>
    have hworkspace : token.workspaceId = workspaceId := by
      have hfound := find?_some hfind
      simp only [Bool.and_eq_true, decide_eq_true_eq] at hfound
      exact hfound.1.2
    obtain ⟨revoked, hrevoke, h⟩ := bind_ok.1 h
    obtain rfl := McpStore.revokeConnection_ok hrevoke
    subst hworkspace
    cases h
    exact ⟨mem_of_find?_eq_some hfind, rfl, rfl⟩

end

/-! ## Steps -/

section
variable {drawn : List JsString} {state : McpState} {inputs : McpInputs}

/-- What a transaction is given is new. -/
structure McpInputs.Fresh (inputs : McpInputs) (drawn : List JsString) : Prop where
  token : inputs.token ∉ drawn
  id : inputs.id ∉ drawn

/-- What a transaction does to the invariants: to those of the tables and to the revocations that
came before it. -/
structure Committed (deployment : McpDeployment) (drawn : List JsString) (log : List McpEvent)
    (store : McpStore) (event : McpEvent) : Prop where
  codes : CodesSound deployment drawn (log ++ [event]) store.codes.rows
  connections : ConnectionsSound drawn (log ++ [event]) store.connections.rows
  respected : RevocationsRespected (log ++ [event])

theorem McpState.Sound.mono {drawn' : List JsString} (h : state.Sound deployment drawn)
    (hsub : drawn ⊆ drawn') : state.Sound deployment drawn' :=
  ⟨h.codes.mono hsub, h.connections.mono hsub, h.calls, h.respected⟩

section
variable (h : state.Sound deployment drawn) (hsha : Function.Injective deployment.sha256)
include h hsha

theorem McpState.Sound.transactRequest (hfresh : inputs.Fresh drawn)
    {request : McpRequest} {version : Option Nat} {store' : McpStore} {event : McpEvent}
    (hok : request.transact deployment state.store version inputs = .ok (store', event)) :
    Committed deployment (drawn ++ [inputs.token, inputs.refreshToken, inputs.id]) state.log store'
      event := by
  have hsub : drawn ⊆ drawn ++ [inputs.token, inputs.refreshToken, inputs.id] :=
    subset_append_left _ _
  cases request with
  | issue params userId client instanceSlug resource scopes =>
    obtain ⟨⟨store'', code⟩, hissue, hok⟩ := bind_ok.1 hok
    cases hok
    obtain ⟨rfl, hconnections, row, hrows, hcode, hholder, hscopes⟩ := issueUnderLock_ok hissue
    refine ⟨?_, ?_, h.respected.append fun _ _ _ _ => trivial⟩
    · rw [hrows, ← hholder, ← hscopes]
      exact h.codes.issue hsha hcode hfresh.token hsub (by simp)
    · rw [hconnections]
      exact (h.connections.mono hsub).append rfl (by simp [McpEvent.connection?]) (by simp)
  | exchange params client =>
    obtain ⟨⟨store'', row, response⟩, hexchange, hok⟩ := bind_ok.1 hok
    cases hok
    obtain ⟨authCode, hmem, hcode, hunused, hid, hholder, hscopes, hcodes, hconnections⟩ :=
      exchangeUnderLock_ok hexchange
    refine ⟨?_, ?_, h.respected.append ?_⟩
    · rw [hcodes]
      exact (h.codes.mono hsub).exchange hsha state.store.codes.nodup hmem hcode hunused hholder
        hscopes
    · rw [hconnections]
      exact h.connections.create hsub (hid ▸ hfresh.id) (by simp [hid])
    · -- the code would have been taken back
      intro before after revoked hlog hsame scopes hissued
      have hused := h.codes.revoked_used before after revoked hlog params.code scopes hissued
        authCode hmem hcode
      simp [hunused] at hused
  | refresh params client =>
    obtain ⟨⟨store'', row, response⟩, hrefresh, hok⟩ := bind_ok.1 hok
    cases hok
    obtain ⟨hmem, _, hlive, hcodes, hconnections⟩ := refreshUnderLock_ok hrefresh
    refine ⟨?_, ?_, h.respected.append ?_⟩
    · rw [hcodes]
      exact (h.codes.mono hsub).append (by simp) rfl (by simp)
    · rw [hconnections]
      refine ConnectionsSound.append ?_ rfl ?_ (by simp)
      · refine (h.connections.mono hsub).replace fun row' hrow' => ?_
        obtain ⟨old, hold, rfl⟩ := mem_map.1 hrow'
        refine ⟨old, hold, ?_⟩
        split
        · exact ⟨rfl, id⟩
        · exact ⟨rfl, id⟩
      · rintro connection ⟨⟩
        exact h.connections.row_created row hmem
    · -- the connection would have been revoked
      intro before after revoked hlog hid
      have hrevoked : .revoked revoked ∈ state.log := by
        rw [hlog]
        simp
      have hdead := h.connections.revoked revoked hrevoked row hmem hid
      simp [hlive] at hdead

theorem McpState.Sound.revoke {store' : McpStore}
    (hcreated : connection ∈ state.log.filterMap McpEvent.created?)
    (hrevoked : Revoked state.store store' connection now) :
    Committed deployment drawn state.log store' (.revoked connection) := by
  have hrows : ∀ row' ∈ store'.connections.rows, ∃ row ∈ state.store.connections.rows,
      row'.connection = row.connection ∧ (row.revokedAt.isSome → row'.revokedAt.isSome) ∧
        (row'.id = connection.id → row'.revokedAt.isSome) := by
    intro row' hrow'
    rw [hrevoked.connections] at hrow'
    obtain ⟨row, hrow, rfl⟩ := mem_map.1 hrow'
    refine ⟨row, hrow, ?_⟩
    split
    · exact ⟨rfl, fun _ => rfl, fun _ => rfl⟩
    · next hid => exact ⟨rfl, id, fun hsame => absurd (decide_eq_true hsame) hid⟩
  refine ⟨?_, ?_, h.respected.append fun _ _ _ _ => trivial⟩
  · rw [hrevoked.codes]
    exact h.codes.revoke hsha
  · refine ConnectionsSound.append ?_ rfl ?_ ?_
    · refine h.connections.replace fun row' hrow' => ?_
      obtain ⟨row, hrow, hsame, hstays, _⟩ := hrows row' hrow'
      exact ⟨row, hrow, hsame, hstays⟩
    · rintro _ ⟨⟩
      exact hcreated
    · rintro _ ⟨⟩ row' hrow'
      obtain ⟨_, _, _, _, hdead⟩ := hrows row' hrow'
      exact hdead

end

variable {result : Except AppError (McpStore × McpEvent)}

section
variable (h : state.Sound deployment drawn)
include h

theorem McpState.Sound.transact (hsha : Function.Injective deployment.sha256)
    (hfresh : inputs.Fresh drawn) {call : McpCall} (hcall : call.Sound state.log)
    (htransact : call.transact deployment state.store inputs = some result) {store' : McpStore}
    {event : McpEvent} (hok : result = .ok (store', event)) :
    Committed deployment (drawn ++ [inputs.token, inputs.refreshToken, inputs.id]) state.log store'
      event := by
  have hsub : drawn ⊆ drawn ++ [inputs.token, inputs.refreshToken, inputs.id] :=
    subset_append_left _ _
  subst hok
  cases call with
  | captured request grant userId workspaceId =>
    obtain ⟨version, _, hok⟩ := bind_ok.1 (some.inj htransact)
    exact h.transactRequest hsha hfresh hok
  | revoking row =>
    obtain ⟨revoked, hrevoke, hok⟩ := bind_ok.1 (some.inj htransact)
    cases hok
    exact (h.mono hsub).revoke hsha hcall (revokeTokenUnderLock_ok hrevoke)
  | disconnecting userId workspaceId connectionId =>
    obtain ⟨⟨revoked, row⟩, hrevoke, hok⟩ := bind_ok.1 (some.inj htransact)
    cases hok
    obtain ⟨hmem, hrevoked⟩ := revokeConnectionUnderLock_ok hrevoke
    exact (h.mono hsub).revoke hsha (h.connections.row_created row hmem) hrevoked
  | checked | found | presented | candidateRead | authenticated => cases htransact

theorem McpState.Sound.setCall (i : Nat)
    {call : Option McpCall} (hcall : ∀ c, call = some c → c.Sound state.log) :
    (state.setCall i call).Sound deployment drawn := by
  refine ⟨h.codes, h.connections, ?_, h.respected⟩
  intro j c hc
  simp only [McpState.setCall, Function.update_apply] at hc
  split at hc
  · exact hcall c hc
  · exact h.calls j c hc

/-- A request goes on with a call of which there is nothing to know. -/
theorem McpState.Sound.proceed (i : Nat)
    {result : Except AppError McpCall} (hnext : ∀ call, result = .ok call → call.Sound state.log) :
    (state.proceed i result).Sound deployment drawn := by
  cases result with
  | error e => exact h.setCall i (by simp)
  | ok call =>
    refine h.setCall i ?_
    rintro _ ⟨⟩
    exact hnext call rfl

theorem McpState.Sound.commit (hsha : Function.Injective deployment.sha256) (i : Nat)
    (hfresh : inputs.Fresh drawn) {call : McpCall} (hcall : call.Sound state.log)
    (htransact : call.transact deployment state.store inputs = some result) :
    (state.commit i result).Sound deployment
      (drawn ++ [inputs.token, inputs.refreshToken, inputs.id]) := by
  have hended : (state.setCall i none).Sound deployment drawn := h.setCall i (by simp)
  cases hresult : result with
  | error e => exact hended.mono (subset_append_left _ _)
  | ok committed =>
    obtain ⟨store', event⟩ := committed
    have hcommitted := h.transact hsha hfresh hcall htransact hresult
    refine ⟨hcommitted.codes, hcommitted.connections, ?_, hcommitted.respected⟩
    intro j c hc
    exact (hended.calls j c hc).append [event]

theorem McpState.Sound.readSound (hrow : row ∈ state.store.connections.rows)
    (hlive : row.revokedAt = none) : ReadSound state.log row.connection state.log.length := by
  refine ⟨le_refl _, h.connections.row_created row hrow, ?_⟩
  rw [take_length]
  intro revoked hrevoked hid
  have hdead := h.connections.revoked revoked hrevoked row hrow hid.symm
  simp [hlive] at hdead

end

variable {expectedResource : Option JsString}

theorem admitted_ok {client : McpOAuthClient}
    (h : admitted deployment expectedResource client now row = .ok true) :
    row.revokedAt = none := by
  unfold admitted at h
  dsimp only at h
  split at h
  · next hall =>
    simp only [Bool.and_eq_true] at hall
    exact isNone_iff_eq_none.1 hall.1.1.1.1.1
  · cases h

theorem authenticate_some {store : McpStore} {token : JsString} {candidate : McpOAuthAccessToken}
    (h : authenticate deployment store token expectedResource candidate now = some row) :
    row ∈ store.connections.rows ∧ row.tokenHash = deployment.sha256 token ∧
      row.revokedAt = none := by
  obtain ⟨found, hfind, h⟩ := bind_eq_some_iff.1 h
  obtain ⟨client, _, h⟩ := bind_eq_some_iff.1 h
  split at h
  · next hsame =>
    cases h
    exact ⟨mem_of_find?_eq_some hfind, hsame.1, admitted_ok hsame.2.2.2.2⟩
  · cases h

/-- **Every step keeps the invariants**, whatever its request has read before. -/
theorem McpState.Sound.apply (h : state.Sound deployment drawn)
    (hsha : Function.Injective deployment.sha256) (step : McpStep)
    (hfresh : ∀ i inputs, step = .transact i inputs → inputs.Fresh drawn) :
    (state.apply deployment step).Sound deployment (drawn ++ step.draws) := by
  have hsub : drawn ⊆ drawn ++ step.draws := subset_append_left _ _
  cases step with
  | issue i | exchange i | refresh i =>
    refine McpState.Sound.mono (h.proceed i fun call hcall => ?_) hsub
    obtain ⟨request, _, rfl⟩ := map_ok.1 hcall
    trivial
  | candidate i | capture i =>
    rw [McpState.apply]
    split
    · refine McpState.Sound.mono (h.proceed i fun call hcall => ?_) hsub
      obtain ⟨read, _, rfl⟩ := map_ok.1 hcall
      trivial
    · exact h.mono hsub
  | revokeToken i token clientId =>
    refine (h.setCall i ?_).mono hsub
    intro call hcall
    obtain ⟨row, hfind, rfl⟩ := map_eq_some_iff.1 hcall
    exact h.connections.row_created row (mem_of_find?_eq_some hfind)
  | checkRevocation i =>
    rw [McpState.apply]
    split
    · next row clientId hcall =>
      refine (h.setCall i ?_).mono hsub
      intro call hnext
      split at hnext
      · cases hnext
        exact (h.calls i _ hcall :)
      · cases hnext
    · exact h.mono hsub
  | revokeConnection i actor workspaceId connectionId membership =>
    refine McpState.Sound.mono (h.proceed i fun call hcall => ?_) hsub
    obtain ⟨_, _, hcall⟩ := bind_ok.1 hcall
    split at hcall
    · cases hcall
    · cases hcall
      trivial
  | transact i inputs =>
    rw [McpState.apply]
    split
    · next result hresult =>
      obtain ⟨call, hcall, htransact⟩ := bind_eq_some_iff.1 hresult
      exact h.commit hsha i (hfresh i inputs rfl) (h.calls i call hcall) htransact
    · exact h.mono hsub
  | resolve i tokenString expectedResource now =>
    refine (h.setCall i ?_).mono hsub
    intro call hcall
    obtain ⟨row, _, rfl⟩ := map_eq_some_iff.1 hcall
    trivial
  | resolveAgain i now =>
    rw [McpState.apply]
    split
    · refine (h.setCall i ?_).mono hsub
      intro call hnext
      obtain ⟨row, hread, rfl⟩ := map_eq_some_iff.1 hnext
      obtain ⟨hrow, _, hlive⟩ := authenticate_some hread
      exact h.readSound hrow hlive
    · exact h.mono hsub
  | resolveUser i membership =>
    rw [McpState.apply]
    split
    · next token row readAt hcall =>
      have hended : (state.setCall i none).Sound deployment drawn := h.setCall i (by simp)
      have hread : ReadSound state.log row.connection readAt := h.calls i _ hcall
      refine McpState.Sound.mono ?_ hsub
      split
      · refine ⟨h.codes.append (by simp) rfl (by simp), h.connections.append rfl ?_ (by simp),
          fun j c hc => (hended.calls j c hc).append _, h.respected.append ?_⟩
        · rintro _ ⟨⟩
          exact hread.2.1
        · intro before after revoked hlog
          exact hread.respects hlog
      · rw [append_nil]
        exact hended
    · exact h.mono hsub
  | changeClients clients =>
    refine McpState.Sound.mono ⟨?_, ?_, h.calls, h.respected⟩ hsub
    · refine h.codes.replace fun row hrow => ⟨row, mem_of_mem_filter hrow, ?_⟩
      exact ⟨rfl, rfl, rfl, id⟩
    · refine h.connections.replace fun row hrow => ⟨row, mem_of_mem_filter hrow, ?_⟩
      exact ⟨rfl, id⟩
  | changeGrant tables grants revoked now =>
    refine McpState.Sound.mono ?_ hsub
    rcases revoked with _ | ⟨workspaceId, userId⟩
    · exact ⟨h.codes, h.connections, h.calls, h.respected⟩
    · refine ⟨?_, ?_, h.calls, h.respected⟩
      · refine h.codes.replace fun row hrow => ⟨row, mem_of_mem_filter hrow, ?_⟩
        exact ⟨rfl, rfl, rfl, id⟩
      · refine h.connections.replace fun row' hrow' => ?_
        obtain ⟨row, hrow, rfl⟩ := mem_map.1 hrow'
        refine ⟨row, hrow, ?_⟩
        split
        · exact ⟨rfl, fun _ => rfl⟩
        · exact ⟨rfl, id⟩

end

/-! ## Runs -/

theorem sound_run (hsha : Function.Injective deployment.sha256) (tables : SupportTables)
    (grants : KeyedTable WorkspaceSupportGrant WorkspaceSupportGrant.key)
    (clients : KeyedTable McpOAuthClient McpOAuthClient.id) (steps : List McpStep)
    (hfresh : (steps.flatMap McpStep.draws).Nodup) :
    ((McpState.initial tables grants clients).run deployment steps).Sound deployment
      (steps.flatMap McpStep.draws) := by
  induction steps using reverseRecOn with
  | nil =>
    refine ⟨⟨?_, ?_, ?_, ?_, ?_, .nil, ?_⟩, ⟨?_, ?_, ?_, .nil, ?_⟩, ?_, ?_⟩ <;>
      simp [McpState.run, McpState.initial, KeyedTable.empty, RevocationsRespected]
  | append_singleton done step ih =>
    rw [flatMap_append, flatMap_singleton] at hfresh ⊢
    obtain ⟨hbefore, _, hdisjoint⟩ := nodup_append.1 hfresh
    rw [McpState.run, foldl_append]
    refine (ih hbefore).apply hsha step ?_
    rintro i inputs rfl
    constructor
    · intro hmem
      exact hdisjoint _ hmem _ (by simp [McpStep.draws]) rfl
    · intro hmem
      exact hdisjoint _ hmem _ (by simp [McpStep.draws]) rfl

/-! ## Guarantees -/

section
variable {drawn : List JsString} {state : McpState} {id token : JsString}

theorem AcceptsAccess.row (h : AcceptsAccess deployment state.store id token) :
    ∃ row ∈ state.store.connections.rows, row.id = id ∧
      row.tokenHash = deployment.sha256 token ∧ row.revokedAt = none := by
  obtain ⟨expectedResource, now, membership, row, hresolve, hid⟩ := h
  obtain ⟨candidate, _, hresolve⟩ := bind_eq_some_iff.1 hresolve
  obtain ⟨found, hread, hresolve⟩ := bind_eq_some_iff.1 hresolve
  split at hresolve
  · cases hresolve
    obtain ⟨hrow, hhash, hlive⟩ := authenticate_some hread
    exact ⟨row, hrow, hid, hhash, hlive⟩
  · cases hresolve

theorem AcceptsRefresh.row (h : AcceptsRefresh deployment state.store id token) :
    ∃ row ∈ state.store.connections.rows, row.id = id ∧
      row.refreshHash = some (deployment.sha256 token) ∧ row.revokedAt = none := by
  obtain ⟨params, client, inputs, ⟨store', row, response⟩, rfl, hok, hid⟩ := h
  obtain ⟨hrow, hhash, hlive, _⟩ := refreshUnderLock_ok hok
  exact ⟨row, hrow, hid, hhash, hlive⟩

theorem McpState.Sound.safe (h : state.Sound deployment drawn)
    (hsha : Function.Injective deployment.sha256) : McpSafe deployment state where
  exchanged_once := h.codes.exchanged_once
  access_unique id := by
    intro token htoken token' htoken'
    obtain ⟨row, hrow, hid, hhash, _⟩ := AcceptsAccess.row htoken
    obtain ⟨row', hrow', hid', hhash', _⟩ := AcceptsAccess.row htoken'
    obtain rfl := inj_on_of_nodup_map state.store.connections.nodup_id hrow hrow'
      (hid.trans hid'.symm)
    exact hsha (hhash.symm.trans hhash')
  refresh_unique id := by
    intro token htoken token' htoken'
    obtain ⟨row, hrow, hid, hhash, _⟩ := AcceptsRefresh.row htoken
    obtain ⟨row', hrow', hid', hhash', _⟩ := AcceptsRefresh.row htoken'
    obtain rfl := inj_on_of_nodup_map state.store.connections.nodup_id hrow hrow'
      (hid.trans hid'.symm)
    exact hsha (some.inj (hhash.symm.trans hhash'))
  created := h.connections.created
  row_created := h.connections.row_created
  created_once := h.connections.created_once
  consented := h.codes.consented
  revocations_respected := h.respected
  revoked_accepts connection hrevoked token := by
    have hdead := h.connections.revoked connection hrevoked
    constructor
    · intro haccepts
      obtain ⟨row, hrow, hid, _, hlive⟩ := AcceptsAccess.row haccepts
      simpa [hlive] using hdead row hrow hid
    · intro haccepts
      obtain ⟨row, hrow, hid, _, hlive⟩ := AcceptsRefresh.row haccepts
      simpa [hlive] using hdead row hrow hid

end

/-- **MCP connections are safe**: however requests, revocations and the changes of others are
interleaved, if the hash is injective and the tokens and ids are fresh, then in every state a code
has been exchanged at most once, a connection accepts one access and one refresh token at most, its
user, workspace, client and scopes are those consented to in its code, and a revocation is final for
the connection and for the codes issued before it. -/
theorem mcp_safe (hsha : Function.Injective deployment.sha256) (tables : SupportTables)
    (grants : KeyedTable WorkspaceSupportGrant WorkspaceSupportGrant.key)
    (clients : KeyedTable McpOAuthClient McpOAuthClient.id) (steps : List McpStep)
    (hfresh : (steps.flatMap McpStep.draws).Nodup) :
    McpSafe deployment ((McpState.initial tables grants clients).run deployment steps) :=
  (sound_run hsha tables grants clients steps hfresh).safe hsha

/-! ## A connection from its consent to its end -/

/-- A hash that keeps its text. -/
def plainHash (text : JsString) : JsString := 0x30 :: text

/-- A deployment for all workspaces. -/
def sampleDeployment : McpDeployment where
  scopeSlug := none
  workspaceConnectionsEnabled := false
  instances := [⟨lit "corgtex", [], [], true⟩]
  publicUrl := lit "https://corgtex.example/mcp"
  canonicalOrigin := lit "https://corgtex.example"
  workspaceFromMcpResource _ := none
  normalizeMcpResource := some
  areEquivalentMcpResources stored requested := .ok (stored = requested)
  allowsLoopback _ _ := false
  sha256 := plainHash
  pkceS256 := plainHash

def sampleClient : McpOAuthClient where
  id := lit "client"
  clientId := lit "mcp_client_1"
  redirectUris := [lit "https://app.example/callback"]
  scopes := [lit "brain:read"]
  isActive := true

def sampleTables : SupportTables where
  workspaces := ⟨[⟨lit "w1", lit "w1", none⟩], List.nodup_singleton _⟩
  users := ⟨[⟨lit "u1", lit "u@example.com", false⟩], List.nodup_singleton _⟩
  members := ⟨[⟨lit "m", lit "w1", lit "u1", .admin, .HUMAN, true⟩], List.nodup_singleton _⟩

/-- The user consents. -/
def consent (i : Nat) (inputs : McpInputs) : List McpStep := [
  .issue i (.user (lit "u1") (lit "u@example.com") none)
    ⟨lit "mcp_client_1", lit "w1", lit "https://app.example/callback", none,
      plainHash (lit "v"), lit "S256", none, none⟩ (.ok ()) none,
  .candidate i, .capture i, .transact i inputs]

/-- The client exchanges a code. -/
def exchangeCode (i : Nat) (code : JsString) (inputs : McpInputs) : List McpStep := [
  .exchange i ⟨code, lit "mcp_client_1", lit "https://app.example/callback", lit "v", none⟩ none,
  .candidate i, .capture i, .transact i inputs]

/-- Two codes; the first becomes a connection, whose tokens are rotated, and whose access token is
admitted. The user revokes the connection while the exchange of the second code is under way. -/
def sampleSteps : List McpStep :=
  consent 0 ⟨0, lit "c1", lit "a", lit "a'"⟩ ++ consent 1 ⟨0, lit "c2", lit "b", lit "b'"⟩ ++
  exchangeCode 2 (lit "mcp_code_a") ⟨1, lit "t1", lit "c", lit "d"⟩ ++
  [.refresh 3 ⟨lit "mcp_rt_d", lit "mcp_client_1", none, none⟩ none, .candidate 3, .capture 3,
    .transact 3 ⟨2, lit "t2", lit "e", lit "f"⟩,
    .resolve 4 (lit "mcp_at_e") none 3, .resolveAgain 4 3, .resolveUser 4 (.ok ())] ++
  (exchangeCode 5 (lit "mcp_code_b") ⟨5, lit "t3", lit "g", lit "h"⟩).take 3 ++
  [.revokeConnection 6 (.user (lit "u1") (lit "u@example.com") none) (lit "w1") (lit "t1") (.ok ()),
    .transact 6 ⟨4, lit "t4", lit "i", lit "j"⟩,
    .transact 5 ⟨5, lit "t3", lit "g", lit "h"⟩,
    .refresh 7 ⟨lit "mcp_rt_f", lit "mcp_client_1", none, none⟩ none, .candidate 7, .capture 7,
    .transact 7 ⟨6, lit "t5", lit "k", lit "l"⟩]

/-- The connection of the run. -/
def sampleConnection : Connection :=
  ⟨lit "t1", ⟨lit "client", lit "u1", lit "w1"⟩, [lit "brain:read"]⟩

/-- What the run comes to, and that it is safe. -/
theorem mcp_safe_sampleSteps :
    ((McpState.initial sampleTables .empty ⟨[sampleClient], List.nodup_singleton _⟩).run
      sampleDeployment sampleSteps).log = [
        .issued (lit "mcp_code_a") sampleConnection.holder sampleConnection.scopes,
        .issued (lit "mcp_code_b") sampleConnection.holder sampleConnection.scopes,
        .exchanged (lit "mcp_code_a") sampleConnection
          ⟨lit "mcp_at_c", "bearer", 3600, lit "mcp_rt_d", lit "brain:read"⟩,
        .refreshed (lit "mcp_rt_d") sampleConnection
          ⟨lit "mcp_at_e", "bearer", 3600, lit "mcp_rt_f", lit "brain:read"⟩,
        .admitted (lit "mcp_at_e") sampleConnection 4,
        .revoked sampleConnection] ∧
    McpSafe sampleDeployment
      ((McpState.initial sampleTables .empty ⟨[sampleClient], List.nodup_singleton _⟩).run
        sampleDeployment sampleSteps) :=
  ⟨by decide +kernel, mcp_safe (fun _ _ h => (cons.inj h).2) sampleTables .empty _ sampleSteps
    (by decide +kernel)⟩

end Corgtex.Domain.Mcp
