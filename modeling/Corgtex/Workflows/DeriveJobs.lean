import Corgtex.Library.JsDate
import Corgtex.Library.Json
import Corgtex.Workflows.Events

/-!
# The jobs of an event

`deriveJobsForEvent` (`workflows/src/derive-jobs.ts`) is a chain of branches, each for some types of
events, that push jobs with dedupe keys made of the id of the event and of what its payload says.
The keys are distinct, and a job depends only on jobs before it (`deriveJobsForEvent_ordered`).

Payloads are JSON of any form. Their strings are written to the database as Unicode text.
-/

namespace Corgtex.Workflows

open JsString List

/-! ## Reading a payload -/

/-- What the branches ask of a number. -/
structure JsonNumbers (ν : Type) where
  isZero : ν → Bool
  isPositiveSafeInteger : ν → Bool
  toString : ν → JsString

/-- A string as a column of the database has it. -/
def dbText (s : JsString) : String := String.ofList ((Utf8.scalars s).map Char.ofNat)

variable {ν : Type} (numbers : JsonNumbers ν)

def typeError (message : String) : Thrown := .error message none

/-- `payload.key`; `none` is `undefined`. -/
def readField (payload : Json ν) (key : String) : Except Thrown (Option (Json ν)) :=
  match payload with
  | .null => .error (typeError ("Cannot read properties of null (reading '" ++ key ++ "')"))
  | .object members => .ok ((members.find? fun member => member.1 = lit key).map Prod.snd)
  | _ => .ok none

/-- `Boolean(value)`. -/
def isTruthy : Option (Json ν) → Bool
  | none | some .null => false
  | some (.bool value) => value
  | some (.number value) => !numbers.isZero value
  | some (.string value) => value ≠ []
  | some (.array _) | some (.object _) => true

/-- `value ?? other`. -/
def orElse (value other : Option (Json ν)) : Option (Json ν) :=
  match value with
  | none | some .null => other
  | some value => some value

mutual

/-- `${value}`. An object whose own property hides `toString` has no primitive value. -/
def toText : Json ν → Except Thrown JsString
  | .null => .ok (lit "null")
  | .bool value => .ok (lit (if value then "true" else "false"))
  | .number value => .ok (numbers.toString value)
  | .string value => .ok value
  | .array items => (itemTexts items).map (join (lit ","))
  | .object members =>
    if members.any fun member => member.1 = lit "toString" then
      .error (typeError "Cannot convert object to primitive value")
    else .ok (lit "[object Object]")

/-- The texts that `Array.prototype.join` joins. -/
def itemTexts : List (Json ν) → Except Thrown (List JsString)
  | [] => .ok []
  | .null :: items => do
    let texts ← itemTexts items
    return [] :: texts
  | item :: items => do
    let text ← toText item
    let texts ← itemTexts items
    return text :: texts

end

/-- `readPayloadString` (line 32). -/
def readPayloadString (payload : Json ν) (key : String) : Option JsString :=
  match payload with
  | .object members =>
    match (members.find? fun member => member.1 = lit key).map Prod.snd with
    | some (.string value) => value.trim.orNull
    | _ => none
  | _ => none

/-- `readPayloadPositiveInteger` (line 41), the number as it is in the payload. -/
def readPayloadPositiveInteger (payload : Json ν) (key : String) : Option ν :=
  match payload with
  | .object members =>
    match (members.find? fun member => member.1 = lit key).map Prod.snd with
    | some (.number value) => if numbers.isPositiveSafeInteger value then some value else none
    | _ => none
  | _ => none

/-- `isReplayEvent` (line 47). -/
def isReplayEvent (payload : Json ν) : Bool :=
  match payload with
  | .object members =>
    match (members.find? fun member => member.1 = lit "runtimeMeta").map Prod.snd with
    | some runtimeMeta => (readPayloadString runtimeMeta "replayOfEventId").isSome
    | none => false
  | _ => false

/-! ## The branches -/

variable (event : ClaimedEvent (Json ν))

/-- `Boolean(event.workspaceId)`. -/
def hasWorkspace : Bool := event.workspaceId.any (· ≠ "")

/-- `${event.workspaceId}`, of an event that has one. -/
def workspaceText : String := event.workspaceId.getD ""

/-- `${event.id}:${suffix}`. -/
def eventKey (suffix : String) : String := event.id ++ ":" ++ suffix

/-- A job of the event, in its workspace. -/
def derivedJob (type : String) (payload : List (String × Json ν)) (dedupeKey : String)
    (dependsOnDedupeKey : Option String) : DerivedJob (Json ν) where
  workspaceId := event.workspaceId
  type
  payload := .object (payload.map fun entry => (lit entry.1, entry.2))
  dedupeKey
  dependsOnDedupeKey

/-- `pushContextGraphSync` (line 78). -/
def contextGraphSync (sourceType : String) (sourceId : Option (Json ν))
    (dependsOnDedupeKey : Option String) : Except Thrown (List (DerivedJob (Json ν))) :=
  match sourceId with
  | none => .ok []
  | some value =>
    if isTruthy numbers (some value) && hasWorkspace event then do
      let text ← toText numbers value
      return [derivedJob event "context-graph.sync"
        [("sourceType", .string (lit sourceType)), ("sourceId", value)]
        (eventKey event ("context-graph-sync:" ++ sourceType ++ ":" ++ dbText text))
        dependsOnDedupeKey]
    else .ok []

/-- The branch of `crm.inquiry.captured` (line 94). -/
def crmInquiryJobs : Except Thrown (List (DerivedJob (Json ν))) :=
  if event.type = "crm.inquiry.captured" && hasWorkspace event then
    match readPayloadString event.payload "source",
        readPayloadString event.payload "conversationId" with
    | some source, some conversationId =>
      if source = lit "corporate_rebels_website" then
        .ok [derivedJob event "email.crm-inquiry-acknowledgement"
          [("conversationId", .string conversationId)]
          ("crm-inquiry-acknowledgement:" ++ workspaceText event ++ ":" ++ dbText conversationId)
          none]
      else .ok []
    | _, _ => .ok []
  else .ok []

/-- The branch of `proposal.approved` (line 108). -/
def proposalApprovedJobs : Except Thrown (List (DerivedJob (Json ν))) :=
  if event.type = "proposal.approved" then do
    match ← readField event.payload "subjectId" with
    | none => return []
    | some subjectId =>
      if isTruthy numbers (some subjectId) && hasWorkspace event then do
        let sync ← contextGraphSync numbers event "PROPOSAL" subjectId
          (eventKey event "knowledge-sync")
        return derivedJob event "knowledge.sync.proposal" [("proposalId", subjectId)]
            (eventKey event "knowledge-sync") none ::
          sync ++
          [derivedJob event "agent.constitution-update-trigger" [("proposalId", subjectId)]
              (eventKey event "constitution-update-trigger") none,
            derivedJob event "agent.constitution-synthesis" []
              (eventKey event "constitution-synthesis") none,
            derivedJob event "governance.score" [] (eventKey event "governance-score") none]
      else return []
  else .ok []

/-- A job that syncs the knowledge of `id` and, after it, its node of the context graph. -/
def knowledgeSync (type field sourceType suffix : String) (id : Option (Json ν)) :
    Except Thrown (List (DerivedJob (Json ν))) :=
  match id with
  | none => .ok []
  | some id =>
    if isTruthy numbers (some id) && hasWorkspace event then do
      let sync ← contextGraphSync numbers event sourceType id (eventKey event suffix)
      return derivedJob event type [(field, id)] (eventKey event suffix) none :: sync
    else .ok []

/-- The branch of `proposal.opened` (line 147). -/
def proposalOpenedJobs : Except Thrown (List (DerivedJob (Json ν))) :=
  if event.type = "proposal.opened" then do
    let proposalId ← readField event.payload "proposalId"
    let subjectId ← readField event.payload "subjectId"
    knowledgeSync numbers event "knowledge.sync.proposal" "proposalId" "PROPOSAL" "knowledge-sync"
      (orElse proposalId subjectId)
  else .ok []

/-- The branch of `finance-report-import.uploaded` (line 164). -/
def financeUploadedJobs : Except Thrown (List (DerivedJob (Json ν))) :=
  if event.type = "finance-report-import.uploaded" then
    match readPayloadString event.payload "batchId" with
    | some batchId =>
      if hasWorkspace event && event.aggregateType = some "FinanceImportBatch" &&
          event.aggregateId.map lit = some batchId then
        .ok [derivedJob event "finance-report-import.extract" [("batchId", .string batchId)]
          ("finance-report-import:" ++ workspaceText event ++ ":" ++ dbText batchId ++
            ":extract:v1") none]
      else .ok []
    | none => .ok []
  else .ok []

/-- The branch of `finance-report-import.extracted` (line 182). -/
def financeExtractedJobs : Except Thrown (List (DerivedJob (Json ν))) :=
  if event.type = "finance-report-import.extracted" then
    match readPayloadString event.payload "batchId",
        readPayloadPositiveInteger numbers event.payload "expectedVersion" with
    | some batchId, some expectedVersion =>
      if hasWorkspace event && event.aggregateType = some "FinanceImportBatch" &&
          event.aggregateId.map lit = some batchId then
        .ok [derivedJob event "finance-report-import.interpret"
          [("batchId", .string batchId), ("expectedVersion", .number expectedVersion)]
          ("finance-report-import:" ++ workspaceText event ++ ":" ++ dbText batchId ++
            ":interpret:v1") none]
      else .ok []
    | _, _ => .ok []
  else .ok []

/-- `payload.status !== "SCHEDULED" && payload.hasTranscript !== false`. -/
def shouldRunMeetingAgents (status hasTranscript : Option (Json ν)) : Bool :=
  (match status with
    | some (.string status) => status ≠ lit "SCHEDULED"
    | _ => true) &&
  match hasTranscript with
    | some (.bool hasTranscript) => hasTranscript
    | _ => true

/-- The agents of a meeting with a transcript (line 206). -/
def meetingAgentJobs (meetingId : Json ν) : Except Thrown (List (DerivedJob (Json ν))) := do
  let sync ← contextGraphSync numbers event "MEETING" meetingId
    (eventKey event "meeting-insights-extract")
  return [derivedJob event "agent.meeting-summary" [("meetingId", meetingId)]
      (eventKey event "meeting-summary") none,
    derivedJob event "meeting.insights.extract" [("meetingId", meetingId)]
      (eventKey event "meeting-insights-extract") (eventKey event "meeting-summary"),
    derivedJob event "agent.action-extraction"
      [("meetingId", meetingId), ("reviewOnly", .bool true)]
      (eventKey event "action-extraction") (eventKey event "meeting-insights-extract"),
    derivedJob event "meeting.summary.post" [("meetingId", meetingId)]
      (eventKey event "meeting-summary-post") (eventKey event "action-extraction"),
    derivedJob event "knowledge.sync.meeting" [("meetingId", meetingId)]
      (eventKey event "meeting-knowledge-sync") (eventKey event "meeting-summary-post")] ++ sync

/-- The branch of `meeting.created` and `meeting.transcript-uploaded` (line 191). -/
def meetingJobs : Except Thrown (List (DerivedJob (Json ν))) :=
  if event.type = "meeting.created" || event.type = "meeting.transcript-uploaded" then do
    let status ← readField event.payload "status"
    let hasTranscript ← readField event.payload "hasTranscript"
    match ← readField event.payload "meetingId" with
    | none => return []
    | some meetingId =>
      if !shouldRunMeetingAgents status hasTranscript then
        knowledgeSync numbers event "knowledge.sync.meeting" "meetingId" "MEETING"
          "meeting-knowledge-sync" meetingId
      else if isTruthy numbers (some meetingId) && hasWorkspace event then
        meetingAgentJobs numbers event meetingId
      else return []
  else .ok []

/-- The branch of `meeting.processed-content-updated` (line 261). -/
def meetingContentJobs : Except Thrown (List (DerivedJob (Json ν))) :=
  if event.type = "meeting.processed-content-updated" then do
    match ← readField event.payload "meetingId", ← readField event.payload "editedSummary" with
    | none, _ | _, some (.bool false) => return []
    | some meetingId, _ =>
      if isTruthy numbers (some meetingId) && hasWorkspace event then do
        let sync ← contextGraphSync numbers event "MEETING" meetingId none
        return derivedJob event "knowledge.sync.meeting" [("meetingId", meetingId)]
          (eventKey event "meeting-knowledge-sync") none :: sync
      else return []
  else .ok []

/-- The branch of `brain-source.created` (line 277). -/
def brainSourceJobs : Except Thrown (List (DerivedJob (Json ν))) :=
  if event.type = "brain-source.created" then do
    match ← readField event.payload "sourceId" with
    | none => return []
    | some sourceId =>
      if isTruthy numbers (some sourceId) && hasWorkspace event then
        return [derivedJob event "agent.brain-absorb" [("sourceId", sourceId)]
          (eventKey event "brain-absorb") none]
      else return []
  else .ok []

/-- A branch that syncs the knowledge of what the payload names under `field`. -/
def entityJobs (types : List String) (type field sourceType suffix : String) :
    Except Thrown (List (DerivedJob (Json ν))) :=
  if types.contains event.type then do
    let id ← readField event.payload field
    knowledgeSync numbers event type field sourceType suffix id
  else .ok []

/-- The branch of brain articles (line 291). -/
def brainArticleJobs : Except Thrown (List (DerivedJob (Json ν))) :=
  entityJobs numbers event
    ["brain-article.created", "brain-article.updated", "brain-article.published"]
    "knowledge.sync.brain-article" "articleId" "BRAIN_ARTICLE" "brain-article-knowledge-sync"

/-- The branch of documents (line 305). -/
def documentJobs : Except Thrown (List (DerivedJob (Json ν))) :=
  entityJobs numbers event ["document.created", "document.updated"]
    "knowledge.sync.document" "documentId" "DOCUMENT" "document-knowledge-sync"

/-- The branch of tensions (line 321). -/
def tensionJobs : Except Thrown (List (DerivedJob (Json ν))) :=
  entityJobs numbers event ["tension.created", "tension.updated"]
    "knowledge.sync.tension" "tensionId" "TENSION" "tension-knowledge-sync"

/-- The branch of actions (line 335). -/
def actionJobs : Except Thrown (List (DerivedJob (Json ν))) :=
  entityJobs numbers event ["action.created", "action.updated"]
    "knowledge.sync.action" "actionId" "ACTION" "action-knowledge-sync"

/-- The branch of circles (line 349). -/
def circleJobs : Except Thrown (List (DerivedJob (Json ν))) :=
  entityJobs numbers event ["circle.created", "circle.updated"]
    "knowledge.sync.circle" "circleId" "CIRCLE" "circle-knowledge-sync"

/-- The branch of roles (line 363). -/
def roleJobs : Except Thrown (List (DerivedJob (Json ν))) :=
  entityJobs numbers event ["role.created", "role.updated"]
    "knowledge.sync.role" "roleId" "ROLE" "role-knowledge-sync"

/-- The branch of `role.assigned` (line 377). -/
def roleOnboardingJobs : Except Thrown (List (DerivedJob (Json ν))) :=
  if event.type = "role.assigned" then do
    match ← readField event.payload "onboardingSessionId" with
    | none => return []
    | some onboardingSessionId =>
      if isTruthy numbers (some onboardingSessionId) && hasWorkspace event then do
        let text ← toText numbers onboardingSessionId
        return [derivedJob event "agent.role-onboarding-intro"
          [("onboardingSessionId", onboardingSessionId)]
          (eventKey event ("role-onboarding-intro:" ++ dbText text)) none]
      else return []
  else .ok []

/-- A branch that only syncs the context graph. -/
def graphJobs (types : List String) (field sourceType : String) :
    Except Thrown (List (DerivedJob (Json ν))) :=
  if types.contains event.type then do
    let id ← readField event.payload field
    contextGraphSync numbers event sourceType id none
  else .ok []

/-- The branch of members (line 390). -/
def memberJobs : Except Thrown (List (DerivedJob (Json ν))) :=
  graphJobs numbers event ["member.created", "member.updated", "member.deactivated",
    "member.reactivated", "role.assigned", "role.unassigned"] "memberId" "MEMBER"

/-- The branch of goals (line 402). -/
def goalJobs : Except Thrown (List (DerivedJob (Json ν))) :=
  graphJobs numbers event ["goal.created", "goal.updated"] "goalId" "GOAL"

/-- The branch of agent identities (line 407). -/
def agentIdentityJobs : Except Thrown (List (DerivedJob (Json ν))) :=
  graphJobs numbers event ["agent-identity.created", "agent-identity.updated",
    "agent-identity.deactivated", "agent-identity.circle-assigned",
    "agent-identity.circle-unassigned"] "agentIdentityId" "AGENT_IDENTITY"

/-- A property that is left out of the object where it is `undefined`. -/
def definedEntry (key : String) (value : Option (Json ν)) : List (String × Json ν) :=
  (value.map fun value => (key, value)).toList

/-- The branch of `checkin.response_received` (line 418). -/
def checkInJobs : Except Thrown (List (DerivedJob (Json ν))) :=
  if event.type = "checkin.response_received" then do
    let checkInId ← readField event.payload "checkInId"
    match ← readField event.payload "memberId" with
    | none => return []
    | some memberId =>
      if isTruthy numbers (some memberId) && hasWorkspace event then
        return [derivedJob event "agent.checkin-analysis"
          (("memberId", memberId) :: definedEntry "checkInId" checkInId)
          (eventKey event "checkin-analysis") none]
      else return []
  else .ok []

/-- `TRIAGE_EVENT_TYPES` (line 9). -/
def TRIAGE_EVENT_TYPES : List String :=
  ["proposal.submitted", "meeting.created", "meeting.transcript-uploaded", "action.created",
    "tension.created", "checkin.response_received"]

def TRIAGE_COALESCE_WINDOW_MS : Nat := 5 * 60 * 1000

/-- `triageBucketStart(date).toISOString()` (line 5). -/
def triageBucketStart (createdAt : Nat) : Except Thrown JsString :=
  let bucketStart : Nat := createdAt / TRIAGE_COALESCE_WINDOW_MS * TRIAGE_COALESCE_WINDOW_MS
  match JsDate.timeClip bucketStart with
  | some bucketStart => .ok (JsDate.toISOString bucketStart)
  | none => .error (.error "Invalid time value" none)

/-- `payload.runtimeMeta?.replayOfEventId`, of `event.payload ?? {}`. -/
def replayOfEventId (payload : Json ν) : Option (Json ν) :=
  let property (value : Json ν) (key : String) : Option (Json ν) :=
    match value with
    | .object members => (members.find? fun member => member.1 = lit key).map Prod.snd
    | _ => none
  (property payload "runtimeMeta").bind (property · "replayOfEventId")

/-- The branch of the triage (line 434). -/
def triageJobs : Except Thrown (List (DerivedJob (Json ν))) :=
  if hasWorkspace event && TRIAGE_EVENT_TYPES.contains event.type then do
    let replay := replayOfEventId event.payload
    let bucketStart ← triageBucketStart event.createdAt
    let dedupeKey := workspaceText event ++ ":" ++
      if isTruthy numbers replay then "triage:replay:" ++ event.id
      else "triage:" ++ dbText bucketStart
    return [derivedJob event "agent.inbox-triage"
      [("eventType", .string (lit event.type)), ("bucketStart", .string bucketStart),
        ("replayOfEventId", replay.getD .null)] dedupeKey none]
  else .ok []

/-- `KNOWLEDGE_PULSE_EVENT_TYPES` (line 18). -/
def KNOWLEDGE_PULSE_EVENT_TYPES : List String :=
  ["proposal.submitted", "proposal.opened", "proposal.approved", "document.created",
    "meeting.created", "meeting.transcript-uploaded", "approval.finalized"]

/-- The branch of the knowledge pulse (line 455). -/
def knowledgePulseJobs : Except Thrown (List (DerivedJob (Json ν))) :=
  if hasWorkspace event && KNOWLEDGE_PULSE_EVENT_TYPES.contains event.type &&
      !isReplayEvent event.payload then
    .ok [derivedJob event "knowledge.sync.event" [("eventId", .string (lit event.id))]
      (eventKey event "knowledge-sync-event") none]
  else .ok []

/-- `event.aggregateId` in a payload. -/
def aggregateEntry : String × Json ν :=
  ("aggregateId", match event.aggregateId with
    | some id => .string (lit id)
    | none => .null)

/-- The branch of `crm.qualification.submitted` (line 467). -/
def crmQualificationJobs : Except Thrown (List (DerivedJob (Json ν))) :=
  if event.type = "crm.qualification.submitted" && hasWorkspace event then
    match readPayloadString event.payload "channel",
        readPayloadString event.payload "qualificationId" with
    | some channel, some qualificationId =>
      if channel = lit "email_reply" then
        .ok [derivedJob event "agent.crm-email-extraction"
          [("eventId", .string (lit event.id)), aggregateEntry event,
            ("qualificationId", .string qualificationId)]
          (eventKey event "crm-email-extraction") none]
      else .ok []
    | _, _ => .ok []
  else .ok []

/-- The branch of `crm.qualification.approved` (line 485). -/
def crmEnrichmentJobs : Except Thrown (List (DerivedJob (Json ν))) :=
  if event.type = "crm.qualification.approved" && hasWorkspace event then
    match readPayloadString event.payload "email" with
    | some email =>
      .ok [derivedJob event "agent.crm-lead-enrichment"
        [("eventId", .string (lit event.id)), aggregateEntry event, ("email", .string email)]
        (eventKey event "crm-enrichment") none]
    | none => .ok []
  else .ok []

/-- The branch of `demo-lead.captured` (line 502). -/
def demoLeadJobs : Except Thrown (List (DerivedJob (Json ν))) :=
  if event.type = "demo-lead.captured" && hasWorkspace event then
    match readPayloadString event.payload "demoLeadId" with
    | some demoLeadId =>
      .ok [derivedJob event "email.demo-welcome-newspaper" [("demoLeadId", .string demoLeadId)]
        (workspaceText event ++ ":demo-welcome-newspaper:" ++ dbText demoLeadId) none]
    | none => .ok []
  else .ok []

/-- `REBUILD_EVENTS` (`domain/src/source-lineage-rebuild.ts:5`). -/
def REBUILD_EVENTS : List String :=
  ["source-lineage.changed", "source-permission.changed", "brain-source.created",
    "document.updated", "meeting.processed-content-updated", "member.created", "member.updated",
    "member.deactivated", "member.reactivated", "role.assigned", "role.unassigned",
    "role.assignment.updated"]

/-- The branch of the lineage rebuild (line 517). -/
def lineageRebuildJobs : Except Thrown (List (DerivedJob (Json ν))) :=
  if hasWorkspace event && REBUILD_EVENTS.contains event.type then
    .ok [derivedJob event "source-lineage.rebuild" [("eventId", .string (lit event.id))]
      (eventKey event "source-lineage-rebuild")
      (if event.type = "brain-source.created" &&
          (readPayloadString event.payload "sourceId").isSome then
        some (eventKey event "brain-absorb")
      else none)]
  else .ok []

/-- The branches before the lineage rebuild, in the order of the source. -/
def branches : List (ClaimedEvent (Json ν) → Except Thrown (List (DerivedJob (Json ν)))) :=
  [crmInquiryJobs, proposalApprovedJobs numbers, proposalOpenedJobs numbers, financeUploadedJobs,
    financeExtractedJobs numbers, meetingJobs numbers, meetingContentJobs numbers,
    brainSourceJobs numbers, brainArticleJobs numbers, documentJobs numbers, tensionJobs numbers,
    actionJobs numbers, circleJobs numbers, roleJobs numbers, roleOnboardingJobs numbers,
    memberJobs numbers, goalJobs numbers, agentIdentityJobs numbers, checkInJobs numbers,
    triageJobs numbers, knowledgePulseJobs, crmQualificationJobs, crmEnrichmentJobs, demoLeadJobs]

/-- `deriveJobsForEvent` (line 60). -/
def deriveJobsForEvent : Except Thrown (List (DerivedJob (Json ν))) := do
  let jobs ← (branches numbers).mapM fun branch => branch event
  let rebuild ← lineageRebuildJobs event
  return jobs.flatten ++ rebuild

/-! ## Keys and dependencies -/

/-- The second part of a dedupe key, after the id that it begins with. -/
def tagOf (key : String) : List Char :=
  ((key.toList.dropWhile (· ≠ ':')).drop 1).takeWhile (· ≠ ':')

theorem takeWhile_colon {tag : List Char} (h : ':' ∉ tag) (rest : List Char) :
    (tag ++ ':' :: rest).takeWhile (· ≠ ':') = tag := by
  rw [takeWhile_append_of_pos fun c hc => by simpa using ne_of_mem_of_not_mem hc h]
  simp

theorem takeWhile_no_colon {tag : List Char} (h : ':' ∉ tag) : tag.takeWhile (· ≠ ':') = tag :=
  takeWhile_eq_self_iff.2 fun c hc => by simpa using ne_of_mem_of_not_mem hc h

theorem tagOf_append {owner : String} (h : ':' ∉ owner.toList) (suffix : String) :
    tagOf (owner ++ ":" ++ suffix) = suffix.toList.takeWhile (· ≠ ':') := by
  have hcolon : (":" : String).toList = [':'] := rfl
  rw [tagOf, String.toList_append, String.toList_append, hcolon, append_assoc,
    singleton_append, dropWhile_append_of_pos fun c hc => by
      simpa using ne_of_mem_of_not_mem hc h]
  simp

/-- `Ordered known jobs`: each job depends on a key in `known` or on that of an earlier job, which
is not left to the lineage of a CRM job. -/
def Ordered {π : Type} (known : List String) : List (DerivedJob π) → Prop
  | [] => True
  | job :: jobs => (∀ key, job.dependsOnDedupeKey = some key → key ≠ "" ∧ key ∈ known) ∧
    Ordered (if job.type ∈ crmJobTypes then known else job.dedupeKey :: known) jobs

section
variable {π : Type} {known known' : List String} {jobs jobs' : List (DerivedJob π)}

theorem Ordered.mono (h : Ordered known jobs) (hsub : known ⊆ known') : Ordered known' jobs := by
  induction jobs generalizing known known' with
  | nil => trivial
  | cons job jobs ih =>
    refine ⟨fun key hkey => (h.1 key hkey).imp_right (@hsub key), ih h.2 ?_⟩
    split
    · exact hsub
    · exact cons_subset_cons _ hsub

/-- The keys that a later job may depend on. -/
def dependable (jobs : List (DerivedJob π)) : List String :=
  (jobs.filter fun job => job.type ∉ crmJobTypes).map DerivedJob.dedupeKey

theorem Ordered.append_dependable (h : Ordered known jobs)
    (h' : Ordered (dependable jobs ++ known) jobs') : Ordered known (jobs ++ jobs') := by
  induction jobs generalizing known with
  | nil => exact h'
  | cons job jobs ih =>
    refine ⟨h.1, ih h.2 (h'.mono ?_)⟩
    intro key hkey
    split
    · next hcrm => simpa [dependable, hcrm] using hkey
    · next hcrm =>
      simp only [dependable, filter_cons, hcrm, not_false_eq_true, decide_true, if_true,
        map_cons, cons_append, mem_cons, mem_append] at hkey ⊢
      tauto

theorem Ordered.append (h : Ordered known jobs) (h' : Ordered known jobs') :
    Ordered known (jobs ++ jobs') :=
  h.append_dependable (h'.mono (subset_append_right _ _))

theorem Ordered.earlier {job : DerivedJob π} {key : String}
    (h : Ordered known (jobs ++ job :: jobs')) (hkey : job.dependsOnDedupeKey = some key) :
    key ∈ jobs.map DerivedJob.dedupeKey ∨ key ∈ known := by
  induction jobs generalizing known with
  | nil => exact .inr (h.1 key hkey).2
  | cons first jobs ih =>
    rcases ih h.2 with hmem | hmem
    · exact .inl (.tail _ hmem)
    · split at hmem
      · exact .inr hmem
      · exact (mem_cons.1 hmem).imp_left fun he : key = first.dedupeKey => he ▸ .head _

end

/-- The types of events that a branch is for and, where other branches are for one of them too, the
tags of its keys in order. -/
abbrev Shape := List String × Option (List String)

/-- The jobs are those of a branch with the shape. -/
structure HasShape {π : Type} (shape : Shape) (type : String) (jobs : List (DerivedJob π)) :
    Prop where
  type : jobs ≠ [] → type ∈ shape.1
  tags : match shape.2 with
    | some tags => (jobs.map fun job => tagOf job.dedupeKey).Sublist (tags.map String.toList)
    | none => jobs.length ≤ 1

/-- The jobs of a branch have its shape, and depend on each other only. -/
structure Fits {π : Type} (shape : Shape) (type : String) (jobs : List (DerivedJob π)) : Prop
    extends HasShape shape type jobs where
  ordered : Ordered [] jobs

/-- The shapes of `branches`. -/
def shapes : List Shape :=
  [(["crm.inquiry.captured"], none),
    (["proposal.approved"], some ["knowledge-sync", "context-graph-sync",
      "constitution-update-trigger", "constitution-synthesis", "governance-score"]),
    (["proposal.opened"], some ["knowledge-sync", "context-graph-sync"]),
    (["finance-report-import.uploaded"], none),
    (["finance-report-import.extracted"], none),
    (["meeting.created", "meeting.transcript-uploaded"], some ["meeting-summary",
      "meeting-insights-extract", "action-extraction", "meeting-summary-post",
      "meeting-knowledge-sync", "context-graph-sync"]),
    (["meeting.processed-content-updated"], some ["meeting-knowledge-sync", "context-graph-sync"]),
    (["brain-source.created"], some ["brain-absorb"]),
    (["brain-article.created", "brain-article.updated", "brain-article.published"],
      some ["brain-article-knowledge-sync", "context-graph-sync"]),
    (["document.created", "document.updated"],
      some ["document-knowledge-sync", "context-graph-sync"]),
    (["tension.created", "tension.updated"], some ["tension-knowledge-sync", "context-graph-sync"]),
    (["action.created", "action.updated"], some ["action-knowledge-sync", "context-graph-sync"]),
    (["circle.created", "circle.updated"], some ["circle-knowledge-sync", "context-graph-sync"]),
    (["role.created", "role.updated"], some ["role-knowledge-sync", "context-graph-sync"]),
    (["role.assigned"], some ["role-onboarding-intro"]),
    (["member.created", "member.updated", "member.deactivated", "member.reactivated",
      "role.assigned", "role.unassigned"], some ["context-graph-sync"]),
    (["goal.created", "goal.updated"], some ["context-graph-sync"]),
    (["agent-identity.created", "agent-identity.updated", "agent-identity.deactivated",
      "agent-identity.circle-assigned", "agent-identity.circle-unassigned"],
      some ["context-graph-sync"]),
    (["checkin.response_received"], some ["checkin-analysis"]),
    (TRIAGE_EVENT_TYPES, some ["triage"]),
    (KNOWLEDGE_PULSE_EVENT_TYPES, some ["knowledge-sync-event"]),
    (["crm.qualification.submitted"], some ["crm-email-extraction"]),
    (["crm.qualification.approved"], some ["crm-enrichment"]),
    (["demo-lead.captured"], none)]

/-- The shape of `lineageRebuildJobs`. -/
def rebuildShape : Shape := (REBUILD_EVENTS, some ["source-lineage-rebuild"])

/-- Two branches are for different events, or their keys have different tags. -/
def Shape.apart (a b : Shape) : Bool :=
  a.1.all (fun type => !b.1.contains type) ||
    match a.2, b.2 with
    | some tags, some tags' => tags.all fun tag => !tags'.contains tag
    | _, _ => false

theorem shapes_apart : (shapes ++ [rebuildShape]).Pairwise fun a b => a.apart b := by
  decide +kernel

/-! ## The branches have their shapes -/

/-- Ids are UUIDs: what matters of them is that they have no colon. -/
structure HasPlainIds {π : Type} (event : ClaimedEvent π) : Prop where
  id : ':' ∉ event.id.toList
  workspaceId : ':' ∉ (event.workspaceId.getD "").toList

section
variable {numbers event} {shape : Shape} {jobs : List (DerivedJob (Json ν))}
  {dependsOnDedupeKey : Option String}

theorem Fits.nil {π : Type} (shape : Shape) (type : String) :
    Fits shape type ([] : List (DerivedJob π)) where
  type h := absurd rfl h
  tags := by
    cases shape.2 with
    | none => exact Nat.zero_le 1
    | some tags => exact nil_sublist _
  ordered := trivial

/-- A branch that may push nothing. -/
theorem Fits.of_if {condition : Prop} [Decidable condition]
    {action : Except Thrown (List (DerivedJob (Json ν)))}
    (h : (if condition then action else .ok []) = .ok jobs)
    (hfits : condition → action = .ok jobs → Fits shape event.type jobs) :
    Fits shape event.type jobs := by
  split at h
  · next hcondition => exact hfits hcondition h
  · cases h
    exact .nil ..

theorem Fits.tagged {tags : List String} (tags' : List String) (htype : event.type ∈ shape.1)
    (htags : shape.2 = some tags)
    (hjobs : jobs.map (fun job => tagOf job.dedupeKey) = tags'.map String.toList)
    (hsub : tags'.Sublist tags) (hordered : Ordered [] jobs) : Fits shape event.type jobs where
  type _ := htype
  tags := by
    rw [htags, hjobs]
    exact hsub.map _
  ordered := hordered

@[simp] theorem eventKey_ne_empty (suffix : String) : eventKey event suffix ≠ "" := by
  simp [eventKey]

theorem tagOf_eventKey (h : HasPlainIds event) (suffix : String) :
    tagOf (eventKey event suffix) = suffix.toList.takeWhile (· ≠ ':') :=
  tagOf_append h.id suffix

theorem tagOf_plainKey (h : HasPlainIds event) (tag : String) (htag : ':' ∉ tag.toList) :
    tagOf (eventKey event tag) = tag.toList :=
  (tagOf_eventKey h tag).trans (takeWhile_no_colon htag)

theorem tagOf_graphKey (h : HasPlainIds event) (sourceType text : String) :
    tagOf (eventKey event ("context-graph-sync:" ++ sourceType ++ ":" ++ text)) =
      "context-graph-sync".toList := by
  have hpre : ("context-graph-sync:" : String).toList = "context-graph-sync".toList ++ [':'] :=
    rfl
  rw [tagOf_eventKey h, String.append_assoc, String.append_assoc, String.toList_append, hpre,
    append_assoc]
  exact takeWhile_colon (by decide) _

theorem contextGraphSync_ok {sourceType : String} {sourceId : Option (Json ν)}
    (h : contextGraphSync numbers event sourceType sourceId dependsOnDedupeKey = .ok jobs) :
    jobs = [] ∨ ∃ payload text, jobs = [derivedJob event "context-graph.sync" payload
      (eventKey event ("context-graph-sync:" ++ sourceType ++ ":" ++ text))
      dependsOnDedupeKey] := by
  unfold contextGraphSync at h
  split at h
  · cases h
    exact .inl rfl
  split at h
  · obtain ⟨text, -, h⟩ := Domain.bind_ok.1 h
    cases h
    exact .inr ⟨_, _, rfl⟩
  · cases h
    exact .inl rfl

variable {type field sourceType suffix : String}

theorem knowledgeSync_fits (hids : HasPlainIds event)
    {id : Option (Json ν)} (htype : event.type ∈ shape.1) (htype' : type ∉ crmJobTypes)
    (hsuffix : ':' ∉ suffix.toList) (htags : shape.2 = some [suffix, "context-graph-sync"])
    (h : knowledgeSync numbers event type field sourceType suffix id = .ok jobs) :
    Fits shape event.type jobs := by
  unfold knowledgeSync at h
  split at h
  · cases h
    exact .nil ..
  refine .of_if h fun _ h => ?_
  obtain ⟨sync, hsync, h⟩ := Domain.bind_ok.1 h
  cases h
  have htag := tagOf_plainKey hids suffix hsuffix
  rcases contextGraphSync_ok hsync with rfl | ⟨payload, text, rfl⟩
  · refine .tagged [suffix] htype htags ?_ ?_ ?_
    · exact congrArg (fun tag => [tag]) htag
    · exact (nil_sublist _).cons_cons _
    · simp [Ordered, derivedJob]
  · refine .tagged [suffix, "context-graph-sync"] htype htags ?_ (.refl _) ?_
    · exact congrArg₂ (fun tag tag' => [tag, tag']) htag (tagOf_graphKey hids _ _)
    · simp [Ordered, derivedJob, htype']

variable {payload : List (String × Json ν)}

theorem Fits.single {type dedupeKey tag : String}
    (htype : event.type ∈ shape.1) (htags : shape.2 = some [tag])
    (htag : tagOf dedupeKey = tag.toList) :
    Fits shape event.type [derivedJob event type payload dedupeKey none] :=
  .tagged [tag] htype htags (congrArg (fun tag => [tag]) htag) (.refl _) ⟨nofun, trivial⟩

theorem Fits.alone {type dedupeKey : String}
    (htype : event.type ∈ shape.1) (htags : shape.2 = none) :
    Fits shape event.type [derivedJob event type payload dedupeKey none] where
  type _ := htype
  tags := by rw [htags]; exact Nat.le_refl 1
  ordered := ⟨nofun, trivial⟩

variable {types : List String}

theorem entityJobs_fits (hids : HasPlainIds event) (htype : type ∉ crmJobTypes)
    (hsuffix : ':' ∉ suffix.toList)
    (h : entityJobs numbers event types type field sourceType suffix = .ok jobs) :
    Fits (types, some [suffix, "context-graph-sync"]) event.type jobs := by
  unfold entityJobs at h
  refine .of_if h fun hcontains h => ?_
  obtain ⟨id, -, h⟩ := Domain.bind_ok.1 h
  exact knowledgeSync_fits hids (contains_iff_mem.1 hcontains) htype hsuffix rfl h

theorem graphJobs_fits (hids : HasPlainIds event)
    {field sourceType : String} (h : graphJobs numbers event types field sourceType = .ok jobs) :
    Fits (types, some ["context-graph-sync"]) event.type jobs := by
  unfold graphJobs at h
  refine .of_if h fun hcontains h => ?_
  obtain ⟨id, -, h⟩ := Domain.bind_ok.1 h
  rcases contextGraphSync_ok h with rfl | ⟨payload, text, rfl⟩
  · exact .nil ..
  · exact .single (contains_iff_mem.1 hcontains) rfl (tagOf_graphKey hids _ _)

theorem crmInquiryJobs_fits (h : crmInquiryJobs event = .ok jobs) :
    Fits (["crm.inquiry.captured"], none) event.type jobs := by
  unfold crmInquiryJobs at h
  refine .of_if h fun hevent h => ?_
  have htype := of_decide_eq_true (Bool.and_eq_true_iff.1 hevent).1
  split at h
  · refine .of_if h fun _ h => ?_
    cases h
    exact .alone (htype ▸ .head _) rfl
  · cases h
    exact .nil ..

theorem proposalApprovedJobs_fits (hids : HasPlainIds event)
    (h : proposalApprovedJobs numbers event = .ok jobs) :
    Fits (["proposal.approved"], some ["knowledge-sync", "context-graph-sync",
      "constitution-update-trigger", "constitution-synthesis", "governance-score"])
      event.type jobs := by
  unfold proposalApprovedJobs at h
  refine .of_if h fun htype h => ?_
  obtain ⟨subjectId, -, h⟩ := Domain.bind_ok.1 h
  split at h
  · cases h
    exact .nil ..
  refine .of_if h fun _ h => ?_
  obtain ⟨sync, hsync, h⟩ := Domain.bind_ok.1 h
  cases h
  have hknowledge := tagOf_plainKey hids "knowledge-sync" (by decide)
  have htrigger := tagOf_plainKey hids "constitution-update-trigger" (by decide)
  have hsynthesis := tagOf_plainKey hids "constitution-synthesis" (by decide)
  have hscore := tagOf_plainKey hids "governance-score" (by decide)
  rcases contextGraphSync_ok hsync with rfl | ⟨payload, text, rfl⟩
  · refine .tagged ["knowledge-sync", "constitution-update-trigger",
      "constitution-synthesis", "governance-score"] (htype ▸ .head _) rfl ?_ (by decide) ?_
    · simp only [map_cons, map_nil, cons_append, nil_append, derivedJob,
        hknowledge, htrigger, hsynthesis, hscore]
    · simp [Ordered, derivedJob]
  · refine .tagged _ (htype ▸ .head _) rfl ?_ (.refl _) ?_
    · simp only [map_cons, map_nil, cons_append, nil_append, derivedJob,
        hknowledge, htrigger, hsynthesis, hscore, tagOf_graphKey hids]
    · simp [Ordered, derivedJob, crmJobTypes]

theorem proposalOpenedJobs_fits (hids : HasPlainIds event)
    (h : proposalOpenedJobs numbers event = .ok jobs) :
    Fits (["proposal.opened"], some ["knowledge-sync", "context-graph-sync"]) event.type jobs := by
  unfold proposalOpenedJobs at h
  refine .of_if h fun htype h => ?_
  obtain ⟨proposalId, -, h⟩ := Domain.bind_ok.1 h
  obtain ⟨subjectId, -, h⟩ := Domain.bind_ok.1 h
  exact knowledgeSync_fits hids (htype ▸ .head _) (by decide) (by decide) rfl h

theorem financeUploadedJobs_fits (h : financeUploadedJobs event = .ok jobs) :
    Fits (["finance-report-import.uploaded"], none) event.type jobs := by
  unfold financeUploadedJobs at h
  refine .of_if h fun htype h => ?_
  split at h
  · refine .of_if h fun _ h => ?_
    cases h
    exact .alone (htype ▸ .head _) rfl
  · cases h
    exact .nil ..

theorem financeExtractedJobs_fits (h : financeExtractedJobs numbers event = .ok jobs) :
    Fits (["finance-report-import.extracted"], none) event.type jobs := by
  unfold financeExtractedJobs at h
  refine .of_if h fun htype h => ?_
  split at h
  · refine .of_if h fun _ h => ?_
    cases h
    exact .alone (htype ▸ .head _) rfl
  · cases h
    exact .nil ..

section
variable (hids : HasPlainIds event)
include hids

theorem meetingJobs_fits (h : meetingJobs numbers event = .ok jobs) :
    Fits (["meeting.created", "meeting.transcript-uploaded"], some ["meeting-summary",
      "meeting-insights-extract", "action-extraction", "meeting-summary-post",
      "meeting-knowledge-sync", "context-graph-sync"]) event.type jobs := by
  unfold meetingJobs at h
  refine .of_if h fun hevent h => ?_
  have htype : event.type ∈ ["meeting.created", "meeting.transcript-uploaded"] := by
    simpa using hevent
  obtain ⟨status, -, h⟩ := Domain.bind_ok.1 h
  obtain ⟨hasTranscript, -, h⟩ := Domain.bind_ok.1 h
  obtain ⟨meetingId, -, h⟩ := Domain.bind_ok.1 h
  split at h
  · cases h
    exact .nil ..
  split at h
  · -- a meeting without a transcript only syncs its knowledge
    have hfits : Fits (["meeting.created", "meeting.transcript-uploaded"],
        some ["meeting-knowledge-sync", "context-graph-sync"]) event.type jobs :=
      knowledgeSync_fits hids htype (by decide) (by decide) rfl h
    exact ⟨⟨hfits.type, hfits.tags.trans (by decide)⟩, hfits.ordered⟩
  refine .of_if h fun _ h => ?_
  obtain ⟨sync, hsync, h⟩ := Domain.bind_ok.1 h
  cases h
  have hsummary := tagOf_plainKey hids "meeting-summary" (by decide)
  have hinsights := tagOf_plainKey hids "meeting-insights-extract" (by decide)
  have hactions := tagOf_plainKey hids "action-extraction" (by decide)
  have hpost := tagOf_plainKey hids "meeting-summary-post" (by decide)
  have hknowledge := tagOf_plainKey hids "meeting-knowledge-sync" (by decide)
  rcases contextGraphSync_ok hsync with rfl | ⟨payload, text, rfl⟩
  · refine .tagged ["meeting-summary", "meeting-insights-extract", "action-extraction",
      "meeting-summary-post", "meeting-knowledge-sync"] htype rfl ?_ (by decide) ?_
    · simp only [map_cons, map_nil, append_nil, derivedJob, hsummary, hinsights,
        hactions, hpost, hknowledge]
    · simp [Ordered, derivedJob, crmJobTypes]
  · refine .tagged _ htype rfl ?_ (.refl _) ?_
    · simp only [map_cons, map_nil, cons_append, nil_append, derivedJob,
        hsummary, hinsights, hactions, hpost, hknowledge, tagOf_graphKey hids]
    · simp [Ordered, derivedJob, crmJobTypes]

theorem meetingContentJobs_fits (h : meetingContentJobs numbers event = .ok jobs) :
    Fits (["meeting.processed-content-updated"],
      some ["meeting-knowledge-sync", "context-graph-sync"]) event.type jobs := by
  unfold meetingContentJobs at h
  refine .of_if h fun htype h => ?_
  obtain ⟨meetingId, -, h⟩ := Domain.bind_ok.1 h
  obtain ⟨editedSummary, -, h⟩ := Domain.bind_ok.1 h
  split at h
  · cases h
    exact .nil ..
  · cases h
    exact .nil ..
  refine .of_if h fun _ h => ?_
  obtain ⟨sync, hsync, h⟩ := Domain.bind_ok.1 h
  cases h
  have hknowledge := tagOf_plainKey hids "meeting-knowledge-sync" (by decide)
  rcases contextGraphSync_ok hsync with rfl | ⟨payload, text, rfl⟩
  · exact .tagged ["meeting-knowledge-sync"] (htype ▸ .head _) rfl
      (congrArg (fun tag => [tag]) hknowledge) (by decide) ⟨nofun, trivial⟩
  · refine .tagged _ (htype ▸ .head _) rfl ?_ (.refl _) ⟨nofun, nofun, trivial⟩
    exact congrArg₂ (fun tag tag' => [tag, tag']) hknowledge (tagOf_graphKey hids _ _)

theorem brainSourceJobs_fits (h : brainSourceJobs numbers event = .ok jobs) :
    Fits (["brain-source.created"], some ["brain-absorb"]) event.type jobs := by
  unfold brainSourceJobs at h
  refine .of_if h fun htype h => ?_
  obtain ⟨sourceId, -, h⟩ := Domain.bind_ok.1 h
  split at h
  · cases h
    exact .nil ..
  split at h
  · cases h
    exact .single (htype ▸ .head _) rfl (tagOf_plainKey hids _ (by decide))
  · cases h
    exact .nil ..

theorem roleOnboardingJobs_fits (h : roleOnboardingJobs numbers event = .ok jobs) :
    Fits (["role.assigned"], some ["role-onboarding-intro"]) event.type jobs := by
  unfold roleOnboardingJobs at h
  refine .of_if h fun htype h => ?_
  obtain ⟨sessionId, -, h⟩ := Domain.bind_ok.1 h
  split at h
  · cases h
    exact .nil ..
  refine .of_if h fun _ h => ?_
  obtain ⟨text, -, h⟩ := Domain.bind_ok.1 h
  cases h
  refine .single (htype ▸ .head _) rfl ?_
  have hpre : ("role-onboarding-intro:" : String).toList =
      "role-onboarding-intro".toList ++ [':'] := rfl
  rw [tagOf_eventKey hids, String.toList_append, hpre, append_assoc]
  exact takeWhile_colon (by decide) _

theorem checkInJobs_fits (h : checkInJobs numbers event = .ok jobs) :
    Fits (["checkin.response_received"], some ["checkin-analysis"]) event.type jobs := by
  unfold checkInJobs at h
  refine .of_if h fun htype h => ?_
  obtain ⟨checkInId, -, h⟩ := Domain.bind_ok.1 h
  obtain ⟨memberId, -, h⟩ := Domain.bind_ok.1 h
  split at h
  · cases h
    exact .nil ..
  split at h
  · cases h
    exact .single (htype ▸ .head _) rfl (tagOf_plainKey hids _ (by decide))
  · cases h
    exact .nil ..

theorem triageJobs_fits (h : triageJobs numbers event = .ok jobs) :
    Fits (TRIAGE_EVENT_TYPES, some ["triage"]) event.type jobs := by
  unfold triageJobs at h
  refine .of_if h fun hevent h => ?_
  have htype := contains_iff_mem.1 (Bool.and_eq_true_iff.1 hevent).2
  obtain ⟨bucketStart, -, h⟩ := Domain.bind_ok.1 h
  cases h
  refine .single htype rfl ?_
  have htriage : ∀ (suffix : String) (rest : List Char),
      suffix.toList = "triage".toList ++ ':' :: rest →
        tagOf (workspaceText event ++ ":" ++ suffix) = "triage".toList := by
    intro suffix rest hsuffix
    refine (tagOf_append hids.workspaceId suffix).trans ?_
    rw [hsuffix]
    exact takeWhile_colon (by decide) rest
  split
  · exact htriage _ ("replay:".toList ++ event.id.toList) String.toList_append
  · exact htriage _ (dbText bucketStart).toList String.toList_append

theorem knowledgePulseJobs_fits (h : knowledgePulseJobs event = .ok jobs) :
    Fits (KNOWLEDGE_PULSE_EVENT_TYPES, some ["knowledge-sync-event"]) event.type jobs := by
  unfold knowledgePulseJobs at h
  refine .of_if h fun hevent h => ?_
  simp only [Bool.and_eq_true] at hevent
  cases h
  exact .single (contains_iff_mem.1 hevent.1.2) rfl (tagOf_plainKey hids _ (by decide))

theorem crmQualificationJobs_fits (h : crmQualificationJobs event = .ok jobs) :
    Fits (["crm.qualification.submitted"], some ["crm-email-extraction"]) event.type jobs := by
  unfold crmQualificationJobs at h
  refine .of_if h fun hevent h => ?_
  have htype := of_decide_eq_true (Bool.and_eq_true_iff.1 hevent).1
  split at h
  · refine .of_if h fun _ h => ?_
    cases h
    exact .single (htype ▸ .head _) rfl (tagOf_plainKey hids _ (by decide))
  · cases h
    exact .nil ..

theorem crmEnrichmentJobs_fits (h : crmEnrichmentJobs event = .ok jobs) :
    Fits (["crm.qualification.approved"], some ["crm-enrichment"]) event.type jobs := by
  unfold crmEnrichmentJobs at h
  refine .of_if h fun hevent h => ?_
  have htype := of_decide_eq_true (Bool.and_eq_true_iff.1 hevent).1
  split at h
  · cases h
    exact .single (htype ▸ .head _) rfl (tagOf_plainKey hids _ (by decide))
  · cases h
    exact .nil ..

end

theorem demoLeadJobs_fits (h : demoLeadJobs event = .ok jobs) :
    Fits (["demo-lead.captured"], none) event.type jobs := by
  unfold demoLeadJobs at h
  refine .of_if h fun hevent h => ?_
  have htype := of_decide_eq_true (Bool.and_eq_true_iff.1 hevent).1
  split at h
  · cases h
    exact .alone (htype ▸ .head _) rfl
  · cases h
    exact .nil ..

end

/-! ## All branches -/

theorem forall₂_of_mapM {α β ε : Type} {f : α → Except ε β} {l : List α} {results : List β}
    (h : l.mapM f = .ok results) : List.Forall₂ (fun a b => f a = .ok b) l results := by
  induction l generalizing results with
  | nil =>
    cases h
    exact .nil
  | cons a l ih =>
    rw [mapM_cons] at h
    obtain ⟨b, hb, h⟩ := Domain.bind_ok.1 h
    obtain ⟨rest, hrest, h⟩ := Domain.bind_ok.1 h
    cases h
    exact .cons hb (ih hrest)

section
variable {numbers event} {jobs : List (DerivedJob (Json ν))}

theorem forall₂_compose {α β γ : Type} {P : α → γ → Prop} {Q : β → γ → Prop} {as : List α}
    {bs : List β} {cs : List γ} (h : List.Forall₂ (fun a b => ∀ c, P a c → Q b c) as bs)
    (h' : List.Forall₂ P as cs) : List.Forall₂ Q bs cs := by
  induction h generalizing cs with
  | nil =>
    cases h'
    exact .nil
  | cons hab _ ih =>
    cases h' with
    | cons hac hrest => exact .cons (hab _ hac) (ih hrest)

theorem branches_fit (hids : HasPlainIds event) :
    List.Forall₂ (fun branch shape => ∀ jobs, branch event = .ok jobs → Fits shape event.type jobs)
      (branches numbers) shapes :=
  .cons (fun _ => crmInquiryJobs_fits) <|
  .cons (fun _ => proposalApprovedJobs_fits hids) <|
  .cons (fun _ => proposalOpenedJobs_fits hids) <|
  .cons (fun _ => financeUploadedJobs_fits) <|
  .cons (fun _ => financeExtractedJobs_fits) <|
  .cons (fun _ => meetingJobs_fits hids) <|
  .cons (fun _ => meetingContentJobs_fits hids) <|
  .cons (fun _ => brainSourceJobs_fits hids) <|
  .cons (fun _ => entityJobs_fits hids (by decide) (by decide)) <|
  .cons (fun _ => entityJobs_fits hids (by decide) (by decide)) <|
  .cons (fun _ => entityJobs_fits hids (by decide) (by decide)) <|
  .cons (fun _ => entityJobs_fits hids (by decide) (by decide)) <|
  .cons (fun _ => entityJobs_fits hids (by decide) (by decide)) <|
  .cons (fun _ => entityJobs_fits hids (by decide) (by decide)) <|
  .cons (fun _ => roleOnboardingJobs_fits hids) <|
  .cons (fun _ => graphJobs_fits hids) <|
  .cons (fun _ => graphJobs_fits hids) <|
  .cons (fun _ => graphJobs_fits hids) <|
  .cons (fun _ => checkInJobs_fits hids) <|
  .cons (fun _ => triageJobs_fits hids) <|
  .cons (fun _ => knowledgePulseJobs_fits hids) <|
  .cons (fun _ => crmQualificationJobs_fits hids) <|
  .cons (fun _ => crmEnrichmentJobs_fits hids) <|
  .cons (fun _ => demoLeadJobs_fits) .nil

theorem HasShape.disjoint {π : Type} {shape shape' : Shape} {type : String}
    {jobs jobs' : List (DerivedJob π)} (h : HasShape shape type jobs)
    (h' : HasShape shape' type jobs') (hapart : shape.apart shape') :
    (jobs.map DerivedJob.dedupeKey).Disjoint (jobs'.map DerivedJob.dedupeKey) := by
  intro key hkey hkey'
  obtain ⟨job, hjob, rfl⟩ := mem_map.1 hkey
  obtain ⟨job', hjob', hsame⟩ := mem_map.1 hkey'
  rw [Shape.apart, Bool.or_eq_true] at hapart
  rcases hapart with htypes | htags
  · have hnot := all_eq_true.1 htypes type (h.type (ne_nil_of_mem hjob))
    have hmem := h'.type (ne_nil_of_mem hjob')
    simp [hmem] at hnot
  · have hjobs := h.tags
    have hjobs' := h'.tags
    split at htags
    · next tags tags' htag htag' =>
      rw [htag] at hjobs
      rw [htag'] at hjobs'
      obtain ⟨tag, hmem, htag⟩ := mem_map.1 (hjobs.subset (mem_map_of_mem hjob))
      obtain ⟨tag', hmem', htag'⟩ := mem_map.1 (hjobs'.subset (mem_map_of_mem hjob'))
      have heq : tag = tag' := by
        rw [← String.toList_inj, htag, htag', hsame]
      have hnot := all_eq_true.1 htags tag hmem
      simp [heq, hmem'] at hnot
    · cases htags

/-- The keys of one branch are distinct. -/
theorem HasShape.nodup {π : Type} {shape : Shape} {type : String} {jobs : List (DerivedJob π)}
    (h : HasShape shape type jobs) (htags : ∀ tags, shape.2 = some tags → tags.Nodup) :
    (jobs.map DerivedJob.dedupeKey).Nodup := by
  have hjobs := h.tags
  split at hjobs
  · next tags htag =>
    have hnodup : (jobs.map fun job => tagOf job.dedupeKey).Nodup :=
      (htags tags htag).map (fun a b => String.toList_inj.1) |>.sublist hjobs
    rw [← Function.comp_def tagOf, ← map_map] at hnodup
    exact hnodup.of_map tagOf
  · match jobs, hjobs with
    | [], _ => exact .nil
    | [job], _ => exact nodup_singleton _

theorem shapes_nodup : ∀ shape ∈ shapes ++ [rebuildShape],
    ∀ tags, shape.2 = some tags → tags.Nodup := by
  have h : (shapes ++ [rebuildShape]).all fun shape => shape.2.all fun tags =>
      decide tags.Nodup := by
    decide +kernel
  intro shape hshape tags htags
  have hall := all_eq_true.1 h shape hshape
  simpa [htags] using hall

theorem exists_of_forall₂ {α β : Type} {R : α → β → Prop} {l : List α} {l' : List β}
    (h : List.Forall₂ R l l') {b : β} (hb : b ∈ l') : ∃ a ∈ l, R a b := by
  induction h with
  | nil => cases hb
  | cons hab _ ih =>
    cases hb with
    | head => exact ⟨_, .head _, hab⟩
    | tail _ hb =>
      obtain ⟨a, ha, hab⟩ := ih hb
      exact ⟨a, .tail _ ha, hab⟩

/-- Jobs of branches that are apart from each other have distinct keys. -/
theorem nodup_flatten {π : Type} {type : String} {shapes : List Shape}
    {lists : List (List (DerivedJob π))}
    (hshapes : List.Forall₂ (fun shape jobs => HasShape shape type jobs) shapes lists)
    (hapart : shapes.Pairwise fun a b => a.apart b)
    (htags : ∀ shape ∈ shapes, ∀ tags, shape.2 = some tags → tags.Nodup) :
    (lists.flatten.map DerivedJob.dedupeKey).Nodup := by
  induction hshapes with
  | nil => exact .nil
  | cons hshape hrest ih =>
    obtain ⟨hfirst, hpairs⟩ := pairwise_cons.1 hapart
    rw [flatten_cons, map_append]
    refine nodup_append'.2 ⟨hshape.nodup (htags _ (.head _)),
      ih hpairs fun shape hmem => htags shape (.tail _ hmem), ?_⟩
    intro key hkey hkey'
    obtain ⟨job, hjob, rfl⟩ := mem_map.1 hkey'
    obtain ⟨list, hlist, hjob⟩ := mem_flatten.1 hjob
    obtain ⟨shape', hmem, hshape'⟩ := exists_of_forall₂ hrest hlist
    exact hshape.disjoint hshape' (hfirst shape' hmem) hkey (mem_map_of_mem hjob)

theorem ordered_flatten {π : Type} {known : List String} {lists : List (List (DerivedJob π))}
    (h : ∀ jobs ∈ lists, Ordered [] jobs) : Ordered known lists.flatten := by
  induction lists with
  | nil => trivial
  | cons jobs lists ih =>
    have hfirst := (h jobs (.head _)).mono (nil_subset known)
    exact hfirst.append (ih fun jobs' hjobs' => h jobs' (.tail _ hjobs'))

theorem lineageRebuildJobs_shape (hids : HasPlainIds event)
    (h : lineageRebuildJobs event = .ok jobs) : HasShape rebuildShape event.type jobs := by
  unfold lineageRebuildJobs at h
  split at h
  · next hevent =>
    cases h
    refine ⟨fun _ => contains_iff_mem.1 (Bool.and_eq_true_iff.1 hevent).2, ?_⟩
    show List.Sublist [_] [_]
    rw [← tagOf_plainKey hids "source-lineage-rebuild" (by decide)]
    exact .refl _
  · cases h
    exact (Fits.nil rebuildShape event.type).toHasShape

/-- A source that the rebuild waits for is absorbed. -/
theorem brainSourceJobs_of_sourceId (htype : event.type = "brain-source.created")
    (hworkspace : hasWorkspace event = true)
    (hsource : (readPayloadString event.payload "sourceId").isSome)
    (h : brainSourceJobs numbers event = .ok jobs) :
    eventKey event "brain-absorb" ∈ dependable jobs := by
  unfold readPayloadString at hsource
  split at hsource
  · next members hpayload =>
    split at hsource
    · next value hvalue =>
      have htruthy : isTruthy numbers (some (.string value)) = true := by
        rw [isTruthy, decide_eq_true_eq]
        rintro rfl
        cases hsource
      rw [brainSourceJobs, if_pos htype, hpayload, readField, hvalue] at h
      obtain ⟨sourceId, hread, h⟩ := Domain.bind_ok.1 h
      cases hread
      dsimp only at h
      rw [htruthy, hworkspace, Bool.and_self, if_pos rfl] at h
      cases h
      simp [dependable, derivedJob, crmJobTypes]
    · cases hsource
  · cases hsource

theorem deriveJobsForEvent_cases (h : deriveJobsForEvent numbers event = .ok jobs) :
    ∃ lists rebuild, List.Forall₂ (fun branch jobs => branch event = .ok jobs)
        (branches numbers) lists ∧
      lineageRebuildJobs event = .ok rebuild ∧ jobs = (lists ++ [rebuild]).flatten := by
  obtain ⟨lists, hlists, h⟩ := Domain.bind_ok.1 h
  obtain ⟨rebuild, hrebuild, h⟩ := Domain.bind_ok.1 h
  cases h
  exact ⟨lists, rebuild, forall₂_of_mapM hlists, hrebuild, by simp⟩

theorem lineageRebuildJobs_ordered {lists : List (List (DerivedJob (Json ν)))}
    (hlists : List.Forall₂ (fun branch jobs => branch event = .ok jobs) (branches numbers) lists)
    (h : lineageRebuildJobs event = .ok jobs) : Ordered (dependable lists.flatten) jobs := by
  unfold lineageRebuildJobs at h
  split at h
  · next hevent =>
    cases h
    refine ⟨fun key hkey => ?_, trivial⟩
    simp only [derivedJob] at hkey
    split at hkey
    · next hsource =>
      cases hkey
      simp only [Bool.and_eq_true, decide_eq_true_eq] at hevent hsource
      obtain ⟨absorb, habsorb, hjobs⟩ := exists_of_forall₂ hlists.flip
        (show brainSourceJobs numbers ∈ branches numbers by simp [branches])
      have hkey := brainSourceJobs_of_sourceId hsource.1 hevent.1 hsource.2 hjobs
      obtain ⟨job, hjob, hkey⟩ := mem_map.1 hkey
      obtain ⟨hjob, htype⟩ := mem_filter.1 hjob
      refine ⟨eventKey_ne_empty _, mem_map.2 ⟨job, mem_filter.2 ⟨?_, htype⟩, hkey⟩⟩
      exact mem_flatten.2 ⟨absorb, habsorb, hjob⟩
    · cases hkey
  · cases h
    trivial

/-- The keys of an event are distinct, and its jobs are in the order of their dependencies. -/
theorem nodup_and_ordered (hids : HasPlainIds event)
    (h : deriveJobsForEvent numbers event = .ok jobs) :
    (jobs.map DerivedJob.dedupeKey).Nodup ∧ Ordered [] jobs := by
  obtain ⟨lists, rebuild, hlists, hrebuild, rfl⟩ := deriveJobsForEvent_cases h
  have hfit := forall₂_compose (branches_fit hids) hlists
  constructor
  · have hshapes : List.Forall₂ (fun shape jobs => HasShape shape event.type jobs)
        (shapes ++ [rebuildShape]) (lists ++ [rebuild]) :=
      rel_append (hfit.imp fun _ _ h => h.toHasShape)
        (.cons (lineageRebuildJobs_shape hids hrebuild) .nil)
    exact nodup_flatten hshapes shapes_apart shapes_nodup
  · rw [flatten_append, flatten_singleton]
    refine Ordered.append_dependable (ordered_flatten fun jobs hjobs => ?_) ?_
    · obtain ⟨shape, -, hfits⟩ := exists_of_forall₂ hfit hjobs
      exact hfits.ordered
    · rw [append_nil]
      exact lineageRebuildJobs_ordered hlists hrebuild

end

/-! ## The loop of the dispatch -/

section
variable {π ρ : Type} {reads : DispatchReads π ρ} {event : ClaimedEvent π}
  {table table' : JobTable π} {job : DerivedJob π} {jobs : List (DerivedJob π)}

/-- `dependsOnJobId` of the loop (`outbox.ts:1223`). -/
def resolveDependency (table : JobTable π) (job : DerivedJob π) : Option String :=
  (job.dependsOnDedupeKey.filter (· ≠ "")).bind fun dedupeKey =>
    (table.findByDedupeKey dedupeKey).map WorkflowJob.id

def DependenciesPrecede (table : JobTable π) : Prop :=
  ∀ before row after, table.rows = before ++ row :: after → ∀ id, row.dependsOnJobId = some id →
    id ∈ before.map WorkflowJob.id

/-- `a` waits for `b`. -/
def Awaits (table : JobTable π) (a b : String) : Prop :=
  ∃ row ∈ table.rows, row.id = a ∧ row.dependsOnJobId = some b

/-- One job adds a row with its key and its dependency, or nothing; afterwards there is a row with
its key, unless that is left to the lineage of a CRM job. -/
theorem enqueueDerivedJob_rows (h : enqueueDerivedJob reads event table job = .ok table') :
    (table'.rows = table.rows ∨ ∃ row, table'.rows = table.rows ++ [row] ∧
      row.dependsOnJobId = resolveDependency table job) ∧
    (job.type ∉ crmJobTypes → ∃ row ∈ table'.rows, row.dedupeKey = some job.dedupeKey) := by
  have henqueue : ∀ {id now params}, enqueueJob table id now params = .ok table' →
      (table'.rows = table.rows ∨ ∃ row, table'.rows = table.rows ++ [row] ∧
        row.dependsOnJobId = params.dependsOnJobId) ∧
      ∃ row ∈ table'.rows, row.dedupeKey = some params.dedupeKey := by
    intro id now params h
    unfold enqueueJob at h
    split at h
    · next hkey =>
      cases h
      exact ⟨.inl rfl, mem_filterMap.1 hkey⟩
    split at h
    · cases h
    · cases h
      refine ⟨.inr ⟨_, rfl, rfl⟩, _, mem_append_right _ (.head _), rfl⟩
  unfold enqueueDerivedJob enqueueDispatchJob at h
  dsimp only at h
  split at h
  · next hcrm =>
    obtain ⟨payload, -, h⟩ := Domain.bind_ok.1 h
    split at h
    · cases h
      exact ⟨.inl rfl, fun hnot => absurd hcrm hnot⟩
    · exact ⟨(henqueue h).1, fun hnot => absurd hcrm hnot⟩
  · exact ⟨(henqueue h).1, fun _ => (henqueue h).2⟩

theorem resolveDependency_mem {id : String} (h : resolveDependency table job = some id) :
    id ∈ table.rows.map WorkflowJob.id := by
  obtain ⟨key, -, h⟩ := Option.bind_eq_some_iff.1 h
  obtain ⟨row, hrow, rfl⟩ := Option.map_eq_some_iff.1 h
  exact mem_map_of_mem (mem_of_find?_eq_some hrow)

theorem DependenciesPrecede.enqueueDerivedJob (hprecede : DependenciesPrecede table)
    (h : enqueueDerivedJob reads event table job = .ok table') : DependenciesPrecede table' := by
  obtain ⟨hsame | ⟨new, hnew, hdepends⟩, -⟩ := enqueueDerivedJob_rows h
  · exact fun before row after hrows => hprecede before row after (hsame ▸ hrows)
  · intro before row after hrows id hid
    rw [hnew] at hrows
    rcases eq_nil_or_concat after with rfl | ⟨after, last, rfl⟩
    · obtain ⟨rfl, hlast⟩ := append_inj' hrows rfl
      obtain rfl := singleton_inj.1 hlast
      exact resolveDependency_mem (hdepends ▸ hid)
    · have hsplit : table.rows = before ++ row :: after := by
        have hrows : table.rows ++ [new] = (before ++ row :: after) ++ [last] := by
          simpa using hrows
        exact (append_inj' hrows rfl).1
      exact hprecede before row after hsplit id hid

/-- No job waits for itself, however indirectly. -/
theorem DependenciesPrecede.acyclic (h : DependenciesPrecede table) (id : String) :
    ¬ Relation.TransGen (Awaits table) id id := by
  have hlt : ∀ a b, Awaits table a b →
      (table.rows.map WorkflowJob.id).idxOf b < (table.rows.map WorkflowJob.id).idxOf a := by
    rintro a b ⟨row, hrow, rfl, hdepends⟩
    obtain ⟨before, after, hrows⟩ := append_of_mem hrow
    have hmem := h before row after hrows b hdepends
    have hnodup := table.nodup
    rw [hrows, map_append, map_cons] at hnodup ⊢
    have hfresh : row.id ∉ before.map WorkflowJob.id := fun hrow =>
      disjoint_of_nodup_append hnodup hrow (.head _)
    rw [idxOf_append_of_mem hmem, idxOf_append_of_notMem hfresh]
    exact (idxOf_lt_length_of_mem hmem).trans_le (Nat.le_add_right _ _)
  have htrans : ∀ a b, Relation.TransGen (Awaits table) a b →
      (table.rows.map WorkflowJob.id).idxOf b < (table.rows.map WorkflowJob.id).idxOf a := by
    intro a b hab
    induction hab with
    | single hab => exact hlt _ _ hab
    | tail _ hbc ih => exact (hlt _ _ hbc).trans ih
  exact fun hcycle => lt_irrefl _ (htrans id id hcycle)

theorem resolveDependency_isSome {known : List String}
    (hdepends : ∀ key, job.dependsOnDedupeKey = some key → key ≠ "" ∧ key ∈ known)
    (hknown : ∀ key ∈ known, ∃ row ∈ table.rows, row.dedupeKey = some key)
    (h : job.dependsOnDedupeKey.isSome) : (resolveDependency table job).isSome := by
  obtain ⟨key, hkey⟩ := Option.isSome_iff_exists.1 h
  obtain ⟨hne, hmem⟩ := hdepends key hkey
  obtain ⟨row, hrow, hrowKey⟩ := hknown key hmem
  have hfound : (table.findByDedupeKey key).isSome :=
    find?_isSome.2 ⟨row, hrow, decide_eq_true hrowKey⟩
  obtain ⟨found, hfound⟩ := Option.isSome_iff_exists.1 hfound
  simp [resolveDependency, hkey, Option.filter, hne, hfound]

/-- In the loop over ordered jobs every dependency is found. -/
theorem Ordered.resolves {known : List String} {before after : List (DerivedJob π)}
    (hordered : Ordered known (before ++ job :: after))
    (hknown : ∀ key ∈ known, ∃ row ∈ table.rows, row.dedupeKey = some key)
    (h : (before ++ job :: after).foldlM (enqueueDerivedJob reads event) table = .ok table')
    (hdepends : job.dependsOnDedupeKey.isSome) :
    ∃ reached, before.foldlM (enqueueDerivedJob reads event) table = .ok reached ∧
      (resolveDependency reached job).isSome := by
  induction before generalizing known table with
  | nil => exact ⟨table, rfl, resolveDependency_isSome hordered.1 hknown hdepends⟩
  | cons first before ih =>
    rw [cons_append, foldlM_cons] at h
    obtain ⟨next, hnext, h⟩ := Domain.bind_ok.1 h
    obtain ⟨hrows, hkey⟩ := enqueueDerivedJob_rows hnext
    have hkept : ∀ row ∈ table.rows, row ∈ next.rows := by
      rcases hrows with hsame | ⟨new, hnew, -⟩
      · exact fun row hrow => hsame ▸ hrow
      · exact fun row hrow => hnew ▸ mem_append_left _ hrow
    have hknown' : ∀ key ∈ known, ∃ row ∈ next.rows, row.dedupeKey = some key := by
      intro key hmem
      obtain ⟨row, hrow, hrowKey⟩ := hknown key hmem
      exact ⟨row, hkept row hrow, hrowKey⟩
    have hordered' := hordered.2
    obtain ⟨reached, hreached, hfound⟩ := ih hordered' (fun key hmem => by
      split at hmem
      · exact hknown' key hmem
      · next hcrm =>
        rcases mem_cons.1 hmem with rfl | hmem
        · exact hkey hcrm
        · exact hknown' key hmem) h
    refine ⟨reached, ?_, hfound⟩
    rw [foldlM_cons, hnext]
    exact hreached

theorem DependenciesPrecede.foldlM (hprecede : DependenciesPrecede table)
    (h : jobs.foldlM (Workflows.enqueueDerivedJob reads event) table = .ok table') :
    DependenciesPrecede table' := by
  induction jobs generalizing table with
  | nil =>
    cases h
    exact hprecede
  | cons job jobs ih =>
    rw [foldlM_cons] at h
    obtain ⟨next, hnext, h⟩ := Domain.bind_ok.1 h
    exact ih (hprecede.enqueueDerivedJob hnext) h

end

/-- **Derivation.** Of the jobs that `deriveJobsForEvent` returns, the dedupe keys are distinct, and
a job depends only on a key of an earlier one. So the loop of the dispatch finds the row of every
dependency, whatever the table holds, and where the jobs of the table depend on older rows only
they still do afterwards: no job waits for itself. -/
theorem deriveJobsForEvent_ordered (numbers : JsonNumbers ν) (event : ClaimedEvent (Json ν))
    (hids : HasPlainIds event) (jobs : List (DerivedJob (Json ν)))
    (h : deriveJobsForEvent numbers event = .ok jobs) :
    (jobs.map DerivedJob.dedupeKey).Nodup ∧
      (∀ before job after, jobs = before ++ job :: after → ∀ key,
        job.dependsOnDedupeKey = some key → key ∈ before.map DerivedJob.dedupeKey) ∧
      ∀ {ρ : Type} (reads : DispatchReads (Json ν) ρ) (table table' : JobTable (Json ν)),
        jobs.foldlM (enqueueDerivedJob reads event) table = .ok table' →
          (∀ before job after, jobs = before ++ job :: after → job.dependsOnDedupeKey.isSome →
            ∃ reached, before.foldlM (enqueueDerivedJob reads event) table = .ok reached ∧
              (resolveDependency reached job).isSome) ∧
          (DependenciesPrecede table → DependenciesPrecede table' ∧
            ∀ id, ¬ Relation.TransGen (Awaits table') id id) := by
  obtain ⟨hnodup, hordered⟩ := nodup_and_ordered hids h
  refine ⟨hnodup, ?_, fun reads table table' hrun => ⟨?_, fun hprecede => ?_⟩⟩
  · rintro before job after rfl key hkey
    exact (hordered.earlier hkey).resolve_right not_mem_nil
  · rintro before job after rfl hdepends
    exact hordered.resolves nofun hrun hdepends
  · exact ⟨hprecede.foldlM hrun, (hprecede.foldlM hrun).acyclic⟩

/-- A source that is to be absorbed. -/
def sourceCreated : ClaimedEvent (Json Unit) where
  id := "e"
  mcpOrigin := none
  workspaceId := some "w"
  type := "brain-source.created"
  aggregateType := none
  aggregateId := none
  payload := .object [(lit "sourceId", .string (lit "s"))]
  attempts := 1
  createdAt := 0

def unitNumbers : JsonNumbers Unit := ⟨fun _ => false, fun _ => false, fun _ => lit "1"⟩

/-- The rebuild of the source's lineage waits for the source. -/
theorem sourceCreated_ordered : ∃ jobs,
    deriveJobsForEvent unitNumbers sourceCreated = .ok jobs ∧
      jobs.map DerivedJob.dependsOnDedupeKey = [none, some "e:brain-absorb"] ∧
      (jobs.map DerivedJob.dedupeKey).Nodup :=
  ⟨_, rfl, rfl, (deriveJobsForEvent_ordered unitNumbers sourceCreated ⟨by decide, by decide⟩ _
    rfl).1⟩

end Corgtex.Workflows
