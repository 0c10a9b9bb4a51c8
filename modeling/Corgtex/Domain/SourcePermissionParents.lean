import Corgtex.Domain.LineageFingerprint
import Corgtex.Domain.PermissionBatchRead

/-!
# The permission parents of an artifact

`source-permission-parents.ts`: `artifactPermissionParents` reads from the row
of an artifact those whose permissions govern it. `loadArtifactPermissionMetadata` loads the row,
from a batch or from the database, outside a source commit plan, as a batch asks for. A batch gives
the columns of `METADATA_FIELDS` only, so that it loses the parents that a JSON column or another
table binds, and no others (`batched_parents_iff`).
-/

namespace Corgtex.Domain.SourceLineage

open JsString List

/-- `LineageInput` (`source-lineage.ts:104`). -/
structure LineageInput where
  kind : JsString
  id : JsString
deriving DecidableEq

/-- A `Record<string, unknown>`: what it does not have is `undefined`. -/
abbrev Record := String → FieldValue

namespace FieldValue

/-- `value[name]`, of a value that is no object `undefined`. -/
def get (name : JsString) : FieldValue → FieldValue
  | object members => (members.lookup name).getD undefined
  | _ => undefined

/-- `value === text` -/
def isText (text : String) : FieldValue → Bool
  | string value => value = lit text
  | _ => false

/-- `value === 1` -/
def isOne : FieldValue → Bool
  | number value => value.text = lit "1"
  | _ => false

/-- `typeof value === "string" && value` -/
def isId : FieldValue → Bool
  | string value => value ≠ []
  | _ => false

end FieldValue

/-! ## The parents -/

/-- `add` -/
def add (parentKind : String) : FieldValue → List LineageInput
  | .string id => if id = [] then [] else [⟨lit parentKind, id⟩]
  | _ => []

/-- What the control of an outcome binds. The kind of a target is a string in it. -/
def controlBindings (row : Record) : List (String × FieldValue) :=
  let control (name : String) := (row "controlJson").get (lit name)
  let operation := row "operation"
  if (control "version").isOne then
    if operation.isText "LEGACY_RECOVERY_PUBLICATION" then
      (["Action", "ConversationSession", "ConversationTurn", "Document", "BrainSource", "Role",
        "Circle"].filter fun kind => (control "targetKind").isText kind).map fun kind =>
          (kind, control "targetId")
    else if operation.isText "BRAIN_SOURCE_REMOVAL_COMPLETED" then
      [("BrainSource", control "sourceId"), ("Document", control "documentId"),
        ("BrainSource", control "pendingSourceId")]
    else if operation.isText "ACTION_COMPLETED" then
      [("Action", control "actionId"), ("McpToolInput", control "inputId"),
        ("Member", control "assigneeMemberId")]
    else if operation.isText "ACTION_COMPLETION_PUBLIC_NOTE" then
      [("ArtifactInputSnapshot", control "oldActionSnapshotId")]
    else []
  else []

/-- The parents that each statement of `artifactPermissionParents` adds. -/
def permissionEdges (kind : JsString) (row : Record) : List (List LineageInput) :=
  let field (parentKind name : String) := add parentKind (row name)
  let only (kinds : List String) (parents : List LineageInput) :=
    if kinds.any (lit · = kind) then parents else []
  -- a parent whose kind stands in a column, as a key of the table
  let keyed (table : List (String × String)) (typeName name : String) :=
    match table.find? fun entry => (row typeName).isText entry.1 with
    | some entry => field entry.2 name
    | none => []
  let mode (name : String) (parents : List LineageInput) :=
    if (row "mode").isText name then parents else []
  let metadata (sourceTypes : List String) (parentKind name : String) :=
    if sourceTypes.any fun sourceType => (row "sourceType").isText sourceType then
      add parentKind ((row "metadata").get (lit name))
    else []
  [only ["GoalUpdate", "KeyResult", "GoalLink"] (field "Goal" "goalId"),
    only ["ActionChecklistItem"] (field "Action" "actionId"),
    only ["TensionUpvote"] (field "Tension" "tensionId"),
    only ["BrainDiscussionThread"] (field "BrainArticle" "articleId"),
    only ["BrainDiscussionComment"] (field "BrainDiscussionThread" "threadId"),
    only ["BrainArticleVersion"] (field "BrainArticle" "articleId"),
    only ["ContextMapLayoutItem"] (field "ContextMapView" "mapViewId"),
    only ["ConstitutionSourceReference"] (field "Constitution" "constitutionId"),
    only ["PolicyCorpus"] (field "Proposal" "proposalId"),
    only ["BuildArtifactAsset"] (field "BuildArtifact" "artifactId"),
    only ["ExecutionResult"] (field "ExecutionRequest" "executionRequestId"),
    only ["WorkspaceToolLinkCredential"] (field "WorkspaceToolLink" "id"),
    only ["ConversationOperationOutcome"]
      ((controlBindings row).flatMap fun binding => add binding.1 binding.2),
    only ["MeetingInsight", "MeetingFollowUpReview"] (field "Meeting" "meetingId"),
    only ["NativeTranscriptInput"]
      (mode "COMPANY_MEMBER_UPLOAD" (field "Meeting" "companyMeetingId")),
    only ["NativeTranscriptInput"] (mode "PROVIDER_IMPORT" (field "Meeting" "providerMeetingId")),
    only ["NativeTranscriptInput"] (mode "RECORDER" (field "Meeting" "recorderMeetingId")),
    only ["NativeTranscriptInput"]
      (mode "AUDIO_UPLOAD" (field "MeetingAudioAsset" "meetingAudioAssetId")),
    only ["CircleAgentAssignment"]
      (field "AgentIdentity" "agentIdentityId" ++ field "Circle" "circleId"),
    only ["RoleAssignment"] (field "Member" "memberId" ++ field "Role" "roleId"),
    only ["Role"] (field "Circle" "circleId"),
    only ["CommunicationExternalUser"] (field "Member" "memberId"),
    only ["CommunicationEntityLink"] (field "CommunicationMessage" "messageId"),
    only ["ConversationPromptInput"] (field "ConversationSession" "sessionId"),
    only ["ConversationPendingOperation", "ConversationTurn"]
      (field "ConversationSession" "conversationId"),
    only ["ApprovalDecision", "Objection"] (field "ApprovalFlow" "flowId"),
    only ["ApprovalFlow"] (keyed [("PROPOSAL", "Proposal"), ("ACTION", "Action"),
      ("TENSION", "Tension")] "subjectType" "subjectId"),
    only ["OAuthProviderFetchInput"] (field "Member" "ownerMemberId" ++ field "User" "localUserId"),
    only ["SqlNativeRunInput"] (field "ExternalDataSource" "sourceId"),
    only ["KnowledgeChunk"] (metadata ["EXTERNAL_DATABASE"] "SqlNativeRunInput" "nativeInputId"),
    only ["KnowledgeChunk"] (keyed [("BRAIN_ARTICLE", "BrainArticle"), ("DOCUMENT", "Document"),
      ("MEETING", "Meeting"), ("PROPOSAL", "Proposal"),
      ("EXTERNAL_CONTENT", "ExternalContentSource"), ("TENSION", "Tension"), ("ACTION", "Action"),
      ("CIRCLE", "Circle"), ("ROLE", "Role"), ("SLACK", "CommunicationMessage")] "sourceType"
      "sourceId"),
    only ["DeliberationEntry"] (keyed [("PROPOSAL", "Proposal"), ("TENSION", "Tension"),
      ("MEETING", "Meeting"), ("BRAIN_ARTICLE", "BrainArticle"), ("ACTION", "Action")] "parentType"
      "parentId"),
    only ["BrainSource"] (metadata ["DOC", "FILE_UPLOAD"] "Document" "documentId"),
    only ["CrmQualification", "CrmQualificationEmailInput", "CrmQualificationFormInput"]
      (field "DemoLeadIntakeInput" "demoLeadId"),
    only ["CrmQualificationFormInput"] (field "CrmQualification" "qualificationId"),
    if (lit "Crm").isPrefixOf kind then
      if kind = lit "CrmDealStageTransition" then field "CrmDeal" "dealId"
      else if kind = lit "CrmConversationMessage" then field "CrmConversation" "conversationId"
      else if kind ≠ lit "CrmAccount" then field "CrmAccount" "accountId" ++
        field "CrmContact" "contactId" ++ field "CrmDeal" "dealId" ++
          field "CrmActivity" "activityId"
      else []
    else [],
    only ["FinanceReportUploadInput"] (field "FinanceImportBatch" "batchId" ++
      field "Document" "documentId" ++ field "BrainSource" "brainSourceId"),
    only ["FinanceReport"] (field "FinanceImportBatch" "sourceBatchId"),
    only ["FinanceReportFact", "FinanceReportFactRevision"] (field "FinanceReport" "reportId" ++
      field "FinanceImportBatch" "sourceBatchId" ++
        field "FinanceImportCandidate" "sourceCandidateId"),
    only ["FinanceImportApplication"] (field "FinanceImportBatch" "batchId" ++
      field "FinanceImportCandidate" "candidateId" ++
        field "FinanceReportFactRevision" "beforeRevisionId" ++
          field "FinanceReportFactRevision" "afterRevisionId"),
    only ["FinanceImportCandidate"] (field "FinanceImportBatch" "batchId")]

/-- `artifactPermissionParents` (line 11). -/
def artifactPermissionParents (kind : JsString) (row : Record) : List LineageInput :=
  (permissionEdges kind row).flatten

/-! ## The row -/

def METADATA_FIELDS : List String :=
  ["id", "workspaceId", "crmWorkspaceId", "ownerMemberId", "memberId", "authorMemberId",
    "recipientMemberId", "userId", "authorUserId", "createdByUserId", "submittedByUserId",
    "requesterUserId", "requestedByUserId", "localUserId", "selectedByUserId", "uploadedByUserId",
    "circleId", "parentCircleId", "targetCircleId", "agentIdentityId", "credentialId",
    "agentCredentialId", "accessDomain", "installationId", "externalChannelId",
    "communicationMessageId", "messageId", "connectionId", "externalContentSourceId",
    "variantOfArticleId", "targetKind", "targetId", "audienceType", "goalId", "actionId",
    "tensionId", "articleId", "threadId", "mapViewId", "constitutionId", "proposalId", "artifactId",
    "executionRequestId", "meetingId", "mode", "meetingAudioAssetId", "connectionId",
    "sourceRecordId", "recordingId", "transportArchiveId", "recorderAttemptId", "recorderMeetingId",
    "recorderBindingId", "recorderProvider", "sessionId", "conversationId", "flowId", "subjectType",
    "subjectId", "sourceType", "sourceId", "parentType", "parentId", "demoLeadId",
    "qualificationId", "accountId", "contactId", "dealId", "activityId", "targetWorkspaceId",
    "batchId", "documentId", "brainSourceId", "sourceBatchId", "reportId", "sourceCandidateId",
    "candidateId", "targetFactId", "factId", "appliedByUserId", "approvedByUserId", "kind",
    "beforeRevisionId", "afterRevisionId", "roleId", "status", "informationCategory",
    "isRestricted", "allowedRoleIds", "allowedCircleIds", "isPrivate", "visibility",
    "classification", "publicRevokedAt", "archivedAt", "isActive"]

/-- `MetadataReadBatch`; its rows are keyed by `JSON.stringify([kind, id])`. -/
structure MetadataReadBatch where
  db : EpochClient
  workspaceId : JsString
  active : Bool
  rows : LineageInput → Option Record

/-- What is read of the database, in a workspace each. -/
structure PermissionTables where
  /-- The row of an artifact that `where` finds (line 179). -/
  findFirst : JsString → LineageInput → Option Record
  /-- `loadExternalMcpConnectionSetInput` -/
  loadExternalMcpConnectionSetInput : JsString → JsString → Option Record
  /-- The meeting of the `nativeTranscriptPublication` with a `nativeInputId`. -/
  publication : JsString → JsString → Option FieldValue
  /-- The meeting of the `meetingTranscriptSourceRecord` with an id. -/
  sourceRecord : JsString → JsString → Option FieldValue

/-- `withArtifactPermissionMetadataRead` (line 138). -/
def withArtifactPermissionMetadataRead {α : Type} (db : EpochClient) (workspaceId : JsString)
    (rows : LineageInput → Option Record) (outer : Option MetadataReadBatch)
    (read : Option MetadataReadBatch → Except AppError α) : Except AppError α := do
  invariant outer.isNone 409 "SOURCE_CHANGED"
    "Permission metadata batch cannot nest or cover a writer."
  read (some ⟨db, workspaceId, true, rows⟩)

section
variable (tables : PermissionTables) (workspaceId : JsString) (input : LineageInput)

/-- The stored row of an artifact, with all its columns. -/
def PermissionTables.stored : Option Record :=
  if input.kind = lit "ExternalMcpConnectionSet" then
    tables.loadExternalMcpConnectionSetInput workspaceId input.id
  else tables.findFirst workspaceId input

/-- `result.companyMeetingId`, where it is set. -/
def companyMeetingId (row : Record) : FieldValue :=
  if (row "mode").isText "COMPANY_MEMBER_UPLOAD" then
    (tables.publication workspaceId input.id).getD .undefined
  else .undefined

/-- `result.providerMeetingId`, where it is set. -/
def providerMeetingId (row : Record) : FieldValue :=
  if (row "mode").isText "PROVIDER_IMPORT" then
    match row "sourceRecordId" with
    | .string id => ((tables.sourceRecord workspaceId id).filter FieldValue.isId).getD .undefined
    | _ => .undefined
  else .undefined

/-- An object with the given members of a value; a value that is no object stays. -/
def trimJson (names : List String) (value : FieldValue) : FieldValue :=
  match value with
  | .object _ => .object ((names.map lit).map fun name => (name, value.get name))
  | value => value

def controlFields : List String :=
  ["version", "sourceId", "documentId", "pendingSourceId", "actionId", "inputId",
    "assigneeMemberId", "publicationPolicyVersion", "audience", "publishedActionRevision",
    "completedActionFingerprint", "oldActionSnapshotId", "oldActionSnapshotFingerprint",
    "targetKind", "targetId"]

/-- `select`, on the columns of the row. -/
def isSelected (kind : JsString) (name : String) : Bool :=
  METADATA_FIELDS.contains name ||
    (kind = lit "BrainSource" || kind = lit "KnowledgeChunk") && name = "metadata" ||
    kind = lit "OAuthProviderFetchInput" && name = "sourceKind" ||
    kind = lit "ConversationOperationOutcome" && (name = "controlJson" || name = "operation")

/-- What is loaded of a row from the database (line 185). -/
def selectMetadata (row : Record) : Record := fun name =>
  let value := if isSelected input.kind name then row name else .undefined
  if name = "companyMeetingId" then companyMeetingId tables workspaceId input row
  else if name = "providerMeetingId" then providerMeetingId tables workspaceId row
  else if name = "metadata" then
    trimJson ["documentId", "nativeInputId", "sqlPublicationId"] value
  else if name = "controlJson" then trimJson controlFields value
  else value

/-- What is loaded of a row from a batch (line 163). -/
def batchMetadata (row : Record) : Record := fun name =>
  if METADATA_FIELDS.contains name ||
      input.kind = lit "OAuthProviderFetchInput" && name = "sourceKind" then row name
  else .undefined

/-- `loadArtifactPermissionMetadata` (line 152). -/
def loadArtifactPermissionMetadata (batch : Option MetadataReadBatch) (db : EpochClient) :
    Except AppError (Option Record) :=
  match batch.bind fun batch => (batch.rows input).map fun observed => (batch, observed) with
  | some (batch, observed) => do
    invariant (batch.active && batch.db = db && batch.workspaceId = workspaceId) 409
      "SOURCE_CHANGED" "Permission metadata batch belongs to another or expired read."
    .ok (some (batchMetadata input observed))
  | none =>
    if input.kind = lit "ExternalMcpConnectionSet" then
      .ok (tables.loadExternalMcpConnectionSetInput workspaceId input.id)
    else .ok ((tables.findFirst workspaceId input).map (selectMetadata tables workspaceId input))

/-- The parents that are found with a batch of the rows. -/
def batchedParents (db : EpochClient) (rows : LineageInput → Option Record) :
    Except AppError (Option (List LineageInput)) :=
  withArtifactPermissionMetadataRead db workspaceId rows none fun batch =>
    Option.map (artifactPermissionParents input.kind) <$>
      loadArtifactPermissionMetadata tables workspaceId input batch db

/-- The parents that are found without a batch. -/
def directParents (db : EpochClient) : Except AppError (Option (List LineageInput)) :=
  Option.map (artifactPermissionParents input.kind) <$>
    loadArtifactPermissionMetadata tables workspaceId input none db

/-- A parent is bound by a JSON column of the artifact or by another table. -/
def BoundElsewhere (row : Record) : Prop :=
  (input.kind = lit "ConversationOperationOutcome" ∧
    ∃ binding ∈ controlBindings row, binding.2.isId = true) ∨
  (input.kind = lit "NativeTranscriptInput" ∧
    ((companyMeetingId tables workspaceId input row).isId ∨
      (providerMeetingId tables workspaceId row).isId)) ∨
  (input.kind = lit "KnowledgeChunk" ∧ (row "sourceType").isText "EXTERNAL_DATABASE" ∧
    ((row "metadata").get (lit "nativeInputId")).isId) ∨
  (input.kind = lit "BrainSource" ∧ ((row "sourceType").isText "DOC" ∨
      (row "sourceType").isText "FILE_UPLOAD") ∧
    ((row "metadata").get (lit "documentId")).isId)

end

/-! ## Lost edges -/

section
variable {α : Type} {L L' : List (List α)}

theorem flatten_sublist_flatten (h : Forall₂ (fun x y => x = y ∨ x = []) L L') :
    L.flatten <+ L'.flatten := by
  induction h with
  | nil => exact .refl _
  | @cons x y _ _ hxy _ ih =>
    obtain rfl | rfl := hxy
    · exact ih.append_left x
    · exact ih.trans (sublist_append_right y _)

/-- Lists of which some are lost have the same elements only if the lost ones were empty. -/
theorem flatten_eq_flatten_iff (h : Forall₂ (fun x y => x = y ∨ x = []) L L') :
    L.flatten = L'.flatten ↔ L = L' := by
  refine ⟨fun heq => ?_, congrArg flatten⟩
  induction h with
  | nil => rfl
  | @cons x y l l' hxy hrest ih =>
    rw [flatten_cons, flatten_cons] at heq
    obtain rfl | rfl := hxy
    · rw [ih (append_cancel_left heq)]
    · have hle := (flatten_sublist_flatten hrest).length_le
      have hlength := congrArg length heq
      rw [nil_append, length_append] at hlength
      obtain rfl : y = [] := length_eq_zero_iff.1 (by omega)
      rw [ih heq]

end

section
variable {tables : PermissionTables} {workspaceId : JsString} {input : LineageInput} {row : Record}

@[simp] theorem add_undefined {kind : String} : add kind .undefined = [] := rfl

@[simp] theorem get_undefined {name : JsString} : FieldValue.undefined.get name = .undefined := rfl

theorem add_eq_nil {kind : String} {value : FieldValue} :
    add kind value = [] ↔ value.isId = false := by
  cases value <;> simp [add, FieldValue.isId]

theorem only_eq_nil {kind : JsString} {name : String} {parents : List LineageInput} :
    [] = (if [name].any (lit · = kind) then parents else []) ↔
      (kind = lit name → parents = []) := by
  by_cases h : kind = lit name <;> simp [h, eq_comm]

theorem get_trimJson {names : List String} {name : String} {value : FieldValue}
    (h : name ∈ names) : (trimJson names value).get (lit name) = value.get (lit name) := by
  cases value with
  | object members =>
    simp only [trimJson, FieldValue.get]
    rw [lookup_graph _ (mem_map_of_mem h)]
    rfl
  | _ => rfl

/-! ### What a batch gives -/

theorem batchMetadata_eq : batchMetadata input row "mode" = row "mode" ∧
    batchMetadata input row "sourceType" = row "sourceType" ∧
    batchMetadata input row "companyMeetingId" = .undefined ∧
    batchMetadata input row "providerMeetingId" = .undefined ∧
    batchMetadata input row "metadata" = .undefined ∧
    batchMetadata input row "controlJson" = .undefined := by
  simp [batchMetadata, METADATA_FIELDS]

theorem controlBindings_batchMetadata : controlBindings (batchMetadata input row) = [] := by
  simp [controlBindings, batchMetadata_eq, FieldValue.isOne]

/-! ### What the database gives -/

theorem selectMetadata_of_ne {name : String} (hcompany : name ≠ "companyMeetingId")
    (hprovider : name ≠ "providerMeetingId") (hmetadata : name ≠ "metadata")
    (hcontrol : name ≠ "controlJson") (hoperation : name ≠ "operation") :
    selectMetadata tables workspaceId input row name = batchMetadata input row name := by
  simp [selectMetadata, batchMetadata, isSelected, *]

theorem controlBindings_selectMetadata (h : input.kind = lit "ConversationOperationOutcome") :
    controlBindings (selectMetadata tables workspaceId input row) = controlBindings row := by
  have hcontrol : selectMetadata tables workspaceId input row "controlJson" =
      trimJson controlFields (row "controlJson") := by
    simp [selectMetadata, isSelected, h]
  have hoperation : selectMetadata tables workspaceId input row "operation" = row "operation" := by
    simp [selectMetadata, isSelected, h]
  simp (disch := decide) only [controlBindings, hcontrol, hoperation, get_trimJson]

theorem selectMetadata_metadata
    (h : input.kind = lit "BrainSource" ∨ input.kind = lit "KnowledgeChunk") :
    selectMetadata tables workspaceId input row "metadata" =
      trimJson ["documentId", "nativeInputId", "sqlPublicationId"] (row "metadata") := by
  simp [selectMetadata, isSelected, h]

/-! ### The edges -/

/-- A batch loses edges and changes none. -/
theorem edges_lost :
    Forall₂ (fun x y => x = y ∨ x = []) (permissionEdges input.kind (batchMetadata input row))
      (permissionEdges input.kind (selectMetadata tables workspaceId input row)) := by
  simp only [permissionEdges, selectMetadata_of_ne, forall₂_cons, true_or, and_true, ne_eq,
    String.reduceEq, not_false_eq_true, batchMetadata_eq, controlBindings_batchMetadata,
    get_undefined, add_undefined, flatMap_nil, ite_self, or_true, Forall₂.nil]

theorem edges_eq_iff : permissionEdges input.kind (batchMetadata input row) =
      permissionEdges input.kind (selectMetadata tables workspaceId input row) ↔
    ¬ BoundElsewhere tables workspaceId input row := by
  have hcompany : selectMetadata tables workspaceId input row "companyMeetingId" =
      companyMeetingId tables workspaceId input row := by simp [selectMetadata]
  have hprovider : selectMetadata tables workspaceId input row "providerMeetingId" =
      providerMeetingId tables workspaceId row := by simp [selectMetadata]
  simp only [permissionEdges, selectMetadata_of_ne, cons.injEq, true_and, and_true, ne_eq,
    String.reduceEq, not_false_eq_true, batchMetadata_eq, controlBindings_batchMetadata,
    get_undefined, add_undefined, flatMap_nil, ite_self, only_eq_nil, hcompany, hprovider]
  rw [BoundElsewhere, not_or, not_or, not_or]
  refine and_congr ?_ (and_assoc.symm.trans (and_congr ?_ (and_congr ?_ ?_)))
  · rw [not_and]
    refine imp_congr_right fun hkind => ?_
    rw [controlBindings_selectMetadata hkind, flatMap_eq_nil_iff]
    simp [add_eq_nil]
  · rw [← imp_and, not_and]
    refine imp_congr_right fun _ => ?_
    rw [not_or, Bool.not_eq_true, Bool.not_eq_true]
    refine and_congr ?_ ?_
    · rw [companyMeetingId]
      split <;> simp [add_eq_nil, FieldValue.isId]
    · rw [providerMeetingId]
      split <;> simp [add_eq_nil, FieldValue.isId]
  · rw [not_and]
    refine imp_congr_right fun hkind => ?_
    rw [selectMetadata_metadata (.inr hkind)]
    simp (disch := decide) [get_trimJson, add_eq_nil]
  · rw [not_and]
    refine imp_congr_right fun hkind => ?_
    rw [selectMetadata_metadata (.inl hkind)]
    simp (disch := decide) [get_trimJson, add_eq_nil]

theorem parents_connectionSet (h : input.kind = lit "ExternalMcpConnectionSet") :
    artifactPermissionParents input.kind row = [] := by
  rw [h]
  rfl

/-- **A batched read finds the parents that a direct one finds** exactly if none of them is bound by
a JSON column or another table. -/
theorem batched_parents_iff (db : EpochClient) {rows : LineageInput → Option Record}
    (hbatch : rows input = some row) (hstored : tables.stored workspaceId input = some row) :
    batchedParents tables workspaceId input db rows = directParents tables workspaceId input db ↔
      ¬ BoundElsewhere tables workspaceId input row := by
  have hbatched : batchedParents tables workspaceId input db rows =
      .ok (some (artifactPermissionParents input.kind (batchMetadata input row))) := by
    simp [batchedParents, withArtifactPermissionMetadataRead, loadArtifactPermissionMetadata,
      hbatch, invariant, bind, Except.bind, Functor.map, Except.map]
  rw [hbatched]
  by_cases hkind : input.kind = lit "ExternalMcpConnectionSet"
  · rw [PermissionTables.stored, if_pos hkind] at hstored
    rw [directParents, loadArtifactPermissionMetadata, Option.bind_none, if_pos hkind, hstored]
    refine iff_of_true ?_ ?_
    · simp [Functor.map, Except.map, parents_connectionSet hkind]
    · rintro (⟨h, -⟩ | ⟨h, -⟩ | ⟨h, -⟩ | ⟨h, -⟩) <;>
        exact absurd (hkind.symm.trans h) (by decide)
  · rw [PermissionTables.stored, if_neg hkind] at hstored
    rw [directParents, loadArtifactPermissionMetadata, Option.bind_none, if_neg hkind, hstored,
      ← edges_eq_iff, ← flatten_eq_flatten_iff edges_lost]
    simp [Functor.map, Except.map, artifactPermissionParents]

end

/-! ## An uploaded source -/

/-- A source that was read from a document. -/
def uploadedSource : Record
  | "sourceType" => .string (lit "DOC")
  | "metadata" => .object [(lit "documentId", .string (lit "d"))]
  | _ => .undefined

def sampleTables : PermissionTables where
  findFirst _ _ := some uploadedSource
  loadExternalMcpConnectionSetInput _ _ := none
  publication _ _ := none
  sourceRecord _ _ := none

def uploadedInput : LineageInput := ⟨lit "BrainSource", lit "b"⟩

theorem batched_parents_iff_uploadedSource :
    batchedParents sampleTables (lit "w") uploadedInput .prisma (fun _ => some uploadedSource) =
        directParents sampleTables (lit "w") uploadedInput .prisma ↔
      ¬ BoundElsewhere sampleTables (lit "w") uploadedInput uploadedSource :=
  batched_parents_iff .prisma rfl (by rfl)

/-- **A batch loses the document of an uploaded source.** -/
theorem not_batched_parents :
    ¬ ∀ (tables : PermissionTables) (db : EpochClient) (workspaceId : JsString)
      (rows : LineageInput → Option Record) (input : LineageInput) (row : Record),
      rows input = some row → tables.stored workspaceId input = some row →
        batchedParents tables workspaceId input db rows =
          directParents tables workspaceId input db := by
  intro h
  have hsame := h sampleTables .prisma (lit "w") (fun _ => some uploadedSource)
    uploadedInput uploadedSource rfl rfl
  have hparents := congrArg (fun result => result.toOption.join.map List.length) hsame
  revert hparents
  decide +kernel

end Corgtex.Domain.SourceLineage
