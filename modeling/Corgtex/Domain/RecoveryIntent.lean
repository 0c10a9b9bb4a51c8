import Corgtex.Domain.ReleaseProofReader
import Corgtex.Library.JsonObject

/-!
# Recovery intents

`managed-azure-recovery-intent.ts`: before a recovery writes a revision of an
app, it records what it is going to write. `canonicalizeManagedReleaseRecoveryIntent` reads such an
intent from a value of unknown type and checks it against the rollback record of the release and
against its own digests. The canonical intent, as a value again, is read as itself
(`canonicalize_value`).

The hash is `createHash("sha256").update(text).digest("hex")`.
-/

namespace Corgtex.Domain.RecoveryIntent

open Json JsString ReleaseLease ReleaseProofReader

/-- `MANAGED_RELEASE_WRITE_INTENT_PROTOCOL_VERSION` (line 5). -/
def WRITE_INTENT_PROTOCOL_VERSION : Nat := 1

/-- An intent cannot be read, or does not agree with the record or with itself. -/
inductive IntentRejection where
  | invalid
  | conflict
deriving DecidableEq

/-- `IntentRejectors` (line 37): what each rejection throws. -/
structure IntentRejectors where
  invalid : AppError
  conflict : AppError

def IntentRejectors.error (rejectors : IntentRejectors) : IntentRejection → AppError
  | .invalid => rejectors.invalid
  | .conflict => rejectors.conflict

def INTENT_KEYS : List JsString :=
  [lit "protocolVersion", lit "purpose", lit "role", lit "originatingLeaseId",
    lit "originatingFence", lit "appName", lit "predecessorRevisionName",
    lit "predecessorTemplateDigest", lit "gitSha", lit "imageDigest", lit "templateBaseDigest",
    lit "revisionSuffix", lit "templateDigest", lit "intentDigest"]

def roleName : IntentRole → JsString
  | .web => lit "web"
  | .worker => lit "worker"

/-! ## The canonical text -/

/-- A member of an object, as a text. -/
def memberText (member : JsString × JsString) : JsString := quote member.1 ++ colon :: member.2

mutual

/-- `canonicalManagedReleaseRecoveryIntentJson` (line 67), for values whose numbers are natural. -/
def canonicalJson : Json Nat → JsString
  | .array items => openBracket :: (join [comma] (canonicalItems items) ++ [closeBracket])
  | .object members =>
    openBrace ::
      (join [comma] ((JsArray.sortBy byKey (canonicalMembers members)).map memberText) ++
        [closeBrace])
  | value => stringify JsNumber.decimal value

/-- The elements of an array. -/
def canonicalItems : List (Json Nat) → List JsString
  | [] => []
  | item :: items => canonicalJson item :: canonicalItems items

/-- The members of an object. -/
def canonicalMembers : List (JsString × Json Nat) → List (JsString × JsString)
  | [] => []
  | (key, value) :: members => (key, canonicalJson value) :: canonicalMembers members

end

section
variable (intent : ManagedReleaseRecoveryIntent)

/-- The members of a `ManagedReleaseRecoveryIntentBase` (line 11). -/
def baseMembers : List (JsString × Json Nat) :=
  [(lit "protocolVersion", .number WRITE_INTENT_PROTOCOL_VERSION),
    (lit "purpose", .string (lit "COMPATIBLE_RECOVERY_PATCH")),
    (lit "role", .string (roleName intent.role)),
    (lit "originatingLeaseId", .string intent.originatingLeaseId),
    (lit "originatingFence", .number intent.originatingFence),
    (lit "appName", .string intent.appName),
    (lit "predecessorRevisionName", .string intent.predecessorRevisionName),
    (lit "predecessorTemplateDigest", .string intent.predecessorTemplateDigest),
    (lit "gitSha", .string intent.gitSha),
    (lit "imageDigest", .string intent.imageDigest),
    (lit "templateBaseDigest", .string intent.templateBaseDigest)]

def digestInput : List (JsString × Json Nat) :=
  baseMembers intent ++
    [(lit "revisionSuffix", .string intent.revisionSuffix),
      (lit "templateDigest", .string intent.templateDigest)]

/-- The members of a `ManagedReleaseRecoveryIntent` (line 25). -/
def intentMembers : List (JsString × JsValue) :=
  JsValue.ofMembers (digestInput intent ++ [(lit "intentDigest", .string intent.intentDigest)])

end

section
variable (sha256Hex : JsString → JsString)

/-- `managedReleaseRecoveryIntentRevisionSuffix` (line 74). -/
def revisionSuffix (intent : ManagedReleaseRecoveryIntent) : JsString :=
  lit "ri-" ++ (sha256Hex (canonicalJson (.object (baseMembers intent)))).take 32

/-- `managedReleaseRecoveryIntentDigest` (line 78). -/
def intentDigest (intent : ManagedReleaseRecoveryIntent) : JsString :=
  lit "sha256:" ++ sha256Hex (canonicalJson (.object (digestInput intent)))

/-! ## Reading -/

/-- `/^ri-[0-9a-f]{32}$/` -/
def isRevisionSuffix (value : JsString) : Bool :=
  value.take 3 = lit "ri-" && (value.drop 3).length = 32 && (value.drop 3).all isLowerHex

/-- `rejectors.conflict`, where the condition does not hold. -/
def agree (condition : Bool) : Except IntentRejection Unit :=
  if condition then .ok () else .error .conflict

/-- What `canonicalizeManagedReleaseRecoveryIntent` makes of a record with the keys of an intent
(lines 94-124). The base has no suffix and no digests yet. -/
def intentOfRecord (raw : JsString → JsValue) (authority : RollbackEnvelope) (plan : RecoveryPlan) :
    Except IntentRejection ManagedReleaseRecoveryIntent := do
  let role ← enumString .invalid (raw (lit "role")) [.web, .worker] roleName
  let appName ← azureAppName .invalid (raw (lit "appName"))
  literalNumber .invalid (raw (lit "protocolVersion")) WRITE_INTENT_PROTOCOL_VERSION
  literalString .invalid (raw (lit "purpose")) (lit "COMPATIBLE_RECOVERY_PATCH")
  let originatingLeaseId ← uuid .invalid (raw (lit "originatingLeaseId"))
  let originatingFence ← integer .invalid (raw (lit "originatingFence")) 1 authority.fence
  let predecessorRevisionName ← azureRevision .invalid (raw (lit "predecessorRevisionName")) appName
  let predecessorTemplateDigest ← digest .invalid (raw (lit "predecessorTemplateDigest"))
  let gitSha ← gitSha .invalid (raw (lit "gitSha"))
  let imageDigest ← digest .invalid (raw (lit "imageDigest"))
  let templateBaseDigest ← digest .invalid (raw (lit "templateBaseDigest"))
  let base : ManagedReleaseRecoveryIntent :=
    { role, originatingLeaseId, originatingFence, appName, predecessorRevisionName,
      predecessorTemplateDigest, gitSha, imageDigest, templateBaseDigest
      revisionSuffix := []
      templateDigest := []
      intentDigest := [] }
  agree (originatingLeaseId = authority.leaseId && originatingFence = authority.fence &&
    appName = authority.payload.target.appName role && gitSha = plan.compatibleRecovery.gitSha &&
    imageDigest = (plan.image role).digest)
  let suffix ← pattern .invalid (raw (lit "revisionSuffix")) isRevisionSuffix
  agree (suffix = revisionSuffix sha256Hex base)
  let templateDigest ← digest .invalid (raw (lit "templateDigest"))
  let digestInput := { base with revisionSuffix := suffix, templateDigest }
  let digest ← digest .invalid (raw (lit "intentDigest"))
  agree (digest = intentDigest sha256Hex digestInput)
  .ok { digestInput with intentDigest := digest }

variable (value : JsValue) (authority : RollbackEnvelope)

/-- `canonicalizeManagedReleaseRecoveryIntent` (line 82), with the rejection that is thrown. -/
def readIntent : Except IntentRejection ManagedReleaseRecoveryIntent :=
  match authority.payload.plan with
  | none => .error .conflict
  | some plan => do
    let raw ← exactRecord .invalid value INTENT_KEYS
    intentOfRecord sha256Hex raw authority plan

/-- `canonicalizeManagedReleaseRecoveryIntent` (line 82). -/
def canonicalizeManagedReleaseRecoveryIntent (rejectors : IntentRejectors) :
    Except AppError ManagedReleaseRecoveryIntent :=
  (readIntent sha256Hex value authority).mapError rejectors.error

end

/-! ## Reading a canonical intent -/

section
variable {sha256Hex : JsString → JsString} {raw : JsString → JsValue} {value : JsValue}
  {authority : RollbackEnvelope} {plan : RecoveryPlan} {rejectors : IntentRejectors}
  {intent : ManagedReleaseRecoveryIntent}

theorem agree_bind_ok {α : Type} {condition : Bool} {next : Unit → Except IntentRejection α}
    {result : α} : (agree condition >>= next) = .ok result ↔
      condition = true ∧ next () = .ok result := by
  cases condition with
  | true => simp [agree, bind, Except.bind]
  | false => simp [agree, bind, Except.bind]

theorem intentMembers_keys (intent : ManagedReleaseRecoveryIntent) :
    (intentMembers intent).map Prod.fst = INTENT_KEYS := rfl

theorem intentOfRecord_ok (h : intentOfRecord sha256Hex raw authority plan = .ok intent) :
    ∀ key ∈ INTENT_KEYS, raw key = JsValue.get (intentMembers intent) key := by
  unfold intentOfRecord at h
  obtain ⟨role, hrole, h⟩ := bind_ok.1 h
  obtain ⟨appName, happName, h⟩ := bind_ok.1 h
  obtain ⟨_, hprotocol, h⟩ := bind_ok.1 h
  obtain ⟨_, hpurpose, h⟩ := bind_ok.1 h
  obtain ⟨leaseId, hleaseId, h⟩ := bind_ok.1 h
  obtain ⟨fence, hfence, h⟩ := bind_ok.1 h
  obtain ⟨revision, hrevision, h⟩ := bind_ok.1 h
  obtain ⟨predecessor, hpredecessor, h⟩ := bind_ok.1 h
  obtain ⟨sha, hsha, h⟩ := bind_ok.1 h
  obtain ⟨image, himage, h⟩ := bind_ok.1 h
  obtain ⟨template, htemplate, h⟩ := bind_ok.1 h
  obtain ⟨_, h⟩ := agree_bind_ok.1 h
  obtain ⟨suffix, hsuffix, h⟩ := bind_ok.1 h
  obtain ⟨_, h⟩ := agree_bind_ok.1 h
  obtain ⟨written, hwritten, h⟩ := bind_ok.1 h
  obtain ⟨digest, hdigest, h⟩ := bind_ok.1 h
  obtain ⟨_, h⟩ := agree_bind_ok.1 h
  cases h
  simp only [INTENT_KEYS, List.forall_mem_cons]
  exact ⟨literalNumber_ok hprotocol, literalString_ok hpurpose, enumString_ok hrole,
    pattern_ok hleaseId, integer_ok hfence, pattern_ok happName, pattern_ok hrevision,
    pattern_ok hpredecessor, pattern_ok hsha, pattern_ok himage, pattern_ok htemplate,
    pattern_ok hsuffix, pattern_ok hwritten, pattern_ok hdigest,
    fun _ hmem => absurd hmem (by simp)⟩

theorem readIntent_value (h : readIntent sha256Hex value authority = .ok intent) :
    readIntent sha256Hex (.object (intentMembers intent)) authority = .ok intent := by
  unfold readIntent at h ⊢
  split at h
  · cases h
  · next plan hplan =>
    obtain ⟨raw, hraw, h⟩ := bind_ok.1 h
    obtain ⟨members, rfl⟩ := exactRecord_ok hraw
    have hsame := snapshot_congr (intentOfRecord_ok h)
    rw [hsame] at h
    exact bind_ok.2 ⟨_, intentMembers_keys intent ▸ exactRecord_object, h⟩

theorem mapError_ok {ε ε' α : Type} {action : Except ε α} {f : ε → ε'} {a : α} :
    action.mapError f = .ok a ↔ action = .ok a := by
  cases action <;> simp [Except.mapError]

/-- **The canonical form is canonical**: an intent that was read is read from its own value as
itself, whatever the rejections throw. -/
theorem canonicalize_value (rejectors' : IntentRejectors)
    (h : canonicalizeManagedReleaseRecoveryIntent sha256Hex value authority rejectors =
      .ok intent) :
    canonicalizeManagedReleaseRecoveryIntent sha256Hex (.object (intentMembers intent)) authority
      rejectors' = .ok intent :=
  mapError_ok.2 (readIntent_value (mapError_ok.1 h))

end

end Corgtex.Domain.RecoveryIntent
