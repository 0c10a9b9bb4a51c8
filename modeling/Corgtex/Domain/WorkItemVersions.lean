import Corgtex.Domain.Access
import Corgtex.Library.KeyedTable
import Mathlib.Data.Rat.Defs

/-!
# The version history of work items

`work-item-versions.ts`: a write that changes content stores the item as it was
under the version that it had, and moves the item on to the next version. The rows of one entity
type are a table of their own here, since the entity type is part of the unique key.
-/

namespace Corgtex.Domain

/-- A row of `WorkItemVersion` (`schema.prisma`); `σ` is what `pickJsonSnapshot` picks. -/
structure WorkItemVersion (σ : Type) where
  workspaceId : JsString
  entityId : JsString
  version : Nat
  changedFields : List String
  previousState : σ
  actorUserId : Option JsString
  actorLabel : JsString
  source : String
deriving DecidableEq, Repr

section
variable {α κ : Type} [DecidableEq κ] {key : α → κ}

/-- `create({ data })`: the primary key rejects a row whose key is taken. -/
def createRow (table : KeyedTable α key) (row : α) : Except AppError (KeyedTable α key) :=
  if h : key row ∈ table.rows.map key then
    .error ⟨500, "P2002", "Unique constraint failed on the fields: (id)"⟩
  else
    .ok (table.insert row h)

theorem createRow_ok {table table' : KeyedTable α key}
    {row : α} (h : createRow table row = .ok table') :
    table.find? (key row) = none ∧ table'.rows = table.rows ++ [row] := by
  unfold createRow at h
  split at h
  · cases h
  next hnew => exact Except.ok.inj h ▸ ⟨KeyedTable.find?_eq_none.2 hnew, rfl⟩

theorem foldlM_createRow_ok {rows : List α}
    {table table' : KeyedTable α key} (h : rows.foldlM createRow table = .ok table') :
    table'.rows = table.rows ++ rows := by
  induction rows generalizing table with
  | nil => simp [← Except.ok.inj h]
  | cons row rows ih =>
    rw [List.foldlM_cons] at h
    obtain ⟨next, hrow, h⟩ := bind_ok.1 h
    rw [ih h, (createRow_ok hrow).2, List.append_assoc, List.singleton_append]

end

/-- The rows of one entity type, unique on `[entityId, version]`. -/
abbrev WorkItemVersionTable (σ : Type) :=
  KeyedTable (WorkItemVersion σ) fun row => (row.entityId, row.version)

/-- `actorLabel` (line 101). -/
def actorLabel : AppActor → JsString
  | .user id email displayName =>
    ((displayName.bind JsString.orNull).or email.orNull).getD id
  | .agent authProvider label => (label.orNull.or authProvider.orNull).getD (.lit "agent")

/-- The field, if `data` assigns it a value other than the current one: one field of
`changedDataFields` (line 86). -/
def changedField {α : Type} [DecidableEq α] (field : String) (current : α) (data : Option α) :
    List String :=
  if data.all fun value => value = current then [] else [field]

theorem changedField_eq_nil {α : Type} [DecidableEq α] {field : String} {current : α}
    {data : Option α} : changedField field current data = [] ↔ data.getD current = current := by
  unfold changedField
  cases data with
  | none => simp
  | some value => by_cases h : value = current <;> simp [h]

/-- The checks on a request's `expectedVersion`, for example `goals.ts:774`. A number that is not
finite is rejected like a fraction. -/
def checkExpectedVersion (expectedVersion : Option ℚ) (version : Nat) (conflict : String) :
    Except AppError Unit :=
  match expectedVersion with
  | none => return ()
  | some expectedVersion => do
    invariant (expectedVersion.den = 1 && 0 < expectedVersion) 400 "INVALID_INPUT"
      "expectedVersion must be a positive integer."
    invariant (expectedVersion = version) 409 "VERSION_CONFLICT" conflict

/-- The answer to a write that has met another version than the one it was made for. -/
def recordChanged : String :=
  "The record changed before this update could be applied. Please refresh and try again."

theorem checkExpectedVersion_eq_ok {expectedVersion : Option ℚ} {version : Nat}
    {conflict : String} :
    checkExpectedVersion expectedVersion version conflict = .ok () ↔
      ∀ e, expectedVersion = some e → e = version ∧ 0 < version := by
  cases expectedVersion with
  | none => exact iff_of_true rfl nofun
  | some e =>
    unfold checkExpectedVersion
    simp only [invariant_bind_ok, Option.some.injEq, forall_eq', Bool.and_eq_true,
      decide_eq_true_eq]
    constructor
    · rintro ⟨⟨_, hpos⟩, h⟩
      have he : e = version := by
        by_contra hne
        simp [invariant, hne] at h
      exact ⟨he, by exact_mod_cast he ▸ hpos⟩
    · rintro ⟨rfl, hpos⟩
      refine ⟨⟨by simp, by exact_mod_cast hpos⟩, by simp [invariant]⟩

/-- The parameters of `recordWorkItemVersion`, without the entity type. -/
structure RecordVersionParams (σ : Type) where
  workspaceId : JsString
  entityId : JsString
  currentVersion : Nat
  changedFields : List String
  previousState : σ

/-- `recordWorkItemVersion` (line 118): the rows and the item's next version. -/
def recordWorkItemVersion {σ : Type} (versions : WorkItemVersionTable σ) (actor : AppActor)
    (params : RecordVersionParams σ) : Except AppError (WorkItemVersionTable σ × Nat) :=
  if params.changedFields = [] then
    .ok (versions, params.currentVersion)
  else if h : (params.entityId, params.currentVersion) ∈
      versions.rows.map fun row => (row.entityId, row.version) then
    .error ⟨409, "VERSION_CONFLICT", recordChanged⟩
  else
    .ok (versions.insert {
      workspaceId := params.workspaceId
      entityId := params.entityId
      version := params.currentVersion
      changedFields := params.changedFields
      previousState := params.previousState
      actorUserId := actor.userId?
      actorLabel := actorLabel actor
      source := if actor.userId?.isNone then "MCP_AGENT" else "WEB" } h,
      params.currentVersion + 1)

/-! ## What one recording does -/

section
variable {σ : Type} {versions versions' : WorkItemVersionTable σ} {actor : AppActor}
  {params : RecordVersionParams σ} {next : Nat}

theorem recordWorkItemVersion_nil (h : params.changedFields = []) :
    recordWorkItemVersion versions actor params = .ok (versions, params.currentVersion) :=
  if_pos h

/-- A recording that succeeds adds the one row for the version that the item leaves. -/
theorem recordWorkItemVersion_ok (hchanged : params.changedFields ≠ [])
    (h : recordWorkItemVersion versions actor params = .ok (versions', next)) :
    next = params.currentVersion + 1 ∧
      versions.find? (params.entityId, params.currentVersion) = none ∧
      ∃ row : WorkItemVersion σ, row.entityId = params.entityId ∧
        row.version = params.currentVersion ∧ row.changedFields = params.changedFields ∧
        row.previousState = params.previousState ∧
        versions'.rows = versions.rows ++ [row] := by
  unfold recordWorkItemVersion at h
  rw [if_neg hchanged] at h
  split at h
  · cases h
  next hnew =>
  obtain ⟨rfl, rfl⟩ := Prod.mk.inj (Except.ok.inj h)
  exact ⟨rfl, KeyedTable.find?_eq_none.2 hnew, _, rfl, rfl, rfl, rfl, rfl⟩

end

end Corgtex.Domain
