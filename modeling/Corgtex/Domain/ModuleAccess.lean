import Corgtex.Domain.Access
import Corgtex.Library.KeyedTable

/-!
# Access to modules

`module-access.ts` and `modules/access.ts`: the level of a member for a module
is the highest of the module's default and of the grants that match the member, as itself, by its
role, or by the roles and circles that it is in. The rows of one workspace are a `ModuleStore`.
`raisesAccess_grantMember` says what an upsert of a member's own grant does to the levels of
everybody.
-/

namespace Corgtex.Domain.ModuleAccess

open KeyedTable

open JsString (lit)

/-! ## Levels -/

/-- `ModuleAccessLevel` (`modules/types.ts:19`). -/
inductive ModuleAccessLevel
  | none | read | write
deriving DecidableEq

namespace ModuleAccessLevel

/-- `ACCESS_LEVEL_RANK` -/
def rank : ModuleAccessLevel → ℕ
  | none => 0
  | read => 1
  | write => 2

theorem rank_injective : Function.Injective rank := by
  rintro (_ | _ | _) (_ | _ | _) h <;> first | rfl | cases h

end ModuleAccessLevel

/-- `maxAccessLevel` (`modules/access.ts:28`). -/
def maxAccessLevel (a b : ModuleAccessLevel) : ModuleAccessLevel := if b.rank ≤ a.rank then a else b

/-- `isAtLeast` (`modules/access.ts:32`). -/
def isAtLeast (level required : ModuleAccessLevel) : Bool := required.rank ≤ level.rank

/-- The levels as the database has them. -/
inductive PrismaModuleAccessLevel
  | NONE | READ | WRITE
deriving DecidableEq

/-- `toAccessLevel` (line 33). -/
def toAccessLevel : PrismaModuleAccessLevel → ModuleAccessLevel
  | .WRITE => .write
  | .READ => .read
  | .NONE => .none

/-! ## Rows -/

inductive ModuleGrantPrincipalType
  | MEMBER | MEMBER_ROLE | GOVERNANCE_ROLE | CIRCLE
deriving DecidableEq

/-- The unique key of `WorkspaceModuleGrant`. -/
structure GrantKey where
  moduleKey : JsString
  principalType : ModuleGrantPrincipalType
  principalId : JsString
deriving DecidableEq

/-- `WorkspaceModuleGrant`. -/
structure ModuleGrant extends GrantKey where
  accessLevel : PrismaModuleAccessLevel
  createdByUserId : Option JsString

structure Member where
  id : JsString
  userId : JsString
  isActive : Bool

/-- An assignment with the circle of its role. -/
structure RoleAssignment where
  memberId : JsString
  roleId : JsString
  circleId : JsString
  expiresAt : Option ℕ

structure Circle where
  id : JsString
  parentCircleId : Option JsString

/-- `WorkspaceFeatureFlag`. -/
structure FeatureFlagRecord where
  flag : JsString
  enabled : Bool

/-- The rows of a workspace that the access to its modules depends on. -/
structure ModuleStore where
  members : List Member
  assignments : List RoleAssignment
  circles : List Circle
  flags : List FeatureFlagRecord
  grants : KeyedTable ModuleGrant ModuleGrant.toGrantKey

/-! ## Circles -/

/-- `parentById.get(current) ?? null`; of two circles with one id the map keeps the later. -/
def parentById (circles : List Circle) (id : JsString) : Option JsString :=
  (circles.reverse.find? (·.id = id)).bind (·.parentCircleId)

/-- The walk from a circle to its ancestors; `current && …` stops at an empty id. -/
def walkCircle (parent : JsString → Option JsString) :
    ℕ → List JsString → Option JsString → List JsString
  | 0, _, _ => []
  | _ + 1, _, none => []
  | fuel + 1, visited, some current =>
    if current = [] ∨ current ∈ visited then []
    else current :: walkCircle parent fuel (current :: visited) (parent current)

/-- `expandCircleAncestors` (line 72): no walk is longer than there are circles with
one more at its start. -/
def expandCircleAncestors (baseCircleIds : List JsString) (circles : List Circle) : List JsString :=
  (baseCircleIds.flatMap fun start =>
    walkCircle (parentById circles) (circles.length + 2) [] (some start)).eraseDups

/-! ## What a member's level depends on -/

/-- `ModuleAccessContext` (`modules/types.ts:45`). -/
structure ModuleAccessContext where
  role : Option MemberRole
  memberId : Option JsString
  governanceRoleIds : List JsString
  circleIds : List JsString
  flags : JsString → Bool
  grants : List ModuleGrant

def roleKey : MemberRole → JsString
  | .contributor => lit "CONTRIBUTOR"
  | .facilitator => lit "FACILITATOR"
  | .financeSteward => lit "FINANCE_STEWARD"
  | .admin => lit "ADMIN"

/-- `activeRoleAssignmentWhere` (`role-assignment-activity.ts:3`). -/
def RoleAssignment.isActive (assignment : RoleAssignment) (now : ℕ) : Bool :=
  assignment.expiresAt.all (now < ·)

/-- `getWorkspaceModuleFlags` (line 56), over the defaults of the registry. -/
def getWorkspaceModuleFlags (defaults : JsString → Bool) (records : List FeatureFlagRecord)
    (flag : JsString) : Bool :=
  ((records.reverse.find? (·.flag = flag)).map (·.enabled)).getD (defaults flag)

/-- `gatherModuleAccessContext` (line 95). -/
def gatherModuleAccessContext (defaults : JsString → Bool) (store : ModuleStore) (now : ℕ)
    (memberId : Option JsString) (role : Option MemberRole) : ModuleAccessContext :=
  let assignments := store.assignments.filter fun assignment =>
    memberId = some assignment.memberId && assignment.isActive now
  { role
    memberId
    governanceRoleIds := assignments.map (·.roleId)
    circleIds := expandCircleAncestors (assignments.map (·.circleId)) store.circles
    flags := getWorkspaceModuleFlags defaults store.flags
    grants := store.grants.rows }

/-- What the resolver reads of a `ModuleManifest`. -/
structure ModuleManifest where
  key : JsString
  featureFlag : Option JsString
  defaultAccessByRole : Option (MemberRole → Option ModuleAccessLevel)
  hasNav : Bool

/-- `isModuleEnabled` (`modules/access.ts:37`). -/
def isModuleEnabled (mod : ModuleManifest) (flags : JsString → Bool) : Bool :=
  mod.featureFlag.all flags

/-- `moduleDefaultAccess` (`modules/access.ts:50`). -/
def moduleDefaultAccess (mod : ModuleManifest) (role : Option MemberRole) : ModuleAccessLevel :=
  match mod.defaultAccessByRole with
  | some policy => (role.bind policy).getD .none
  | none => if mod.hasNav then .read else .none

/-- `grantMatchesContext` (`modules/access.ts:62`). -/
def grantMatchesContext (grant : ModuleGrant) (context : ModuleAccessContext) : Bool :=
  match grant.principalType with
  | .MEMBER => context.memberId = some grant.principalId
  | .MEMBER_ROLE => context.role.map roleKey = some grant.principalId
  | .GOVERNANCE_ROLE => context.governanceRoleIds.contains grant.principalId
  | .CIRCLE => context.circleIds.contains grant.principalId

section
variable (context : ModuleAccessContext) (mod : ModuleManifest)

/-- The level of a module before any grant. -/
def defaultLevel : ModuleAccessLevel :=
  if isModuleEnabled mod context.flags then moduleDefaultAccess mod context.role else .none

/-- `resolveModuleAccess` (`modules/access.ts:81`). -/
def resolveModuleAccess : ModuleAccessLevel :=
  context.grants.foldl
    (fun level grant =>
      if grant.moduleKey ≠ mod.key then level
      else if grantMatchesContext grant context then
        maxAccessLevel level (toAccessLevel grant.accessLevel)
      else level)
    (defaultLevel context mod)

end

/-! ## The level is a maximum -/

theorem rank_maxAccessLevel (a b : ModuleAccessLevel) :
    (maxAccessLevel a b).rank = max a.rank b.rank := by
  rw [maxAccessLevel]
  split
  · next h => exact (max_eq_left h).symm
  · next h => exact (max_eq_right (Nat.le_of_not_le h)).symm

/-- **A level is at most a bound if the default is, and every grant that counts.** -/
theorem rank_resolve_le_iff {context : ModuleAccessContext} {mod : ModuleManifest} {n : ℕ} :
    (resolveModuleAccess context mod).rank ≤ n ↔
      (defaultLevel context mod).rank ≤ n ∧
      ∀ grant ∈ context.grants, grant.moduleKey = mod.key → grantMatchesContext grant context →
        (toAccessLevel grant.accessLevel).rank ≤ n := by
  have hfold : ∀ (grants : List ModuleGrant) (level : ModuleAccessLevel),
      (grants.foldl (fun level grant =>
        if grant.moduleKey ≠ mod.key then level
        else if grantMatchesContext grant context then
          maxAccessLevel level (toAccessLevel grant.accessLevel)
        else level) level).rank ≤ n ↔
      level.rank ≤ n ∧ ∀ grant ∈ grants, grant.moduleKey = mod.key →
        grantMatchesContext grant context → (toAccessLevel grant.accessLevel).rank ≤ n := by
    intro grants
    induction grants with
    | nil => simp
    | cons grant grants ih =>
      intro level
      rw [List.foldl_cons, ih, List.forall_mem_cons, ← and_assoc]
      refine and_congr_left fun _ => ?_
      by_cases hkey : grant.moduleKey = mod.key
      · by_cases hmatch : grantMatchesContext grant context
        · simp [hkey, hmatch, rank_maxAccessLevel, Nat.max_le]
        · simp [hkey, hmatch]
      · simp [hkey]
  exact hfold _ _

/-! ## A grant for one member -/

/-- The level of a member, or of nobody, for a module. -/
def ModuleStore.level (store : ModuleStore) (defaults : JsString → Bool) (now : ℕ)
    (memberId : Option JsString) (role : Option MemberRole) (mod : ModuleManifest) :
    ModuleAccessLevel :=
  resolveModuleAccess (gatherModuleAccessContext defaults store now memberId role) mod

def memberKey (moduleKey memberId : JsString) : GrantKey := ⟨moduleKey, .MEMBER, memberId⟩

/-- `workspaceModuleGrant.upsert` of a member's own grant. -/
def ModuleStore.grantMember (store : ModuleStore) (moduleKey memberId : JsString)
    (accessLevel : PrismaModuleAccessLevel) (createdByUserId : Option JsString) : ModuleStore :=
  { store with
    grants := store.grants.upsert ⟨memberKey moduleKey memberId, accessLevel, createdByUserId⟩
      (fun row => { row with accessLevel }) fun _ => rfl }

/-- What a member gets, and nobody else. -/
structure RaisesAccess (before after : ModuleStore) (moduleKey memberId : JsString)
    (requested : PrismaModuleAccessLevel) : Prop where
  kept : ∀ defaults now role mod, isAtLeast (after.level defaults now (some memberId) role mod)
    (before.level defaults now (some memberId) role mod)
  raised : ∀ defaults now role mod, mod.key = moduleKey →
    isAtLeast (after.level defaults now (some memberId) role mod) (toAccessLevel requested)
  others : ∀ defaults now other role mod, other ≠ some memberId →
    after.level defaults now other role mod = before.level defaults now other role mod

variable {store : ModuleStore} {moduleKey memberId : JsString}
  {requested : PrismaModuleAccessLevel} {createdByUserId : Option JsString}

/-- The row that the upsert leaves. -/
theorem find?_grantMember {key : GrantKey} :
    (store.grantMember moduleKey memberId requested createdByUserId).grants.find? key =
      if key = memberKey moduleKey memberId then
        some (((store.grants.find? key).map fun row => { row with accessLevel := requested }).getD
          ⟨memberKey moduleKey memberId, requested, createdByUserId⟩)
      else store.grants.find? key :=
  @KeyedTable.find?_upsert _ _ _ _ store.grants key
    ⟨memberKey moduleKey memberId, requested, createdByUserId⟩
    (fun row => { row with accessLevel := requested }) fun _ => rfl

theorem mem_grantMember_of_ne {grant : ModuleGrant}
    (hne : grant.toGrantKey ≠ memberKey moduleKey memberId) :
    grant ∈ (store.grantMember moduleKey memberId requested createdByUserId).grants.rows ↔
      grant ∈ store.grants.rows := by
  constructor
  · intro hgrant
    have hfind := find?_key hgrant
    rw [find?_grantMember, if_neg hne] at hfind
    exact (find?_eq_some.1 hfind).1
  · intro hgrant
    have hfind := find?_key hgrant
    have hfind' := (@find?_grantMember store moduleKey memberId requested
      createdByUserId _).trans ((if_neg hne).trans hfind)
    exact (find?_eq_some.1 hfind').1

theorem exists_grantMember :
    ∃ grant ∈ (store.grantMember moduleKey memberId requested createdByUserId).grants.rows,
      grant.toGrantKey = memberKey moduleKey memberId ∧ grant.accessLevel = requested := by
  have hfind : (store.grantMember moduleKey memberId requested createdByUserId).grants.find?
      (memberKey moduleKey memberId) = _ := find?_grantMember.trans (if_pos rfl)
  obtain ⟨hmem, hkey⟩ := find?_eq_some.1 hfind
  refine ⟨_, hmem, hkey, ?_⟩
  cases store.grants.find? (memberKey moduleKey memberId) <;> rfl

theorem grantMatches_member {grant : ModuleGrant} {context : ModuleAccessContext}
    (hkey : grant.toGrantKey = memberKey moduleKey memberId) :
    grantMatchesContext grant context ↔ context.memberId = some memberId := by
  have htype : grant.principalType = .MEMBER := congrArg GrantKey.principalType hkey
  have hid : grant.principalId = memberId := congrArg GrantKey.principalId hkey
  simp [grantMatchesContext, htype, hid]

/-- **A grant for one member adds access for that member and nobody else,** unless it replaces a
higher one. -/
theorem raisesAccess_grantMember
    (hold : ∀ old, store.grants.find? (memberKey moduleKey memberId) = some old →
      isAtLeast (toAccessLevel requested) (toAccessLevel old.accessLevel)) :
    RaisesAccess store (store.grantMember moduleKey memberId requested createdByUserId)
      moduleKey memberId requested := by
  obtain ⟨new, hnew, hnewKey, hlevel⟩ := @exists_grantMember store moduleKey memberId requested
    createdByUserId
  have hnewModule : new.moduleKey = moduleKey := congrArg GrantKey.moduleKey hnewKey
  have hraised : ∀ defaults now role mod, mod.key = moduleKey →
      (toAccessLevel requested).rank ≤ ((store.grantMember moduleKey memberId requested
        createdByUserId).level defaults now (some memberId) role mod).rank := by
    intro defaults now role mod hmod
    have hbound := (rank_resolve_le_iff.1 (le_refl ((store.grantMember moduleKey memberId requested
      createdByUserId).level defaults now (some memberId) role mod).rank)).2
    have hnewLevel := hbound new hnew (hnewModule.trans hmod.symm)
      ((grantMatches_member hnewKey).2 rfl)
    rwa [hlevel] at hnewLevel
  refine ⟨fun defaults now role mod => ?_, fun defaults now role mod hmod => ?_,
    fun defaults now other role mod hother => ?_⟩
  · have hbound := rank_resolve_le_iff.1 (le_refl ((store.grantMember moduleKey memberId requested
      createdByUserId).level defaults now (some memberId) role mod).rank)
    refine decide_eq_true (rank_resolve_le_iff.2 ⟨hbound.1, fun grant hgrant hmod hmatch => ?_⟩)
    · by_cases hkey : grant.toGrantKey = memberKey moduleKey memberId
      · -- the grant that was replaced
        have hle := of_decide_eq_true (hold grant (hkey ▸ find?_key hgrant))
        exact hle.trans (hraised _ _ _ _ (hmod.symm.trans (congrArg GrantKey.moduleKey hkey)))
      · exact hbound.2 grant ((mem_grantMember_of_ne hkey).2 hgrant) hmod hmatch
  · exact decide_eq_true (hraised defaults now role mod hmod)
  · -- the same grants count for everybody else
    have hsame : ∀ n, ((store.grantMember moduleKey memberId requested createdByUserId).level
        defaults now other role mod).rank ≤ n ↔
          (store.level defaults now other role mod).rank ≤ n := by
      intro n
      rw [ModuleStore.level, ModuleStore.level, rank_resolve_le_iff, rank_resolve_le_iff]
      refine and_congr Iff.rfl (forall_congr' fun grant => ?_)
      by_cases hkey : grant.toGrantKey = memberKey moduleKey memberId
      · have hnot : ¬ grantMatchesContext grant
            (gatherModuleAccessContext defaults store now other role) :=
          fun hmatch => hother ((grantMatches_member hkey).1 hmatch)
        have hnot' : ¬ grantMatchesContext grant
            (gatherModuleAccessContext defaults (store.grantMember moduleKey memberId requested
              createdByUserId) now other role) :=
          fun hmatch => hother ((grantMatches_member hkey).1 hmatch)
        exact ⟨fun _ _ _ hmatch => absurd hmatch hnot, fun _ _ _ hmatch => absurd hmatch hnot'⟩
      · exact imp_congr (mem_grantMember_of_ne hkey) Iff.rfl
    exact ModuleAccessLevel.rank_injective (le_antisymm ((hsame _).2 le_rfl) ((hsame _).1 le_rfl))

end Corgtex.Domain.ModuleAccess
